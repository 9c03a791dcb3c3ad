import StateTransition.SortedMap
import StateTransition.Text.Hex

namespace StateTransition

inductive Param where
  | txBase
  | txCreate
  | txDataZero
  | txDataNonZero
  | accessListAddress
  | accessListStorageKey
  | initCodeWord
  | maxInitCodeSize
  | txTypeAccessList
  | txTypeDynamicFee
  | replayProtection
  | callStipend
  | callValueTransfer
  | callNewAccount
  | coldAccountAccess
  | coldSload
  | warmStorageRead
  | callDepthLimit
  | allButOne64th
  | emptyAccountCleanup
  | warmCoinbase
  | sstoreSet
  | sstoreReset
  | sstoreClearRefund
  | sstoreSentry
  | netSstoreMetering
  | sstoreNoop
  | codeDepositByte
  | maxCodeSize
  | createDepositOogFails
  | rejectEfCode
  | expByte
  | memoryWord
  | copyWord
  | keccakWord
  | logData
  | blockhashWindow
  | selfdestructRefund
  | selfdestructNewAccount
  | selfdestructSameTxOnly
  | maxRefundQuotient
  | baseFee
  | prevrandao
  | opcode (byte : UInt8)
  deriving DecidableEq, Repr

namespace Param

def named : List (Param × String) :=
  [(txBase, "TxBase"), (txCreate, "TxCreate"), (txDataZero, "TxDataZero"),
   (txDataNonZero, "TxDataNonZero"), (accessListAddress, "AccessListAddress"),
   (accessListStorageKey, "AccessListStorageKey"), (initCodeWord, "InitCodeWord"),
   (maxInitCodeSize, "MaxInitCodeSize"), (txTypeAccessList, "TxTypeAccessList"),
   (txTypeDynamicFee, "TxTypeDynamicFee"), (replayProtection, "ReplayProtection"),
   (callStipend, "CallStipend"), (callValueTransfer, "CallValueTransfer"),
   (callNewAccount, "CallNewAccount"), (coldAccountAccess, "ColdAccountAccess"),
   (coldSload, "ColdSload"), (warmStorageRead, "WarmStorageRead"),
   (callDepthLimit, "CallDepthLimit"), (allButOne64th, "AllButOne64th"),
   (emptyAccountCleanup, "EmptyAccountCleanup"), (warmCoinbase, "WarmCoinbase"),
   (sstoreSet, "SstoreSet"), (sstoreReset, "SstoreReset"),
   (sstoreClearRefund, "SstoreClearRefund"), (sstoreSentry, "SstoreSentry"),
   (netSstoreMetering, "NetSstoreMetering"), (sstoreNoop, "SstoreNoop"),
   (codeDepositByte, "CodeDepositByte"), (maxCodeSize, "MaxCodeSize"),
   (createDepositOogFails, "CreateDepositOogFails"), (rejectEfCode, "RejectEfCode"),
   (expByte, "ExpByte"), (memoryWord, "MemoryWord"), (copyWord, "CopyWord"),
   (keccakWord, "KeccakWord"), (logData, "LogData"), (blockhashWindow, "BlockhashWindow"),
   (selfdestructRefund, "SelfdestructRefund"), (selfdestructNewAccount, "SelfdestructNewAccount"),
   (selfdestructSameTxOnly, "SelfdestructSameTxOnly"), (maxRefundQuotient, "MaxRefundQuotient"),
   (baseFee, "BaseFee"), (prevrandao, "Prevrandao")]

def rank : Param → Nat
  | txBase => 0
  | txCreate => 1
  | txDataZero => 2
  | txDataNonZero => 3
  | accessListAddress => 4
  | accessListStorageKey => 5
  | initCodeWord => 6
  | maxInitCodeSize => 7
  | txTypeAccessList => 8
  | txTypeDynamicFee => 9
  | replayProtection => 10
  | callStipend => 11
  | callValueTransfer => 12
  | callNewAccount => 13
  | coldAccountAccess => 14
  | coldSload => 15
  | warmStorageRead => 16
  | callDepthLimit => 17
  | allButOne64th => 18
  | emptyAccountCleanup => 19
  | warmCoinbase => 20
  | sstoreSet => 21
  | sstoreReset => 22
  | sstoreClearRefund => 23
  | sstoreSentry => 24
  | netSstoreMetering => 25
  | sstoreNoop => 26
  | codeDepositByte => 27
  | maxCodeSize => 28
  | createDepositOogFails => 29
  | rejectEfCode => 30
  | expByte => 31
  | memoryWord => 32
  | copyWord => 33
  | keccakWord => 34
  | logData => 35
  | blockhashWindow => 36
  | selfdestructRefund => 37
  | selfdestructNewAccount => 38
  | selfdestructSameTxOnly => 39
  | maxRefundQuotient => 40
  | baseFee => 41
  | prevrandao => 42
  | opcode byte => 43 + byte.toNat

def count : Nat := 299

theorem rank_lt (param : Param) : param.rank < count := by
  cases param with
  | opcode byte => have := byte.toNat_lt; simp only [rank, count]; omega
  | _ => decide

def ofRank? (rank : Nat) : Option Param :=
  if rank < 43 then named[rank]?.map Prod.fst else some (opcode (UInt8.ofNat (rank - 43)))

theorem ofRank?_rank (param : Param) : ofRank? param.rank = some param := by
  cases param with
  | opcode byte => simp [ofRank?, rank, show ¬ 43 + byte.toNat < 43 by omega]
  | _ => rfl

theorem rank_injective {a b : Param} (same : a.rank = b.rank) : a = b := by
  have := ofRank?_rank a
  rw [same, ofRank?_rank] at this
  exact (Option.some.inj this).symm

instance : Key Param := ⟨rank, rank_injective⟩

def text (param : Param) : String :=
  match param with
  | opcode byte => "opcode 0x" ++ Hex.encode [byte]
  | other => (named.find? fun entry => entry.1 = other).elim "" Prod.snd

def ofName? (name : String) : Option Param :=
  (named.find? fun entry => entry.2 = name).map Prod.fst

end Param

end StateTransition
