import StateTransition.Address
import StateTransition.Rlp.Encoding
import StateTransition.Digest.Keccak

/-!
Transactions of the three kinds, their fees, and the bytes a sender signs. Legacy transactions may
commit to a chain; the two later kinds always do, and stand behind an envelope byte.
-/

namespace StateTransition

structure AccessListItem where
  address : Address
  storageKeys : List Hash256
  deriving DecidableEq, Repr

inductive TransactionKind where
  | legacy (gasPrice : Word) (chainId : Option UInt64)
  | accessList (chainId : UInt64) (gasPrice : Word) (items : List AccessListItem)
  | dynamicFee (chainId : UInt64) (maxPriorityFee maxFee : Word) (items : List AccessListItem)
  deriving DecidableEq, Repr

structure Transaction where
  nonce : UInt64
  gasLimit : UInt64
  recipient : Option Address
  value : Word
  data : Bytes
  kind : TransactionKind
  deriving DecidableEq, Repr

namespace Transaction

def typeNumber (tx : Transaction) : UInt8 :=
  match tx.kind with
  | .legacy .. => 0
  | .accessList .. => 1
  | .dynamicFee .. => 2

def isLegacy (tx : Transaction) : Bool := tx.typeNumber == 0

def envelope (tx : Transaction) : Option UInt8 := if tx.isLegacy then none else some tx.typeNumber

def isCreate (tx : Transaction) : Bool := tx.recipient.isNone

def accessList (tx : Transaction) : List AccessListItem :=
  match tx.kind with
  | .legacy .. => []
  | .accessList _ _ items => items
  | .dynamicFee _ _ _ items => items

def chainId (tx : Transaction) : Option UInt64 :=
  match tx.kind with
  | .legacy _ chainId => chainId
  | .accessList chainId .. => some chainId
  | .dynamicFee chainId .. => some chainId

def maxFee (tx : Transaction) : Word :=
  match tx.kind with
  | .legacy gasPrice _ => gasPrice
  | .accessList _ gasPrice _ => gasPrice
  | .dynamicFee _ _ maxFee _ => maxFee

/-- The price at a base fee; nothing where a dynamic fee cannot meet the base fee. -/
def effectiveGasPrice (tx : Transaction) (baseFee : Word) : Option Word :=
  match tx.kind with
  | .legacy gasPrice _ => some gasPrice
  | .accessList _ gasPrice _ => some gasPrice
  | .dynamicFee _ maxPriorityFee maxFee _ =>
    if maxFee < baseFee then none
    else
      let room := maxFee - baseFee
      some (baseFee + if maxPriorityFee ≤ room then maxPriorityFee else room)

def recipientItem (tx : Transaction) : Rlp.Item :=
  .data (tx.recipient.elim [] Address.toBytes)

def accessListEntry (item : AccessListItem) : Rlp.Item :=
  .list [.data item.address.toBytes, .list (item.storageKeys.map fun key => .data key.toBytes)]

def callItems (tx : Transaction) : List Rlp.Item :=
  [tx.recipientItem, Rlp.number tx.value.toNat, .data tx.data]

def fields (tx : Transaction) : List Rlp.Item :=
  match tx.kind with
  | .legacy gasPrice _ =>
    [Rlp.number tx.nonce.toNat, Rlp.number gasPrice.toNat, Rlp.number tx.gasLimit.toNat] ++
      tx.callItems
  | .accessList chainId gasPrice items =>
    [Rlp.number chainId.toNat, Rlp.number tx.nonce.toNat, Rlp.number gasPrice.toNat,
     Rlp.number tx.gasLimit.toNat] ++ tx.callItems ++ [.list (items.map accessListEntry)]
  | .dynamicFee chainId maxPriorityFee maxFee items =>
    [Rlp.number chainId.toNat, Rlp.number tx.nonce.toNat, Rlp.number maxPriorityFee.toNat,
     Rlp.number maxFee.toNat, Rlp.number tx.gasLimit.toNat] ++ tx.callItems ++
      [.list (items.map accessListEntry)]

/-- A legacy transaction that commits to a chain signs its number and two zeros as well. -/
def chainMark (tx : Transaction) : List Rlp.Item :=
  match tx.kind with
  | .legacy _ (some chainId) => [Rlp.number chainId.toNat, Rlp.number 0, Rlp.number 0]
  | _ => []

def enveloped (tx : Transaction) (items : List Rlp.Item) : Bytes :=
  tx.envelope.toList ++ (Rlp.Item.list items).encode

def signingPayload (tx : Transaction) : Bytes := tx.enveloped (tx.fields ++ tx.chainMark)

def signingHash (tx : Transaction) : Hash256 := keccak256 tx.signingPayload

end Transaction

end StateTransition
