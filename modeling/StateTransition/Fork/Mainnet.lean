import StateTransition.Fork.Table

namespace StateTransition.Mainnet

def frontierOpcodes : List (UInt8 × UInt64) :=
  [(0x00, 0), (0x01, 3), (0x02, 5), (0x03, 3), (0x04, 5), (0x05, 5), (0x06, 5), (0x07, 5),
   (0x08, 8), (0x09, 8), (0x0a, 10), (0x0b, 5), (0x10, 3), (0x11, 3), (0x12, 3), (0x13, 3),
   (0x14, 3), (0x15, 3), (0x16, 3), (0x17, 3), (0x18, 3), (0x19, 3), (0x1a, 3), (0x20, 30),
   (0x30, 2), (0x31, 20), (0x32, 2), (0x33, 2), (0x34, 2), (0x35, 3), (0x36, 2), (0x37, 3),
   (0x38, 2), (0x39, 3), (0x3a, 2), (0x3b, 20), (0x3c, 20), (0x40, 20), (0x41, 2), (0x42, 2),
   (0x43, 2), (0x44, 2), (0x45, 2), (0x50, 2), (0x51, 3), (0x52, 3), (0x53, 3), (0x54, 50),
   (0x55, 0), (0x56, 8), (0x57, 10), (0x58, 2), (0x59, 2), (0x5a, 2), (0x5b, 1), (0xf0, 32000),
   (0xf1, 40), (0xf2, 40), (0xf3, 0), (0xff, 0)]

def stackOpcodes : List (UInt8 × UInt64) :=
  (List.range 64).map fun i => (UInt8.ofNat (0x60 + i), 3)

/-- `LOG0` to `LOG4` cost 375 and 375 more for each topic. -/
def logOpcodes : List (UInt8 × UInt64) :=
  (List.range 5).map fun topics => (UInt8.ofNat (0xa0 + topics), UInt64.ofNat (375 + 375 * topics))

def opcodePrices (prices : List (UInt8 × UInt64)) : List (Param × UInt64) :=
  prices.map fun (byte, gas) => (.opcode byte, gas)

def frontier : List (Param × UInt64) :=
  [(.txBase, 21000), (.txCreate, 0), (.txDataZero, 4), (.txDataNonZero, 68), (.callStipend, 2300),
   (.callValueTransfer, 9000), (.callNewAccount, 25000), (.callDepthLimit, 1024),
   (.sstoreSet, 20000), (.sstoreReset, 5000), (.sstoreClearRefund, 15000),
   (.codeDepositByte, 200), (.expByte, 10), (.memoryWord, 3), (.copyWord, 3), (.keccakWord, 6),
   (.logData, 8), (.blockhashWindow, 256), (.selfdestructRefund, 24000),
   (.maxRefundQuotient, 2)] ++
  opcodePrices (frontierOpcodes ++ stackOpcodes ++ logOpcodes)

def homestead : List (Param × UInt64) :=
  [(.txCreate, 32000), (.createDepositOogFails, 1), (.opcode 0xf4, 40)]

def byzantium : List (Param × UInt64) :=
  [(.allButOne64th, 1), (.opcode 0x31, 400), (.opcode 0x3b, 700), (.opcode 0x3c, 700),
   (.opcode 0x54, 200), (.opcode 0xf1, 700), (.opcode 0xf2, 700), (.opcode 0xf4, 700),
   (.opcode 0xff, 5000), (.selfdestructNewAccount, 25000), (.replayProtection, 1),
   (.expByte, 50), (.emptyAccountCleanup, 1), (.maxCodeSize, 24576), (.opcode 0xfd, 0),
   (.opcode 0x3d, 2), (.opcode 0x3e, 3), (.opcode 0xfa, 700)]

def constantinople : List (Param × UInt64) :=
  [(.opcode 0x1b, 3), (.opcode 0x1c, 3), (.opcode 0x1d, 3), (.opcode 0xf5, 32000),
   (.opcode 0x3f, 400), (.netSstoreMetering, 1), (.sstoreNoop, 200)]

def constantinopleFix : List (Param × UInt64) := [(.netSstoreMetering, 0)]

def istanbul : List (Param × UInt64) :=
  [(.txDataNonZero, 16), (.netSstoreMetering, 1), (.sstoreNoop, 800), (.sstoreSentry, 2300),
   (.opcode 0x31, 700), (.opcode 0x54, 800), (.opcode 0x3f, 700), (.opcode 0x46, 2),
   (.opcode 0x47, 5)]

/-- Every opcode that reads an account or a slot is priced by access alone. -/
def berlin : List (Param × UInt64) :=
  [(.coldAccountAccess, 2600), (.coldSload, 2100), (.warmStorageRead, 100), (.sstoreNoop, 100),
   (.sstoreReset, 2900), (.accessListAddress, 2400), (.accessListStorageKey, 1900),
   (.txTypeAccessList, 1), (.opcode 0x31, 0), (.opcode 0x3b, 0), (.opcode 0x3c, 0),
   (.opcode 0x3f, 0), (.opcode 0x54, 0), (.opcode 0xf1, 0), (.opcode 0xf2, 0),
   (.opcode 0xf4, 0), (.opcode 0xfa, 0)]

def london : List (Param × UInt64) :=
  [(.sstoreClearRefund, 4800), (.selfdestructRefund, 0), (.maxRefundQuotient, 5),
   (.txTypeDynamicFee, 1), (.rejectEfCode, 1), (.baseFee, 1), (.opcode 0x48, 2)]

def paris : List (Param × UInt64) := [(.prevrandao, 1)]

def shanghai : List (Param × UInt64) :=
  [(.initCodeWord, 2), (.maxInitCodeSize, 49152), (.warmCoinbase, 1), (.opcode 0x5f, 2)]

def cancun : List (Param × UInt64) :=
  [(.selfdestructSameTxOnly, 1), (.opcode 0x5c, 100), (.opcode 0x5d, 100), (.opcode 0x5e, 3),
   (.opcode 0x49, 3), (.opcode 0x4a, 2)]

def assignments : Fork → List (Param × UInt64)
  | .frontier => frontier
  | .homestead => homestead
  | .byzantium => byzantium
  | .constantinople => constantinople
  | .constantinopleFix => constantinopleFix
  | .istanbul => istanbul
  | .berlin => berlin
  | .london => london
  | .paris => paris
  | .shanghai => shanghai
  | .cancun => cancun

def layers : List Layer := Fork.all.map fun fork => .ofList fork (assignments fork)

def table : ForkTable := .ofLayers layers

def rules (fork : Fork) : Rules := table.rules fork

end StateTransition.Mainnet
