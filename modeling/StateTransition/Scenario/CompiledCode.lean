import StateTransition.Scenario.SetupError

namespace StateTransition.Scenario

instance : Key UInt8 := ⟨UInt8.toNat, UInt8.toNat_inj.1⟩

structure CompiledCode where
  bytes : Bytes
  prices : SortedMap UInt8 UInt64
  deriving DecidableEq, Repr

namespace CompiledCode

def ofPrices (bytes : Bytes) (prices : List (UInt8 × UInt64)) : CompiledCode :=
  ⟨bytes, SortedMap.ofList prices⟩

def checkPrice (rules : Rules) (opcode : UInt8) (compiled : UInt64) : Except SetupError Unit :=
  let actual := rules.value (.opcode opcode)
  if actual = some compiled then .ok () else .error (.gasTableMismatch opcode compiled actual)

/-- The code, if the fork has every price; otherwise the lowest opcode it prices differently. -/
def atFork (code : CompiledCode) (rules : Rules) : Except SetupError Bytes := do
  code.prices.toList.forM fun (opcode, compiled) => checkPrice rules opcode compiled
  return code.bytes

/-- Adds one and two in a subroutine, stores the sum in slot zero and returns a word. -/
def addAndStore : CompiledCode := .ofPrices
  [0x60, 0x09, 0x60, 0x02, 0x60, 0x01, 0x60, 0x12, 0x56, 0x5b, 0x60, 0x00, 0x55, 0x60, 0x20, 0x60,
   0x00, 0xf3, 0x5b, 0x01, 0x90, 0x56]
  [(0x01, 3), (0x55, 0), (0x56, 8), (0x5b, 1), (0x60, 3), (0x90, 3), (0xf3, 0)]

def ofName? (name : String) : Option CompiledCode :=
  if name = "add_and_store" then some addAndStore else none

end CompiledCode

end StateTransition.Scenario
