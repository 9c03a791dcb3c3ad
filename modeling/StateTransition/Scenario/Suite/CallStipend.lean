import StateTransition.Scenario
import StateTransition.Scenario.Assembler

namespace StateTransition.Scenario.Suite.CallStipend

inductive Instruction where
  | call
  | callCode
  deriving DecidableEq, Repr

namespace Instruction

def opcode : Instruction → Evm.Opcode
  | call => .call
  | callCode => .callcode

def name : Instruction → String
  | call => "call"
  | callCode => "callcode"

def neededGas : Instruction → UInt64
  | call => 36620
  | callCode => 11620

end Instruction

def recipient : Address := ⟨0xfeffffffffffffffffffffffffffffffffffffff#160⟩

def calleeCode (instruction : Instruction) : Bytes :=
  assemble <| List.replicate 4 (.push 0#256) ++
    [.push 1#256, .pushAddress recipient, .operation .gas, .operation instruction.opcode]

def callerCode (callee : Address) (gas : UInt64) : Bytes :=
  assemble <| List.replicate 5 (.push 0#256) ++
    [.pushAddress callee, .push (Word.ofNat gas.toNat), .operation .call, .push 0#256,
     .operation .sstore]

def movedFunds (instruction : Instruction) (callee : Address) (succeeds : Bool) :
    List (Address × Expectation) :=
  match instruction with
  | .callCode => []
  | .call =>
    if succeeds then
      [(callee, .present { balance := some 2#256 }),
       (recipient, .present { balance := some 1#256 })]
    else [(callee, .present { balance := some 3#256 }), (recipient, .absent)]

def plan (instruction : Instruction) (gas : UInt64) (rules : Rules) (chainId : UInt64) :
    Except SetupError Plan :=
  Plan.ofAllocation { chainId } do
    let callee ← Allocation.deploy
      { code := calleeCode instruction, balance := 3#256, nonce := 1 }
    let caller ← Allocation.deploy
      { code := callerCode callee gas, balance := 3#256, nonce := 1 }
    let sender ← Allocation.fund 0x0ba1a9ce#256
    let draft : TransactionDraft :=
      { TransactionDraft.call sender.address caller with value := 1#256, gasLimit := 500000 }
    let transaction ← Allocation.complete draft rules chainId
    let succeeds : Bool := instruction.neededGas ≤ gas
    let slots := SortedMap.ofList [(0#256, Word.ofBool succeeds)]
    return (transaction, SortedMap.ofList <|
      (caller, .present { balance := some 4#256, storage := some slots }) ::
        movedFunds instruction callee succeeds)

def scenario (instruction : Instruction) (suffix : String) (gas : UInt64) : Scenario :=
  ⟨"calls/stipend_" ++ instruction.name ++ "_" ++ suffix, ⟨.london, some .shanghai⟩,
   plan instruction gas⟩

def scenarios : List Scenario :=
  [.call, .callCode].flatMap fun instruction : Instruction =>
    [scenario instruction "exact" instruction.neededGas,
     scenario instruction "short" (instruction.neededGas - 1)]

end StateTransition.Scenario.Suite.CallStipend
