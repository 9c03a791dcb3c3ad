import StateTransition.Scenario
import StateTransition.Scenario.Assembler

namespace StateTransition.Scenario.Suite.StackCopy

def numbers : List Nat := List.range 17

def code (depth : Fin 16) : Bytes :=
  assemble <|
    (numbers.map fun value => .push (Word.ofNat value)) ++ [.operation (.dup depth)] ++
    numbers.flatMap fun slot => [.push (Word.ofNat slot), .operation .sstore]

def storage (depth : Fin 16) : List (Word × Word) :=
  (0#256, Word.ofNat (16 - depth.val)) ::
    (List.range' 1 16).map fun slot => (Word.ofNat slot, Word.ofNat (17 - slot))

def balance : Word := 0x0ba1a9ce0ba1a9ce#256

def plan (depth : Fin 16) (rules : Rules) (chainId : UInt64) : Except SetupError Plan :=
  Plan.ofAllocation { chainId } do
    let contract ← Allocation.deploy { code := code depth }
    let sender ← Allocation.fund balance
    let draft : TransactionDraft :=
      { TransactionDraft.call sender.address contract with
        gasLimit := 500000
        isProtected := canCommit rules }
    let transaction ← Allocation.complete draft rules chainId
    return (transaction, SortedMap.ofList
      [(contract, .present { storage := some (SortedMap.ofList (storage depth)) }),
       (sender.address, .present { nonce := some 1 })])

def scenarios : List Scenario :=
  (List.finRange 16).map fun depth =>
    ⟨"stack/DUP" ++ toString (depth.val + 1), .every, plan depth⟩

end StateTransition.Scenario.Suite.StackCopy
