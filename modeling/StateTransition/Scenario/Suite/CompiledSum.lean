import StateTransition.Scenario
import StateTransition.Scenario.CompiledCode

namespace StateTransition.Scenario.Suite.CompiledSum

def balance : Word := 0x0ba1a9ce0ba1a9ce#256

def plan (rules : Rules) (chainId : UInt64) : Except SetupError Plan :=
  Plan.ofAllocation { chainId } do
    let code ← Allocation.ofExcept (CompiledCode.addAndStore.atFork rules)
    let contract ← Allocation.deploy { code, balance }
    let sender ← Allocation.fund balance
    let draft : TransactionDraft :=
      { TransactionDraft.call sender.address contract with
        gasLimit := 500000
        isProtected := canCommit rules }
    let transaction ← Allocation.complete draft rules chainId
    let slots := SortedMap.ofList [(0#256, 3#256)]
    return (transaction, SortedMap.ofList [(contract, .present { storage := some slots })])

def scenario : Scenario := ⟨"compiled/add_and_store", .starting .homestead, plan⟩

end StateTransition.Scenario.Suite.CompiledSum
