import StateTransition.Scenario
import StateTransition.Scenario.Assembler

namespace StateTransition.Scenario.Suite.ChainNumber

def code : Bytes :=
  assemble [.operation .chainid, .push 1#256, .operation .sstore, .operation .stop]

def plan (rules : Rules) (chainId : UInt64) : Except SetupError Plan :=
  Plan.ofAllocation { gasLimit := 10000000, chainId } do
    let contract ← Allocation.deploy { code }
    let sender ← Allocation.fund 1000000000000000000#256
    let draft : TransactionDraft :=
      { TransactionDraft.call sender.address contract with gasLimit := 100000 }
    let transaction ← Allocation.complete draft rules chainId
    let slots := SortedMap.ofList [(1#256, Word.ofNat chainId.toNat)]
    return (transaction, SortedMap.ofList [(contract, .present { storage := some slots })])

def scenario : Scenario := ⟨"env/chainid", .starting .istanbul, plan⟩

end StateTransition.Scenario.Suite.ChainNumber
