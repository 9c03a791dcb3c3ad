import StateTransition.Scenario
import StateTransition.Scenario.Assembler

namespace StateTransition.Scenario.Suite.AccessList

def code : Bytes :=
  assemble [.operation .pc, .operation .sload, .operation .pop, .operation .pc, .operation .sload]

def balance : Nat := 0x300000

def gasPrice : Nat := 7

def gasUsed : Nat := 29506

def draft (sender : FundedAccount) (contract : Address) : TransactionDraft :=
  { TransactionDraft.call sender.address contract with
    type := .accessList
    value := 1#256
    gasLimit := 323328
    gasPrice := Word.ofNat gasPrice
    accessList := [⟨Address.zero, [Hash256.zero]⟩]
    key := some sender.key }

def plan (rules : Rules) (chainId : UInt64) : Except SetupError Plan :=
  Plan.ofAllocation { chainId } do
    let contract ← Allocation.deploy { code, balance := 3#256, nonce := 1 }
    let sender ← Allocation.fund (Word.ofNat balance)
    let transaction ← Allocation.complete (draft sender contract) rules chainId
    let left := Word.ofNat (balance - 1 - gasUsed * gasPrice)
    return (transaction, SortedMap.ofList
      [(contract, .present { balance := some 4#256, nonce := some 1, code := some code }),
       (sender.address, .present { balance := some left, nonce := some 1 })])

def scenario : Scenario := ⟨"transactions/access_list", .starting .berlin, plan⟩

end StateTransition.Scenario.Suite.AccessList
