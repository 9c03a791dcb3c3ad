import StateTransition.Environment
import StateTransition.Scenario.Expectation
import StateTransition.Scenario.TransactionDraft

namespace StateTransition

structure Scenario.Plan where
  environment : Environment
  before : World
  transaction : SignedTransaction
  expected : Scenario.ExpectedWorld

structure Scenario where
  name : String
  range : ForkRange
  plan : Rules → UInt64 → Except Scenario.SetupError Scenario.Plan

namespace Scenario

def appliesTo (scenario : Scenario) (fork : Fork) : Bool := scenario.range.contains fork

namespace Allocation

def complete (draft : TransactionDraft) (rules : Rules) (chainId : UInt64) :
    Allocation SignedTransaction := fun allocator =>
  match draft.complete allocator rules chainId with
  | .ok signed => .ok signed allocator
  | .error cause => .error cause allocator

def ofExcept {α : Type} (result : Except SetupError α) : Allocation α := fun allocator =>
  match result with
  | .ok value => .ok value allocator
  | .error cause => .error cause allocator

end Allocation

def Plan.ofAllocation (environment : Environment)
    (allocation : Allocation (SignedTransaction × ExpectedWorld)) : Except SetupError Plan :=
  match allocation {} with
  | .ok (transaction, expected) allocator =>
    .ok ⟨environment, allocator.world, transaction, expected⟩
  | .error cause _ => .error cause

/-- Legacy transactions commit to their chain from Byzantium on. -/
def canCommit (rules : Rules) : Bool := Fork.byzantium ≤ rules.fork

end Scenario

end StateTransition
