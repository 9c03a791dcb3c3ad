import StateTransition.Scenario.Suite.AccessList
import StateTransition.Scenario.Suite.CallStipend
import StateTransition.Scenario.Suite.ChainNumber
import StateTransition.Scenario.Suite.CompiledSum
import StateTransition.Scenario.Suite.StackCopy

namespace StateTransition.Scenario.Suite

def all : List Scenario :=
  StackCopy.scenarios ++ [ChainNumber.scenario] ++ CallStipend.scenarios ++
    [AccessList.scenario, CompiledSum.scenario]

end StateTransition.Scenario.Suite
