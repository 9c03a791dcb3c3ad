import StateTransition.Proofs.Instruction.Accesses

namespace StateTransition.Evm

namespace Exec

variable {α β : Type} {machine : Machine}

theorem bind_of_ok {action : Exec α} {next : α → Exec β} {answer : α} {after : Machine}
    (run : action machine = .ok answer after) : (action >>= next) machine = next answer after := by
  simp only [bind, EStateM.bind, run]

theorem bind_of_error {action : Exec α} {next : α → Exec β} {reason : Halt} {halted : Machine}
    (run : action machine = .error reason halted) :
    (action >>= next) machine = .error reason halted := by
  simp only [bind, EStateM.bind, run]

theorem onStack_of_ok {action : StackAction α} {answer : α} {stack : Stack}
    (run : action machine.frame.stack = .ok answer stack) :
    onStack action machine = .ok answer { machine with frame := { machine.frame with stack } } := by
  rw [onStack, run]

theorem pop_of_items {word : Word} {rest : List Word}
    (items : machine.frame.stack.toList = word :: rest) :
    ∃ stack : Stack, stack.toList = rest ∧
      pop machine = .ok word { machine with frame := { machine.frame with stack } } := by
  obtain ⟨popped, left⟩ := Stack.pop_of_toList items
  exact ⟨_, left, onStack_of_ok popped⟩

theorem popMany_operands {operands rest : List Word} (count : Nat)
    (items : machine.frame.stack.toList = operands ++ rest) (counted : operands.length = count)
    (some : 0 < count) :
    ∃ (words : Vector Word count) (stack : Stack),
      (∀ place : Fin count, operands[place.val]? = .some words[place.val]) ∧
      popMany count machine =
        .ok words { machine with frame := { machine.frame with stack } } ∧
      ∀ result : Word, ∃ pushed,
        Stack.push result stack = .ok () pushed ∧ pushed.toList = result :: rest := by
  subst counted
  have held : machine.frame.stack.toList.length = operands.length + rest.length := by
    rw [items, List.length_append]
  have enough : operands.length ≤ machine.frame.stack.size := by
    rw [Stack.size, ← Stack.length_toList, held]
    exact Nat.le_add_right _ _
  obtain ⟨words, popped, -⟩ := Stack.popMany_of_le enough
  refine ⟨words, machine.frame.stack.dropTop operands.length, ?_, onStack_of_ok popped, ?_⟩
  · intro place
    rw [← Stack.getElem?_of_popMany popped place, items, List.getElem?_append_left place.isLt]
  · intro result
    have kept : (machine.frame.stack.dropTop operands.length).toList = rest := by
      rw [Stack.toList_dropTop, items, List.drop_left]
    have bound := Stack.length_toList_le machine.frame.stack
    rw [← kept]
    apply Stack.push_of_length_lt
    rw [kept]
    omega

end Exec

end StateTransition.Evm
