import StateTransition.Evm.Stack

namespace StateTransition.Evm.Stack

variable {stack rest : Stack} {word : Word} {count depth : Nat}

@[simp] theorem length_toList (stack : Stack) : stack.toList.length = stack.items.size := by
  simp [toList]

theorem length_toList_le (stack : Stack) : stack.toList.length ≤ stackLimit := by
  simpa [toList] using stack.bounded

theorem ext_toList {left right : Stack} (same : left.toList = right.toList) : left = right := by
  have items : left.items = right.items := Array.toList_inj.mp (List.reverse_inj.mp same)
  cases left
  cases right
  cases items
  rfl

theorem getElem?_toList {place : Nat} (present : place < stack.items.size)
    (reached : stack.items.size - 1 - place < stack.items.size) :
    stack.toList[place]? = some stack.items[stack.items.size - 1 - place] := by
  rw [toList, List.getElem?_reverse (by simpa using present), Array.getElem?_toList,
    Array.length_toList, Array.getElem?_eq_getElem]

theorem toList_dropTop (stack : Stack) (count : Nat) :
    (stack.dropTop count).toList = stack.toList.drop count := by
  simp [toList, dropTop, List.drop_reverse]

theorem size_dropTop (stack : Stack) (count : Nat) :
    (stack.dropTop count).size = stack.size - count := by
  simp [size, dropTop]

theorem dropTop_size (stack : Stack) : stack.dropTop stack.size = empty := by
  apply ext_toList
  rw [toList_dropTop, size, ← length_toList, List.drop_length]
  rfl

theorem dropTop_dropTop (stack : Stack) (first second : Nat) :
    (stack.dropTop first).dropTop second = stack.dropTop (first + second) := by
  apply ext_toList
  rw [toList_dropTop, toList_dropTop, toList_dropTop, List.drop_drop]

theorem push_of_length_lt (word : Word) (room : stack.toList.length < stackLimit) :
    ∃ pushed, push word stack = .ok () pushed ∧ pushed.toList = word :: stack.toList := by
  have space : stack.items.size < stackLimit := by simpa using room
  rw [push, dif_pos space]
  exact ⟨_, rfl, by simp [toList]⟩

theorem pop_of_toList {items : List Word} (held : stack.toList = word :: items) :
    pop stack = .ok word (stack.dropTop 1) ∧ (stack.dropTop 1).toList = items := by
  have length : stack.items.size = items.length + 1 := by
    rw [← length_toList, held, List.length_cons]
  have present : 0 < stack.items.size := length ▸ Nat.succ_pos _
  have top := getElem?_toList present (by omega)
  rw [held, List.getElem?_cons_zero, Option.some_inj] at top
  rw [pop, dif_pos present, toList_dropTop, held]
  simp [top]

theorem toList_of_pop (run : pop stack = .ok word rest) : stack.toList = word :: rest.toList := by
  cases held : stack.toList with
  | nil =>
    have none : stack.items.size = 0 := by rw [← length_toList, held, List.length_nil]
    rw [pop, dif_neg (by omega)] at run
    cases run
  | cons top items =>
    obtain ⟨popped, left⟩ := pop_of_toList held
    rw [popped] at run
    cases run
    rw [left]

theorem pop_empty : pop empty = .error .stackUnderflow empty := rfl

theorem popEach_of_le (enough : count ≤ stack.size) :
    ∃ words, popEach count stack = .ok words (stack.dropTop count) ∧
      words.toList = stack.toList.take count := by
  induction count with
  | zero =>
    have same : stack.dropTop 0 = stack := ext_toList (toList_dropTop stack 0)
    exact ⟨#v[], by rw [same]; rfl, by simp⟩
  | succ count ih =>
    obtain ⟨words, taken, listed⟩ := ih (Nat.le_of_succ_le enough)
    have inside : count < stack.toList.length := by rwa [length_toList]
    have held : (stack.dropTop count).toList =
        stack.toList[count] :: stack.toList.drop (count + 1) := by
      rw [toList_dropTop, List.drop_eq_getElem_cons inside]
    obtain ⟨popped, -⟩ := pop_of_toList held
    rw [dropTop_dropTop] at popped
    refine ⟨words.push stack.toList[count], ?_, ?_⟩
    · simp only [popEach, bind, EStateM.bind, taken, popped]
      rfl
    · rw [Vector.toList_push, listed, List.take_append_getElem inside]

/-- Where items run out, all of them are gone. -/
theorem popEach_of_lt (few : stack.size < count) :
    popEach count stack = .error .stackUnderflow empty := by
  induction count with
  | zero => cases few
  | succ count ih =>
    by_cases last : count ≤ stack.size
    · obtain ⟨words, taken, -⟩ := popEach_of_le last
      obtain rfl : count = stack.size := Nat.le_antisymm last (Nat.le_of_lt_succ few)
      rw [dropTop_size] at taken
      simp only [popEach, bind, EStateM.bind, taken, pop_empty]
    · simp only [popEach, bind, EStateM.bind, ih (Nat.lt_of_not_le last)]

theorem get_eq (stack : Stack) : (get : StackAction Stack) stack = .ok stack stack := rfl

theorem throw_eq {α : Type} (reason : Halt) (stack : Stack) :
    (throw reason : StackAction α) stack = .error reason stack := rfl

/-- Where there are too few items none is taken. -/
theorem popMany_of_lt (few : stack.size < count) :
    popMany count stack = .error .stackUnderflow stack := by
  have short : stack.items.size < count := few
  simp only [popMany, bind, EStateM.bind, get_eq, if_pos short, throw_eq]

theorem popMany_eq_popEach (enough : count ≤ stack.size) :
    popMany count stack = popEach count stack := by
  have long : ¬ stack.items.size < count := Nat.not_lt.mpr enough
  simp only [popMany, bind, EStateM.bind, get_eq, if_neg long]

theorem popMany_of_le (enough : count ≤ stack.size) :
    ∃ words, popMany count stack = .ok words (stack.dropTop count) ∧
      words.toList = stack.toList.take count := by
  rw [popMany_eq_popEach enough]
  exact popEach_of_le enough

theorem toList_of_popEach {words : Vector Word count} (run : popEach count stack = .ok words rest) :
    words.toList = stack.toList.take count ∧ rest = stack.dropTop count := by
  by_cases enough : count ≤ stack.size
  · obtain ⟨taken, popped, listed⟩ := popEach_of_le enough
    rw [popped] at run
    cases run
    exact ⟨listed, rfl⟩
  · rw [popEach_of_lt (Nat.lt_of_not_le enough)] at run
    cases run

theorem toList_of_popMany {words : Vector Word count} (run : popMany count stack = .ok words rest) :
    words.toList = stack.toList.take count ∧ rest = stack.dropTop count := by
  by_cases enough : count ≤ stack.size
  · rw [popMany_eq_popEach enough] at run
    exact toList_of_popEach run
  · rw [popMany_of_lt (Nat.lt_of_not_le enough)] at run
    cases run

theorem getElem?_of_popMany {words : Vector Word count} (run : popMany count stack = .ok words rest)
    (place : Fin count) : stack.toList[place.val]? = some words[place.val] := by
  rw [← List.getElem?_take_of_lt place.isLt, ← (toList_of_popMany run).1]
  simp

end StateTransition.Evm.Stack
