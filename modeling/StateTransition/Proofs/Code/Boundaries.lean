import StateTransition.Evm.Code

/-!
Where instructions begin. The scan of code that marks the destinations of jumps counts operand bytes
down; the boundaries are what it finds without operand bytes to come. So exactly the boundaries that
hold `0x5b` are marked.
-/

namespace StateTransition.Evm.Code

/-- The positions an instruction begins at, when one begins at `first`: after each instruction and
its operand bytes the next one begins. Behind the last byte there may be one more position. -/
inductive ReachedFrom (bytes : Bytes) (first : Nat) : Nat → Prop where
  | first : ReachedFrom bytes first first
  | next {position : Nat} {byte : UInt8} (reached : ReachedFrom bytes first position)
      (holds : bytes[position]? = some byte) :
      ReachedFrom bytes first (position + 1 + operandSize byte)

abbrev IsBoundary (bytes : Bytes) (position : Nat) : Prop := ReachedFrom bytes 0 position

/-- A boundary where a jump may lead to. -/
def IsJumpdest (bytes : Bytes) (position : Nat) : Prop :=
  IsBoundary bytes position ∧ bytes[position]? = some 0x5b

def IsOperand (bytes : Bytes) (position : Nat) : Prop :=
  ∃ start byte, IsBoundary bytes start ∧ bytes[start]? = some byte ∧ start < position ∧
    position < start + 1 + operandSize byte

namespace ReachedFrom

variable {bytes rest : Bytes} {byte : UInt8} {first position : Nat}

theorem first_le (reached : ReachedFrom bytes first position) : first ≤ position := by
  induction reached with
  | first => exact Nat.le_refl _
  | next _ _ ih => omega

theorem eq_of_beyond (reached : ReachedFrom bytes first position) (beyond : bytes[first]? = none) :
    position = first := by
  induction reached with
  | first => rfl
  | next _ holds ih =>
    rw [ih, beyond] at holds
    cases holds

theorem cons (reached : ReachedFrom rest first position) :
    ReachedFrom (byte :: rest) (first + 1) (position + 1) := by
  induction reached with
  | first => exact .first
  | @next position byte _ holds ih =>
    rw [Nat.add_right_comm (position + 1)]
    exact ih.next holds

theorem exists_of_succ (reached : ReachedFrom (byte :: rest) (first + 1) position) :
    ∃ below, position = below + 1 ∧ ReachedFrom rest first below := by
  induction reached with
  | first => exact ⟨first, rfl, .first⟩
  | next _ holds ih =>
    obtain ⟨below, rfl, reached⟩ := ih
    exact ⟨_, Nat.add_right_comm _ _ _, reached.next holds⟩

theorem cons_succ_iff :
    ReachedFrom (byte :: rest) (first + 1) (position + 1) ↔ ReachedFrom rest first position := by
  constructor
  · intro reached
    obtain ⟨below, same, reached⟩ := reached.exists_of_succ
    cases same
    exact reached
  · exact cons

theorem iff_of_holds (holds : bytes[first]? = some byte) :
    ReachedFrom bytes first position ↔
      position = first ∨ ReachedFrom bytes (first + 1 + operandSize byte) position := by
  constructor
  · intro reached
    induction reached with
    | first => exact .inl rfl
    | next _ found ih =>
      rcases ih with same | later
      · subst same
        rw [holds] at found
        cases found
        exact .inr .first
      · exact .inr (later.next found)
  · rintro (same | later)
    · rw [same]
      exact .first
    · induction later with
      | first => exact .next .first holds
      | next _ found ih => exact ih.next found

theorem cons_zero_succ_iff :
    ReachedFrom (byte :: rest) 0 (position + 1) ↔ ReachedFrom rest (operandSize byte) position := by
  rw [iff_of_holds List.getElem?_cons_zero, Nat.zero_add, Nat.add_comm 1, cons_succ_iff]
  exact or_iff_right (Nat.succ_ne_zero position)

/-- No instruction begins inside the operand bytes of another one. -/
theorem next_le {later : Nat} (reached : ReachedFrom bytes first position)
    (holds : bytes[position]? = some byte) (beyond : ReachedFrom bytes first later)
    (after : position < later) : position + 1 + operandSize byte ≤ later := by
  induction bytes generalizing first position later with
  | nil => cases holds
  | cons head rest ih =>
    obtain ⟨later, rfl⟩ := Nat.exists_eq_add_one_of_ne_zero (Nat.ne_zero_of_lt after)
    cases first with
    | succ first =>
      obtain ⟨below, rfl, inner⟩ := reached.exists_of_succ
      have skipped := ih inner holds (cons_succ_iff.mp beyond) (Nat.lt_of_succ_lt_succ after)
      omega
    | zero =>
      have beyond := cons_zero_succ_iff.mp beyond
      cases position with
      | zero =>
        cases holds
        have skipped := beyond.first_le
        omega
      | succ position =>
        have skipped := ih (cons_zero_succ_iff.mp reached) holds beyond
          (Nat.lt_of_succ_lt_succ after)
        omega

theorem not_isOperand (boundary : IsBoundary bytes position) : ¬ IsOperand bytes position := by
  rintro ⟨start, byte, reached, holds, after, before⟩
  exact Nat.not_lt.mpr (reached.next_le holds boundary after) before

end ReachedFrom

theorem foldl_scan (bytes : Bytes) (pending : Nat) (marks : Array Bool) :
    ∃ found : List Bool, (bytes.foldl scan (pending, marks)).2 = marks ++ found.toArray ∧
      ∀ position, found[position]? = some true ↔
        ReachedFrom bytes pending position ∧ bytes[position]? = some 0x5b := by
  induction bytes generalizing pending marks with
  | nil => exact ⟨[], by simp, by simp⟩
  | cons byte rest ih =>
    rw [List.foldl_cons, scan]
    cases pending with
    | zero =>
      obtain ⟨found, run, marked⟩ := ih (operandSize byte) (marks.push (byte == 0x5b))
      refine ⟨(byte == 0x5b) :: found, by simp [run], ?_⟩
      intro position
      cases position with
      | zero => simp [ReachedFrom.first]
      | succ position => simp [marked, ReachedFrom.cons_zero_succ_iff]
    | succ pending =>
      obtain ⟨found, run, marked⟩ := ih pending (marks.push false)
      refine ⟨false :: found, by simp [run], ?_⟩
      intro position
      cases position with
      | zero =>
        have never : ¬ ReachedFrom (byte :: rest) (pending + 1) 0 := fun reached =>
          Nat.not_succ_le_zero _ reached.first_le
        simp [never]
      | succ position => simp [marked, ReachedFrom.cons_succ_iff]

/-- Jumps may lead to the boundaries that hold `0x5b` and nowhere else. -/
theorem isDestination_ofBytes_iff (bytes : Bytes) (position : Nat) :
    (ofBytes bytes).isDestination position = true ↔ IsJumpdest bytes position := by
  obtain ⟨found, run, marked⟩ := foldl_scan bytes 0 #[]
  rw [IsJumpdest, ← marked, isDestination, ofBytes, run, Array.empty_append,
    Array.getD_eq_getD_getElem?, List.getElem?_toArray]
  cases found[position]? <;> simp

theorem IsJumpdest.lt_length {bytes : Bytes} {position : Nat} (found : IsJumpdest bytes position) :
    position < bytes.length :=
  (List.getElem?_eq_some_iff.mp found.2).1

theorem isJumpdest_saturated_iff {bytes : Bytes} (fits : bytes.length < UInt64.size)
    (position : Nat) :
    IsJumpdest bytes (min position (UInt64.size - 1)) ↔ IsJumpdest bytes position := by
  by_cases small : position < UInt64.size
  · rw [Nat.min_eq_left (Nat.le_sub_one_of_lt small)]
  · constructor
    · intro found
      have := found.lt_length
      omega
    · intro found
      have := found.lt_length
      omega

end StateTransition.Evm.Code
