import StateTransition.Word

/-!
Words by key, where a key that is not stored holds zero. Zero itself is never stored, so slots that
read the same on every key are equal (`Slots.ext`), and a write is undone by writing back what was
there (`Slots.set_set_get`).
-/

namespace StateTransition

structure Slots (κ : Type) [Key κ] where
  entries : SortedMap κ Word
  nonzero : ∀ key, entries.get? key ≠ some 0#256

namespace Slots

variable {κ : Type} [Key κ]

instance [DecidableEq κ] : DecidableEq (Slots κ) := fun a b =>
  if same : a.entries = b.entries then isTrue (by cases a; cases b; cases same; rfl)
  else isFalse fun equal => same (equal ▸ rfl)

instance [Repr κ] : Repr (Slots κ) := ⟨fun slots _ => repr slots.entries⟩

def empty : Slots κ := ⟨SortedMap.empty, fun key => by simp⟩

instance : EmptyCollection (Slots κ) := ⟨empty⟩
instance : Inhabited (Slots κ) := ⟨empty⟩

def toList (slots : Slots κ) : List (κ × Word) := slots.entries.toList

def get (slots : Slots κ) (key : κ) : Word := (slots.entries.get? key).getD 0#256

/-- Writing zero removes the slot. -/
def set (slots : Slots κ) (key : κ) (value : Word) : Slots κ :=
  if zero : value = 0#256 then
    ⟨slots.entries.erase key, fun other => by
      rw [SortedMap.get?_erase]
      split
      · simp
      · exact slots.nonzero other⟩
  else
    ⟨slots.entries.insert key value, fun other => by
      rw [SortedMap.get?_insert]
      split
      · simpa using zero
      · exact slots.nonzero other⟩

theorem get?_eq (slots : Slots κ) (key : κ) :
    slots.entries.get? key = if slots.get key = 0#256 then none else some (slots.get key) := by
  have stored := slots.nonzero key
  rw [get]
  cases held : slots.entries.get? key with
  | none => simp
  | some value =>
    rw [held] at stored
    have nonzero : value ≠ 0#256 := fun zero => stored (congrArg some zero)
    simp [nonzero]

theorem get_set (slots : Slots κ) (key other : κ) (value : Word) :
    (slots.set key value).get other =
      if Key.rank key = Key.rank other then value else slots.get other := by
  rw [set, get, get]
  split
  · rename_i zero
    rw [SortedMap.get?_erase, zero]
    split <;> rfl
  · rw [SortedMap.get?_insert]
    split <;> rfl

@[ext] theorem ext {left right : Slots κ} (same : ∀ key, left.get key = right.get key) :
    left = right := by
  have entries : left.entries = right.entries := by
    ext1 key
    rw [get?_eq, get?_eq, same key]
  cases left; cases right; cases entries; rfl

theorem set_set_get (slots : Slots κ) (key : κ) (value : Word) :
    (slots.set key value).set key (slots.get key) = slots := by
  ext1 other
  rw [get_set, get_set]
  split
  · rename_i same
    rw [Key.rank_injective same]
  · rfl

end Slots

end StateTransition
