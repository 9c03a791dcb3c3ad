import Mathlib.Data.List.Forall2
import Mathlib.Data.Nat.Digits.Defs
import Mathlib.Tactic.Ring
import StateTransition.Quantity

namespace StateTransition.Quantity

def IsDecimalDigit (c : Char) (value : Nat) : Prop := value < 10 ∧ c.toNat = '0'.toNat + value

def IsHexDigit (c : Char) (value : Nat) : Prop :=
  IsDecimalDigit c value ∨ 10 ≤ value ∧ value < 16 ∧
    (c.toNat = 'a'.toNat + (value - 10) ∨ c.toNat = 'A'.toNat + (value - 10))

/-- Digits, the most significant one first, and the number they spell in a base. -/
def Spells (isDigit : Char → Nat → Prop) (base : Nat) (digits : List Char) (number : Nat) : Prop :=
  ∃ values, List.Forall₂ isDigit digits values ∧ number = Nat.ofDigits base values.reverse

theorem decimalDigit?_eq_some_iff {c : Char} {value : Nat} :
    decimalDigit? c = some value ↔ IsDecimalDigit c value := by
  have zero : '0'.toNat = 48 := rfl
  rw [decimalDigit?, IsDecimalDigit, zero]
  split
  · rw [Option.some.injEq]
    omega
  · simp only [reduceCtorEq, false_iff]
    omega

theorem isHexDigit_iff {c : Char} {value : Nat} : IsHexDigit c value ↔
    value < 10 ∧ c.toNat = 48 + value ∨
      10 ≤ value ∧ value < 16 ∧ (c.toNat = 87 + value ∨ c.toNat = 55 + value) := by
  have zero : '0'.toNat = 48 := rfl
  have small : 'a'.toNat = 97 := rfl
  have capital : 'A'.toNat = 65 := rfl
  rw [IsHexDigit, IsDecimalDigit, zero, small, capital]
  omega

theorem IsHexDigit.lt {c : Char} {value : Nat} (digit : IsHexDigit c value) : value < 16 := by
  rw [isHexDigit_iff] at digit
  omega

theorem IsHexDigit.ascii {c : Char} {value : Nat} (digit : IsHexDigit c value) : c.toNat < 128 := by
  rw [isHexDigit_iff] at digit
  omega

theorem digit?_eq_some_iff {byte : UInt8} {c : Char} (same : byte.toNat = c.toNat) {value : Nat} :
    Hex.digit? byte = some value ↔ IsHexDigit c value := by
  rw [isHexDigit_iff, Hex.digit?]
  simp only [same]
  constructor
  · intro read
    split at read
    · cases read
      omega
    · split at read
      · cases read
        omega
      · split at read
        · cases read
          omega
        · cases read
  · rintro (⟨below, code⟩ | ⟨above, below, small | capital⟩)
    · rw [if_pos (by omega), Option.some.injEq]
      omega
    · rw [if_neg (by omega), if_pos (by omega), Option.some.injEq]
      omega
    · rw [if_neg (by omega), if_neg (by omega), if_pos (by omega), Option.some.injEq]
      omega

theorem hexDigit?_eq_some_iff {c : Char} {value : Nat} :
    hexDigit? c = some value ↔ IsHexDigit c value := by
  rw [hexDigit?]
  split
  · rename_i ascii
    apply digit?_eq_some_iff
    rw [UInt8.toNat_ofNat', Nat.mod_eq_of_lt (by omega)]
  · rename_i beyond
    exact ⟨nofun, fun digit => absurd digit.ascii beyond⟩

section Spelling

variable {isDigit : Char → Nat → Prop} {digit? : Char → Option Nat} {base : Nat}

theorem Spells.append_digit {digits : List Char} {number : Nat} {c : Char} {value : Nat}
    (spells : Spells isDigit base digits number) (digit : isDigit c value) :
    Spells isDigit base (digits ++ [c]) (base * number + value) := by
  obtain ⟨values, all, rfl⟩ := spells
  refine ⟨values ++ [value], ?_, ?_⟩
  · exact List.rel_append all (.cons digit .nil)
  · rw [List.reverse_append, List.reverse_singleton, List.singleton_append, Nat.ofDigits_cons,
      Nat.add_comm]

theorem ofDigits_reverse_cons (base start value : Nat) (values : List Nat) :
    start * base ^ (value :: values).length + Nat.ofDigits base (value :: values).reverse =
      (start * base + value) * base ^ values.length + Nat.ofDigits base values.reverse := by
  rw [List.reverse_cons, Nat.ofDigits_append, Nat.ofDigits_singleton, List.length_cons,
    List.length_reverse]
  ring

theorem foldlM_digits (reads : ∀ c value, digit? c = some value ↔ isDigit c value)
    (digits : List Char) (start number : Nat) :
    digits.foldlM (fun value c => (digit? c).map fun d => value * base + d) start = some number ↔
      ∃ values, List.Forall₂ isDigit digits values ∧
        number = start * base ^ values.length + Nat.ofDigits base values.reverse := by
  induction digits generalizing start with
  | nil =>
    simp only [List.foldlM_nil, List.forall₂_nil_left_iff, exists_eq_left, Option.pure_def,
      Option.some.injEq]
    simp [eq_comm]
  | cons c rest ih =>
    rw [List.foldlM_cons]
    constructor
    · intro read
      obtain ⟨next, first, read⟩ := Option.bind_eq_some_iff.mp read
      obtain ⟨value, digit, rfl⟩ := Option.map_eq_some_iff.mp first
      obtain ⟨values, all, rfl⟩ := (ih _).mp read
      exact ⟨value :: values, .cons ((reads c value).mp digit) all,
        (ofDigits_reverse_cons base start value values).symm⟩
    · rintro ⟨_, all, rfl⟩
      obtain ⟨value, values, digit, others, rfl⟩ := List.forall₂_cons_left_iff.mp all
      refine Option.bind_eq_some_iff.mpr ⟨start * base + value, ?_, ?_⟩
      · rw [(reads c value).mpr digit, Option.map_some]
      · exact (ih _).mpr ⟨values, others, ofDigits_reverse_cons base start value values⟩

theorem ofDigits?_eq_some_iff (reads : ∀ c value, digit? c = some value ↔ isDigit c value)
    (digits : List Char) (number : Nat) :
    ofDigits? digit? base digits = some number ↔ Spells isDigit base digits number := by
  rw [ofDigits?, foldlM_digits reads]
  simp only [Nat.zero_mul, Nat.zero_add]
  rfl

theorem spells_toDigits (large : 1 < base)
    (digit : ∀ value < base, isDigit value.digitChar value) (number : Nat) :
    Spells isDigit base (Nat.toDigits base number) number := by
  induction number using Nat.strongRecOn with
  | ind number ih =>
    rw [Nat.toDigits_eq_if large]
    split
    · rename_i below
      exact ⟨[number], .cons (digit number below) .nil, by simp⟩
    · rename_i above
      have shorter : number / base < number := Nat.div_lt_self (by omega) large
      have last := (ih _ shorter).append_digit (digit _ (Nat.mod_lt number (by omega)))
      rwa [Nat.div_add_mod] at last

end Spelling

theorem isDecimalDigit_digitChar {value : Nat} (below : value < 10) :
    IsDecimalDigit value.digitChar value :=
  ⟨below, Nat.toNat_digitChar_of_lt_ten below⟩

theorem isHexDigit_digitChar {value : Nat} (below : value < 16) :
    IsHexDigit value.digitChar value := by
  rw [isHexDigit_iff]
  revert value
  decide

theorem not_isHexDigit_mark {value : Nat} : ¬ IsHexDigit 'x' value := by
  have code : 'x'.toNat = 120 := rfl
  rw [isHexDigit_iff, code]
  omega

theorem Spells.forall_isDigit {isDigit : Char → Nat → Prop} {base : Nat} {digits : List Char}
    {number : Nat} (spells : Spells isDigit base digits number) :
    ∀ c ∈ digits, ∃ value, isDigit c value := by
  obtain ⟨values, all, -⟩ := spells
  induction all with
  | nil => exact nofun
  | @cons c value _ _ digit _ ih => exact List.forall_mem_cons.mpr ⟨⟨value, digit⟩, ih⟩

theorem Spells.lt {isDigit : Char → Nat → Prop} {base : Nat} {digits : List Char} {number : Nat}
    (spells : Spells isDigit base digits number) (large : 1 < base)
    (below : ∀ c value, isDigit c value → value < base) : number < base ^ digits.length := by
  obtain ⟨values, all, rfl⟩ := spells
  have small : ∀ value ∈ values, value < base := by
    induction all with
    | nil => exact nofun
    | cons digit _ ih => exact List.forall_mem_cons.mpr ⟨below _ _ digit, ih⟩
  rw [all.length_eq, ← List.length_reverse]
  exact Nat.ofDigits_lt_base_pow_length large fun value member =>
    small value (List.mem_reverse.mp member)

def Unmarks (text digits : List Char) : Prop := digits = text ∨ text = '0' :: 'x' :: digits

theorem exists_unmarks_iff (Reads : List Char → Prop)
    (digitsOnly : ∀ digits, Reads digits → ∀ c ∈ digits, ∃ value, IsHexDigit c value)
    (text : List Char) :
    (∃ digits, Unmarks text digits ∧ Reads digits) ↔ Reads (Hex.unmarked text) := by
  unfold Hex.unmarked
  split
  · rename_i rest
    constructor
    · rintro ⟨digits, rfl | same, reads⟩
      · obtain ⟨value, digit⟩ := digitsOnly _ reads 'x' (by simp)
        exact absurd digit not_isHexDigit_mark
      · cases same
        exact reads
    · intro reads
      exact ⟨rest, .inr rfl, reads⟩
  · rename_i unlike
    constructor
    · rintro ⟨digits, rfl | marked, reads⟩
      · exact reads
      · exact absurd marked (unlike digits)
    · intro reads
      exact ⟨text, .inl rfl, reads⟩

end StateTransition.Quantity
