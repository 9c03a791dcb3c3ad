import StateTransition.Proofs.Text.Blank
import StateTransition.Proofs.Text.Hex

/-!
The texts that are read as numbers. `Numeral` says which text without white space at its ends stands
for which number; reading a text answers that number, and where there is none it says whether the
text is too long or no number at all.
-/

namespace StateTransition.Quantity

def IsMarked (text rest : List Char) : Prop :=
  text = '0' :: 'x' :: rest ∨ text = '0' :: 'X' :: rest

def byteCount (text : List Char) : Nat := (Bytes.ofText (String.ofList text)).length

/-- The texts that stand for numbers. The digits after the mark may have one more mark in front. -/
inductive Numeral : List Char → Nat → Prop where
  | empty : Numeral [] 0
  | decimal {digits : List Char} {number : Nat} (spells : Spells IsDecimalDigit 10 digits number)
      (fits : number < 2 ^ 256) : Numeral digits number
  | hexadecimal {text rest digits : List Char} {number : Nat} (marked : IsMarked text rest)
      (short : byteCount rest ≤ 64) (unmarks : Unmarks rest digits)
      (spells : Spells IsHexDigit 16 digits number) : Numeral text number

/-- The texts that are refused as too long, whatever they spell. -/
def IsOverlong (text : List Char) : Prop := ∃ rest, IsMarked text rest ∧ 64 < byteCount rest

theorem byteCount_cons (c : Char) (rest : List Char) :
    byteCount (c :: rest) = c.utf8Size + byteCount rest := by
  simp only [byteCount, Bytes.ofText, String.toList_ofList, List.flatMap_cons, List.length_append,
    String.length_utf8EncodeChar]

theorem utf8Length_eq (text : List Char) : utf8Length text = byteCount text := by
  have total (start : Nat) : text.foldl (fun length char => length + char.utf8Size) start =
      start + byteCount text := by
    induction text generalizing start with
    | nil => rfl
    | cons c rest ih => rw [List.foldl_cons, ih, byteCount_cons, Nat.add_assoc]
  rw [utf8Length, total, Nat.zero_add]

theorem length_le_byteCount (text : List Char) : text.length ≤ byteCount text := by
  induction text with
  | nil => exact Nat.zero_le _
  | cons c rest ih =>
    have size := c.utf8Size_pos
    rw [List.length_cons, byteCount_cons]
    omega

theorem hexPart?_eq_some_iff {text rest : List Char} :
    hexPart? text = some rest ↔ IsMarked text rest := by
  unfold hexPart?
  split
  · simp [IsMarked, eq_comm]
  · simp [IsMarked, eq_comm]
  · rename_i small capital
    refine ⟨nofun, ?_⟩
    rintro (marked | marked)
    · exact absurd marked (small rest)
    · exact absurd marked (capital rest)

variable {text rest digits : List Char} {number : Nat}

theorem IsMarked.not_decimal (marked : IsMarked text rest) :
    ¬ Spells IsDecimalDigit 10 text number := by
  have zero : '0'.toNat = 48 := rfl
  intro spells
  rcases marked with rfl | rfl
  · have mark : 'x'.toNat = 120 := rfl
    obtain ⟨value, below, code⟩ := spells.forall_isDigit 'x' (by simp)
    omega
  · have mark : 'X'.toNat = 88 := rfl
    obtain ⟨value, below, code⟩ := spells.forall_isDigit 'X' (by simp)
    omega

theorem IsMarked.ne_nil (marked : IsMarked text rest) : text ≠ [] := by
  rcases marked with rfl | rfl <;> exact List.cons_ne_nil _ _

theorem IsMarked.unique {other : List Char} (marked : IsMarked text rest)
    (again : IsMarked text other) : rest = other := by
  have first := hexPart?_eq_some_iff.mpr marked
  rw [hexPart?_eq_some_iff.mpr again] at first
  exact (Option.some.inj first).symm

theorem numeral_iff_of_marked (marked : IsMarked text rest) :
    Numeral text number ↔
      byteCount rest ≤ 64 ∧ Spells IsHexDigit 16 (Hex.unmarked rest) number := by
  have unmark := exists_unmarks_iff (Spells IsHexDigit 16 · number)
    (fun _ spells => spells.forall_isDigit) rest
  rw [← unmark]
  constructor
  · intro numeral
    cases numeral with
    | empty => exact absurd rfl marked.ne_nil
    | decimal spells => exact absurd spells marked.not_decimal
    | hexadecimal again short unmarks spells =>
      rw [marked.unique again]
      exact ⟨short, _, unmarks, spells⟩
  · rintro ⟨short, digits, unmarks, spells⟩
    exact .hexadecimal marked short unmarks spells

theorem numeral_iff_of_unmarked (unmarked : hexPart? text = none) :
    Numeral text number ↔ Spells IsDecimalDigit 10 text number ∧ number < 2 ^ 256 := by
  constructor
  · intro numeral
    cases numeral with
    | empty => exact ⟨⟨[], .nil, rfl⟩, by decide⟩
    | decimal spells fits => exact ⟨spells, fits⟩
    | hexadecimal marked =>
      rw [hexPart?_eq_some_iff.mpr marked] at unmarked
      cases unmarked
  · rintro ⟨spells, fits⟩
    exact .decimal spells fits

theorem Numeral.lt (numeral : Numeral text number) : number < 2 ^ 256 := by
  cases numeral with
  | empty => decide
  | decimal _ fits => exact fits
  | @hexadecimal _ rest digits _ _ short unmarks spells =>
    have shorter : digits.length ≤ rest.length := by
      rcases unmarks with rfl | rfl
      · exact Nat.le_refl _
      · exact Nat.le_succ_of_le (Nat.le_succ _)
    have bytes := length_le_byteCount rest
    calc
      number < 16 ^ digits.length := spells.lt (by decide) fun _ _ => IsHexDigit.lt
      _ ≤ 16 ^ 64 := Nat.pow_le_pow_right (by decide) (by omega)
      _ = 2 ^ 256 := by decide

theorem toNat_ofNat {number : Nat} (fits : number < 2 ^ 256) :
    (Word.ofNat number).toNat = number := by
  rw [Word.ofNat, BitVec.toNat_ofNat, Nat.mod_eq_of_lt fits]

theorem parse_of_numeral {source : String} (numeral : Numeral (Text.trimChars source.toList) number) :
    parse source = .ok (Word.ofNat number) := by
  have fits := numeral.lt
  rw [parse]
  cases marked : hexPart? (Text.trimChars source.toList) with
  | some rest =>
    rw [numeral_iff_of_marked (hexPart?_eq_some_iff.mp marked)] at numeral
    simp only
    rw [utf8Length_eq, if_neg (Nat.not_lt.mpr numeral.1),
      (ofDigits?_eq_some_iff (fun _ _ => hexDigit?_eq_some_iff) _ _).mpr numeral.2]
  | none =>
    rw [numeral_iff_of_unmarked marked] at numeral
    simp only
    rw [(ofDigits?_eq_some_iff (fun _ _ => decimalDigit?_eq_some_iff) _ _).mpr numeral.1]
    exact if_pos fits

theorem parse_of_isOverlong {source : String}
    (overlong : IsOverlong (Text.trimChars source.toList)) :
    parse source = .error (.overflow (Text.trim source)) := by
  obtain ⟨rest, marked, long⟩ := overlong
  rw [parse, hexPart?_eq_some_iff.mpr marked]
  simp only
  rw [utf8Length_eq, if_pos long]
  rfl

theorem parse_of_neither {source : String}
    (nothing : ∀ number, ¬ Numeral (Text.trimChars source.toList) number)
    (short : ¬ IsOverlong (Text.trimChars source.toList)) :
    parse source = .error (.invalid (Text.trim source)) := by
  rw [parse]
  cases marked : hexPart? (Text.trimChars source.toList) with
  | some rest =>
    have marks := hexPart?_eq_some_iff.mp marked
    have few : byteCount rest ≤ 64 := Nat.not_lt.mp fun long => short ⟨rest, marks, long⟩
    simp only
    rw [utf8Length_eq, if_neg (Nat.not_lt.mpr few)]
    cases read : ofDigits? hexDigit? 16 (Hex.unmarked rest) with
    | some number =>
      rw [ofDigits?_eq_some_iff fun _ _ => hexDigit?_eq_some_iff] at read
      exact absurd ((numeral_iff_of_marked marks).mpr ⟨few, read⟩) (nothing number)
    | none => rfl
  | none =>
    simp only
    cases read : ofDigits? decimalDigit? 10 (Text.trimChars source.toList) with
    | some number =>
      rw [ofDigits?_eq_some_iff fun _ _ => decimalDigit?_eq_some_iff] at read
      have large : ¬ number < Word.modulus := fun fits =>
        nothing number ((numeral_iff_of_unmarked marked).mpr ⟨read, fits⟩)
      exact if_neg large
    | none => rfl

theorem parse_cases (source : String) :
    (∃ number, Numeral (Text.trimChars source.toList) number ∧
      parse source = .ok (Word.ofNat number)) ∨
    (IsOverlong (Text.trimChars source.toList) ∧
      parse source = .error (.overflow (Text.trim source))) ∨
    ((∀ number, ¬ Numeral (Text.trimChars source.toList) number) ∧
      ¬ IsOverlong (Text.trimChars source.toList) ∧
      parse source = .error (.invalid (Text.trim source))) := by
  by_cases stands : ∃ number, Numeral (Text.trimChars source.toList) number
  · obtain ⟨number, numeral⟩ := stands
    exact .inl ⟨number, numeral, parse_of_numeral numeral⟩
  · have nothing := not_exists.mp stands
    by_cases overlong : IsOverlong (Text.trimChars source.toList)
    · exact .inr (.inl ⟨overlong, parse_of_isOverlong overlong⟩)
    · exact .inr (.inr ⟨nothing, overlong, parse_of_neither nothing overlong⟩)

theorem parse_eq_ok_iff (source : String) (word : Word) :
    parse source = .ok word ↔ Numeral (Text.trimChars source.toList) word.toNat := by
  constructor
  · intro read
    rcases parse_cases source with ⟨number, numeral, run⟩ | ⟨-, run⟩ | ⟨-, -, run⟩
    · rw [read] at run
      rw [Except.ok.inj run, toNat_ofNat numeral.lt]
      exact numeral
    · rw [read] at run
      cases run
    · rw [read] at run
      cases run
  · intro numeral
    rw [parse_of_numeral numeral, Word.ofNat, BitVec.ofNat_toNat, BitVec.setWidth_eq]

theorem parse_eq_overflow_iff (source shown : String) :
    parse source = .error (.overflow shown) ↔
      IsOverlong (Text.trimChars source.toList) ∧ shown = Text.trim source := by
  constructor
  · intro read
    rcases parse_cases source with ⟨number, -, run⟩ | ⟨overlong, run⟩ | ⟨-, -, run⟩
    · rw [read] at run
      cases run
    · rw [read] at run
      cases run
      exact ⟨overlong, rfl⟩
    · rw [read] at run
      cases run
  · rintro ⟨overlong, rfl⟩
    exact parse_of_isOverlong overlong

theorem parse_eq_invalid_iff (source shown : String) :
    parse source = .error (.invalid shown) ↔
      (∀ number, ¬ Numeral (Text.trimChars source.toList) number) ∧
        ¬ IsOverlong (Text.trimChars source.toList) ∧ shown = Text.trim source := by
  constructor
  · intro read
    rcases parse_cases source with ⟨number, -, run⟩ | ⟨-, run⟩ | ⟨nothing, short, run⟩
    · rw [read] at run
      cases run
    · rw [read] at run
      cases run
    · rw [read] at run
      cases run
      exact ⟨nothing, short, rfl⟩
  · rintro ⟨nothing, short, rfl⟩
    exact parse_of_neither nothing short

theorem parse64_eq_ok_iff (source : String) (value : UInt64) :
    parse64 source = .ok value ↔
      ∃ word, parse source = .ok word ∧ word.toNat < 2 ^ 64 ∧ value.toNat = word.toNat := by
  rw [parse64]
  cases parse source with
  | error cause => exact ⟨nofun, fun ⟨_, read, _⟩ => by cases read⟩
  | ok word =>
    simp only [bind, Except.bind]
    split
    · rename_i fits
      have kept : (UInt64.ofNat word.toNat).toNat = word.toNat := by
        rw [UInt64.toNat_ofNat', Nat.mod_eq_of_lt fits]
      constructor
      · intro read
        cases read
        exact ⟨word, rfl, fits, kept⟩
      · rintro ⟨_, ⟨⟩, -, same⟩
        rw [UInt64.toNat_inj.mp (same.trans kept.symm)]
        rfl
    · rename_i large
      constructor
      · exact nofun
      · rintro ⟨_, ⟨⟩, fits, -⟩
        exact absurd fits large

theorem IsHexDigit.visible {c : Char} {value : Nat} (digit : IsHexDigit c value) :
    Text.isBlank c = false := by
  rw [isHexDigit_iff] at digit
  simp only [Text.isBlank, Bool.or_eq_false_iff, Bool.and_eq_false_iff, decide_eq_false_iff_not,
    beq_eq_false_iff_ne]
  omega

theorem IsMarked.visible (marked : IsMarked text rest)
    (visible : ∀ c ∈ rest, Text.isBlank c = false) : ∀ c ∈ text, Text.isBlank c = false := by
  rcases marked with rfl | rfl <;>
    exact List.forall_mem_cons.mpr ⟨rfl, List.forall_mem_cons.mpr ⟨rfl, visible⟩⟩

theorem Numeral.visible (numeral : Numeral text number) : ∀ c ∈ text, Text.isBlank c = false := by
  cases numeral with
  | empty => exact nofun
  | decimal spells =>
    intro c member
    obtain ⟨value, digit⟩ := spells.forall_isDigit c member
    exact IsHexDigit.visible (.inl digit)
  | @hexadecimal _ rest digits _ marked _ unmarks spells =>
    have visible : ∀ c ∈ digits, Text.isBlank c = false := fun c member =>
      (spells.forall_isDigit c member).elim fun _ digit => digit.visible
    apply marked.visible
    rcases unmarks with rfl | again
    · exact visible
    · exact IsMarked.visible (.inl again) visible

theorem parse_surrounded {front back : List Char} {word : Word}
    (numeral : Numeral text word.toNat) (blankFront : Text.AllBlank front)
    (blankBack : Text.AllBlank back) :
    parse (String.ofList (front ++ text ++ back)) = .ok word := by
  rw [parse_eq_ok_iff, String.toList_ofList, Text.trimChars_surrounded blankFront blankBack,
    Text.trimChars_of_not_isBlank numeral.visible]
  exact numeral

theorem byteCount_of_isHexDigit (ascii : ∀ c ∈ digits, ∃ value, IsHexDigit c value) :
    byteCount digits = digits.length := by
  rw [byteCount, Bytes.ofText, String.toList_ofList]
  exact Hex.length_utf8_of_isHexDigit ascii

theorem numeral_decimalText (word : Word) : Numeral word.decimalText.toList word.toNat := by
  have digits : word.decimalText.toList = Nat.toDigits 10 word.toNat := by
    rw [Word.decimalText, Nat.toString_eq_repr, Nat.toList_repr]
  rw [digits]
  exact .decimal (spells_toDigits (by decide) (fun _ => isDecimalDigit_digitChar) _) word.isLt

theorem numeral_hexText (word : Word) : Numeral word.hexText.toList word.toNat := by
  have spells := spells_toDigits (by decide) (fun _ => isHexDigit_digitChar) word.toNat
  have few : (Nat.toDigits 16 word.toNat).length ≤ 64 :=
    (Nat.length_toDigits_le_iff (by decide) (by decide)).mpr word.isLt
  have marked : IsMarked word.hexText.toList (Nat.toDigits 16 word.toNat) := by
    left
    simp only [Word.hexText, String.toList_append, String.toList_ofList]
    rfl
  have short : byteCount (Nat.toDigits 16 word.toNat) ≤ 64 := by
    rw [byteCount_of_isHexDigit spells.forall_isDigit]
    exact few
  exact .hexadecimal marked short (.inl rfl) spells

/-- Of a text without the white space at its ends, a number is read exactly if the text stands for
it: nothing at all, decimal digits of a number of 256 bits, or a mark with at most 64 bytes behind it
that are hexadecimal digits but for one more mark. What is longer behind a mark is out of range, and
any other text is invalid. The short form reads the same texts, as far as their numbers have 64 bits.
In particular both forms a number is written in are read, with any white space around them. -/
theorem numerals_read_exactly :
    (∀ source : String, ∃ trimmed : List Char,
      (∀ text, Text.Trims source.toList text ↔ text = trimmed) ∧
      (∀ word, parse source = .ok word ↔ Numeral trimmed word.toNat) ∧
      (∀ shown, parse source = .error (.overflow shown) ↔
        IsOverlong trimmed ∧ shown = String.ofList trimmed) ∧
      (∀ shown, parse source = .error (.invalid shown) ↔
        (∀ number, ¬ Numeral trimmed number) ∧ ¬ IsOverlong trimmed ∧
          shown = String.ofList trimmed) ∧
      ∀ value : UInt64, parse64 source = .ok value ↔
        ∃ word, parse source = .ok word ∧ word.toNat < 2 ^ 64 ∧ value.toNat = word.toNat) ∧
    ∀ (word : Word) (front back : List Char), Text.AllBlank front → Text.AllBlank back →
      parse (String.ofList (front ++ word.decimalText.toList ++ back)) = .ok word ∧
        parse (String.ofList (front ++ word.hexText.toList ++ back)) = .ok word := by
  constructor
  · intro source
    exact ⟨Text.trimChars source.toList, fun _ => Text.trims_iff, parse_eq_ok_iff source,
      parse_eq_overflow_iff source, parse_eq_invalid_iff source, parse64_eq_ok_iff source⟩
  · intro word front back blankFront blankBack
    exact ⟨parse_surrounded (numeral_decimalText word) blankFront blankBack,
      parse_surrounded (numeral_hexText word) blankFront blankBack⟩

theorem numerals_read_exactly_padded :
    Text.AllBlank ['\t', '\u00a0'] ∧ Text.AllBlank ['\n'] ∧
      parse (String.ofList (['\t', '\u00a0'] ++ Word.maximum.decimalText.toList ++ ['\n'])) =
        .ok Word.maximum ∧
      parse (String.ofList (['\t', '\u00a0'] ++ Word.maximum.hexText.toList ++ ['\n'])) =
        .ok Word.maximum := by
  have back : Text.AllBlank ['\n'] := List.forall_mem_cons.mpr ⟨rfl, nofun⟩
  have front : Text.AllBlank ['\t', '\u00a0'] :=
    List.forall_mem_cons.mpr ⟨rfl, List.forall_mem_cons.mpr ⟨rfl, nofun⟩⟩
  obtain ⟨-, written⟩ := numerals_read_exactly
  exact ⟨front, back, written Word.maximum _ _ front back⟩

end StateTransition.Quantity
