import StateTransition.Text.Blank

namespace StateTransition.Text

def AllBlank (text : List Char) : Prop := ∀ c ∈ text, isBlank c = true

/-- A text without the white space at either end of it. -/
structure Trims (text trimmed : List Char) : Prop where
  around : ∃ front back, AllBlank front ∧ AllBlank back ∧ text = front ++ trimmed ++ back
  first : ∀ c, trimmed.head? = some c → isBlank c = false
  last : ∀ c, trimmed.getLast? = some c → isBlank c = false

variable {text trimmed front back : List Char}

theorem allBlank_takeWhile (text : List Char) : AllBlank (text.takeWhile isBlank) :=
  List.all_eq_true.mp List.all_takeWhile

theorem isBlank_of_head?_dropWhile {c : Char}
    (first : (text.dropWhile isBlank).head? = some c) : isBlank c = false := by
  have stops := List.head?_dropWhile_not isBlank text
  rw [first] at stops
  exact stops

theorem dropWhile_of_head? (first : ∀ c, text.head? = some c → isBlank c = false) :
    text.dropWhile isBlank = text := by
  cases text with
  | nil => rfl
  | cons c rest =>
    apply List.dropWhile_cons_of_neg
    rw [first c rfl]
    exact Bool.false_ne_true

theorem dropWhile_reverse_append (blank : AllBlank back) (text : List Char) :
    (text ++ back).reverse.dropWhile isBlank = text.reverse.dropWhile isBlank := by
  rw [List.reverse_append]
  exact List.dropWhile_append_of_pos fun c member => blank c (List.mem_reverse.mp member)

theorem trimChars_surrounded (blankFront : AllBlank front) (blankBack : AllBlank back)
    (text : List Char) : trimChars (front ++ text ++ back) = trimChars text := by
  rw [trimChars, trimChars, List.append_assoc, List.dropWhile_append_of_pos blankFront,
    List.dropWhile_append]
  split
  · rename_i nothing
    have blankText : text.dropWhile isBlank = [] := List.isEmpty_iff.mp nothing
    have blankAll : (back ++ []).dropWhile isBlank = [] := List.dropWhile_append_of_pos blankBack
    rw [List.append_nil] at blankAll
    rw [blankText, blankAll]
  · rw [dropWhile_reverse_append blankBack]

theorem Trims.trimChars_eq (trims : Trims text trimmed) : trimChars text = trimmed := by
  obtain ⟨front, back, blankFront, blankBack, rfl⟩ := trims.around
  have ends : trimmed.reverse.dropWhile isBlank = trimmed.reverse := by
    apply dropWhile_of_head?
    intro c last
    rw [List.head?_reverse] at last
    exact trims.last c last
  rw [trimChars_surrounded blankFront blankBack, trimChars, dropWhile_of_head? trims.first, ends,
    List.reverse_reverse]

theorem trims_trimChars (text : List Char) : Trims text (trimChars text) := by
  let started := text.dropWhile isBlank
  have front : text.takeWhile isBlank ++ started = text := List.takeWhile_append_dropWhile
  have back : trimChars text ++ (started.reverse.takeWhile isBlank).reverse = started := by
    rw [trimChars, ← List.reverse_append, List.takeWhile_append_dropWhile, List.reverse_reverse]
  refine ⟨⟨text.takeWhile isBlank, (started.reverse.takeWhile isBlank).reverse,
    allBlank_takeWhile text, ?_, ?_⟩, ?_, ?_⟩
  · intro c member
    exact allBlank_takeWhile started.reverse c (List.mem_reverse.mp member)
  · rw [List.append_assoc, back, front]
  · intro c first
    have starts : started.head? = some c := by
      rw [← back, List.head?_append, first]
      rfl
    exact isBlank_of_head?_dropWhile starts
  · intro c last
    rw [trimChars, List.getLast?_reverse] at last
    exact isBlank_of_head?_dropWhile last

theorem trims_iff : Trims text trimmed ↔ trimmed = trimChars text := by
  constructor
  · intro trims
    exact trims.trimChars_eq.symm
  · rintro rfl
    exact trims_trimChars text

theorem trimChars_of_not_isBlank (visible : ∀ c ∈ text, isBlank c = false) :
    trimChars text = text := by
  symm
  apply trims_iff.mp
  refine ⟨⟨[], [], nofun, nofun, by simp⟩, fun c first => ?_, fun c last => ?_⟩
  · exact visible c (List.mem_of_head? first)
  · exact visible c (List.mem_of_getLast? last)

end StateTransition.Text
