import StateTransition.Proofs.FrameStack.Endings

/-!
Invariants of the journal. What every step of a frame keeps, and every beginning of an attempt, holds
at every point of a run: a failure only goes back to where it held before.
-/

namespace StateTransition.Evm

/-- A property of journals that attempts keep when they begin and when they are settled. -/
structure EntryInvariant (setting : Setting) (holds : Journal → Prop) : Prop where
  base : ∀ (attempt : Attempt) {journal : Journal}, holds journal →
    holds (attempt.base setting journal)
  opens : ∀ {attempt : Attempt} {journal opened : Journal}, attempt.Opens setting journal opened →
    holds (attempt.base setting journal) → holds opened
  setCode : ∀ (address : Address) (code : Bytes) {journal : Journal}, holds journal →
    holds (journal.setCode address code)

/-- A property of journals that a run keeps for as long as it is not stopped. -/
structure RunInvariant (setting : Setting) (holds : Journal → Prop) : Prop
    extends EntryInvariant setting holds where
  step : ∀ {machine after : Machine} {action : Option Action},
    machine.step setting = (action, after) → action ≠ some .overflow → holds machine.journal →
    holds after.journal

theorem Effects.holds {setting : Setting} {holds : Journal → Prop} {machine after : Machine}
    (effects : Effects setting machine after)
    (kept : ∀ {machine after : Machine}, Effect setting machine after → holds machine.journal →
      holds after.journal) (start : holds machine.journal) : holds after.journal := by
  induction effects with
  | refl => exact start
  | tail _ effect ih => exact kept effect ih

namespace EntryInvariant

variable {setting : Setting} {holds : Journal → Prop}

theorem enter {attempt : Attempt} {journal left : Journal} {entry : Entry}
    (invariant : EntryInvariant setting holds) (start : holds journal)
    (enters : attempt.enter setting journal = (entry, left)) : holds left := by
  have based := invariant.base attempt start
  have begins := attempt.begins_enter setting journal
  rw [enters] at begins
  cases begins with
  | fails failed returns => exact based
  | idles => exact based
  | completes opens succeeded left => exact invariant.opens opens based
  | runs opens code => exact invariant.opens opens based

theorem settles {base journal : Journal} {kind : FrameKind} {remaining : Nat}
    {settled : FrameResult × Journal} (invariant : EntryInvariant setting holds) (below : holds base)
    (here : holds journal) (settles : Settles base kind remaining journal settled) :
    holds settled.2 := by
  cases settles with
  | fails failed returns => exact below
  | keeps succeeded left => exact here
  | deploys code created succeeded left => exact invariant.setCode _ code here

end EntryInvariant

namespace FrameStack

variable {setting : Setting} {holds : Journal → Prop} {attempt : Attempt} {journal left : Journal}
  {stack next : FrameStack} {opened : Opened} {openings later : List Opened}

/-- The invariant holds in the journal, and did when each attempt on the stack was made. -/
def HoldsAlong (holds : Journal → Prop) (stack : FrameStack) (openings : List Opened) : Prop :=
  holds stack.journal ∧ ∀ opened ∈ openings, holds opened.journal

theorem ne_overflow_of_asks {action : Action} {asked : Attempt}
    (asks : action.attempt? = some asked) : some action ≠ some Action.overflow := by
  rintro ⟨⟩
  cases asks

theorem holds_of_settle {raw result : FrameResult} {after : Machine}
    (invariant : EntryInvariant setting holds) (here : holds after.journal)
    (before : holds opened.journal) (serves : opened.ServedBy setting stack.current stack.journal)
    (step : stack.machine.step setting = (some (.finish raw), after))
    (settles : settle setting.rules after.journal stack.current.kind stack.current.checkpoint raw =
      (result, left)) : holds left := by
  have settled := settles_of_step serves step
  rw [settles] at settled
  exact invariant.settles (invariant.base opened.attempt before) here settled

/-- What the instruction leads to and what was there when each attempt was made also holds after the
transition, whatever held of the journal before the instruction. -/
theorem Transition.holdsAlong_of_step (invariant : EntryInvariant setting holds)
    (transition : Transition setting stack openings next later)
    (nested : Nested setting stack.current stack.parents stack.journal openings)
    (below : ∀ opened ∈ openings, holds opened.journal)
    (steps : ∀ {action after}, stack.machine.step setting = (action, after) →
      action ≠ some .overflow → holds after.journal) : HoldsAlong holds next later := by
  cases transition with
  | stay step => exact ⟨steps step nofun, below⟩
  | enter step asks enters =>
    have asked := steps step (ne_overflow_of_asks asks)
    refine ⟨invariant.enter asked enters, ?_⟩
    intro other member
    rcases List.mem_cons.mp member with same | old
    · rw [same]
      exact asked
    · exact below other old
  | resume step asks enters resumes =>
    exact ⟨invariant.enter (steps step (ne_overflow_of_asks asks)) enters, below⟩
  | leave step settles waiting resumes =>
    obtain ⟨opened, outer, same, serves⟩ := nested.exists_served
    subst same
    have before := below opened List.mem_cons_self
    refine ⟨holds_of_settle invariant (steps step nofun) before serves step settles, ?_⟩
    intro other member
    exact below other (List.mem_cons_of_mem _ member)

theorem holdsAlong_start (invariant : EntryInvariant setting holds) (start : holds journal)
    {child : Activation} {entered : Journal}
    (enters : attempt.enter setting journal = (.run child, entered)) :
    HoldsAlong holds ⟨child, [], entered, 0⟩ [⟨attempt, journal, none⟩] := by
  refine ⟨invariant.enter start enters, ?_⟩
  intro other member
  rw [List.mem_singleton.mp member]
  exact start

theorem Underway.holdsAlong (invariant : RunInvariant setting holds) (start : holds journal)
    (underway : Underway setting attempt journal stack openings) :
    HoldsAlong holds stack openings := by
  induction underway with
  | start enters => exact holdsAlong_start invariant.toEntryInvariant start enters
  | step underway steps ih =>
    exact (transition_of_step _ steps).holdsAlong_of_step invariant.toEntryInvariant underway.nested
      ih.2 fun step goes => invariant.step step goes ih.1

theorem Ends.holds_left {remaining : Nat} {result : FrameResult} {progress : Progress}
    (invariant : RunInvariant setting holds) (start : holds journal)
    (ends : Ends setting attempt journal opened remaining result left progress) : holds left := by
  cases ends with
  | outright enters => exact invariant.enter start enters
  | atOnce underway step asks enters =>
    have here := (underway.holdsAlong invariant start).1
    exact invariant.enter (invariant.step step (ne_overflow_of_asks asks) here) enters
  | @frame stack opened openings raw result after left underway step settles =>
    obtain ⟨here, below⟩ := underway.holdsAlong invariant start
    obtain ⟨first, outer, same, serves⟩ := underway.nested.exists_served
    cases same
    exact holds_of_settle invariant.toEntryInvariant (invariant.step step nofun here)
      (below opened List.mem_cons_self) serves step settles

end FrameStack

end StateTransition.Evm
