import StateTransition.Evm.Execution
import StateTransition.Proofs.FrameStack.Endings
import StateTransition.Proofs.Fork.Mainnet

namespace StateTransition.Evm.FrameStack

variable {setting : Setting} {attempt : Attempt} {journal left : Journal} {opened : Opened}
  {remaining : Nat} {result : FrameResult} {next : Progress}

theorem Ends.left_eq_base (ends : Ends setting attempt journal opened remaining result left next)
    (failed : result.isSuccess = false) :
    left = opened.base setting ∧ result.Returns remaining := by
  have outcome {asked : Attempt} {before after : Journal} {kind : FrameKind}
      (enters : asked.enter setting before = (.done kind result, after)) :
      after = asked.base setting before ∧ result.Returns asked.gas := by
    have begins := asked.begins_enter setting before
    rw [enters] at begins
    cases begins with
    | fails failed returns => exact ⟨rfl, returns⟩
    | idles => cases failed
    | completes opens succeeded left =>
      rw [failed] at succeeded
      cases succeeded
  cases ends with
  | outright enters => exact outcome enters
  | atOnce underway step asks enters => exact outcome enters
  | @frame stack opened openings raw result after left underway step settles =>
    obtain ⟨first, outer, same, serves⟩ := underway.nested.exists_served
    cases same
    have settled := settles_of_step serves step
    rw [settles] at settled
    cases settled with
    | fails failed returns => exact ⟨rfl, returns⟩
    | keeps succeeded left =>
      rw [failed] at succeeded
      cases succeeded
    | deploys code created succeeded left =>
      rw [failed] at succeeded
      cases succeeded

/-- What remains of a failed attempt at a fork of the main network: the journal as it was, but a
creation that was not refused has used up its creator's nonce and, from Berlin on, warmed the
address it was for. -/
def remnant (fork : Fork) (journal : Journal) : Attempt → Journal
  | .call _ => journal
  | .create request =>
    if refusesCreate (Mainnet.rules fork) journal request then journal
    else
      let counted := journal.bumpNonce request.caller
      if Fork.berlin ≤ fork then (counted.warmAccount (createTarget journal request)).2 else counted
  | .deploy _ address => if Fork.berlin ≤ fork then (journal.warmAccount address).2 else journal

theorem base_eq_remnant (fork : Fork) (environment : Environment) (accepted : Accepted)
    (journal : Journal) (attempt : Attempt) :
    attempt.base (accepted.setting (Mainnet.rules fork) environment) journal =
      remnant fork journal attempt := by
  have warms (start : Journal) (address : Address) : warmTarget (Mainnet.rules fork) start address =
      if Fork.berlin ≤ fork then (start.warmAccount address).2 else start := by
    rw [warmTarget, Mainnet.defines_coldAccountAccess]
    by_cases priced : Fork.berlin ≤ fork <;> simp [priced]
  cases attempt with
  | call request => rfl
  | create request => simp only [Attempt.base, remnant, Accepted.setting, warms]
  | deploy request address => simp only [Attempt.base, remnant, Accepted.setting, warms]

/-- Whenever a frame, or a call or creation without a frame, ends in a revert or a halt, at any
depth, the journal that is handed over is the one its attempt took its checkpoint in. The frame
that waits gets no gas from a halt, and from a revert the gas that was left. -/
theorem failure_isolated (fork : Fork) (environment : Environment) (accepted : Accepted)
    (attempt : Attempt) (journal : Journal) (opened : Opened) (remaining : Nat)
    (result : FrameResult) (left : Journal) (next : Progress)
    (ends : Ends (accepted.setting (Mainnet.rules fork) environment) attempt journal opened
      remaining result left next)
    (failed : result.isSuccess = false) :
    left = opened.base (accepted.setting (Mainnet.rules fork) environment) ∧
      left = remnant fork opened.journal opened.attempt ∧
      HandsOver result left opened.caller next ∧
      result.gasLeft = (if result.isHalt then 0 else remaining) ∧
      ∀ stack outer, Underway (accepted.setting (Mainnet.rules fork) environment) attempt journal
        stack (opened :: outer) → stack.current.checkpoint = left.checkpoint := by
  obtain ⟨based, returns⟩ := ends.left_eq_base failed
  refine ⟨based, ?_, ends.handsOver, returns, ?_⟩
  · rw [based]
    exact base_eq_remnant fork environment accepted opened.journal opened.attempt
  · intro stack outer underway
    obtain ⟨first, rest, same, serves⟩ := underway.nested.exists_served
    cases same
    rw [based]
    exact serves.checkpoint

/-- One contract stores a word. The other one calls it with three units and then reverts. -/
def spenderAndStore : Journal :=
  let spender : Account :=
    { balance := 7#256
      code :=
        [0x60, 0x00, 0x60, 0x00, 0x60, 0x00, 0x60, 0x00, 0x60, 0x03, 0x60, 0x30, 0x61, 0xff, 0xff,
         0xf1, 0x60, 0x00, 0x60, 0x00, 0xfd] }
  let store : Account := { code := [0x60, 0x01, 0x60, 0x00, 0x55] }
  .start (.ofList [(⟨0x20#160⟩, spender), (⟨0x30#160⟩, store)])

def callOfSpender : CallRequest where
  scheme := .call
  caller := ⟨0x10#160⟩
  address := ⟨0x20#160⟩
  codeAddress := ⟨0x20#160⟩
  value := 0#256
  transfers := true
  input := []
  gas := 100000
  isStatic := false
  depth := 0
  returnOffset := 0
  returnSize := 0

theorem failure_isolated_spender : ∃ remaining result left next,
    Ends (Accepted.setting ⟨⟨0x10#160⟩, 21000, 10#256⟩ (Mainnet.rules .london) {})
      (.call callOfSpender) spenderAndStore ⟨.call callOfSpender, spenderAndStore, none⟩ remaining
      result left next ∧
    result = .revert 68567 [] ∧ left = spenderAndStore := by
  let setting : Setting := Accepted.setting ⟨⟨0x10#160⟩, 21000, 10#256⟩ (Mainnet.rules .london) {}
  let start := (Attempt.call callOfSpender).enter setting spenderAndStore
  have reverts : ((runEntry setting 20 start.1 start.2).bind Ending.completion?).map
      Completion.result = some (.revert 68567 []) := by
    simp only [setting, start, Mainnet.rules_eq_readOff]
    decide +kernel
  obtain ⟨completion, completes, result⟩ := Option.map_eq_some_iff.mp reverts
  obtain ⟨ending, finishes, finished⟩ := Option.bind_eq_some_iff.mp completes
  rw [Ending.eq_finished_of_completion? finished] at finishes
  obtain ⟨remaining, ends⟩ := ends_of_runEntry finishes
  have failed : completion.result.isSuccess = false := by
    rw [result]
    rfl
  have isolated := failure_isolated .london {} ⟨⟨0x10#160⟩, 21000, 10#256⟩ (.call callOfSpender)
    spenderAndStore _ remaining _ _ _ ends failed
  exact ⟨remaining, _, _, _, ends, result, isolated.2.1⟩

end StateTransition.Evm.FrameStack
