import StateTransition.Proofs.FrameStack.Serving
import StateTransition.Proofs.Journal.Identity

namespace StateTransition.Evm

variable {setting : Setting} {machine after : Machine} {journal entered : Journal}
  {address : Address} {account : Account}

theorem Effect.upholds_or_closes (effect : Effect setting machine after)
    (coded : machine.frame.context.address = address → account.code ≠ []) :
    Journal.Upholds address account machine.journal after.journal ∨
      ∃ beneficiary, after.journal = Exec.closeAccount setting.rules machine.frame.context.address
        beneficiary machine.journal := by
  cases effect with
  | compute frame context gas => exact .inl (.refl _)
  | warmAccount other => exact .inl (.of_warms (Journal.warms_warmAccount _ other))
  | warmSlot other key => exact .inl (.of_warms (Journal.warms_warmSlot _ other key))
  | store key value cold mutable =>
    exact .inl ((Journal.upholds_addRefund _ _).trans (Journal.upholds_setSlot _ _ key value coded))
  | storeTransient key value mutable => exact .inl (.of_world_eq rfl rfl rfl)
  | emit log mutable => exact .inl (.of_world_eq rfl rfl rfl)
  | close beneficiary mutable => exact .inr ⟨beneficiary, rfl⟩

theorem Effects.retains (effects : Effects setting machine after)
    (coded : machine.frame.context.address = address → account.code ≠ [])
    (retains : machine.journal.Retains address account) :
    after.journal.Retains address account := by
  induction effects with
  | refl => exact retains
  | @tail middle last reached effect ih =>
    rw [← Effects.context_eq reached] at coded
    rcases effect.upholds_or_closes coded with upholds | ⟨beneficiary, closes⟩
    · exact upholds.retains ih
    · rw [closes]
      exact ih.closeAccount beneficiary

theorem Effects.upholds (effects : Effects setting machine after)
    (coded : machine.frame.context.address = address → account.code ≠ [])
    (safe : machine.frame.context.address ≠ address ∨
      setting.rules.isActive .selfdestructSameTxOnly = true) :
    Journal.Upholds address account machine.journal after.journal := by
  induction effects with
  | refl => exact .refl _
  | @tail middle last reached effect ih =>
    rw [← Effects.context_eq reached] at coded safe
    rcases effect.upholds_or_closes coded with upholds | ⟨beneficiary, closes⟩
    · exact ih.trans upholds
    · rw [closes]
      exact ih.trans (Journal.upholds_closeAccount beneficiary safe)

theorem Machine.destructed_of_step {action : Option Action}
    (step : machine.step setting = (action, after))
    (other : machine.frame.code.bytes[machine.frame.position]? ≠ some 0xff) :
    after.journal.destructed = machine.journal.destructed := by
  have spares : Relation.ReflTransGen (Spares setting) machine
      ((Exec.step setting).final machine) := by
    apply Exec.effects_step
    intro byte opcode next named
    apply Exec.affects_execute_of_ne fun spares => spares
    intro closes
    rw [next, ← Opcode.toByte_of_ofByte? named, closes] at other
    exact other rfl
  rw [final_of_step step] at spares
  exact destructed_of_spares spares

theorem CallRequest.Opens.upholds {rules : Rules} {request : CallRequest}
    (opens : request.Opens rules journal entered) :
    Journal.Upholds address account journal entered := by
  rw [opens.result, payCallee]
  apply (Journal.upholds_ensure journal request.address).trans
  split
  · exact Journal.upholds_move _ _ _ _
  · exact Journal.upholds_touch _ _

namespace CreateRequest.Opens

variable {rules : Rules} {request : CreateRequest} {target : Address}

theorem ne (opens : request.Opens rules journal target entered)
    (retains : journal.Retains address account) (established : account.Established) :
    target ≠ address := by
  intro same
  have vacant := opens.vacant
  rw [same, retains.isOccupied_eq established] at vacant
  cases vacant

theorem upholds (opens : request.Opens rules journal target entered) (different : target ≠ address) :
    Journal.Upholds address account journal entered := by
  rw [opens.result]
  exact (Journal.upholds_createAccount journal target _ different).trans
    (Journal.upholds_move _ _ _ _)

end CreateRequest.Opens

namespace Attempt

variable {attempt : Attempt}

theorem upholds_base (setting : Setting) (journal : Journal) (attempt : Attempt) :
    Journal.Upholds address account journal (attempt.base setting journal) :=
  rel_base .refl .trans Journal.upholds_bumpNonce
    (fun start target => .of_warms (Journal.warms_warmTarget start target setting.rules))
    journal attempt

theorem Opens.kind_ne (opens : attempt.Opens setting journal entered)
    (retains : journal.Retains address account) (established : account.Established)
    {target : Address} (creates : attempt.kind setting journal = .create target) :
    target ≠ address := by
  have based := (upholds_base setting journal attempt).retains retains
  cases attempt with
  | call request => cases creates
  | create request =>
    have accepted : refusesCreate setting.rules journal request = false := opens.1
    rw [kind, accepted] at creates
    cases creates
    exact opens.2.ne based established
  | deploy request other =>
    cases creates
    exact CreateRequest.Opens.ne opens based established

theorem Opens.upholds (opens : attempt.Opens setting journal entered)
    (retains : journal.Retains address account) (established : account.Established) :
    Journal.Upholds address account journal entered := by
  have based := (upholds_base setting journal attempt).retains retains
  apply (upholds_base setting journal attempt).trans
  cases attempt with
  | call request => exact CallRequest.Opens.upholds opens
  | create request => exact opens.2.upholds (opens.2.ne based established)
  | deploy request target =>
    exact CreateRequest.Opens.upholds opens (CreateRequest.Opens.ne opens based established)

end Attempt

theorem code_of_startCall {request : CallRequest} {child : Activation}
    (starts : startCall setting journal request = (.run child, entered)) :
    entered.code request.codeAddress ≠ [] := by
  rw [startCall] at starts
  split at starts
  · cases starts
  · split at starts
    · cases starts
    · simp only [enterCode] at starts
      split at starts
      · split at starts <;> cases starts
      · split at starts
        · cases starts
        · rename_i empty
          cases starts
          exact empty

theorem Attempt.coded_of_run {attempt : Attempt} {child : Activation}
    (enters : attempt.enter setting journal = (.run child, entered))
    (retains : journal.Retains address account) (established : account.Established)
    (calls : ∀ {request}, attempt = .call request → request.address = request.codeAddress ∨
      (request.address = address → account.code ≠ []))
    (own : (attempt.context journal).address = address) : account.code ≠ [] := by
  have opens := Attempt.opens_of_run enters
  have upholds : Journal.Upholds address account journal entered :=
    opens.upholds retains established
  cases attempt with
  | call request =>
    have acting : request.address = address := own
    rcases calls rfl with same | coded
    · obtain ⟨now, held, continues⟩ := (upholds.retains retains).held
      have there : entered.world.get? address = some now := held
      have code := code_of_startCall enters
      rw [← same, acting, Journal.code, World.account, there] at code
      rw [← continues.code]
      exact code
    · exact coded acting
  | create request =>
    have accepted : refusesCreate setting.rules journal request = false := opens.1
    have creates : (Attempt.create request).kind setting journal = .create address := by
      rw [Attempt.kind, accepted, ← own]
      rfl
    exact absurd rfl (opens.kind_ne retains established creates)
  | deploy request target =>
    have creates : (Attempt.deploy request target).kind setting journal = .create address := by
      rw [← own]
      rfl
    exact absurd rfl (opens.kind_ne retains established creates)

namespace FrameStack

/-- A frame that acts as an account comes to the instruction that schedules it for deletion. -/
def SchedulesItself (setting : Setting) (attempt : Attempt) (journal : Journal)
    (address : Address) : Prop :=
  ∃ stack openings action after, Underway setting attempt journal stack openings ∧
    stack.machine.step setting = (action, after) ∧
    stack.current.frame.context.address = address ∧
    stack.current.frame.code.bytes[stack.current.frame.position]? = some 0xff ∧
    stack.journal.isDestructed address = false ∧ after.journal.isDestructed address = true

/-- What holds of an established account wherever an attempt has led to. -/
structure Upheld (setting : Setting) (attempt : Attempt) (journal : Journal) (address : Address)
    (account : Account) (here : Journal) : Prop where
  retains : here.Retains address account
  scheduled : here.isDestructed address = true → account.code ≠ [] ∧
    setting.rules.isActive .selfdestructSameTxOnly = false ∧
    SchedulesItself setting attempt journal address

/-- What a frame relies on: a frame that acts as the account runs on its code, and what it creates
is another account. -/
structure Guarded (setting : Setting) (attempt : Attempt) (journal : Journal) (address : Address)
    (account : Account) (opened : Opened) (here : Journal) : Prop where
  upheld : Upheld setting attempt journal address account here
  coded : opened.context.address = address → account.code ≠ []
  creates : ∀ {target}, opened.kind setting = .create target → target ≠ address

variable {attempt asked : Attempt} {here there : Journal} {opened : Opened}

theorem Upheld.of_retains (retains : journal.Retains address account)
    (unscheduled : journal.isDestructed address = false) :
    Upheld setting attempt journal address account journal where
  retains := retains
  scheduled scheduled := by
    rw [unscheduled] at scheduled
    cases scheduled

theorem Upheld.upholds (upheld : Upheld setting attempt journal address account here)
    (upholds : Journal.Upholds address account here there) :
    Upheld setting attempt journal address account there where
  retains := upholds.retains upheld.retains
  scheduled scheduled := by
    rw [upholds.destructed upheld.retains] at scheduled
    exact upheld.scheduled scheduled

theorem Upheld.step {stack : FrameStack} {openings : List Opened} {action : Option Action}
    {after : Machine} (upheld : Upheld setting attempt journal address account stack.journal)
    (underway : Underway setting attempt journal stack openings)
    (step : stack.machine.step setting = (action, after))
    (coded : stack.current.frame.context.address = address → account.code ≠ []) :
    Upheld setting attempt journal address account after.journal := by
  have effects := Machine.effects_of_step step
  refine ⟨effects.retains coded upheld.retains, ?_⟩
  intro scheduled
  cases before : stack.journal.isDestructed address with
  | true => exact upheld.scheduled before
  | false =>
    -- The account is scheduled now and was not before. Each fact about the instruction holds
    -- because without it the step would have upheld the account.
    have changed (upholds : Journal.Upholds address account stack.journal after.journal) : False := by
      have same := upholds.destructed upheld.retains
      rw [scheduled, before] at same
      cases same
    have own : stack.current.frame.context.address = address := by
      apply Decidable.byContradiction
      intro different
      exact changed (effects.upholds coded (.inl different))
    have early : setting.rules.isActive .selfdestructSameTxOnly = false := by
      apply Decidable.byContradiction
      intro sameOnly
      exact changed (effects.upholds coded (.inr (by simpa using sameOnly)))
    have instruction :
        stack.current.frame.code.bytes[stack.current.frame.position]? = some 0xff := by
      apply Decidable.byContradiction
      intro other
      have same := Machine.destructed_of_step step other
      rw [Journal.isDestructed, same] at scheduled
      rw [Journal.isDestructed] at before
      exact absurd (scheduled.symm.trans before) (by decide)
    exact ⟨coded own, early, stack, openings, action, after, underway, step, own, instruction,
      before, scheduled⟩

theorem frameInvariant_guarded
    (upheld : Upheld setting attempt journal address account journal)
    (established : account.Established)
    (calls : ∀ {request}, attempt = .call request → request.address = request.codeAddress) :
    FrameInvariant setting attempt journal (Guarded setting attempt journal address account) where
  start := by
    intro child entered enters
    have opens := Attempt.opens_of_run enters
    exact ⟨upheld.upholds (opens.upholds upheld.retains established),
      Attempt.coded_of_run enters upheld.retains established fun made => .inl (calls made),
      opens.kind_ne upheld.retains established⟩
  step := by
    intro stack opened outer action after underway step guarded
    refine ⟨guarded.upheld.step underway step ?_, guarded.coded, guarded.creates⟩
    rw [underway.context]
    exact guarded.coded
  base := by
    intro opened asked here guarded asks _
    exact ⟨guarded.upheld.upholds (asked.upholds_base setting here), guarded.coded, guarded.creates⟩
  opens := by
    intro opened asked here entered guarded asks _ opens
    have upholds : Journal.Upholds address account here entered :=
      opens.upholds guarded.upheld.retains established
    exact ⟨guarded.upheld.upholds upholds, guarded.coded, guarded.creates⟩
  runs := by
    intro opened asked here entered child caller guarded asks _ enters
    have opens := Attempt.opens_of_run enters
    have retains := guarded.upheld.retains
    refine ⟨guarded.upheld.upholds (opens.upholds retains established),
      Attempt.coded_of_run enters retains established ?_, opens.kind_ne retains established⟩
    intro request call
    subst call
    have asks : request.AskedBy setting.rules opened.context := asks
    rcases asks.address_eq with own | inherited
    · exact .inl own
    · rw [inherited]
      exact .inr guarded.coded
  deploys := by
    intro opened here target code guarded created
    exact ⟨guarded.upheld.upholds (Journal.upholds_setCode here target code (guarded.creates created)),
      guarded.coded, guarded.creates⟩
  keeps := by
    intro opened child left guarded asks handed
    exact ⟨handed.upheld, guarded.coded, guarded.creates⟩

theorem Ends.upheld {left : Journal} {remaining : Nat} {result : FrameResult} {progress : Progress}
    (ends : Ends setting attempt journal ⟨attempt, journal, none⟩ remaining result left progress)
    (retains : journal.Retains address account) (established : account.Established)
    (unscheduled : journal.isDestructed address = false)
    (calls : ∀ {request}, attempt = .call request → request.address = request.codeAddress) :
    Upheld setting attempt journal address account left := by
  have start : Upheld setting attempt journal address account journal :=
    .of_retains retains unscheduled
  have invariant := frameInvariant_guarded start established calls
  rcases ends.left_cases invariant with based | guarded | ⟨opens, _⟩
  · rw [based]
    exact start.upholds (attempt.upholds_base setting journal)
  · exact guarded.upheld
  · exact start.upholds (opens.upholds retains established)

end FrameStack

end StateTransition.Evm
