import StateTransition.Evm.Execution
import StateTransition.Proofs.Fork.Mainnet
import StateTransition.Proofs.FrameStack.Serving
import StateTransition.Proofs.Journal.Observation

namespace StateTransition

/-- Where static calls can be made, empty accounts are cleaned up. -/
def Rules.CleansUp (rules : Rules) : Prop :=
  (rules.opcodeGas 0xfa).isSome = true → rules.isActive .emptyAccountCleanup = true

theorem Mainnet.cleansUp (fork : Fork) : (rules fork).CleansUp := by
  rw [Rules.CleansUp, isSome_opcodeGas_staticcall, isActive_emptyAccountCleanup]
  exact id

namespace Evm

variable {setting : Setting} {rules : Rules} {machine after : Machine} {journal opened : Journal}
  {context : CallContext}

theorem Effects.warms_of_static (effects : Effects setting machine after)
    (static : machine.frame.context.isStatic = true) :
    machine.journal.Warms after.journal := by
  induction effects with
  | refl => exact .refl _
  | @tail middle last reached effect ih =>
    have frozen : middle.frame.context.isStatic = true := by
      rw [Effects.context_eq reached]
      exact static
    apply ih.trans
    cases effect with
    | compute frame context gas => exact .refl _
    | warmAccount address => exact Journal.warms_warmAccount _ address
    | warmSlot address key => exact Journal.warms_warmSlot _ address key
    | store _ _ _ mutable | storeTransient _ _ mutable | emit _ mutable | close _ mutable =>
      rw [frozen] at mutable
      cases mutable

namespace CallRequest

variable {request : CallRequest}

/-- Where empty accounts are cleaned up, a static call that is made reaches an account that is there
or a provided contract, and has nothing to give away. -/
structure Harmless (journal : Journal) (request : CallRequest) : Prop where
  known : journal.contains request.address = true ∨ (Precompile.at? request.address).isSome = true
  still : request.transfers = true → journal.contains request.caller = true ∧
    (request.value = 0#256 ∨ request.caller = request.address)

theorem Opens.harmless (opens : request.Opens rules journal opened)
    (asked : request.AskedBy rules context) (static : request.isStatic = true)
    (cleanup : rules.isActive .emptyAccountCleanup = true)
    (present : context.isStatic = true → journal.contains context.address = true) :
    request.Harmless journal := by
  obtain ⟨value, parties⟩ := asked.parties
  have inherits := asked.isStatic
  have transfers := asked.transfers
  have reached (free : request.value = 0#256) (own : request.address = request.codeAddress) :
      journal.contains request.address = true ∨
        (Precompile.at? request.address).isSome = true := by
    have busy := opens.busy
    rw [isIdle, cleanup, free, ← own] at busy
    cases there : journal.contains request.address with
    | true => exact .inl rfl
    | false =>
      rw [there] at busy
      exact .inr (by simpa [Word.isZero] using busy)
  have here (inherited : request.scheme ≠ .staticCall) :
      context.isStatic = true ∧ journal.contains context.address = true := by
    have frozen : context.isStatic = true := by simpa [static, inherited] using inherits.symm
    exact ⟨frozen, present frozen⟩
  -- Only a call or a static call names another account than the frame's own, which is there. With
  -- no value to move, `busy` says that the other one is there or a provided contract.
  cases scheme : request.scheme with
  | call =>
    rw [scheme] at parties here
    obtain ⟨frozen, there⟩ := here (by decide)
    simp only [Exec.callParties, Prod.mk.injEq] at parties
    obtain ⟨caller, address, sent⟩ := parties
    have free := asked.frozen frozen scheme
    refine ⟨reached free address, fun _ => ⟨?_, .inl free⟩⟩
    rwa [caller]
  | callCode =>
    rw [scheme] at parties here
    obtain ⟨frozen, there⟩ := here (by decide)
    simp only [Exec.callParties, Prod.mk.injEq] at parties
    obtain ⟨caller, address, sent⟩ := parties
    refine ⟨.inl ?_, fun _ => ⟨?_, .inr (caller.trans address.symm)⟩⟩
    · rwa [address]
    · rwa [caller]
  | delegateCall =>
    rw [scheme] at parties here transfers
    obtain ⟨frozen, there⟩ := here (by decide)
    simp only [Exec.callParties, Prod.mk.injEq] at parties
    obtain ⟨caller, address, sent⟩ := parties
    refine ⟨.inl ?_, fun moves => ?_⟩
    · rwa [address]
    · rw [transfers] at moves
      cases moves
  | staticCall =>
    rw [scheme] at parties transfers
    simp only [Exec.callParties, Prod.mk.injEq] at parties
    obtain ⟨caller, address, sent⟩ := parties
    refine ⟨reached sent address, fun moves => ?_⟩
    rw [transfers] at moves
    cases moves

theorem Opens.observes (opens : request.Opens rules journal opened)
    (harmless : request.Harmless journal) :
    journal.Observes opened ∧ opened.contains request.address = true := by
  have ensured := Journal.observes_ensure harmless.known
  have there : (journal.ensure request.address).contains request.address = true :=
    Journal.contains_ensure journal request.address
  have paid : (journal.ensure request.address).Observes opened := by
    rw [opens.result, payCallee]
    cases transfers : request.transfers with
    | false => exact Journal.observes_touch _ _
    | true =>
      obtain ⟨sends, still⟩ := harmless.still transfers
      have payable := payable_of_accepted opens.accepted transfers
      exact Journal.observes_move payable (ensured.contains sends) there still
  exact ⟨ensured.trans paid, paid.contains there⟩

end CallRequest

/-- What a frame that may not write relies on: accounts that become empty are cleaned up, its own
account is there, and what it has done so far nobody can tell. -/
structure Frozen (setting : Setting) (opened : Opened) (here : Journal) : Prop where
  cleanup : setting.rules.isActive .emptyAccountCleanup = true
  present : here.contains opened.context.address = true
  observes : (opened.base setting).Observes here

namespace FrameStack

variable {attempt : Attempt} {asked : Attempt} {opened : Opened} {here entered : Journal}

theorem exists_call_of_static (static : (attempt.context journal).isStatic = true) :
    ∃ request, attempt = .call request ∧ request.isStatic = true := by
  cases attempt with
  | call request => exact ⟨request, rfl, static⟩
  | create request | deploy request address => cases static

theorem isStatic_context (asked : attempt.AskedBy rules context) (static : context.isStatic = true)
    (journal : Journal) : (attempt.context journal).isStatic = true := by
  cases attempt with
  | call request =>
    have inherits : request.isStatic = (context.isStatic || _) := asked.isStatic
    rw [static, Bool.true_or] at inherits
    exact inherits
  | create request =>
    have mutable : context.isStatic = false := asked.mutable
    rw [static] at mutable
    cases mutable
  | deploy request address => exact asked.elim

theorem base_of_static (static : opened.context.isStatic = true) :
    opened.base setting = opened.journal := by
  obtain ⟨request, call, _⟩ := exists_call_of_static static
  rw [Opened.base, call]
  rfl

theorem cleanup_of_static {request : CallRequest} (cleans : rules.CleansUp)
    (asked : request.AskedBy rules context) (static : request.isStatic = true)
    (inherited : context.isStatic = true → rules.isActive .emptyAccountCleanup = true) :
    rules.isActive .emptyAccountCleanup = true := by
  have inherits := asked.isStatic
  rw [static] at inherits
  cases frozen : context.isStatic with
  | true => exact inherited frozen
  | false =>
    rw [frozen, Bool.false_or, eq_comm, beq_iff_eq] at inherits
    have priced := asked.priced
    rw [inherits] at priced
    exact cleans priced

theorem observes_of_opens {request : CallRequest} (cleans : setting.rules.CleansUp)
    (serves : opened.context.isStatic = true → Frozen setting opened here)
    (asked : request.AskedBy setting.rules opened.context) (static : request.isStatic = true)
    (opens : request.Opens setting.rules here entered) :
    setting.rules.isActive .emptyAccountCleanup = true ∧ here.Observes entered ∧
      entered.contains request.address = true := by
  have cleanup := cleanup_of_static cleans asked static fun frozen => (serves frozen).cleanup
  have harmless := opens.harmless asked static cleanup fun frozen => (serves frozen).present
  exact ⟨cleanup, opens.observes harmless⟩

theorem frameInvariant_frozen (setting : Setting) {journal : Journal}
    (cleans : setting.rules.CleansUp) (mutable : (attempt.context journal).isStatic = false) :
    FrameInvariant setting attempt journal fun opened here =>
      opened.context.isStatic = true → Frozen setting opened here where
  start := by
    intro child entered enters static
    have free : (attempt.context journal).isStatic = true := static
    rw [mutable] at free
    cases free
  step := by
    intro stack opened outer action after underway step serves static
    have frozen := serves static
    have running : stack.machine.frame.context.isStatic = true := by
      rw [machine, underway.context]
      exact static
    have observes := Journal.Observes.of_warms
      ((Machine.effects_of_step step).warms_of_static running)
    exact ⟨frozen.cleanup, observes.contains frozen.present, frozen.observes.trans observes⟩
  base := by
    intro opened asked here serves asks _ static
    obtain ⟨request, call, _⟩ := exists_call_of_static (isStatic_context asks static here)
    rw [call]
    exact serves static
  opens := by
    intro opened asked here entered serves asks _ opens static
    obtain ⟨request, call, inherits⟩ := exists_call_of_static (isStatic_context asks static here)
    subst call
    obtain ⟨cleanup, observes, reached⟩ := observes_of_opens cleans serves asks inherits opens
    exact ⟨cleanup, observes.contains (serves static).present,
      (serves static).observes.trans observes⟩
  runs := by
    intro opened asked here entered child caller serves asks _ enters static
    obtain ⟨request, call, inherits⟩ := exists_call_of_static static
    subst call
    obtain ⟨cleanup, observes, reached⟩ :=
      observes_of_opens cleans serves asks inherits (Attempt.opens_of_run enters)
    exact ⟨cleanup, reached, observes⟩
  deploys := by
    intro opened here address code serves created static
    obtain ⟨request, call, _⟩ := exists_call_of_static static
    rw [Opened.kind, call] at created
    cases created
  keeps := by
    intro opened child left waits asks handed static
    have frozen := waits static
    have within : child.context.isStatic = true := isStatic_context asks static child.journal
    have observes := (handed within).observes
    rw [base_of_static within] at observes
    exact ⟨frozen.cleanup, observes.contains frozen.present, frozen.observes.trans observes⟩

theorem isStatic_ofTransaction (tx : Transaction) (sender : Address) (gas : Nat)
    (journal : Journal) : ((Attempt.ofTransaction tx sender gas).context journal).isStatic = false := by
  rw [Attempt.ofTransaction]
  split <;> rfl

end FrameStack

/-- A frame that may not write asks for static calls only. Any other frame makes a static call by
asking for one, and never a static creation. -/
def Attempt.InheritsStatic (context : CallContext) : Attempt → Prop
  | .call request => request.isStatic = (context.isStatic || request.scheme == .staticCall)
  | .create _ | .deploy .. => context.isStatic = false

theorem Attempt.AskedBy.inheritsStatic {attempt : Attempt} (asked : attempt.AskedBy rules context) :
    attempt.InheritsStatic context := by
  cases attempt with
  | call request =>
    have call : request.AskedBy rules context := asked
    exact call.isStatic
  | create request =>
    have create : request.AskedBy context := asked
    exact create.mutable
  | deploy request address => exact asked.elim

namespace FrameStack

/-- At every fork of the main network, in whatever journal a transaction is executed: what a frame
that may not write leaves behind, however it ends and whatever frames it had below it, differs from
the journal it took its checkpoint in by warm and touched accounts and by empty accounts of
provided contracts at most. So does the journal at any time while the frame runs. -/
theorem static_frames_only_read (fork : Fork) (environment : Environment) (accepted : Accepted)
    (tx : Transaction) (gas : Nat) (journal : Journal) :
    (∀ opened remaining result left next,
      Ends (accepted.setting (Mainnet.rules fork) environment)
        (.ofTransaction tx accepted.sender gas) journal opened remaining result left next →
      opened.context.isStatic = true → opened.journal.Observes left) ∧
    ∀ stack opened outer,
      Underway (accepted.setting (Mainnet.rules fork) environment)
        (.ofTransaction tx accepted.sender gas) journal stack (opened :: outer) →
      stack.current.frame.context = opened.context ∧
      (opened.context.isStatic = true → stack.current.checkpoint = opened.journal.checkpoint ∧
        opened.journal.Observes stack.journal) ∧
      ∀ action after asked,
        stack.machine.step (accepted.setting (Mainnet.rules fork) environment) =
          (some action, after) →
        action.attempt? = some asked → asked.InheritsStatic opened.context := by
  have cleans := Mainnet.cleansUp fork
  generalize Mainnet.rules fork = rules at cleans ⊢
  have invariant := frameInvariant_frozen (accepted.setting rules environment) cleans
    (isStatic_ofTransaction tx accepted.sender gas journal)
  constructor
  · intro opened remaining result left next ends static
    rcases ends.left_cases invariant with based | kept | ⟨opens, asks⟩
    · rw [based, base_of_static static]
      exact .refl _
    · have observes := (kept static).observes
      rwa [base_of_static static] at observes
    · rcases asks with outermost | ⟨parent, serves, asks⟩
      · rw [outermost, Opened.context, isStatic_ofTransaction] at static
        cases static
      · obtain ⟨request, call, inherits⟩ := exists_call_of_static static
        rw [call] at opens asks
        exact (observes_of_opens cleans serves asks inherits opens).2.1
  · intro stack opened outer underway
    refine ⟨underway.context, ?_, ?_⟩
    · intro static
      obtain ⟨first, rest, same, serves⟩ := underway.nested.exists_served
      cases same
      have checkpoint := serves.checkpoint
      have observes := ((underway.serving invariant).holds static).observes
      rw [base_of_static static] at checkpoint observes
      exact ⟨checkpoint, observes⟩
    · intro action after asked step asks
      have made := Machine.askedBy_of_step step asks
      rw [machine, underway.context] at made
      exact made.inheritsStatic

/-- A contract makes a static call of another one, which calls the provided contract that copies its
input. -/
def readerWorld : World :=
  .ofList
    [(⟨0x2000#160⟩,
      { code :=
          [0x60, 0x00, 0x60, 0x00, 0x60, 0x00, 0x60, 0x00, 0x61, 0x30, 0x00, 0x62, 0x01, 0x00, 0x00,
           0xfa] }),
     (⟨0x3000#160⟩,
      { code :=
          [0x60, 0x00, 0x60, 0x00, 0x60, 0x00, 0x60, 0x00, 0x60, 0x00, 0x60, 0x04, 0x61, 0xff, 0xff,
           0xf1] })]

def callOfReader : Transaction where
  nonce := 0
  gasLimit := 200000
  recipient := some ⟨0x2000#160⟩
  value := 0#256
  data := []
  kind := .legacy 10#256 none

theorem static_frames_only_read_reader : ∃ opened remaining result left next,
    Ends (Accepted.setting ⟨⟨0x10#160⟩, 21000, 10#256⟩ (Mainnet.rules .london) {})
      (.ofTransaction callOfReader ⟨0x10#160⟩ 100000) (.start readerWorld) opened remaining result
      left next ∧
    opened.context.isStatic = true ∧ opened.journal.contains ⟨0x04#160⟩ = false ∧
      left.contains ⟨0x04#160⟩ = true ∧ opened.journal.Observes left := by
  let setting : Setting := Accepted.setting ⟨⟨0x10#160⟩, 21000, 10#256⟩ (Mainnet.rules .london) {}
  have seen : (reach setting (.ofTransaction callOfReader ⟨0x10#160⟩ 100000) (.start readerWorld)
      15).map (fun reached =>
        (reached.2.map (fun opened => (opened.context.isStatic, opened.journal.contains ⟨0x04#160⟩)),
          (reached.1.machine.step setting).1,
          (settle setting.rules (reached.1.machine.step setting).2.journal reached.1.current.kind
            reached.1.current.checkpoint (.success 62900 [])).2.contains ⟨0x04#160⟩)) =
      some ([(true, false), (false, false)], some (.finish (.success 62900 [])), true) := by
    simp only [setting, Mainnet.rules_eq_readOff]
    decide +kernel
  obtain ⟨⟨stack, openings⟩, reaches, facts⟩ := Option.map_eq_some_iff.mp seen
  simp only [Prod.mk.injEq] at facts
  obtain ⟨frames, finishes, made⟩ := facts
  have underway := underway_of_reach reaches
  cases openings with
  | nil => cases frames
  | cons opened outer =>
    simp only [List.map_cons, List.cons.injEq, Prod.mk.injEq] at frames
    obtain ⟨⟨static, missing⟩, _⟩ := frames
    cases step : stack.machine.step setting with
    | mk action after =>
    rw [step] at finishes made
    cases finishes
    have ends := Ends.frame underway step rfl
    have observes := (static_frames_only_read .london {} ⟨⟨0x10#160⟩, 21000, 10#256⟩ callOfReader
      100000 (.start readerWorld)).1 opened _ _ _ _ ends static
    exact ⟨opened, _, _, _, _, ends, static, missing, made, observes⟩

end FrameStack

end Evm

end StateTransition
