import StateTransition.Proofs.FrameStack.Endings
import StateTransition.Proofs.Instruction.Faults

namespace StateTransition.Evm

def Control.reverts : Control → Bool
  | .revert _ => true
  | _ => false

namespace Exec

variable {setting : Setting} {machine after : Machine}

theorem ensures_execute_revert (setting : Setting) (opcode : Opcode) :
    Ensures (execute setting opcode) machine fun control _ =>
      control.reverts = true → opcode = .revert := by
  have plain (action : Exec Unit) : Ensures (proceed action) machine fun control _ =>
      control.reverts = true → opcode = .revert := by
    apply ensures_mono (ensures_proceed action)
    intro control after same reverts
    rw [same] at reverts
    cases reverts
  have calls (scheme : CallScheme) : Ensures (call setting scheme) machine fun control _ =>
      control.reverts = true → opcode = .revert := by
    apply ensures_mono (delivers_call setting scheme).2
    rintro _ after ⟨request, rfl, _⟩ ⟨⟩
  have creates (salted : Bool) : Ensures (create setting salted) machine fun control _ =>
      control.reverts = true → opcode = .revert := by
    apply ensures_mono (delivers_create setting salted).2
    rintro _ after ⟨request, rfl, _⟩ ⟨⟩
  cases opcode with
  | revert => exact ensures_of_forall fun _ _ _ => rfl
  | ret => exact ensures_skip fun output _ => ensures_pure fun reverts => by cases reverts
  | stop | jumpdest => exact ensures_pure fun reverts => by cases reverts
  | invalid => trivial
  | create => exact creates false
  | create2 => exact creates true
  | call => exact calls .call
  | callcode => exact calls .callCode
  | delegatecall => exact calls .delegateCall
  | staticcall => exact calls .staticCall
  | selfdestruct =>
    apply ensures_mono (ensures_selfdestruct setting)
    intro control after same reverts
    rw [same] at reverts
    cases reverts
  | _ => exact plain _

theorem byte_of_revert {output : Bytes} (run : step setting machine = .ok (.revert output) after) :
    machine.frame.code.bytes[machine.frame.position]? = some 0xfd := by
  have ensured : Ensures (step setting) machine fun control _ => control.reverts = true →
      machine.frame.code.bytes[machine.frame.position]? = some 0xfd := by
    apply ensures_step_of_execute
    · intro reverts
      cases reverts
    · intro byte opcode price stands
      apply ensures_mono (ensures_execute_revert setting opcode)
      intro control after same reverts
      rw [stands.next, ← Opcode.toByte_of_ofByte? stands.named, same reverts]
      rfl
  rw [Ensures, run] at ensured
  exact ensured rfl

end Exec

/-- The attempt is turned down before it changes anything, and gives its gas back. -/
def Attempt.Refused (setting : Setting) (journal : Journal) : Attempt → Prop
  | .call request => refusesCall setting.rules journal request = true
  | .create request =>
    refusesCreate setting.rules journal request = true ∨
      (((Attempt.create request).base setting journal).createAccount (createTarget journal request)
        (freshNonce setting.rules)).cannotPay request.caller request.value = true
  | .deploy request address =>
    (((Attempt.deploy request address).base setting journal).createAccount address
      (freshNonce setting.rules)).cannotPay request.caller request.value = true

/-- How an attempt without a frame may end: it reverts where it is refused, and does not fault. -/
structure FrameResult.EndsAtOnce (refused : Prop) (result : FrameResult) : Prop where
  reverts : result.status = .revert → refused
  faultless : result.status ≠ .halt .memoryFault

namespace FrameResult.EndsAtOnce

variable {refused : Prop}

theorem success (gas : Nat) (output : Bytes) : (FrameResult.success gas output).EndsAtOnce refused :=
  ⟨fun same => (by cases same), fun same => (by cases same)⟩

theorem revert (gas : Nat) (holds : refused) : (FrameResult.revert gas []).EndsAtOnce refused :=
  ⟨fun _ => holds, fun same => (by cases same)⟩

theorem halt {reason : Halt} (other : reason ≠ .memoryFault) :
    (FrameResult.halt reason).EndsAtOnce refused :=
  ⟨fun same => (by cases same), fun same => other (FrameStatus.halt.inj same)⟩

end FrameResult.EndsAtOnce

theorem Precompile.eq_outOfGas {contract : Precompile} {input : Bytes} {gas : Nat} {reason : Halt}
    (fails : contract.run input gas = .error reason) : reason = .outOfGas := by
  simp only [run] at fails
  split at fails <;> cases fails
  rfl

variable {setting : Setting} {journal left : Journal} {kind : FrameKind} {result : FrameResult}

theorem endsAtOnce_startCall {request : CallRequest}
    (enters : startCall setting journal request = (.done kind result, left)) :
    result.EndsAtOnce (refusesCall setting.rules journal request = true) := by
  rw [startCall] at enters
  split at enters
  · rename_i refused
    cases enters
    exact .revert _ refused
  · split at enters
    · cases enters
      exact .success _ _
    · simp only [enterCode] at enters
      split at enters
      · split at enters
        · cases enters
          exact .success _ _
        · rename_i reason fails
          cases enters
          rw [Precompile.eq_outOfGas fails]
          exact .halt (by decide)
      · split at enters
        · cases enters
          exact .success _ _
        · cases enters

theorem endsAtOnce_enterCreate {request : CreateRequest} {address : Address}
    (enters : enterCreate setting journal request address = (.done kind result, left)) :
    result.EndsAtOnce (((warmTarget setting.rules journal address).createAccount address
      (freshNonce setting.rules)).cannotPay request.caller request.value = true) := by
  simp only [enterCreate] at enters
  split at enters
  · cases enters
    exact .halt (by decide)
  · split at enters
    · rename_i unpaid
      cases enters
      exact .revert _ unpaid
    · split at enters
      · cases enters
        exact .success _ _
      · cases enters

theorem Attempt.endsAtOnce {attempt : Attempt}
    (enters : attempt.enter setting journal = (.done kind result, left)) :
    result.EndsAtOnce (attempt.Refused setting journal) := by
  cases attempt with
  | call request => exact endsAtOnce_startCall enters
  | deploy request address => exact endsAtOnce_enterCreate enters
  | create request =>
    rw [enter, startCreate] at enters
    split at enters
    · rename_i refused
      cases enters
      exact .revert _ (.inl refused)
    · rename_i accepted
      have ends := endsAtOnce_enterCreate enters
      refine ⟨fun reverts => .inr ?_, ends.faultless⟩
      rw [base, if_neg accepted]
      exact ends.reverts reverts

theorem status_of_settle {rules : Rules} {checkpoint : Checkpoint} {raw : FrameResult}
    (settles : settle rules journal kind checkpoint raw = (result, left)) :
    (result.status = .revert → result = raw) ∧
      (raw.status ≠ .halt .memoryFault → result.status ≠ .halt .memoryFault) := by
  have halts (reason : Halt) (other : reason ≠ .memoryFault) :
      ((FrameResult.halt reason).status = .revert → FrameResult.halt reason = raw) ∧
        (raw.status ≠ .halt .memoryFault →
          (FrameResult.halt reason).status ≠ .halt .memoryFault) :=
    ⟨fun same => (by cases same), fun _ same => other (FrameStatus.halt.inj same)⟩
  have succeeds (gas : Nat) (code : Bytes) :
      ((FrameResult.success gas code).status = .revert → FrameResult.success gas code = raw) ∧
        (raw.status ≠ .halt .memoryFault →
          (FrameResult.success gas code).status ≠ .halt .memoryFault) :=
    ⟨fun same => (by cases same), fun _ same => (by cases same)⟩
  have settled := congrArg Prod.fst settles
  cases kind with
  | call offset size =>
    cases settled
    exact ⟨fun _ => rfl, id⟩
  | create address =>
    by_cases succeeded : raw.isSuccess
    · simp only [settle, if_pos succeeded, depositCode] at settled
      split at settled
      · exact settled ▸ halts _ (by decide)
      · split at settled
        · exact settled ▸ halts _ (by decide)
        · split at settled
          · split at settled
            · exact settled ▸ halts _ (by decide)
            · exact settled ▸ succeeds _ _
          · exact settled ▸ succeeds _ _
    · simp only [settle, if_neg succeeded] at settled
      cases settled
      exact ⟨fun _ => rfl, id⟩

namespace Machine

variable {machine after : Machine} {raw : FrameResult}

theorem revert_of_step (step : machine.step setting = (some (.finish raw), after))
    (reverts : raw.status = .revert) :
    machine.frame.code.bytes[machine.frame.position]? = some 0xfd ∧
      ∃ output, Exec.step setting machine = .ok (.revert output) after ∧
        raw = .revert after.frame.gas output := by
  have advances := (advance_of_step step nofun).1
  rw [Machine.advance] at advances
  cases run : Exec.step setting machine with
  | ok control reached =>
    rw [run] at advances
    cases control with
    | revert output =>
      cases advances
      exact ⟨Exec.byte_of_revert run, output, rfl, rfl⟩
    | stop | finish output =>
      cases advances
      cases reverts
    | next | call request | create request => cases advances
  | error reason reached =>
    rw [run] at advances
    cases advances
    cases reverts

theorem status_ne_memoryFault (step : machine.step setting = (some (.finish raw), after)) :
    raw.status ≠ .halt .memoryFault := by
  have advances := (advance_of_step step nofun).1
  rw [Machine.advance] at advances
  cases run : Exec.step setting machine with
  | ok control reached =>
    rw [run] at advances
    cases control with
    | stop | finish output | revert output =>
      cases advances
      intro fault
      cases fault
    | next | call request | create request => cases advances
  | error reason reached =>
    rw [run] at advances
    cases advances
    intro fault
    cases fault
    exact Exec.neverFaults_step setting machine _ run

end Machine

theorem Nested.parents_eq_nil {opened : Opened} {current : Activation}
    {parents : List Activation} (nested : Nested setting current parents journal [opened]) :
    parents = [] := by
  cases nested with
  | outermost serves alone => rfl
  | inner serves waits room outer => cases outer

namespace FrameStack

variable {attempt : Attempt} {stack : FrameStack} {opened : Opened} {remaining : Nat}
  {next : Progress}

theorem Ends.status_ne_memoryFault
    (ends : Ends setting attempt journal opened remaining result left next) :
    result.status ≠ .halt .memoryFault := by
  cases ends with
  | outright enters => exact (Attempt.endsAtOnce enters).faultless
  | atOnce underway step asks enters => exact (Attempt.endsAtOnce enters).faultless
  | frame underway step settles =>
    exact (status_of_settle settles).2 (Machine.status_ne_memoryFault step)

/-- A frame of an attempt stands at a revert instruction, which ends the attempt with a result. -/
structure RevertsAt (setting : Setting) (attempt : Attempt) (journal : Journal)
    (openings : List Opened) (stack : FrameStack) (result : FrameResult) : Prop where
  underway : Underway setting attempt journal stack openings
  byte : stack.current.frame.code.bytes[stack.current.frame.position]? = some 0xfd
  reverts : ∃ output after, Exec.step setting stack.machine = .ok (.revert output) after ∧
    result = .revert after.frame.gas output

/-- Whatever reverts was refused, or a frame of it executed a revert instruction. -/
theorem Ends.revert_cases (ends : Ends setting attempt journal opened remaining result left next)
    (reverts : result.status = .revert) :
    opened.attempt.Refused setting opened.journal ∨
      ∃ stack openings, RevertsAt setting attempt journal (opened :: openings) stack result := by
  cases ends with
  | outright enters => exact .inl ((Attempt.endsAtOnce enters).reverts reverts)
  | atOnce underway step asks enters =>
    exact .inl ((Attempt.endsAtOnce enters).reverts reverts)
  | @frame stack opened openings raw result after left underway step settles =>
    have same := (status_of_settle settles).1 reverts
    subst same
    obtain ⟨byte, output, run, ended⟩ := Machine.revert_of_step step reverts
    exact .inr ⟨stack, openings, underway, byte, output, after, run, ended⟩

end FrameStack

end StateTransition.Evm
