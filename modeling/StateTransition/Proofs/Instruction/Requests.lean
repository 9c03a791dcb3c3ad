import StateTransition.Proofs.Instruction.Outcomes

namespace StateTransition

/-- The value surcharge of a call is worth at least the stipend its callee gets. -/
def Rules.CoversStipend (rules : Rules) : Prop :=
  rules.amount .callStipend ≤ rules.amount .callValueTransfer

namespace Evm

def CallScheme.opcode : CallScheme → Opcode
  | call => .call
  | callCode => .callcode
  | delegateCall => .delegatecall
  | staticCall => .staticcall

theorem Opcode.toByte_of_ofByte? {byte : UInt8} {opcode : Opcode}
    (named : ofByte? byte = some opcode) : opcode.toByte = byte := by
  have all : ∀ place : Fin 256, (ofByte? (UInt8.ofNat place.val)).all fun opcode =>
      opcode.toByte == UInt8.ofNat place.val := by decide +kernel
  have known := all ⟨byte.toNat, byte.toNat_lt⟩
  simp only [UInt8.ofNat_toNat] at known
  rw [named] at known
  simpa using known

/-- A call as a frame with some context asks for it. -/
structure CallRequest.AskedBy (rules : Rules) (context : CallContext) (request : CallRequest) :
    Prop where
  parties : ∃ value, (request.caller, request.address, request.value) =
    Exec.callParties context request.scheme request.codeAddress value
  transfers : request.transfers =
    (request.scheme == CallScheme.call || request.scheme == CallScheme.callCode)
  isStatic : request.isStatic = (context.isStatic || request.scheme == CallScheme.staticCall)
  depth : request.depth = context.depth + 1
  frozen : context.isStatic = true → request.scheme = .call → request.value = 0#256
  priced : (rules.opcodeGas request.scheme.opcode.toByte).isSome = true

/-- A frame acts as the account its code comes from, or as the frame that asked for it. -/
theorem CallRequest.AskedBy.address_eq {rules : Rules} {context : CallContext}
    {request : CallRequest} (asked : request.AskedBy rules context) :
    request.address = request.codeAddress ∨ request.address = context.address := by
  obtain ⟨value, parties⟩ := asked.parties
  cases scheme : request.scheme with
  | call | staticCall =>
    rw [scheme] at parties
    simp only [Exec.callParties, Prod.mk.injEq] at parties
    exact .inl parties.2.1
  | callCode | delegateCall =>
    rw [scheme] at parties
    simp only [Exec.callParties, Prod.mk.injEq] at parties
    exact .inr parties.2.1

structure CreateRequest.AskedBy (context : CallContext) (request : CreateRequest) : Prop where
  caller : request.caller = context.address
  mutable : context.isStatic = false
  depth : request.depth = context.depth + 1

def Attempt.AskedBy (rules : Rules) (context : CallContext) : Attempt → Prop
  | .call request => request.AskedBy rules context
  | .create request => request.AskedBy context
  | .deploy .. => False

/-- The account a call takes its code from is warm, where accesses have a price. -/
def CallRequest.Aimed (rules : Rules) (journal : Journal) (request : CallRequest) : Prop :=
  rules.defines .coldAccountAccess = true → journal.isWarm request.codeAddress = true

def Attempt.Aimed (rules : Rules) (journal : Journal) : Attempt → Prop
  | .call request => request.Aimed rules journal
  | .create _ | .deploy .. => True

/-- A call as the instruction that asks for it leaves the machine. -/
structure CallRequest.Issued (rules : Rules) (before after : Machine) (request : CallRequest) :
    Prop where
  asked : request.AskedBy rules before.frame.context
  paid : rules.CoversStipend →
    after.frame.gas + request.gas + rules.leastAccess ≤ before.frame.gas
  room : after.frame.memory.covers request.returnOffset request.returnSize
  aimed : request.Aimed rules after.journal
  freed : after.frame.stack.size < before.frame.stack.size

/-- A creation as the instruction that asks for it leaves the machine. -/
structure CreateRequest.Issued (before after : Machine) (request : CreateRequest) : Prop where
  asked : request.AskedBy before.frame.context
  paid : after.frame.gas + request.gas ≤ before.frame.gas
  freed : after.frame.stack.size < before.frame.stack.size

namespace Control

def asks : Control → Bool
  | call _ | create _ => true
  | _ => false

def Issued (rules : Rules) (before after : Machine) : Control → Prop
  | call request => request.Issued rules before after
  | create request => request.Issued before after
  | _ => True

theorem Issued.of_quiet {rules : Rules} {before after : Machine} {control : Control}
    (quiet : control.asks = false) : control.Issued rules before after := by
  cases control with
  | call request | create request => cases quiet
  | _ => trivial

theorem Issued.room {rules : Rules} {before after : Machine} {control : Control}
    (issued : control.Issued rules before after) (asks : control.asks = true) :
    after.frame.stack.size < stackLimit := by
  cases control with
  | call request =>
    exact Nat.lt_of_lt_of_le (CallRequest.Issued.freed issued) before.frame.stack.bounded
  | create request =>
    exact Nat.lt_of_lt_of_le (CreateRequest.Issued.freed issued) before.frame.stack.bounded
  | _ => cases asks

end Control

/-- The frame is at an instruction that it can pay the static price of. -/
structure Machine.StandsAt (rules : Rules) (machine : Machine) (byte : UInt8) (opcode : Opcode)
    (price : Nat) : Prop where
  next : machine.frame.code.bytes[machine.frame.position]? = some byte
  priced : rules.opcodeGas byte = some price
  named : Opcode.ofByte? byte = some opcode
  enough : price ≤ machine.frame.gas

theorem Machine.StandsAt.isSome {rules : Rules} {machine : Machine} {byte : UInt8}
    {opcode : Opcode} {price : Nat} (stands : machine.StandsAt rules byte opcode price) :
    (rules.opcodeGas opcode.toByte).isSome = true := by
  rw [Opcode.toByte_of_ofByte? stands.named, stands.priced]
  rfl

def Machine.begin (machine : Machine) (price : Nat) : Machine :=
  { machine with frame :=
    { machine.frame with
      gas := machine.frame.gas - price
      position := machine.frame.position + 1 } }

/-- A request of an instruction is one of its step, which pays the static price besides. -/
theorem Control.Issued.of_begin {rules : Rules} {before after : Machine} {price : Nat}
    {control : Control} (issued : control.Issued rules (before.begin price) after) :
    control.Issued rules before after := by
  have gas : (before.begin price).frame.gas ≤ before.frame.gas := Nat.sub_le _ _
  cases control with
  | call request =>
    have issued : request.Issued rules (before.begin price) after := issued
    exact ⟨issued.asked, fun covers => Nat.le_trans (issued.paid covers) gas, issued.room,
      issued.aimed, issued.freed⟩
  | create request =>
    have issued : request.Issued (before.begin price) after := issued
    exact ⟨issued.asked, Nat.le_trans issued.paid gas, issued.freed⟩
  | _ => trivial

namespace Exec

variable {α β : Type} {machine : Machine} {rules : Rules} {setting : Setting}

theorem ensures_pop :
    Ensures pop machine fun _ after => after.frame.stack.size < machine.frame.stack.size := by
  apply ensures_onStack
  intro word stack run
  have items := congrArg List.length (Stack.toList_of_pop run)
  simp only [Stack.length_toList, List.length_cons] at items
  simp only [Stack.size]
  omega

theorem ensures_popThree :
    Ensures popThree machine fun _ after =>
      after.frame.stack.size < machine.frame.stack.size := by
  refine ensures_bind (ensures_onStack fun words stack run => ensures_pure ?_)
  by_cases enough : 3 ≤ machine.frame.stack.size
  · simp only [(Stack.toList_of_popMany run).2, Stack.size_dropTop]
    omega
  · rw [Stack.popMany_of_lt (Nat.lt_of_not_le enough)] at run
    cases run

theorem callStipend_le_callSurcharge (covers : rules.CoversStipend) (journal : Journal)
    (scheme : CallScheme) (target : Address) (movesValue : Bool) :
    (if movesValue then rules.amount .callStipend else 0) ≤
      callSurcharge rules journal scheme target movesValue := by
  rw [Rules.CoversStipend] at covers
  cases movesValue with
  | false => exact Nat.zero_le _
  | true =>
    simp only [callSurcharge, if_true]
    omega

theorem delivers_checkValue (rules : Rules) {start : Machine} {scheme : CallScheme} {value : Word}
    {next : Exec β} {post : β → Machine → Prop} (sofar : Follows start machine)
    (rest : ∀ after, Follows start after →
      (start.frame.context.isStatic = true → scheme = .call → value = 0#256) →
      Delivers next after post) :
    Delivers (if (scheme == CallScheme.call && !value.isZero) = true
      then requireNonStatic >>= fun _ => next else next) machine post := by
  split
  · apply delivers_next rules .requireNonStatic sofar ensures_requireNonStatic
    intro _ after ⟨_, mutable⟩ _ further
    refine rest after further fun static => ?_
    rw [← sofar.context, mutable] at static
    cases static
  · rename_i skips
    refine rest machine sofar fun _ calls => ?_
    simpa [calls, Word.isZero] using skips

/-- The one walk through a call. -/
theorem delivers_call (setting : Setting) (scheme : CallScheme) :
    Delivers (call setting scheme) machine fun control after =>
      ∃ request, control = .call request ∧
        ((setting.rules.opcodeGas scheme.opcode.toByte).isSome = true →
          request.Issued setting.rules machine after) := by
  apply delivers_next setting.rules .pop (.refl machine) ensures_pop
  intro requested popped freed first _
  apply delivers_skip setting.rules .popAddress (.refl popped)
  intro target aimed taking
  apply delivers_ite_skip setting.rules .pop (.pure _) taking
  intro value valued taking
  apply delivers_skip setting.rules (.popMany 4) taking
  intro ranges ready taking
  apply delivers_checkValue setting.rules taking
  intro checked taking frozen
  apply delivers_next setting.rules (.memoryRange _ _) taking (ensures_memoryRange _ _)
  intro input read readable _ taking
  apply delivers_next setting.rules (.memoryRange _ _) taking (ensures_memoryRange _ _)
  intro output wide room widens taking
  have readable := widens.covers readable.2
  apply delivers_next setting.rules (.accessAccount _) (.refl wide) (ensures_accessAccount _)
  intro _ accessed ⟨access, warm⟩ _ paying
  apply delivers_journal
  apply delivers_next setting.rules (.useGas _) paying (ensures_useGas _)
  intro _ charged surcharge keeps paying
  apply delivers_gas
  cases Gas.forCall setting.rules requested charged.frame.gas with
  | none => exact ⟨fun _ => nofun, trivial⟩
  | some handed =>
    apply delivers_next setting.rules (.useGas handed) paying (ensures_useGas handed)
    intro _ debited debit kept paying
    apply delivers_context
    apply delivers_modifyFrame
    refine delivers_readBytes (paying.covers readable :) fun bytes _ => ?_
    have parties : debited.frame.context = popped.frame.context :=
      paying.context.trans taking.context
    refine delivers_pure ⟨_, rfl, fun known => ?_⟩
    refine ⟨?_, fun covers => ?_, paying.covers room.2, fun priced => ?_, ?_⟩
    · rw [parties, first.context]
      refine ⟨⟨value, rfl⟩, rfl, rfl, rfl, fun static calls => ?_, known⟩
      subst calls
      rw [← first.context] at static
      exact frozen static rfl
    · have stipend := callStipend_le_callSurcharge covers accessed.journal scheme target
        (!value.isZero)
      have := first.gas
      have := taking.gas
      have := surcharge.1
      have := debit.1
      simp only
      omega
    · exact kept.warm.accounts target (keeps.warm.accounts target (warm priced))
    · have := taking.stack
      have := paying.stack
      simp only
      omega

theorem delivers_create (setting : Setting) (salted : Bool) :
    Delivers (create setting salted) machine fun control after =>
      ∃ request, control = .create request ∧ request.Issued machine after := by
  apply delivers_next setting.rules .requireNonStatic (.refl machine) ensures_requireNonStatic
  intro _ checked ⟨same, mutable⟩ _ _
  subst same
  apply delivers_next setting.rules .popThree (.refl checked) ensures_popThree
  intro operands popped freed first _
  apply delivers_ite_skip setting.rules (.map _ .pop) (.pure _) (.refl popped)
  intro salt ready taking
  apply delivers_next setting.rules (.memoryRange _ _) taking (ensures_memoryRange _ _)
  intro range read readable _ taking
  apply delivers_skip setting.rules (.require _ (by decide)) (.refl read)
  intro _ small paying
  apply delivers_skip setting.rules (.useGas _) paying
  intro _ charged paying
  have rest (paid : Machine) (paying : Follows read paid) :
      Delivers (do
        let handed := Gas.forCreate setting.rules (← gas)
        useGas handed
        modifyFrame ({ · with returnData := [] })
        let initCode ← readBytes range.1 range.2
        let context ← context
        return .create {
          caller := context.address
          value := operands.1
          initCode
          salt
          gas := handed
          depth := context.depth + 1 } : Exec Control) paid fun control after =>
        ∃ request, control = .create request ∧ request.Issued checked after := by
    apply delivers_gas
    apply delivers_next setting.rules (.useGas _) paying (ensures_useGas _)
    intro _ debited debit _ debiting
    apply delivers_modifyFrame
    refine delivers_readBytes (debiting.covers readable.2 :) fun bytes _ => ?_
    apply delivers_context
    have parties : debited.frame.context = checked.frame.context :=
      debiting.context.trans (taking.context.trans first.context)
    refine delivers_pure ⟨_, rfl, ?_, ?_, ?_⟩
    · simp only [parties]
      exact ⟨rfl, mutable, rfl⟩
    · have := first.gas
      have := taking.gas
      have := paying.gas
      have := debit.1
      simp only
      omega
    · have := taking.stack
      have := debiting.stack
      simp only
      omega
  split
  · exact delivers_skip setting.rules (.useGas _) paying fun _ paid paying => rest paid paying
  · exact rest charged paying

theorem ensures_selfdestruct (setting : Setting) :
    Ensures (selfdestruct setting) machine fun control _ => control = .stop := by
  refine ensures_skip fun _ _ => ensures_skip fun beneficiary _ => ensures_skip fun context _ => ?_
  refine ensures_skip fun _ _ => ensures_skip fun _ _ => ensures_skip fun _ _ => ?_
  exact ensures_pure rfl

theorem ensures_proceed (action : Exec Unit) :
    Ensures (proceed action) machine fun control _ => control = .next :=
  ensures_bind (ensures_of_forall fun _ _ => ensures_pure rfl)

theorem ensures_execute_of_requests {post : Control → Machine → Prop} (setting : Setting)
    (opcode : Opcode) (plain : ∀ control after, control.asks = false → post control after)
    (calls : ∀ scheme, opcode = scheme.opcode → Ensures (call setting scheme) machine post)
    (creates : ∀ salted, Ensures (create setting salted) machine post) :
    Ensures (execute setting opcode) machine post := by
  have proceeds (action : Exec Unit) : Ensures (proceed action) machine post := by
    apply ensures_mono (ensures_proceed action)
    intro control after same
    rw [same]
    exact plain .next after rfl
  cases opcode with
  | stop => exact ensures_pure (plain .stop machine rfl)
  | jumpdest => exact ensures_pure (plain .next machine rfl)
  | invalid => trivial
  | create => exact creates false
  | create2 => exact creates true
  | call => exact calls .call rfl
  | callcode => exact calls .callCode rfl
  | delegatecall => exact calls .delegateCall rfl
  | staticcall => exact calls .staticCall rfl
  | ret => exact ensures_skip fun output after => plain (.finish output) after rfl
  | revert => exact ensures_skip fun output after => plain (.revert output) after rfl
  | selfdestruct =>
    apply ensures_mono (ensures_selfdestruct setting)
    intro control after same
    rw [same]
    exact plain .stop after rfl
  | _ => exact proceeds _

theorem issued_execute {opcode : Opcode}
    (priced : (setting.rules.opcodeGas opcode.toByte).isSome = true) :
    Ensures (execute setting opcode) machine fun control after =>
      control.Issued setting.rules machine after := by
  apply ensures_execute_of_requests setting opcode
  · intro control after quiet
    exact .of_quiet quiet
  · intro scheme named
    apply ensures_mono (delivers_call setting scheme).2
    rintro _ after ⟨request, rfl, issued⟩
    exact issued (named ▸ priced)
  · intro salted
    apply ensures_mono (delivers_create setting salted).2
    rintro _ after ⟨request, rfl, issued⟩
    exact issued

theorem ensures_step_of_execute {setting : Setting} {post : Control → Machine → Prop}
    (stops : post .stop machine)
    (executes : ∀ {byte opcode price}, machine.StandsAt setting.rules byte opcode price →
      Ensures (execute setting opcode) (machine.begin price) post) :
    Ensures (step setting) machine post := by
  refine ensures_bind (ensures_frame ?_)
  cases next : machine.frame.code.bytes[machine.frame.position]? with
  | none => exact ensures_pure stops
  | some byte =>
    simp only
    cases priced : setting.rules.opcodeGas byte with
    | none => trivial
    | some price =>
      cases named : Opcode.ofByte? byte with
      | none => trivial
      | some opcode =>
        apply ensures_bind
        rw [Ensures, useGas]
        by_cases short : machine.frame.gas < price
        · rw [if_pos short]
          trivial
        · rw [if_neg short]
          exact ensures_bind
            (ensures_modifyFrame (executes ⟨next, priced, named, Nat.le_of_not_lt short⟩))

/-- Whatever an instruction asks for names the frame that runs it and is paid by it. -/
theorem issued_step (setting : Setting) (machine : Machine) :
    Ensures (step setting) machine fun control after =>
      control.Issued setting.rules machine after := by
  apply ensures_step_of_execute
  · trivial
  · intro byte opcode price stands
    exact ensures_mono (issued_execute stands.isSome) fun _ _ issued => issued.of_begin

end Exec

end Evm

end StateTransition
