import StateTransition.Proofs.Journal.Warmth
import StateTransition.Proofs.StackActions

/-!
What holds where an action ends well. Short of pushing and of writing to the journal an action only
takes from the frame: gas and operands go, while memory and what is warm stay.
-/

namespace StateTransition

/-- The least an access to an account costs, nothing where accesses have no price. -/
def Rules.leastAccess (rules : Rules) : Nat :=
  if rules.defines .coldAccountAccess then
    min (rules.amount .coldAccountAccess) (rules.amount .warmStorageRead)
  else 0

namespace Evm

namespace Memory

theorem size_resizeWords (memory : Memory) (count : Nat) :
    (memory.resizeWords count).size = max memory.size (32 * count) := by
  simp only [resizeWords, size, Array.size_append, Array.size_replicate]
  omega

theorem covers_resizeWords (memory : Memory) (offset size : Nat) :
    (memory.resizeWords (wordCount (offset + size))).covers offset size := by
  have words : offset + size ≤ 32 * wordCount (offset + size) := by
    rw [wordCount]
    omega
  rw [covers, size_resizeWords, Bool.or_eq_true]
  exact .inr (decide_eq_true (by omega))

theorem covers_mono {memory : Memory} {offset size length : Nat} (covered : memory.covers offset size)
    (fits : length ≤ size) : memory.covers offset length := by
  simp only [covers, Bool.or_eq_true, beq_iff_eq, decide_eq_true_eq] at covered ⊢
  omega

theorem covers_of_size_le {memory grown : Memory} {offset size : Nat}
    (larger : memory.size ≤ grown.size) (covered : memory.covers offset size) :
    grown.covers offset size := by
  simp only [covers, Bool.or_eq_true, beq_iff_eq, decide_eq_true_eq] at covered ⊢
  omega

end Memory

/-- What is left of a machine that takes operands, pays, grows its memory and warms accounts. -/
structure Follows (before after : Machine) : Prop where
  context : after.frame.context = before.frame.context
  gas : after.frame.gas ≤ before.frame.gas
  memory : before.frame.memory.size ≤ after.frame.memory.size
  stack : after.frame.stack.size ≤ before.frame.stack.size
  warm : before.journal.StaysWarm after.journal

namespace Follows

variable {before middle after : Machine}

theorem refl (machine : Machine) : Follows machine machine :=
  ⟨rfl, Nat.le_refl _, Nat.le_refl _, Nat.le_refl _, .refl _⟩

theorem trans (first : Follows before middle) (second : Follows middle after) :
    Follows before after where
  context := second.context.trans first.context
  gas := Nat.le_trans second.gas first.gas
  memory := Nat.le_trans first.memory second.memory
  stack := Nat.le_trans second.stack first.stack
  warm := first.warm.trans second.warm

theorem covers {offset size : Nat} (follows : Follows before after)
    (covered : before.frame.memory.covers offset size) :
    after.frame.memory.covers offset size :=
  Memory.covers_of_size_le follows.memory covered

end Follows

/-- Nothing but taking operands, paying, growing memory and warming. -/
def Powers.frugal : Powers := ⟨false, false, false, false⟩

namespace Exec

variable {α β : Type} {machine start : Machine} {rules : Rules}

/-- If the action ends well, its answer and the machine after it satisfy a condition. -/
def Ensures (action : Exec α) (machine : Machine) (post : α → Machine → Prop) : Prop :=
  match action machine with
  | .ok answer after => post answer after
  | .error _ _ => True

theorem Ensures.of_run {action : Exec α} {after : Machine} {answer : α}
    {post : α → Machine → Prop} (ensures : Ensures action machine post)
    (run : action machine = .ok answer after) : post answer after := by
  rw [Ensures, run] at ensures
  exact ensures

theorem ensures_pure {answer : α} {post : α → Machine → Prop} (holds : post answer machine) :
    Ensures (pure answer) machine post := holds

theorem ensures_bind {action : Exec α} {next : α → Exec β} {post : β → Machine → Prop}
    (first : Ensures action machine fun answer after => Ensures (next answer) after post) :
    Ensures (action >>= next) machine post := by
  rw [Ensures] at first ⊢
  simp only [bind, EStateM.bind]
  cases run : action machine with
  | ok answer after =>
    rw [run] at first
    exact first
  | error reason after => trivial

theorem ensures_mono {action : Exec α} {post weaker : α → Machine → Prop}
    (ensures : Ensures action machine post)
    (implies : ∀ answer after, post answer after → weaker answer after) :
    Ensures action machine weaker := by
  rw [Ensures] at ensures ⊢
  cases run : action machine with
  | ok answer after =>
    rw [run] at ensures
    exact implies answer after ensures
  | error reason after => trivial

theorem ensures_of_forall {action : Exec α} {post : α → Machine → Prop}
    (holds : ∀ answer after, post answer after) : Ensures action machine post := by
  rw [Ensures]
  split
  · exact holds _ _
  · trivial

theorem ensures_skip {action : Exec α} {next : α → Exec β} {post : β → Machine → Prop}
    (rest : ∀ answer after, Ensures (next answer) after post) :
    Ensures (action >>= next) machine post :=
  ensures_bind (ensures_of_forall rest)

theorem ensures_frame {post : Frame → Machine → Prop} (holds : post machine.frame machine) :
    Ensures frame machine post := holds

theorem ensures_context {post : CallContext → Machine → Prop}
    (holds : post machine.frame.context machine) : Ensures context machine post := holds

theorem ensures_modifyFrame {change : Frame → Frame} {post : Unit → Machine → Prop}
    (holds : post () { machine with frame := change machine.frame }) :
    Ensures (modifyFrame change) machine post := holds

theorem ensures_askJournal {change : Journal → α × Journal} {post : α → Machine → Prop}
    (holds : post (change machine.journal).1
      { machine with journal := (change machine.journal).2 }) :
    Ensures (askJournal change) machine post := holds

theorem ensures_onStack {action : StackAction α} {post : α → Machine → Prop}
    (holds : ∀ answer stack, action machine.frame.stack = .ok answer stack →
      post answer { machine with frame := { machine.frame with stack } }) :
    Ensures (onStack action) machine post := by
  rw [Ensures, onStack]
  cases run : action machine.frame.stack with
  | ok answer stack => exact holds answer stack run
  | error reason stack => trivial

theorem ok_of_onStack {action : StackAction α} {answer : α} {after : Machine}
    (run : onStack action machine = .ok answer after) :
    ∃ stack, action machine.frame.stack = .ok answer stack ∧
      after = { machine with frame := { machine.frame with stack } } := by
  rw [onStack] at run
  cases worked : action machine.frame.stack with
  | ok answer stack =>
    rw [worked] at run
    cases run
    exact ⟨stack, rfl, rfl⟩
  | error reason stack =>
    rw [worked] at run
    cases run

theorem ensures_require (condition : Bool) (reason : Halt) :
    Ensures (require condition reason) machine fun _ after =>
      after = machine ∧ condition = true := by
  cases condition with
  | true => exact ⟨rfl, rfl⟩
  | false => trivial

theorem ensures_requireNonStatic :
    Ensures requireNonStatic machine fun _ after =>
      after = machine ∧ machine.frame.context.isStatic = false := by
  rw [requireNonStatic]
  refine ensures_bind (ensures_context ?_)
  cases frozen : machine.frame.context.isStatic with
  | true => trivial
  | false => exact ⟨rfl, rfl⟩

theorem ensures_useGas (amount : Nat) :
    Ensures (useGas amount) machine fun _ after =>
      after.frame.gas + amount = machine.frame.gas ∧
        after.frame.memory = machine.frame.memory := by
  rw [Ensures, useGas]
  by_cases short : machine.frame.gas < amount
  · simp [short]
  · have enough : amount ≤ machine.frame.gas := Nat.le_of_not_lt short
    simp [short, Nat.sub_add_cancel enough]

theorem ensures_loadWord (offset : Nat) :
    Ensures (loadWord offset) machine fun _ after => after = machine := by
  rw [Ensures, loadWord]
  cases machine.frame.memory.load? offset <;> trivial

theorem ensures_readBytes (offset size : Nat) :
    Ensures (readBytes offset size) machine fun _ after => after = machine := by
  rw [Ensures, readBytes]
  cases machine.frame.memory.slice? offset size <;> trivial

theorem ensures_memoryRange (offset size : Word) :
    Ensures (memoryRange rules offset size) machine fun range after =>
      range.2 = size.toNat ∧ after.frame.memory.covers range.1 range.2 := by
  rw [memoryRange]
  split
  · rename_i nothing
    have zero : size = 0#256 := by simpa [Word.isZero] using nothing
    rw [zero]
    exact ensures_pure ⟨rfl, rfl⟩
  · apply ensures_skip
    intro _ _
    refine ensures_bind (ensures_frame ?_)
    apply ensures_skip
    intro _ paid
    exact ensures_bind (ensures_modifyFrame
      (ensures_pure ⟨rfl, Memory.covers_resizeWords _ _ _⟩))

theorem follows_useGas (amount : Nat) :
    Ensures (useGas amount) machine fun _ after => Follows machine after := by
  rw [Ensures, useGas]
  by_cases short : machine.frame.gas < amount
  · simp [short]
  · rw [if_neg short]
    exact ⟨rfl, Nat.sub_le _ _, Nat.le_refl _, Nat.le_refl _, .refl _⟩

theorem follows_memoryRange (offset size : Word) :
    Ensures (memoryRange rules offset size) machine fun _ after => Follows machine after := by
  rw [memoryRange]
  split
  · exact ensures_pure (.refl _)
  · refine ensures_bind (ensures_mono (ensures_require _ _) fun _ checked unchanged => ?_)
    rw [unchanged.1]
    refine ensures_bind (ensures_frame ?_)
    refine ensures_bind (ensures_mono (follows_useGas _) fun _ paid pays => ?_)
    refine ensures_bind (ensures_modifyFrame (ensures_pure (pays.trans ?_)))
    refine ⟨rfl, Nat.le_refl _, ?_, Nat.le_refl _, .refl _⟩
    rw [Memory.size_resizeWords]
    exact Nat.le_max_left _ _

theorem follows_onStack {action : StackAction α}
    (takes : ∀ answer stack, action machine.frame.stack = .ok answer stack →
      stack.size ≤ machine.frame.stack.size) :
    Ensures (onStack action) machine fun _ after => Follows machine after :=
  ensures_onStack fun answer stack run =>
    ⟨rfl, Nat.le_refl _, Nat.le_refl _, takes answer stack run, .refl _⟩

theorem Composed.follows {powers : Powers} {action : Exec α}
    (composed : Composed rules powers action) (light : powers.pushes = false)
    (calm : powers.writes = false) (machine : Machine) :
    Ensures action machine fun _ after => Follows machine after := by
  induction composed generalizing machine with
  | pure answer => exact .refl machine
  | throw _ => trivial
  | bind _ _ first rest =>
    refine ensures_bind (ensures_mono (first machine) fun answer middle reached => ?_)
    exact ensures_mono (rest answer middle) fun _ after further => reached.trans further
  | readJournal _ _ rest => exact rest machine.journal machine
  | frame | context | gas => exact .refl machine
  | require condition _ =>
    exact ensures_mono (ensures_require condition _) fun _ _ same => same.1 ▸ .refl machine
  | loadWord offset _ =>
    exact ensures_mono (ensures_loadWord offset) fun _ _ same => same ▸ .refl machine
  | readBytes offset size _ =>
    exact ensures_mono (ensures_readBytes offset size) fun _ _ same => same ▸ .refl machine
  | writeBytes offset data _ =>
    rw [Ensures, Exec.writeBytes]
    by_cases covered : machine.frame.memory.covers offset data.length
    · rw [if_pos covered]
      refine ⟨rfl, Nat.le_refl _, Nat.le_of_eq ?_, Nat.le_refl _, .refl _⟩
      simp only [Memory.size, Memory.write, Memory.size_overwrite]
    · simp [covered]
  | swap depth =>
    apply follows_onStack
    intro _ stack run
    rw [Stack.swap] at run
    split at run <;> cases run
    exact Nat.le_of_eq (by simp [Stack.size])
  | pop =>
    apply follows_onStack
    intro word stack run
    have items := congrArg List.length (Stack.toList_of_pop run)
    simp only [Stack.length_toList, List.length_cons] at items
    simp only [Stack.size]
    omega
  | popMany count =>
    apply follows_onStack
    intro words stack run
    rw [(Stack.toList_of_popMany run).2, Stack.size_dropTop]
    exact Nat.sub_le _ _
  | popEach count =>
    apply follows_onStack
    intro words stack run
    rw [(Stack.toList_of_popEach run).2, Stack.size_dropTop]
    exact Nat.sub_le _ _
  | useGas amount => exact follows_useGas amount
  | memoryRange offset size => exact follows_memoryRange offset size
  | forget | skip => exact ⟨rfl, Nat.le_refl _, Nat.le_refl _, Nat.le_refl _, .refl _⟩
  | jump destination _ =>
    rw [Ensures, Exec.jump]
    by_cases known : machine.frame.code.isDestination destination.toNat
    · rw [if_pos known]
      exact ⟨rfl, Nat.le_refl _, Nat.le_refl _, Nat.le_refl _, .refl _⟩
    · simp [known]
  | warmAccount address =>
    exact ⟨rfl, Nat.le_refl _, Nat.le_refl _, Nat.le_refl _,
      .of_warms (Journal.warms_warmAccount _ address)⟩
  | warmSlot address key =>
    exact ⟨rfl, Nat.le_refl _, Nat.le_refl _, Nat.le_refl _,
      .of_warms (Journal.warms_warmSlot _ address key)⟩
  | push _ allowed | dup _ allowed => exact absurd (light.symm.trans allowed) (by decide)
  | store _ _ _ _ allowed | storeTransient _ _ _ allowed | emit _ allowed | close _ _ allowed =>
    exact absurd (calm.symm.trans allowed) (by decide)

theorem follows (rules : Rules) {action : Exec α} (composed : Composed rules .frugal action)
    (machine : Machine) : Ensures action machine fun _ after => Follows machine after :=
  composed.follows rfl rfl machine

theorem ensures_accessAccount (address : Address) :
    Ensures (accessAccount rules address) machine fun _ after =>
      after.frame.gas + rules.leastAccess ≤ machine.frame.gas ∧
        (rules.defines .coldAccountAccess = true → after.journal.isWarm address = true) := by
  rw [accessAccount]
  split
  · rename_i priced
    refine ensures_bind (ensures_askJournal ?_)
    rw [Ensures, useGas]
    by_cases short : machine.frame.gas <
        Gas.access rules .coldAccountAccess (machine.journal.warmAccount address).1
    · simp [short]
    · have least : rules.leastAccess ≤
          Gas.access rules .coldAccountAccess (machine.journal.warmAccount address).1 := by
        rw [Rules.leastAccess, Gas.access, if_pos priced, if_pos priced]
        cases (machine.journal.warmAccount address).1 with
        | true => exact Nat.min_le_left _ _
        | false => exact Nat.min_le_right _ _
      rw [if_neg short]
      refine ⟨?_, fun _ => Journal.isWarm_warmAccount machine.journal address⟩
      simp only
      omega
  · rename_i free
    refine ensures_pure ⟨?_, fun priced => absurd priced free⟩
    rw [Rules.leastAccess, if_neg free]
    exact Nat.le_refl _

/-- The action does not reach past the end of memory. -/
def Faultless (action : Exec α) (machine : Machine) : Prop :=
  ∀ after, action machine ≠ .error .memoryFault after

/-- An action that no machine makes fault. -/
def NeverFaults (action : Exec α) : Prop := ∀ machine, Faultless action machine

/-- The action does not reach past the end of memory and, if it ends well, satisfies a condition. -/
def Delivers (action : Exec α) (machine : Machine) (post : α → Machine → Prop) : Prop :=
  Faultless action machine ∧ Ensures action machine post

theorem faultless_bind {action : Exec α} {next : α → Exec β} (first : Faultless action machine)
    (rest : Ensures action machine fun answer after => Faultless (next answer) after) :
    Faultless (action >>= next) machine := by
  intro last
  rw [Ensures] at rest
  simp only [bind, EStateM.bind]
  cases run : action machine with
  | ok answer after =>
    rw [run] at rest
    exact rest last
  | error reason after =>
    intro fault
    cases fault
    exact first last run

theorem neverFaults_bind {action : Exec α} {next : α → Exec β} (first : NeverFaults action)
    (rest : ∀ answer, NeverFaults (next answer)) : NeverFaults (action >>= next) := fun machine =>
  faultless_bind (first machine) (ensures_of_forall fun answer after => rest answer after)

theorem neverFaults_ok {action : Exec α}
    (ends : ∀ machine, ∃ answer after, action machine = .ok answer after) : NeverFaults action := by
  intro machine last fault
  obtain ⟨answer, after, run⟩ := ends machine
  rw [run] at fault
  cases fault

theorem neverFaults_onStack {action : StackAction α}
    (refuses : ∀ stack rest, action stack ≠ .error .memoryFault rest) :
    NeverFaults (onStack action) := by
  intro machine after fault
  rw [onStack] at fault
  cases run : action machine.frame.stack with
  | ok answer stack =>
    rw [run] at fault
    cases fault
  | error reason stack =>
    rw [run] at fault
    cases fault
    exact refuses _ _ run

theorem neverFaults_useGas (amount : Nat) : NeverFaults (useGas amount) := by
  intro machine after fault
  rw [useGas] at fault
  split at fault <;> cases fault

theorem neverFaults_memoryRange (rules : Rules) (offset size : Word) :
    NeverFaults (memoryRange rules offset size) := by
  have grows : NeverFaults (do
      let needed := wordCount (offset.toNat + size.toNat)
      let current := (← frame).memory.words
      useGas (Gas.memoryGrowth rules current needed)
      modifyFrame fun frame => { frame with memory := frame.memory.resizeWords needed }
      return (offset.toNat, size.toNat)) := by
    apply neverFaults_bind (neverFaults_ok fun _ => ⟨_, _, rfl⟩)
    intro frame
    exact neverFaults_bind (neverFaults_useGas _) fun _ => neverFaults_ok fun _ => ⟨_, _, rfl⟩
  intro machine
  rw [memoryRange]
  split
  · exact neverFaults_ok (fun _ => ⟨_, _, rfl⟩) machine
  · intro after fault
    cases affordable : (decide (offset.toNat ≤ memoryLimit) && decide (size.toNat ≤ memoryLimit)) with
    | true =>
      simp only [affordable] at fault
      exact grows machine after fault
    | false => simp [affordable, require, bind, EStateM.bind] at fault

theorem Composed.neverFaults {powers : Powers} {action : Exec α}
    (composed : Composed rules powers action) (blind : powers.copies = false) :
    NeverFaults action := by
  induction composed with
  | bind _ _ first rest => exact neverFaults_bind first rest
  | readJournal _ _ rest => exact fun machine => rest machine.journal machine
  | throw other =>
    intro machine after fault
    cases fault
    exact other rfl
  | require condition other =>
    intro machine after fault
    cases condition <;> cases fault
    exact other rfl
  | loadWord _ allowed | readBytes _ _ allowed | writeBytes _ _ allowed =>
    exact absurd (blind.symm.trans allowed) (by decide)
  | push word _ | dup depth _ | swap depth | pop =>
    apply neverFaults_onStack
    intro stack rest fault
    simp only [Stack.push, Stack.dup, Stack.swap, Stack.pop] at fault
    split at fault <;> try split at fault
    all_goals cases fault
  | popMany count =>
    apply neverFaults_onStack
    intro stack rest fault
    by_cases enough : count ≤ stack.size
    · obtain ⟨words, taken, -⟩ := Stack.popMany_of_le enough
      rw [taken] at fault
      cases fault
    · rw [Stack.popMany_of_lt (Nat.lt_of_not_le enough)] at fault
      cases fault
  | popEach count =>
    apply neverFaults_onStack
    intro stack rest fault
    by_cases enough : count ≤ stack.size
    · obtain ⟨words, taken, -⟩ := Stack.popEach_of_le enough
      rw [taken] at fault
      cases fault
    · rw [Stack.popEach_of_lt (Nat.lt_of_not_le enough)] at fault
      cases fault
  | useGas amount => exact neverFaults_useGas amount
  | memoryRange offset size => exact neverFaults_memoryRange rules offset size
  | jump destination _ =>
    intro machine after fault
    rw [Exec.jump] at fault
    split at fault <;> cases fault
  | _ => exact neverFaults_ok fun _ => ⟨_, _, rfl⟩

theorem delivers_pure {answer : α} {post : α → Machine → Prop} (holds : post answer machine) :
    Delivers (pure answer) machine post :=
  ⟨fun _ => nofun, holds⟩

theorem delivers_bind {action : Exec α} {next : α → Exec β} {post : β → Machine → Prop}
    (first : Delivers action machine fun answer after => Delivers (next answer) after post) :
    Delivers (action >>= next) machine post :=
  ⟨faultless_bind first.1 (ensures_mono first.2 fun _ _ rest => rest.1),
    ensures_bind (ensures_mono first.2 fun _ _ rest => rest.2)⟩

/-- A part of an instruction that takes, pays and warms, by its own specification and by what the
instruction has done so far. -/
theorem delivers_next (rules : Rules) {action : Exec α} {next : α → Exec β}
    {middle : α → Machine → Prop} {post : β → Machine → Prop}
    (composed : Composed rules .frugal action) (sofar : Follows start machine)
    (ensures : Ensures action machine middle)
    (rest : ∀ answer after, middle answer after → Follows machine after → Follows start after →
      Delivers (next answer) after post) : Delivers (action >>= next) machine post := by
  apply delivers_bind
  refine ⟨composed.neverFaults rfl machine, ?_⟩
  have follows := follows rules composed machine
  rw [Ensures] at ensures follows ⊢
  cases run : action machine with
  | ok answer after =>
    rw [run] at ensures follows
    exact rest answer after ensures follows (sofar.trans follows)
  | error reason after => trivial

theorem delivers_skip (rules : Rules) {action : Exec α} {next : α → Exec β}
    {post : β → Machine → Prop} (composed : Composed rules .frugal action)
    (sofar : Follows start machine)
    (rest : ∀ answer after, Follows start after → Delivers (next answer) after post) :
    Delivers (action >>= next) machine post :=
  delivers_next rules composed sofar (ensures_of_forall fun _ _ => trivial)
    fun answer after _ _ further => rest answer after further

theorem delivers_ite_skip (rules : Rules) {condition : Prop} [Decidable condition]
    {yes no : Exec α} {next : α → Exec β} {post : β → Machine → Prop}
    (whenTrue : Composed rules .frugal yes) (whenFalse : Composed rules .frugal no)
    (sofar : Follows start machine)
    (rest : ∀ answer after, Follows start after → Delivers (next answer) after post) :
    Delivers (if condition then yes >>= next else no >>= next) machine post := by
  split
  · exact delivers_skip rules whenTrue sofar rest
  · exact delivers_skip rules whenFalse sofar rest

theorem delivers_journal {next : Journal → Exec β} {post : β → Machine → Prop}
    (rest : Delivers (next machine.journal) machine post) :
    Delivers (journal >>= next) machine post := rest

theorem delivers_gas {next : Nat → Exec β} {post : β → Machine → Prop}
    (rest : Delivers (next machine.frame.gas) machine post) :
    Delivers (gas >>= next) machine post := rest

theorem delivers_context {next : CallContext → Exec β} {post : β → Machine → Prop}
    (rest : Delivers (next machine.frame.context) machine post) :
    Delivers (context >>= next) machine post := rest

theorem delivers_modifyFrame {change : Frame → Frame} {next : Unit → Exec β}
    {post : β → Machine → Prop}
    (rest : Delivers (next ()) { machine with frame := change machine.frame } post) :
    Delivers (modifyFrame change >>= next) machine post := rest

theorem delivers_readBytes {next : Bytes → Exec β} {post : β → Machine → Prop} {offset size : Nat}
    (covered : machine.frame.memory.covers offset size)
    (rest : ∀ bytes, bytes.length ≤ size → Delivers (next bytes) machine post) :
    Delivers (readBytes offset size >>= next) machine post := by
  have read : readBytes offset size machine =
      .ok (machine.frame.memory.bytes.extract offset (offset + size)).toList machine := by
    simp [readBytes, Memory.slice?, covered]
  apply delivers_bind
  rw [Delivers, Faultless, Ensures, read]
  refine ⟨?_, rest _ ?_⟩
  · intro _ halts
    cases halts
  · rw [Array.length_toList, Array.size_extract]
    omega

end Exec

end Evm

end StateTransition
