import StateTransition.Evm.Machine
import StateTransition.Proofs.Responses
import StateTransition.Proofs.StackActions

/-!
The operand stack as a list of at most 1024 words with the top in front. A request on the list is
undefined where it names an item that is not there; the stack refuses just what is undefined and
what would make it too long, and every refusal finds and leaves it as it was.
-/

namespace StateTransition.Evm

inductive StackRequest where
  | push (word : Word)
  | pushBool (condition : Bool)
  | pop
  | popMany (count : Nat)
  | peek
  | peekAt (depth : Nat)
  | swap (depth : Nat)
  | dup (depth : Nat)
  deriving DecidableEq, Repr

namespace Stack

def look (read : Stack → Except Halt Word) : StackAction (List Word) := fun stack =>
  match read stack with
  | .ok word => .ok [word] stack
  | .error reason => .error reason stack

/-- The words a request is answered with, top first. -/
def ask : StackRequest → StackAction (List Word)
  | .push word => do
    push word
    return []
  | .pushBool condition => do
    pushBool condition
    return []
  | .pop => return [← pop]
  | .popMany count => return (← popMany count).toList
  | .peek => look peek
  | .peekAt depth => look (peekAt · depth)
  | .swap depth => do
    swap depth
    return []
  | .dup depth => do
    dup depth
    return []

/-- The answer or the refusal, and the stack as the request leaves it either way. -/
def serves (stack : Stack) (request : StackRequest) : Except Halt (List Word) × Stack :=
  match ask request stack with
  | .ok words after => (.ok words, after)
  | .error reason after => (.error reason, after)

end Stack

namespace StackRequest

/-- A request on a list of any length; nothing where it is undefined. -/
def onList (items : List Word) : StackRequest → Option (List Word × List Word)
  | push word => some ([], word :: items)
  | pushBool condition => some ([], (if condition then 1#256 else 0#256) :: items)
  | pop => items.head?.map fun top => ([top], items.tail)
  | popMany count =>
    if count ≤ items.length then some (items.take count, items.drop count) else none
  | peek => items.head?.map fun top => ([top], items)
  | peekAt depth => items[depth]?.map fun word => ([word], items)
  | swap 0 => none
  | swap (depth + 1) => do
    let top ← items.head?
    let lower ← items[depth + 1]?
    return ([], (items.set 0 lower).set (depth + 1) top)
  | dup 0 => none
  | dup (depth + 1) => items[depth]?.map fun word => ([], word :: items)

/-- Refused where it is undefined, and else where the list would become too long. -/
def onBounded (items : List Word) (request : StackRequest) : Except Halt (List Word × List Word) :=
  match request.onList items with
  | none => .error .stackUnderflow
  | some (words, after) =>
    if after.length ≤ stackLimit then .ok (words, after) else .error .stackOverflow

variable {items : List Word} {request : StackRequest}

theorem onBounded_eq_underflow_iff :
    request.onBounded items = .error .stackUnderflow ↔ request.onList items = none := by
  rw [onBounded]
  split
  · rename_i undefined
    simp [undefined]
  · rename_i words after defined
    split <;> simp [defined]

theorem onBounded_eq_overflow_iff :
    request.onBounded items = .error .stackOverflow ↔
      ∃ words after, request.onList items = some (words, after) ∧ stackLimit < after.length := by
  rw [onBounded]
  split
  · rename_i undefined
    simp [undefined]
  · rename_i words after defined
    by_cases fits : after.length ≤ stackLimit
    · rw [if_pos fits, defined]
      constructor
      · nofun
      · intro ⟨_, _, same, long⟩
        cases same
        exact absurd long (Nat.not_lt.mpr fits)
    · rw [if_neg fits]
      exact ⟨fun _ => ⟨words, after, defined, Nat.lt_of_not_le fits⟩, fun _ => rfl⟩

theorem reason_of_onBounded {reason : Halt} (refused : request.onBounded items = .error reason) :
    reason = .stackUnderflow ∨ reason = .stackOverflow := by
  rw [onBounded] at refused
  split at refused
  · cases refused
    exact .inl rfl
  · split at refused <;> cases refused
    exact .inr rfl

end StackRequest

namespace Stack

variable {stack after : Stack} {request : StackRequest}

theorem getElem?_toList_eq_none {place : Nat} (missing : ¬ place < stack.items.size) :
    stack.toList[place]? = none := by
  simpa using missing

theorem toList_of_swap {depth : Nat} (positive : 0 < depth) (present : depth < stack.items.size)
    (swapped : swap depth stack = .ok () after) :
    after.toList = (stack.toList.set 0 stack.items[stack.items.size - 1 - depth]).set depth
      stack.items[stack.items.size - 1] := by
  rw [swap, dif_pos ⟨positive, present⟩] at swapped
  cases swapped
  apply List.ext_getElem?
  intro place
  by_cases inside : place < stack.items.size
  · have reached : stack.items.size - 1 - place < stack.items.size := by omega
    have top : 0 < stack.items.size := Nat.zero_lt_of_lt inside
    have low : stack.items.size - 1 - place = stack.items.size - 1 - depth ↔ depth = place := by
      omega
    have high : stack.items.size - 1 - place = stack.items.size - 1 ↔ 0 = place := by omega
    rw [getElem?_toList (by simpa using inside) (by simpa using reached)]
    simp only [List.getElem?_set, List.length_set, length_toList, present, top, if_true,
      getElem?_toList inside reached, Array.size_swap, Array.getElem_swap, low, high]
    by_cases lower : depth = place
    · have below : ¬0 = place := by omega
      simp [lower, below]
    · by_cases first : 0 = place <;> simp [lower, first]
  · simp [toList, inside]

/-- The stack grants a request with the answer of the list, or refuses it with the same reason and
is afterwards what it was. -/
inductive Agrees (stack : Stack) (request : StackRequest) : Prop where
  | granted (words : List Word) (after : Stack) (asked : ask request stack = .ok words after)
      (listed : request.onBounded stack.toList = .ok (words, after.toList))
  | refused (reason : Halt) (asked : ask request stack = .error reason stack)
      (listed : request.onBounded stack.toList = .error reason)

theorem agrees_of_ok (words : List Word) (after : Stack)
    (defined : request.onList stack.toList = some (words, after.toList))
    (asked : ask request stack = .ok words after) : Agrees stack request := by
  refine .granted words after asked ?_
  rw [StackRequest.onBounded, defined]
  exact if_pos after.length_toList_le

theorem agrees_of_none (undefined : request.onList stack.toList = none)
    (asked : ask request stack = .error .stackUnderflow stack) : Agrees stack request := by
  refine .refused .stackUnderflow asked ?_
  rw [StackRequest.onBounded, undefined]

theorem agrees_of_cons (word : Word)
    (defined : request.onList stack.toList = some ([], word :: stack.toList))
    (asked : ask request stack = (do push word; return [] : StackAction (List Word)) stack) :
    Agrees stack request := by
  simp only [bind, EStateM.bind] at asked
  by_cases room : stack.items.size < stackLimit
  · obtain ⟨pushed, run, items⟩ := push_of_length_lt word (by simpa using room)
    rw [run] at asked
    exact agrees_of_ok [] pushed (items ▸ defined) asked
  · rw [push, dif_neg room] at asked
    refine .refused .stackOverflow asked ?_
    have long : ¬ (word :: stack.toList).length ≤ stackLimit := by
      rw [List.length_cons, length_toList]
      omega
    rw [StackRequest.onBounded, defined]
    exact if_neg long

theorem agrees_peekAt (stack : Stack) (depth : Nat) : Agrees stack (.peekAt depth) := by
  by_cases present : depth < stack.items.size
  · apply agrees_of_ok _ stack
    · rw [StackRequest.onList, getElem?_toList present (by omega)]
      rfl
    · rw [ask, look, peekAt, dif_pos present]
  · apply agrees_of_none
    · rw [StackRequest.onList, getElem?_toList_eq_none present]
      rfl
    · rw [ask, look, peekAt, dif_neg present]

theorem agrees_peek (stack : Stack) : Agrees stack .peek := by
  have same : StackRequest.peek.onBounded stack.toList =
      (StackRequest.peekAt 0).onBounded stack.toList := by
    rw [StackRequest.onBounded, StackRequest.onBounded, StackRequest.onList, StackRequest.onList,
      List.head?_eq_getElem?]
  cases agrees_peekAt stack 0 with
  | granted words after asked listed => exact .granted words after asked (same.trans listed)
  | refused reason asked listed => exact .refused reason asked (same.trans listed)

theorem agrees_pop (stack : Stack) : Agrees stack .pop := by
  cases held : stack.toList with
  | nil =>
    obtain rfl : stack = empty := ext_toList held
    exact agrees_of_none rfl rfl
  | cons word rest =>
    obtain ⟨popped, items⟩ := pop_of_toList held
    apply agrees_of_ok [word] (stack.dropTop 1)
    · rw [StackRequest.onList, held, items]
      rfl
    · simp only [ask, bind, EStateM.bind, popped]
      rfl

theorem agrees_popMany (stack : Stack) (count : Nat) : Agrees stack (.popMany count) := by
  by_cases enough : count ≤ stack.size
  · obtain ⟨taken, popped, listed⟩ := popMany_of_le enough
    apply agrees_of_ok taken.toList (stack.dropTop count)
    · rw [StackRequest.onList, if_pos (by rwa [length_toList]), listed, toList_dropTop]
    · simp only [ask, bind, EStateM.bind, popped]
      rfl
  · apply agrees_of_none
    · rw [StackRequest.onList, if_neg (by rwa [length_toList])]
    · simp only [ask, bind, EStateM.bind, popMany_of_lt (Nat.lt_of_not_le enough)]

theorem agrees_swap (stack : Stack) (depth : Nat) : Agrees stack (.swap depth) := by
  cases depth with
  | zero => exact agrees_of_none rfl rfl
  | succ depth =>
    by_cases present : depth + 1 < stack.items.size
    · have reached : 0 < depth + 1 ∧ depth + 1 < stack.items.size := ⟨Nat.succ_pos depth, present⟩
      have top : 0 < stack.items.size := Nat.zero_lt_of_lt present
      cases swapped : swap (depth + 1) stack with
      | error reason rest =>
        rw [swap, dif_pos reached] at swapped
        cases swapped
      | ok answer after =>
        apply agrees_of_ok [] after
        · rw [StackRequest.onList, List.head?_eq_getElem?, getElem?_toList top (by omega),
            getElem?_toList present (by omega), toList_of_swap reached.1 present swapped]
          rfl
        · simp only [ask, bind, EStateM.bind, swapped]
          rfl
    · have absent : ¬ (0 < depth + 1 ∧ depth + 1 < stack.items.size) := fun reached =>
        present reached.2
      apply agrees_of_none
      · rw [StackRequest.onList, getElem?_toList_eq_none present]
        cases stack.toList.head? <;> rfl
      · simp only [ask, bind, EStateM.bind, swap, dif_neg absent]

theorem agrees_dup (stack : Stack) (depth : Nat) : Agrees stack (.dup depth) := by
  cases depth with
  | zero => exact agrees_of_none rfl rfl
  | succ depth =>
    by_cases present : depth < stack.items.size
    · have place : stack.items.size - (depth + 1) = stack.items.size - 1 - depth := by omega
      have reached : 0 < depth + 1 ∧ depth + 1 ≤ stack.items.size := ⟨Nat.succ_pos depth, present⟩
      apply agrees_of_cons stack.items[stack.items.size - 1 - depth]
      · rw [StackRequest.onList, getElem?_toList present (by omega)]
        rfl
      · simp only [ask, bind, EStateM.bind, dup, dif_pos reached, place]
    · have absent : ¬ (0 < depth + 1 ∧ depth + 1 ≤ stack.items.size) := fun reached =>
        present reached.2
      apply agrees_of_none
      · rw [StackRequest.onList, getElem?_toList_eq_none present]
        rfl
      · simp only [ask, bind, EStateM.bind, dup, dif_neg absent]

theorem agrees (stack : Stack) (request : StackRequest) : Agrees stack request := by
  cases request with
  | push word => exact agrees_of_cons _ rfl rfl
  | pushBool condition => exact agrees_of_cons _ rfl rfl
  | pop => exact agrees_pop stack
  | popMany count => exact agrees_popMany stack count
  | peek => exact agrees_peek stack
  | peekAt depth => exact agrees_peekAt stack depth
  | swap depth => exact agrees_swap stack depth
  | dup depth => exact agrees_dup stack depth

theorem serves_map (stack : Stack) (request : StackRequest) :
    serve StackRequest.onBounded stack.toList request = (stack.serves request).map id toList := by
  rw [serve, serves]
  cases agrees stack request with
  | granted words after asked listed =>
    rw [asked, listed]
    rfl
  | refused reason asked listed =>
    rw [asked, listed]
    rfl

theorem eq_of_ask_error {reason : Halt} (refused : ask request stack = .error reason after) :
    after = stack ∧ request.onBounded stack.toList = .error reason := by
  cases agrees stack request with
  | granted words rest asked listed =>
    rw [asked] at refused
    cases refused
  | refused reason asked listed =>
    rw [asked] at refused
    cases refused
    exact ⟨rfl, listed⟩

theorem exists_ask_error_iff (stack : Stack) (request : StackRequest) (reason : Halt) :
    (∃ after, ask request stack = .error reason after) ↔
      request.onBounded stack.toList = .error reason := by
  constructor
  · rintro ⟨after, refused⟩
    exact (eq_of_ask_error refused).2
  · intro listed
    cases agrees stack request with
    | granted words after asked granted =>
      rw [granted] at listed
      cases listed
    | refused reason asked refused =>
      rw [refused] at listed
      cases listed
      exact ⟨stack, asked⟩

theorem swap_of_swap {depth : Nat} (swapped : swap depth stack = .ok () after) :
    swap depth after = .ok () stack := by
  rw [swap] at swapped
  split at swapped
  · rename_i present
    cases swapped
    simp [swap, present]
  · cases swapped

end Stack

def Exec.ofRequest? : StackRequest → Option (Exec (List Word))
  | .push word => some do
    push word
    return []
  | .pushBool condition => some do
    pushBool condition
    return []
  | .pop => some do return [← pop]
  | .popMany count => some do return (← popMany count).toList
  | .swap depth => some do
    swap depth
    return []
  | .dup depth => some do
    dup depth
    return []
  | .peek | .peekAt _ => none

theorem Exec.run_ofRequest? {request : StackRequest} {action : Exec (List Word)}
    (asks : ofRequest? request = some action) (machine : Machine) :
    action machine = onStack (Stack.ask request) machine := by
  cases request with
  | peek | peekAt depth => cases asks
  | push word =>
    cases asks
    simp only [bind, EStateM.bind, push, onStack, Stack.ask]
    cases Stack.push word machine.frame.stack <;> rfl
  | pushBool condition =>
    cases asks
    simp only [bind, EStateM.bind, pushBool, onStack, Stack.ask]
    cases Stack.pushBool condition machine.frame.stack <;> rfl
  | pop =>
    cases asks
    simp only [bind, EStateM.bind, pop, onStack, Stack.ask]
    cases Stack.pop machine.frame.stack <;> rfl
  | popMany count =>
    cases asks
    simp only [bind, EStateM.bind, popMany, onStack, Stack.ask]
    cases Stack.popMany count machine.frame.stack <;> rfl
  | swap depth =>
    cases asks
    simp only [bind, EStateM.bind, swap, onStack, Stack.ask]
    cases Stack.swap depth machine.frame.stack <;> rfl
  | dup depth =>
    cases asks
    simp only [bind, EStateM.bind, dup, onStack, Stack.ask]
    cases Stack.dup depth machine.frame.stack <;> rfl

theorem Exec.eq_of_ofRequest?_error {request : StackRequest} {action : Exec (List Word)}
    (asks : ofRequest? request = some action) {machine halted : Machine} {reason : Halt}
    (refused : action machine = .error reason halted) : halted = machine := by
  rw [run_ofRequest? asks, onStack] at refused
  cases asked : Stack.ask request machine.frame.stack with
  | ok words after =>
    rw [asked] at refused
    cases refused
  | error other after =>
    rw [asked] at refused
    cases refused
    rw [(Stack.eq_of_ask_error asked).1]

/-- Whatever is asked of a stack that begins empty, it answers as a list of at most 1024 words does.
It underflows just where the request is undefined on the list, and overflows just where the request
is defined and would make the list too long. What a refused request leaves is the stack, and the
machine, it found. Exchanging twice changes nothing. Taking several items is taking them one by one
where there are enough, and else takes none, where one by one all would be gone. -/
theorem stack_acts_as_bounded_list :
    (∀ requests : List StackRequest,
      respond StackRequest.onBounded [] requests =
          (serveAll Stack.serves .empty requests).map id Stack.toList ∧
        (serveAll Stack.serves .empty requests).2.toList.length ≤ 1024) ∧
    (∀ (stack : Stack) (request : StackRequest),
      ((∃ after, Stack.ask request stack = .error .stackUnderflow after) ↔
        request.onList stack.toList = none) ∧
      ((∃ after, Stack.ask request stack = .error .stackOverflow after) ↔
        ∃ words after, request.onList stack.toList = some (words, after) ∧ 1024 < after.length) ∧
      ∀ reason after, Stack.ask request stack = .error reason after →
        after = stack ∧ (reason = .stackUnderflow ∨ reason = .stackOverflow)) ∧
    (∀ (stack after : Stack) (depth : Nat), Stack.swap depth stack = .ok () after →
      Stack.swap depth after = .ok () stack) ∧
    (∀ (stack : Stack) (count : Nat),
      (count ≤ stack.size → Stack.popMany count stack = Stack.popEach count stack) ∧
      (stack.size < count → Stack.popMany count stack = .error .stackUnderflow stack ∧
        Stack.popEach count stack = .error .stackUnderflow .empty)) ∧
    ∀ request action, Exec.ofRequest? request = some action → ∀ machine : Machine,
      action machine = Exec.onStack (Stack.ask request) machine ∧
      ∀ reason halted, action machine = .error reason halted → halted = machine := by
  refine ⟨?_, ?_, fun stack after depth => Stack.swap_of_swap, ?_, ?_⟩
  · intro requests
    exact ⟨serveAll_map Stack.serves_map .empty requests, Stack.length_toList_le _⟩
  · intro stack request
    simp only [Stack.exists_ask_error_iff]
    refine ⟨StackRequest.onBounded_eq_underflow_iff, StackRequest.onBounded_eq_overflow_iff, ?_⟩
    intro reason after refused
    obtain ⟨same, listed⟩ := Stack.eq_of_ask_error refused
    exact ⟨same, StackRequest.reason_of_onBounded listed⟩
  · intro stack count
    exact ⟨Stack.popMany_eq_popEach,
      fun few => ⟨Stack.popMany_of_lt few, Stack.popEach_of_lt few⟩⟩
  · intro request action asks machine
    exact ⟨Exec.run_ofRequest? asks machine, fun _ _ => Exec.eq_of_ofRequest?_error asks⟩

def soloMachine : Machine where
  frame := { Frame.start ⟨⟨0x20#160⟩, ⟨0x10#160⟩, ⟨0x20#160⟩, 0#256, [], false, 0⟩ [] 100 with
    stack := ⟨#[7#256], by decide⟩ }
  journal := Journal.start {}

theorem stack_acts_as_bounded_list_solo : ∃ action,
    Exec.ofRequest? (.dup 2) = some action ∧
    action soloMachine = .error .stackUnderflow soloMachine ∧
    (serveAll Stack.serves .empty
        [.push 1#256, .push 2#256, .dup 2, .swap 2, .dup 4, .popMany 4, .popMany 2]).1 =
      [.ok [], .ok [], .ok [], .ok [], .error .stackUnderflow, .error .stackUnderflow,
        .ok [1#256, 2#256]] := by
  obtain ⟨lists, -, -, -, runs⟩ := stack_acts_as_bounded_list
  have answers := congrArg Prod.fst
    (lists [.push 1#256, .push 2#256, .dup 2, .swap 2, .dup 4, .popMany 4, .popMany 2]).1
  exact ⟨_, rfl, (runs (.dup 2) _ rfl soloMachine).1, answers.symm.trans rfl⟩

end StateTransition.Evm
