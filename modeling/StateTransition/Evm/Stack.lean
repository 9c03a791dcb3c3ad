import StateTransition.Word
import StateTransition.Evm.Halt

namespace StateTransition.Evm

def stackLimit : Nat := 1024

/-- The top is the last element. -/
structure Stack where
  items : Array Word
  bounded : items.size ≤ stackLimit

/-- Work on a stack. A refusal says which stack it leaves. -/
abbrev StackAction (α : Type) := EStateM Halt Stack α

namespace Stack

def empty : Stack := ⟨#[], Nat.zero_le _⟩

instance : Inhabited Stack := ⟨empty⟩

def toList (stack : Stack) : List Word := stack.items.toList.reverse

def size (stack : Stack) : Nat := stack.items.size

def push (word : Word) : StackAction Unit := fun stack =>
  if room : stack.items.size < stackLimit then
    .ok () ⟨stack.items.push word, by rw [Array.size_push]; exact room⟩
  else .error .stackOverflow stack

def pushBool (condition : Bool) : StackAction Unit := push (Word.ofBool condition)

def peekAt (stack : Stack) (depth : Nat) : Except Halt Word :=
  if present : depth < stack.items.size then
    have : stack.items.size - 1 - depth < stack.items.size := by omega
    .ok stack.items[stack.items.size - 1 - depth]
  else .error .stackUnderflow

def peek (stack : Stack) : Except Halt Word := stack.peekAt 0

def dropTop (stack : Stack) (count : Nat) : Stack :=
  ⟨stack.items.shrink (stack.items.size - count), by
    have := stack.bounded
    simp only [Array.size_shrink]
    omega⟩

def pop : StackAction Word := fun stack =>
  if present : 0 < stack.items.size then
    have : stack.items.size - 1 < stack.items.size := by omega
    .ok stack.items[stack.items.size - 1] (stack.dropTop 1)
  else .error .stackUnderflow stack

/-- Takes items one after the other, top first. Where they run out, those before are gone. -/
def popEach : (count : Nat) → StackAction (Vector Word count)
  | 0 => return #v[]
  | count + 1 => do
    let words ← popEach count
    return words.push (← pop)

/-- Looks whether there are enough items before the first one is taken. -/
def popMany (count : Nat) : StackAction (Vector Word count) := do
  if (← get).items.size < count then throw .stackUnderflow
  popEach count

/-- Exchanges the top with the item `depth` places below it; depth zero is refused. -/
def swap (depth : Nat) : StackAction Unit := fun stack =>
  if present : 0 < depth ∧ depth < stack.items.size then
    .ok () ⟨stack.items.swap (stack.items.size - 1) (stack.items.size - 1 - depth)
      (by omega) (by omega), by rw [Array.size_swap]; exact stack.bounded⟩
  else .error .stackUnderflow stack

def dup (depth : Nat) : StackAction Unit := fun stack =>
  if present : 0 < depth ∧ depth ≤ stack.items.size then
    have : stack.items.size - depth < stack.items.size := by omega
    push stack.items[stack.items.size - depth] stack
  else .error .stackUnderflow stack

end Stack

end StateTransition.Evm
