import StateTransition.Evm.Code
import StateTransition.Evm.Journal
import StateTransition.Evm.Memory
import StateTransition.Evm.Stack
import StateTransition.Environment
import StateTransition.Fork.Table

namespace StateTransition.Evm

inductive CallScheme where
  | call
  /-- Runs the callee's code on the caller's account; the value stays where it is. -/
  | callCode
  /-- Runs the callee's code as the caller, with its caller and value. -/
  | delegateCall
  | staticCall
  deriving DecidableEq, Repr

structure CallContext where
  address : Address
  caller : Address
  codeAddress : Address
  value : Word
  input : Bytes
  isStatic : Bool
  depth : Nat
  deriving DecidableEq, Repr

structure Setting where
  environment : Environment
  rules : Rules
  origin : Address
  gasPrice : Word

structure Frame where
  context : CallContext
  code : Code
  position : Nat
  stack : Stack
  memory : Memory
  returnData : Bytes
  gas : Nat

namespace Frame

def start (context : CallContext) (code : Bytes) (gas : Nat) : Frame where
  context := context
  code := Code.ofBytes code
  position := 0
  stack := Stack.empty
  memory := Memory.empty
  returnData := []
  gas := gas

end Frame

structure CallRequest where
  scheme : CallScheme
  caller : Address
  address : Address
  codeAddress : Address
  value : Word
  transfers : Bool
  input : Bytes
  gas : Nat
  isStatic : Bool
  depth : Nat
  returnOffset : Nat
  returnSize : Nat
  deriving DecidableEq, Repr

structure CreateRequest where
  caller : Address
  value : Word
  initCode : Bytes
  /-- With a salt the address depends on the init code, without on the creator's nonce. -/
  salt : Option Word
  gas : Nat
  depth : Nat
  deriving DecidableEq, Repr

def CallRequest.context (request : CallRequest) : CallContext where
  address := request.address
  caller := request.caller
  codeAddress := request.codeAddress
  value := request.value
  input := request.input
  isStatic := request.isStatic
  depth := request.depth

/-- What the frame of the init code is told; it acts as the account it creates. -/
def CreateRequest.context (request : CreateRequest) (address : Address) : CallContext where
  address := address
  caller := request.caller
  codeAddress := address
  value := request.value
  input := []
  isStatic := false
  depth := request.depth

inductive FrameStatus where
  | success
  | revert
  | halt (reason : Halt)
  deriving DecidableEq, Repr

structure FrameResult where
  status : FrameStatus
  gasLeft : Nat
  output : Bytes
  deriving DecidableEq, Repr

namespace FrameResult

def success (gasLeft : Nat) (output : Bytes) : FrameResult := ⟨.success, gasLeft, output⟩

def revert (gasLeft : Nat) (output : Bytes) : FrameResult := ⟨.revert, gasLeft, output⟩

/-- A halt keeps no gas and gives no output. -/
def halt (reason : Halt) : FrameResult := ⟨.halt reason, 0, []⟩

def isSuccess (result : FrameResult) : Bool := result.status == .success

def isHalt (result : FrameResult) : Bool :=
  match result.status with
  | .halt _ => true
  | _ => false

end FrameResult

namespace Frame

def pushResult (frame : Frame) (word : Word) : Frame :=
  match Stack.push word frame.stack with
  | .ok _ stack | .error _ stack => { frame with stack }

/-- Goes on after a call: the output, cut to the size that was asked for, goes to memory unless the
child halted. -/
def resumeCall? (frame : Frame) (result : FrameResult) (offset size : Nat) : Option Frame :=
  let kept := if result.isHalt then [] else result.output.take size
  (frame.memory.storeSlice? offset kept).map fun memory =>
    { frame with
      memory
      gas := frame.gas + result.gasLeft
      returnData := result.output }.pushResult (Word.ofBool result.isSuccess)

/-- Goes on after a creation: only revert data is kept, and a failure pushes zero. -/
def resumeCreate (frame : Frame) (result : FrameResult) (address : Address) : Frame :=
  { frame with
    gas := frame.gas + result.gasLeft
    returnData := if result.status = FrameStatus.revert then result.output else [] }.pushResult
      (if result.isSuccess then address.toWord else 0#256)

end Frame

end StateTransition.Evm
