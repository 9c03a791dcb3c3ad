import StateTransition.Main
import StateTransition.Json.State
import StateTransition.Rlp.Decoding
import StateTransition.Proofs.Fork.Lookup
import StateTransition.Proofs.Fork.Mainnet
import StateTransition.Proofs.World.Lookup
import StateTransition.Proofs.World.Supply
import StateTransition.Proofs.Journal.Records
import StateTransition.Proofs.Journal.Undo
import StateTransition.Proofs.Journal.Writes
import StateTransition.Proofs.Journal.Session
import StateTransition.Proofs.Journal.Supply
import StateTransition.Proofs.Instruction.Effects
import StateTransition.Proofs.Instruction.Requests
import StateTransition.Proofs.FrameStack.Attempts
import StateTransition.Proofs.FrameStack.Underway
import StateTransition.Proofs.FrameStack.Nesting
import StateTransition.Proofs.FrameStack.Endings
import StateTransition.Proofs.FrameStack.Isolation
import StateTransition.Proofs.FrameStack.Budget
import StateTransition.Proofs.FrameStack.Invariant
import StateTransition.Proofs.FrameStack.Conservation
import StateTransition.Proofs.Execution.Validation
import StateTransition.Proofs.Execution.Outcome
import StateTransition.Proofs.Execution.Gas
import StateTransition.Proofs.Execution.Fees
import StateTransition.Proofs.Execution.Conservation
import StateTransition.Proofs.Execution.Failure
import StateTransition.Proofs.Instruction.Charges
import StateTransition.Proofs.FrameStack.Termination
import StateTransition.Proofs.Execution.Termination
import StateTransition.Proofs.Instruction.Outcomes
import StateTransition.Proofs.StackActions
import StateTransition.Proofs.FrameStack.Serving
import StateTransition.Proofs.Journal.Observation
import StateTransition.Proofs.FrameStack.Static
import StateTransition.Proofs.Journal.Identity
import StateTransition.Proofs.FrameStack.Identity
import StateTransition.Proofs.Execution.Identity
import StateTransition.Proofs.Journal.Occupants
import StateTransition.Proofs.Execution.Preparation
import StateTransition.Proofs.FrameStack.Nonces
import StateTransition.Proofs.Execution.Settlement
import StateTransition.Proofs.Execution.Replay
import StateTransition.Proofs.Journal.Warmth
import StateTransition.Proofs.FrameStack.Warmth
import StateTransition.Proofs.Instruction.Accesses
import StateTransition.Proofs.Execution.Warmth
import StateTransition.Proofs.Journal.Cleanup
import StateTransition.Proofs.FrameStack.Cleanup
import StateTransition.Proofs.Execution.Cleanup
import StateTransition.Proofs.Journal.Footprint
import StateTransition.Proofs.Instruction.Footprint
import StateTransition.Proofs.FrameStack.Footprint
import StateTransition.Proofs.SortedMap
import StateTransition.Proofs.Execution.Footprint
import StateTransition.Proofs.Instruction.Faults
import StateTransition.Proofs.Instruction.Slices
import StateTransition.Proofs.FrameStack.Faults
import StateTransition.Proofs.FrameStack.Verdicts
import StateTransition.Proofs.Execution.StepLimit
import StateTransition.Proofs.Execution.Classification
import StateTransition.Proofs.Journal.Refund
import StateTransition.Proofs.FrameStack.Refund
import StateTransition.Proofs.Execution.Refund
import StateTransition.Proofs.Fork.Resolution
import StateTransition.Proofs.Bytes
import StateTransition.Proofs.Rlp.Encoding
import StateTransition.Proofs.Transaction.Payload
import StateTransition.Proofs.Execution.Rejection
import StateTransition.Proofs.Execution.Funds
import StateTransition.Proofs.Scenario.Draft
import StateTransition.Proofs.Scenario.Funds
import StateTransition.Proofs.Transaction.Encoding
import StateTransition.Proofs.Scenario.Verification
import StateTransition.Proofs.Scenario.Summary
import StateTransition.Proofs.Scenario.Workers
import StateTransition.Proofs.Json.Fields
import StateTransition.Proofs.Fixture.Expectations
import StateTransition.Proofs.Gas.NetMetering
import StateTransition.Proofs.Code.Boundaries
import StateTransition.Proofs.Instruction.Moves
import StateTransition.Proofs.Instruction.Operands
import StateTransition.Proofs.Instruction.Positions
import StateTransition.Proofs.FrameStack.Positions
import StateTransition.Proofs.Word.Arithmetic
import StateTransition.Proofs.Instruction.Arithmetic
import StateTransition.Proofs.Gas.MemoryExpansion
import StateTransition.Proofs.Word.Spelling
import StateTransition.Proofs.Transaction.Sender
import StateTransition.Proofs.Precompile
import StateTransition.Proofs.ContractAddress
import StateTransition.Proofs.Journal.Rebase
import StateTransition.Proofs.Instruction.Composition
import StateTransition.Proofs.Instruction.Rebase
import StateTransition.Proofs.FrameStack.Rebase
import StateTransition.Proofs.Execution.AccessList
import StateTransition.Proofs.Instruction.Calls
import StateTransition.Proofs.Instruction.PaddedReads
import StateTransition.Proofs.Scenario.Allocator
import StateTransition.Proofs.Execution.Storage
import StateTransition.Proofs.World.Difference
import StateTransition.Proofs.Execution.Difference
import StateTransition.Proofs.Text.Blank
import StateTransition.Proofs.Text.Digits
import StateTransition.Proofs.Text.Hex
import StateTransition.Proofs.Quantity
import StateTransition.Proofs.Rlp.Decoding
import StateTransition.Proofs.Word.Forms
import StateTransition.Proofs.Instruction.Decoding
import StateTransition.Proofs.Scenario.Assembler
import StateTransition.Proofs.Responses
import StateTransition.Proofs.Stack
import StateTransition.Proofs.Memory
import StateTransition.Proofs.FrameStack.Waiting
import StateTransition.Proofs.Journal.Counting
import StateTransition.Proofs.FrameStack.Counting
import StateTransition.Proofs.Execution.Nonces
