import StateTransition.Transaction
import StateTransition.Fork.Table

namespace StateTransition

def maxGas : Nat := UInt64.size - 1

def capGas (amount : Nat) : Nat := min amount maxGas

def wordCount (length : Nat) : Nat := (length + 31) / 32

namespace Transaction

/-- Base, data bytes by value, creation with its init code words, and access list entries. -/
def intrinsicGas (tx : Transaction) (rules : Rules) : Nat :=
  let zeros := tx.data.count 0
  let others := tx.data.length - zeros
  let creation :=
    if tx.isCreate then
      rules.amount .txCreate + wordCount tx.data.length * rules.amount .initCodeWord
    else 0
  let keys := tx.accessList.foldl (fun sum item => sum + item.storageKeys.length) 0
  capGas <| rules.amount .txBase + zeros * rules.amount .txDataZero +
    others * rules.amount .txDataNonZero + creation +
    tx.accessList.length * rules.amount .accessListAddress +
    keys * rules.amount .accessListStorageKey

end Transaction

end StateTransition
