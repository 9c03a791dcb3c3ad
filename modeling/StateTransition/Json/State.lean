import StateTransition.Environment
import StateTransition.Evm.Journal
import StateTransition.Json.Domain

namespace StateTransition

def Word.toJson (word : Word) : Json := .text word.hexText

def Bytes.toJson (bytes : Bytes) : Json := .text (Hex.encodeMarked bytes)

def Account.toJson (account : Account) : Json := .record
  [("balance", account.balance.toJson), ("nonce", .natural account.nonce.toNat),
   ("code", account.code.toJson),
   ("storage",
    .record (account.storage.toList.map fun (key, value) => (key.hexText, value.toJson)))]

def World.toJson (world : World) : Json :=
  .record (world.accounts.toList.map fun (address, account) => (address.hexText, account.toJson))

def AccountChange.name (change : AccountChange) : String :=
  if change.before.isNone then "created" else if change.after.isNone then "removed" else "changed"

def StateDiff.toJson (diff : StateDiff) : Json :=
  .record (diff.toList.map fun (address, change) => (address.hexText, .text change.name))

def Environment.toJson (environment : Environment) : Json := .record
  [("coinbase", environment.coinbase.toJson), ("difficulty", environment.difficulty.toJson),
   ("prevrandao", environment.prevrandao.toJson),
   ("gas_limit", .natural environment.gasLimit.toNat),
   ("number", .natural environment.number.toNat),
   ("timestamp", .natural environment.timestamp.toNat),
   ("base_fee", environment.baseFee.toJson), ("blob_base_fee", environment.blobBaseFee.toJson),
   ("chain_id", .natural environment.chainId.toNat)]

def Evm.Log.toJson (log : Evm.Log) : Json := .record
  [("address", log.address.toJson), ("topics", Json.ofList Hash256.toJson log.topics),
   ("data", log.data.toJson)]

end StateTransition
