import StateTransition.Json.Domain
import StateTransition.Json.Reader
import StateTransition.Json.Whole
import StateTransition.Quantity

/-!
Fixture files as they are written: records of texts and numbers whose meaning is not looked at yet.
Maps come in the order of their keys, and of entries with one key the last counts.
-/

namespace StateTransition.Fixture

inductive RawQuantity where
  | number (value : UInt64)
  | text (content : String)
  deriving DecidableEq, Repr

namespace RawQuantity

def toWord : RawQuantity → Except QuantityError Word
  | number value => .ok (Word.ofNat value.toNat)
  | text content => Quantity.parse content

def toUInt64 : RawQuantity → Except QuantityError UInt64
  | number value => .ok value
  | text content => Quantity.parse64 content

def ofJson? : Json → Option RawQuantity
  | .string (some content) => some (text content)
  | json => json.natural64?.map number

end RawQuantity

inductive RawCode where
  | hex (digits : String)
  | compiled (name : String)
  deriving DecidableEq, Repr

def codeLevel : Nat := 4

def nestingLimit : Nat := 127

def RawCode.ofJson? : Json → Option RawCode
  | .string text => text.map hex
  | .object members => do
    let json := Json.object members
    if json.isWhole && codeLevel + json.depth ≤ nestingLimit then
      let fields ← Json.Fields.of? ["compiled"] json
      (fields.required "compiled" Json.text?).map compiled
    else none
  | _ => none

structure RawEnvironment where
  coinbase : Option String := none
  difficulty : Option RawQuantity := none
  prevrandao : Option String := none
  gasLimit : Option RawQuantity := none
  number : Option RawQuantity := none
  timestamp : Option RawQuantity := none
  baseFee : Option RawQuantity := none
  blobBaseFee : Option RawQuantity := none
  deriving DecidableEq, Repr

def RawEnvironment.ofJson? (json : Json) : Option RawEnvironment := do
  let fields ← Json.Fields.of?
    ["coinbase", "difficulty", "prevrandao", "gas_limit", "number", "timestamp", "base_fee",
     "blob_base_fee"] json
  let coinbase ← fields.optional "coinbase" Json.text?
  let difficulty ← fields.optional "difficulty" RawQuantity.ofJson?
  let prevrandao ← fields.optional "prevrandao" Json.text?
  let gasLimit ← fields.optional "gas_limit" RawQuantity.ofJson?
  let number ← fields.optional "number" RawQuantity.ofJson?
  let timestamp ← fields.optional "timestamp" RawQuantity.ofJson?
  let baseFee ← fields.optional "base_fee" RawQuantity.ofJson?
  let blobBaseFee ← fields.optional "blob_base_fee" RawQuantity.ofJson?
  some { coinbase, difficulty, prevrandao, gasLimit, number, timestamp, baseFee, blobBaseFee }

abbrev RawStorage := List (String × RawQuantity)

structure RawAccount where
  balance : Option RawQuantity
  nonce : Option RawQuantity
  code : Option RawCode
  storage : RawStorage
  deriving DecidableEq, Repr

def RawAccount.ofJson? (json : Json) : Option RawAccount := do
  let fields ← Json.Fields.of? ["balance", "nonce", "code", "storage"] json
  let balance ← fields.defaulted "balance" none (Json.nullable? RawQuantity.ofJson?)
  let nonce ← fields.defaulted "nonce" none (Json.nullable? RawQuantity.ofJson?)
  let code ← fields.defaulted "code" none (Json.nullable? RawCode.ofJson?)
  let storage ← fields.defaulted "storage" [] (Json.entries? RawQuantity.ofJson?)
  some { balance, nonce, code, storage }

structure RawAccessListItem where
  address : String
  storageKeys : List String
  deriving DecidableEq, Repr

def RawAccessListItem.ofJson? (json : Json) : Option RawAccessListItem := do
  let fields ← Json.Fields.of? ["address", "storage_keys"] json
  let address ← fields.required "address" Json.text?
  let storageKeys ← fields.defaulted "storage_keys" [] (Json.list? Json.text?)
  some { address, storageKeys }

structure RawTransaction where
  type : Nat
  chainId : Option RawQuantity
  isProtected : Bool
  recipient : Option String
  value : Option RawQuantity
  gasLimit : RawQuantity
  gasPrice : Option RawQuantity
  maxFee : Option RawQuantity
  maxPriorityFee : Option RawQuantity
  data : String
  accessList : List RawAccessListItem
  nonce : Option RawQuantity
  sender : Option String
  secretKey : String
  deriving DecidableEq, Repr

def RawTransaction.ofJson? (json : Json) : Option RawTransaction := do
  let fields ← Json.Fields.of?
    ["type", "chain_id", "protected", "to", "value", "gas_limit", "gas_price", "max_fee_per_gas",
     "max_priority_fee_per_gas", "data", "access_list", "nonce", "sender", "secret_key"] json
  let type ← fields.defaulted "type" 0 (Json.natural? 256)
  let chainId ← fields.optional "chain_id" RawQuantity.ofJson?
  let isProtected ← fields.defaulted "protected" true Json.boolean?
  let recipient ← fields.optional "to" Json.text?
  let value ← fields.optional "value" RawQuantity.ofJson?
  let gasLimit ← fields.required "gas_limit" RawQuantity.ofJson?
  let gasPrice ← fields.optional "gas_price" RawQuantity.ofJson?
  let maxFee ← fields.optional "max_fee_per_gas" RawQuantity.ofJson?
  let maxPriorityFee ← fields.optional "max_priority_fee_per_gas" RawQuantity.ofJson?
  let data ← fields.defaulted "data" "" Json.text?
  let accessList ← fields.defaulted "access_list" [] (Json.list? RawAccessListItem.ofJson?)
  let nonce ← fields.optional "nonce" RawQuantity.ofJson?
  let sender ← fields.optional "sender" Json.text?
  let secretKey ← fields.required "secret_key" Json.text?
  some
    { type, chainId, isProtected, recipient, value, gasLimit, gasPrice, maxFee, maxPriorityFee,
      data, accessList, nonce, sender, secretKey }

structure RawExpectation where
  absent : Bool
  balance : Option RawQuantity
  nonce : Option RawQuantity
  code : Option String
  storage : Option RawStorage
  deriving DecidableEq, Repr

def RawExpectation.ofJson? (json : Json) : Option RawExpectation := do
  let fields ← Json.Fields.of? ["absent", "balance", "nonce", "code", "storage"] json
  let absent ← fields.defaulted "absent" false Json.boolean?
  let balance ← fields.optional "balance" RawQuantity.ofJson?
  let nonce ← fields.optional "nonce" RawQuantity.ofJson?
  let code ← fields.optional "code" Json.text?
  let storage ← fields.optional "storage" (Json.entries? RawQuantity.ofJson?)
  some { absent, balance, nonce, code, storage }

structure RawScenario where
  validFrom : Fork
  validUntil : Option Fork
  environment : RawEnvironment
  before : List (String × RawAccount)
  transaction : RawTransaction
  after : List (String × RawExpectation)
  deriving DecidableEq, Repr

def RawScenario.ofJson? (json : Json) : Option RawScenario := do
  let fields ← Json.Fields.of?
    ["valid_from", "valid_until", "env", "pre", "transaction", "post"] json
  let validFrom ← fields.defaulted "valid_from" .frontier Fork.ofJson?
  let validUntil ← fields.optional "valid_until" Fork.ofJson?
  let environment ← fields.defaulted "env" {} RawEnvironment.ofJson?
  let before ← fields.required "pre" (Json.entries? RawAccount.ofJson?)
  let transaction ← fields.required "transaction" RawTransaction.ofJson?
  let after ← fields.defaulted "post" [] (Json.entries? RawExpectation.ofJson?)
  some { validFrom, validUntil, environment, before, transaction, after }

def readRecords? (text : String) : Option (List (String × RawScenario)) := do
  Json.entries? RawScenario.ofJson? (← Json.ofText? text)

end StateTransition.Fixture
