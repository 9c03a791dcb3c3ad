import StateTransition.Json.Reader
import StateTransition.Scenario.Run

namespace StateTransition

structure RemoteNode where
  name : String
  chainId : UInt64
  deriving DecidableEq, Repr

structure Configuration where
  forks : List Fork := Fork.all
  maxSteps : Option UInt64 := some 10000000
  gasCeiling : Option UInt64 := some 30000000
  /-- How many scenarios may be run at a time; zero leaves it open. -/
  threads : UInt64 := 0
  chainId : UInt64 := 1
  remoteNodes : List RemoteNode := []
  builtin : Bool := true
  fixtures : List String := []
  filter : Option String := none
  deriving DecidableEq, Repr

inductive ConfigurationError where
  | malformed
  | noForks
  | zeroSteps
  | zeroChainId (node : String)
  deriving DecidableEq, Repr

def ConfigurationError.message : ConfigurationError → String
  | malformed => "JSON error: not a configuration"
  | noForks => "config error: no forks selected"
  | zeroSteps => "config error: max_steps must be positive"
  | zeroChainId node => "config error: remote node " ++ node ++ " has chain id 0"

def RemoteNode.ofJson? (json : Json) : Option RemoteNode := do
  let fields ← Json.Fields.of? ["name", "chain_id"] json
  let name ← fields.required "name" Json.text?
  let chainId ← fields.required "chain_id" Json.natural64?
  some ⟨name, chainId⟩

def RemoteNode.toJson (node : RemoteNode) : Json :=
  .record [("name", .text node.name), ("chain_id", .natural node.chainId.toNat)]

namespace Configuration

def fieldNames : List String :=
  ["forks", "max_steps", "gas_ceiling", "threads", "chain_id", "remote_nodes", "builtin",
   "fixtures", "filter"]

def ofJson? (json : Json) : Option Configuration := do
  let absent : Configuration := {}
  let fields ← Json.Fields.of? fieldNames json
  let forks ← fields.defaulted "forks" absent.forks (Json.list? Fork.ofJson?)
  let maxSteps ← fields.defaulted "max_steps" absent.maxSteps (Json.nullable? Json.natural64?)
  let gasCeiling ← fields.defaulted "gas_ceiling" absent.gasCeiling (Json.nullable? Json.natural64?)
  let threads ← fields.defaulted "threads" absent.threads Json.natural64?
  let chainId ← fields.defaulted "chain_id" absent.chainId Json.natural64?
  let remoteNodes ← fields.defaulted "remote_nodes" absent.remoteNodes
    (Json.list? RemoteNode.ofJson?)
  let builtin ← fields.defaulted "builtin" absent.builtin Json.boolean?
  let fixtures ← fields.defaulted "fixtures" absent.fixtures (Json.list? Json.text?)
  let filter ← fields.defaulted "filter" absent.filter (Json.nullable? Json.text?)
  some
    { forks, maxSteps, gasCeiling, threads, chainId, remoteNodes, builtin, fixtures, filter }

def numberToJson (number : UInt64) : Json := .natural number.toNat

def toJson (configuration : Configuration) : Json := .record
  [("forks", Json.ofList Fork.toJson configuration.forks),
   ("max_steps", Json.ofOption numberToJson configuration.maxSteps),
   ("gas_ceiling", Json.ofOption numberToJson configuration.gasCeiling),
   ("threads", numberToJson configuration.threads),
   ("chain_id", numberToJson configuration.chainId),
   ("remote_nodes", Json.ofList RemoteNode.toJson configuration.remoteNodes),
   ("builtin", .boolean configuration.builtin),
   ("fixtures", Json.ofList .text configuration.fixtures),
   ("filter", Json.ofOption .text configuration.filter)]

def validate (configuration : Configuration) : Except ConfigurationError Unit :=
  if configuration.forks.isEmpty then .error .noForks
  else if configuration.maxSteps = some 0 then .error .zeroSteps
  else
    match configuration.remoteNodes.find? fun node => node.chainId = 0 with
    | some node => .error (.zeroChainId node.name)
    | none => .ok ()

def checked (configuration : Configuration) : Except ConfigurationError Configuration := do
  configuration.validate
  return configuration

def ofJson (json : Json) : Except ConfigurationError Configuration :=
  match ofJson? json with
  | some configuration => configuration.checked
  | none => .error .malformed

def parse (text : String) : Except ConfigurationError Configuration :=
  match Json.ofText? text with
  | some json => ofJson json
  | none => .error .malformed

def limits (configuration : Configuration) : Evm.Limits :=
  ⟨configuration.maxSteps, configuration.gasCeiling⟩

def effectiveChainId (configuration : Configuration) : UInt64 :=
  configuration.remoteNodes.head?.elim configuration.chainId RemoteNode.chainId

def runSettings (configuration : Configuration) : Scenario.RunSettings where
  forks := configuration.forks
  limits := configuration.limits
  chainId := configuration.effectiveChainId
  filter := configuration.filter

end Configuration

end StateTransition
