import SparqlCompose.Entries
import SparqlCompose.Failure
import SparqlCompose.Number.Read
import SparqlCompose.Text.Upper
import SparqlCompose.Vocabulary

namespace SparqlCompose

/-- A configuration with the environment, which overrides the address and the time limit of the
endpoint. -/
structure Config where
  root : Value
  path : RawText
  environment : List (String × RawText)

namespace Config

/-- A member of a mapping, or a standard value; what is no mapping has no members. -/
def setting (part : Value) (name : RawText) (standard : Value) : Except Failure Value :=
  match part with
  | .mapping entries => .ok ((Value.member? name entries).getD standard)
  | _ => .error .unsupported

def standardUrl : String := "http://localhost:3030/semanteco/sparql"

def standardTimeout : Int := 30

def endpoint (c : Config) : Except Failure Value := setting c.root "endpoint" (.mapping [])

def app (c : Config) : Except Failure Value := setting c.root "app" (.mapping [])

def url (c : Config) : Except Failure Value := do
  let configured ← setting (← c.endpoint) "url" (.text standardUrl)
  match Entries.get? "SEMANTECO_ENDPOINT_URL" c.environment with
  | some r => return .text r
  | none => return configured

def method (c : Config) : Except Failure RawText := do
  let name ← setting (← c.endpoint) "method" (.text "POST")
  return Text.upper (← name.shown)

def timeout (c : Config) : Except Failure Value :=
  match Entries.get? "SEMANTECO_ENDPOINT_TIMEOUT" c.environment with
  | some r =>
    match Number.integerIn? r with
    | some n => .ok (.integer n)
    | none => .error (.configuration (.timeoutVariable r))
  | none => do setting (← c.endpoint) "timeout" (.integer standardTimeout)

def accept (c : Config) : Except Failure Value := do
  setting (← c.endpoint) "accept" (.text Vocabulary.sparqlJson)

/-- What a value lists: the items of a list, the keys of a mapping, the code points of a text. What
counts as no lists nothing, and a number or a date lists nothing either, which is a fault. -/
def listed : Value → Except Failure (List Value)
  | .list items => .ok items
  | .mapping entries => .ok (entries.map Prod.fst)
  | .text r => .ok (r.points.map fun p => .text ⟨[p]⟩)
  | .other true _ _ (some items) => .ok items
  | v => if v.truthy then .error .kind else .ok []

def modules (c : Config) : Except Failure (List Value) := do
  listed (← setting c.root "modules" (.list []))

def logLevel (c : Config) : Except Failure RawText := do
  let name ← setting (← c.app) "log_level" (.text "INFO")
  return Text.upper (← name.shown)

def strict (c : Config) : Except Failure Value := do
  setting (← c.app) "strict_composition" (.boolean false)

def text (c : Config) : Except Failure RawText := do
  let url ← (← c.url).shown
  return "SemantEcoConfig(path=" ++ c.path ++ ", endpoint_url=" ++ url ++ ")"

end Config

end SparqlCompose
