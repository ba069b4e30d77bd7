import SparqlCompose.Draft.Basic
import SparqlCompose.Rdf.Triple

namespace SparqlCompose

inductive Method
  | get
  | post
deriving DecidableEq

namespace Method

def name : Method → String
  | .get => "GET"
  | .post => "POST"

def ofName? (r : RawText) : Option Method :=
  if r = "GET" then some .get else if r = "POST" then some .post else none

end Method

inductive Payload
  | body (text : String)
  | parameters (pairs : List (String × String))
deriving DecidableEq

structure Call where
  method : Method
  url : Value
  headers : List (String × Value)
  timeout : Value
  payload : Payload

inductive Reply
  | answer (status : Int) (body : Option String)
  | failed (reason : String)
deriving DecidableEq

structure Session where
  draft : Draft
  replies : List Reply
  calls : Array Call
  triples : List Rdf.Triple
  /-- The documents that have been read into the data model, in their order. -/
  documents : List String

/-- A step of a session. A step that fails leaves the session as it was at the failure. -/
abbrev Act := EStateM Failure Session

namespace Session

def start (replies : List Reply) : Session := ⟨.empty, replies, #[], [], []⟩

end Session

namespace Act

def edit {α : Type} (e : Edit α) : Act α := fun s =>
  match e s.draft with
  | .ok a d => .ok a { s with draft := d }
  | .error f d => .error f { s with draft := d }

instance : MonadLift Edit Act := ⟨edit⟩

def ofExcept {α : Type} : Except Failure α → Act α
  | .ok a => pure a
  | .error e => throw e

def log (level : Level) (message : String) : Act Unit := edit (Edit.log level message)

def send (call : Call) : Act Reply := do
  let s ← get
  let s := { s with calls := s.calls.push call }
  match s.replies with
  | reply :: rest =>
    set { s with replies := rest }
    return reply
  | [] =>
    set s
    throw (.unanswered call.method.name ((call.url.display.map RawText.shown).getD ""))

end Act

end SparqlCompose
