import SparqlCompose.Draft.Sparql
import SparqlCompose.Request
import SparqlCompose.Text.Upper

namespace SparqlCompose

structure Endpoint where
  url : Value
  method : Method
  timeout : Value
  accept : Value
  request : Option Request

namespace Endpoint

def requireSettings : List (String × Value) → Except Failure Unit
  | [] => .ok ()
  | (name, .null) :: _ => .error (.setting name)
  | (name, .text r) :: rest => if r.isEmpty then .error (.setting name) else requireSettings rest
  | _ :: rest => requireSettings rest

def headerName (name : String) : String :=
  String.ofList (name.toList.map fun c => if c = '_' then '-' else c)

/-- Headers that have a value, under their proper names; of one name the last value counts. -/
def headers (pairs : List (String × Value)) : List (String × Value) :=
  Entries.ofPairs <| pairs.filterMap fun (name, value) =>
    match value with
    | .null => none
    | v => some (headerName name, v)

def methodNamed : Value → Except Failure Method
  | .text r =>
    match Method.ofName? (Text.upper r) with
    | some m => .ok m
    | none => .error (.invalid (.unsupportedMethod r))
  | _ => .error .unsupported

def make (url method timeout accept : Value) (request : Option Request) :
    Except Failure Endpoint := do
  requireSettings [("endpoint_url", url)]
  return ⟨url, ← methodNamed method, timeout, accept, request⟩

def accepting (e : Endpoint) (mediaType : Value) : Except Failure Endpoint := do
  requireSettings [("media_type", mediaType)]
  return { e with accept := mediaType }

def callFor (e : Endpoint) (query : String) : Call :=
  let asked := headers [("Accept", e.accept)]
  match e.method with
  | .post =>
    ⟨.post, e.url, Entries.put "Content-Type" (.text "application/sparql-query") asked, e.timeout,
      .body query⟩
  | .get => ⟨.get, e.url, asked, e.timeout, .parameters [("query", query)]⟩

def isSuccess (status : Int) : Bool := 200 ≤ status && status < 300

def reportedLength : Nat := 500

def report (e : Endpoint) (level : Level) (message : String) : Act Unit :=
  match e.request with
  | some r => Act.edit (Edit.report r level message)
  | none => Act.log level message

def refuse (e : Endpoint) (fault : ExecutionFault) (message : String) : Act String := do
  e.report .error message
  throw (.execution fault)

/-- The answer that a reply holds. The body of an unsuccessful reply is needed for the report. -/
def answerOf (e : Endpoint) : Reply → Act String
  | .failed reason =>
    let fault := ExecutionFault.transport reason
    e.refuse fault fault.message
  | .answer status body =>
    if isSuccess status then
      match body with
      | some text =>
        if Text.isAllBlank text then
          e.refuse (.emptyBody status) (ExecutionFault.emptyBody status).message
        else return text
      | none => e.refuse (.emptyBody status) (ExecutionFault.emptyBody status).message
    else
      match body with
      | some text =>
        e.refuse (.status status)
          s!"SPARQL query failed: {status} - {String.ofList (text.toList.take reportedLength)}"
      | none => throw .kind

def announcement (e : Endpoint) (query : String) : Except Failure String := do
  let url ← e.url.shown
  let accept ← e.accept.shown
  return s!"Executing query against {url.shown} (accept={accept.shown}):\n{query}"

def execute (e : Endpoint) (query : String) : Act String := do
  e.report .debug (← Act.ofExcept (e.announcement query))
  e.answerOf (← Act.send (e.callFor query))

def executeQuery (e : Endpoint) (q : QueryId) : Act String := do
  e.execute (← Edit.sparql standardIndent q)

end Endpoint

end SparqlCompose
