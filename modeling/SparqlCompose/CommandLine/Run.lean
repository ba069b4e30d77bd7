import SparqlCompose.CommandLine.Invocation
import SparqlCompose.Config.Holder
import SparqlCompose.Config.Validation
import SparqlCompose.Pipeline.Loading
import SparqlCompose.Pipeline.SiteQuery
import SparqlCompose.Table

namespace SparqlCompose.CommandLine

/-- What a run depends on besides its arguments and the endpoint. -/
structure World where
  files : Files
  environment : List (String × RawText)
  yaml : Yaml.Reader
  tabulate : Table.Sheet → RawText
  /-- Whether standard output can encode a text. -/
  prints : RawText → Bool
  prints_ascii : ∀ s : String, (∀ c ∈ s.toList, c.toNat < 128) → prints s = true

inductive Ending
  | finished (status : Nat) (output : RawText) (errors : String)
  | refused (cause : Failure)
  | misused (speaker : String) (cause : UsageFault)

namespace Ending

def status : Ending → Nat
  | .finished status .. => status
  | _ => 2

def output : Ending → RawText
  | .finished _ output _ => output
  | _ => ""

def errors : Ending → String
  | .finished _ _ errors => errors
  | .refused cause => s!"Error: {cause.message}\n"
  | .misused speaker cause => s!"{speaker}: error: {cause.message}\n"

end Ending

def isReported : Failure → Bool
  | .configuration _ => true
  | .parameter .. => true
  | .unknownMethod _ => true
  | .option _ => true
  | _ => false

def readParameters (known : List (RawText × RawText)) :
    List RawText → Except Failure (List (RawText × RawText))
  | [] => .ok known
  | item :: rest =>
    match splitValue item with
    | (⟨p :: ps⟩, some value) => readParameters (Entries.put ⟨p :: ps⟩ value known) rest
    | _ => .error (.option item)

section Commands

variable (w : World)

def print (status : Nat) (r : RawText) : Except Failure Ending :=
  if w.prints r then .ok (.finished status (r ++ ("\n" : String)) "") else .error .unencodable

def methodSheet (methods : List (String × String)) : Table.Sheet :=
  .rows ["Module", "Method"] (methods.map fun (m, f) => [.text m, .text f])

def domainSheet (domains : List Domain) : Table.Sheet :=
  .rows ["Label", "URI", "Sources", "Regulations", "Data Types"] <| domains.map fun d =>
    [(d.label.map fun l : String => Value.text l).getD .null, .text d.uri,
     .integer d.sources.length, .integer d.regulations.length, .integer d.dataTypes.length]

/-- An answer as it is shown: the data as a table where that is wanted and there are any, else the
whole as a document. -/
def showResponse (response : Response) (table : Bool) : Except Failure RawText :=
  match table, response.entries? with
  | true, some (e :: es) => .ok (w.tabulate (.entries (e :: es)))
  | _, _ => (Json.indented response.document).elim (.error .digits) fun s : String => .ok s

def showDataQuery (p : Pipeline) (name : RawText) (r : Request) : Act Ending := do
  match (p.module? name).bind (·.dataQuery?) with
  | none => return .finished 1 "" s!"No data provider named '{name.shown}'\n"
  | some dataQuery =>
    let q ← dataQuery p.services r
    Act.ofExcept (print w 0 (← Edit.sparql standardIndent q))

def runCommand (p : Pipeline) (r : Request) : Command → Act Ending
  | .compose => do Act.ofExcept (print w 0 (← p.composeSites r))
  | .methods => Act.ofExcept (print w 0 (w.tabulate (methodSheet p.methods)))
  | .domains => do Act.ofExcept (print w 0 (w.tabulate (domainSheet (← p.domains r))))
  | .call moduleName method table => do
    let response ← p.invoke moduleName method r
    let shown ← Act.ofExcept (showResponse w response table)
    Act.ofExcept (print w (if response.success then 0 else 1) shown)
  | .dataQuery moduleName => showDataQuery w p moduleName r

def runInvocation (i : Invocation) : Act Ending := do
  let config ← Act.ofExcept (Config.obtain w.yaml w.files w.environment i.config)
  Act.ofExcept config.validate
  let _ ← Act.ofExcept config.logLevel
  let pipeline ← Pipeline.ofConfig config
  let parameters ← Act.ofExcept (readParameters [] i.parameters)
  let request : Request := ⟨program, parameters.map fun (k, v) => (k, .text v)⟩
  runCommand w pipeline request i.command

def run (arguments : List RawText) : Act Ending :=
  match Invocation.ofArguments arguments with
  | .ok i =>
    tryCatch (runInvocation w i) fun failure =>
      if isReported failure then return .refused failure else throw failure
  | .error ⟨speaker, .fault cause⟩ => return .misused speaker cause
  | .error ⟨_, .version⟩ => return .finished 0 (versionText ++ "\n" : String) ""
  | .error ⟨_, .help⟩ => return .finished 0 "" ""

end Commands

end SparqlCompose.CommandLine
