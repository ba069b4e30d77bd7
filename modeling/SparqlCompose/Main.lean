import SparqlCompose.CommandLine.Run
import SparqlCompose.Exchange
import SparqlCompose.Yaml.Document

namespace SparqlCompose

def readAt (name : String) : IO Lookup := do
  try
    return .file (← IO.FS.readBinFile name)
  catch e => return .unreadable e.toString

/-- What stands at a path. A path that cannot be followed is not told from one that leads nowhere. -/
def lookUp (path : RawText) : IO Lookup := do
  let some name := path.toString? | return .absent
  let name := if name.isEmpty then "." else name
  try
    let place ← IO.FS.realPath name
    if ← place.isDir then
      return .unreadable ("[Errno 21] Is a directory: " ++ Text.quoted (Path.normal path))
    if ← place.pathExists then readAt name else return .absent
  catch _ => return .absent

def filesFor (arguments : List RawText) : IO Files := do
  let work := (← IO.currentDir).toString
  let home := (← IO.getEnv "HOME").getD ""
  let unseen : Files := ⟨work, home, fun _ => .absent⟩
  let paths :=
    match CommandLine.Invocation.ofArguments arguments with
    | .ok i => i.config.elim (Config.standardPaths unseen) fun path => [path]
    | .error _ => []
  let found ← paths.mapM fun path => do return (path, ← lookUp path)
  return { unseen with look := fun path => (Entries.get? path found).getD .absent }

def environmentFor (names : List String) : IO (List (String × RawText)) := do
  let found ← names.mapM fun name => do
    return (← IO.getEnv name).map fun value => (name, (value : RawText))
  return found.filterMap id

def worldFor (arguments : List RawText) : IO CommandLine.World := do
  let environment ← environmentFor ["SEMANTECO_ENDPOINT_URL", "SEMANTECO_ENDPOINT_TIMEOUT"]
  return {
    files := ← filesFor arguments
    environment := environment
    yaml := Yaml.reader
    tabulate := Table.text
    prints := fun r => r.toString?.isSome
    prints_ascii := fun s _ => RawText.isSome_toString?_ofString s }

/-- Runs the program over; each time it asks for one reply more, that reply is read first. -/
partial def converse (w : CommandLine.World) (arguments : List RawText) (replies : List Reply) :
    IO UInt32 := do
  match CommandLine.run w arguments (Session.start replies) with
  | .ok ending _ =>
    IO.print ending.output.shown
    IO.eprint ending.errors
    return ending.status.toUInt32
  | .error (.unanswered method url) s =>
    if let some call := s.calls.back? then
      IO.eprintln ((Json.compact call.document).getD "null")
    let line ← (← IO.getStdin).getLine
    if line.isEmpty then
      IO.eprintln (Failure.unanswered method url).message
      return 1
    converse w arguments (replies ++ [Reply.ofLine line])
  | .error failure _ =>
    IO.eprintln failure.message
    return 1

end SparqlCompose

def main (arguments : List String) : IO UInt32 := do
  let arguments := arguments.map fun a : String => (a : SparqlCompose.RawText)
  SparqlCompose.converse (← SparqlCompose.worldFor arguments) arguments []
