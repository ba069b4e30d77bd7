import SparqlCompose.Config.Source
import SparqlCompose.Yaml.Reader

namespace SparqlCompose.Config

/-- An object that holds a configuration. A file is taken over, its path with it, before its root is
looked at, so that a file refused for its root has left both here. -/
structure Holder where
  root : Value
  path : Option RawText

namespace Holder

def fresh : Holder := ⟨.mapping [], none⟩

def config (h : Holder) (environment : List (String × RawText)) : Config :=
  ⟨h.root, h.path.getD "None", environment⟩

end Holder

/-- A step of loading. A step that fails leaves the holder as it was at the failure. -/
abbrev Filling := EStateM Failure Holder

namespace Filling

variable (yaml : Yaml.Reader) (files : Files)

def document (bytes : ByteArray) : Filling Value :=
  match decode? bytes with
  | none => throw (if yaml.stops bytes then .configuration .malformed else .encoding)
  | some text =>
    match yaml.load text with
    | .error .malformed => throw (.configuration .malformed)
    | .error .tooDeep => throw .tooDeep
    | .ok v => return v

/-- The root that is taken from a document. What counts as no stands for the empty mapping. -/
def rootTaken (v : Value) : Value := if v.truthy then v else .mapping []

def requireMapping : Filling Unit := do
  match (← get).root with
  | .mapping _ => return ()
  | _ => throw (.configuration .rootNotMapping)

/-- Takes over what a path leads to. Only a path that can be followed is tried. -/
def load (path : RawText) : Filling Unit :=
  match files.look path with
  | .absent => throw (.configuration (.notFound path))
  | .barred reason => throw (.system reason)
  | .unreadable reason => throw (.configuration (.unreadable reason))
  | .file bytes => do
    let v ← document yaml bytes
    modify fun h => { h with root := rootTaken v }
    modify fun h => { h with path := some (files.absolute path) }
    requireMapping

def builtin : Filling Unit := set (Holder.mk builtinRoot (some builtinPath))

/-- Tries the paths that lead to something. What a file that is passed over has left in the holder
stays there until something else is taken over. -/
def search : List RawText → Filling Unit
  | [] => builtin
  | path :: rest =>
    match files.look path with
    | .absent | .barred _ => search rest
    | _ =>
      tryCatch (load yaml files path) fun
        | .configuration _ => search rest
        | e => throw e

def fill : Option RawText → Filling Unit
  | some path => load yaml files path
  | none => search yaml files (standardPaths files)

end Filling

def Holder.outcome (environment : List (String × RawText)) :
    EStateM.Result Failure Holder Unit → Except Failure Config
  | .ok _ h => .ok (h.config environment)
  | .error e _ => .error e

def obtain (yaml : Yaml.Reader) (files : Files) (environment : List (String × RawText))
    (path? : Option RawText) : Except Failure Config :=
  Holder.outcome environment ((Filling.fill yaml files path?).run .fresh)

end SparqlCompose.Config
