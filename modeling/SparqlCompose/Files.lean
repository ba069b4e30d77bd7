import SparqlCompose.Text.RawText

namespace SparqlCompose

/-- What the file system answers about a path. -/
inductive Lookup
  | absent
  /-- The path cannot be followed: it is too long, or a folder on it may not be searched. -/
  | barred (reason : String)
  /-- Something is there that cannot be opened or read, a folder for one. -/
  | unreadable (reason : String)
  | file (bytes : ByteArray)

structure Files where
  work : RawText
  home : RawText
  look : RawText → Lookup

namespace Path

def slash : Point := '/'

def parts : List Point → List RawText
  | [] => [⟨[]⟩]
  | p :: ps =>
    if p = slash then ⟨[]⟩ :: parts ps
    else
      match parts ps with
      | ⟨part⟩ :: rest => ⟨p :: part⟩ :: rest
      | [] => [⟨[p]⟩]

def steps (path : RawText) : List RawText :=
  (parts path.points).filter fun part => !(part.isEmpty || part = ".")

def anchor (path : RawText) : RawText :=
  match path.points.takeWhile (· = slash) with
  | [] => ""
  | [_, _] => "//"
  | _ => "/"

def text (anchor : RawText) (steps : List RawText) : RawText :=
  let names : RawText := ⟨[slash].intercalate (steps.map (·.points))⟩
  if anchor.isEmpty && names.isEmpty then "." else anchor ++ names

/-- A path in its shortest writing; steps upward are not resolved. -/
def normal (path : RawText) : RawText := text (anchor path) (steps path)

end Path

def Files.absolute (f : Files) (path : RawText) : RawText :=
  if (Path.anchor path).isEmpty then
    Path.text (Path.anchor f.work) (Path.steps f.work ++ Path.steps path)
  else Path.normal path

end SparqlCompose
