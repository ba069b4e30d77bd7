import SparqlCompose.Text.RawText

namespace SparqlCompose

structure Identifier where
  space : String
  name : String
deriving DecidableEq, Inhabited

namespace Identifier

def isSeparator (c : Char) : Bool := c == '#' || c == '/'

/-- The characters up to the last one with property `p`, and those behind it. -/
def splitAfterLast {α : Type} (p : α → Bool) (cs : List α) : List α × List α :=
  ((cs.reverse.dropWhile (!p ·)).reverse, (cs.reverse.takeWhile (!p ·)).reverse)

def ofText? (s : String) : Option Identifier :=
  if s.isEmpty then none
  else
    let parts := splitAfterLast isSeparator s.toList
    some ⟨String.ofList parts.1, String.ofList parts.2⟩

def text (i : Identifier) : String := i.space ++ i.name

theorem splitAfterLast_append {α : Type} (p : α → Bool) (cs : List α) :
    (splitAfterLast p cs).1 ++ (splitAfterLast p cs).2 = cs := by
  rw [splitAfterLast, ← List.reverse_append, List.takeWhile_append_dropWhile, List.reverse_reverse]

theorem text_of_ofText? {s : String} {i : Identifier} (h : ofText? s = some i) : i.text = s := by
  unfold ofText? at h
  split at h
  · cases h
  · cases h
    rw [text, ← String.ofList_append, splitAfterLast_append, String.ofList_toList]

end Identifier

/-- The label shown for a resource without one: its last path segment, hyphens turned into
periods. -/
def deriveLabel (uri : RawText) : RawText :=
  ⟨(Identifier.splitAfterLast (· == Point.char '/') uri.points).2.map fun p =>
    if p = Point.char '-' then Point.char '.' else p⟩

end SparqlCompose
