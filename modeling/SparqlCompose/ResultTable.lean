import SparqlCompose.Draft.Basic
import SparqlCompose.Json.Reader

namespace SparqlCompose

/-- What a row says of one variable; the other members of a binding are kept as they came. -/
structure Binding where
  value : RawText
  type : Value
  datatype : Value
  language : Value
deriving Inhabited

namespace Binding

def isUri (b : Binding) : Bool :=
  match b.type with
  | .text r => r == ("uri" : String)
  | _ => false

def ofValue (name : RawText) : Value → Except ResultFault Binding
  | .mapping entries =>
    match Value.member? "value" entries with
    | none => .error (.noValue name)
    | some (.text value) =>
      let part (key : RawText) := (Value.member? key entries).getD .null
      .ok ⟨value, part "type", part "datatype", part "xml:lang"⟩
    | some _ => .error (.valueNotText name)
  | _ => .error (.noValue name)

end Binding

abbrev Row := List (RawText × Option Binding)

namespace Row

/-- The binding of a name, when the row has the name and binds it. -/
def binding? (r : Row) (name : RawText) : Option Binding := (Entries.get? name r).join

def value? (r : Row) (name : RawText) : Option RawText := (r.binding? name).map (·.value)

def entry (r : Row) (name : RawText) : Except Failure (Option Binding) :=
  match Entries.get? name r with
  | some b => .ok b
  | none => .error (.absentName name)

def unbound (names : List RawText) : Row := Entries.ofPairs (names.map fun n => (n, none))

def ofMembers (row : Row) : List (Value × Value) → Except ResultFault Row
  | [] => .ok row
  | (.text name, raw) :: rest => do
    let b ← Binding.ofValue name raw
    ofMembers (Entries.put name (some b) row) rest
  | _ :: rest => ofMembers row rest

def ofValue (names : List RawText) (index : Nat) : Value → Except ResultFault Row
  | .mapping entries => ofMembers (unbound names) entries
  | _ => .error (.rowNotObject index)

end Row

structure ResultTable where
  names : List RawText
  rows : List Row

namespace ResultTable

def noted (seen : List RawText) : Value → List RawText
  | .text name => if name ∈ seen then seen else seen ++ [name]
  | _ => seen

def memberNames (rows : List Value) : List RawText :=
  rows.foldl (fun seen row =>
    match row with
    | .mapping entries => (entries.map Prod.fst).foldl noted seen
    | _ => seen) []

/-- The variables that the head announces, else the member names of the rows. -/
def announced (root : List (Value × Value)) (rows : List Value) : Except Failure (List RawText) :=
  match Value.member? "head" root with
  | some (.mapping head) =>
    match Value.member? "vars" head with
    | some (.list vars) => vars.mapM Value.shown
    | _ => .ok (memberNames rows)
  | _ => .ok (memberNames rows)

def rowsFrom (names : List RawText) : Nat → List Value → Except ResultFault (List Row)
  | _, [] => .ok []
  | index, raw :: rest => do
    let row ← Row.ofValue names index raw
    return row :: (← rowsFrom names (index + 1) rest)

def ofDocument (asked : Option (List RawText)) : Value → Except Failure ResultTable
  | .mapping root =>
    match Value.member? "results" root with
    | some (.mapping results) =>
      match Value.member? "bindings" results with
      | some (.list bindings) => do
        let names ← asked.elim (announced root bindings) .ok
        return ⟨names, ← (rowsFrom names 0 bindings).mapError .results⟩
      | _ => .error (.results .noBindings)
    | _ => .error (.results .noResults)
  | _ => .error (.results .rootNotObject)

def ofBody (asked : Option (List RawText)) : Value → Except Failure ResultTable
  | .null => .error (.results .noResponse)
  | .text body =>
    match Json.read body with
    | .ok document => ofDocument asked document
    | .error .malformed => .error (.results .notJson)
    | .error .tooDeep => .error .tooDeep
  | _ => .error (.results .notJson)

end ResultTable

def Edit.decodeTable (asked : Option (List RawText)) (body : Value) : Edit ResultTable := do
  let table ← ofExcept (ResultTable.ofBody asked body)
  let names := ", ".intercalate (table.names.map Text.quoted)
  log .debug s!"Decoded {table.rows.length} rows for variables [{names}]"
  return table

end SparqlCompose
