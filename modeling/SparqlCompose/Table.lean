import SparqlCompose.Value

namespace SparqlCompose

namespace Table

/-- What a renderer of tables is given: rows under their headers, or entries that name their parts
themselves. -/
inductive Sheet
  | rows (headers : List String) (rows : List (List Value))
  | entries (entries : List Value)

structure Column where
  header : RawText
  cells : List Value

namespace Column

/-- A text without the blanks around it, or the display of another cell; nothing is left out. -/
def cellText : Value → RawText
  | .null => ""
  | .text r => ⟨Text.trim Point.isBlank r.points⟩
  | v => v.display.getD ""

def width (c : Column) : Nat :=
  c.cells.foldl (fun w v => max w (cellText v).points.length) (c.header.points.length + 2)

def isNumber : Value → Bool
  | .integer _ => true
  | _ => false

def fill (c : Column) (r : RawText) : List Point :=
  let gap := List.replicate (c.width - r.points.length) (Point.char ' ')
  if !c.cells.isEmpty && c.cells.all isNumber then gap ++ r.points else r.points ++ gap

def rule (c : Column) : List Point := List.replicate c.width '-'

end Column

def line (cells : List (List Point)) : List Point :=
  Text.trimEnd Point.isBlank ([Point.char ' ', Point.char ' '].intercalate cells)

def columns : Sheet → List Column
  | .rows headers rows =>
    headers.mapIdx fun i (header : String) => ⟨header, rows.map fun row => row.getD i .null⟩
  | .entries entries =>
    let members : List (List (Value × Value)) := entries.map fun
      | .mapping members => members
      | _ => []
    let names := (members.flatten.filterMap fun
      | (.text name, _) => some name
      | _ => none).eraseDups
    names.map fun name => ⟨name, members.map fun m => (Value.member? name m).getD .null⟩

def height : Sheet → Nat
  | .rows _ rows => rows.length
  | .entries entries => entries.length

def text (sheet : Sheet) : RawText :=
  let columns := columns sheet
  let lines :=
    line (columns.map fun c => c.fill c.header) :: line (columns.map Column.rule) ::
      (List.range (height sheet)).map fun i =>
        line (columns.map fun c => c.fill (Column.cellText (c.cells.getD i .null)))
  ⟨[Point.char '\n'].intercalate lines⟩

end Table

end SparqlCompose
