import SparqlCompose.Number.Text
import SparqlCompose.Text.Quoted

namespace SparqlCompose

open Number (Double)

/-- Data of configuration files, request parameters and result documents. Mappings keep the order in
which their keys came. -/
inductive Value
  | null
  | boolean (b : Bool)
  | integer (n : Int)
  | float (x : Double)
  | text (r : RawText)
  | list (items : List Value)
  | mapping (entries : List (Value × Value))
  /-- A date, a byte string, a set or a tuple, by what shows of it: whether it counts as yes, its
  display and its literal form as far as it has them, and what it lists. -/
  | other (yes : Bool) (shown written : Option String) (items : Option (List Value))
deriving Inhabited

namespace Value

mutual

/-- The literal form, in which a text stands in quotes; an integer that is too long has none, nor
has anything that holds one. -/
def literal : Value → Option String
  | .null => some "None"
  | .boolean b => some (if b then "True" else "False")
  | .integer n => Number.integerText? n
  | .float x => some x.text
  | .text r => some (Text.quoted r)
  | .list items => do return "[" ++ ", ".intercalate (← literals items) ++ "]"
  | .mapping entries => do return "\x7b" ++ ", ".intercalate (← literalPairs entries) ++ "\x7d"
  | .other _ _ written _ => written

def literals : List Value → Option (List String)
  | [] => some []
  | v :: vs => do return (← v.literal) :: (← literals vs)

def literalPairs : List (Value × Value) → Option (List String)
  | [] => some []
  | (k, v) :: rest => do
    return ((← k.literal) ++ ": " ++ (← v.literal)) :: (← literalPairs rest)

end

def display : Value → Option RawText
  | .text r => some r
  | .other _ shown _ _ => shown.map .ofString
  | v => v.literal.map .ofString

def truthy : Value → Bool
  | .null => false
  | .boolean b => b
  | .integer n => n != 0
  | .float x => !x.isZero
  | .text r => !r.isEmpty
  | .list items => !items.isEmpty
  | .mapping entries => !entries.isEmpty
  | .other yes _ _ _ => yes

/-- The number that a key stands for: booleans count as 0 and 1, and a float with an integral value
as that integer. -/
def keyNumber? : Value → Option Int
  | .boolean b => some (if b then 1 else 0)
  | .integer n => some n
  | .float (.finite negative m e) =>
    let (num, den) := Double.scale m 1 (-e)
    if num % den = 0 then some (if negative then -(num / den : Nat) else (num / den : Nat))
    else none
  | _ => none

def sameKey : Value → Value → Bool
  | .null, .null => true
  | .text r, .text t => r == t
  | .other _ _ written _, .other _ _ written' _ => written == written'
  | a, b =>
    match a.keyNumber?, b.keyNumber?, a, b with
    | some n, some m, _, _ => n == m
    | none, none, .float x, .float y => x.same y
    | _, _, _, _ => false

def isKey : Value → Bool
  | .list _ => false
  | .mapping _ => false
  | _ => true

def bind (key value : Value) : List (Value × Value) → List (Value × Value)
  | [] => [(key, value)]
  | (k, v) :: rest => if k.sameKey key then (k, value) :: rest else (k, v) :: bind key value rest

def member? (name : RawText) : List (Value × Value) → Option Value
  | [] => none
  | (.text k, v) :: rest => if k = name then some v else member? name rest
  | _ :: rest => member? name rest

end Value

end SparqlCompose
