import SparqlCompose.Identifier
import SparqlCompose.Number.Double

namespace SparqlCompose

open Number (Double)

structure QueryId where
  index : Nat
deriving DecidableEq, Inhabited

structure GroupId where
  index : Nat
deriving DecidableEq, Inhabited

structure Variable where
  query : QueryId
  identifier : Identifier
deriving DecidableEq

structure Resource where
  query : QueryId
  identifier : Identifier
deriving DecidableEq

structure BlankNode where
  query : QueryId
  index : Nat
deriving DecidableEq

namespace Variable

def name (v : Variable) : String := v.identifier.name

def text (v : Variable) : String := "?" ++ v.name

end Variable

def Resource.iri (r : Resource) : String := r.identifier.text

def BlankNode.label (b : BlankNode) : String := "b" ++ toString b.index

inductive Literal
  | text (s : String)
  | integer (n : Int)
  | float (x : Double)
  | boolean (b : Bool)
deriving DecidableEq

namespace Literal

/-- Equality within one kind: `true`, `1`, `1.0` and `"1"` are four different literals. -/
def same : Literal → Literal → Bool
  | .text s, .text t => s == t
  | .integer n, .integer m => n == m
  | .float x, .float y => x.same y
  | .boolean a, .boolean b => a == b
  | _, _ => false

def kind : Literal → String
  | .text _ => "str"
  | .integer _ => "int"
  | .float _ => "float"
  | .boolean _ => "bool"

end Literal

inductive Term
  | variable (v : Variable)
  | resource (r : Resource)
  | blank (b : BlankNode)
  | literal (l : Literal)
deriving DecidableEq

/-- Whether a stored term is what a search asks for. -/
def Term.answers (stored wanted : Term) : Bool :=
  match stored, wanted with
  | .variable v, .variable w => v.identifier == w.identifier
  | .resource r, .resource w => r.identifier == w.identifier
  | .blank b, .blank w => b == w
  | .literal l, .literal w => l.same w
  | _, _ => false

inductive Role
  | subject
  | predicate
  | object
  | graph
deriving DecidableEq

def Role.name : Role → String
  | .subject => "subject"
  | .predicate => "predicate"
  | .object => "object"
  | .graph => "graph"

/-- A statement pattern, by itself or scoped to a graph. The serial number tells apart patterns
with the same terms. -/
structure Pattern where
  serial : Nat
  subject : Term
  predicate : Term
  object : Term
  graph : Option Term
deriving DecidableEq

/-- The things a caller can hold on to. A bare element is neither a pattern nor a group. -/
inductive Entity
  | variable (v : Variable)
  | resource (r : Resource)
  | blank (b : BlankNode)
  | pattern (p : Pattern)
  | group (g : GroupId)
  | bare (serial : Nat)
  | query (q : QueryId)
deriving DecidableEq

namespace Entity

def term? : Entity → Option Term
  | .variable v => some (.variable v)
  | .resource r => some (.resource r)
  | .blank b => some (.blank b)
  | _ => none

def equal : Entity → Entity → Bool
  | .variable v, .variable w => v.identifier == w.identifier
  | .resource r, .resource w => r.identifier == w.identifier
  | a, b => a == b

end Entity

/-- An argument where a term is expected. -/
inductive Operand
  | absent
  | entity (e : Entity)
  | literal (l : Literal)
  | foreign (kind : String)
deriving DecidableEq

namespace Operand

def ofTerm : Term → Operand
  | .variable v => .entity (.variable v)
  | .resource r => .entity (.resource r)
  | .blank b => .entity (.blank b)
  | .literal l => .literal l

def term? : Operand → Option Term
  | .entity e => e.term?
  | .literal l => some (.literal l)
  | _ => none

/-- Whether a search for this operand finds a stored term: nothing asked for finds everything. -/
def accepts (wanted : Operand) (stored : Term) : Bool :=
  match wanted, wanted.term? with
  | .absent, _ => true
  | _, some t => stored.answers t
  | _, none => false

@[simp] theorem term?_ofTerm (t : Term) : (ofTerm t).term? = some t := by
  cases t <;> rfl

end Operand

end SparqlCompose
