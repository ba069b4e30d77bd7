import SparqlCompose.Proofs.Nesting.Depth

namespace SparqlCompose

def Query.withStrict (flag : Bool) (query : Query) : Query := { query with strict := flag }

namespace Draft

/-- Drafts with the same groups, whose queries may differ in being strict. -/
structure Resembles (d d' : Draft) : Prop where
  groups : d'.groups = d.groups
  query : ∀ q, (d'.query q).withStrict false = (d.query q).withStrict false

theorem findBelow_congr {d d' : Draft} (same : d'.groups = d.groups) (s v o : Operand)
    (depth : Nat) (g : GroupId) : d'.findBelow s v o depth g = d.findBelow s v o depth g := by
  have groups : ∀ g, d'.group g = d.group g := fun g => by rw [group, group, same]
  induction depth generalizing g with
  | zero => rfl
  | succ depth ih =>
    have deeper : d'.findBelow s v o depth = d.findBelow s v o depth := funext ih
    rw [findBelow, findBelow, groups, deeper]

theorem find_congr {d d' : Draft} (same : d'.groups = d.groups) (g : GroupId) (s v o : Operand) :
    d'.find g s v o = d.find g s v o := by
  rw [find, find, depth, depth, same, findBelow_congr same]

theorem reaches_congr {d d' : Draft} (same : d'.groups = d.groups) (target : GroupId)
    (depth : Nat) (g : GroupId) : d'.reaches target depth g = d.reaches target depth g := by
  have groups : ∀ g, d'.group g = d.group g := fun g => by rw [group, group, same]
  induction depth generalizing g with
  | zero => rfl
  | succ depth ih =>
    have deeper : d'.reaches target depth = d.reaches target depth := funext ih
    rw [reaches, reaches, groups, deeper]

namespace Resembles

variable {d d' : Draft} (h : d.Resembles d')
include h

theorem group (g : GroupId) : d'.group g = d.group g := by
  rw [Draft.group, Draft.group, h.groups]

theorem depth : d'.depth = d.depth := by rw [Draft.depth, Draft.depth, h.groups]

theorem namespaces (q : QueryId) : (d'.query q).namespaces = (d.query q).namespaces :=
  (congrArg Query.namespaces (h.query q) :)

theorem body (q : QueryId) : (d'.query q).body = (d.query q).body :=
  (congrArg Query.body (h.query q) :)

theorem asked (q : QueryId) : (d'.query q).asked = (d.query q).asked :=
  (congrArg Query.asked (h.query q) :)

theorem form (q : QueryId) : (d'.query q).form = (d.query q).form :=
  (congrArg Query.form (h.query q) :)

theorem expression? (v : Variable) : d'.expression? v = d.expression? v := by
  rw [Draft.expression?, Draft.expression?, h.asked]

theorem entityKind (e : Entity) : d'.entityKind e = d.entityKind e := by
  cases e with
  | group g => rw [Draft.entityKind, Draft.entityKind, h.group]
  | query q => rw [Draft.entityKind, Draft.entityKind, h.form]
  | _ => rfl

theorem operandKind (x : Operand) : d'.operandKind x = d.operandKind x := by
  cases x with
  | entity e => exact h.entityKind e
  | _ => rfl

theorem termFor (role : Role) (x : Operand) : d'.termFor role x = d.termFor role x := by
  unfold Draft.termFor
  simp only [h.operandKind, h.expression?]

theorem patternFor (serial : Nat) (s v o g : Operand) :
    d'.patternFor serial s v o g = d.patternFor serial s v o g := by
  have scope : d'.scopeFor g = d.scopeFor g := by
    cases g with
    | absent => rfl
    | _ => simp only [scopeFor, h.termFor]
  unfold Draft.patternFor
  simp only [h.termFor, scope]

theorem variablesFor (xs : List Operand) : d'.variablesFor xs = d.variablesFor xs := by
  induction xs with
  | nil => rfl
  | cons x rest ih =>
    cases x with
    | entity e =>
      cases e with
      | «variable» v => simp only [Draft.variablesFor, ih]
      | _ => simp only [Draft.variablesFor, h.operandKind]
    | _ => simp only [Draft.variablesFor, h.operandKind]

theorem graph? (q : QueryId) (uri : String) : d'.graph? q uri = d.graph? q uri := by
  unfold Draft.graph?
  simp only [h.body, h.group]

theorem lines (indent : String) (depth level : Nat) (g : GroupId) :
    d'.lines indent depth level g = d.lines indent depth level g := by
  induction depth generalizing level g with
  | zero => rfl
  | succ depth ih =>
    rw [Draft.lines, Draft.lines, h.group]
    congr 1
    apply mapM_congr
    intro e _
    cases e with
    | pattern p => rfl
    | stray thing => simp only [h.entityKind]
    | group inner => simp only [ih, h.group]

theorem sparql (indent : String) (q : QueryId) : d'.sparql indent q = d.sparql indent q := by
  have projected : d'.projected = d.projected := by
    funext v
    rw [Draft.projected, Draft.projected, h.expression?]
  have head : d'.headLines indent (d'.query q) = d.headLines indent (d.query q) := by
    unfold headLines selectLine
    simp only [h.form, h.depth, h.lines, projected]
  have tail : tailLines (d'.query q) = tailLines (d.query q) := by
    unfold tailLines
    rw [h.form]
  have prefixes : namespaceLines (d'.query q) = namespaceLines (d.query q) := by
    rw [namespaceLines, namespaceLines, h.namespaces]
  unfold Draft.sparql queryLines
  simp only [head, tail, prefixes, h.body, h.depth, h.lines]

end Resembles

end Draft

end SparqlCompose
