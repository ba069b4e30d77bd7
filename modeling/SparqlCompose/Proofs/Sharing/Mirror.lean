import SparqlCompose.Proofs.Draft.Lines
import SparqlCompose.Proofs.Nesting.Acyclic
import SparqlCompose.Proofs.Sharing.Naming

namespace SparqlCompose.Draft

theorem variablesFor_of_ne (d : Draft) {x : Operand} (rest : List Operand)
    (other : ∀ v, x ≠ .entity (.variable v)) :
    d.variablesFor (x :: rest) = .error (.invalid (.notVariable (d.operandKind x))) := by
  rw [variablesFor]
  exact fun v same => other v same

/-- What the first draft has stands in the second one under the names of the naming, and nothing
else does. -/
structure Mirrors (ν : Naming) (d D : Draft) : Prop where
  has : ∀ k n, ν.number k n < D.count k ↔ n < d.count k
  group : ∀ g, d.HasGroup g → D.group (g.rename ν) = (d.group g).rename ν
  query : ∀ q, d.HasQuery q → D.query (q.rename ν) = (d.query q).rename ν
  size : d.depth ≤ D.depth

namespace Mirrors

variable {ν : Naming} {d D : Draft} (h : d.Mirrors ν D)
include h

theorem hasGroup (g : GroupId) : D.HasGroup (g.rename ν) ↔ d.HasGroup g := h.has .groups g.index

theorem hasQuery (q : QueryId) : D.HasQuery (q.rename ν) ↔ d.HasQuery q := h.has .queries q.index

theorem group_eq (g : GroupId) : D.group (g.rename ν) = (d.group g).rename ν := by
  by_cases there : d.HasGroup g
  · exact h.group g there
  · have there' : ¬ D.HasGroup (g.rename ν) := fun has => there ((h.hasGroup g).mp has)
    rw [group_of_not_hasGroup _ there, group_of_not_hasGroup _ there']
    rfl

theorem query_eq (q : QueryId) : (D.query (q.rename ν)).asked = (d.query q).asked ∧
    (D.query (q.rename ν)).form = (d.query q).form.rename ν := by
  by_cases there : d.HasQuery q
  · rw [h.query q there]
    exact ⟨rfl, rfl⟩
  · have there' : ¬ D.HasQuery (q.rename ν) := fun has => there ((h.hasQuery q).mp has)
    rw [query_of_not_hasQuery _ _ there, query_of_not_hasQuery _ _ there']
    exact ⟨rfl, rfl⟩

theorem expression? (v : Variable) : D.expression? (v.rename ν) = d.expression? v := by
  have query : (v.rename ν).query = v.query.rename ν := rfl
  rw [Draft.expression?, Draft.expression?, query, (h.query_eq v.query).1]
  rfl

theorem entityKind (e : Entity) : D.entityKind (e.rename ν) = d.entityKind e := by
  cases e with
  | group g =>
    rw [Entity.rename, Draft.entityKind, Draft.entityKind, h.group_eq]
    rfl
  | query q =>
    rw [Entity.rename, Draft.entityKind, Draft.entityKind, (h.query_eq q).2]
    cases (d.query q).form <;> rfl
  | _ => rfl

theorem operandKind (x : Operand) : D.operandKind (x.rename ν) = d.operandKind x := by
  cases x with
  | entity e => exact h.entityKind e
  | _ => rfl

theorem termFor (role : Role) (x : Operand) :
    D.termFor role (x.rename ν) = (d.termFor role x).map (·.rename ν) := by
  cases x with
  | absent | literal | foreign => rfl
  | entity e =>
    have kind := h.entityKind e
    cases e with
    | «variable» v =>
      have fit : ∀ (d : Draft) (v : Variable), d.termFor role (.entity (.variable v)) =
          if (d.expression? v).isSome then .error (.invalid (.expressionTerm role v.name))
          else .ok (.variable v) := fun _ _ => rfl
      rw [Operand.rename, Entity.rename, fit, fit, h.expression?]
      split <;> rfl
    | resource | blank => rfl
    | _ =>
      -- what is no term is refused with the name of its kind
      simp only [Operand.rename, Entity.rename, Draft.termFor, Draft.operandKind, Operand.term?,
        Entity.term?, Except.map] at kind ⊢
      rw [kind]

theorem scopeFor (x : Operand) :
    D.scopeFor (x.rename ν) = (d.scopeFor x).map (Option.map (·.rename ν)) := by
  have fit : ∀ (d : Draft) (x : Operand), x ≠ .absent →
      d.scopeFor x = (d.termFor .graph x).map some := by
    intro d x other
    cases x with
    | absent => exact absurd rfl other
    | _ => rfl
  by_cases absent : x = .absent
  · subst absent
    rfl
  · have absent' : x.rename ν ≠ .absent := by
      cases x with
      | absent => exact absent
      | _ => exact nofun
    rw [fit _ _ absent, fit _ _ absent', h.termFor]
    cases d.termFor .graph x <;> rfl

theorem patternFor (serial : Nat) (s v o g : Operand) :
    D.patternFor (ν.number .serials serial) (s.rename ν) (v.rename ν) (o.rename ν) (g.rename ν) =
      (d.patternFor serial s v o g).map (·.rename ν) := by
  unfold Draft.patternFor
  rw [h.termFor, h.termFor, h.termFor, h.scopeFor]
  cases d.termFor .subject s with
  | error e => rfl
  | ok s' =>
    cases d.termFor .predicate v with
    | error e => rfl
    | ok v' =>
      cases d.termFor .object o with
      | error e => rfl
      | ok o' => cases d.scopeFor g <;> rfl

theorem variablesFor (xs : List Operand) :
    D.variablesFor (xs.map (·.rename ν)) =
      (d.variablesFor xs).map (List.map (·.rename ν)) := by
  induction xs with
  | nil => rfl
  | cons x rest ih =>
    rw [List.map_cons]
    by_cases isVariable : ∃ v, x = .entity (.variable v)
    · obtain ⟨v, rfl⟩ := isVariable
      rw [Operand.rename, Entity.rename, Draft.variablesFor, Draft.variablesFor, ih]
      cases d.variablesFor rest <;> rfl
    · have other : ∀ v, x ≠ .entity (.variable v) := fun v same => isVariable ⟨v, same⟩
      have other' : ∀ v, x.rename ν ≠ .entity (.variable v) := by
        intro v same
        cases x with
        | entity e =>
          cases e with
          | «variable» w => exact other w rfl
          | _ => cases same
        | _ => cases same
      rw [variablesFor_of_ne _ _ other, variablesFor_of_ne _ _ other', h.operandKind]
      rfl

theorem reaches (target : GroupId) (n : Nat) (g : GroupId) :
    D.reaches (target.rename ν) n (g.rename ν) = d.reaches target n g := by
  have same : ∀ g : GroupId, (g.rename ν == target.rename ν) = (g == target) := by
    intro g
    rw [Bool.eq_iff_iff, beq_iff_eq, beq_iff_eq]
    exact (GroupId.rename_injective ν).eq_iff
  induction n generalizing g with
  | zero => exact same g
  | succ n ih =>
    rw [Draft.reaches, Draft.reaches, same, h.group_eq, Group.groups_rename, List.any_map]
    congr 2
    exact funext ih

theorem findBelow (s v o : Operand) (n : Nat) (g : GroupId) :
    D.findBelow (s.rename ν) (v.rename ν) (o.rename ν) n (g.rename ν) =
      (d.findBelow s v o n g).map (·.rename ν) := by
  induction n generalizing g with
  | zero => rfl
  | succ n ih =>
    have answers : ((d.group g).rename ν).patterns.any
        (·.answers (s.rename ν) (v.rename ν) (o.rename ν)) =
          (d.group g).patterns.any (·.answers s v o) := by
      rw [Group.patterns_rename, List.any_map]
      congr 1
      funext p
      exact p.answers_rename s v o
    have below : ((d.group g).rename ν).groups.flatMap
        (D.findBelow (s.rename ν) (v.rename ν) (o.rename ν) n) =
          ((d.group g).groups.flatMap (d.findBelow s v o n)).map (·.rename ν) := by
      rw [Group.groups_rename, List.flatMap_map, List.map_flatMap]
      congr 1
      exact funext ih
    rw [Draft.findBelow, Draft.findBelow, h.group_eq, answers, below, List.map_append]
    split <;> rfl

theorem graph? {q : QueryId} (there : d.HasQuery q) (uri : String) :
    D.graph? (q.rename ν) uri = (d.graph? q uri).map (·.rename ν) := by
  have body : (D.query (q.rename ν)).body = (d.query q).body.rename ν := by
    rw [h.query q there]
    rfl
  rw [Draft.graph?, Draft.graph?, body, h.group_eq, Group.groups_rename, List.find?_map]
  congr 2
  funext g
  simp only [Function.comp, h.group_eq, Group.rename]

theorem lines (indent : String) (n level : Nat) (g : GroupId) :
    D.lines indent n level (g.rename ν) = d.lines indent n level g := by
  induction n generalizing level g with
  | zero => rfl
  | succ n ih =>
    have elements : ((d.group g).rename ν).elements.mapM (D.elementLines indent n level) =
        (d.group g).elements.mapM (d.elementLines indent n level) := by
      rw [Group.rename, List.mapM_map]
      apply mapM_congr
      intro e _
      cases e with
      | pattern p =>
        have written : (p.rename ν).written = p.written := p.written_rename
        simp only [Function.comp, Element.rename, elementLines, written]
      | stray thing => simp only [Function.comp, Element.rename, elementLines, h.entityKind]
      | group inner =>
        simp only [Function.comp, Element.rename, elementLines, ih, h.group_eq, Group.rename]
    rw [lines_succ, lines_succ, h.group_eq, elements]

theorem projected (v : Variable) : D.projected (v.rename ν) = d.projected v := by
  rw [Draft.projected, Draft.projected, h.expression?]
  rfl

end Mirrors

namespace Mirrors

variable {ν : Naming} {d D : Draft} (h : d.Mirrors ν D) (nested : d.WellNested)
include h nested

theorem reaches_depth (target : GroupId) {g : GroupId} (there : d.HasGroup g) :
    D.reaches (target.rename ν) D.depth (g.rename ν) = d.reaches target d.depth g := by
  rw [h.reaches, (nested.bounded there).reaches_eq h.size]

theorem find (s v o : Operand) {g : GroupId} (there : d.HasGroup g) :
    D.find (g.rename ν) (s.rename ν) (v.rename ν) (o.rename ν) =
      (d.find g s v o).map (·.rename ν) := by
  rw [Draft.find, Draft.find, h.findBelow, (nested.bounded there).findBelow_eq h.size]

theorem lines_depth (indent : String) (level : Nat) {g : GroupId} (there : d.HasGroup g) :
    D.lines indent D.depth level (g.rename ν) = d.lines indent d.depth level g := by
  rw [h.lines, (nested.bounded there).lines_eq h.size]

theorem sparql (rooted : d.Rooted) {q : QueryId} (there : d.HasQuery q) (indent : String) :
    D.sparql indent (q.rename ν) = d.sparql indent q := by
  have roots := rooted q there
  have body := h.lines_depth nested indent 1 (roots _ (Query.body_mem_roots _))
  have head : D.headLines indent ((d.query q).rename ν) = d.headLines indent (d.query q) := by
    unfold headLines
    rw [Query.rename]
    cases form : (d.query q).form with
    | formless => rfl
    | select distinct projection grouping =>
      have texts : (projection.map (·.rename ν)).map D.projected = projection.map d.projected := by
        rw [List.map_map]
        exact List.map_congr_left fun v _ => h.projected v
      simp only [Form.rename, selectLine, texts, List.isEmpty_map]
    | construct template =>
      have made := h.lines_depth nested indent 1 (roots template (by simp [Query.roots, form]))
      simp only [Form.rename, made]
  have tail : tailLines ((d.query q).rename ν) = tailLines (d.query q) := tailLines_rename _
  unfold Draft.sparql queryLines
  rw [h.query q there]
  dsimp only
  rw [head, tail]
  have body' : ((d.query q).rename ν).body = (d.query q).body.rename ν := rfl
  have prefixes : namespaceLines ((d.query q).rename ν) = namespaceLines (d.query q) := rfl
  rw [body', body, prefixes]

end Mirrors

end SparqlCompose.Draft
