import SparqlCompose.Proofs.Draft.GroupRuns
import SparqlCompose.Proofs.Draft.Journal

namespace SparqlCompose

/-- A new query, the groups that were made for it, and how many serial numbers they took. -/
structure Sheet where
  groups : List Group
  query : Query
  used : Nat

namespace Sheet

def blank (strict : Bool) (body : GroupId) (form : Form) (n : Nat) : Sheet :=
  ⟨List.replicate n ⟨.plain, []⟩, ⟨strict, [], body, [], [], 0, form⟩, 0⟩

def revise (w : Sheet) (f : Query → Query) : Sheet := { w with query := f w.query }

def addGroup (w : Sheet) (kind : GroupKind) : Sheet :=
  { w with groups := w.groups ++ [⟨kind, []⟩] }

def append (w : Sheet) (i : Nat) (es : List Element) : Sheet :=
  { w with groups := w.groups.modify i fun g => { g with elements := g.elements ++ es } }

def advance (w : Sheet) (n : Nat) : Sheet := { w with used := w.used + n }

theorem append_append (w : Sheet) (i : Nat) (es fs : List Element) :
    (w.append i es).append i fs = w.append i (es ++ fs) := by
  simp [append, List.modify_modify_eq, Function.comp_def]

end Sheet

def Query.Uncomputed (query : Query) : Prop := ∀ i, (Entries.get? i query.asked).join = none

theorem Query.Uncomputed.ask {query : Query} (h : query.Uncomputed) (i : Identifier) :
    (query.ask i).Uncomputed := by
  intro j
  cases known : Entries.get? j (query.ask i).asked with
  | none => rfl
  | some now =>
    cases now with
    | none => rfl
    | some expression =>
      have before := h j
      rw [get?_of_get?_ask query known] at before
      cases before

namespace Draft

variable (d : Draft) (w : Sheet)

def attach (d : Draft) (w : Sheet) : Draft :=
  ⟨d.groups ++ w.groups.toArray, d.queries.push w.query, d.serial + w.used, d.journal⟩

structure Leaves (d : Draft) (w : Sheet) (v : Variable) : Prop where
  query : v.query = d.nextQuery
  plain : (Entries.get? v.identifier w.query.asked).join = none

def place (d : Draft) (i : Nat) : GroupId := ⟨d.groups.size + i⟩

def announcing (d : Draft) (form : String) : Draft :=
  d.record ⟨.debug, "Created new " ++ form ++ " query"⟩

theorem query_attach : (d.attach w).query d.nextQuery = w.query := by
  simp [attach, query, nextQuery]

variable {d w} in
theorem Leaves.expression?_attach {v : Variable} (own : d.Leaves w v) :
    (d.attach w).expression? v = none := by
  rw [expression?, own.query, query_attach]
  exact own.plain

theorem group_attach (i : Nat) : (d.attach w).group (d.place i) = w.groups[i]?.getD default := by
  have right : (d.groups ++ w.groups.toArray)[d.groups.size + i]? = w.groups[i]? := by
    rw [Array.getElem?_append_right (by omega)]
    simp
  exact congrArg (·.getD default) right

theorem depth_attach : (d.attach w).depth = d.groups.size + w.groups.length := by
  simp [attach, depth]

theorem hasGroup_attach (i : Nat) : (d.attach w).HasGroup (d.place i) ↔ i < w.groups.length := by
  simp [attach, HasGroup, place]

theorem nextGroup_attach : (d.attach w).nextGroup = d.place w.groups.length := by
  simp [attach, nextGroup, place]

theorem revise_attach (f : Query → Query) :
    (d.attach w).revise d.nextQuery f = d.attach (w.revise f) := by
  rw [revise, query_attach]
  simp [attach, setQuery, nextQuery, Sheet.revise, Array.setIfInBounds, Array.set_push]

theorem addGroup_attach (kind : GroupKind) :
    (d.attach w).addGroup kind = d.attach (w.addGroup kind) := by
  simp [attach, addGroup, Sheet.addGroup]

theorem advance_attach : (d.attach w).advance = d.attach (w.advance 1) := by
  simp [attach, advance, Sheet.advance, Nat.add_assoc]

theorem append_attach (i : Nat) (e : Element) :
    (d.attach w).append (d.place i) e = d.attach (w.append i [e]) := by
  rw [append, group_attach]
  simp [attach, setGroup, place, Sheet.append, List.modify_eq_set,
    Array.setIfInBounds_append_right]

theorem termFor_attach (role : Role) {t : Term} (own : ∀ v, t = .variable v → d.Leaves w v) :
    (d.attach w).termFor role (.ofTerm t) = .ok t := by
  cases t with
  | «variable» v =>
    simp [termFor, Operand.ofTerm, Operand.term?, Entity.term?, (own v rfl).expression?_attach]
  | resource | blank | literal => rfl

theorem patternFor_attach {s v o : Term}
    (own : ∀ x : Variable, .variable x ∈ [s, v, o] → d.Leaves w x) (serial : Nat) :
    (d.attach w).patternFor serial (.ofTerm s) (.ofTerm v) (.ofTerm o) .absent =
      .ok ⟨serial, s, v, o, none⟩ := by
  have subject := d.termFor_attach w .subject (t := s) fun x same => own x (by simp [same])
  have predicate := d.termFor_attach w .predicate (t := v) fun x same => own x (by simp [same])
  have object := d.termFor_attach w .object (t := o) fun x same => own x (by simp [same])
  rw [patternFor, subject, predicate, object]
  rfl

end Draft

namespace Edit

open Draft

variable (d : Draft) (w : Sheet)

theorem run_newSelect_fresh (strict : Bool) :
    (newSelect strict).run d =
      .ok (d.announcing "SELECT").nextQuery ((d.announcing "SELECT").attach
        (.blank strict ((d.announcing "SELECT").place 0) (.select false [] []) 1)) := by
  rw [run_newSelect]
  simp [attach, announcing, record, Draft.addGroup, Draft.addQuery, nextGroup, nextQuery, place,
    Sheet.blank]

theorem run_newConstruct_fresh (strict : Bool) :
    (newConstruct strict).run d =
      .ok (d.announcing "CONSTRUCT").nextQuery ((d.announcing "CONSTRUCT").attach
        (.blank strict ((d.announcing "CONSTRUCT").place 1)
          (.construct ((d.announcing "CONSTRUCT").place 0)) 2)) := by
  have groups (g g' : Group) : (d.groups.push g).push g' = d.groups ++ #[g, g'] := by
    rw [Array.push_eq_append, Array.push_eq_append, Array.append_assoc]
    rfl
  rw [run_newConstruct]
  simp [attach, announcing, record, Draft.addGroup, Draft.addQuery, nextGroup, nextQuery, place,
    Sheet.blank, groups, List.replicate]

theorem run_internVariable_attach {text : String} {i : Identifier}
    (split : Identifier.ofText? text = some i) :
    (internVariable d.nextQuery text).run (d.attach w) =
      .ok ⟨d.nextQuery, i⟩ (d.attach (w.revise (·.ask i))) := by
  rw [run_internVariable, split, ← revise_attach]

theorem run_internResource_attach {text : String} {i : Identifier}
    (split : Identifier.ofText? text = some i) :
    (internResource d.nextQuery text).run (d.attach w) =
      .ok ⟨d.nextQuery, i⟩ (d.attach (w.revise (·.meet i))) := by
  rw [run_internResource, split, ← revise_attach]

theorem run_newBlank_attach :
    (newBlank d.nextQuery).run (d.attach w) =
      .ok ⟨d.nextQuery, w.query.blanks⟩ (d.attach (w.revise Query.countBlank)) := by
  rw [run_newBlank, query_attach, revise_attach]

theorem run_project_attach (select : w.query.form.IsSelect) (vs : List Variable) :
    (project d.nextQuery (vs.map fun v => .entity (.variable v))).run (d.attach w) =
      .ok () (d.attach (w.revise (·.reform (·.withProjection (keepFirst vs))))) := by
  have all : (d.attach w).variablesFor (vs.map fun v => .entity (.variable v)) = .ok vs :=
    variablesFor_eq_ok_iff.mpr rfl
  rw [run_project, query_attach, if_pos select, all, ← revise_attach]

theorem run_setDistinct_attach (select : w.query.form.IsSelect) (flag : Bool) :
    (setDistinct d.nextQuery flag).run (d.attach w) =
      .ok () (d.attach (w.revise (·.reform (·.withDistinct flag)))) := by
  rw [run_setDistinct, query_attach, if_pos select, revise_attach]

theorem run_groupBy_attach (select : w.query.form.IsSelect) (e : Entity) :
    (groupBy d.nextQuery e).run (d.attach w) =
      .ok () (d.attach (w.revise (·.reform (·.groupedBy e)))) := by
  rw [run_groupBy, query_attach, if_pos select, revise_attach]

theorem run_expression_attach (select : w.query.form.IsSelect) {text : String} {c : Computed}
    (is : Computed.ofText? text = some c)
    (unknown : Entries.get? (sharedIdentifier c.name) w.query.asked = none) :
    (expression d.nextQuery (some text)).run (d.attach w) =
      .ok ⟨d.nextQuery, sharedIdentifier c.name⟩
        (d.attach (w.revise (·.express (sharedIdentifier c.name) c.expression))) := by
  have conflict : w.query.aliasConflict? c = none := by rw [Query.aliasConflict?, unknown]
  rw [run_expression, query_attach, if_pos select, Option.bind_some, is]
  dsimp only
  rw [unknown, if_neg (Option.some_ne_none _).symm, conflict, settling, revise_attach]

theorem run_internGraph_attach {uri : String} {i : Nat} {kind : GroupKind}
    (body : w.query.body = d.place i) (empty : w.groups[i]? = some ⟨kind, []⟩)
    (named : uri.isEmpty = false) :
    (internGraph d.nextQuery uri).run (d.attach w) =
      .ok (d.place w.groups.length)
        (d.attach ((w.addGroup (.graph uri)).append i [.group (d.place w.groups.length)])) := by
  have bound : i < w.groups.length := (List.getElem?_eq_some_iff.mp empty).1
  have there : (d.attach w).HasGroup ((d.attach w).query d.nextQuery).body := by
    rw [query_attach, body, hasGroup_attach]
    exact bound
  have none : (d.attach w).graph? d.nextQuery uri = none := by
    rw [graph?, query_attach, body, group_attach, empty]
    rfl
  rw [run_internGraph _ _ _ there, none]
  simp only [named, Bool.false_eq_true, if_false, nextGroup_attach, addGroup_attach, query_attach,
    body, append_attach]

theorem run_newGroup_attach (kind : GroupKind) :
    (newGroup kind).run (d.attach w) =
      .ok (d.place w.groups.length) (d.attach (w.addGroup kind)) := by
  rw [run_newGroup, nextGroup_attach, addGroup_attach]

theorem run_addElement_attach {i : Nat} (kind : GroupKind) (other : i < w.groups.length) :
    (addElement (d.place i) (some (.group (d.place w.groups.length)))).run
        (d.attach (w.addGroup kind)) =
      .ok () (d.attach ((w.addGroup kind).append i [.group (d.place w.groups.length)])) := by
  have apart : d.place w.groups.length ≠ d.place i := by
    intro same
    have sizes := congrArg GroupId.index same
    simp only [place] at sizes
    omega
  have reached : (d.attach (w.addGroup kind)).reaches (d.place i)
      (d.attach (w.addGroup kind)).depth (d.place w.groups.length) = false := by
    rw [← addGroup_attach, ← nextGroup_attach, reaches_addGroup_next, nextGroup_attach]
    simpa using apart
  rw [run_addElement_group, reached, append_attach]
  rfl

theorem run_addPattern_attach {s v o : Term}
    (own : ∀ x : Variable, .variable x ∈ [s, v, o] → d.Leaves w x) (i : Nat) :
    (addPattern (d.place i) (.ofTerm s) (.ofTerm v) (.ofTerm o) .absent).run (d.attach w) =
      .ok ⟨d.serial + w.used, s, v, o, none⟩
        (d.attach ((w.advance 1).append i [.pattern ⟨d.serial + w.used, s, v, o, none⟩])) := by
  rw [run_addPattern, d.patternFor_attach w own]
  dsimp only
  rw [advance_attach, append_attach]
  rfl

end Edit

end SparqlCompose
