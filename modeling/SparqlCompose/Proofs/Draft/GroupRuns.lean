import SparqlCompose.Draft.Sparql
import SparqlCompose.Proofs.Draft.QueryRuns

namespace SparqlCompose

namespace Draft

theorem reaches_addGroup_next (d : Draft) (kind : GroupKind) (target : GroupId) (depth : Nat) :
    (d.addGroup kind).reaches target depth d.nextGroup = (d.nextGroup == target) := by
  cases depth with
  | zero => rfl
  | succ depth => simp [reaches, Group.groups, group_addGroup_next]

end Draft

namespace Edit

open Draft

variable (d : Draft) (q : QueryId)

@[simp] theorem run_newSerial : newSerial.run d = .ok d.serial d.advance := rfl

@[simp] theorem run_newBare : newBare.run d = .ok (.bare d.serial) d.advance := rfl

@[simp] theorem run_newGroup (kind : GroupKind) :
    (newGroup kind).run d = .ok d.nextGroup (d.addGroup kind) := rfl

@[simp] theorem run_addQuery (strict : Bool) (form : Form) :
    (addQuery strict form).run d =
      .ok d.nextQuery ((d.addGroup .plain).addQuery strict d.nextGroup form) := rfl

@[simp] theorem run_append (g : GroupId) (e : Element) :
    (append g e).run d = .ok () (d.append g e) := rfl

theorem run_newSelect (strict : Bool) :
    (newSelect strict).run d =
      .ok d.nextQuery
        (((d.addGroup .plain).addQuery strict d.nextGroup (.select false [] [])).record
          ⟨.debug, "Created new SELECT query"⟩) := rfl

theorem run_newConstruct (strict : Bool) :
    (newConstruct strict).run d =
      .ok d.nextQuery
        ((((d.addGroup .plain).addGroup .plain).addQuery strict (d.addGroup .plain).nextGroup
          (.construct d.nextGroup)).record ⟨.debug, "Created new CONSTRUCT query"⟩) := rfl

theorem run_newFormless (strict : Bool) :
    (newFormless strict).run d =
      .ok d.nextQuery ((d.addGroup .plain).addQuery strict d.nextGroup .formless) := rfl

theorem run_newQuery (strict : Bool) (form : String) :
    (newQuery strict form).run d =
      if form = "SELECT" then (newSelect strict).run d
      else if form = "CONSTRUCT" then (newConstruct strict).run d
      else .error (.invalid (.unknownForm form)) d := by
  unfold newQuery
  split
  · rfl
  · split <;> rfl

theorem run_newPattern (s v o g : Operand) :
    (newPattern s v o g).run d =
      match d.patternFor d.serial s v o g with
      | .ok p => .ok p d.advance
      | .error e => .error e d := by
  unfold newPattern
  simp only [EStateM.run_bind, EStateM.run_get]
  cases d.patternFor d.serial s v o g <;> rfl

theorem run_addPattern (group : GroupId) (s v o g : Operand) :
    (addPattern group s v o g).run d =
      match d.patternFor d.serial s v o g with
      | .ok p => .ok p (d.advance.append group (.pattern p))
      | .error e => .error e d := by
  unfold addPattern
  rw [EStateM.run_bind, run_newPattern]
  cases d.patternFor d.serial s v o g <;> rfl

theorem run_addElement_group (outer inner : GroupId) :
    (addElement outer (some (.group inner))).run d =
      if d.reaches outer d.depth inner then .error (.invalid .cyclicNesting) d
      else .ok () (d.append outer (.group inner)) := by
  unfold addElement
  simp only [EStateM.run_bind, EStateM.run_get]
  cases d.reaches outer d.depth inner <;> rfl

theorem run_addElement_of_ne_group (group : GroupId) (e : Element)
    (h : ∀ inner, e ≠ .group inner) :
    (addElement group (some e)).run d = .ok () (d.append group e) := by
  cases e with
  | pattern p => rfl
  | group inner => exact absurd rfl (h inner)
  | stray thing => rfl

theorem run_newGraph (uri : String) :
    (newGraph uri).run d =
      if uri.isEmpty then .error (.invalid .emptyGraphName) d
      else .ok d.nextGroup (d.addGroup (.graph uri)) := by
  unfold newGraph
  split <;> rfl

theorem run_internGraph_ite (uri : String) :
    (internGraph q uri).run d =
      match d.graph? q uri with
      | some g => .ok g d
      | none =>
        if uri.isEmpty then .error (.invalid .emptyGraphName) d
        else if d.nextGroup = (d.query q).body then
          .error (.invalid .cyclicNesting) (d.addGroup (.graph uri))
        else .ok d.nextGroup
          ((d.addGroup (.graph uri)).append (d.query q).body (.group d.nextGroup)) := by
  unfold internGraph
  simp only [EStateM.run_bind, EStateM.run_get]
  cases d.graph? q uri with
  | some g => rfl
  | none =>
    simp only [EStateM.run_bind, run_newGraph]
    cases uri.isEmpty with
    | true => rfl
    | false =>
      have body : ((d.addGroup (.graph uri)).query q).body = (d.query q).body := rfl
      simp only [Bool.false_eq_true, if_false, EStateM.run_get, body, run_addElement_group,
        reaches_addGroup_next, beq_iff_eq]
      by_cases same : d.nextGroup = (d.query q).body
      · simp only [same, if_true]
      · simp only [same, if_false, EStateM.run_pure]

theorem run_internGraph (uri : String) (h : d.HasGroup (d.query q).body) :
    (internGraph q uri).run d =
      match d.graph? q uri with
      | some g => .ok g d
      | none =>
        if uri.isEmpty then .error (.invalid .emptyGraphName) d
        else .ok d.nextGroup
          ((d.addGroup (.graph uri)).append (d.query q).body (.group d.nextGroup)) := by
  have apart : d.nextGroup ≠ (d.query q).body := by
    intro same
    rw [← same] at h
    exact Nat.lt_irrefl _ h
  rw [run_internGraph_ite, if_neg apart]

theorem run_sparql [IriCheck] (indent : String) :
    (sparql indent q).run d =
      match d.sparql indent q with
      | .ok text =>
        .ok text (d.record
          ⟨.debug, s!"Serialized {formName (d.query q).form} query:\n{text}"⟩)
      | .error e => .error e d := by
  unfold sparql
  simp only [EStateM.run_bind, EStateM.run_get]
  cases d.sparql indent q <;> rfl

end Edit

end SparqlCompose
