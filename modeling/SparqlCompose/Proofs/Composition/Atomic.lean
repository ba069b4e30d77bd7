import SparqlCompose.Proofs.Composition.Change

namespace SparqlCompose

namespace Edit

open Draft

/-- A result that, if it is a failure, comes with the draft as it was. -/
def Unharmed {α : Type} (d : Draft) : EStateM.Result Failure Draft α → Prop
  | .ok _ _ => True
  | .error _ d' => d' = d

variable {α β : Type} {d : Draft} {q : QueryId}

theorem Unharmed.eq {r : EStateM.Result Failure Draft α} {e : Failure} {d' : Draft}
    (h : Unharmed d r) (failed : r = .error e d') : d' = d := by
  rw [failed] at h
  exact h

theorem Unharmed.answering {e : Edit α} (h : Unharmed d (e.run d)) (answer : α → β) :
    Unharmed d ((do return answer (← e) : Edit β).run d) := by
  rw [EStateM.run_bind]
  cases outcome : e.run d with
  | ok a d' => trivial
  | error failure d' => exact h.eq outcome

theorem unharmed_settling (conflict? : Option Conflict) (answer : α) (f : Query → Query) :
    Unharmed d (d.settling q conflict? answer f) := by
  cases conflict? with
  | none => trivial
  | some c =>
    rw [settling]
    split
    · rfl
    · trivial

theorem unharmed_selection {P : Prop} [Decidable P] {d' : Draft} (answer : α) (e : Failure) :
    Unharmed d (if P then .ok answer d' else .error e d) := by
  split
  · trivial
  · rfl

theorem unharmed_newQuery (strict : Bool) (form : String) :
    Unharmed d ((newQuery strict form).run d) := by
  rw [run_newQuery, run_newSelect, run_newConstruct]
  split
  · trivial
  · exact unharmed_selection _ _

theorem unharmed_internVariable (text : String) : Unharmed d ((internVariable q text).run d) := by
  rw [run_internVariable]
  cases Identifier.ofText? text with
  | none => rfl
  | some i => trivial

theorem unharmed_internResource (text : String) : Unharmed d ((internResource q text).run d) := by
  rw [run_internResource]
  cases Identifier.ofText? text with
  | none => rfl
  | some i => trivial

theorem unharmed_expression (text : Option String) : Unharmed d ((expression q text).run d) := by
  rw [run_expression]
  split
  case isFalse => rfl
  cases text.bind Computed.ofText? with
  | none => rfl
  | some c =>
    dsimp only
    split
    · rfl
    · exact unharmed_settling _ _ _

theorem unharmed_internGraph (uri : String) (body : d.HasGroup (d.query q).body) :
    Unharmed d ((internGraph q uri).run d) := by
  rw [run_internGraph d q uri body]
  cases d.graph? q uri with
  | some g => trivial
  | none =>
    dsimp only
    split
    · rfl
    · trivial

theorem unharmed_newGraph (uri : String) : Unharmed d ((newGraph uri).run d) := by
  rw [run_newGraph]
  split
  · rfl
  · trivial

theorem unharmed_newPattern (s v o g : Operand) : Unharmed d ((newPattern s v o g).run d) := by
  rw [run_newPattern]
  cases d.patternFor d.serial s v o g with
  | error e => rfl
  | ok p => trivial

theorem unharmed_addPattern (group : GroupId) (s v o g : Operand) :
    Unharmed d ((addPattern group s v o g).run d) := by
  rw [run_addPattern]
  cases d.patternFor d.serial s v o g with
  | error e => rfl
  | ok p => trivial

theorem unharmed_addElement (group : GroupId) (e : Option Element) :
    Unharmed d ((addElement group e).run d) := by
  cases e with
  | none => rfl
  | some e =>
    cases e with
    | group inner =>
      rw [run_addElement_group]
      split
      · rfl
      · trivial
    | pattern p => trivial
    | stray thing => trivial

theorem unharmed_bindNamespace (label uri : String) :
    Unharmed d ((bindNamespace q label uri).run d) := by
  rw [run_bindNamespace]
  exact unharmed_settling _ _ _

theorem unharmed_setDistinct (flag : Bool) : Unharmed d ((setDistinct q flag).run d) := by
  rw [run_setDistinct]
  exact unharmed_selection _ _

theorem unharmed_groupBy (e : Entity) : Unharmed d ((groupBy q e).run d) := by
  rw [run_groupBy]
  exact unharmed_selection _ _

theorem unharmed_project (xs : List Operand) : Unharmed d ((project q xs).run d) := by
  rw [run_project]
  split
  case isFalse => rfl
  cases d.variablesFor xs with
  | error e => rfl
  | ok vs => trivial

theorem unharmed_addProjection (x : Operand) : Unharmed d ((addProjection q x).run d) := by
  rw [run_addProjection]
  split
  case isFalse => rfl
  cases d.variablesFor [x] with
  | error e => rfl
  | ok vs => trivial

theorem unharmed_sparql (indent : String) : Unharmed d ((sparql indent q).run d) := by
  rw [run_sparql]
  cases d.sparql indent q with
  | error e => rfl
  | ok text => trivial

end Edit

namespace Composition

open Edit

theorem unharmed_run {c : Composition} (rooted : c.draft.Rooted) {o : Operation} (fits : o.Fits c) :
    Unharmed c.draft (o.run.run c.draft) := by
  cases o with
  | newQuery strict form => exact (unharmed_newQuery strict form).answering _
  | newFormless strict => trivial
  | internVariable q text => exact (unharmed_internVariable text).answering _
  | internResource q text => exact (unharmed_internResource text).answering _
  | newBlank q => trivial
  | expression q text => exact (unharmed_expression text).answering _
  | internGraph q uri =>
    have body := rooted q fits _ (Query.body_mem_roots _)
    exact (unharmed_internGraph uri body).answering _
  | newGraph uri => exact (unharmed_newGraph uri).answering _
  | newOptional | newPlain | newBare => trivial
  | newPattern s v o g => exact (unharmed_newPattern s v o g).answering _
  | addPattern group s v o g => exact (unharmed_addPattern group s v o g).answering _
  | addElement group thing => exact (unharmed_addElement group _).answering fun _ => Answer.done
  | bindNamespace q label uri =>
    exact (unharmed_bindNamespace label uri).answering fun _ => Answer.done
  | project q xs => exact (unharmed_project xs).answering fun _ => Answer.done
  | addProjection q x => exact (unharmed_addProjection x).answering fun _ => Answer.done
  | setDistinct q flag => exact (unharmed_setDistinct flag).answering fun _ => Answer.done
  | groupBy q e => exact (unharmed_groupBy e).answering fun _ => Answer.done
  | find group s v o => trivial
  | sparql indent q => exact (unharmed_sparql indent).answering _
  | report level message => trivial

/-- However a draft came about, an operation that fails on it leaves it as it was: the queries with
their prefixes, selections, terms and expressions, the groups with their elements, the numbers that
are given out next, and the journal. -/
theorem failed_operation_keeps_draft {c : Composition} (h : c.Reachable) {o : Operation}
    (fits : o.Fits c) {e : Failure} {d' : Draft} (failed : o.run.run c.draft = .error e d') :
    d' = c.draft ∧ c.after o = c := by
  have same := (unharmed_run h.rooted_changes.1 fits).eq failed
  refine ⟨same, ?_⟩
  rw [after, failed, same]

def flagged : List Operation :=
  [.newQuery true "SELECT", .expression ⟨0⟩ (some "1 as ?flag")]

/-- A strict query refuses another expression for its computed variable. -/
theorem failed_operation_keeps_draft_flagged :
    start.Admits flagged ∧
      (Operation.expression ⟨0⟩ (some "2 as ?flag")).Fits (start.replay flagged) ∧
      (Operation.expression ⟨0⟩ (some "2 as ?flag")).run.run (start.replay flagged).draft =
        .error (.conflict (.expressionRedefined "flag" "1" "2")) (start.replay flagged).draft ∧
      (start.replay flagged).after (.expression ⟨0⟩ (some "2 as ?flag")) =
        start.replay flagged := by
  have admits : start.Admits flagged := by decide +kernel
  have fits : (Operation.expression ⟨0⟩ (some "2 as ?flag")).Fits (start.replay flagged) := by
    decide +kernel
  have failed : (Operation.expression ⟨0⟩ (some "2 as ?flag")).run.run
      (start.replay flagged).draft =
        .error (.conflict (.expressionRedefined "flag" "1" "2")) (start.replay flagged).draft := rfl
  exact ⟨admits, fits, failed,
    (failed_operation_keeps_draft (reachable_replay admits) fits failed).2⟩

end Composition

end SparqlCompose
