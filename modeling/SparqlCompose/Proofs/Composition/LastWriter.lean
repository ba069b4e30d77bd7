import SparqlCompose.Proofs.Composition.History
import SparqlCompose.Proofs.Draft.Frame
import SparqlCompose.Proofs.Variables.Names

namespace SparqlCompose

def Operand.variable? : Operand → Option Variable
  | .entity (.variable v) => some v
  | _ => none

def Query.expression? (query : Query) (i : Identifier) : Option String :=
  (Entries.get? i query.asked).join

namespace Operation

/-- The operation binds a prefix of the query, gives an alias its expression, or projects
variables, all of them the query's own. -/
def Contributes (q : QueryId) : Operation → Prop
  | .bindNamespace r _ _ | .expression r _ => r = q
  | .project r xs => r = q ∧ ∀ v ∈ xs.filterMap Operand.variable?, v.query = q
  | .addProjection r x => r = q ∧ ∀ v ∈ x.variable?, v.query = q
  | _ => False

def bound? : Operation → Option (String × String)
  | .bindNamespace _ label uri => some (label, uri)
  | _ => none

def projecting (o : Operation) (vs : List Variable) : List Variable :=
  match o with
  | .project _ xs => Draft.keepFirst (xs.filterMap Operand.variable?)
  | .addProjection _ x => Draft.keepFirst (vs ++ x.variable?.toList)
  | _ => vs

def contribution (o : Operation) (query : Query) : Query :=
  match o with
  | .bindNamespace _ label uri => query.bind label uri
  | .expression _ text =>
    match text.bind Computed.ofText? with
    | some x => query.express (Edit.sharedIdentifier x.name) x.expression
    | none => query
  | .project _ xs =>
    query.reform (·.withProjection (Draft.keepFirst (xs.filterMap Operand.variable?)))
  | .addProjection _ x => query.join x.variable?.toList
  | _ => query

def conflict? (o : Operation) (query : Query) : Option Conflict :=
  match o with
  | .bindNamespace _ label uri => query.prefixConflict? label uri
  | .expression _ text => (text.bind Computed.ofText?).bind query.aliasConflict?
  | _ => none

end Operation

/-- A prefix or an expression that was there has come to be another one. -/
def Query.Redefined (before after : Query) : Prop :=
  (∃ label ∈ Entries.keys before.namespaces,
    Entries.get? label after.namespaces ≠ Entries.get? label before.namespaces) ∨
  ∃ i ∈ Entries.keys before.asked,
    before.expression? i ≠ none ∧ after.expression? i ≠ before.expression? i

instance (before after : Query) : Decidable (before.Redefined after) :=
  inferInstanceAs (Decidable (_ ∨ _))

namespace Query

variable {query : Query}

theorem not_redefined_self (query : Query) : ¬ query.Redefined query := by
  intro redefined
  rcases redefined with ⟨label, -, other⟩ | ⟨i, -, -, other⟩
  · exact other rfl
  · exact other rfl

theorem redefined_bind_iff (label uri : String) :
    query.Redefined (query.bind label uri) ↔ query.prefixConflict? label uri ≠ none := by
  have conflict : query.prefixConflict? label uri ≠ none ↔
      ∃ old, Entries.get? label query.namespaces = some old ∧ old ≠ uri := by
    unfold prefixConflict?
    cases Entries.get? label query.namespaces with
    | none => simp
    | some old => by_cases same : old = uri <;> simp [same]
  rw [conflict]
  constructor
  · intro redefined
    rcases redefined with ⟨other, member, changed⟩ | ⟨i, -, -, changed⟩
    · by_cases same : other = label
      · subst same
        obtain ⟨old, found⟩ := Entries.mem_keys_iff.mp member
        refine ⟨old, found, ?_⟩
        intro kept
        subst kept
        rw [bind, Entries.get?_put_self, found] at changed
        exact changed rfl
      · exact absurd (Entries.get?_put_ne same uri query.namespaces) changed
    · exact absurd rfl changed
  · intro redefines
    obtain ⟨old, found, other⟩ := redefines
    refine .inl ⟨label, Entries.mem_keys_iff.mpr ⟨old, found⟩, ?_⟩
    rw [bind, Entries.get?_put_self, found]
    intro same
    exact other (Option.some.inj same).symm

theorem redefined_express_iff (x : Computed) :
    query.Redefined (query.express (Edit.sharedIdentifier x.name) x.expression) ↔
      query.aliasConflict? x ≠ none := by
  have conflict : query.aliasConflict? x ≠ none ↔ ∃ old,
      query.expression? (Edit.sharedIdentifier x.name) = some old ∧ old ≠ x.expression := by
    unfold aliasConflict? expression?
    cases Entries.get? (Edit.sharedIdentifier x.name) query.asked with
    | none => simp
    | some known =>
      cases known with
      | none => simp
      | some old => by_cases same : old = x.expression <;> simp [same]
  have now : (query.express (Edit.sharedIdentifier x.name) x.expression).expression?
      (Edit.sharedIdentifier x.name) = some x.expression := by
    rw [expression?, express, Entries.get?_put_self]
    rfl
  rw [conflict]
  constructor
  · intro redefined
    rcases redefined with ⟨label, -, changed⟩ | ⟨i, -, expressed, changed⟩
    · exact absurd rfl changed
    · by_cases same : i = Edit.sharedIdentifier x.name
      · subst same
        obtain ⟨old, known⟩ := Option.ne_none_iff_exists'.mp expressed
        refine ⟨old, known, ?_⟩
        intro kept
        rw [now, known, kept] at changed
        exact changed rfl
      · have kept := Entries.get?_put_ne same (some x.expression) query.asked
        exact absurd (congrArg Option.join kept) changed
  · intro redefines
    obtain ⟨old, known, other⟩ := redefines
    have found := Option.join_eq_some_iff.mp known
    refine .inr ⟨_, Entries.mem_keys_iff.mpr ⟨_, found⟩, ?_, ?_⟩
    · rw [known]
      exact Option.some_ne_none old
    · rw [now, known]
      intro same
      exact other (Option.some.inj same).symm

theorem not_redefined_reform (f : Form → Form) : ¬ query.Redefined (query.reform f) :=
  fun redefined => not_redefined_self query redefined

end Query

namespace Operation

variable {q : QueryId} {o : Operation} {query : Query}

theorem redefined_iff (own : o.Contributes q) (query : Query) :
    query.Redefined (o.contribution query) ↔ o.conflict? query ≠ none := by
  cases o with
  | bindNamespace r label uri => exact Query.redefined_bind_iff label uri
  | expression r text =>
    simp only [contribution, conflict?]
    cases text.bind Computed.ofText? with
    | none => simpa using Query.not_redefined_self query
    | some x => exact Query.redefined_express_iff x
  | project r xs => exact iff_of_false (Query.not_redefined_reform _) (not_not_intro rfl)
  | addProjection r x => exact iff_of_false (Query.not_redefined_reform _) (not_not_intro rfl)
  | _ => exact own.elim

theorem alike_contribution (o : Operation) (query : Query) : (o.contribution query).Alike query := by
  cases o with
  | bindNamespace r label uri => exact ⟨rfl, rfl, rfl, rfl⟩
  | expression r text =>
    simp only [contribution]
    split
    · exact ⟨rfl, rfl, rfl, rfl⟩
    · exact .refl query
  | project r xs => exact .reform query fun _ => _
  | addProjection r x => exact .reform query fun form => Draft.keepFirst (form.projection ++ _)
  | _ => exact .refl query

theorem projection_contribution (own : o.Contributes q) (select : query.form.IsSelect) :
    (o.contribution query).form.projection = o.projecting query.form.projection := by
  cases o with
  | bindNamespace r label uri => rfl
  | expression r text =>
    simp only [contribution]
    split <;> rfl
  | project r xs => exact select.projection_withProjection _
  | addProjection r x => exact select.projection_withProjection _
  | _ => exact own.elim

theorem query_of_mem_projecting (own : o.Contributes q) {vs : List Variable}
    (before : ∀ v ∈ vs, v.query = q) : ∀ v ∈ o.projecting vs, v.query = q := by
  intro v member
  cases o with
  | bindNamespace | expression => exact before v member
  | project r xs => exact own.2 v (mem_of_mem_keepFirst member)
  | addProjection r x =>
    rcases List.mem_append.mp (mem_of_mem_keepFirst member) with old | new
    · exact before v old
    · exact own.2 v (Option.mem_toList.mp new)
  | _ => exact own.elim

theorem variablesFor_eq_ok {d : Draft} {xs : List Operand} {vs : List Variable}
    (h : d.variablesFor xs = .ok vs) : vs = xs.filterMap Operand.variable? := by
  obtain rfl := Edit.variablesFor_eq_ok_iff.mp h
  rw [List.filterMap_map]
  exact List.filterMap_some.symm

theorem run_contributes {d : Draft} (own : o.Contributes q) (select : (d.query q).form.IsSelect) :
    (o.bound? = none ∧ ∃ e, o.run.run d = .error e d) ∨
      ∃ answer, Composition.newPatterns answer = [] ∧
        o.run.run d = d.settling q (o.conflict? (d.query q)) answer o.contribution := by
  have answering : ∀ {α : Type} {e : Edit α} (answer : α → Answer) {k : Option Conflict} {a : α},
      o.run = (do return answer (← e)) → e.run d = d.settling q k a o.contribution →
      o.run.run d = d.settling q k (answer a) o.contribution := by
    intro α e answer k a run settled
    rw [run, EStateM.run_bind, settled]
    cases k with
    | none => rfl
    | some k =>
      simp only [Draft.settling]
      cases (d.query q).strict <;> rfl
  cases o with
  | bindNamespace r label uri =>
    obtain rfl : r = q := own
    exact .inr ⟨_, rfl, answering (fun _ => .done) rfl (Edit.run_bindNamespace d r label uri)⟩
  | expression r text =>
    obtain rfl : r = q := own
    have run := Edit.run_expression d r text
    rw [if_pos select] at run
    cases parsed : text.bind Computed.ofText? with
    | none =>
      rw [parsed] at run
      exact .inl ⟨rfl, _, by rw [Operation.run, EStateM.run_bind, run]⟩
    | some x =>
      rw [parsed] at run
      dsimp only at run
      split at run
      · exact .inl ⟨rfl, _, by rw [Operation.run, EStateM.run_bind, run]⟩
      · refine .inr ⟨_, rfl, answering (fun v => .entity (.variable v))
          (a := ⟨r, Edit.sharedIdentifier x.name⟩) rfl ?_⟩
        have made : (Operation.expression r text).contribution =
            (·.express (Edit.sharedIdentifier x.name) x.expression) := by
          funext query
          simp only [contribution, parsed]
        rw [run, made, conflict?, parsed, Option.bind_some]
  | project r xs =>
    obtain rfl : r = q := own.1
    have run := Edit.run_project d r xs
    rw [if_pos select] at run
    cases vars : d.variablesFor xs with
    | error e =>
      rw [vars] at run
      exact .inl ⟨rfl, _, by rw [Operation.run, EStateM.run_bind, run]⟩
    | ok vs =>
      rw [vars] at run
      refine .inr ⟨_, rfl, answering (fun _ => .done) (k := none) (a := ()) rfl ?_⟩
      rw [run, variablesFor_eq_ok vars]
      rfl
  | addProjection r x =>
    obtain rfl : r = q := own.1
    have run := Edit.run_addProjection d r x
    rw [if_pos select] at run
    cases vars : d.variablesFor [x] with
    | error e =>
      rw [vars] at run
      exact .inl ⟨rfl, _, by rw [Operation.run, EStateM.run_bind, run]⟩
    | ok vs =>
      rw [vars] at run
      refine .inr ⟨_, rfl, answering (fun _ => .done) (k := none) (a := ()) rfl ?_⟩
      have one : [x].filterMap Operand.variable? = x.variable?.toList := by
        cases known : x.variable? <;> simp [known]
      rw [run, variablesFor_eq_ok vars, one]
      rfl
  | _ => exact own.elim

end Operation

namespace Draft

def warnings (d : Draft) : Nat := d.journal.toList.countP (·.level = .warning)

theorem warnings_revise (d : Draft) (q : QueryId) (f : Query → Query) :
    (d.revise q f).warnings = d.warnings := rfl

theorem warnings_record (d : Draft) (message : String) :
    (d.record ⟨.warning, message⟩).warnings = d.warnings + 1 := by
  simp [warnings, record]

end Draft

namespace Composition

def succeeded (c : Composition) : List Operation → List Operation
  | [] => []
  | o :: rest =>
    match c.outcome o with
    | .ok _ => o :: (c.after o).succeeded rest
    | .error _ => (c.after o).succeeded rest

def redefinitions (c : Composition) (q : QueryId) : List Operation → Nat
  | [] => 0
  | o :: rest =>
    (if (c.draft.query q).Redefined ((c.after o).draft.query q) then 1 else 0) +
      (c.after o).redefinitions q rest

/-- A SELECT query whose projection has no variables but its own. -/
structure Selects (c : Composition) (q : QueryId) : Prop where
  there : c.draft.HasQuery q
  select : (c.draft.query q).form.IsSelect
  own : ∀ v ∈ (c.draft.query q).form.projection, v.query = q

variable {c c' : Composition} {q : QueryId} {o : Operation} {os : List Operation}

theorem Selects.step (h : c.Selects q) (own : o.Contributes q) :
    ((∃ e, c.outcome o = .error e) ∧ c.after o = c ∧
      ((c.draft.query q).strict = false → o.bound? = none)) ∨
    ((∃ answer, c.outcome o = .ok answer) ∧ (c.after o).Selects q ∧
      (c.after o).draft.query q = o.contribution (c.draft.query q) ∧
      ((c.draft.query q).strict = true →
        ¬ (c.draft.query q).Redefined (o.contribution (c.draft.query q))) ∧
      (c.after o).draft.warnings = c.draft.warnings +
        if (c.draft.query q).Redefined (o.contribution (c.draft.query q)) then 1 else 0) := by
  rcases Operation.run_contributes own h.select with ⟨unbound, e, run⟩ | ⟨answer, plain, run⟩
  · exact .inl ⟨⟨e, by rw [outcome, run]⟩, by rw [after, run], fun _ => unbound⟩
  have redefined := Operation.redefined_iff own (c.draft.query q)
  have alike := Operation.alike_contribution o (c.draft.query q)
  -- a step that leaves the query as the operation makes it still selects
  have selects : ∀ d : Draft, d.HasQuery q → d.query q = c.draft.query q →
      (Composition.mk (d.revise q o.contribution) c.patterns).Selects q ∧
        (d.revise q o.contribution).query q = o.contribution (c.draft.query q) := by
    intro d there same
    have query : (d.revise q o.contribution).query q = o.contribution (c.draft.query q) := by
      rw [Draft.query_revise _ _ _ there, same]
    refine ⟨⟨(Draft.hasQuery_revise _ _ _ q).mpr there, ?_, ?_⟩, query⟩
    · rw [query]
      exact alike.isSelect.mpr h.select
    · rw [query, Operation.projection_contribution own h.select]
      exact Operation.query_of_mem_projecting own h.own
  cases conflict : o.conflict? (c.draft.query q) with
  | none =>
    rw [conflict] at run
    have kept : ¬ (c.draft.query q).Redefined (o.contribution (c.draft.query q)) :=
      fun now => redefined.mp now conflict
    obtain ⟨still, query⟩ := selects c.draft h.there rfl
    refine .inr ⟨⟨answer, outcome_of_ok run⟩, ?_⟩
    rw [after_of_ok run plain]
    exact ⟨still, query, fun _ => kept, by rw [if_neg kept]; rfl⟩
  | some k =>
    rw [conflict] at run
    have now : (c.draft.query q).Redefined (o.contribution (c.draft.query q)) :=
      redefined.mpr (by rw [conflict]; exact Option.some_ne_none k)
    simp only [Draft.settling] at run
    split at run
    · rename_i strict
      refine .inl ⟨⟨_, by rw [outcome, run]⟩, by rw [after, run], ?_⟩
      intro lenient
      rw [strict] at lenient
      cases lenient
    · rename_i lenient
      obtain ⟨still, query⟩ := selects (c.draft.record ⟨.warning, k.message⟩) h.there rfl
      refine .inr ⟨⟨answer, outcome_of_ok run⟩, ?_⟩
      rw [after_of_ok run plain]
      refine ⟨still, query, fun strict => absurd strict lenient, ?_⟩
      rw [if_pos now, Draft.warnings_revise, Draft.warnings_record]

theorem succeeded_of_ok (answered : ∃ answer, c.outcome o = .ok answer) (rest : List Operation) :
    c.succeeded (o :: rest) = o :: (c.after o).succeeded rest := by
  obtain ⟨answer, given⟩ := answered
  simp only [succeeded, given]

theorem succeeded_of_error (failed : ∃ e, c.outcome o = .error e) (rest : List Operation) :
    c.succeeded (o :: rest) = (c.after o).succeeded rest := by
  obtain ⟨e, given⟩ := failed
  simp only [succeeded, given]

/-- A run leads to what the operations that succeed contribute, one after the other. -/
theorem Selects.replay (h : c.Selects q) (calls : ∀ o ∈ os, o.Contributes q) :
    (c.replay os).Selects q ∧
      ((c.replay os).draft.query q).strict = (c.draft.query q).strict ∧
      (c.replay os).draft.query q =
        (c.succeeded os).foldl (fun query o => o.contribution query) (c.draft.query q) ∧
      ((c.replay os).draft.query q).form.projection =
        (c.succeeded os).foldl (fun vs o => o.projecting vs) (c.draft.query q).form.projection ∧
      (c.replay os).draft.warnings = c.draft.warnings + c.redefinitions q os := by
  induction os generalizing c with
  | nil => exact ⟨h, rfl, rfl, rfl, rfl⟩
  | cons o rest ih =>
    have own := calls o (by simp)
    have later := fun o member => calls o (List.mem_cons_of_mem _ member)
    rcases h.step own with ⟨failed, same, -⟩ | ⟨answered, selects, query, -, warned⟩
    · rw [succeeded_of_error failed, Composition.replay, redefinitions, same,
        if_neg (Query.not_redefined_self _), Nat.zero_add]
      exact ih h later
    · obtain ⟨selects', strict, whole, projection, warnings⟩ := ih selects later
      rw [succeeded_of_ok answered, Composition.replay, redefinitions, List.foldl_cons,
        List.foldl_cons, ← Operation.projection_contribution own h.select, ← query]
      refine ⟨selects', ?_, whole, projection, ?_⟩
      · rw [strict, query, (Operation.alike_contribution o _).strict]
      · rw [warnings, warned, ← query]
        omega

section Readings

variable {κ β : Type} [DecidableEq κ] (read : Query → κ → Option β)
  {writes? : Operation → Option (κ × β)}

end Readings

def unprefixed (strict : Bool) : Composition := start.replay [.newQuery strict "SELECT"]

end Composition

end SparqlCompose
