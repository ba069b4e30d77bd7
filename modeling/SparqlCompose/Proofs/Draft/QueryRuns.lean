import SparqlCompose.Proofs.Draft.Access
import SparqlCompose.Proofs.Entries
import SparqlCompose.Proofs.Results

namespace SparqlCompose

def Operand.ofVariable (v : Variable) : Operand := .entity (.variable v)

namespace Query

def ask (i : Identifier) (query : Query) : Query :=
  { query with
    asked := match Entries.get? i query.asked with
      | some _ => query.asked
      | none => Entries.put i none query.asked }

def meet (i : Identifier) (query : Query) : Query :=
  { query with
    resources := if i ∈ query.resources then query.resources else query.resources ++ [i] }

def express (i : Identifier) (expression : String) (query : Query) : Query :=
  { query with asked := Entries.put i (some expression) query.asked }

def bind (label uri : String) (query : Query) : Query :=
  { query with namespaces := Entries.put label uri query.namespaces }

def countBlank (query : Query) : Query := { query with blanks := query.blanks + 1 }

def reform (f : Form → Form) (query : Query) : Query := { query with form := f query.form }

@[simp] theorem form_reform (f : Form → Form) (query : Query) :
    (query.reform f).form = f query.form := rfl

def join (vs : List Variable) (query : Query) : Query :=
  query.reform fun form => form.withProjection (Draft.keepFirst (form.projection ++ vs))

theorem get?_ask {i j : Identifier} (query : Query) (apart : j ≠ i) :
    Entries.get? j (query.ask i).asked = Entries.get? j query.asked := by
  unfold ask
  dsimp only
  split
  · rfl
  · exact Entries.get?_put_ne apart none query.asked

theorem get?_ask_of_some {i j : Identifier} {known : Option String} (query : Query)
    (h : Entries.get? j query.asked = some known) :
    Entries.get? j (query.ask i).asked = some known := by
  by_cases apart : j = i
  · subst apart
    simp only [ask, h]
  · rw [get?_ask query apart, h]

theorem get?_ask_self (i : Identifier) (query : Query) :
    Entries.get? i (query.ask i).asked ≠ none := by
  unfold ask
  dsimp only
  split
  · rename_i known there
    rw [there]
    exact Option.some_ne_none known
  · rw [Entries.get?_put_self]
    exact Option.some_ne_none none

theorem get?_of_get?_ask {i j : Identifier} {expression : String} (query : Query)
    (h : Entries.get? j (query.ask i).asked = some (some expression)) :
    Entries.get? j query.asked = some (some expression) := by
  by_cases apart : j = i
  · subst apart
    cases known : Entries.get? j query.asked with
    | none =>
      simp only [ask, known, Entries.get?_put_self] at h
      cases h
    | some now => rw [← h, get?_ask_of_some query known]
  · rw [← h, get?_ask query apart]

theorem mem_meet {i j : Identifier} (query : Query) :
    j ∈ (query.meet i).resources ↔ j ∈ query.resources ∨ j = i := by
  by_cases there : i ∈ query.resources
  · simp only [meet, there, if_true]
    constructor
    · exact .inl
    · rintro (member | rfl)
      · exact member
      · exact there
  · simp [meet, there]

def prefixConflict? (query : Query) (label uri : String) : Option Conflict :=
  match Entries.get? label query.namespaces with
  | some old => if old = uri then none else some (.namespaceRebound label old uri)
  | none => none

def aliasConflict? (query : Query) (c : Computed) : Option Conflict :=
  match Entries.get? (Edit.sharedIdentifier c.name) query.asked with
  | some (some old) =>
    if old = c.expression then none else some (.expressionRedefined c.name old c.expression)
  | _ => none

end Query

namespace Draft

theorem intern_eq_revise (d : Draft) (q : QueryId) (i : Identifier) :
    d.intern q i = d.revise q (·.ask i) := by
  cases known : Entries.get? i (d.query q).asked with
  | some e =>
    have kept : (d.query q).ask i = d.query q := by simp only [Query.ask, known]
    rw [revise_eq_self d q (·.ask i) kept]
    simp only [intern, known]
  | none => simp only [intern, revise, Query.ask, known]

/-- What remains of a step that may run into a conflict. -/
def settling {α : Type} (d : Draft) (q : QueryId) (conflict? : Option Conflict) (answer : α)
    (f : Query → Query) : EStateM.Result Failure Draft α :=
  match conflict? with
  | none => .ok answer (d.revise q f)
  | some c =>
    if (d.query q).strict then .error (.conflict c) d
    else .ok answer ((d.record ⟨.warning, c.message⟩).revise q f)

theorem settling_eq_ok {α : Type} {d d' : Draft} {q : QueryId} {conflict? : Option Conflict}
    {answer a : α} {f : Query → Query} (h : d.settling q conflict? answer f = .ok a d') :
    a = answer ∧ (conflict? = none ∧ d' = d.revise q f ∨
      ∃ c, conflict? = some c ∧ (d.query q).strict = false ∧
        d' = (d.record ⟨.warning, c.message⟩).revise q f) := by
  cases conflict? with
  | none =>
    cases h
    exact ⟨rfl, .inl ⟨rfl, rfl⟩⟩
  | some c =>
    simp only [settling] at h
    split at h
    · cases h
    · rename_i lenient
      cases h
      exact ⟨rfl, .inr ⟨c, rfl, by simpa using lenient, rfl⟩⟩

theorem query_of_settling {α : Type} {d d' : Draft} {q : QueryId} {conflict? : Option Conflict}
    {answer a : α} {f : Query → Query} (there : d.HasQuery q)
    (h : d.settling q conflict? answer f = .ok a d') :
    d'.HasQuery q ∧ d'.query q = f (d.query q) := by
  rcases (settling_eq_ok h).2 with ⟨-, rfl⟩ | ⟨c, -, -, rfl⟩
  · exact ⟨(hasQuery_revise _ _ _ q).mpr there, query_revise _ _ _ there⟩
  · exact ⟨(hasQuery_revise _ _ _ q).mpr there, query_revise _ _ _ there⟩

end Draft

namespace Edit

open Draft

variable (d : Draft) (q : QueryId)

def left {α : Type} : EStateM.Result Failure Draft α → Draft
  | .ok _ d => d
  | .error _ d => d

@[simp] theorem run_throw {α : Type} (e : Failure) :
    EStateM.run (throw e : Edit α) d = .error e d := rfl

@[simp] theorem run_log (level : Level) (message : String) :
    (log level message).run d = .ok () (d.record ⟨level, message⟩) := rfl

@[simp] theorem run_ofExcept_ok {α : Type} (a : α) :
    (ofExcept (.ok a)).run d = .ok a d := rfl

@[simp] theorem run_ofExcept_error {α : Type} (e : Failure) :
    (ofExcept (.error e : Except Failure α)).run d = .error e d := rfl

theorem run_bind_ok {α β : Type} {e : Edit α} {k : α → Edit β} {d₀ d₁ : Draft} {a : α}
    (done : e.run d₀ = .ok a d₁) : (e >>= k).run d₀ = (k a).run d₁ := by
  rw [EStateM.run_bind, done]

theorem run_identifier (text : String) :
    (identifier text).run d =
      match Identifier.ofText? text with
      | some i => .ok i d
      | none => .error (.invalid .emptyIdentifier) d := by
  unfold identifier
  cases Identifier.ofText? text <;> rfl

theorem run_internVariable (text : String) :
    (internVariable q text).run d =
      match Identifier.ofText? text with
      | some i => .ok ⟨q, i⟩ (d.revise q (·.ask i))
      | none => .error (.invalid .emptyIdentifier) d := by
  unfold internVariable
  rw [EStateM.run_bind, run_identifier]
  cases Identifier.ofText? text with
  | some i => simp only [EStateM.run_bind, EStateM.run_modify, intern_eq_revise]; rfl
  | none => rfl

theorem run_internResource (text : String) :
    (internResource q text).run d =
      match Identifier.ofText? text with
      | some i => .ok ⟨q, i⟩ (d.revise q (·.meet i))
      | none => .error (.invalid .emptyIdentifier) d := by
  unfold internResource
  rw [EStateM.run_bind, run_identifier]
  cases Identifier.ofText? text with
  | none => rfl
  | some i =>
    by_cases known : i ∈ (d.query q).resources
    · have kept : (d.query q).meet i = d.query q := by simp only [Query.meet, known, ite_true]
      simp only [EStateM.run_bind, EStateM.run_modify, known, ite_true,
        revise_eq_self d q (·.meet i) kept]
      rfl
    · simp only [EStateM.run_bind, EStateM.run_modify, known, ite_false, revise, Query.meet]
      rfl

theorem run_newBlank :
    (newBlank q).run d = .ok ⟨q, (d.query q).blanks⟩ (d.revise q Query.countBlank) := rfl

theorem run_settle (strict : Bool) (c : Conflict) :
    (settle strict c).run d =
      if strict then .error (.conflict c) d else .ok () (d.record ⟨.warning, c.message⟩) := by
  cases strict <;> rfl

theorem run_bindNamespace (label uri : String) :
    (bindNamespace q label uri).run d =
      d.settling q ((d.query q).prefixConflict? label uri) () (·.bind label uri) := by
  unfold bindNamespace settling Query.prefixConflict?
  simp only [EStateM.run_bind, EStateM.run_get]
  cases Entries.get? label (d.query q).namespaces with
  | none => rfl
  | some old =>
    by_cases same : old = uri
    · simp only [same, ite_true]
      rfl
    · simp only [same, ite_false, EStateM.run_bind, run_settle]
      cases (d.query q).strict <;> rfl

theorem run_projection :
    (projection q).run d =
      if (d.query q).form.IsSelect then .ok (d.query q).form.projection d
      else .error .unsupported d := by
  unfold projection projection?
  simp only [EStateM.run_bind, EStateM.run_get]
  cases (d.query q).form <;> rfl

theorem run_modifySelection
    (f : Bool → List Variable → List Entity → Bool × List Variable × List Entity) :
    (modifySelection q f).run d =
      match (d.query q).form with
      | .select distinct projection grouping =>
        .ok () (d.revise q fun query =>
          { query with
            form := .select (f distinct projection grouping).1
              (f distinct projection grouping).2.1 (f distinct projection grouping).2.2 })
      | _ => .error .unsupported d := by
  unfold modifySelection
  simp only [EStateM.run_bind, EStateM.run_get]
  cases (d.query q).form <;> rfl

theorem run_project (xs : List Operand) :
    (project q xs).run d =
      if (d.query q).form.IsSelect then
        match d.variablesFor xs with
        | .ok vs => .ok () (d.revise q (·.reform (·.withProjection (keepFirst vs))))
        | .error e => .error e d
      else .error .unsupported d := by
  unfold project
  rw [EStateM.run_bind, run_projection]
  by_cases select : (d.query q).form.IsSelect
  case neg => simp only [select, ite_false]
  obtain ⟨distinct, projection, grouping, form⟩ := select.eq
  simp only [select, ite_true, EStateM.run_bind, EStateM.run_get]
  cases d.variablesFor xs with
  | error e => rfl
  | ok vs =>
    simp only [run_ofExcept_ok, run_modifySelection, form, revise, Query.reform,
      Form.withProjection]

theorem variablesFor_append (vs : List Variable) (xs : List Operand) :
    d.variablesFor (vs.map (fun v => .entity (.variable v)) ++ xs) =
      (d.variablesFor xs).map (vs ++ ·) := by
  induction vs with
  | nil =>
    simp only [List.map_nil, List.nil_append]
    cases d.variablesFor xs <;> rfl
  | cons v vs ih =>
    simp only [List.map_cons, List.cons_append, variablesFor, ih]
    cases d.variablesFor xs <;> rfl

theorem variablesFor_eq_ok_iff {d : Draft} {xs : List Operand} {vs : List Variable} :
    d.variablesFor xs = .ok vs ↔ xs = vs.map Operand.ofVariable := by
  constructor
  · intro taken
    fun_induction variablesFor generalizing vs with
    | case1 =>
      cases taken
      rfl
    | case2 v rest ih =>
      obtain ⟨ws, later, taken⟩ := exists_of_bind_eq_ok taken
      cases taken
      rw [ih later]
      rfl
    | case3 x rest other => cases taken
  · rintro rfl
    have all := variablesFor_append d vs []
    rw [List.append_nil] at all
    exact all.trans (congrArg Except.ok (List.append_nil vs))

theorem run_addProjection (x : Operand) :
    (addProjection q x).run d =
      if (d.query q).form.IsSelect then
        match d.variablesFor [x] with
        | .ok vs => .ok () (d.revise q (·.join vs))
        | .error e => .error e d
      else .error .unsupported d := by
  unfold addProjection
  rw [EStateM.run_bind, run_projection]
  by_cases select : (d.query q).form.IsSelect
  · simp only [select, ite_true, run_project, variablesFor_append]
    cases d.variablesFor [x] <;> rfl
  · simp only [select, ite_false]

theorem run_setDistinct (flag : Bool) :
    (setDistinct q flag).run d =
      if (d.query q).form.IsSelect then .ok () (d.revise q (·.reform (·.withDistinct flag)))
      else .error .unsupported d := by
  unfold setDistinct
  rw [run_modifySelection]
  cases form : (d.query q).form with
  | construct template => rfl
  | formless => rfl
  | select distinct projection grouping =>
    simp only [Form.IsSelect, if_true, revise, Query.reform, Form.withDistinct, form]

theorem run_groupBy (e : Entity) :
    (groupBy q e).run d =
      if (d.query q).form.IsSelect then .ok () (d.revise q (·.reform (·.groupedBy e)))
      else .error .unsupported d := by
  unfold groupBy
  rw [run_modifySelection]
  cases form : (d.query q).form with
  | construct template => rfl
  | formless => rfl
  | select distinct projection grouping =>
    simp only [Form.IsSelect, if_true, revise, Query.reform, Form.groupedBy, form]

theorem run_expression (text : Option String) :
    (expression q text).run d =
      if (d.query q).form.IsSelect then
        match text.bind Computed.ofText? with
        | none => .error (.invalid (.missingAlias text)) d
        | some c =>
          if Entries.get? (sharedIdentifier c.name) (d.query q).asked = some none then
            .error (.invalid (.aliasTaken c.name)) d
          else
            d.settling q ((d.query q).aliasConflict? c) ⟨q, sharedIdentifier c.name⟩
              (·.express (sharedIdentifier c.name) c.expression)
      else .error .unsupported d := by
  unfold expression
  rw [EStateM.run_bind, run_projection]
  by_cases select : (d.query q).form.IsSelect
  case neg => simp only [select, ite_false]
  simp only [select, ite_true]
  cases text.bind Computed.ofText? with
  | none => rfl
  | some c =>
    simp only [EStateM.run_bind, EStateM.run_get, Query.aliasConflict?, settling]
    cases known : Entries.get? (sharedIdentifier c.name) (d.query q).asked with
    | none => rfl
    | some now =>
      cases now with
      | none => rfl
      | some old =>
        by_cases same : old = c.expression
        · subst same
          have kept : (d.query q).express (sharedIdentifier c.name) c.expression = d.query q := by
            rw [Query.express, Entries.put_of_get? known]
          simp only [ite_true, Option.some.injEq, reduceCtorEq, ite_false,
            revise_eq_self d q (·.express (sharedIdentifier c.name) c.expression) kept]
          rfl
        · simp only [same, ite_false, Option.some.injEq, reduceCtorEq, EStateM.run_bind,
            run_settle]
          cases (d.query q).strict <;> rfl

theorem expression_eq_ok {d d' : Draft} {q : QueryId} {text : Option String} {v : Variable}
    (run : (expression q text).run d = .ok v d') :
    (d.query q).form.IsSelect ∧ ∃ x, text.bind Computed.ofText? = some x ∧
      Entries.get? (sharedIdentifier x.name) (d.query q).asked ≠ some none ∧
      v = ⟨q, sharedIdentifier x.name⟩ ∧
      d.settling q ((d.query q).aliasConflict? x) v
        (·.express (sharedIdentifier x.name) x.expression) = .ok v d' := by
  rw [run_expression] at run
  by_cases select : (d.query q).form.IsSelect
  case neg =>
    rw [if_neg select] at run
    cases run
  rw [if_pos select] at run
  cases parsed : text.bind Computed.ofText? with
  | none =>
    rw [parsed] at run
    cases run
  | some x =>
    rw [parsed] at run
    dsimp only at run
    split at run
    · cases run
    · rename_i free
      have answer := (settling_eq_ok run).1
      subst answer
      exact ⟨select, x, rfl, free, rfl, run⟩

end Edit

end SparqlCompose
