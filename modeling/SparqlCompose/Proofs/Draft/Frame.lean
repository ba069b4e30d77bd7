import SparqlCompose.Proofs.Draft.Journal
import SparqlCompose.Proofs.Draft.QueryRuns

namespace SparqlCompose

/-- Queries with one body that differ, if at all, in what they know and project. -/
structure Query.Alike (query other : Query) : Prop where
  strict : query.strict = other.strict
  body : query.body = other.body
  blanks : query.blanks = other.blanks
  form : query.form.withProjection [] = other.form.withProjection []

theorem Query.Alike.refl (query : Query) : query.Alike query := ⟨rfl, rfl, rfl, rfl⟩

theorem Query.Alike.symm {query other : Query} (h : query.Alike other) : other.Alike query :=
  ⟨h.strict.symm, h.body.symm, h.blanks.symm, h.form.symm⟩

theorem Query.Alike.trans {first second third : Query} (later : third.Alike second)
    (earlier : second.Alike first) : third.Alike first where
  strict := later.strict.trans earlier.strict
  body := later.body.trans earlier.body
  blanks := later.blanks.trans earlier.blanks
  form := later.form.trans earlier.form

theorem Query.Alike.reform (query : Query) (vs : Form → List Variable) :
    (query.reform fun form => form.withProjection (vs form)).Alike query where
  strict := rfl
  body := rfl
  blanks := rfl
  form := by
    rw [form_reform]
    cases query.form <;> rfl

theorem Form.isSelect_withProjection (form : Form) (vs : List Variable) :
    (form.withProjection vs).IsSelect ↔ form.IsSelect := by
  cases form <;> rfl

theorem Form.withProjection_eq_formless (form : Form) (vs : List Variable) :
    form.withProjection vs = .formless ↔ form = .formless := by
  cases form <;> simp [withProjection]

theorem Query.Alike.isSelect {query other : Query} (h : query.Alike other) :
    query.form.IsSelect ↔ other.form.IsSelect := by
  rw [← Form.isSelect_withProjection query.form [], h.form, Form.isSelect_withProjection]

theorem Query.Alike.formless {query other : Query} (h : query.Alike other) :
    query.form = .formless ↔ other.form = .formless := by
  rw [← Form.withProjection_eq_formless query.form [], h.form, Form.withProjection_eq_formless]

/-- The second draft is the first but for one query, of which only what it knows and projects may
differ, and for what was added to the journal. -/
structure Draft.Frame (q : QueryId) (d d' : Draft) : Prop where
  groups : d'.groups = d.groups
  serial : d'.serial = d.serial
  count : d'.queries.size = d.queries.size
  others : ∀ other, other ≠ q → d'.query other = d.query other
  alike : (d'.query q).Alike (d.query q)
  journal : ∃ es, d'.journal = d.journal ++ es

namespace Draft

theorem Frame.refl (q : QueryId) (d : Draft) : d.Frame q d where
  groups := rfl
  serial := rfl
  count := rfl
  others := fun _ _ => rfl
  alike := .refl _
  journal := ⟨#[], by simp⟩

theorem Frame.trans {q : QueryId} {first second third : Draft} (earlier : first.Frame q second)
    (later : second.Frame q third) : first.Frame q third where
  groups := later.groups.trans earlier.groups
  serial := later.serial.trans earlier.serial
  count := later.count.trans earlier.count
  others := fun other apart => (later.others other apart).trans (earlier.others other apart)
  alike := later.alike.trans earlier.alike
  journal := by
    obtain ⟨es, old⟩ := earlier.journal
    obtain ⟨fs, new⟩ := later.journal
    exact ⟨es ++ fs, by rw [new, old, Array.append_assoc]⟩

theorem Frame.recordAll (q : QueryId) (d : Draft) (es : Array Entry) :
    d.Frame q (d.recordAll es) where
  groups := rfl
  serial := rfl
  count := rfl
  others := fun _ _ => rfl
  alike := .refl _
  journal := ⟨es, rfl⟩

theorem Frame.record (q : QueryId) (d : Draft) (e : Entry) : d.Frame q (d.record e) := by
  rw [record_eq_recordAll]
  exact .recordAll q d #[e]

theorem Frame.revise {q : QueryId} {f : Query → Query} (d : Draft)
    (alike : ∀ query, (f query).Alike query) : d.Frame q (d.revise q f) where
  groups := rfl
  serial := rfl
  count := size_queries_revise d q f
  others := fun _ apart => query_revise_ne d q f apart
  alike := by
    by_cases there : d.HasQuery q
    · rw [query_revise d q f there]
      exact alike _
    · rw [revise_of_not_hasQuery d q f there]
      exact .refl _
  journal := ⟨#[], by simp⟩

theorem Frame.hasQuery {q : QueryId} {d d' : Draft} (h : d.Frame q d') (other : QueryId) :
    d'.HasQuery other ↔ d.HasQuery other := by
  rw [HasQuery, HasQuery, h.count]

theorem Frame.group_eq {q : QueryId} {d d' : Draft} (h : d.Frame q d') (g : GroupId) :
    d'.group g = d.group g := by
  rw [group, group, h.groups]

theorem Frame.hasGroup {q : QueryId} {d d' : Draft} (h : d.Frame q d') (g : GroupId) :
    d'.HasGroup g ↔ d.HasGroup g := by
  rw [HasGroup, HasGroup, h.groups]

theorem Frame.settling {α : Type} {q : QueryId} {f : Query → Query} (d : Draft)
    (conflict? : Option Conflict) (answer : α) (alike : ∀ query, (f query).Alike query) :
    d.Frame q (Edit.left (d.settling q conflict? answer f)) := by
  cases conflict? with
  | none => exact .revise d alike
  | some c =>
    simp only [Draft.settling]
    split
    · exact .refl q d
    · exact (Frame.record q d _).trans (.revise _ alike)

end Draft

namespace Edit

open Draft

/-- Whether it succeeds or fails, the step changes no more than the frame of the query allows. -/
def Framed (q : QueryId) {α : Type} (e : Edit α) : Prop :=
  ∀ d : Draft, d.Frame q (left (e.run d))

variable {α β : Type} {q : QueryId}

theorem Framed.bind {e : Edit α} {f : α → Edit β} (first : e.Framed q)
    (rest : ∀ a, (f a).Framed q) : (e >>= f).Framed q := by
  intro d
  have earlier := first d
  rw [EStateM.run_bind]
  cases outcome : e.run d with
  | error e' d' =>
    rw [outcome] at earlier
    exact earlier
  | ok a d' =>
    rw [outcome] at earlier
    exact earlier.trans (rest a d')

theorem framed_pure (q : QueryId) (a : α) : (pure a : Edit α).Framed q := fun d => .refl q d

theorem framed_throw (q : QueryId) (e : Failure) : (throw e : Edit α).Framed q :=
  fun d => .refl q d

theorem framed_get (q : QueryId) : (get : Edit Draft).Framed q := fun d => .refl q d

theorem framed_log (q : QueryId) (level : Level) (message : String) :
    (log level message).Framed q := fun d => .record q d _

theorem Framed.forM {xs : List α} {f : α → Edit Unit} (each : ∀ x ∈ xs, (f x).Framed q) :
    (xs.forM f).Framed q := by
  induction xs with
  | nil => exact framed_pure q ()
  | cons x xs ih =>
    exact (each x (by simp)).bind fun _ => ih fun y member => each y (by simp [member])

theorem framed_internVariable (q : QueryId) (text : String) :
    (internVariable q text).Framed q := by
  intro d
  rw [run_internVariable]
  cases Identifier.ofText? text with
  | none => exact .refl q d
  | some i => exact .revise d fun _ => ⟨rfl, rfl, rfl, rfl⟩

theorem framed_internResource (q : QueryId) (text : String) :
    (internResource q text).Framed q := by
  intro d
  rw [run_internResource]
  cases Identifier.ofText? text with
  | none => exact .refl q d
  | some i => exact .revise d fun _ => ⟨rfl, rfl, rfl, rfl⟩

theorem framed_bindNamespace (q : QueryId) (label uri : String) :
    (bindNamespace q label uri).Framed q := by
  intro d
  rw [run_bindNamespace]
  exact .settling d _ _ fun _ => ⟨rfl, rfl, rfl, rfl⟩

theorem framed_expression (q : QueryId) (text : Option String) :
    (expression q text).Framed q := by
  intro d
  rw [run_expression]
  split
  · split
    · exact .refl q d
    · split
      · exact .refl q d
      · exact .settling d _ _ fun _ => ⟨rfl, rfl, rfl, rfl⟩
  · exact .refl q d

theorem framed_project (q : QueryId) (xs : List Operand) : (project q xs).Framed q := by
  intro d
  rw [run_project]
  split
  · split
    · exact .revise d fun query => .reform query _
    · exact .refl q d
  · exact .refl q d

theorem framed_addProjection (q : QueryId) (x : Operand) : (addProjection q x).Framed q := by
  intro d
  rw [run_addProjection]
  split
  · split
    · exact .revise d fun query => .reform query _
    · exact .refl q d
  · exact .refl q d

end Edit

end SparqlCompose
