import SparqlCompose.Proofs.Composition.Operation
import SparqlCompose.Proofs.Draft.Reading

namespace SparqlCompose

namespace Draft

def lenient (d : Draft) (q : QueryId) : Draft := d.revise q (·.withStrict false)

structure IsStrict (d : Draft) (q : QueryId) : Prop where
  there : d.HasQuery q
  strict : (d.query q).strict = true

/-- A rewriting that neither reads nor writes whether the query is strict. -/
def Mild (f : Query → Query) : Prop :=
  ∀ flag query, f (query.withStrict flag) = (f query).withStrict flag

variable {d : Draft} {q : QueryId} {f : Query → Query}

theorem resembles_lenient : d.Resembles (d.lenient q) where
  groups := rfl
  query := by
    intro other
    by_cases there : d.HasQuery q
    · by_cases same : other = q
      · subst same
        rw [lenient, query_revise _ _ _ there]
        rfl
      · rw [lenient, query_revise_ne _ _ _ same]
    · rw [lenient, revise_of_not_hasQuery _ _ _ there]

theorem query_lenient (there : d.HasQuery q) :
    (d.lenient q).query q = (d.query q).withStrict false := query_revise _ _ _ there

theorem lenient_revise (mild : Mild f) : (d.revise q f).lenient q = (d.lenient q).revise q f := by
  rw [lenient, lenient, revise_revise, revise_revise]
  exact revise_congr d q (mild false (d.query q)).symm

theorem IsStrict.revise (h : d.IsStrict q) (mild : Mild f) : (d.revise q f).IsStrict q where
  there := (hasQuery_revise d q f q).mpr h.there
  strict := by
    have same : (d.query q).withStrict true = d.query q := by
      rw [← h.strict]
      rfl
    rw [query_revise _ _ _ h.there, ← same, mild]
    rfl

section Conflicts

variable (d) (c : Conflict)

theorem termFor_ne_conflict (role : Role) (x : Operand) :
    d.termFor role x ≠ .error (.conflict c) := by
  unfold termFor
  split
  · exact nofun
  · exact nofun
  · split <;> exact nofun
  · exact nofun

theorem patternFor_ne_conflict (serial : Nat) (s v o g : Operand) :
    d.patternFor serial s v o g ≠ .error (.conflict c) := by
  have scope : d.scopeFor g ≠ .error (.conflict c) := by
    have fit := d.termFor_ne_conflict c .graph g
    unfold scopeFor
    split
    · exact nofun
    · cases made : d.termFor .graph g with
      | ok t => exact nofun
      | error e =>
        intro same
        cases same
        exact fit made
  apply bind_ne_error (d.termFor_ne_conflict c .subject s)
  intro subject
  apply bind_ne_error (d.termFor_ne_conflict c .predicate v)
  intro predicate
  apply bind_ne_error (d.termFor_ne_conflict c .object o)
  intro object
  exact bind_ne_error scope nofun

theorem variablesFor_ne_conflict (xs : List Operand) :
    d.variablesFor xs ≠ .error (.conflict c) := by
  induction xs with
  | nil => exact nofun
  | cons x rest ih =>
    unfold variablesFor
    split
    · exact nofun
    · rename_i same
      cases same
      exact bind_ne_error ih nofun
    · exact nofun

theorem sparql_ne_conflict (indent : String) (q : QueryId) :
    d.sparql indent q ≠ .error (.conflict c) := by
  have lines : ∀ n level g, d.lines indent n level g ≠ .error (.conflict c) := by
    intro n level g
    apply lines_ne_error
    · exact fun _ => nofun
    · exact fun _ => nofun
    · exact nofun
  have head : d.headLines indent (d.query q) ≠ .error (.conflict c) := by
    unfold headLines
    split
    · exact nofun
    · exact bind_ne_error (lines _ _ _) nofun
    · exact nofun
  have tail : tailLines (d.query q) ≠ .error (.conflict c) := by
    unfold tailLines
    split
    · refine bind_ne_error (mapM_ne_error ?_) nofun
      intro e _
      unfold groupingText
      dsimp only
      split
      · apply written_ne_error
        exact fun _ => nofun
      · exact nofun
    · exact nofun
  refine bind_ne_error ?_ nofun
  apply bind_ne_error head
  intro first
  apply bind_ne_error (lines _ _ _)
  intro body
  exact bind_ne_error tail nofun

end Conflicts

end Draft

namespace Edit

open Draft

/-- How a step on a strict query goes and, second, how it goes when the query is not strict. -/
inductive InStep {α : Type} (q : QueryId) (d : Draft) :
    EStateM.Result Failure Draft α → EStateM.Result Failure Draft α → Prop
  | answered (a : α) {d' : Draft} (es : Array Entry) (silent : ∀ e ∈ es, e.level ≠ .warning)
      (journal : d'.journal = d.journal ++ es) (strict : d'.IsStrict q) :
    InStep q d (.ok a d') (.ok a (d'.lenient q))
  | failed {e : Failure} {d' : Draft} (other : ∀ c, e ≠ .conflict c)
      (journal : d'.journal = d.journal) (strict : d'.IsStrict q) :
    InStep q d (.error e d') (.error e (d'.lenient q))
  | refused (c : Conflict) (a : α) {d' : Draft}
      (journal : d'.journal = d.journal.push ⟨.warning, c.message⟩) :
    InStep q d (.error (.conflict c) d) (.ok a d')

variable {α β : Type} {d : Draft} {q : QueryId} {f : Query → Query}

theorem InStep.answering {e : Edit α} (h : InStep q d (e.run d) (e.run (d.lenient q)))
    (answer : α → β) :
    InStep q d ((do return answer (← e) : Edit β).run d)
      ((do return answer (← e) : Edit β).run (d.lenient q)) := by
  rw [EStateM.run_bind, EStateM.run_bind]
  generalize e.run d = strictly, e.run (d.lenient q) = freely at h
  cases h with
  | answered a es silent journal strict => exact .answered _ es silent journal strict
  | failed other journal strict => exact .failed other journal strict
  | refused c a journal => exact .refused c _ journal

theorem InStep.silently (a : α) {d' : Draft} (journal : d'.journal = d.journal)
    (strict : d'.IsStrict q) : InStep q d (.ok a d') (.ok a (d'.lenient q)) :=
  .answered a #[] nofun (by rw [journal, Array.append_empty]) strict

theorem InStep.invalid (strict : d.IsStrict q) (cause : Invalid) :
    InStep (α := α) q d (.error (.invalid cause) d) (.error (.invalid cause) (d.lenient q)) := by
  refine .failed ?_ rfl strict
  intro c same
  cases same

theorem InStep.unsupported (strict : d.IsStrict q) :
    InStep (α := α) q d (.error .unsupported d) (.error .unsupported (d.lenient q)) := by
  refine .failed ?_ rfl strict
  intro c same
  cases same

theorem InStep.unread (strict : d.IsStrict q) {r : Except Failure β} {e : Failure}
    (made : r = .error e) (never : ∀ c, r ≠ .error (.conflict c)) :
    InStep (α := α) q d (.error e d) (.error e (d.lenient q)) := by
  refine .failed ?_ rfl strict
  rintro c rfl
  exact never c made

theorem InStep.revise (strict : d.IsStrict q) (mild : Mild f) (a : α) :
    InStep q d (.ok a (d.revise q f)) (.ok a ((d.lenient q).revise q f)) := by
  rw [← lenient_revise mild]
  exact .silently a rfl (strict.revise mild)

theorem InStep.settling (strict : d.IsStrict q) (mild : Mild f) (conflict? : Option Conflict)
    (a : α) :
    InStep q d (d.settling q conflict? a f) ((d.lenient q).settling q conflict? a f) := by
  cases conflict? with
  | none => exact .revise strict mild a
  | some c =>
    have free : ((d.lenient q).query q).strict = false := by
      rw [query_lenient strict.there]
      rfl
    simp only [Draft.settling, strict.strict, free, if_true, Bool.false_eq_true, if_false]
    exact .refused c a rfl

theorem InStep.selection (strict : d.IsStrict q) (mild : Mild f) (a : α) :
    InStep q d
      (if (d.query q).form.IsSelect then .ok a (d.revise q f) else .error .unsupported d)
      (if ((d.lenient q).query q).form.IsSelect then .ok a ((d.lenient q).revise q f)
        else .error .unsupported (d.lenient q)) := by
  rw [resembles_lenient.form]
  split
  · exact .revise strict mild a
  · exact .unsupported strict

theorem inStep_internVariable (strict : d.IsStrict q) (text : String) :
    InStep q d ((internVariable q text).run d) ((internVariable q text).run (d.lenient q)) := by
  rw [run_internVariable, run_internVariable]
  cases Identifier.ofText? text with
  | none => exact .invalid strict _
  | some i => exact .revise strict (fun _ _ => rfl) _

theorem inStep_internResource (strict : d.IsStrict q) (text : String) :
    InStep q d ((internResource q text).run d) ((internResource q text).run (d.lenient q)) := by
  rw [run_internResource, run_internResource]
  cases Identifier.ofText? text with
  | none => exact .invalid strict _
  | some i => exact .revise strict (fun _ _ => rfl) _

theorem inStep_newBlank (strict : d.IsStrict q) :
    InStep q d ((newBlank q).run d) ((newBlank q).run (d.lenient q)) := by
  have count : ((d.lenient q).query q).blanks = (d.query q).blanks := by
    rw [query_lenient strict.there]
    rfl
  rw [run_newBlank, run_newBlank, count]
  exact .revise strict (fun _ _ => rfl) _

theorem inStep_internGraph (strict : d.IsStrict q) (uri : String) :
    InStep q d ((internGraph q uri).run d) ((internGraph q uri).run (d.lenient q)) := by
  have next : (d.lenient q).nextGroup = d.nextGroup := rfl
  rw [run_internGraph_ite, run_internGraph_ite, resembles_lenient.graph?, resembles_lenient.body,
    next]
  cases d.graph? q uri with
  | some g => exact .silently _ rfl strict
  | none =>
    dsimp only
    split
    · exact .invalid strict _
    · split
      · refine .failed ?_ rfl ⟨strict.there, strict.strict⟩
        intro c same
        cases same
      · exact .silently _ rfl ⟨strict.there, strict.strict⟩

theorem inStep_newGraph (strict : d.IsStrict q) (uri : String) :
    InStep q d ((newGraph uri).run d) ((newGraph uri).run (d.lenient q)) := by
  rw [run_newGraph, run_newGraph]
  split
  · exact .invalid strict _
  · exact .silently _ rfl ⟨strict.there, strict.strict⟩

theorem inStep_newPattern (strict : d.IsStrict q) (s v o g : Operand) :
    InStep q d ((newPattern s v o g).run d) ((newPattern s v o g).run (d.lenient q)) := by
  have serial : (d.lenient q).serial = d.serial := rfl
  rw [run_newPattern, run_newPattern, resembles_lenient.patternFor, serial]
  cases made : d.patternFor d.serial s v o g with
  | ok p => exact .silently _ rfl ⟨strict.there, strict.strict⟩
  | error e => exact .unread strict made fun c => d.patternFor_ne_conflict c _ _ _ _ _

theorem inStep_addPattern (strict : d.IsStrict q) (group : GroupId) (s v o g : Operand) :
    InStep q d ((addPattern group s v o g).run d)
      ((addPattern group s v o g).run (d.lenient q)) := by
  have serial : (d.lenient q).serial = d.serial := rfl
  rw [run_addPattern, run_addPattern, resembles_lenient.patternFor, serial]
  cases made : d.patternFor d.serial s v o g with
  | ok p => exact .silently _ rfl ⟨strict.there, strict.strict⟩
  | error e => exact .unread strict made fun c => d.patternFor_ne_conflict c _ _ _ _ _

theorem inStep_addElement (strict : d.IsStrict q) (group : GroupId) (e : Option Element) :
    InStep q d ((addElement group e).run d) ((addElement group e).run (d.lenient q)) := by
  cases e with
  | none => exact .invalid strict _
  | some e =>
    cases e with
    | group inner =>
      rw [run_addElement_group, run_addElement_group, resembles_lenient.depth,
        reaches_congr resembles_lenient.groups]
      split
      · exact .invalid strict _
      · exact .silently _ rfl ⟨strict.there, strict.strict⟩
    | pattern p => exact .silently _ rfl ⟨strict.there, strict.strict⟩
    | stray thing => exact .silently _ rfl ⟨strict.there, strict.strict⟩

theorem inStep_bindNamespace (strict : d.IsStrict q) (label uri : String) :
    InStep q d ((bindNamespace q label uri).run d)
      ((bindNamespace q label uri).run (d.lenient q)) := by
  rw [run_bindNamespace, run_bindNamespace, query_lenient strict.there]
  exact .settling strict (fun _ _ => rfl) _ _

theorem inStep_expression (strict : d.IsStrict q) (text : Option String) :
    InStep q d ((expression q text).run d) ((expression q text).run (d.lenient q)) := by
  rw [run_expression, run_expression, resembles_lenient.form, resembles_lenient.asked]
  split
  case isFalse => exact .unsupported strict
  cases text.bind Computed.ofText? with
  | none => exact .invalid strict _
  | some x =>
    dsimp only
    split
    · exact .invalid strict _
    · rw [query_lenient strict.there]
      exact .settling strict (fun _ _ => rfl) _ _

theorem inStep_project (strict : d.IsStrict q) (xs : List Operand) :
    InStep q d ((project q xs).run d) ((project q xs).run (d.lenient q)) := by
  rw [run_project, run_project, resembles_lenient.variablesFor]
  cases made : d.variablesFor xs with
  | ok vs => exact .selection strict (fun _ _ => rfl) ()
  | error e =>
    rw [resembles_lenient.form]
    split
    · exact .unread strict made fun c => d.variablesFor_ne_conflict c _
    · exact .unsupported strict

theorem inStep_addProjection (strict : d.IsStrict q) (x : Operand) :
    InStep q d ((addProjection q x).run d) ((addProjection q x).run (d.lenient q)) := by
  rw [run_addProjection, run_addProjection, resembles_lenient.variablesFor]
  cases made : d.variablesFor [x] with
  | ok vs => exact .selection strict (fun _ _ => rfl) ()
  | error e =>
    rw [resembles_lenient.form]
    split
    · exact .unread strict made fun c => d.variablesFor_ne_conflict c _
    · exact .unsupported strict

theorem inStep_setDistinct (strict : d.IsStrict q) (flag : Bool) :
    InStep q d ((setDistinct q flag).run d) ((setDistinct q flag).run (d.lenient q)) := by
  rw [run_setDistinct, run_setDistinct]
  exact .selection strict (fun _ _ => rfl) ()

theorem inStep_groupBy (strict : d.IsStrict q) (e : Entity) :
    InStep q d ((groupBy q e).run d) ((groupBy q e).run (d.lenient q)) := by
  rw [run_groupBy, run_groupBy]
  exact .selection strict (fun _ _ => rfl) ()

theorem inStep_sparql (strict : d.IsStrict q) (indent : String) :
    InStep q d ((sparql indent q).run d) ((sparql indent q).run (d.lenient q)) := by
  rw [run_sparql, run_sparql, resembles_lenient.sparql, resembles_lenient.form]
  cases made : d.sparql indent q with
  | error e => exact .unread strict made fun c => d.sparql_ne_conflict c _ _
  | ok text =>
    refine .answered text #[⟨.debug, _⟩] ?_ (Array.push_eq_append ..)
      ⟨strict.there, strict.strict⟩
    intro e member
    rw [Array.mem_singleton.mp member]
    exact nofun

end Edit

end SparqlCompose
