import SparqlCompose.Proofs.Composition.History
import SparqlCompose.Proofs.Strictness.InStep

namespace SparqlCompose

/-- The operation works on no query but this one, if on any, and has no report of its own. -/
def Operation.Concerns (q : QueryId) : Operation → Prop
  | .newQuery _ _ | .newFormless _ | .report _ _ => False
  | .internVariable r _ | .internResource r _ | .newBlank r | .expression r _ | .internGraph r _
  | .bindNamespace r _ _ | .project r _ | .addProjection r _ | .setDistinct r _ | .groupBy r _
  | .sparql _ r => r = q
  | _ => True

namespace Composition

def lenient (c : Composition) (q : QueryId) : Composition := ⟨c.draft.lenient q, c.patterns⟩

/-- One composition, but for a query that is strict in the first and not in the second. -/
structure Twins (q : QueryId) (c c' : Composition) : Prop where
  strict : c.draft.IsStrict q
  same : c' = c.lenient q

def Logs (c : Composition) (o : Operation) (e : Entry) : Prop :=
  ∃ es, (c.after o).draft.journal = c.draft.journal ++ es ∧ e ∈ es

def Warns (c : Composition) (o : Operation) : Prop := ∃ message, c.Logs o ⟨.warning, message⟩

def Conflicts (c : Composition) (o : Operation) : Prop := ∃ k, c.outcome o = .error (.conflict k)

def Throughout (P : Composition → Operation → Prop) (c : Composition) : List Operation → Prop
  | [] => True
  | o :: rest => P c o ∧ (c.after o).Throughout P rest

variable {c c' : Composition} {q : QueryId} {o : Operation}

theorem logs_iff {es : Array Entry} (journal : (c.after o).draft.journal = c.draft.journal ++ es)
    (e : Entry) : c.Logs o e ↔ e ∈ es := by
  constructor
  · rintro ⟨fs, later, member⟩
    rw [journal] at later
    rw [(Array.append_right_inj c.draft.journal).mp later]
    exact member
  · exact fun member => ⟨es, journal, member⟩

end Composition

namespace Edit

open Draft

theorem inStep_run {d : Draft} {q : QueryId} (strict : d.IsStrict q) {o : Operation}
    (own : o.Concerns q) : InStep q d (o.run.run d) (o.run.run (d.lenient q)) := by
  cases o with
  | newQuery | newFormless | report => exact own.elim
  | internVariable r text =>
    subst own
    exact (inStep_internVariable strict text).answering _
  | internResource r text =>
    subst own
    exact (inStep_internResource strict text).answering _
  | newBlank r =>
    subst own
    exact (inStep_newBlank strict).answering _
  | expression r text =>
    subst own
    exact (inStep_expression strict text).answering _
  | internGraph r uri =>
    subst own
    exact (inStep_internGraph strict uri).answering _
  | newGraph uri => exact (inStep_newGraph strict uri).answering _
  | newOptional | newPlain | newBare => exact .silently _ rfl ⟨strict.there, strict.strict⟩
  | newPattern s v o g => exact (inStep_newPattern strict s v o g).answering _
  | addPattern group s v o g => exact (inStep_addPattern strict group s v o g).answering _
  | addElement group thing =>
    exact (inStep_addElement strict group _).answering fun _ => Answer.done
  | bindNamespace r label uri =>
    subst own
    exact (inStep_bindNamespace strict label uri).answering fun _ => Answer.done
  | project r xs =>
    subst own
    exact (inStep_project strict xs).answering fun _ => Answer.done
  | addProjection r x =>
    subst own
    exact (inStep_addProjection strict x).answering fun _ => Answer.done
  | setDistinct r flag =>
    subst own
    exact (inStep_setDistinct strict flag).answering fun _ => Answer.done
  | groupBy r e =>
    subst own
    exact (inStep_groupBy strict e).answering fun _ => Answer.done
  | find group s v o =>
    have found : (d.lenient q).find group s v o = d.find group s v o :=
      find_congr resembles_lenient.groups _ _ _ _
    have run : (Operation.find group s v o).run.run (d.lenient q) =
        .ok (.groups (d.find group s v o)) (d.lenient q) := by
      rw [← found]
      rfl
    rw [run]
    exact .silently _ rfl strict
  | sparql indent r =>
    subst own
    exact (inStep_sparql strict indent).answering _

end Edit

namespace Composition

open Edit

variable {c c' : Composition} {q : QueryId} {o : Operation}

/-- The operation runs into a conflict in both, or into none in either. -/
theorem Twins.step (twins : c.Twins q c') (own : o.Concerns q) :
    (∃ k, o.run.run c.draft = .error (.conflict k) c.draft ∧
      ∀ e, c'.Logs o e ↔ e = ⟨.warning, k.message⟩) ∨
    c'.outcome o = c.outcome o ∧ (c.after o).Twins q (c'.after o) ∧ ¬ c.Conflicts o ∧
      ¬ c'.Warns o := by
  obtain ⟨strict, rfl⟩ := twins
  have stepped := inStep_run strict own
  have freely : (c.lenient q).draft = c.draft.lenient q := rfl
  generalize left : o.run.run c.draft = r, right : o.run.run (c.draft.lenient q) = r' at stepped
  cases stepped with
  | refused k a journal =>
    refine .inl ⟨k, rfl, fun e => ?_⟩
    have grown : ((c.lenient q).after o).draft.journal =
        (c.lenient q).draft.journal ++ #[⟨.warning, k.message⟩] := by
      rw [after, freely, right]
      exact journal.trans (Array.push_eq_append ..)
    rw [logs_iff grown, Array.mem_singleton]
  | @answered a d' es silent journal strict' =>
    have quiet : ((c.lenient q).after o).draft.journal = (c.lenient q).draft.journal ++ es := by
      rw [after, freely, right]
      exact journal
    refine .inr ⟨?_, ⟨?_, ?_⟩, ?_, ?_⟩
    · rw [outcome, outcome, freely, right, left]
    · rw [after, left]
      exact strict'
    · rw [after, after, freely, right, left]
      rfl
    · rintro ⟨k, refused⟩
      rw [outcome, left] at refused
      cases refused
    · rintro ⟨message, logged⟩
      exact silent _ ((logs_iff quiet _).mp logged) rfl
  | @failed e d' other journal strict' =>
    have quiet : ((c.lenient q).after o).draft.journal = (c.lenient q).draft.journal ++ #[] := by
      rw [after, freely, right, Array.append_empty]
      exact journal
    refine .inr ⟨?_, ⟨?_, ?_⟩, ?_, ?_⟩
    · rw [outcome, outcome, freely, right, left]
    · rw [after, left]
      exact strict'
    · rw [after, after, freely, right, left]
      rfl
    · rintro ⟨k, refused⟩
      rw [outcome, left] at refused
      cases refused
      exact other k rfl
    · rintro ⟨message, logged⟩
      exact absurd ((logs_iff quiet _).mp logged) (Array.not_mem_empty _)

theorem Twins.replay {os : List Operation} (twins : c.Twins q c')
    (own : ∀ o ∈ os, o.Concerns q)
    (smooth : c'.Throughout (fun c o => ¬ c.Warns o) os ∨
      c.Throughout (fun c o => ¬ c.Conflicts o) os) :
    c'.Throughout (fun c o => ¬ c.Warns o) os ∧ c.Throughout (fun c o => ¬ c.Conflicts o) os ∧
      c'.outcomes os = c.outcomes os ∧ (c.replay os).Twins q (c'.replay os) := by
  induction os generalizing c c' with
  | nil => exact ⟨trivial, trivial, rfl, twins⟩
  | cons o rest ih =>
    rcases twins.step (own o (by simp)) with ⟨k, refused, logged⟩ | ⟨same, later, calm, silent⟩
    · -- the first operation of the list is the conflict
      have warns : c'.Warns o := ⟨k.message, (logged _).mpr rfl⟩
      have conflicts : c.Conflicts o := ⟨k, by rw [outcome, refused]⟩
      rcases smooth with never | never
      · exact absurd warns never.1
      · exact absurd conflicts never.1
    · have rest := ih later (fun o member => own o (by simp [member])) (smooth.imp (·.2) (·.2))
      obtain ⟨quiet, unrefused, answers, twins'⟩ := rest
      refine ⟨⟨silent, quiet⟩, ⟨calm, unrefused⟩, ?_, twins'⟩
      rw [outcomes, outcomes, same, answers]

theorem isStrict_addQuery (d : Draft) (body : GroupId) (form : Form) :
    (d.addQuery true body form).IsStrict d.nextQuery where
  there := (Draft.hasQuery_addQuery _ _ _ _ _).mpr (.inr rfl)
  strict := by rw [Draft.query_addQuery_next]

theorem lenient_addQuery (d : Draft) (body : GroupId) (form : Form) :
    (d.addQuery true body form).lenient d.nextQuery = d.addQuery false body form := by
  rw [Draft.lenient, Draft.revise, Draft.query_addQuery_next]
  have replaced (first second : Query) :
      (d.queries.push first).setIfInBounds d.queries.size second = d.queries.push second := by
    apply Array.ext_getElem?
    intro i
    rw [Array.getElem?_setIfInBounds, Array.getElem?_push, Array.getElem?_push]
    by_cases last : i = d.queries.size
    · simp [last]
    · simp [last, Ne.symm last]
  simp only [Draft.setQuery, Draft.addQuery, Draft.nextQuery, Query.withStrict, replaced]

theorem twins_addQuery {c c' : Composition} (d : Draft) (body : GroupId) (form : Form) (e : Entry)
    {ps : List Pattern} (first : c = ⟨(d.addQuery true body form).record e, ps⟩)
    (second : c' = ⟨(d.addQuery false body form).record e, ps⟩) : c.Twins d.nextQuery c' := by
  subst first second
  have fresh := isStrict_addQuery d body form
  refine ⟨⟨fresh.there, fresh.strict⟩, ?_⟩
  rw [← lenient_addQuery]
  rfl

theorem twins_newQuery (c : Composition) {form : String}
    (known : form = "SELECT" ∨ form = "CONSTRUCT") :
    (c.after (.newQuery true form)).Twins c.draft.nextQuery (c.after (.newQuery false form)) := by
  have after : ∀ flag, c.after (.newQuery flag form) =
      ⟨Edit.left ((Edit.newQuery flag form).run c.draft), c.patterns⟩ :=
    fun flag => after_eq_left rfl fun _ => rfl
  rw [after, after]
  rcases known with rfl | rfl
  · exact twins_addQuery (c.draft.addGroup .plain) _ _ _ rfl rfl
  · exact twins_addQuery ((c.draft.addGroup .plain).addGroup .plain) _ _ _ rfl rfl

/-- A composition on a strict query, beside the same one where the query is not strict, with any
operations that concern the query. As long as the second has logged no warning, each operation gives
the same answer or the same failure in both, and the two are equal but for the strictness of the
query. The first operation that warns in the second is the first one that the strict query refuses
for a conflict; the text of the warning is the message of the conflict, and the draft stays as it
was. -/
theorem twins_agree_until_conflict {os : List Operation} (twins : c.Twins q c')
    (own : ∀ o ∈ os, o.Concerns q) :
    (c'.Throughout (fun c o => ¬ c.Warns o) os ↔
      c.Throughout (fun c o => ¬ c.Conflicts o) os) ∧
    (c'.Throughout (fun c o => ¬ c.Warns o) os →
      c'.outcomes os = c.outcomes os ∧ (c.replay os).Twins q (c'.replay os) ∧
      ∀ o, o.Concerns q → ∀ message, (c'.replay os).Logs o ⟨.warning, message⟩ ↔
        ∃ k, (Failure.conflict k).message = message ∧
          o.run.run (c.replay os).draft = .error (.conflict k) (c.replay os).draft) := by
  refine ⟨⟨fun quiet => (twins.replay own (.inl quiet)).2.1,
    fun calm => (twins.replay own (.inr calm)).1⟩, ?_⟩
  intro quiet
  obtain ⟨-, -, answers, twins'⟩ := twins.replay own (.inl quiet)
  refine ⟨answers, twins', fun o concerns message => ?_⟩
  rcases twins'.step concerns with ⟨k, refused, logged⟩ | ⟨-, -, calm, silent⟩
  · constructor
    · intro warned
      cases (logged _).mp warned
      exact ⟨k, rfl, refused⟩
    · rintro ⟨k', rfl, refused'⟩
      rw [refused] at refused'
      cases refused'
      exact (logged _).mpr rfl
  · constructor
    · exact fun warned => absurd ⟨message, warned⟩ silent
    · rintro ⟨k, -, refused⟩
      exact absurd ⟨k, by rw [outcome, refused]⟩ calm

def flagging : List Operation :=
  [.bindNamespace ⟨0⟩ "a" "urn:a", .expression ⟨0⟩ (some "1 as ?flag"),
   .expression ⟨0⟩ (some "1 AS ?flag"), .addProjection ⟨0⟩ .absent]

theorem twins_agree_until_conflict_flagging :
    (start.after (.newQuery true "SELECT")).Twins ⟨0⟩ (start.after (.newQuery false "SELECT")) ∧
      (∀ o ∈ flagging, o.Concerns ⟨0⟩) ∧
      (start.after (.newQuery false "SELECT")).Throughout (fun c o => ¬ c.Warns o) flagging ∧
      ((start.after (.newQuery false "SELECT")).replay flagging).Logs
        (.expression ⟨0⟩ (some "2 as ?flag"))
        ⟨.warning, "Projection ?flag redefined from '1' to '2'"⟩ := by
  have twins := twins_newQuery start (.inl rfl)
  have own : ∀ o ∈ flagging, o.Concerns ⟨0⟩ := by
    simp [flagging, Operation.Concerns]
  have calm : (start.after (.newQuery true "SELECT")).Throughout (fun c o => ¬ c.Conflicts o)
      flagging := by
    refine ⟨?_, ?_, ?_, ?_, trivial⟩ <;>
    · rintro ⟨k, refused⟩
      cases refused
  have agreed := twins_agree_until_conflict twins own
  have quiet := agreed.1.mpr calm
  refine ⟨twins, own, quiet, ?_⟩
  exact ((agreed.2 quiet).2.2 (.expression ⟨0⟩ (some "2 as ?flag")) rfl _).mpr
    ⟨.expressionRedefined "flag" "1" "2", rfl, rfl⟩

end Composition

end SparqlCompose
