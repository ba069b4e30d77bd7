import SparqlCompose.Proofs.Composition.History
import SparqlCompose.Proofs.Computed.Phrase
import SparqlCompose.Proofs.Draft.Projection
import SparqlCompose.Proofs.Variables.Plain

namespace SparqlCompose

open Text

namespace Phrase.Fits

variable {p : Phrase}

theorem trim_chars (h : p.Fits) : trim isBlank p.chars = p.chars := by
  obtain ⟨e, expression, is⟩ := List.exists_cons_of_ne_nil h.expression.some
  obtain ⟨c, rest, name, -, -⟩ := h.name
  apply trim_of_stops
  · intro d first
    apply h.expression.first
    rw [is]
    simpa [chars, is] using first
  · -- a text ends as its alias does
    intro d last
    have word : isWord d = true := by
      apply h.name.isWord d
      rw [chars, name, List.getLast?_append] at last
      rw [name]
      exact List.mem_of_mem_getLast? (by simpa using last)
    apply Bool.eq_false_iff.mpr
    intro blank
    rw [isWord_of_isBlank blank] at word
    cases word

theorem ofText?_text (h : p.Fits) : Computed.ofText? p.text = some p.computed := by
  apply Computed.ofText?_of_fits h
  rw [text, String.toList_ofList, h.trim_chars]

end Phrase.Fits

namespace Computed

def projection (x : Computed) : String := x.expression ++ " AS ?" ++ x.name

theorem text_eq (x : Computed) : x.text = "(" ++ x.projection ++ ")" := by
  simp only [text, projection, String.append_assoc]
  rfl

theorem ofText?_projection {s : String} {x : Computed} (read : ofText? s = some x) :
    ofText? x.projection = some x := by
  obtain ⟨p, fits, -, rfl⟩ := exists_phrase read
  have gap : IsGap [' '] := isGap_singleton (by decide)
  have again : (⟨p.expression, [' '], ['A', 'S'], [' '], p.name⟩ : Phrase).Fits :=
    ⟨fits.expression, gap, ⟨'A', 'S', rfl, by decide, by decide⟩, gap, fits.name⟩
  have projected : p.computed.projection =
      (⟨p.expression, [' '], ['A', 'S'], [' '], p.name⟩ : Phrase).text := by
    apply String.toList_injective
    simp [projection, Phrase.computed, Phrase.text, Phrase.chars]
  rw [projected, again.ofText?_text]
  rfl

end Computed

/-- What the query computes was described by some text. -/
def Query.Described (query : Query) : Prop :=
  ∀ i e, Entries.get? i query.asked = some (some e) →
    ∃ s x, Computed.ofText? s = some x ∧ i = Edit.sharedIdentifier x.name ∧ e = x.expression

namespace Composition

variable {c : Composition} {q : QueryId} {s : String} {x : Computed} {v : Variable}

theorem Revision.described {f : Query → Query} (h : c.Revision q f)
    (described : (c.draft.query q).Described) : (f (c.draft.query q)).Described := by
  intro i e found
  cases h with
  | ask => exact described i e (Query.get?_of_get?_ask _ found)
  | meet | countBlank | bind | project | addProjection | setDistinct | groupBy =>
    exact described i e found
  | @express text x split free =>
    by_cases same : i = Edit.sharedIdentifier x.name
    · subst same
      have now := (Entries.get?_put_self _ (some x.expression) (c.draft.query q).asked).symm.trans
        found
      cases now
      exact ⟨text, x, split, rfl, rfl⟩
    · have kept := (Entries.get?_put_ne same (some x.expression) (c.draft.query q).asked).symm
      exact described i e (kept.trans found)

theorem Reachable.described (h : c.Reachable) (there : c.draft.HasQuery q) :
    (c.draft.query q).Described := by
  refine h.query_invariant ?_ Revision.described q there
  intro c strict body form fresh i e found
  cases found

section Read

variable (select : (c.draft.query q).form.IsSelect) (read : Computed.ofText? s = some x)
include select read

theorem outcome_expression (free : ¬ c.draft.IsPlain ⟨q, Edit.sharedIdentifier x.name⟩) :
    c.outcome (.expression q (some s)) =
      match (c.draft.query q).aliasConflict? x, (c.draft.query q).strict with
      | some k, true => .error (.conflict k)
      | _, _ => .ok (.entity (.variable ⟨q, Edit.sharedIdentifier x.name⟩)) := by
  have run := Edit.run_expression c.draft q (some s)
  have other : Entries.get? (Edit.sharedIdentifier x.name) (c.draft.query q).asked ≠ some none :=
    free
  rw [if_pos select, Option.bind_some, read] at run
  simp only [other, if_false, Draft.settling] at run
  rw [outcome, Operation.run, EStateM.run_bind, run]
  cases (c.draft.query q).aliasConflict? x with
  | none => rfl
  | some k => cases (c.draft.query q).strict <;> rfl

theorem outcome_expression_taken (taken : c.draft.IsPlain ⟨q, Edit.sharedIdentifier x.name⟩) :
    c.outcome (.expression q (some s)) = .error (.invalid (.aliasTaken x.name)) := by
  have run := Edit.run_expression c.draft q (some s)
  have plain : Entries.get? (Edit.sharedIdentifier x.name) (c.draft.query q).asked = some none :=
    taken
  rw [if_pos select, Option.bind_some, read] at run
  simp only [plain, if_true] at run
  rw [outcome, Operation.run, EStateM.run_bind, run]

theorem expression_answered (free : ¬ c.draft.IsPlain ⟨q, Edit.sharedIdentifier x.name⟩)
    (agrees : (c.draft.query q).strict = true → ∀ e,
      c.draft.known? ⟨q, Edit.sharedIdentifier x.name⟩ = some (some e) → e = x.expression) :
    c.outcome (.expression q (some s)) =
      .ok (.entity (.variable ⟨q, Edit.sharedIdentifier x.name⟩)) := by
  rw [outcome_expression select read free]
  split
  case h_2 => rfl
  case h_1 k conflict strict =>
  unfold Query.aliasConflict? at conflict
  split at conflict
  case h_2 => cases conflict
  case h_1 old known =>
  rw [agrees strict old known, if_pos rfl] at conflict
  cases conflict

theorem expression_again
    (known : c.draft.known? ⟨q, Edit.sharedIdentifier x.name⟩ = some (some x.expression)) :
    c.outcome (.expression q (some s)) =
        .ok (.entity (.variable ⟨q, Edit.sharedIdentifier x.name⟩)) ∧
      c.after (.expression q (some s)) = c := by
  have there : Entries.get? (Edit.sharedIdentifier x.name) (c.draft.query q).asked =
      some (some x.expression) := known
  -- the expression is put again, in its old place
  have kept : (c.draft.query q).express (Edit.sharedIdentifier x.name) x.expression =
      c.draft.query q := by
    rw [Query.express, Entries.put_of_get? there]
  have run := Edit.run_expression c.draft q (some s)
  rw [if_pos select, Option.bind_some, read] at run
  simp only [there, Option.some.injEq, reduceCtorEq, if_false, Query.aliasConflict?, if_true,
    Draft.settling, Draft.revise_eq_self _ _ _ kept] at run
  have answered : (Operation.expression q (some s)).run.run c.draft =
      .ok (.entity (.variable ⟨q, Edit.sharedIdentifier x.name⟩)) c.draft := by
    rw [Operation.run, EStateM.run_bind, run]
    rfl
  exact ⟨outcome_of_ok answered, after_of_ok answered rfl⟩

theorem known?_after_expression (there : c.draft.HasQuery q)
    (made : c.outcome (.expression q (some s)) = .ok (.entity (.variable v))) :
    v = ⟨q, Edit.sharedIdentifier x.name⟩ ∧
      (c.after (.expression q (some s))).draft.known? v = some (some x.expression) ∧
      ((c.after (.expression q (some s))).draft.query q).form.IsSelect := by
  have step : c.after (.expression q (some s)) =
      ⟨Edit.left ((Edit.expression q (some s)).run c.draft), c.patterns⟩ :=
    after_eq_left rfl fun _ => rfl
  rw [outcome, Operation.run, EStateM.run_bind] at made
  cases run : (Edit.expression q (some s)).run c.draft with
  | error e d =>
    rw [run] at made
    cases made
  | ok w d =>
    rw [run] at made step
    cases made
    obtain ⟨-, x', read', -, rfl, settled⟩ := Edit.expression_eq_ok run
    rw [Option.bind_some, read] at read'
    cases read'
    obtain ⟨-, query⟩ := Draft.query_of_settling there settled
    rw [step, Draft.known?, Edit.left, query]
    exact ⟨rfl, Entries.get?_put_self _ _ _, select⟩

end Read

theorem outcome_expression_none (select : (c.draft.query q).form.IsSelect) {text : Option String}
    (none : text.bind Computed.ofText? = none) :
    c.outcome (.expression q text) = .error (.invalid (.missingAlias text)) := by
  have run := Edit.run_expression c.draft q text
  rw [if_pos select, none] at run
  rw [outcome, Operation.run, EStateM.run_bind, run]

theorem missingAlias_iff (select : (c.draft.query q).form.IsSelect) (text : Option String) :
    c.outcome (.expression q text) = .error (.invalid (.missingAlias text)) ↔
      text.bind Computed.ofText? = none := by
  refine ⟨fun refused => ?_, outcome_expression_none select⟩
  cases parsed : text.bind Computed.ofText? with
  | none => rfl
  | some x =>
    obtain ⟨s, rfl, read⟩ := Option.bind_eq_some_iff.mp parsed
    by_cases taken : c.draft.IsPlain ⟨q, Edit.sharedIdentifier x.name⟩
    · rw [outcome_expression_taken select read taken] at refused
      cases refused
    · rw [outcome_expression select read taken] at refused
      split at refused <;> cases refused

theorem run_expression_congr {s s' : String} (same : Computed.ofText? s = some x)
    (same' : Computed.ofText? s' = some x) (q : QueryId) :
    (Edit.expression q (some s')).run = (Edit.expression q (some s)).run := by
  funext d
  rw [Edit.run_expression, Edit.run_expression, Option.bind_some, Option.bind_some, same, same']

theorem Reachable.exists_projection (h : c.Reachable) (computed : c.draft.IsComputed v) :
    ∃ x : Computed, c.draft.known? v = some (some x.expression) ∧
      v.identifier = Edit.sharedIdentifier x.name ∧ Computed.ofText? x.projection = some x ∧
      c.draft.projected v = "(" ++ x.projection ++ ")" := by
  obtain ⟨e, known⟩ := computed
  have there : c.draft.HasQuery v.query := Draft.hasQuery_of_known? known
  obtain ⟨s, x, read, shared, rfl⟩ := h.described there v.identifier e known
  refine ⟨x, known, shared, Computed.ofText?_projection read, ?_⟩
  have expression : c.draft.expression? v = some x.expression := congrArg Option.join known
  have name : v.name = x.name := congrArg Identifier.name shared
  rw [Draft.projected, expression, name, ← Computed.text_eq]

/-- A SELECT query is asked for a computed variable, in any composition and with any text. The text
is understood just when, without the blanks around it, it is a phrase: an expression, blanks, the
keyword, blanks, and an alias behind a question mark. It is such a phrase in one way only, whatever
stands in the expression, and the variable has that expression and that alias. Other blanks and
letters around them make no difference to any draft, and so no conflict. The variable answers to the
text that a projection shows for it, with nothing changed or reported, be the query strict or not. -/
theorem expression_ends_in_alias {c : Composition} (h : c.Reachable) {q : QueryId}
    (there : c.draft.HasQuery q) (select : (c.draft.query q).form.IsSelect) :
    (∀ text, c.outcome (.expression q text) ≠ .error (.invalid (.missingAlias text)) ↔
      ∃ s p, text = some s ∧ Phrase.Fits p ∧ strip s = p.text) ∧
    (∀ s p, Phrase.Fits p → strip s = p.text →
      (∀ p', Phrase.Fits p' → strip s = p'.text → p' = p) ∧
      ∃ v : Variable, v.query = q ∧ v.identifier.space = Vocabulary.queryVariable ∧
        v.name = String.ofList p.name ∧
        (¬ c.draft.IsPlain v → ((c.draft.query q).strict = true → ∀ e,
            c.draft.known? v = some (some e) → e = String.ofList p.expression) →
          c.outcome (.expression q (some s)) = .ok (.entity (.variable v))) ∧
        ∀ w, c.outcome (.expression q (some s)) = .ok (.entity (.variable w)) → w = v ∧
          (c.after (.expression q (some s))).draft.expression? v =
            some (String.ofList p.expression)) ∧
    (∀ s s' p p', Phrase.Fits p → strip s = p.text → Phrase.Fits p' → strip s' = p'.text →
      p'.expression = p.expression → p'.name = p.name →
      (Edit.expression q (some s')).run = (Edit.expression q (some s)).run ∧
      ∀ w, c.outcome (.expression q (some s)) = .ok (.entity (.variable w)) →
        (c.after (.expression q (some s))).outcome (.expression q (some s')) =
          .ok (.entity (.variable w)) ∧
        (c.after (.expression q (some s))).after (.expression q (some s')) =
          c.after (.expression q (some s))) ∧
    ∀ v, v.query = q → c.draft.IsComputed v →
      ∃ e, c.draft.expression? v = some e ∧
        c.draft.projected v = "(" ++ (e ++ " AS ?" ++ v.name) ++ ")" ∧
        c.outcome (.expression q (some (e ++ " AS ?" ++ v.name))) = .ok (.entity (.variable v)) ∧
        c.after (.expression q (some (e ++ " AS ?" ++ v.name))) = c := by
  have read : ∀ {s p}, Phrase.Fits p → strip s = p.text → Computed.ofText? s = some p.computed :=
    fun fits stripped => Computed.ofText?_eq_some_iff.mpr ⟨_, fits, stripped, rfl⟩
  refine ⟨fun text => ?_, fun s p fits stripped => ⟨?_, ?_⟩, ?_, ?_⟩
  · rw [ne_eq, missingAlias_iff select]
    constructor
    · intro described
      obtain ⟨x, parsed⟩ := Option.ne_none_iff_exists'.mp described
      obtain ⟨s, rfl, parsed⟩ := Option.bind_eq_some_iff.mp parsed
      obtain ⟨p, fits, stripped, -⟩ := Computed.ofText?_eq_some_iff.mp parsed
      exact ⟨s, p, rfl, fits, stripped⟩
    · rintro ⟨s, p, rfl, fits, stripped⟩
      rw [Option.bind_some, read fits stripped]
      exact Option.some_ne_none _
  · intro p' fits' stripped'
    exact fits'.unique fits (String.ofList_injective (stripped'.symm.trans stripped))
  · refine ⟨⟨q, Edit.sharedIdentifier p.computed.name⟩, rfl, rfl, rfl, ?_, ?_⟩
    · exact expression_answered select (read fits stripped)
    · intro w made
      obtain ⟨rfl, known, -⟩ := known?_after_expression select (read fits stripped) there made
      exact ⟨rfl, congrArg Option.join known⟩
  · intro s s' p p' fits stripped fits' stripped' expression name
    have same : Computed.ofText? s' = some p.computed := by
      rw [read fits' stripped', Phrase.computed, expression, name]
      rfl
    refine ⟨run_expression_congr (read fits stripped) same q, fun w made => ?_⟩
    obtain ⟨rfl, known, select'⟩ :=
      known?_after_expression select (read fits stripped) there made
    exact expression_again select' same known
  · intro v own computed
    obtain ⟨x, known, shared, parsed, shown⟩ := h.exists_projection computed
    have is : v = ⟨q, Edit.sharedIdentifier x.name⟩ := by
      cases v
      cases own
      cases shared
      rfl
    subst is
    exact ⟨x.expression, congrArg Option.join known, shown, expression_again select parsed known⟩

def nested : Phrase := ⟨"a as ?x\n?y".toList, [' '], ['a', 'S'], ['\t'], ['z']⟩

theorem fits_nested : nested.Fits where
  expression := by
    refine ⟨by decide, fun c first => ?_, fun c last => ?_⟩
    · cases first
      decide
    · cases last
      decide
  before := isGap_singleton (by decide)
  keyword := ⟨'a', 'S', rfl, by decide, by decide⟩
  behind := isGap_singleton (by decide)
  name := ⟨'z', [], rfl, by decide, nofun⟩

def computing : List Operation :=
  [.newQuery true "SELECT", .expression ⟨0⟩ (some "a as ?x\n?y aS\t?z")]

theorem expression_ends_in_alias_nested :
    start.Admits computing ∧ nested.Fits ∧ strip "\ta as ?x\n?y aS\t?z\n" = nested.text ∧
    (start.replay computing).outcome (.expression ⟨0⟩ (some "\ta as ?x\n?y aS\t?z\n")) =
      .ok (.entity (.variable ⟨⟨0⟩, Edit.sharedIdentifier "z"⟩)) ∧
    (start.replay computing).outcome (.expression ⟨0⟩ (some "a as ?x\n?y AS ?z")) =
      .ok (.entity (.variable ⟨⟨0⟩, Edit.sharedIdentifier "z"⟩)) ∧
    (start.replay computing).after (.expression ⟨0⟩ (some "a as ?x\n?y AS ?z")) =
      start.replay computing := by
  have facts : start.Admits computing ∧ (start.replay computing).draft.HasQuery ⟨0⟩ ∧
      ((start.replay computing).draft.query ⟨0⟩).form.IsSelect ∧
      (start.replay computing).draft.known? ⟨⟨0⟩, Edit.sharedIdentifier "z"⟩ =
        some (some "a as ?x\n?y") := by
    decide +kernel
  obtain ⟨admits, there, select, known⟩ := facts
  have stripped : strip "\ta as ?x\n?y aS\t?z\n" = nested.text := by decide +kernel
  have split := expression_ends_in_alias (reachable_replay admits) there select
  obtain ⟨-, v, own, space, name, answered, -⟩ := split.2.1 _ _ fits_nested stripped
  obtain ⟨e, expression, -, again, kept⟩ :=
    split.2.2.2 ⟨⟨0⟩, Edit.sharedIdentifier "z"⟩ rfl ⟨_, known⟩
  have is : v = ⟨⟨0⟩, Edit.sharedIdentifier "z"⟩ := by
    obtain ⟨query, space', name'⟩ := v
    cases own
    cases space
    cases name
    rfl
  subst is
  cases expression.symm.trans (congrArg Option.join known)
  refine ⟨admits, fits_nested, stripped, ?_, again, kept⟩
  apply answered
  · intro plain
    rw [Draft.IsPlain, known] at plain
    cases plain
  · intro _ e found
    cases known.symm.trans found
    rfl

end Composition

end SparqlCompose
