import SparqlCompose.Proofs.Composition.Change
import SparqlCompose.Proofs.Identifier
import SparqlCompose.Proofs.Nesting.Depth

namespace SparqlCompose

def Term.variable? : Term → Option Variable
  | .variable v => some v
  | _ => none

def Pattern.variables (x : Pattern) : List Variable :=
  ([x.subject, x.predicate, x.object] ++ x.graph.toList).filterMap Term.variable?

namespace Draft

def known? (d : Draft) (v : Variable) : Option (Option String) :=
  Entries.get? v.identifier (d.query v.query).asked

/-- The variable was asked for, and has no expression. -/
def IsPlain (d : Draft) (v : Variable) : Prop := d.known? v = some none

def IsComputed (d : Draft) (v : Variable) : Prop := ∃ e, d.known? v = some (some e)

variable {d : Draft} {v : Variable}

theorem IsPlain.not_isComputed (h : d.IsPlain v) : ¬ d.IsComputed v := by
  rintro ⟨e, computed⟩
  rw [IsPlain, computed] at h
  cases h

theorem IsPlain.known?_ne_none (h : d.IsPlain v) : d.known? v ≠ none := by
  rw [h]
  exact Option.some_ne_none none

theorem hasQuery_of_known? {known : Option String} (h : d.known? v = some known) :
    d.HasQuery v.query := by
  by_cases here : d.HasQuery v.query
  · exact here
  · rw [known?, query_of_not_hasQuery d v.query here] at h
    cases h

theorem isPlain_of_holds {c : Composition} (held : c.Holds (.variable v))
    (free : c.draft.expression? v = none) : c.draft.IsPlain v := by
  obtain ⟨known, there⟩ := Entries.mem_keys_iff.mp held.2
  rw [expression?, there, Option.join_some] at free
  rw [IsPlain, known?, there, free]

theorem termFor_eq_ok {role : Role} {x : Operand} {t : Term} (made : d.termFor role x = .ok t) :
    x.term? = some t ∧ ∀ v, t = .variable v → d.expression? v = none := by
  cases x with
  | absent | foreign => cases made
  | literal l =>
    cases made
    exact ⟨rfl, nofun⟩
  | entity e =>
    cases e with
    | pattern | group | bare | query => cases made
    | resource | blank =>
      cases made
      exact ⟨rfl, nofun⟩
    | «variable» v =>
      have fit : (if (d.expression? v).isSome then .error (.invalid (.expressionTerm role v.name))
          else .ok (.variable v) : Except Failure Term) = .ok t := made
      split at fit
      · cases fit
      · rename_i free
        cases fit
        refine ⟨rfl, ?_⟩
        rintro w ⟨⟩
        simpa using free

theorem scopeFor_eq_ok {x : Operand} {t : Term} (made : d.scopeFor x = .ok (some t)) :
    d.termFor .graph x = .ok t := by
  unfold scopeFor at made
  split at made
  · cases made
  · cases fit : d.termFor .graph x with
    | error e =>
      rw [fit] at made
      cases made
    | ok t' =>
      rw [fit] at made
      cases made
      rfl

theorem termFor_of_mem_variables {serial : Nat} {s v o g : Operand} {p : Pattern} {w : Variable}
    (made : d.patternFor serial s v o g = .ok p) (member : w ∈ p.variables) :
    ∃ role, ∃ x ∈ [s, v, o, g], d.termFor role x = .ok (.variable w) := by
  obtain ⟨s', subject, made⟩ := exists_of_bind_eq_ok made
  obtain ⟨v', predicate, made⟩ := exists_of_bind_eq_ok made
  obtain ⟨o', object, made⟩ := exists_of_bind_eq_ok made
  obtain ⟨g', scope, made⟩ := exists_of_bind_eq_ok made
  cases made
  obtain ⟨t, among, is⟩ := List.mem_filterMap.mp member
  have same : t = .variable w := by
    cases t <;> cases is
    rfl
  subst same
  have places : .variable w = s' ∨ .variable w = v' ∨ .variable w = o' ∨ g' = some (.variable w) := by
    simpa [eq_comm] using among
  rcases places with rfl | rfl | rfl | rfl
  · exact ⟨.subject, s, by simp, subject⟩
  · exact ⟨.predicate, v, by simp, predicate⟩
  · exact ⟨.object, o, by simp, object⟩
  · exact ⟨.graph, g, by simp, scopeFor_eq_ok scope⟩

end Draft

namespace Composition

theorem Revision.get?_asked {c : Composition} {q : QueryId} {f : Query → Query}
    (h : c.Revision q f) {i : Identifier} {known : Option String}
    (there : Entries.get? i (c.draft.query q).asked = some known) :
    ∃ now, Entries.get? i (f (c.draft.query q)).asked = some now ∧
      now.isSome = known.isSome := by
  cases h with
  | ask split => exact ⟨known, Query.get?_ask_of_some _ there, rfl⟩
  | meet | countBlank | bind | project | addProjection | setDistinct | groupBy =>
    exact ⟨known, there, rfl⟩
  | @express text x split free =>
    by_cases same : i = Edit.sharedIdentifier x.name
    · subst same
      have computed : known ≠ none := by
        rintro rfl
        exact free there
      refine ⟨some x.expression, Entries.get?_put_self _ _ _, ?_⟩
      rw [Option.isSome_some, Option.isSome_iff_ne_none.mpr computed]
    · exact ⟨known, (Entries.get?_put_ne same _ _).trans there, rfl⟩

theorem Change.known? {c c' : Composition} (h : Change c c') {v : Variable}
    {known : Option String} (there : c.draft.known? v = some known) :
    ∃ now, c'.draft.known? v = some now ∧ now.isSome = known.isSome := by
  have here : c.draft.HasQuery v.query := Draft.hasQuery_of_known? there
  cases h with
  | record | advance | addGroup | makePattern | append => exact ⟨known, there, rfl⟩
  | addQuery strict fresh =>
    refine ⟨known, ?_, rfl⟩
    have same := Draft.query_addQuery_of_hasQuery (c.draft.addGroup .plain) strict
      c.draft.nextGroup ‹Form› here
    rw [Draft.known?, same]
    exact there
  | @revise q f found revision =>
    rw [Draft.known?]
    by_cases same : v.query = q
    · subst same
      rw [Draft.query_revise _ _ _ found]
      exact revision.get?_asked there
    · rw [Draft.query_revise_ne _ _ _ same]
      exact ⟨known, there, rfl⟩

theorem Changes.known? {c c' : Composition} (h : Changes c c') {v : Variable}
    {known : Option String} (there : c.draft.known? v = some known) :
    ∃ now, c'.draft.known? v = some now ∧ now.isSome = known.isSome := by
  induction h with
  | refl => exact ⟨known, there, rfl⟩
  | tail _ change ih =>
    obtain ⟨then', found, same⟩ := ih
    obtain ⟨now, later, again⟩ := change.known? found
    exact ⟨now, later, again.trans same⟩

theorem Changes.isPlain {c c' : Composition} (h : Changes c c') {v : Variable}
    (plain : c.draft.IsPlain v) : c'.draft.IsPlain v := by
  obtain ⟨now, later, same⟩ := h.known? plain
  cases now with
  | none => exact later
  | some e => cases same

theorem Changes.isComputed {c c' : Composition} (h : Changes c c') {v : Variable}
    (computed : c.draft.IsComputed v) : c'.draft.IsComputed v := by
  obtain ⟨e, there⟩ := computed
  obtain ⟨now, later, same⟩ := h.known? there
  cases now with
  | none => cases same
  | some e' => exact ⟨e', later⟩

theorem isPlain_of_patternFor {c : Composition} {serial : Nat} {s v o g : Operand} {p : Pattern}
    (offered : ∀ x ∈ [s, v, o, g], c.Offers x) (made : c.draft.patternFor serial s v o g = .ok p) :
    ∀ w ∈ p.variables, c.draft.IsPlain w := by
  intro w member
  obtain ⟨role, x, among, fit⟩ := Draft.termFor_of_mem_variables made member
  obtain ⟨term, free⟩ := Draft.termFor_eq_ok fit
  have held : c.Holds (.variable w) := by
    have offer := offered x among
    cases x with
    | entity e =>
      cases e <;> cases term
      exact offer
    | _ => cases term
  exact Draft.isPlain_of_holds held (free w rfl)

theorem Change.patterns_plain {c c' : Composition} (h : Change c c')
    (plain : ∀ p ∈ c.patterns, ∀ v ∈ p.variables, c.draft.IsPlain v) :
    ∀ p ∈ c'.patterns, ∀ v ∈ p.variables, c'.draft.IsPlain v := by
  intro p member v among
  have kept : c.draft.IsPlain v → c'.draft.IsPlain v := Changes.isPlain (.single h)
  cases h with
  | record | advance | addGroup | addQuery | append | revise =>
    exact kept (plain p member v among)
  | makePattern offered made =>
    rcases List.mem_append.mp member with old | new
    · exact kept (plain p old v among)
    · rw [List.mem_singleton.mp new] at among
      exact kept (isPlain_of_patternFor offered made v among)

theorem Change.patterns_made {c c' : Composition} (h : Change c c')
    (made : ∀ g, ∀ p ∈ (c.draft.group g).patterns, p ∈ c.patterns) :
    ∀ g, ∀ p ∈ (c'.draft.group g).patterns, p ∈ c'.patterns := by
  intro g p member
  cases h with
  | record | advance | revise => exact made g p member
  | makePattern => exact List.mem_append_left _ (made g p member)
  | addGroup | addQuery =>
    apply made g p
    rw [Group.patterns, ← Draft.elements_addGroup]
    exact member
  | @append group e there admissible =>
    dsimp only at member
    rw [Draft.group_append _ _ _ there] at member
    split at member
    · obtain ⟨x, among, is⟩ := List.mem_filterMap.mp member
      rcases List.mem_append.mp among with old | new
      · exact made group p (List.mem_filterMap.mpr ⟨x, old, is⟩)
      · rw [List.mem_singleton.mp new] at is
        cases e with
        | pattern p' =>
          cases is
          exact admissible
        | group | stray => cases is
    · exact made g p member

/-- The variables of the patterns that were made, wherever they stand, are plain. -/
theorem Reachable.patterns_plain {c : Composition} (h : c.Reachable) :
    ∀ p ∈ c.patterns, ∀ v ∈ p.variables, c.draft.IsPlain v := by
  have none : ∀ p ∈ start.patterns, ∀ v ∈ p.variables, start.draft.IsPlain v := by
    intro p member
    cases member
  exact h.invariant (P := fun c => ∀ p ∈ c.patterns, ∀ v ∈ p.variables, c.draft.IsPlain v) none
    Change.patterns_plain

theorem Reachable.patterns_made {c : Composition} (h : c.Reachable) :
    ∀ g, ∀ p ∈ (c.draft.group g).patterns, p ∈ c.patterns := by
  have empty : ∀ g, ∀ p ∈ (start.draft.group g).patterns, p ∈ start.patterns := by
    intro g p member
    cases member
  exact h.invariant (P := fun c => ∀ g, ∀ p ∈ (c.draft.group g).patterns, p ∈ c.patterns) empty
    Change.patterns_made

end Composition

namespace Edit

variable {d : Draft} {q : QueryId} {text : Option String}

theorem expression_invalid_iff (select : (d.query q).form.IsSelect) :
    (∃ cause d', (expression q text).run d = .error (.invalid cause) d') ↔
      text.bind Computed.ofText? = none ∨
        ∃ x i, text.bind Computed.ofText? = some x ∧
          Identifier.ofText? (Vocabulary.queryVariable ++ x.name) = some i ∧
          d.IsPlain ⟨q, i⟩ := by
  rw [run_expression, if_pos select]
  cases read : text.bind Computed.ofText? with
  | none => exact iff_of_true ⟨_, _, rfl⟩ (.inl rfl)
  | some x =>
    obtain ⟨s, -, split⟩ := Option.bind_eq_some_iff.mp read
    dsimp only
    constructor
    · rintro ⟨cause, d', refused⟩
      split at refused
      · rename_i taken
        exact .inr ⟨x, _, rfl, Computed.ofText?_alias split, taken⟩
      · -- a conflict is no invalid argument
        unfold Draft.settling at refused
        split at refused
        · cases refused
        · split at refused <;> cases refused
    · rintro (none | ⟨x', i, same, named, plain⟩)
      · cases none
      · cases same
        rw [Computed.ofText?_alias split] at named
        cases named
        exact ⟨_, _, if_pos plain⟩

theorem expression_fails {e : Failure} {d' : Draft} (select : (d.query q).form.IsSelect)
    (failed : (expression q text).run d = .error e d') :
    (∃ cause, e = .invalid cause) ∨
      (d.query q).strict = true ∧ ∃ x old, text.bind Computed.ofText? = some x ∧
        d.known? ⟨q, sharedIdentifier x.name⟩ = some (some old) ∧ old ≠ x.expression ∧
        e = .conflict (.expressionRedefined x.name old x.expression) := by
  rw [run_expression, if_pos select] at failed
  cases read : text.bind Computed.ofText? with
  | none =>
    rw [read] at failed
    cases failed
    exact .inl ⟨_, rfl⟩
  | some x =>
    rw [read] at failed
    dsimp only at failed
    split at failed
    · cases failed
      exact .inl ⟨_, rfl⟩
    · unfold Draft.settling Query.aliasConflict? at failed
      cases known : Entries.get? (sharedIdentifier x.name) (d.query q).asked with
      | none => simp only [known, reduceCtorEq] at failed
      | some now =>
        cases now with
        | none => simp only [known, reduceCtorEq] at failed
        | some old =>
          by_cases same : old = x.expression
          · simp only [known, same, if_true, reduceCtorEq] at failed
          · simp only [known, same, if_false] at failed
            split at failed
            · rename_i strict
              cases failed
              exact .inr ⟨strict, x, old, rfl, known, same, rfl⟩
            · cases failed

end Edit

namespace Composition

/-- However a composition came about: the variables of every pattern that was made, whether it
stands in a group or not, are plain; a variable that is plain, or computed, stays so in every later
composition; and a computed variable is refused as invalid just when its text has no alias, or the
alias is already a plain variable of the query, and otherwise only for a conflict with the other
expression that a strict query has for it. -/
theorem plain_and_computed_never_mix {c : Composition} (h : c.Reachable) :
    (∀ p ∈ c.patterns, ∀ v ∈ p.variables, c.draft.IsPlain v ∧ ¬ c.draft.IsComputed v) ∧
    (∀ g, ∀ p ∈ (c.draft.group g).patterns, p ∈ c.patterns) ∧
    (∀ c', Relation.ReflTransGen Next c c' → ∀ v,
      (c.draft.IsPlain v → c'.draft.IsPlain v) ∧
      (c.draft.IsComputed v → c'.draft.IsComputed v)) ∧
    ∀ q, (c.draft.query q).form.IsSelect → ∀ text,
      ((∃ cause d', (Edit.expression q text).run c.draft = .error (.invalid cause) d') ↔
        text.bind Computed.ofText? = none ∨
          ∃ x i, text.bind Computed.ofText? = some x ∧
            Identifier.ofText? (Vocabulary.queryVariable ++ x.name) = some i ∧
            c.draft.IsPlain ⟨q, i⟩) ∧
      ∀ e d', (Edit.expression q text).run c.draft = .error e d' →
        (∃ cause, e = .invalid cause) ∨
          (c.draft.query q).strict = true ∧ ∃ x old, text.bind Computed.ofText? = some x ∧
            c.draft.known? ⟨q, Edit.sharedIdentifier x.name⟩ = some (some old) ∧
            old ≠ x.expression ∧
            e = .conflict (.expressionRedefined x.name old x.expression) := by
  refine ⟨?_, h.patterns_made, ?_, ?_⟩
  · intro p member v among
    have plain := h.patterns_plain p member v among
    exact ⟨plain, plain.not_isComputed⟩
  · intro c' later v
    have chain := h.changes later
    exact ⟨chain.isPlain, chain.isComputed⟩
  · intro q select text
    exact ⟨Edit.expression_invalid_iff select, fun e d' => Edit.expression_fails select⟩

def borrowing : List Operation :=
  [.newQuery false "SELECT", .newQuery false "SELECT",
   .internVariable ⟨0⟩ (Vocabulary.queryVariable ++ "site"),
   .addPattern ⟨1⟩ (.entity (.variable ⟨⟨0⟩, ⟨Vocabulary.queryVariable, "site"⟩⟩))
     (.literal (.text "p")) (.literal (.integer 1)) .absent,
   .expression ⟨0⟩ (some "1 as ?flag")]

@[irreducible] def borrowed : Composition := start.replay borrowing

theorem plain_and_computed_never_mix_borrowed :
    borrowed.Reachable ∧ borrowed.patterns.length = 1 ∧
      (∀ p ∈ borrowed.patterns, ∀ v ∈ p.variables, borrowed.draft.IsPlain v) ∧
      (borrowed.replay [.expression ⟨0⟩ (some "2 as ?flag")]).draft.IsComputed
        ⟨⟨0⟩, ⟨Vocabulary.queryVariable, "flag"⟩⟩ ∧
      ∃ cause d', (Edit.expression ⟨0⟩ (some "1 as ?site")).run borrowed.draft =
        .error (.invalid cause) d' := by
  have reachable : borrowed.Reachable := by
    unfold borrowed
    exact reachable_replay (by decide +kernel)
  have apart := plain_and_computed_never_mix reachable
  have facts : borrowed.patterns.length = 1 ∧ (borrowed.draft.query ⟨0⟩).form.IsSelect ∧
      borrowed.draft.known? ⟨⟨0⟩, ⟨Vocabulary.queryVariable, "flag"⟩⟩ = some (some "1") ∧
      borrowed.draft.known? ⟨⟨0⟩, ⟨Vocabulary.queryVariable, "site"⟩⟩ = some none ∧
      borrowed.Admits [.expression ⟨0⟩ (some "2 as ?flag")] := by decide +kernel
  obtain ⟨one, select, computed, plain, redefines⟩ := facts
  have read : Computed.ofText? "1 as ?site" = some ⟨"1", "site"⟩ := by decide +kernel
  refine ⟨reachable, one, fun p member v among => (apart.1 p member v among).1, ?_, ?_⟩
  · exact (apart.2.2.1 _ (replay_later redefines) _).2 ⟨"1", computed⟩
  · have refusal := (apart.2.2.2 ⟨0⟩ select (some "1 as ?site")).1
    exact refusal.mpr (.inr ⟨_, _, read, Computed.ofText?_alias read, plain⟩)

end Composition

end SparqlCompose
