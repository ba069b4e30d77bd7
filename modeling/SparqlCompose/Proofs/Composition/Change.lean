import SparqlCompose.Proofs.Composition.Operation

namespace SparqlCompose

namespace Draft

def Rooted (d : Draft) : Prop := ∀ q, d.HasQuery q → ∀ g ∈ (d.query q).roots, d.HasGroup g

def FreshForm (d : Draft) : Form → Prop
  | .select distinct projection grouping => distinct = false ∧ projection = [] ∧ grouping = []
  | .construct template => d.HasGroup template
  | .formless => True

end Draft

namespace Composition

/-- What may come to stand in a group: a pattern that was made, a group that does not contain it,
or any other thing. -/
def Admissible (c : Composition) (outer : GroupId) : Element → Prop
  | .pattern p => p ∈ c.patterns
  | .group inner => c.draft.HasGroup inner ∧ c.draft.reaches outer c.draft.depth inner = false
  | .stray thing => c.Holds thing

/-- How a query is rewritten. -/
inductive Revision (c : Composition) (q : QueryId) : (Query → Query) → Prop
  | ask {text : String} {i : Identifier} (split : Identifier.ofText? text = some i) :
    Revision c q (·.ask i)
  | meet {text : String} {i : Identifier} (split : Identifier.ofText? text = some i) :
    Revision c q (·.meet i)
  | countBlank : Revision c q Query.countBlank
  | bind (label uri : String) : Revision c q (·.bind label uri)
  | express {text : String} {x : Computed} (split : Computed.ofText? text = some x)
      (free : Entries.get? (Edit.sharedIdentifier x.name) (c.draft.query q).asked ≠ some none) :
    Revision c q (·.express (Edit.sharedIdentifier x.name) x.expression)
  | project {vs : List Variable} (held : ∀ v ∈ vs, c.Holds (.variable v)) :
    Revision c q (·.reform (·.withProjection (Draft.keepFirst vs)))
  | addProjection {vs : List Variable} (held : ∀ v ∈ vs, c.Holds (.variable v)) :
    Revision c q (·.join vs)
  | setDistinct (flag : Bool) : Revision c q (·.reform (·.withDistinct flag))
  | groupBy {e : Entity} (held : c.Holds e) : Revision c q (·.reform (·.groupedBy e))

inductive Change (c : Composition) : Composition → Prop
  | record (e : Entry) : Change c ⟨c.draft.record e, c.patterns⟩
  | advance : Change c ⟨c.draft.advance, c.patterns⟩
  | addGroup {kind : GroupKind} (named : kind ≠ .graph "") :
    Change c ⟨c.draft.addGroup kind, c.patterns⟩
  | addQuery (strict : Bool) {form : Form} (fresh : c.draft.FreshForm form) :
    Change c ⟨(c.draft.addGroup .plain).addQuery strict c.draft.nextGroup form, c.patterns⟩
  | makePattern {s v o g : Operand} {p : Pattern} (offered : ∀ x ∈ [s, v, o, g], c.Offers x)
      (made : c.draft.patternFor c.draft.serial s v o g = .ok p) :
    Change c ⟨c.draft.advance, c.patterns ++ [p]⟩
  | append {group : GroupId} {e : Element} (there : c.draft.HasGroup group)
      (admissible : c.Admissible group e) : Change c ⟨c.draft.append group e, c.patterns⟩
  | revise {q : QueryId} {f : Query → Query} (there : c.draft.HasQuery q)
      (revision : c.Revision q f) : Change c ⟨c.draft.revise q f, c.patterns⟩

abbrev Changes : Composition → Composition → Prop := Relation.ReflTransGen Change

theorem Revision.roots {c : Composition} {q : QueryId} {f : Query → Query} (h : c.Revision q f)
    (query : Query) : (f query).roots = query.roots := by
  cases h with
  | ask | meet | countBlank | bind | express => rfl
  | project | addProjection | setDistinct | groupBy =>
    cases form : query.form <;>
      simp only [Query.join, Query.reform, Query.roots, Form.withProjection, Form.withDistinct,
        Form.groupedBy, form]

theorem Change.rooted {c c' : Composition} (h : Change c c') (rooted : c.draft.Rooted) :
    c'.draft.Rooted := by
  cases h with
  | record e => exact rooted
  | advance => exact rooted
  | makePattern offered made => exact rooted
  | addGroup named =>
    intro q hq g hg
    exact (Draft.hasGroup_addGroup _ _ g).mpr (.inl (rooted q hq g hg))
  | addQuery strict fresh =>
    intro q hq g hg
    rcases (Draft.hasQuery_addQuery _ _ _ _ q).mp hq with old | new
    · rw [Draft.query_addQuery_of_hasQuery _ _ _ _ old] at hg
      exact (Draft.hasGroup_addGroup _ _ g).mpr (.inl (rooted q old g hg))
    · subst new
      rw [Draft.query_addQuery_next] at hg
      apply (Draft.hasGroup_addGroup c.draft .plain g).mpr
      rename_i form
      cases form with
      | construct template =>
        have two : g = c.draft.nextGroup ∨ g = template := by simpa [Query.roots] using hg
        rcases two with body | same
        · exact .inr body
        · subst same
          exact .inl fresh
      | select distinct projection grouping =>
        exact .inr (by simpa [Query.roots] using hg)
      | formless => exact .inr (by simpa [Query.roots] using hg)
  | append there admissible =>
    intro q hq g hg
    exact (Draft.hasGroup_append _ _ _ g).mpr (rooted q hq g hg)
  | @revise changed f there revision =>
    intro q hq g hg
    have old : c.draft.HasQuery q := (Draft.hasQuery_revise _ _ _ q).mp hq
    by_cases same : q = changed
    · subst same
      rw [Draft.query_revise _ _ _ there, revision.roots] at hg
      exact rooted q old g hg
    · rw [Draft.query_revise_ne _ _ _ same] at hg
      exact rooted q old g hg

theorem holds_of_variablesFor {c : Composition} {xs : List Operand} {vs : List Variable}
    (offered : ∀ x ∈ xs, c.Offers x) (h : c.draft.variablesFor xs = .ok vs) :
    ∀ v ∈ vs, c.Holds (.variable v) := by
  fun_induction Draft.variablesFor generalizing vs with
  | case1 =>
    cases h
    simp
  | case2 w rest ih =>
    cases tail : c.draft.variablesFor rest with
    | error e =>
      rw [tail] at h
      cases h
    | ok ws =>
      rw [tail] at h
      cases h
      intro v member
      rcases List.mem_cons.mp member with rfl | member
      · exact offered (.entity (.variable v)) (by simp)
      · exact ih (fun x hx => offered x (by simp [hx])) tail v member
  | case3 x rest other => cases h

theorem after_eq_left [IriCheck] {c : Composition} {o : Operation} {α : Type} {e : Edit α}
    {answer : α → Answer} (run : o.run = do return answer (← e))
    (plain : ∀ a, newPatterns (answer a) = []) :
    c.after o = ⟨Edit.left (e.run c.draft), c.patterns⟩ := by
  rw [after, run, EStateM.run_bind]
  cases e.run c.draft with
  | ok a d => simp only [EStateM.run_pure, plain, List.append_nil, Edit.left]
  | error e d => rfl

theorem settling_changes {c : Composition} {q : QueryId} {f : Query → Query} {α : Type}
    (conflict? : Option Conflict) (answer : α) (there : c.draft.HasQuery q)
    (recorded : ∀ e, Revision ⟨c.draft.record e, c.patterns⟩ q f) (now : c.Revision q f) :
    Changes c ⟨Edit.left (c.draft.settling q conflict? answer f), c.patterns⟩ := by
  cases conflict? with
  | none => exact .single (.revise there now)
  | some k =>
    simp only [Draft.settling]
    split
    · exact .refl
    · exact .tail (.single (.record _)) (.revise there (recorded _))

theorem selection_changes {c : Composition} {e : Edit Unit} {q : QueryId} {f : Query → Query}
    (there : c.draft.HasQuery q) (revision : c.Revision q f)
    (run : e.run c.draft =
      if (c.draft.query q).form.IsSelect then .ok () (c.draft.revise q f)
      else .error .unsupported c.draft) :
    Changes c ⟨Edit.left (e.run c.draft), c.patterns⟩ := by
  rw [run]
  by_cases select : (c.draft.query q).form.IsSelect
  · rw [if_pos select]
    exact .single (.revise there revision)
  · rw [if_neg select]
    exact .refl

theorem newQuery_changes (c : Composition) (strict : Bool) (form : String) :
    Changes c ⟨Edit.left ((Edit.newQuery strict form).run c.draft), c.patterns⟩ := by
  rw [Edit.run_newQuery]
  by_cases select : form = "SELECT"
  · rw [if_pos select, Edit.run_newSelect]
    have fresh : c.draft.FreshForm (.select false [] []) := ⟨rfl, rfl, rfl⟩
    exact .tail (.single (.addQuery strict fresh)) (.record _)
  by_cases construct : form = "CONSTRUCT"
  · rw [if_neg select, if_pos construct, Edit.run_newConstruct]
    have fresh : (c.draft.addGroup .plain).FreshForm (.construct c.draft.nextGroup) :=
      (Draft.hasGroup_addGroup _ _ _).mpr (.inr rfl)
    have made : Changes c ⟨c.draft.addGroup .plain, c.patterns⟩ := .single (.addGroup nofun)
    exact .tail (.tail made (.addQuery strict fresh)) (.record _)
  · rw [if_neg select, if_neg construct]
    exact .refl

theorem graph_ne_unnamed {uri : String} (h : ¬ uri.isEmpty) : GroupKind.graph uri ≠ .graph "" := by
  intro same
  cases same
  exact h rfl

theorem newGraph_changes (c : Composition) (uri : String) :
    Changes c ⟨Edit.left ((Edit.newGraph uri).run c.draft), c.patterns⟩ := by
  rw [Edit.run_newGraph]
  by_cases empty : uri.isEmpty
  · rw [if_pos empty]
    exact .refl
  · rw [if_neg empty]
    exact .single (.addGroup (graph_ne_unnamed empty))

theorem internGraph_changes {c : Composition} {q : QueryId} (uri : String)
    (body : c.draft.HasGroup (c.draft.query q).body) :
    Changes c ⟨Edit.left ((Edit.internGraph q uri).run c.draft), c.patterns⟩ := by
  rw [Edit.run_internGraph _ _ _ body]
  cases c.draft.graph? q uri with
  | some g => exact .refl
  | none =>
    by_cases empty : uri.isEmpty
    · simp only [empty, if_true]
      exact .refl
    · simp only [empty, Bool.false_eq_true, if_false]
      have there : (c.draft.addGroup (.graph uri)).HasGroup (c.draft.query q).body :=
        (Draft.hasGroup_addGroup _ _ _).mpr (.inl body)
      have apart : c.draft.nextGroup ≠ (c.draft.query q).body := by
        intro same
        rw [← same] at body
        exact Nat.lt_irrefl _ body
      refine .tail (.single (.addGroup (graph_ne_unnamed empty))) (.append there ⟨?_, ?_⟩)
      · exact (Draft.hasGroup_addGroup _ _ _).mpr (.inr rfl)
      · rw [Draft.reaches_addGroup_next]
        simpa using apart

theorem admissible_of_holds {c : Composition} {group : GroupId} {e : Entity} (known : c.Holds e)
    (free : ∀ inner, e = .group inner → c.draft.reaches group c.draft.depth inner = false) :
    c.Admissible group (.ofEntity e) := by
  cases e with
  | group inner => exact ⟨known, free inner rfl⟩
  | _ => exact known

theorem addElement_changes {c : Composition} {group : GroupId} {thing : Option Entity}
    (there : c.draft.HasGroup group) (held : ∀ e ∈ thing, c.Holds e) :
    Changes c ⟨Edit.left ((Edit.addElement group (thing.map Element.ofEntity)).run c.draft),
      c.patterns⟩ := by
  cases thing with
  | none => exact .refl
  | some e =>
    have known : c.Holds e := held e rfl
    by_cases nested : ∃ inner, e = .group inner
    · obtain ⟨inner, rfl⟩ := nested
      rw [Option.map_some, Element.ofEntity, Edit.run_addElement_group]
      by_cases below : c.draft.reaches group c.draft.depth inner
      · rw [if_pos below]
        exact .refl
      · rw [if_neg below]
        exact .single (.append there ⟨known, by simpa using below⟩)
    · have other : ∀ inner, Element.ofEntity e ≠ .group inner := by
        intro inner same
        cases e <;> cases same
        exact nested ⟨inner, rfl⟩
      rw [Option.map_some, Edit.run_addElement_of_ne_group _ _ _ other]
      exact .single (.append there
        (admissible_of_holds known fun inner same => absurd ⟨inner, same⟩ nested))

theorem expression_changes {c : Composition} {q : QueryId} (text : Option String)
    (there : c.draft.HasQuery q) :
    Changes c ⟨Edit.left ((Edit.expression q text).run c.draft), c.patterns⟩ := by
  rw [Edit.run_expression]
  by_cases select : (c.draft.query q).form.IsSelect
  case neg =>
    rw [if_neg select]
    exact .refl
  rw [if_pos select]
  cases parsed : text.bind Computed.ofText? with
  | none => exact .refl
  | some x =>
    obtain ⟨s, -, split⟩ := Option.bind_eq_some_iff.mp parsed
    dsimp only
    by_cases taken : Entries.get? (Edit.sharedIdentifier x.name) (c.draft.query q).asked = some none
    · rw [if_pos taken]
      exact .refl
    · rw [if_neg taken]
      exact settling_changes _ _ there
        (fun e => .express (c := ⟨c.draft.record e, c.patterns⟩) split taken)
        (.express split taken)

theorem project_changes {c : Composition} {q : QueryId} {xs : List Operand}
    (there : c.draft.HasQuery q) (offered : ∀ x ∈ xs, c.Offers x) :
    Changes c ⟨Edit.left ((Edit.project q xs).run c.draft), c.patterns⟩ := by
  have run := Edit.run_project c.draft q xs
  cases vars : c.draft.variablesFor xs with
  | error e =>
    rw [run, vars]
    split <;> exact .refl
  | ok vs =>
    rw [vars] at run
    exact selection_changes there (.project (holds_of_variablesFor offered vars)) run

theorem addProjection_changes {c : Composition} {q : QueryId} {x : Operand}
    (there : c.draft.HasQuery q) (offered : c.Offers x) :
    Changes c ⟨Edit.left ((Edit.addProjection q x).run c.draft), c.patterns⟩ := by
  have run := Edit.run_addProjection c.draft q x
  cases vars : c.draft.variablesFor [x] with
  | error e =>
    rw [run, vars]
    split <;> exact .refl
  | ok vs =>
    rw [vars] at run
    have all : ∀ y ∈ [x], c.Offers y := by
      intro y member
      rw [List.mem_singleton.mp member]
      exact offered
    exact selection_changes there (.addProjection (holds_of_variablesFor all vars)) run

theorem newPattern_changes [IriCheck] {c : Composition} {s v o g : Operand}
    (offered : ∀ x ∈ [s, v, o, g], c.Offers x) :
    Changes c (c.after (.newPattern s v o g)) := by
  simp only [after, Operation.run, EStateM.run_bind, Edit.run_newPattern]
  cases made : c.draft.patternFor c.draft.serial s v o g with
  | error e => exact .refl
  | ok p => exact .single (.makePattern offered made)

theorem addPattern_changes [IriCheck] {c : Composition} {group : GroupId} {s v o g : Operand}
    (there : c.draft.HasGroup group) (offered : ∀ x ∈ [s, v, o, g], c.Offers x) :
    Changes c (c.after (.addPattern group s v o g)) := by
  simp only [after, Operation.run, EStateM.run_bind, Edit.run_addPattern]
  cases made : c.draft.patternFor c.draft.serial s v o g with
  | error e => exact .refl
  | ok p =>
    have last : p ∈ c.patterns ++ [p] := List.mem_append_right _ (List.mem_singleton.mpr rfl)
    exact .tail (.single (.makePattern offered made)) (.append there last)

theorem after_changes [IriCheck] {c : Composition} {o : Operation} (rooted : c.draft.Rooted)
    (h : o.Fits c) : Changes c (c.after o) := by
  cases o with
  | newQuery strict form =>
    rw [after_eq_left rfl fun _ => rfl]
    exact newQuery_changes c strict form
  | newFormless strict =>
    rw [after_eq_left rfl fun _ => rfl]
    have fresh : c.draft.FreshForm .formless := trivial
    exact .single (.addQuery strict fresh)
  | internVariable q text =>
    rw [after_eq_left rfl fun _ => rfl, Edit.run_internVariable]
    cases split : Identifier.ofText? text with
    | none => exact .refl
    | some i => exact .single (.revise h (.ask split))
  | internResource q text =>
    rw [after_eq_left rfl fun _ => rfl, Edit.run_internResource]
    cases split : Identifier.ofText? text with
    | none => exact .refl
    | some i => exact .single (.revise h (.meet split))
  | newBlank q =>
    rw [after_eq_left rfl fun _ => rfl]
    exact .single (.revise h .countBlank)
  | expression q text =>
    rw [after_eq_left rfl fun _ => rfl]
    exact expression_changes text h
  | internGraph q uri =>
    rw [after_eq_left rfl fun _ => rfl]
    exact internGraph_changes uri (rooted q h _ (Query.body_mem_roots _))
  | newGraph uri =>
    rw [after_eq_left rfl fun _ => rfl]
    exact newGraph_changes c uri
  | newOptional | newPlain =>
    rw [after_eq_left rfl fun _ => rfl]
    exact .single (.addGroup nofun)
  | newBare =>
    simp only [after, Operation.run, EStateM.run_bind, Edit.run_newBare, EStateM.run_pure,
      newPatterns, List.append_nil]
    exact .single .advance
  | newPattern s v o g =>
    obtain ⟨hs, hv, ho, hg⟩ := h
    exact newPattern_changes (by simp [hs, hv, ho, hg])
  | addPattern group s v o g =>
    obtain ⟨there, hs, hv, ho, hg⟩ := h
    exact addPattern_changes there (by simp [hs, hv, ho, hg])
  | addElement group thing =>
    rw [after_eq_left rfl fun _ => rfl]
    exact addElement_changes h.1 h.2
  | bindNamespace q label uri =>
    rw [after_eq_left rfl fun _ => rfl, Edit.run_bindNamespace]
    exact settling_changes _ _ h
      (fun e => .bind (c := ⟨c.draft.record e, c.patterns⟩) label uri) (.bind label uri)
  | project q xs =>
    rw [after_eq_left rfl fun _ => rfl]
    exact project_changes h.1 h.2
  | addProjection q x =>
    rw [after_eq_left rfl fun _ => rfl]
    exact addProjection_changes h.1 h.2
  | setDistinct q flag =>
    rw [after_eq_left rfl fun _ => rfl]
    exact selection_changes h (.setDistinct flag) (Edit.run_setDistinct _ _ _)
  | groupBy q e =>
    rw [after_eq_left rfl fun _ => rfl]
    exact selection_changes h.1 (.groupBy h.2) (Edit.run_groupBy _ _ _)
  | find group s v o =>
    rw [after_eq_left rfl fun _ => rfl]
    exact .refl
  | sparql indent q =>
    rw [after_eq_left rfl fun _ => rfl, Edit.run_sparql]
    cases c.draft.sparql indent q with
    | error e => exact .refl
    | ok text => exact .single (.record _)
  | report level message =>
    rw [after_eq_left rfl fun _ => rfl]
    exact .single (.record _)

theorem Changes.rooted {c c' : Composition} (h : Changes c c') (rooted : c.draft.Rooted) :
    c'.draft.Rooted := by
  induction h with
  | refl => exact rooted
  | tail _ change ih => exact change.rooted ih

theorem Reachable.rooted_changes [IriCheck] {c : Composition} (h : c.Reachable) :
    c.draft.Rooted ∧ Changes start c := by
  induction h with
  | refl => exact ⟨fun q hq => absurd hq (Nat.not_lt_zero _), .refl⟩
  | tail _ next ih =>
    -- a named graph is added to the body of its query, so the body has to be there already
    obtain ⟨o, fits, rfl⟩ := next
    have chain := after_changes ih.1 fits
    exact ⟨chain.rooted ih.1, ih.2.trans chain⟩

/-- What comes later comes about by a chain of changes. -/
theorem Reachable.changes [IriCheck] {c c' : Composition} (h : c.Reachable)
    (later : Relation.ReflTransGen Next c c') : Changes c c' := by
  induction later with
  | refl => exact .refl
  | tail earlier next ih =>
    obtain ⟨o, fits, rfl⟩ := next
    have here : Reachable _ := Relation.ReflTransGen.trans h earlier
    exact ih.trans (after_changes here.rooted_changes.1 fits)

/-- What holds at the start and is kept by every single change holds of every composition. -/
theorem Reachable.invariant [IriCheck] {P : Composition → Prop} {c : Composition} (h : c.Reachable)
    (init : P start) (keep : ∀ {c c'}, Change c c' → P c → P c') : P c := by
  have chain := h.rooted_changes.2
  clear h
  induction chain with
  | refl => exact init
  | tail _ change ih => exact keep change ih

end Composition

end SparqlCompose
