import SparqlCompose.Proofs.Pipeline.Steps

namespace SparqlCompose.Composition

def node? (q : QueryId) : Except Failure Answer → Option BlankNode
  | .ok (.entity (.blank b)) => if b.query = q then some b else none
  | _ => none

theorem blanks_addQuery (d : Draft) (strict : Bool) (body : GroupId) (form : Form) (q : QueryId) :
    ((d.addQuery strict body form).query q).blanks = (d.query q).blanks := by
  by_cases there : d.HasQuery q
  · rw [Draft.query_addQuery_of_hasQuery _ _ _ _ there]
  · rw [Draft.query_of_not_hasQuery _ _ there]
    by_cases new : q = d.nextQuery
    · rw [new, Draft.query_addQuery_next]
      rfl
    · have past : ¬ (d.addQuery strict body form).HasQuery q := by
        rw [Draft.hasQuery_addQuery]
        exact fun h => h.elim there new
      rw [Draft.query_of_not_hasQuery _ _ past]

theorem Frame.blanks {q : QueryId} {d d' : Draft} (h : d.Frame q d') (other : QueryId) :
    (d'.query other).blanks = (d.query other).blanks := by
  by_cases same : other = q
  · rw [same]
    exact h.alike.blanks
  · rw [h.others other same]

theorem blanks_reform (d : Draft) (q : QueryId) (f : Form → Form) (other : QueryId) :
    ((d.revise q (·.reform f)).query other).blanks = (d.query other).blanks := by
  by_cases same : other = q
  · subst same
    by_cases there : d.HasQuery other
    · rw [Draft.query_revise _ _ _ there]
      rfl
    · rw [Draft.revise_of_not_hasQuery _ _ _ there]
  · rw [Draft.query_revise_ne _ _ _ same]

theorem queries_internGraph (d : Draft) (q : QueryId) (uri : String) :
    (Edit.left ((Edit.internGraph q uri).run d)).queries = d.queries := by
  rw [Edit.run_internGraph_ite]
  cases d.graph? q uri with
  | some g => rfl
  | none =>
    dsimp only
    split
    · rfl
    · split <;> rfl

theorem queries_addElement (d : Draft) (group : GroupId) (e : Option Element) :
    (Edit.left ((Edit.addElement group e).run d)).queries = d.queries := by
  cases e with
  | none => rfl
  | some e =>
    cases e with
    | pattern p => rfl
    | stray thing => rfl
    | group inner =>
      rw [Edit.run_addElement_group]
      split <;> rfl

theorem blanks_newQuery (d : Draft) (strict : Bool) (form : String) (q : QueryId) :
    ((Edit.left ((Edit.newQuery strict form).run d)).query q).blanks = (d.query q).blanks := by
  rw [Edit.run_newQuery]
  split
  · exact blanks_addQuery _ _ _ _ q
  · split
    · exact blanks_addQuery _ _ _ _ q
    · rfl

theorem node?_of_ne_newBlank {c : Composition} {o : Operation} (other : ∀ q, o ≠ .newBlank q)
    (q : QueryId) :
    node? q (c.outcome o) = none ∧
      ((c.after o).draft.query q).blanks = (c.draft.query q).blanks := by
  have answered : ∀ {α : Type} {e : Edit α} (answer : α → Answer),
      o.run = (do return answer (← e)) → (∀ a, newPatterns (answer a) = []) →
      (∀ a, node? q (.ok (answer a)) = none) →
      ((Edit.left (e.run c.draft)).query q).blanks = (c.draft.query q).blanks →
      node? q (c.outcome o) = none ∧
        ((c.after o).draft.query q).blanks = (c.draft.query q).blanks := by
    intro α e answer run plain none kept
    rw [after_eq_left run plain, outcome, run, EStateM.run_bind]
    refine ⟨?_, kept⟩
    cases e.run c.draft with
    | ok a d => exact none a
    | error e d => rfl
  cases o with
  | newBlank r => exact absurd rfl (other r)
  | newQuery strict form =>
    exact answered _ rfl (fun _ => rfl) (fun _ => rfl) (blanks_newQuery _ _ _ q)
  | newFormless strict =>
    exact answered _ rfl (fun _ => rfl) (fun _ => rfl) (blanks_addQuery _ _ _ _ q)
  | internVariable r text =>
    exact answered _ rfl (fun _ => rfl) (fun _ => rfl)
      (Frame.blanks (Edit.framed_internVariable r text _) q)
  | internResource r text =>
    exact answered _ rfl (fun _ => rfl) (fun _ => rfl)
      (Frame.blanks (Edit.framed_internResource r text _) q)
  | expression r text =>
    exact answered _ rfl (fun _ => rfl) (fun _ => rfl)
      (Frame.blanks (Edit.framed_expression r text _) q)
  | bindNamespace r label uri =>
    exact answered (fun _ => .done) rfl (fun _ => rfl) (fun _ => rfl)
      (Frame.blanks (Edit.framed_bindNamespace r label uri _) q)
  | project r xs =>
    exact answered (fun _ => .done) rfl (fun _ => rfl) (fun _ => rfl)
      (Frame.blanks (Edit.framed_project r xs _) q)
  | addProjection r x =>
    exact answered (fun _ => .done) rfl (fun _ => rfl) (fun _ => rfl)
      (Frame.blanks (Edit.framed_addProjection r x _) q)
  | setDistinct r flag =>
    refine answered (fun _ => .done) rfl (fun _ => rfl) (fun _ => rfl) ?_
    rw [Edit.run_setDistinct]
    split
    · exact blanks_reform _ r _ q
    · rfl
  | groupBy r e =>
    refine answered (fun _ => .done) rfl (fun _ => rfl) (fun _ => rfl) ?_
    rw [Edit.run_groupBy]
    split
    · exact blanks_reform _ r _ q
    · rfl
  | internGraph r uri =>
    refine answered _ rfl (fun _ => rfl) (fun _ => rfl) ?_
    rw [Draft.query, queries_internGraph]
    rfl
  | newGraph uri =>
    refine answered _ rfl (fun _ => rfl) (fun _ => rfl) ?_
    rw [Edit.run_newGraph]
    split <;> rfl
  | addElement group thing =>
    refine answered (fun _ => .done) rfl (fun _ => rfl) (fun _ => rfl) ?_
    rw [Draft.query, queries_addElement]
    rfl
  | newPattern s v o g =>
    rw [after, outcome, Operation.run, EStateM.run_bind, Edit.run_newPattern]
    cases c.draft.patternFor c.draft.serial s v o g <;> exact ⟨rfl, rfl⟩
  | addPattern group s v o g =>
    rw [after, outcome, Operation.run, EStateM.run_bind, Edit.run_addPattern]
    cases c.draft.patternFor c.draft.serial s v o g <;> exact ⟨rfl, rfl⟩
  | sparql indent r =>
    refine answered _ rfl (fun _ => rfl) (fun _ => rfl) ?_
    rw [Edit.run_sparql]
    cases c.draft.sparql indent r <;> rfl
  | newOptional | newPlain | newBare | find | report => exact ⟨rfl, rfl⟩

variable {p : Pipeline} {ps : List Provider}

theorem nodes_step (made : p.OfProviders ps) {c : Composition} {s : Step} (fits : s.Fits c)
    (q : QueryId) :
    ∃ k, (node? q (c.result p s)).toList =
        (List.range' (c.draft.query q).blanks k).map (BlankNode.mk q) ∧
      ((c.step p s).draft.query q).blanks = (c.draft.query q).blanks + k := by
  cases s with
  | visit r q' =>
    have framed := made.framed_visitQuery r q' c.draft
    refine ⟨0, ?_, Frame.blanks framed q⟩
    rw [result]
    cases (p.visitQuery r q').run c.draft <;> rfl
  | operation o =>
    by_cases blank : ∃ r, o = .newBlank r
    · obtain ⟨r, rfl⟩ := blank
      have there : c.draft.HasQuery r := fits
      have given : c.outcome (.newBlank r) =
          .ok (.entity (.blank ⟨r, (c.draft.query r).blanks⟩)) := rfl
      have left : (c.after (.newBlank r)).draft = c.draft.revise r Query.countBlank := rfl
      rw [result, step, given, left, node?]
      by_cases own : r = q
      · subst own
        exact ⟨1, by rw [if_pos rfl]; rfl, by rw [Draft.query_revise _ _ _ there]; rfl⟩
      · exact ⟨0, by rw [if_neg own]; rfl, by rw [Draft.query_revise_ne _ _ _ (Ne.symm own)]; rfl⟩
    · have none := node?_of_ne_newBlank (c := c) (o := o) (fun r same => blank ⟨r, same⟩) q
      refine ⟨0, ?_, none.2⟩
      rw [result, none.1]
      rfl

/-- The nodes of a query are handed out in turn. -/
theorem nodes_results (made : p.OfProviders ps) {c : Composition} {ss : List Step}
    (fits : c.Allows p ss) (q : QueryId) :
    ∃ k, (c.results p ss).filterMap (node? q) =
      (List.range' (c.draft.query q).blanks k).map (BlankNode.mk q) := by
  induction ss generalizing c with
  | nil => exact ⟨0, rfl⟩
  | cons s rest ih =>
    obtain ⟨k, first, now⟩ := nodes_step made fits.1 q
    obtain ⟨l, later⟩ := ih fits.2
    rw [now] at later
    refine ⟨k + l, ?_⟩
    have split : (c.results p (s :: rest)).filterMap (node? q) =
        (node? q (c.result p s)).toList ++ ((c.step p s).results p rest).filterMap (node? q) := by
      rw [results, List.filterMap_cons]
      cases node? q (c.result p s) <;> rfl
    rw [split, first, later, ← List.map_append, List.range'_append_1]

theorem label_injective {q : QueryId} : Function.Injective fun k => (BlankNode.mk q k).label := by
  intro k l same
  have numbers : toString k = toString l := (String.append_right_inj "b").mp same
  rw [Nat.toString_eq_ofList_toDigits, Nat.toString_eq_ofList_toDigits] at numbers
  have digits : Nat.toDigits 10 k = Nat.toDigits 10 l := String.ofList_injective numbers
  rw [← Nat.ofDigitChars_ten_toDigits (n := k), digits, Nat.ofDigitChars_ten_toDigits]

end SparqlCompose.Composition
