import SparqlCompose.Proofs.Draft.Growth
import SparqlCompose.Proofs.Variables.Names
import SparqlCompose.Proofs.Variables.Nodes

namespace SparqlCompose

open Relation (ReflTransGen)

def enrolled (known : List Identifier) (i : Identifier) : List Identifier :=
  if i ∈ known then known else known ++ [i]

section Enrolled

variable (known : List Identifier) (i : Identifier)

theorem isPrefix_enrolled : known <+: enrolled known i := by
  unfold enrolled
  split
  · exact List.prefix_refl known
  · exact List.prefix_append known [i]

theorem mem_enrolled {known : List Identifier} {i j : Identifier} :
    j ∈ enrolled known i ↔ j ∈ known ∨ j = i := by
  unfold enrolled
  split
  · rename_i there
    constructor
    · exact .inl
    · intro member
      rcases member with old | same
      · exact old
      · rw [same]
        exact there
  · simp

theorem nodup_enrolled {known : List Identifier} (distinct : known.Nodup) :
    (enrolled known i).Nodup := by
  unfold enrolled
  split
  · exact distinct
  · rename_i absent
    apply List.Nodup.append distinct (List.nodup_singleton i)
    intro j member last
    rw [List.mem_singleton.mp last] at member
    exact absent member

end Enrolled

/-- The records that a query keeps of what it was asked for by identifier. -/
inductive Register
  | «variables»
  | resources

namespace Register

def identifiers : Register → Query → List Identifier
  | .variables, query => Entries.keys query.asked
  | .resources, query => query.resources

def request (r : Register) (q : QueryId) (text : String) : Operation :=
  match r with
  | .variables => .internVariable q text
  | .resources => .internResource q text

def entity (r : Register) (q : QueryId) (i : Identifier) : Entity :=
  match r with
  | .variables => .variable ⟨q, i⟩
  | .resources => .resource ⟨q, i⟩

def enter (r : Register) (i : Identifier) : Query → Query :=
  match r with
  | .variables => (·.ask i)
  | .resources => (·.meet i)

theorem keys_put (i : Identifier) (known : Option String) (query : Query) :
    Entries.keys (Entries.put i known query.asked) = enrolled (Entries.keys query.asked) i :=
  Entries.keys_put i known query.asked

theorem identifiers_enter (r : Register) (i : Identifier) (query : Query) :
    r.identifiers (r.enter i query) = enrolled (r.identifiers query) i := by
  cases r with
  | resources => rfl
  | «variables» =>
    cases known : Entries.get? i query.asked with
    | none =>
      have asked : (query.ask i).asked = Entries.put i none query.asked := by
        simp only [Query.ask, known]
      rw [enter, identifiers, asked]
      exact keys_put i none query
    | some e =>
      have asked : (query.ask i).asked = query.asked := by simp only [Query.ask, known]
      have member : i ∈ Entries.keys query.asked := Entries.mem_keys_iff.mpr ⟨e, known⟩
      rw [enter, identifiers, asked]
      exact (if_pos member).symm

theorem enter_of_mem (r : Register) {i : Identifier} {query : Query}
    (there : i ∈ r.identifiers query) : r.enter i query = query := by
  cases r with
  | resources =>
    have known : i ∈ query.resources := there
    simp only [enter, Query.meet, known, if_true]
  | «variables» =>
    obtain ⟨e, known⟩ := Entries.mem_keys_iff.mp there
    simp only [enter, Query.ask, known]

/-- No identifier is on record twice, and each is what its text splits into. -/
structure Sound (r : Register) (query : Query) : Prop where
  distinct : (r.identifiers query).Nodup
  split : ∀ i ∈ r.identifiers query, Identifier.ofText? i.text = some i

end Register

namespace Composition

/-- The place of the identifier among those that the query was asked for. -/
def place (c : Composition) (r : Register) (q : QueryId) (i : Identifier) : Nat :=
  (r.identifiers (c.draft.query q)).idxOf i

def Lists (c : Composition) (r : Register) (q : QueryId) (i : Identifier) : Prop :=
  i ∈ r.identifiers (c.draft.query q)

theorem Revision.identifiers {c : Composition} {q : QueryId} {f : Query → Query}
    (h : c.Revision q f) (r : Register) (query : Query) :
    r.identifiers (f query) = r.identifiers query ∨
      ∃ i, Identifier.ofText? i.text = some i ∧
        r.identifiers (f query) = enrolled (r.identifiers query) i := by
  have again : ∀ {text : String} {i : Identifier}, Identifier.ofText? text = some i →
      Identifier.ofText? i.text = some i := by
    intro text i split
    rw [Identifier.text_of_ofText? split]
    exact split
  cases h with
  | countBlank | bind | project | addProjection | setDistinct | groupBy =>
    exact .inl (by cases r <;> rfl)
  | @ask text i split =>
    cases r with
    | «variables» => exact .inr ⟨i, again split, Register.identifiers_enter .variables i query⟩
    | resources => exact .inl rfl
  | @meet text i split =>
    cases r with
    | «variables» => exact .inl rfl
    | resources => exact .inr ⟨i, again split, Register.identifiers_enter .resources i query⟩
  | @express text x split free =>
    cases r with
    | «variables» =>
      exact .inr ⟨Edit.sharedIdentifier x.name, Computed.ofText?_alias split,
        Register.keys_put _ (some x.expression) query⟩
    | resources => exact .inl rfl

theorem Revision.sound {c : Composition} {q : QueryId} {f : Query → Query} (h : c.Revision q f)
    {r : Register} {query : Query} (sound : r.Sound query) : r.Sound (f query) := by
  rcases h.identifiers r query with same | ⟨i, split, entered⟩
  · exact ⟨by rw [same]; exact sound.distinct, by rw [same]; exact sound.split⟩
  · constructor
    · rw [entered]
      exact nodup_enrolled i sound.distinct
    · intro j member
      rw [entered] at member
      rcases mem_enrolled.mp member with old | new
      · exact sound.split j old
      · rw [new]
        exact split

theorem Reachable.sound {c : Composition} (h : c.Reachable) {q : QueryId}
    (there : c.draft.HasQuery q) (r : Register) : r.Sound (c.draft.query q) := by
  refine h.query_invariant (P := fun query => r.Sound query) ?_ ?_ q there
  · intro c strict body form fresh
    cases r with
    | «variables» => exact ⟨.nil, nofun⟩
    | resources => exact ⟨.nil, nofun⟩
  · intro c q f revision sound
    exact revision.sound sound

/-- What is on record stays there, and what comes later is put behind it. -/
theorem Change.isPrefix_identifiers {c c' : Composition} (h : Change c c') (r : Register)
    {q : QueryId} (there : c.draft.HasQuery q) :
    r.identifiers (c.draft.query q) <+: r.identifiers (c'.draft.query q) := by
  cases h with
  | record | advance | addGroup | makePattern | append => exact List.prefix_refl _
  | addQuery strict fresh =>
    have same := Draft.query_addQuery_of_hasQuery (c.draft.addGroup .plain) strict
      c.draft.nextGroup ‹Form› there
    rw [same]
    exact List.prefix_refl _
  | @revise revised f here revision =>
    dsimp only
    by_cases same : q = revised
    · subst same
      rw [Draft.query_revise _ _ _ here]
      rcases revision.identifiers r (c.draft.query q) with same | ⟨i, -, entered⟩
      · simp only [same, List.prefix_refl]
      · rw [entered]
        exact isPrefix_enrolled _ i
    · simp only [Draft.query_revise_ne _ _ _ same, List.prefix_refl]

theorem Changes.isPrefix_identifiers {c c' : Composition} (h : Changes c c') (r : Register)
    {q : QueryId} (there : c.draft.HasQuery q) :
    c'.draft.HasQuery q ∧
      r.identifiers (c.draft.query q) <+: r.identifiers (c'.draft.query q) := by
  induction h with
  | refl => exact ⟨there, List.prefix_refl _⟩
  | tail _ change ih =>
    exact ⟨change.hasQuery ih.1, ih.2.trans (change.isPrefix_identifiers r ih.1)⟩

theorem place_of_isPrefix {c c' : Composition} {r : Register} {q : QueryId} {i : Identifier}
    (kept : r.identifiers (c.draft.query q) <+: r.identifiers (c'.draft.query q))
    (listed : c.Lists r q i) : c'.place r q i = c.place r q i := by
  obtain ⟨more, whole⟩ := kept
  rw [place, place, ← whole]
  exact List.idxOf_append_of_mem listed

theorem place_inj {c : Composition} {r : Register} {q : QueryId} {i j : Identifier}
    (listed : c.Lists r q i) : c.place r q j = c.place r q i ↔ j = i := by
  constructor
  · intro same
    exact ((List.idxOf_inj listed).mp same.symm).symm
  · intro same
    rw [same]

section Requests

variable {c : Composition} {r : Register} {q : QueryId} {text : String} {i : Identifier}

theorem run_request [IriCheck] (split : Identifier.ofText? text = some i) :
    (r.request q text).run.run c.draft =
      .ok (.entity (r.entity q i)) (c.draft.revise q (r.enter i)) := by
  cases r with
  | «variables» =>
    rw [Register.request, Operation.run, EStateM.run_bind, Edit.run_internVariable, split]
    rfl
  | resources =>
    rw [Register.request, Operation.run, EStateM.run_bind, Edit.run_internResource, split]
    rfl

theorem outcome_request [IriCheck] (split : Identifier.ofText? text = some i) :
    c.outcome (r.request q text) = .ok (.entity (r.entity q i)) :=
  outcome_of_ok (run_request split)

theorem after_request [IriCheck] (split : Identifier.ofText? text = some i) :
    c.after (r.request q text) = ⟨c.draft.revise q (r.enter i), c.patterns⟩ :=
  after_of_ok (run_request split) (by cases r <;> rfl)

theorem fits_request (there : c.draft.HasQuery q) : (r.request q text).Fits c := by
  cases r <;> exact there

theorem lists_after_request (there : c.draft.HasQuery q)
    (split : Identifier.ofText? text = some i) : (c.after (r.request q text)).Lists r q i := by
  rw [after_request split, Lists, Draft.query_revise _ _ _ there, Register.identifiers_enter]
  exact mem_enrolled.mpr (.inr rfl)

theorem after_request_of_lists (split : Identifier.ofText? text = some i)
    (listed : c.Lists r q i) : c.after (r.request q text) = c := by
  rw [after_request split, Draft.revise_eq_self _ _ _ (Register.enter_of_mem r listed)]

/-- A thing that was asked for stays in its place, and is what every later request with its
identifier answers. Such a request adds nothing. -/
theorem request_later {c' : Composition} (h : c.Reachable) (there : c.draft.HasQuery q)
    (split : Identifier.ofText? text = some i)
    (later : ReflTransGen Next (c.after (r.request q text)) c') {other : String}
    {j : Identifier} (split' : Identifier.ofText? other = some j) :
    (r.entity q j = r.entity q i ↔ other = text) ∧
      ((c'.after (r.request q other)).place r q j =
        (c.after (r.request q text)).place r q i ↔ other = text) ∧
      (other = text → c'.after (r.request q other) = c') := by
  have asked : c.after (r.request q text) |>.Reachable := h.tail ⟨_, fits_request there, rfl⟩
  have here : (c.after (r.request q text)).draft.HasQuery q := by
    rw [after_request split]
    exact (Draft.hasQuery_revise _ _ _ q).mpr there
  have listed := lists_after_request (r := r) there split
  obtain ⟨there', kept⟩ := (asked.changes later).isPrefix_identifiers r here
  have listed' : c'.Lists r q i := kept.subset listed
  have kept' : r.identifiers (c'.draft.query q) <+:
      r.identifiers ((c'.after (r.request q other)).draft.query q) := by
    rw [after_request split', Draft.query_revise _ _ _ there', Register.identifiers_enter]
    exact isPrefix_enrolled _ j
  have same : other = text ↔ j = i := by
    constructor
    · intro texts
      rw [texts, split] at split'
      cases split'
      rfl
    · intro identifiers
      rw [← Identifier.text_of_ofText? split, ← Identifier.text_of_ofText? split', identifiers]
  refine ⟨?_, ?_, ?_⟩
  · rw [same]
    cases r <;> simp [Register.entity]
  · have place := (place_of_isPrefix kept' listed').trans (place_of_isPrefix kept listed)
    rw [same, ← place, place_inj (kept'.subset listed')]
  · intro texts
    rw [same.mp texts] at split'
    exact after_request_of_lists split' listed'

end Requests

theorem expression_later {c c' : Composition} (h : c.Reachable) {q : QueryId}
    (there : c.draft.HasQuery q) {text : Option String} {v : Variable}
    (made : c.outcome (.expression q text) = .ok (.entity (.variable v)))
    (later : ReflTransGen Next (c.after (.expression q text)) c') :
    ∃ x, text.bind Computed.ofText? = some x ∧
      c'.outcome (.internVariable q (Vocabulary.queryVariable ++ x.name)) =
        .ok (.entity (.variable v)) ∧
      c'.after (.internVariable q (Vocabulary.queryVariable ++ x.name)) = c' ∧
      c'.draft.IsComputed v := by
  have step : c.after (.expression q text) =
      ⟨Edit.left ((Edit.expression q text).run c.draft), c.patterns⟩ :=
    after_eq_left rfl fun _ => rfl
  rw [outcome, Operation.run, EStateM.run_bind] at made
  cases run : (Edit.expression q text).run c.draft with
  | error e d =>
    rw [run] at made
    cases made
  | ok w d =>
    rw [run] at made step
    cases made
    obtain ⟨-, x, parsed, -, rfl, settled⟩ := Edit.expression_eq_ok run
    obtain ⟨s, -, read⟩ := Option.bind_eq_some_iff.mp parsed
    obtain ⟨here, query⟩ := Draft.query_of_settling there settled
    have known : (c.after (.expression q text)).draft.known? ⟨q, Edit.sharedIdentifier x.name⟩ =
        some (some x.expression) := by
      rw [step, Draft.known?, Edit.left, query]
      exact Entries.get?_put_self _ _ _
    have reached : (c.after (.expression q text)).Reachable := h.tail ⟨.expression q text, there, rfl⟩
    have computed := (reached.changes later).isComputed ⟨_, known⟩
    obtain ⟨e, known'⟩ := computed
    have listed : c'.Lists .variables q (Edit.sharedIdentifier x.name) :=
      Entries.mem_keys_iff.mpr ⟨_, known'⟩
    have split := Computed.ofText?_alias read
    exact ⟨x, parsed, outcome_request (r := .variables) split,
      after_request_of_lists (r := .variables) split listed, ⟨e, known'⟩⟩

variable {p : Pipeline} {ps : List Provider}

/-- Interning, over any run of operations and visits. What a query is asked for by a text has the
text as its identifier, split in front of a name without separators. Whatever is done in between, a
later request is answered with the same thing, standing in the same place, just when its text is the
same, and then it adds nothing. An alias names its computed variable ever after. No identifier is on
record twice, and of the variables of one query no two are equal. The nodes of a query are numbered
in the order in which they were made, and so are their labels. -/
theorem interned_by_identifier (made : p.OfProviders ps) {ss : List Step}
    (fits : start.Allows p ss) {c : Composition} (run : start.proceed p ss = c) {q : QueryId}
    (there : c.draft.HasQuery q) :
    (∀ (r : Register) (a : String), a ≠ "" → ∃ i,
      c.outcome (r.request q a) = .ok (.entity (r.entity q i)) ∧ i.text = a ∧ i.IsSplit ∧
      ∀ us, (c.after (r.request q a)).Allows p us →
        ∀ c', (c.after (r.request q a)).proceed p us = c' → ∀ b, b ≠ "" → ∃ j,
          c'.outcome (r.request q b) = .ok (.entity (r.entity q j)) ∧
          (r.entity q j = r.entity q i ↔ b = a) ∧
          ((c'.after (r.request q b)).place r q j = (c.after (r.request q a)).place r q i ↔
            b = a) ∧
          (b = a → c'.after (r.request q b) = c')) ∧
    (∀ text v, c.outcome (.expression q text) = .ok (.entity (.variable v)) →
      ∀ us, (c.after (.expression q text)).Allows p us →
        ∀ c', (c.after (.expression q text)).proceed p us = c' →
          ∃ x, text.bind Computed.ofText? = some x ∧
            c'.outcome (.internVariable q (Vocabulary.queryVariable ++ x.name)) =
              .ok (.entity (.variable v)) ∧
            c'.after (.internVariable q (Vocabulary.queryVariable ++ x.name)) = c' ∧
            c'.draft.IsComputed v) ∧
    (∀ r : Register, r.Sound (c.draft.query q)) ∧
    (∀ v w : Variable, c.Holds (.variable v) → v.query = q → w.query = q →
      (Entity.equal (.variable v) (.variable w) = true ↔ v = w) ∧
      (c.place .variables q w.identifier = c.place .variables q v.identifier ↔ v = w)) ∧
    ∃ n, (start.results p ss).filterMap (node? q) = (List.range n).map (BlankNode.mk q) ∧
      ((List.range n).map (BlankNode.mk q)).map (·.label) =
        (List.range n).map (fun k => "b" ++ toString k) ∧
      ((List.range n).map (BlankNode.mk q)).Nodup ∧
      (((List.range n).map (BlankNode.mk q)).map (·.label)).Nodup := by
  have h : c.Reachable := by
    rw [← run]
    exact proceed_later made fits
  refine ⟨?_, ?_, ?_, ?_, ?_⟩
  · intro r a some
    obtain ⟨i, split⟩ := Identifier.exists_ofText? some
    refine ⟨i, outcome_request split, Identifier.text_of_ofText? split,
      Identifier.isSplit_of_ofText? split, ?_⟩
    intro us more c' later b some'
    obtain ⟨j, split'⟩ := Identifier.exists_ofText? some'
    refine ⟨j, outcome_request split', ?_⟩
    rw [← later]
    exact request_later h there split (proceed_later made more) split'
  · intro text v answered us more c' later
    rw [← later]
    exact expression_later h there answered (proceed_later made more)
  · exact fun r => h.sound there r
  · intro v w held own own'
    have listed : c.Lists .variables q v.identifier := own ▸ held.2
    have same : v = w ↔ w.identifier = v.identifier := by
      constructor
      · intro is
        rw [is]
      · intro identifiers
        obtain ⟨query, i⟩ := v
        obtain ⟨query', j⟩ := w
        cases own
        cases own'
        cases identifiers
        rfl
    have equal : Entity.equal (.variable v) (.variable w) = true ↔
        w.identifier = v.identifier := by
      rw [Entity.equal, beq_iff_eq]
      exact eq_comm
    rw [same, place_inj listed]
    exact ⟨equal, Iff.rfl⟩
  · obtain ⟨n, handed⟩ := nodes_results made fits q
    have none : (start.draft.query q).blanks = 0 := rfl
    rw [none, ← List.range_eq_range'] at handed
    refine ⟨n, handed, ?_, ?_, ?_⟩
    · rw [List.map_map]
      rfl
    · exact List.nodup_range.map fun k l same => congrArg BlankNode.index same
    · rw [List.map_map]
      exact List.nodup_range.map label_injective

def interningSteps : List Step :=
  [.operation (.newQuery false "SELECT"), .operation (.newBlank ⟨0⟩),
   .operation (.internVariable ⟨0⟩ "urn:a/site"), .visit ⟨"visit", []⟩ ⟨0⟩,
   .operation (.expression ⟨0⟩ (some "1 as ?flag")), .operation (.newBlank ⟨0⟩)]

@[irreducible] def interning : Composition :=
  start.proceed Pipeline.bothDomains interningSteps

theorem interned_by_identifier_bothDomains :
    start.Allows Pipeline.bothDomains interningSteps ∧ interning.draft.HasQuery ⟨0⟩ ∧
      (∃ i, interning.outcome (.internVariable ⟨0⟩ (Vocabulary.queryVariable ++ "site")) =
          .ok (.entity (.variable ⟨⟨0⟩, i⟩)) ∧
        i.text = Vocabulary.queryVariable ++ "site" ∧ i.IsSplit) ∧
      (start.results Pipeline.bothDomains interningSteps).filterMap (node? ⟨0⟩) =
        [⟨⟨0⟩, 0⟩, ⟨⟨0⟩, 1⟩] := by
  have facts : start.Allows Pipeline.bothDomains interningSteps ∧
      interning.draft.HasQuery ⟨0⟩ ∧
      ((start.results Pipeline.bothDomains interningSteps).filterMap (node? ⟨0⟩)).length = 2 := by
    decide +kernel
  obtain ⟨fits, there, two⟩ := facts
  have run : start.proceed Pipeline.bothDomains interningSteps = interning := by
    unfold interning
    rfl
  have interned := interned_by_identifier Pipeline.ofProviders_bothDomains fits run there
  refine ⟨fits, there, ?_, ?_⟩
  · obtain ⟨i, answered, text, split, -⟩ :=
      interned.1 .variables (Vocabulary.queryVariable ++ "site") (by decide)
    exact ⟨i, answered, text, split⟩
  · obtain ⟨n, handed, -⟩ := interned.2.2.2.2
    rw [handed, List.length_map, List.length_range] at two
    rw [handed, two]
    rfl

end Composition

end SparqlCompose
