import SparqlCompose.Proofs.Draft.Projection
import SparqlCompose.Proofs.Nesting.Text
import SparqlCompose.Proofs.Variables.Plain

namespace SparqlCompose

theorem Variable.identifier_eq {v w : Variable} (name : v.name = w.name)
    (space : v.identifier.space = w.identifier.space) : v.identifier = w.identifier := by
  obtain ⟨p, ⟨i, m⟩⟩ := v
  obtain ⟨p', ⟨i', m'⟩⟩ := w
  cases name
  cases space
  rfl

namespace Draft

def Matches (d : Draft) (q : QueryId) (v : Variable) : Prop :=
  ∃ g, d.Encloses (d.query q).body g ∧ ∃ x ∈ (d.group g).patterns, v ∈ x.variables

def Mentions (d : Draft) (q : QueryId) (name : String) : Prop :=
  ∃ g, d.Encloses (d.query q).body g ∧ ∃ x ∈ (d.group g).patterns, ∃ v ∈ x.variables, v.name = name

def Aliases (d : Draft) (q : QueryId) (name : String) : Prop :=
  ∃ v ∈ (d.query q).form.projection, d.IsComputed v ∧ v.name = name

/-- The body and the projection have no variables but the query's own. -/
structure SelfContained (d : Draft) (q : QueryId) : Prop where
  body : ∀ v, d.Matches q v → v.query = q
  projection : ∀ v ∈ (d.query q).form.projection, v.query = q

/-- No two variables that the query was asked for have one name. -/
def NamesApart (d : Draft) (q : QueryId) : Prop :=
  ((Entries.keys (d.query q).asked).map (·.name)).Nodup

theorem NamesApart.eq_of_name {d : Draft} {q : QueryId} (apart : d.NamesApart q) {v w : Variable}
    (own : v.query = q) (own' : w.query = q) (known : d.known? v ≠ none) (known' : d.known? w ≠ none)
    (same : v.name = w.name) : v = w := by
  have asked : ∀ u : Variable, u.query = q → d.known? u ≠ none →
      u.identifier ∈ Entries.keys (d.query q).asked := by
    rintro u rfl known
    exact Entries.mem_keys_iff.mpr (Option.ne_none_iff_exists'.mp known)
  have identifier : v.identifier = w.identifier :=
    List.inj_on_of_nodup_map apart (asked v own known) (asked w own' known') same
  cases v
  cases w
  cases own
  cases own'
  cases identifier
  rfl

/-- The text lists what the query projects, and each pattern in its body has matched variables
only. -/
def Presents (d : Draft) (indent : String) (q : QueryId) (text : String) : Prop :=
  ∃ distinct body tail,
    text = String.join ((namespaceLines (d.query q) ++
      d.selectLine distinct (d.query q).form.projection ::
        "WHERE \x7b" :: body ++ "\x7d" :: tail).map (· ++ "\n")) ∧
    ∀ line ∈ body, IsBracket indent line ∨
      ∃ x, IsLineOf indent x line ∧ ∀ v ∈ x.variables, d.Matches q v

theorem presents_of_sparql {d : Draft} {indent : String} {q : QueryId} {text : String}
    (select : (d.query q).form.IsSelect) (written : d.sparql indent q = .ok text) :
    d.Presents indent q text := by
  obtain ⟨distinct, projection, grouping, form⟩ := select.eq
  obtain ⟨body, tail, inside, is⟩ := sparql_of_select form written
  refine ⟨distinct, body, tail, ?_, fun line member => ?_⟩
  · rw [is, form]
    rfl
  · rcases mem_lines inside member with bracket | ⟨g, below, x, there, shows⟩
    · exact .inl bracket
    · exact .inr ⟨x, shows, fun v among => ⟨g, below, x, there, among⟩⟩

theorem Mentions.exists_matches {d : Draft} {q : QueryId} {name : String} (h : d.Mentions q name) :
    ∃ v, d.Matches q v ∧ v.name = name := by
  obtain ⟨g, below, x, member, v, among, same⟩ := h
  exact ⟨v, ⟨g, below, x, member, among⟩, same⟩

end Draft

namespace Composition

theorem Revision.mem_projection {c : Composition} {q : QueryId} {f : Query → Query}
    (h : c.Revision q f) {query : Query} {v : Variable}
    (member : v ∈ (f query).form.projection) :
    v ∈ query.form.projection ∨ c.Holds (.variable v) := by
  cases h with
  | ask | meet | countBlank | bind | express => exact .inl member
  | setDistinct =>
    rw [Query.form_reform, Form.projection_withDistinct] at member
    exact .inl member
  | groupBy =>
    rw [Query.form_reform, Form.projection_groupedBy] at member
    exact .inl member
  | project held =>
    rw [Query.form_reform] at member
    by_cases select : query.form.IsSelect
    · rw [select.projection_withProjection] at member
      exact .inr (held v (mem_of_mem_keepFirst member))
    · rw [Form.withProjection_of_not_isSelect select] at member
      exact .inl member
  | addProjection held =>
    simp only [Query.join, Query.form_reform] at member
    by_cases select : query.form.IsSelect
    · rw [select.projection_withProjection] at member
      rcases List.mem_append.mp (mem_of_mem_keepFirst member) with old | new
      · exact .inl old
      · exact .inr (held v new)
    · rw [Form.withProjection_of_not_isSelect select] at member
      exact .inl member

theorem known?_of_holds {c : Composition} {v : Variable} (held : c.Holds (.variable v)) :
    c.draft.known? v ≠ none := by
  obtain ⟨known, there⟩ := Entries.mem_keys_iff.mp held.2
  rw [Draft.known?, there]
  exact Option.some_ne_none known

theorem Change.known?_ne_none {c c' : Composition} (h : Change c c') {v : Variable}
    (known : c.draft.known? v ≠ none) : c'.draft.known? v ≠ none := by
  obtain ⟨before, there⟩ := Option.ne_none_iff_exists'.mp known
  obtain ⟨now, later, -⟩ := h.known? there
  rw [later]
  exact Option.some_ne_none now

theorem Reachable.known?_projection {c : Composition} (h : c.Reachable) {q : QueryId}
    (there : c.draft.HasQuery q) {v : Variable} (member : v ∈ (c.draft.query q).form.projection) :
    c.draft.known? v ≠ none := by
  refine h.invariant_query (P := fun c query => ∀ v ∈ query.form.projection,
    c.draft.known? v ≠ none) ?_ ?_ ?_ q there v member
  · intro c strict body form fresh v member
    rw [fresh.projection_eq] at member
    cases member
  · intro c q f revision known v member
    rcases revision.mem_projection member with before | held
    · exact known v before
    · exact known?_of_holds held
  · intro c c' change query known v member
    exact change.known?_ne_none (known v member)

theorem Revision.space_of_computed {c : Composition} {q : QueryId} {f : Query → Query}
    (h : c.Revision q f)
    (shared : ∀ i e, Entries.get? i (c.draft.query q).asked = some (some e) →
      i.space = Vocabulary.queryVariable) :
    ∀ i e, Entries.get? i (f (c.draft.query q)).asked = some (some e) →
      i.space = Vocabulary.queryVariable := by
  intro i e found
  cases h with
  | ask => exact shared i e (Query.get?_of_get?_ask _ found)
  | meet | countBlank | bind | project | addProjection | setDistinct | groupBy =>
    exact shared i e found
  | @express text x split free =>
    by_cases same : i = Edit.sharedIdentifier x.name
    · rw [same]
      rfl
    · have kept := (Entries.get?_put_ne same (some x.expression) (c.draft.query q).asked).symm
      exact shared i e (kept.trans found)

theorem Reachable.space_of_isComputed {c : Composition} (h : c.Reachable) {v : Variable}
    (computed : c.draft.IsComputed v) : v.identifier.space = Vocabulary.queryVariable := by
  obtain ⟨e, known⟩ := computed
  have there : c.draft.HasQuery v.query := Draft.hasQuery_of_known? known
  refine h.query_invariant (P := fun query => ∀ i e, Entries.get? i query.asked = some (some e) →
    i.space = Vocabulary.queryVariable) ?_ Revision.space_of_computed v.query there _ e known
  intro c strict body form fresh i e found
  cases found

theorem Reachable.isPlain_of_matches {c : Composition} (h : c.Reachable) {q : QueryId}
    {v : Variable} (matched : c.draft.Matches q v) : c.draft.IsPlain v := by
  obtain ⟨g, -, x, member, among⟩ := matched
  exact h.patterns_plain x (h.patterns_made g x member) v among

theorem Reachable.selfContained {c : Composition} (h : c.Reachable)
    (only : c.draft.queries.size = 1) : c.draft.SelfContained ⟨0⟩ := by
  have own : ∀ v, c.draft.known? v ≠ none → v.query = ⟨0⟩ := by
    intro v known
    obtain ⟨now, there⟩ := Option.ne_none_iff_exists'.mp known
    have here : v.query.index < c.draft.queries.size := Draft.hasQuery_of_known? there
    obtain ⟨⟨n⟩, i⟩ := v
    rw [only] at here
    exact congrArg QueryId.mk (Nat.lt_one_iff.mp here)
  constructor
  · intro v matched
    exact own v (h.isPlain_of_matches matched).known?_ne_none
  · intro v member
    have there : c.draft.HasQuery ⟨0⟩ := by
      rw [Draft.HasQuery, only]
      exact Nat.zero_lt_one
    exact own v (h.known?_projection there member)

theorem Reachable.space_ne_of_isComputed {c : Composition} (h : c.Reachable) {q : QueryId}
    {v w : Variable} (computed : c.draft.IsComputed v) (matched : c.draft.Matches q w)
    (query : w.query = v.query) (name : w.name = v.name) :
    w.identifier.space ≠ Vocabulary.queryVariable := by
  intro space
  have shared := h.space_of_isComputed computed
  have same : w.identifier = v.identifier := Variable.identifier_eq name (space.trans shared.symm)
  have is : w = v := by
    cases v
    cases w
    cases query
    cases same
    rfl
  subst is
  exact (h.isPlain_of_matches matched).not_isComputed computed

/-- The text of a SELECT query with variables of its own only. An alias can also be the name of a
variable of the body, but of none in the space that contributors share, in which all aliases lie;
and variables of different spaces only are projected under one name. Where the names of the
variables tell them apart, no alias is a name of the body, and no name is projected twice. -/
theorem same_name_other_space {c : Composition} (h : c.Reachable) {q : QueryId}
    (there : c.draft.HasQuery q) (select : (c.draft.query q).form.IsSelect)
    (own : c.draft.SelfContained q) :
    (∀ indent text, c.draft.sparql indent q = .ok text → c.draft.Presents indent q text) ∧
    (∀ v ∈ (c.draft.query q).form.projection, c.draft.IsComputed v →
      v.identifier.space = Vocabulary.queryVariable ∧
      ∀ w, c.draft.Matches q w → w.name = v.name →
        w.identifier.space ≠ Vocabulary.queryVariable) ∧
    (c.draft.query q).form.projection.Pairwise (fun v w =>
      v.name = w.name → v.identifier.space ≠ w.identifier.space) ∧
    (c.draft.NamesApart q →
      (∀ name, c.draft.Aliases q name → ¬ c.draft.Mentions q name) ∧
      ((c.draft.query q).form.projection.map (·.name)).Nodup) := by
  have identifiers : (c.draft.query q).form.projection.Pairwise
      (fun v w => v.identifier ≠ w.identifier) := List.pairwise_map.mp (h.nodup_projection there)
  refine ⟨fun indent text => Draft.presents_of_sparql select, ?_, ?_, ?_⟩
  · intro v member computed
    refine ⟨h.space_of_isComputed computed, fun w matched name => ?_⟩
    have query : w.query = v.query := (own.body w matched).trans (own.projection v member).symm
    exact h.space_ne_of_isComputed computed matched query name
  · exact identifiers.imp fun different name space => different (Variable.identifier_eq name space)
  · intro apart
    constructor
    · rintro name ⟨v, member, computed, rfl⟩ mentioned
      obtain ⟨w, matched, same⟩ := mentioned.exists_matches
      have plain := h.isPlain_of_matches matched
      have is : w = v := apart.eq_of_name (own.body w matched) (own.projection v member)
        plain.known?_ne_none (h.known?_projection there member) same
      subst is
      exact plain.not_isComputed computed
    · refine List.pairwise_map.mpr (identifiers.imp_of_mem fun {v w} hv hw different same => ?_)
      have is : v = w := apart.eq_of_name (own.projection v hv) (own.projection w hw)
        (h.known?_projection there hv) (h.known?_projection there hw) same
      exact different (congrArg Variable.identifier is)

def ofOtherSpace (name : String) : Variable := ⟨⟨0⟩, ⟨"http://example.org/#", name⟩⟩

def selecting (name : String) : List Operation :=
  [.newQuery false "SELECT", .internVariable ⟨0⟩ ("http://example.org/#" ++ name),
   .addPattern ⟨0⟩ (.entity (.variable (ofOtherSpace name))) (.literal (.text "p"))
     (.literal (.text "o")) .absent,
   .expression ⟨0⟩ (some "1 as ?x"),
   .project ⟨0⟩ [.entity (.variable (ofOtherSpace name)),
     .entity (.variable ⟨⟨0⟩, Edit.sharedIdentifier "x"⟩)]]

@[irreducible] def homonyms : Composition := start.replay (selecting "x")

@[irreducible] def heteronyms : Composition := start.replay (selecting "y")

theorem reachable_homonyms : homonyms.Reachable := by
  unfold homonyms
  exact reachable_replay (by decide +kernel)

theorem isSelect_homonyms : (homonyms.draft.query ⟨0⟩).form.IsSelect := by decide +kernel

theorem projection_homonyms : (homonyms.draft.query ⟨0⟩).form.projection =
    [ofOtherSpace "x", ⟨⟨0⟩, Edit.sharedIdentifier "x"⟩] := by decide +kernel

theorem isComputed_homonyms : homonyms.draft.IsComputed ⟨⟨0⟩, Edit.sharedIdentifier "x"⟩ :=
  ⟨"1", by unfold Draft.known?; decide +kernel⟩

theorem matches_homonyms : homonyms.draft.Matches ⟨0⟩ (ofOtherSpace "x") := by
  refine ⟨⟨0⟩, ?_, ?_⟩
  · have body : (homonyms.draft.query ⟨0⟩).body = ⟨0⟩ := by decide +kernel
    rw [body]
    exact .refl
  · decide +kernel

theorem selfContained_homonyms : homonyms.draft.SelfContained ⟨0⟩ :=
  reachable_homonyms.selfContained (by decide +kernel)

theorem same_name_other_space_homonyms :
    (homonyms.Reachable ∧ homonyms.draft.HasQuery ⟨0⟩ ∧
      (homonyms.draft.query ⟨0⟩).form.IsSelect ∧ homonyms.draft.SelfContained ⟨0⟩ ∧
      (ofOtherSpace "x").identifier.space ≠ Vocabulary.queryVariable) ∧
    (heteronyms.Reachable ∧ heteronyms.draft.HasQuery ⟨0⟩ ∧
      (heteronyms.draft.query ⟨0⟩).form.IsSelect ∧ heteronyms.draft.SelfContained ⟨0⟩ ∧
      heteronyms.draft.NamesApart ⟨0⟩ ∧
      ((heteronyms.draft.query ⟨0⟩).form.projection.map (·.name)).Nodup) := by
  constructor
  · have there : homonyms.draft.HasQuery ⟨0⟩ := by decide +kernel
    have other := same_name_other_space reachable_homonyms there isSelect_homonyms
      selfContained_homonyms
    have projected : ⟨⟨0⟩, Edit.sharedIdentifier "x"⟩ ∈
        (homonyms.draft.query ⟨0⟩).form.projection := by simp [projection_homonyms]
    exact ⟨reachable_homonyms, there, isSelect_homonyms, selfContained_homonyms,
      (other.2.1 _ projected isComputed_homonyms).2 _ matches_homonyms rfl⟩
  · have reachable : heteronyms.Reachable := by
      unfold heteronyms
      exact reachable_replay (by decide +kernel)
    have facts : heteronyms.draft.HasQuery ⟨0⟩ ∧ (heteronyms.draft.query ⟨0⟩).form.IsSelect ∧
        heteronyms.draft.queries.size = 1 ∧
        ((Entries.keys (heteronyms.draft.query ⟨0⟩).asked).map (·.name)).Nodup := by
      decide +kernel
    obtain ⟨there, select, only, apart⟩ := facts
    have own := reachable.selfContained only
    have different := same_name_other_space reachable there select own
    exact ⟨reachable, there, select, own, apart, (different.2.2.2 apart).2⟩

/-- A name can be an alias, a variable of the body and a column of its own at once. -/
theorem alias_of_matched_name :
    homonyms.Reachable ∧ (homonyms.draft.query ⟨0⟩).form.IsSelect ∧
      homonyms.draft.SelfContained ⟨0⟩ ∧
      homonyms.draft.Aliases ⟨0⟩ "x" ∧ homonyms.draft.Mentions ⟨0⟩ "x" ∧
      ¬ ((homonyms.draft.query ⟨0⟩).form.projection.map (·.name)).Nodup ∧
      (homonyms.draft.sparql standardIndent ⟨0⟩).toOption =
        some "SELECT ?x (1 AS ?x)\nWHERE \x7b\n  ?x \"p\" \"o\" .\n\x7d\n" := by
  refine ⟨reachable_homonyms, isSelect_homonyms, selfContained_homonyms, ?_, ?_, ?_, ?_⟩
  · exact ⟨_, by simp [projection_homonyms], isComputed_homonyms, rfl⟩
  · obtain ⟨g, below, x, member, among⟩ := matches_homonyms
    exact ⟨g, below, x, member, _, among, rfl⟩
  · simp [projection_homonyms, Variable.name, ofOtherSpace, Edit.sharedIdentifier]
  · decide +kernel

end Composition

end SparqlCompose
