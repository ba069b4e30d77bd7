import SparqlCompose.Proofs.Sharing.Operations

namespace SparqlCompose

open Edit

structure Draft.Searchable (q : QueryId) (d : Draft) : Prop where
  there : d.HasQuery q
  body : d.HasGroup (d.query q).body
  nested : d.WellNested

theorem Draft.Frame.searchable {q : QueryId} {d d' : Draft} (frame : d.Frame q d')
    (h : d.Searchable q) : d'.Searchable q where
  there := (frame.hasQuery q).mpr h.there
  body := by
    rw [frame.alike.body, frame.hasGroup]
    exact h.body
  nested := frame.wellNested h.nested

def Together (ν : Naming) (q : QueryId) {α β : Type} (ren : α → β) (e : Edit α) (E : Edit β) :
    Prop :=
  ∀ d D : Draft, d.Mirrors ν D → d.Searchable q → Paired ν d D ren (e.run d) (E.run D)

section Rules

variable {ν : Naming} {q : QueryId} {α β α' β' : Type} {ren : α → β} {ren' : α' → β'}

theorem Together.bind {e : Edit α} {E : Edit β} {k : α → Edit α'} {K : β → Edit β'}
    (first : Together ν q ren e E) (framed : e.Framed q)
    (rest : ∀ a, Together ν q ren' (k a) (K (ren a))) :
    Together ν q ren' (e >>= k) (E >>= K) := by
  intro d D h searchable
  refine (first d D h searchable).bind fun {a d' D'} run mirrors => rest a d' D' mirrors ?_
  have frame := framed d
  rw [run] at frame
  exact frame.searchable searchable

theorem Together.get {k : Draft → Edit α} {K : Draft → Edit β}
    (rest : ∀ d D : Draft, d.Mirrors ν D → d.Searchable q →
      Paired ν d D ren ((k d).run d) ((K D).run D)) :
    Together ν q ren (MonadState.get >>= k) (MonadState.get >>= K) :=
  fun d D h searchable => rest d D h searchable

theorem together_pure (ν : Naming) (q : QueryId) (ren : α → β) (a : α) :
    Together ν q ren (pure a) (pure (ren a)) :=
  fun _ _ h _ => .answered rfl (.refl h)

theorem together_log (ν : Naming) (q : QueryId) (level : Level) (message : String) :
    Together ν q (fun _ => ()) (log level message) (log level message) :=
  fun _ _ h _ => .answered rfl (.record h _ _)

theorem together_bindNamespace (ν : Naming) (q : QueryId) (label uri : String) :
    Together ν q (fun _ => ()) (bindNamespace q label uri)
      (bindNamespace (q.rename ν) label uri) :=
  fun _ _ h searchable => paired_bindNamespace h searchable.there label uri

theorem together_expression (ν : Naming) (q : QueryId) (text : Option String) :
    Together ν q (Variable.rename ν) (expression q text) (expression (q.rename ν) text) :=
  fun _ _ h searchable => paired_expression h searchable.there text

theorem together_addProjection (ν : Naming) (q : QueryId) (x : Operand) :
    Together ν q (fun _ => ()) (addProjection q x) (addProjection (q.rename ν) (x.rename ν)) :=
  fun _ _ h searchable => paired_addProjection h searchable.there x

theorem together_internVariable (ν : Naming) (q : QueryId) (text : String) :
    Together ν q (Variable.rename ν) (internVariable q text)
      (internVariable (q.rename ν) text) :=
  fun _ _ h searchable => paired_internVariable h searchable.there text

theorem together_internResource (ν : Naming) (q : QueryId) (text : String) :
    Together ν q (Resource.rename ν) (internResource q text)
      (internResource (q.rename ν) text) :=
  fun _ _ h searchable => paired_internResource h searchable.there text

theorem Together.forM {xs : List α} {f F : α → Edit Unit}
    (each : ∀ x ∈ xs, Together ν q (fun _ => ()) (f x) (F x))
    (framed : ∀ x ∈ xs, (f x).Framed q) :
    Together ν q (fun _ => ()) (xs.forM f) (xs.forM F) := by
  induction xs with
  | nil => exact together_pure ν q _ ()
  | cons x xs ih =>
    refine (each x (by simp)).bind (framed x (by simp)) fun _ => ?_
    exact ih (fun y member => each y (by simp [member])) fun y member => framed y (by simp [member])

end Rules

section Visits

variable (ν : Naming) (q : QueryId)

theorem Provider.together_addSiteFlag (p : Provider) :
    Together ν q (fun _ => ()) (p.addSiteFlag q) (p.addSiteFlag (q.rename ν)) := by
  refine (together_bindNamespace ν q _ _).bind (framed_bindNamespace q _ _) fun _ => ?_
  refine (together_expression ν q _).bind (framed_expression q _) fun flag => ?_
  exact together_addProjection ν q (.entity (.variable flag))

theorem Provider.together_visitQuery (p : Provider) (r : Request) :
    Together ν q (fun _ => ()) (p.visitQuery r q) (p.visitQuery r (q.rename ν)) := by
  refine (together_log ν q _ _).bind (framed_log q _ _) fun _ => ?_
  refine .get fun d D h searchable => ?_
  rw [h.query q searchable.there]
  cases form : (d.query q).form with
  | construct | formless =>
    simp only [Query.rename, form, Form.rename]
    exact .answered rfl (.refl h)
  | select distinct projection grouping =>
    simp only [Query.rename, form, Form.rename]
    refine (together_internVariable ν q _).bind (framed_internVariable q _) (fun site => ?_)
      d D h searchable
    refine (together_internResource ν q _).bind (framed_internResource q _) fun type => ?_
    refine (together_internResource ν q _).bind (framed_internResource q _) fun siteClass => ?_
    refine .get fun d D h searchable => ?_
    have body : (D.query (q.rename ν)).body = (d.query q).body.rename ν := by
      rw [h.query q searchable.there]
      rfl
    have found := h.find searchable.nested (.ofTerm (.variable site)) (.ofTerm (.resource type))
      (.ofTerm (.resource siteClass)) searchable.body
    simp only [Operand.rename_ofTerm, Term.rename] at found
    simp only [body, found, List.isEmpty_map]
    split
    · exact .answered rfl (.refl h)
    · exact p.together_addSiteFlag ν q d D h searchable

theorem Pipeline.together_reportVisit (r : Request) (m : Module) :
    Together ν q (fun _ => ()) (reportVisit r q m) (reportVisit r (q.rename ν) m) := by
  refine .get fun d D h searchable => ?_
  rw [h.query q searchable.there]
  cases form : (d.query q).form with
  | formless =>
    simp only [Query.rename, form, Form.rename]
    exact .failed (.refl h)
  | construct | select =>
    simp only [Query.rename, form, Form.rename]
    exact together_log ν q _ _ d D h searchable

theorem Pipeline.together_visitOf (r : Request) (x : Provider) :
    Together ν q (fun _ => ()) (visitOf r q x) (visitOf r (q.rename ν) x) :=
  (together_reportVisit ν q r _).bind (framed_reportVisit r q _) fun _ => x.together_visitQuery ν q r

theorem Pipeline.OfProviders.together_visitQuery {p : Pipeline} {ps : List Provider}
    (made : p.OfProviders ps) (r : Request) :
    Together ν q (fun _ => ()) (p.visitQuery r q) (p.visitQuery r (q.rename ν)) := by
  rw [made.visitQuery_eq, made.visitQuery_eq]
  exact .forM (fun x _ => together_visitOf ν q r x) fun x _ => framed_visitOf r q x

end Visits

namespace Composition

/-- The first composition stands in the second one, under the names of the naming. -/
structure Within (ν : Naming) (c C : Composition) : Prop where
  mirrors : c.draft.Mirrors ν C.draft
  patterns : ∀ x ∈ c.patterns, x.rename ν ∈ C.patterns

variable {ν : Naming} {c C : Composition} {p : Pipeline} {ps : List Provider}

theorem Within.holds (h : c.Within ν C) {e : Entity} (held : c.Holds e) : C.Holds (e.rename ν) := by
  cases e with
  | «variable» v =>
    refine ⟨(h.mirrors.hasQuery _).mpr held.1, ?_⟩
    have query := h.mirrors.query _ held.1
    exact (congrArg (v.identifier ∈ Entries.keys ·.asked) query).mpr held.2
  | resource r =>
    refine ⟨(h.mirrors.hasQuery _).mpr held.1, ?_⟩
    have query := h.mirrors.query _ held.1
    exact (congrArg (r.identifier ∈ ·.resources) query).mpr held.2
  | blank b =>
    refine ⟨(h.mirrors.hasQuery _).mpr held.1, ?_⟩
    have query := h.mirrors.query _ held.1
    exact (congrArg (b.index < ·.blanks) query).mpr held.2
  | pattern x => exact h.patterns x held
  | group g => exact (h.mirrors.hasGroup g).mpr held
  | bare serial => exact (h.mirrors.has .serials serial).mpr held
  | query q => exact (h.mirrors.hasQuery q).mpr held

theorem Within.offers (h : c.Within ν C) {x : Operand} (offered : c.Offers x) :
    C.Offers (x.rename ν) := by
  cases x with
  | entity e => exact h.holds offered
  | _ => trivial

theorem Within.fits (h : c.Within ν C) {s : Step} (fits : s.Fits c) : (s.rename ν).Fits C := by
  have query := fun q => (h.mirrors.hasQuery q).mpr
  have group := fun g => (h.mirrors.hasGroup g).mpr
  cases s with
  | visit r q => exact query q fits
  | operation o =>
    cases o with
    | newQuery | newFormless | newGraph | newOptional | newPlain | newBare | report => trivial
    | internVariable q | internResource q | newBlank q | expression q | internGraph q
    | bindNamespace q | setDistinct q | sparql _ q => exact query q fits
    | newPattern s v o g =>
      exact ⟨h.offers fits.1, h.offers fits.2.1, h.offers fits.2.2.1, h.offers fits.2.2.2⟩
    | addPattern g₀ s v o g =>
      exact ⟨group g₀ fits.1, h.offers fits.2.1, h.offers fits.2.2.1, h.offers fits.2.2.2.1,
        h.offers fits.2.2.2.2⟩
    | find g s v o =>
      exact ⟨group g fits.1, h.offers fits.2.1, h.offers fits.2.2.1, h.offers fits.2.2.2⟩
    | addElement g thing =>
      refine ⟨group g fits.1, fun e member => ?_⟩
      obtain ⟨e₀, same, rfl⟩ := Option.map_eq_some_iff.mp member
      exact h.holds (fits.2 e₀ same)
    | project q xs =>
      refine ⟨query q fits.1, fun x member => ?_⟩
      obtain ⟨x₀, among, rfl⟩ := List.mem_map.mp member
      exact h.offers (fits.2 x₀ among)
    | addProjection q x => exact ⟨query q fits.1, h.offers fits.2⟩
    | groupBy q e => exact ⟨query q fits.1, h.holds fits.2⟩

theorem newPatterns_rename (a : Answer) :
    newPatterns (a.rename ν) = (newPatterns a).map (·.rename ν) := by
  cases a with
  | entity e => cases e <;> rfl
  | _ => rfl

theorem mem_patterns_step {x : Pattern} (s : Step) (there : x ∈ C.patterns) :
    x ∈ (C.step p s).patterns := by
  cases s with
  | visit => exact there
  | operation o =>
    rw [step, after]
    split
    · exact List.mem_append_left _ there
    · exact there

/-- A step gives the same within another composition, and what it leads to stands within what it
leads to there. -/
theorem Within.step (h : c.Within ν C) (made : p.OfProviders ps) (reachable : c.Reachable)
    {s : Step} (fits : s.Fits c) (meets : ν.Meets c.draft (c.step p s).draft C.draft) :
    C.result p (s.rename ν) = (c.result p s).map (Answer.rename ν) ∧
      (c.step p s).Within ν (C.step p (s.rename ν)) ∧
      c.draft.Follows ν C.draft (c.step p s).draft (C.step p (s.rename ν)).draft := by
  have nested := reachable.wellNested
  have rooted := reachable.rooted_changes.1
  cases s with
  | visit r q =>
    have searchable : c.draft.Searchable q :=
      ⟨fits, rooted q fits _ (Query.body_mem_roots _), nested⟩
    have paired := made.together_visitQuery ν q r _ _ h.mirrors searchable
    have follows := paired.follows
    refine ⟨?_, ⟨follows.mirrors, h.patterns⟩, follows⟩
    simp only [Step.rename, result]
    generalize (p.visitQuery r q).run c.draft = R₀ at paired
    generalize (p.visitQuery r (q.rename ν)).run C.draft = R at paired
    cases paired <;> rfl
  | operation o =>
    simp only [Step.rename, result, outcome, Composition.step, after] at meets ⊢
    have paired := o.paired h.mirrors nested rooted fits
    generalize o.run.run c.draft = R₀ at meets paired ⊢
    generalize (o.rename ν).run.run C.draft = R at paired ⊢
    cases R₀ with
    | error e d =>
      cases paired meets with
      | failed follows => exact ⟨rfl, ⟨follows.mirrors, h.patterns⟩, follows⟩
    | ok a d =>
      cases paired meets with
      | answered same follows =>
        subst same
        have patterns : ∀ x ∈ c.patterns ++ newPatterns a,
            x.rename ν ∈ C.patterns ++ newPatterns (a.rename ν) := by
          intro x member
          rw [newPatterns_rename]
          rcases List.mem_append.mp member with old | new
          · exact List.mem_append_left _ (h.patterns x old)
          · exact List.mem_append_right _ (List.mem_map_of_mem new)
        exact ⟨rfl, ⟨follows.mirrors, patterns⟩, follows⟩

end Composition

end SparqlCompose
