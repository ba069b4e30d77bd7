import SparqlCompose.Proofs.Composition.History
import SparqlCompose.Proofs.Draft.Growth
import SparqlCompose.Proofs.Nesting.Acyclic
import SparqlCompose.Proofs.Search.Matching
import SparqlCompose.Proofs.Search.Walk
import SparqlCompose.Proofs.Variables.Plain

namespace SparqlCompose

namespace Draft

def Suits (d : Draft) (s v o : Operand) (g : GroupId) : Prop :=
  ∃ x ∈ (d.group g).patterns, x.Suits s v o

variable {d d' : Draft} {g inner found : GroupId} {s v o : Operand}

theorem any_answers_iff_suits (forms : ∀ x ∈ (d.group found).patterns, x.IsCanonical)
    (hs : s.IsCanonical) (hv : v.IsCanonical) (ho : o.IsCanonical) :
    (d.group found).patterns.any (·.answers s v o) = true ↔ d.Suits s v o found := by
  rw [List.any_eq_true]
  exact exists_congr fun x => and_congr_right fun member =>
    Pattern.answers_iff_suits (forms x member) hs hv ho

theorem Grows.encloses (h : d.Grows d') (below : d.Encloses g inner) : d'.Encloses g inner :=
  Relation.ReflTransGen.mono (fun outer _ edge => (h.groups outer).subset edge) _ _ below

section Bounded

variable {n : Nat} (bounded : d.Bounded n g)
include bounded

theorem Bounded.exists_ways (s v o : Operand) : ∃ ways : List (List Nat),
    ways.Pairwise (· < ·) ∧
    (∀ way, way ∈ ways ↔ ∃ found, d.follow g way = some found ∧
      (d.group found).patterns.any (·.answers s v o) = true) ∧
    (d.findBelow s v o n g).map some = ways.map (d.follow g) := by
  let visits := (d.walk n g).filter fun visit => (d.group visit.2).patterns.any (·.answers s v o)
  refine ⟨visits.map Prod.fst, ?_, ?_, ?_⟩
  · exact List.pairwise_map.mpr ((pairwise_walk d n g).filter _)
  · intro way
    constructor
    · intro member
      obtain ⟨⟨_, found⟩, among, rfl⟩ := List.mem_map.mp member
      obtain ⟨walked, has⟩ := List.mem_filter.mp among
      exact ⟨found, bounded.mem_walk.mp walked, has⟩
    · rintro ⟨found, followed, has⟩
      exact List.mem_map.mpr
        ⟨(way, found), List.mem_filter.mpr ⟨bounded.mem_walk.mpr followed, has⟩, rfl⟩
  · rw [findBelow_eq_walk]
    simp only [List.map_map]
    apply List.map_congr_left
    rintro ⟨way, found⟩ among
    exact (bounded.mem_walk.mp (List.mem_filter.mp among).1).symm

theorem Bounded.count_findBelow (s v o : Operand) (found : GroupId)
    (has : (d.group found).patterns.any (·.answers s v o) = true) :
    (d.findBelow s v o n g).count found = {way | d.follow g way = some found}.ncard := by
  rw [(bounded.ncard_ways found).2, findBelow_eq_walk, List.count_eq_countP, List.count_eq_countP,
    List.countP_map, List.countP_map, List.countP_filter]
  apply List.countP_congr
  rintro ⟨way, last⟩ -
  simp only [Function.comp_apply, Bool.and_eq_true, beq_iff_eq, and_iff_left_iff_imp]
  rintro rfl
  exact has

end Bounded

end Draft

namespace Operation

def making : Operation → List Operand
  | .newPattern s v o _ | .addPattern _ s v o _ => [s, v, o]
  | _ => []

def IsCanonical (op : Operation) : Prop := ∀ x ∈ op.making, x.IsCanonical

instance : DecidablePred IsCanonical := fun op =>
  inferInstanceAs (Decidable (∀ x ∈ op.making, x.IsCanonical))

end Operation

namespace Composition

variable {c : Composition} {g inner : GroupId} {x : Pattern} {s v o w : Operand}

theorem Reachable.mem_find_of_recalls (h : c.Reachable) (there : c.draft.HasGroup g)
    (below : c.draft.Encloses g inner) (member : x ∈ (c.draft.group inner).patterns)
    (subject : s.Recalls x.subject) (predicate : v.Recalls x.predicate)
    (object : o.Recalls x.object) : inner ∈ c.draft.find g s v o := by
  refine (h.wellNested.mem_find there).mpr ⟨below, List.any_eq_true.mpr ⟨x, member, ?_⟩⟩
  simp only [Pattern.answers, subject.accepts, predicate.accepts, object.accepts, Bool.and_self]

theorem terms_of_patternFor {d : Draft} {serial : Nat}
    (made : d.patternFor serial s v o w = .ok x) :
    s.term? = some x.subject ∧ v.term? = some x.predicate ∧ o.term? = some x.object := by
  obtain ⟨s', subject, made⟩ := exists_of_bind_eq_ok made
  obtain ⟨v', predicate, made⟩ := exists_of_bind_eq_ok made
  obtain ⟨o', object, made⟩ := exists_of_bind_eq_ok made
  obtain ⟨w', -, made⟩ := exists_of_bind_eq_ok made
  cases made
  exact ⟨(Draft.termFor_eq_ok subject).1, (Draft.termFor_eq_ok predicate).1,
    (Draft.termFor_eq_ok object).1⟩

theorem added_pattern (there : c.draft.HasGroup inner)
    (added : c.outcome (.addPattern inner s v o w) = .ok (.entity (.pattern x))) :
    (s.term? = some x.subject ∧ v.term? = some x.predicate ∧ o.term? = some x.object) ∧
      x ∈ ((c.after (.addPattern inner s v o w)).draft.group inner).patterns := by
  rw [outcome, Operation.run, EStateM.run_bind, Edit.run_addPattern] at added
  rw [after, Operation.run, EStateM.run_bind, Edit.run_addPattern]
  cases made : c.draft.patternFor c.draft.serial s v o w with
  | error e =>
    rw [made] at added
    cases added
  | ok p =>
    rw [made] at added
    cases added
    have here : c.draft.advance.HasGroup inner := there
    refine ⟨terms_of_patternFor made, ?_⟩
    simp only [EStateM.run_pure, Draft.group_append _ _ _ here, if_true, Group.patterns,
      List.filterMap_append, List.mem_append]
    exact .inr (List.mem_singleton.mpr rfl)

theorem forms_after_making {op : Operation} (made : Except Failure Pattern) (left : Pattern → Draft)
    (run : op.run.run c.draft =
      match made with
      | .ok x => .ok (.entity (.pattern x)) (left x)
      | .error e => .error e c.draft)
    (forms : ∀ x ∈ c.patterns, x.IsCanonical) (new : ∀ x, made = .ok x → x.IsCanonical) :
    ∀ x ∈ (c.after op).patterns, x.IsCanonical := by
  intro x member
  rw [after, run] at member
  cases made with
  | error e => exact forms x member
  | ok y =>
    rcases List.mem_append.mp member with old | last
    · exact forms x old
    · rw [List.mem_singleton.mp last]
      exact new y rfl

theorem forms_after {op : Operation} (forms : ∀ x ∈ c.patterns, x.IsCanonical)
    (canonical : op.IsCanonical) : ∀ x ∈ (c.after op).patterns, x.IsCanonical := by
  have new : ∀ {s v o : Operand} (w : Operand), (∀ y ∈ [s, v, o], y.IsCanonical) →
      ∀ x, c.draft.patternFor c.draft.serial s v o w = .ok x → x.IsCanonical := by
    intro s v o w all x made
    obtain ⟨subject, predicate, object⟩ := terms_of_patternFor made
    exact ⟨all s (by simp) _ subject, all v (by simp) _ predicate, all o (by simp) _ object⟩
  cases op with
  | newPattern s v o w =>
    refine forms_after_making (c.draft.patternFor c.draft.serial s v o w) (fun _ => c.draft.advance)
      ?_ forms (new w canonical)
    rw [Operation.run, EStateM.run_bind, Edit.run_newPattern]
    cases c.draft.patternFor c.draft.serial s v o w <;> rfl
  | addPattern group s v o w =>
    refine forms_after_making (c.draft.patternFor c.draft.serial s v o w)
      (fun x => c.draft.advance.append group (.pattern x)) ?_ forms (new w canonical)
    rw [Operation.run, EStateM.run_bind, Edit.run_addPattern]
    cases c.draft.patternFor c.draft.serial s v o w <;> rfl
  | find | newBare =>
    rw [after_of_ok rfl rfl]
    exact forms
  | _ =>
    rw [after_eq_left rfl fun _ => rfl]
    exact forms

theorem forms_replay {ops : List Operation} (canonical : ∀ op ∈ ops, op.IsCanonical)
    (forms : ∀ x ∈ c.patterns, x.IsCanonical) : ∀ x ∈ (c.replay ops).patterns, x.IsCanonical := by
  induction ops generalizing c with
  | nil => exact forms
  | cons op rest ih =>
    exact ih (fun later member => canonical later (by simp [member]))
      (forms_after forms (canonical op (by simp)))

/-- A pattern that was added below a group is found from there ever after. -/
theorem Reachable.mem_find_of_added (h : c.Reachable) (there : c.draft.HasGroup g)
    (below : c.draft.Encloses g inner) {a b e : Operand}
    (fits : (Operation.addPattern inner a b e w).Fits c)
    (added : c.outcome (.addPattern inner a b e w) = .ok (.entity (.pattern x))) {c' : Composition}
    (later : Relation.ReflTransGen Next (c.after (.addPattern inner a b e w)) c')
    (subject : s.Recalls x.subject) (predicate : v.Recalls x.predicate)
    (object : o.Recalls x.object) : inner ∈ c'.draft.find g s v o := by
  have next : Next c (c.after (.addPattern inner a b e w)) := ⟨_, fits, rfl⟩
  have made : (c.after (.addPattern inner a b e w)).Reachable := h.tail next
  have growth := (h.changes (.head next later)).grows
  have kept := (made.changes later).grows
  have reached : c'.Reachable := .trans made later
  have stands : x ∈ (c'.draft.group inner).patterns :=
    (kept.patterns inner).subset (added_pattern fits.1 added).2
  exact reached.mem_find_of_recalls (growth.hasGroup there) (growth.encloses below) stands subject
    predicate object

theorem outcome_find (c : Composition) (g : GroupId) (s v o : Operand) :
    c.outcome (.find g s v o) = .ok (.groups (c.draft.find g s v o)) :=
  rfl

/-- A search goes all ways down from its group, in the order of dictionaries, and answers with the
ends of those that lead to a pattern it asks for: a group comes up once for each way to it, or
never. Terms are asked for as `Term.Meets` says, and literals only by literals of their kind; floats
are taken in the one form in which they are read. A pattern that was added anywhere below the group
is found by its own terms, or fewer, ever after. -/
theorem search_exact {c : Composition} (h : c.Reachable) (forms : ∀ x ∈ c.patterns, x.IsCanonical)
    {g : GroupId} (there : c.draft.HasGroup g) {s v o : Operand} (hs : s.IsCanonical)
    (hv : v.IsCanonical) (ho : o.IsCanonical) :
    ∃ found, c.outcome (.find g s v o) = .ok (.groups found) ∧
      (∃ ways : List (List Nat), ways.Pairwise (· < ·) ∧
        (∀ way, way ∈ ways ↔
          ∃ inner, c.draft.follow g way = some inner ∧ c.draft.Suits s v o inner) ∧
        found.map some = ways.map (c.draft.follow g)) ∧
      (∀ inner, {way | c.draft.follow g way = some inner}.Finite ∧
        (c.draft.Suits s v o inner →
          found.count inner = {way | c.draft.follow g way = some inner}.ncard) ∧
        (¬c.draft.Suits s v o inner → inner ∉ found)) ∧
      (∀ stored wanted : Term, stored.IsCanonical → wanted.IsCanonical →
        (stored.answers wanted = true ↔ stored.Meets wanted)) ∧
      (∀ k l : Literal, (Term.literal k).Meets (.literal l) → k.kind = l.kind) ∧
      ∀ inner a b e w x, c.draft.Encloses g inner →
        (Operation.addPattern inner a b e w).Fits c →
        c.outcome (.addPattern inner a b e w) = .ok (.entity (.pattern x)) →
        (a.term? = some x.subject ∧ b.term? = some x.predicate ∧ e.term? = some x.object) ∧
        ∀ c', Relation.ReflTransGen Next (c.after (.addPattern inner a b e w)) c' →
          ∀ s v o : Operand, s.Recalls x.subject → v.Recalls x.predicate → o.Recalls x.object →
            ∃ found, c'.outcome (.find g s v o) = .ok (.groups found) ∧ inner ∈ found := by
  have bounded := h.wellNested.bounded there
  have suits : ∀ inner, (c.draft.group inner).patterns.any (·.answers s v o) = true ↔
      c.draft.Suits s v o inner := fun inner =>
    Draft.any_answers_iff_suits (fun x member => forms x (h.patterns_made inner x member)) hs hv ho
  refine ⟨_, c.outcome_find g s v o, ?_, ?_, fun _ _ => Term.answers_iff_meets, ?_, ?_⟩
  · simp only [← suits]
    exact bounded.exists_ways s v o
  · intro inner
    refine ⟨(bounded.ncard_ways inner).1, fun has => ?_, fun without member => ?_⟩
    · exact bounded.count_findBelow s v o inner ((suits inner).mpr has)
    · exact without ((suits inner).mp ((h.wellNested.mem_find there).mp member).2)
  · rintro k l (_ | _ | _ | _ | _ | _ | _) <;> rfl
  · intro inner a b e w x below fits added
    refine ⟨(added_pattern fits.1 added).1, fun c' later s v o subject predicate object => ?_⟩
    exact ⟨_, c'.outcome_find g s v o,
      h.mem_find_of_added there below fits added later subject predicate object⟩

def addingFact (g : GroupId) (l : Literal) : Operation :=
  .addPattern g (.literal (.text "s")) (.literal (.text "p")) (.literal l) .absent

def sharedGroup : List Operation :=
  [.newQuery false "SELECT", .newOptional, .newPlain, .addElement ⟨0⟩ (some (.group ⟨1⟩)),
   .addElement ⟨1⟩ (some (.group ⟨2⟩)), .addElement ⟨1⟩ (some (.group ⟨2⟩)),
   addingFact ⟨2⟩ (.integer 1), addingFact ⟨0⟩ (.boolean true)]

/-- Both ways lead to the pattern about one, and the search passes by the pattern about truth. A
pattern about the float is found once it is there. -/
theorem search_exact_sharedGroup :
    start.Admits sharedGroup ∧
      ∃ found, (start.replay sharedGroup).outcome
          (.find ⟨0⟩ .absent .absent (.literal (.integer 1))) = .ok (.groups found) ∧
        found.count ⟨2⟩ =
          {way | (start.replay sharedGroup).draft.follow ⟨0⟩ way = some ⟨2⟩}.ncard ∧
        ⟨0⟩ ∉ found ∧
        ∃ later, ((start.replay sharedGroup).after
            (addingFact ⟨2⟩ (.float (.finite false (2 ^ 52) (-52))))).outcome
          (.find ⟨0⟩ .absent .absent (.literal (.float (.finite false (2 ^ 52) (-52))))) =
            .ok (.groups later) ∧ ⟨2⟩ ∈ later := by
  have facts : start.Admits sharedGroup ∧ (start.replay sharedGroup).draft.HasGroup ⟨0⟩ ∧
      (addingFact ⟨2⟩ (.float (.finite false (2 ^ 52) (-52)))).Fits (start.replay sharedGroup) := by
    decide +kernel
  obtain ⟨admits, there, fits⟩ := facts
  have forms : ∀ x ∈ (start.replay sharedGroup).patterns, x.IsCanonical :=
    forms_replay (by decide) (by simp [start])
  have reached := reachable_replay admits
  obtain ⟨found, answered, -, counts, -, -, added⟩ :=
    search_exact reached forms there (s := .absent) (v := .absent) (o := .literal (.integer 1))
      (by decide) (by decide) (by decide)
  have suits : ∀ g, ((start.replay sharedGroup).draft.group g).patterns.any
        (·.answers .absent .absent (.literal (.integer 1))) = true ↔
      (start.replay sharedGroup).draft.Suits .absent .absent (.literal (.integer 1)) g := fun g =>
    Draft.any_answers_iff_suits (fun x member => forms x (reached.patterns_made g x member))
      (by decide) (by decide) (by decide)
  have below : (start.replay sharedGroup).draft.Encloses ⟨0⟩ ⟨2⟩ :=
    (Draft.encloses_iff_exists_follow _ _).mpr ⟨[0, 1], by decide +kernel⟩
  refine ⟨admits, found, answered, (counts ⟨2⟩).2.1 ((suits _).mp (by decide +kernel)),
    (counts ⟨0⟩).2.2 ((suits _).not.mp (by decide +kernel)), ?_⟩
  obtain ⟨-, ever⟩ := added ⟨2⟩ _ _ _ _ ⟨2, .literal (.text "s"), .literal (.text "p"), _, none⟩
    below fits rfl
  exact ever _ .refl _ _ _ (.inl rfl) (.inl rfl) (.inr ⟨rfl, by decide⟩)

end Composition

end SparqlCompose
