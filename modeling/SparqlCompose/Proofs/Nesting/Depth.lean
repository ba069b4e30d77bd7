import Mathlib.Data.List.Basic
import Mathlib.Data.List.Nodup
import Mathlib.Logic.Relation
import SparqlCompose.Proofs.Draft.Access
import SparqlCompose.Proofs.Results
import SparqlCompose.Draft.Sparql

namespace SparqlCompose.Draft

def Contains (d : Draft) (outer inner : GroupId) : Prop := inner ∈ (d.group outer).groups

/-- The inner group is the outer one or stands in it at some depth. -/
def Encloses (d : Draft) : GroupId → GroupId → Prop := Relation.ReflTransGen d.Contains

def Acyclic (d : Draft) : Prop := ∀ g, ¬ Relation.TransGen d.Contains g g

def Closed (d : Draft) : Prop := ∀ outer inner, d.Contains outer inner → d.HasGroup inner

/-- Every way down from the group passes at most so many groups. -/
def Bounded (d : Draft) : Nat → GroupId → Prop
  | 0, _ => False
  | n + 1, g => ∀ inner, d.Contains g inner → d.Bounded n inner

variable {d : Draft}

theorem Bounded.mono {n m : Nat} {g : GroupId} (h : d.Bounded n g) (le : n ≤ m) :
    d.Bounded m g := by
  induction n generalizing m g with
  | zero => exact h.elim
  | succ n ih =>
    obtain ⟨m, rfl⟩ : ∃ k, m = k + 1 := ⟨m - 1, by omega⟩
    exact fun inner below => ih (h inner below) (by omega)

theorem length_le_depth {gs : List GroupId} (different : gs.Nodup)
    (there : ∀ g ∈ gs, d.HasGroup g) : gs.length ≤ d.depth := by
  have indices : (gs.map GroupId.index).Nodup := by
    apply different.map
    intro a b same
    cases a
    cases b
    exact congrArg GroupId.mk same
  have covered : gs.map GroupId.index ⊆ List.range d.groups.size := by
    intro i member
    obtain ⟨g, hg, rfl⟩ := List.mem_map.mp member
    exact List.mem_range.mpr (there g hg)
  simpa [depth] using indices.length_le_of_subset covered

theorem bounded_of_passed (acyclic : d.Acyclic) (closed : d.Closed) (n : Nat) :
    ∀ (passed : List GroupId) (g : GroupId), passed.length + n = d.depth → passed.Nodup →
      (∀ p ∈ passed, d.HasGroup p) → (∀ p ∈ passed, Relation.TransGen d.Contains p g) →
      d.HasGroup g → d.Bounded n g := by
  induction n with
  | zero =>
    -- as many groups were passed as there are, and this is one more
    intro passed g size different there above here
    have fresh : g ∉ passed := fun member => acyclic g (above g member)
    have more := length_le_depth (List.nodup_cons.mpr ⟨fresh, different⟩)
      (List.forall_mem_cons.mpr ⟨here, there⟩)
    simp only [List.length_cons] at more
    omega
  | succ n ih =>
    intro passed g size different there above here inner below
    have fresh : g ∉ passed := fun member => acyclic g (above g member)
    apply ih (g :: passed) inner (by simp only [List.length_cons]; omega)
      (List.nodup_cons.mpr ⟨fresh, different⟩) (List.forall_mem_cons.mpr ⟨here, there⟩)
    · exact List.forall_mem_cons.mpr ⟨.single below, fun p member => (above p member).tail below⟩
    · exact closed g inner below

theorem bounded_depth (acyclic : d.Acyclic) (closed : d.Closed) {g : GroupId}
    (here : d.HasGroup g) : d.Bounded d.depth g :=
  bounded_of_passed acyclic closed d.depth [] g (by simp) .nil nofun nofun here

theorem Bounded.acc {n : Nat} {g : GroupId} (h : d.Bounded n g) :
    Acc (fun inner outer => d.Contains outer inner) g := by
  induction n generalizing g with
  | zero => exact h.elim
  | succ n ih => exact .intro g fun inner below => ih (h inner below)

theorem encloses_iff (outer target : GroupId) :
    d.Encloses outer target ↔ outer = target ∨ ∃ inner, d.Contains outer inner ∧
      d.Encloses inner target := by
  constructor
  · intro h
    rcases Relation.ReflTransGen.cases_head h with same | ⟨inner, below, rest⟩
    · exact .inl same
    · exact .inr ⟨inner, below, rest⟩
  · rintro (rfl | ⟨inner, below, rest⟩)
    · exact .refl
    · exact .head below rest

theorem Bounded.reaches_iff {n : Nat} {target g : GroupId} (h : d.Bounded n g) :
    d.reaches target n g = true ↔ d.Encloses g target := by
  induction n generalizing g with
  | zero => exact h.elim
  | succ n ih =>
    rw [encloses_iff, reaches, Bool.or_eq_true, beq_iff_eq, List.any_eq_true]
    constructor
    · rintro (same | ⟨inner, below, reached⟩)
      · exact .inl same
      · exact .inr ⟨inner, below, (ih (h inner below)).mp reached⟩
    · rintro (same | ⟨inner, below, reached⟩)
      · exact .inl same
      · exact .inr ⟨inner, below, (ih (h inner below)).mpr reached⟩

theorem Bounded.mem_findBelow {n : Nat} {g found : GroupId} {s v o : Operand}
    (h : d.Bounded n g) :
    found ∈ d.findBelow s v o n g ↔
      d.Encloses g found ∧ (d.group found).patterns.any (·.answers s v o) = true := by
  induction n generalizing g with
  | zero => exact h.elim
  | succ n ih =>
    rw [encloses_iff, findBelow, List.mem_append, List.mem_flatMap]
    constructor
    · rintro (here | ⟨inner, below, deeper⟩)
      · split at here
        · rename_i answered
          rw [List.mem_singleton.mp here]
          exact ⟨.inl rfl, answered⟩
        · cases here
      · have found := (ih (h inner below)).mp deeper
        exact ⟨.inr ⟨inner, below, found.1⟩, found.2⟩
    · rintro ⟨rfl | ⟨inner, below, rest⟩, answered⟩
      · exact .inl (by simp [answered])
      · exact .inr ⟨inner, below, (ih (h inner below)).mpr ⟨rest, answered⟩⟩

theorem Bounded.reaches_eq {n m : Nat} {target g : GroupId} (h : d.Bounded n g) (le : n ≤ m) :
    d.reaches target m g = d.reaches target n g := by
  rw [Bool.eq_iff_iff, (h.mono le).reaches_iff, h.reaches_iff]

theorem Bounded.findBelow_eq {n m : Nat} {g : GroupId} {s v o : Operand} (h : d.Bounded n g)
    (le : n ≤ m) : d.findBelow s v o m g = d.findBelow s v o n g := by
  induction n generalizing m g with
  | zero => exact h.elim
  | succ n ih =>
    obtain ⟨m, rfl⟩ : ∃ k, m = k + 1 := ⟨m - 1, by omega⟩
    have deeper : (d.group g).groups.flatMap (d.findBelow s v o m) =
        (d.group g).groups.flatMap (d.findBelow s v o n) :=
      List.flatMap_congr fun inner below => ih (h inner below) (by omega)
    rw [findBelow, findBelow, deeper]

theorem Bounded.lines_eq {indent : String} {n m level : Nat} {g : GroupId} (h : d.Bounded n g)
    (le : n ≤ m) : d.lines indent m level g = d.lines indent n level g := by
  induction n generalizing m level g with
  | zero => exact h.elim
  | succ n ih =>
    obtain ⟨m, rfl⟩ : ∃ k, m = k + 1 := ⟨m - 1, by omega⟩
    rw [lines, lines]
    congr 1
    apply mapM_congr
    intro e member
    cases e with
    | pattern p => rfl
    | stray thing => rfl
    | group inner =>
      have below : d.Contains g inner := List.mem_filterMap.mpr ⟨_, member, rfl⟩
      have same : d.lines indent m (level + 1) inner = d.lines indent n (level + 1) inner :=
        ih (h inner below) (by omega)
      simp only [same]

section Writing

variable {e : Failure} (writable : ∀ iri, e ≠ .unwritableIri iri)
include writable

theorem written_ne_error (t : Term) : t.written ≠ .error e := by
  cases t with
  | resource r =>
    simp only [Term.written, writeIri]
    split
    · exact nofun
    · intro same
      cases same
      exact writable _ rfl
  | _ => exact nofun

theorem writtenScope_ne_error (t : Term) : t.writtenScope ≠ .error e := by
  unfold Term.writtenScope
  split
  · exact nofun
  · exact written_ne_error writable t

theorem patternWritten_ne_error (p : Pattern) : p.written ≠ .error e := by
  unfold Pattern.written
  apply bind_ne_error (written_ne_error writable p.subject)
  intro s
  apply bind_ne_error (written_ne_error writable p.predicate)
  intro v
  apply bind_ne_error (written_ne_error writable p.object)
  intro o
  cases p.graph with
  | none => exact nofun
  | some g => exact bind_ne_error (writtenScope_ne_error writable g) nofun

theorem lines_ne_error (known : ∀ kind, e ≠ .invalid (.strayElement kind)) {indent : String}
    {n level : Nat} {g : GroupId} (bounded : e = .tooDeep → d.Bounded n g) :
    d.lines indent n level g ≠ .error e := by
  induction n generalizing level g with
  | zero =>
    intro same
    cases same
    exact (bounded rfl).elim
  | succ n ih =>
    rw [lines]
    refine bind_ne_error (mapM_ne_error ?_) nofun
    intro x member
    cases x with
    | pattern p => exact bind_ne_error (patternWritten_ne_error writable p) nofun
    | stray thing =>
      intro same
      cases same
      exact known _ rfl
    | group inner =>
      have below : d.Contains g inner := List.mem_filterMap.mpr ⟨_, member, rfl⟩
      exact bind_ne_error (ih fun deep => bounded deep inner below) nofun

end Writing

/-- Where the bound suffices, a group is written whole or for what stands in it refused. -/
theorem Bounded.lines_ne_tooDeep {indent : String} {n level : Nat} {g : GroupId}
    (h : d.Bounded n g) : d.lines indent n level g ≠ .error .tooDeep := by
  apply lines_ne_error
  · exact fun _ => nofun
  · exact fun _ => nofun
  · exact fun _ => h

end SparqlCompose.Draft
