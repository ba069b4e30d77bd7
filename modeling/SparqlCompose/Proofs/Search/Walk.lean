import Mathlib.Data.Set.Card
import SparqlCompose.Proofs.Nesting.Depth

namespace SparqlCompose.Draft

def follow (d : Draft) : GroupId → List Nat → Option GroupId
  | g, [] => some g
  | g, place :: way => (d.group g).groups[place]?.bind fun inner => d.follow inner way

/-- The ways down from a group, at most so many groups long, with their ends. -/
def walk (d : Draft) : Nat → GroupId → List (List Nat × GroupId)
  | 0, _ => []
  | n + 1, g =>
    ([], g) :: (d.group g).groups.zipIdx.flatMap fun inner =>
      (d.walk n inner.1).map fun visit => (inner.2 :: visit.1, visit.2)

variable {d : Draft} {n : Nat} {g : GroupId}

theorem encloses_iff_exists_follow (outer inner : GroupId) :
    d.Encloses outer inner ↔ ∃ way, d.follow outer way = some inner := by
  constructor
  · intro h
    induction h using Relation.ReflTransGen.head_induction_on with
    | refl => exact ⟨[], rfl⟩
    | head edge _ ih =>
      obtain ⟨way, rest⟩ := ih
      obtain ⟨place, here⟩ := List.mem_iff_getElem?.mp edge
      exact ⟨place :: way, by rw [follow, here, Option.bind_some, rest]⟩
  · rintro ⟨way, h⟩
    induction way generalizing outer with
    | nil =>
      cases h
      exact .refl
    | cons place way ih =>
      obtain ⟨between, here, rest⟩ := Option.bind_eq_some_iff.mp h
      exact .head (List.mem_of_getElem? here) (ih between rest)

theorem Bounded.mem_walk (h : d.Bounded n g) {way : List Nat} {found : GroupId} :
    (way, found) ∈ d.walk n g ↔ d.follow g way = some found := by
  induction n generalizing g way with
  | zero => exact h.elim
  | succ n ih =>
    cases way with
    | nil => simp [walk, follow, eq_comm]
    | cons place way =>
      rw [follow, Option.bind_eq_some_iff, walk, List.mem_cons, List.mem_flatMap]
      constructor
      · rintro (same | ⟨⟨inner, i⟩, among, visited⟩)
        · cases same
        · have here := List.mem_zipIdx_iff_getElem?.mp among
          obtain ⟨⟨rest, last⟩, deeper, same⟩ := List.mem_map.mp visited
          cases same
          have below : d.Contains g inner := List.mem_of_getElem? here
          exact ⟨inner, here, (ih (h inner below)).mp deeper⟩
      · rintro ⟨inner, here, rest⟩
        have below : d.Contains g inner := List.mem_of_getElem? here
        have deeper := (ih (h inner below)).mpr rest
        exact .inr ⟨(inner, place), List.mem_zipIdx_iff_getElem?.mpr here,
          List.mem_map.mpr ⟨_, deeper, rfl⟩⟩

theorem pairwise_walk (d : Draft) (n : Nat) (g : GroupId) :
    (d.walk n g).Pairwise fun visit later => visit.1 < later.1 := by
  induction n generalizing g with
  | zero => exact .nil
  | succ n ih =>
    refine List.pairwise_cons.mpr ⟨?_, List.pairwise_flatMap.mpr ⟨?_, ?_⟩⟩
    · intro visit member
      obtain ⟨inner, -, member⟩ := List.mem_flatMap.mp member
      obtain ⟨deeper, -, rfl⟩ := List.mem_map.mp member
      exact List.nil_lt_cons _ _
    · intro inner _
      refine List.pairwise_map.mpr ((ih inner.1).imp fun below => ?_)
      exact List.cons_lt_cons_iff.mpr (.inr ⟨rfl, below⟩)
    · have places : (d.group g).groups.zipIdx.Pairwise fun inner later => inner.2 < later.2 := by
        apply List.pairwise_map.mp
        rw [List.zipIdx_map_snd]
        exact List.pairwise_lt_range'
      refine places.imp fun before visit member later member' => ?_
      obtain ⟨deeper, -, rfl⟩ := List.mem_map.mp member
      obtain ⟨deeper', -, rfl⟩ := List.mem_map.mp member'
      exact List.cons_lt_cons_iff.mpr (.inl before)

/-- A search goes the walk, and keeps the ends that have what it looks for. -/
theorem findBelow_eq_walk (d : Draft) (s v o : Operand) (n : Nat) (g : GroupId) :
    d.findBelow s v o n g =
      ((d.walk n g).filter fun visit => (d.group visit.2).patterns.any (·.answers s v o)).map
        Prod.snd := by
  induction n generalizing g with
  | zero => rfl
  | succ n ih =>
    have below : (d.group g).groups.flatMap (d.findBelow s v o n) =
        (((d.group g).groups.zipIdx.flatMap fun inner =>
          (d.walk n inner.1).map fun visit => (inner.2 :: visit.1, visit.2)).filter
            fun visit => (d.group visit.2).patterns.any (·.answers s v o)).map Prod.snd := by
      rw [List.filter_flatMap, List.map_flatMap]
      conv_lhs => rw [← List.zipIdx_map_fst 0 (d.group g).groups, List.flatMap_map]
      apply List.flatMap_congr
      rintro ⟨inner, place⟩ -
      rw [ih, List.filter_map, List.map_map]
      rfl
    rw [findBelow, walk, List.filter_cons, below]
    split <;> rfl

theorem Bounded.ncard_ways (h : d.Bounded n g) (found : GroupId) :
    {way | d.follow g way = some found}.Finite ∧
      {way | d.follow g way = some found}.ncard = ((d.walk n g).map Prod.snd).count found := by
  let ways := ((d.walk n g).filter (·.2 == found)).map Prod.fst
  have member : ∀ way, way ∈ ways ↔ d.follow g way = some found := by
    intro way
    rw [← h.mem_walk]
    simp [ways]
  have distinct : ways.Nodup :=
    List.pairwise_map.mpr (((pairwise_walk d n g).filter _).imp ne_of_lt)
  have same : {way | d.follow g way = some found} = (ways.toFinset : Set (List Nat)) := by
    ext way
    simp [member]
  have length : ways.length = ((d.walk n g).map Prod.snd).count found := by
    rw [List.length_map, List.count, List.countP_map, List.countP_eq_length_filter]
    rfl
  rw [same, Set.ncard_coe_finset, List.toFinset_card_of_nodup distinct, length]
  exact ⟨Finset.finite_toSet _, rfl⟩

end SparqlCompose.Draft
