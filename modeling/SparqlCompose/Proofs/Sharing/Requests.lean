import Mathlib.Data.Nat.Nth
import SparqlCompose.Proofs.Sharing.Visits

namespace SparqlCompose

/-- For which of two requests the next things of a draft are made. Each has its turn again and
again. -/
structure Turns where
  owner : Counted → Nat → Bool
  often : ∀ k b, {n | owner k n = b}.Infinite

namespace Turns

def ofWords (words : Counted → List Bool) : Turns where
  owner k n := (words k)[n]?.getD (n % 2 == 0)
  often := by
    intro k b
    refine Set.infinite_of_forall_exists_gt fun n => ?_
    have past : ∀ m, (words k).length ≤ m → (words k)[m]? = none :=
      fun m => List.getElem?_eq_none
    cases b with
    | true =>
      refine ⟨2 * (n + (words k).length + 1), ?_, by omega⟩
      rw [Set.mem_ofPred_eq, past _ (by omega)]
      simp
    | false =>
      refine ⟨2 * (n + (words k).length) + 1, ?_, by omega⟩
      rw [Set.mem_ofPred_eq, past _ (by omega)]
      simp

theorem owner_ofWords {words : Counted → List Bool} {k : Counted} {n : Nat} {b : Bool}
    (there : (words k)[n]? = some b) : (ofWords words).owner k n = b := by
  simp [ofWords, there]

variable (turns : Turns) (base : Counted → Nat)

/-- The things of a request have the numbers at which it has its turn. -/
noncomputable def naming (b : Bool) : Naming where
  number k n := base k + Nat.nth (turns.owner k · = b) n
  injective k _ _ same := Nat.nth_injective (turns.often k b) (Nat.add_left_cancel same)

theorem naming_apart {b b' : Bool} (different : b ≠ b') (k : Counted) (m n : Nat) :
    (turns.naming base b).number k m ≠ (turns.naming base b').number k n := by
  intro same
  have first : turns.owner k _ = b := Nat.nth_mem_of_infinite (turns.often k b) m
  have second : turns.owner k _ = b' := Nat.nth_mem_of_infinite (turns.often k b') n
  rw [Nat.add_left_cancel same, second] at first
  exact different first.symm

theorem count_turn {b : Bool} {k : Counted} {m n : Nat}
    (turn : ∀ i < n, turns.owner k (m + i) = b) (b' : Bool) :
    Nat.count (turns.owner k · = b') (m + n) =
      Nat.count (turns.owner k · = b') m + if b' = b then n else 0 := by
  rw [Nat.count_add]
  congr 1
  by_cases mine : b' = b
  · subst mine
    rw [if_pos rfl]
    exact Nat.count_iff_forall.mpr turn
  · rw [if_neg mine]
    refine Nat.count_iff_forall_not.mpr fun i less theirs => mine ?_
    rw [← theirs]
    exact turn i less

theorem number_naming {b : Bool} {k : Counted} {m i : Nat}
    (turn : ∀ j ≤ i, turns.owner k (m + j) = b) :
    (turns.naming base b).number k (Nat.count (turns.owner k · = b) m + i) = base k + (m + i) := by
  have before := turns.count_turn (fun j less => turn j (Nat.le_of_lt less)) b
  rw [if_pos rfl] at before
  rw [← before]
  exact congrArg (base k + ·) (Nat.nth_count (turn i (Nat.le_refl i)))

end Turns

def part {α : Type} (b : Bool) (xs : List (Bool × α)) : List α :=
  xs.filterMap fun x => if x.1 = b then some x.2 else none

section Part

variable {α : Type} {b b' : Bool} (x : α) (xs : List (Bool × α))

theorem part_cons_self : part b ((b, x) :: xs) = x :: part b xs := by
  simp [part]

theorem part_cons_ne (different : b' ≠ b) : part b ((b', x) :: xs) = part b xs := by
  simp [part, different]

end Part

def shared (ν : Bool → Naming) (schedule : List (Bool × Step)) : List Step :=
  schedule.map fun x => x.2.rename (ν x.1)

namespace Composition

def moved (p : Pipeline) (own : Bool → Composition) (b : Bool) (s : Step) : Bool → Composition :=
  Function.update own b ((own b).step p s)

def births (p : Pipeline) (k : Counted) : (Bool → Composition) → List (Bool × Step) → List Bool
  | _, [] => []
  | own, (b, s) :: rest =>
    List.replicate (((own b).step p s).draft.count k - (own b).draft.count k) b ++
      births p k (moved p own b s) rest

/-- Two requests in a shared draft. What it has beyond the first things is theirs, numbered as they
have their turns. -/
structure Sharing (turns : Turns) (base : Counted → Nat) (own : Bool → Composition)
    (C : Composition) : Prop where
  within : ∀ b, (own b).Within (turns.naming base b) C
  reachable : ∀ b, (own b).Reachable
  first : ∀ k, base k ≤ C.draft.count k
  counted : ∀ b k, (own b).draft.count k =
    Nat.count (turns.owner k · = b) (C.draft.count k - base k)

def Follow (turns : Turns) (base : Counted → Nat) (C : Composition)
    (words : Counted → List Bool) : Prop :=
  ∀ k i b, (words k)[i]? = some b → turns.owner k (C.draft.count k - base k + i) = b

variable {turns : Turns} {base : Counted → Nat} {own : Bool → Composition} {C : Composition}
  {p : Pipeline} {ps : List Provider} {b b' : Bool} {s : Step} {rest : List (Bool × Step)}

@[simp] theorem moved_self : moved p own b s b = (own b).step p s := Function.update_self ..

theorem moved_ne (different : b' ≠ b) : moved p own b s b' = own b' :=
  Function.update_of_ne different ..

theorem Allows.part_self (h : (own b).Allows p (part b ((b, s) :: rest))) :
    s.Fits (own b) ∧ ((own b).step p s).Allows p (part b rest) := by
  rw [part_cons_self] at h
  exact h

theorem allows_moved (h : ∀ b', (own b').Allows p (part b' ((b, s) :: rest))) (b' : Bool) :
    (moved p own b s b').Allows p (part b' rest) := by
  by_cases mine : b' = b
  · subst mine
    rw [moved_self]
    exact (h b').part_self.2
  · have theirs := h b'
    rw [part_cons_ne _ _ (Ne.symm mine)] at theirs
    rw [moved_ne mine]
    exact theirs

theorem Follow.turn (h : Follow turns base C fun k => births p k own ((b, s) :: rest))
    {k : Counted} {i : Nat}
    (less : (own b).draft.count k + i < ((own b).step p s).draft.count k) :
    turns.owner k (C.draft.count k - base k + i) = b := by
  apply h k i b
  have made : i < ((own b).step p s).draft.count k - (own b).draft.count k := by omega
  simp only [births]
  rw [List.getElem?_append_left (by simpa using made), List.getElem?_replicate, if_pos made]

theorem Follow.later (h : Follow turns base C fun k => births p k own ((b, s) :: rest))
    (first : ∀ k, base k ≤ C.draft.count k) {C' : Composition}
    (grows : ∀ k, ∃ n, ((own b).step p s).draft.count k = (own b).draft.count k + n ∧
      C'.draft.count k = C.draft.count k + n) :
    Follow turns base C' fun k => births p k (moved p own b s) rest := by
  intro k i b' there
  obtain ⟨n, grown, grown'⟩ := grows k
  have place := h k (n + i) b'
  simp only [births, grown, Nat.add_sub_cancel_left] at place
  rw [List.getElem?_append_right (by simp), List.length_replicate,
    Nat.add_sub_cancel_left] at place
  have old := first k
  have behind : C.draft.count k + n - base k + i = C.draft.count k - base k + (n + i) := by omega
  rw [grown', behind]
  exact place there

theorem Sharing.meets (h : Sharing turns base own C) {d' : Draft}
    (turn : ∀ k i, (own b).draft.count k + i < d'.count k →
      turns.owner k (C.draft.count k - base k + i) = b) :
    (turns.naming base b).Meets (own b).draft d' C.draft := by
  intro k n old new
  obtain ⟨i, rfl⟩ := Nat.exists_eq_add_of_le old
  have number := turns.number_naming base fun j (le : j ≤ i) => turn k j (by omega)
  rw [← h.counted b k] at number
  have first := h.first k
  rw [number]
  omega

theorem Sharing.of_follows (h : Sharing turns base own C) {c' C' : Composition}
    (later : (own b).step p s = c') (within : c'.Within (turns.naming base b) C')
    (follows : (own b).draft.Follows (turns.naming base b) C.draft c'.draft C'.draft)
    (patterns : ∀ x ∈ C.patterns, x ∈ C'.patterns) (reachable : c'.Reachable)
    (turn : ∀ k i, (own b).draft.count k + i < c'.draft.count k →
      turns.owner k (C.draft.count k - base k + i) = b) :
    Sharing turns base (moved p own b s) C' where
  within := by
    intro b'
    by_cases mine : b' = b
    · subst mine
      rw [moved_self, later]
      exact within
    · -- the step writes under no name of the other request
      have size : C.draft.depth ≤ C'.draft.depth := by
        obtain ⟨n, -, grown⟩ := follows.grows .groups
        exact Nat.le.intro grown.symm
      have apart := turns.naming_apart base (Ne.symm mine)
      rw [moved_ne mine]
      exact ⟨(h.within b').mirrors.of_keeps follows.keeps size apart,
        fun x member => patterns _ ((h.within b').patterns x member)⟩
  reachable := by
    intro b'
    by_cases mine : b' = b
    · subst mine
      rw [moved_self, later]
      exact reachable
    · rw [moved_ne mine]
      exact h.reachable b'
  first := by
    intro k
    obtain ⟨n, -, grown⟩ := follows.grows k
    have first := h.first k
    omega
  counted := by
    intro b' k
    obtain ⟨n, grown, grown'⟩ := follows.grows k
    have first := h.first k
    have more : C.draft.count k + n - base k = C.draft.count k - base k + n := by omega
    rw [grown', more, turns.count_turn (fun i less => turn k i (by omega)), ← h.counted b' k]
    by_cases mine : b' = b
    · subst mine
      rw [moved_self, later, if_pos rfl, grown]
    · rw [moved_ne mine, if_neg mine, Nat.add_zero]

/-- A request that makes a step while it has its turn gives what it gives alone. -/
theorem Sharing.step (h : Sharing turns base own C) (made : p.OfProviders ps)
    (fits : s.Fits (own b))
    (turn : ∀ k i, (own b).draft.count k + i < ((own b).step p s).draft.count k →
      turns.owner k (C.draft.count k - base k + i) = b) :
    C.result p (s.rename (turns.naming base b)) =
        ((own b).result p s).map (Answer.rename (turns.naming base b)) ∧
      Sharing turns base (moved p own b s) (C.step p (s.rename (turns.naming base b))) ∧
      ∀ k, ∃ n, ((own b).step p s).draft.count k = (own b).draft.count k + n ∧
        (C.step p (s.rename (turns.naming base b))).draft.count k = C.draft.count k + n := by
  obtain ⟨result, within, follows⟩ := (h.within b).step made (h.reachable b) fits (h.meets turn)
  have reachable : ((own b).step p s).Reachable :=
    Relation.ReflTransGen.trans (h.reachable b) (step_later made fits)
  have sharing := h.of_follows rfl within follows (fun _ => mem_patterns_step _) reachable turn
  exact ⟨result, sharing, follows.grows⟩

/-- Requests whose things are numbered as they come give what each gives alone. -/
theorem Sharing.proceed (made : p.OfProviders ps) {schedule : List (Bool × Step)}
    (h : Sharing turns base own C) (words : Follow turns base C fun k => births p k own schedule)
    (fits : ∀ b, (own b).Allows p (part b schedule)) :
    C.Allows p (shared (turns.naming base) schedule) ∧
      ∀ b, part b ((schedule.map Prod.fst).zip
          (C.results p (shared (turns.naming base) schedule))) =
            ((own b).results p (part b schedule)).map
              (Except.map (Answer.rename (turns.naming base b))) ∧
        ((own b).proceed p (part b schedule)).Within (turns.naming base b)
          (C.proceed p (shared (turns.naming base) schedule)) := by
  -- after the first step both the turns and the drafts are those of the rest of the schedule
  induction schedule generalizing own C with
  | nil => exact ⟨trivial, fun b => ⟨rfl, h.within b⟩⟩
  | cons x rest ih =>
    obtain ⟨b, s⟩ := x
    have first := (fits b).part_self.1
    obtain ⟨result, sharing, grows⟩ := h.step made first fun k i => words.turn
    obtain ⟨allowed, alike⟩ := ih sharing (words.later h.first grows) (allows_moved fits)
    refine ⟨⟨(h.within b).fits first, allowed⟩, fun b' => ?_⟩
    have results : (((b, s) :: rest).map Prod.fst).zip
        (C.results p (shared (turns.naming base) ((b, s) :: rest))) =
          (b, C.result p (s.rename (turns.naming base b))) :: (rest.map Prod.fst).zip
            ((C.step p (s.rename (turns.naming base b))).results p
              (shared (turns.naming base) rest)) := rfl
    have tail := alike b'
    rw [results]
    by_cases mine : b' = b
    · subst mine
      rw [moved_self] at tail
      rw [part_cons_self, part_cons_self, result, tail.1]
      exact ⟨rfl, tail.2⟩
    · rw [moved_ne mine] at tail
      rw [part_cons_ne _ _ (Ne.symm mine), part_cons_ne _ _ (Ne.symm mine)]
      exact tail

theorem sharing_start (turns : Turns) (c : Composition) :
    Sharing turns c.draft.count (fun _ => start) c where
  within := by
    intro b
    have noGroup : ∀ g, ¬ start.draft.HasGroup g := fun g => Nat.not_lt_zero g.index
    have noQuery : ∀ q, ¬ start.draft.HasQuery q := fun q => Nat.not_lt_zero q.index
    refine ⟨⟨?_, fun g there => absurd there (noGroup g), fun q there => absurd there (noQuery q),
      Nat.zero_le _⟩, fun x member => absurd member List.not_mem_nil⟩
    intro k n
    have none : start.draft.count k = 0 := by cases k <;> rfl
    have past : c.draft.count k ≤ (turns.naming c.draft.count b).number k n := Nat.le_add_right _ _
    omega
  reachable := fun _ => .refl
  first := fun _ => Nat.le_refl _
  counted := by
    intro b k
    rw [Nat.sub_self, Nat.count_zero]
    cases k <;> rfl

/-- Two requests that go through one pipeline do not interfere. Take the steps that each of them makes
with what it made itself, in any order and on any draft. Under names for the things of either, that
no two things share, every step fits and gives what it gives when its request runs alone: the same
answer, the same text or the same failure. In the end each request has the queries and groups that it
has alone, and they are written as they are written there. -/
theorem requests_do_not_interfere (made : p.OfProviders ps) (schedule : List (Bool × Step))
    (fits : ∀ b, start.Allows p (part b schedule)) (c : Composition) :
    ∃ ν : Bool → Naming,
      (∀ k m n, (ν true).number k m ≠ (ν false).number k n) ∧
      c.Allows p (shared ν schedule) ∧
      ∀ b,
        part b ((schedule.map Prod.fst).zip (c.results p (shared ν schedule))) =
          (start.results p (part b schedule)).map (Except.map (Answer.rename (ν b))) ∧
        (start.proceed p (part b schedule)).draft.Mirrors (ν b)
          (c.proceed p (shared ν schedule)).draft ∧
        ∀ q, (start.proceed p (part b schedule)).draft.HasQuery q → ∀ indent,
          (c.proceed p (shared ν schedule)).draft.sparql indent (q.rename (ν b)) =
            (start.proceed p (part b schedule)).draft.sparql indent q := by
  let turns := Turns.ofWords fun k => births p k (fun _ => start) schedule
  have words : Follow turns c.draft.count c fun k => births p k (fun _ => start) schedule := by
    intro k i b there
    rw [Nat.sub_self, Nat.zero_add]
    exact Turns.owner_ofWords there
  obtain ⟨allowed, alike⟩ := (sharing_start turns c).proceed made words fits
  refine ⟨turns.naming c.draft.count, turns.naming_apart _ nofun, allowed, fun b => ?_⟩
  obtain ⟨results, within⟩ := alike b
  have reachable : (start.proceed p (part b schedule)).Reachable := proceed_later made (fits b)
  refine ⟨results, within.mirrors, fun q there indent => ?_⟩
  exact within.mirrors.sparql reachable.wellNested reachable.rooted_changes.1 there indent

def siteSchedule : List (Bool × Step) :=
  (Pipeline.siteOperations.flatMap fun o => [(true, .operation o), (false, .operation o)]) ++
    [(true, .operation (.internGraph ⟨0⟩ "urn:graph")), (true, .visit ⟨"first", []⟩ ⟨0⟩),
     (false, .operation (.newBlank ⟨0⟩)), (true, .operation (.sparql standardIndent ⟨0⟩))]

theorem requests_do_not_interfere_siteSchedule :
    (∀ b, start.Allows Pipeline.bothDomains (part b siteSchedule)) ∧
      ∃ ν : Bool → Naming, ∀ b,
        (start.proceed Pipeline.bothDomains (part b siteSchedule)).draft.Mirrors (ν b)
          (start.proceed Pipeline.bothDomains (shared ν siteSchedule)).draft := by
  have fits : ∀ b, start.Allows Pipeline.bothDomains (part b siteSchedule) := by decide +kernel
  obtain ⟨ν, -, -, alike⟩ :=
    requests_do_not_interfere Pipeline.ofProviders_bothDomains siteSchedule fits start
  exact ⟨fits, ν, fun b => (alike b).2.1⟩

end Composition

end SparqlCompose
