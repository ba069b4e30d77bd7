import Mathlib.Data.List.Flatten
import SparqlCompose.Proofs.Draft.Growth
import SparqlCompose.Proofs.Pipeline.Steps

namespace SparqlCompose

open Relation (ReflTransGen)

namespace Draft

variable {d d' : Draft}

theorem Grows.any_patterns (h : d.Grows d') {g : GroupId} {test : Pattern → Bool}
    (found : (d.group g).patterns.any test = true) : (d'.group g).patterns.any test = true := by
  obtain ⟨more, whole⟩ := h.patterns g
  rw [← whole, List.any_append, found, Bool.true_or]

theorem Grows.findBelow_sublist (h : d.Grows d') (s v o : Operand) {n m : Nat} (le : n ≤ m)
    (g : GroupId) : (d.findBelow s v o n g).Sublist (d'.findBelow s v o m g) := by
  induction n generalizing m g with
  | zero => exact List.nil_sublist _
  | succ n ih =>
    obtain ⟨m, rfl⟩ : ∃ k, m = k + 1 := ⟨m - 1, by omega⟩
    rw [findBelow, findBelow]
    apply List.Sublist.append
    · by_cases here : (d.group g).patterns.any (·.answers s v o) = true
      · rw [if_pos here, if_pos (h.any_patterns here)]
      · rw [if_neg here]
        exact List.nil_sublist _
    · have wider : ((d.group g).groups.flatMap (d.findBelow s v o n)).Sublist
          ((d.group g).groups.flatMap (d'.findBelow s v o m)) :=
        List.Sublist.flatMap_right _ fun inner _ => ih (by omega) inner
      exact wider.trans ((h.groups g).sublist.flatMap _)

theorem Grows.find_sublist (h : d.Grows d') (g : GroupId) (s v o : Operand) :
    (d.find g s v o).Sublist (d'.find g s v o) :=
  h.findBelow_sublist s v o h.depth g

end Draft

namespace Composition

/-- Whatever operations and visits come later, and whether they succeed or fail, a search with the
same operands answers with all groups that it answered with before, in the same order. -/
theorem search_only_grows {c c' : Composition} (h : c.Reachable) (later : ReflTransGen StepsTo c c')
    (g : GroupId) (s v o : Operand) :
    ∃ before after, c.outcome (.find g s v o) = .ok (.groups before) ∧
      c'.outcome (.find g s v o) = .ok (.groups after) ∧ before.Sublist after :=
  ⟨_, _, rfl, rfl, (h.changes (stepsTo_later later)).grows.find_sublist g s v o⟩

def matching : List Operation :=
  [.newQuery false "SELECT", .newPlain, .addElement ⟨0⟩ (some (.group ⟨1⟩)),
   .addPattern ⟨1⟩ (.literal (.text "s")) (.literal (.text "p")) (.literal (.integer 1)) .absent]

def crowding : List Step :=
  [.operation (.newGraph "urn:graph"), .operation (.addElement ⟨2⟩ (some (.group ⟨1⟩))),
   .operation (.addElement ⟨0⟩ (some (.group ⟨2⟩))), .visit ⟨"visit", []⟩ ⟨0⟩,
   .operation (.addElement ⟨1⟩ (some (.group ⟨0⟩)))]

theorem search_only_grows_crowding :
    start.Admits matching ∧ (start.replay matching).Allows Pipeline.bothDomains crowding ∧
      ∃ before after,
        (start.replay matching).outcome (.find ⟨0⟩ .absent .absent .absent) =
            .ok (.groups before) ∧
          ((start.replay matching).proceed Pipeline.bothDomains crowding).outcome
              (.find ⟨0⟩ .absent .absent .absent) = .ok (.groups after) ∧
          before.Sublist after := by
  have facts : start.Admits matching ∧
      (start.replay matching).Allows Pipeline.bothDomains crowding := by
    decide +kernel
  exact ⟨facts.1, facts.2, search_only_grows (reachable_replay facts.1)
    (proceed_stepsTo Pipeline.ofProviders_bothDomains facts.2) ⟨0⟩ .absent .absent .absent⟩

end Composition

end SparqlCompose
