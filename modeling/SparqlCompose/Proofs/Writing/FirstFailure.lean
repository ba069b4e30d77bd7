import Mathlib.Data.List.Lex
import SparqlCompose.Proofs.Results

namespace SparqlCompose

variable {ε α β γ : Type} {wrong : List Nat → ε → Prop} {e : ε}

/-- What is wrong at the first of the places where something is. -/
def IsFirst (wrong : List Nat → ε → Prop) (e : ε) : Prop :=
  ∃ place, wrong place e ∧ ∀ other e', wrong other e' → place ≤ other

def WrongAmong (wrong : α → List Nat → ε → Prop) (xs : List α) (place : List Nat) (e : ε) : Prop :=
  ∃ i x way, xs[i]? = some x ∧ place = i :: way ∧ wrong x way e

/-- A step succeeds where nothing is wrong, and otherwise fails with what is wrong first. -/
def Reports (wrong : List Nat → ε → Prop) : Except ε β → Prop
  | .ok _ => ∀ place e, ¬ wrong place e
  | .error e => IsFirst wrong e

theorem nil_le (place : List Nat) : [] ≤ place := by
  cases place with
  | nil => exact le_rfl
  | cons i way => exact le_of_lt .nil

namespace Reports

theorem ok_iff {r : Except ε β} (h : Reports wrong r) :
    (∃ b, r = .ok b) ↔ ∀ place e, ¬ wrong place e := by
  cases r with
  | ok b => exact ⟨fun _ => h, fun _ => ⟨b, rfl⟩⟩
  | error e =>
    obtain ⟨place, here, -⟩ := h
    constructor
    · rintro ⟨b, ⟨⟩⟩
    · exact fun fine => absurd here (fine place e)

theorem eq_error_iff {r : Except ε β} (h : Reports wrong r)
    (one : ∀ {place e e'}, wrong place e → wrong place e' → e = e') :
    r = .error e ↔ IsFirst wrong e := by
  cases r with
  | ok b =>
    constructor
    · rintro ⟨⟩
    · rintro ⟨place, here, -⟩
      exact absurd here (h place e)
  | error e₀ =>
    refine ⟨fun same => Except.error.inj same ▸ h, ?_⟩
    rintro ⟨place, here, least⟩
    obtain ⟨place₀, here₀, least₀⟩ := h
    have same : place₀ = place := le_antisymm (least₀ _ _ here) (least _ _ here₀)
    subst same
    rw [one here₀ here]

theorem bind {r : Except ε β} (h : Reports wrong r) {f : β → Except ε γ}
    (rest : ∀ b, ∃ c, f b = .ok c) : Reports wrong (r >>= f) := by
  cases r with
  | error e => exact h
  | ok b =>
    obtain ⟨c, made⟩ := rest b
    have whole : (Except.ok b >>= f) = .ok c := made
    rw [whole]
    exact h

theorem of_eq_error_iff {r : Except ε β} {r' : Except ε γ} (h : Reports wrong r')
    (same : ∀ e, r = .error e ↔ r' = .error e) : Reports wrong r := by
  cases r with
  | error e => rwa [(same e).mp rfl] at h
  | ok b =>
    cases r' with
    | error e => cases (same e).mpr rfl
    | ok c => exact h

theorem congr {wrong' : List Nat → ε → Prop} {r : Except ε β} (h : Reports wrong r)
    (same : ∀ place e, wrong place e ↔ wrong' place e) : Reports wrong' r := by
  have : wrong = wrong' := by
    funext place e
    exact propext (same place e)
  rwa [← this]

theorem mapM {wrong : α → List Nat → ε → Prop} {f : α → Except ε β} {xs : List α}
    (each : ∀ x ∈ xs, Reports (wrong x) (f x)) :
    Reports (WrongAmong wrong xs) (xs.mapM f) := by
  have fine : ∀ x ∈ xs, (∃ b, f x = .ok b) → ∀ way e, ¬ wrong x way e :=
    fun x member => (each x member).ok_iff.mp
  cases run : xs.mapM f with
  | ok ys =>
    rintro place e ⟨i, x, way, here, -, there⟩
    have member := List.mem_of_getElem? here
    exact fine x member (exists_of_mapM_eq_ok run x member) way e there
  | error e =>
    obtain ⟨before, x, after, rfl, failed, succeeded⟩ := exists_of_mapM_eq_error run
    have first := each x (by simp)
    rw [failed] at first
    obtain ⟨way, there, least⟩ := first
    refine ⟨before.length :: way, ⟨before.length, x, way, by simp, rfl, there⟩, ?_⟩
    rintro _ e' ⟨j, y, other, here, rfl, wrong'⟩
    rcases Nat.lt_trichotomy before.length j with later | same | earlier
    · exact le_of_lt (.rel later)
    · subst same
      have is : x = y := by simpa using here
      subst is
      exact List.cons_le_cons _ (least other e' wrong')
    · -- whatever stands before the one that failed has nothing wrong with it
      rw [List.getElem?_append_left earlier] at here
      have member := List.mem_of_getElem? here
      exact absurd wrong' (fine y (by simp [member]) (succeeded y member) other e')

end Reports

end SparqlCompose
