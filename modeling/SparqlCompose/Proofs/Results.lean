import Mathlib.Data.List.Forall2

namespace SparqlCompose

variable {ε α β : Type} {e : ε}

theorem exists_of_bind_eq_ok {x : Except ε α} {f : α → Except ε β} {b : β}
    (h : (x >>= f) = .ok b) : ∃ a, x = .ok a ∧ f a = .ok b := by
  cases x with
  | error e => cases h
  | ok a => exact ⟨a, rfl, h⟩

theorem bind_of_eq_ok {x : Except ε α} {a : α} (h : x = .ok a) (f : α → Except ε β) :
    (x >>= f) = f a := by
  rw [h]
  rfl

theorem mapError_eq_ok_iff {ε' : Type} {f : ε → ε'} {x : Except ε α} {a : α} :
    x.mapError f = .ok a ↔ x = .ok a := by
  cases x <;> simp [Except.mapError]

theorem bind_ne_error {x : Except ε α} {f : α → Except ε β} (first : x ≠ .error e)
    (rest : ∀ a, f a ≠ .error e) : (x >>= f) ≠ .error e := by
  cases x with
  | error e' =>
    intro same
    cases same
    exact first rfl
  | ok a => exact rest a

theorem bind_eq_error_iff {x : Except ε α} {f : α → Except ε β} :
    (x >>= f) = .error e ↔ x = .error e ∨ ∃ a, x = .ok a ∧ f a = .error e := by
  cases x with
  | error e' =>
    refine ⟨fun same => .inl (Except.error.inj same ▸ rfl), ?_⟩
    rintro (same | ⟨a, ⟨⟩, -⟩)
    rw [same]
    rfl
  | ok a =>
    refine ⟨fun same => .inr ⟨a, rfl, same⟩, ?_⟩
    rintro (⟨⟨⟩⟩ | ⟨a, ⟨⟩, same⟩)
    exact same

theorem mapM_ne_error {f : α → Except ε β} {xs : List α} (never : ∀ x ∈ xs, f x ≠ .error e) :
    xs.mapM f ≠ .error e := by
  induction xs with
  | nil => exact nofun
  | cons x xs ih =>
    rw [List.mapM_cons]
    apply bind_ne_error (never x (by simp))
    intro y
    apply bind_ne_error (ih fun z hz => never z (by simp [hz]))
    exact nofun

theorem mapM_congr {f f' : α → Except ε β} {xs : List α}
    (same : ∀ x ∈ xs, f x = f' x) : xs.mapM f = xs.mapM f' := by
  induction xs with
  | nil => rfl
  | cons x xs ih =>
    rw [List.mapM_cons, List.mapM_cons, same x (by simp), ih fun y hy => same y (by simp [hy])]

theorem exists_of_mem_mapM {f : α → Except ε β} {xs : List α} {ys : List β}
    (h : xs.mapM f = .ok ys) {y : β} (member : y ∈ ys) : ∃ x ∈ xs, f x = .ok y := by
  induction xs generalizing ys with
  | nil =>
    cases h
    cases member
  | cons x xs ih =>
    rw [List.mapM_cons] at h
    obtain ⟨first, is, h⟩ := exists_of_bind_eq_ok h
    obtain ⟨rest, others, h⟩ := exists_of_bind_eq_ok h
    cases h
    rcases List.mem_cons.mp member with rfl | later
    · exact ⟨x, by simp, is⟩
    · obtain ⟨z, among, made⟩ := ih others later
      exact ⟨z, by simp [among], made⟩

theorem exists_left_of_mem {R : α → β → Prop} {xs : List α} {ys : List β}
    (each : List.Forall₂ R xs ys) {y : β} (member : y ∈ ys) : ∃ x ∈ xs, R x y := by
  induction each with
  | nil => cases member
  | cons first _ ih =>
    rcases List.mem_cons.mp member with rfl | later
    · exact ⟨_, List.mem_cons_self, first⟩
    · obtain ⟨x, among, related⟩ := ih later
      exact ⟨x, List.mem_cons_of_mem _ among, related⟩

theorem mapM_eq_ok {f : α → Except ε β} {xs : List α} {ys : List β}
    (each : List.Forall₂ (fun x y => f x = .ok y) xs ys) : xs.mapM f = .ok ys := by
  induction each with
  | nil => rfl
  | cons first _ ih =>
    rw [List.mapM_cons, first, ih]
    rfl

theorem forall₂_of_mapM_eq_ok {f : α → Except ε β} {xs : List α} {ys : List β}
    (h : xs.mapM f = .ok ys) : List.Forall₂ (fun x y => f x = .ok y) xs ys := by
  induction xs generalizing ys with
  | nil =>
    cases h
    exact .nil
  | cons x xs ih =>
    rw [List.mapM_cons] at h
    obtain ⟨first, is, h⟩ := exists_of_bind_eq_ok h
    obtain ⟨rest, others, h⟩ := exists_of_bind_eq_ok h
    cases h
    exact .cons is (ih others)

theorem exists_of_mapM_eq_ok {f : α → Except ε β} {xs : List α} {ys : List β}
    (h : xs.mapM f = .ok ys) : ∀ x ∈ xs, ∃ y, f x = .ok y := by
  induction xs generalizing ys with
  | nil => exact List.forall_mem_nil _
  | cons x xs ih =>
    rw [List.mapM_cons] at h
    obtain ⟨first, is, h⟩ := exists_of_bind_eq_ok h
    obtain ⟨rest, others, -⟩ := exists_of_bind_eq_ok h
    exact List.forall_mem_cons.mpr ⟨⟨first, is⟩, ih others⟩

theorem exists_mapM_eq_ok {f : α → Except ε β} {xs : List α} (each : ∀ x ∈ xs, ∃ y, f x = .ok y) :
    ∃ ys, xs.mapM f = .ok ys := by
  induction xs with
  | nil => exact ⟨[], rfl⟩
  | cons x xs ih =>
    obtain ⟨⟨y, first⟩, others⟩ := List.forall_mem_cons.mp each
    obtain ⟨ys, rest⟩ := ih others
    exact ⟨y :: ys, by rw [List.mapM_cons, first, rest]; rfl⟩

theorem exists_of_mapM_eq_error {f : α → Except ε β} {xs : List α} (h : xs.mapM f = .error e) :
    ∃ before x after, xs = before ++ x :: after ∧ f x = .error e ∧
      ∀ y ∈ before, ∃ b, f y = .ok b := by
  induction xs with
  | nil => cases h
  | cons x xs ih =>
    rw [List.mapM_cons] at h
    cases first : f x with
    | error e' =>
      rw [first] at h
      cases h
      exact ⟨[], x, xs, rfl, first, List.forall_mem_nil _⟩
    | ok b =>
      cases rest : xs.mapM f with
      | ok bs =>
        rw [first, rest] at h
        cases h
      | error e' =>
        rw [first, rest] at h
        cases h
        obtain ⟨before, y, after, rfl, failed, fine⟩ := ih rest
        exact ⟨x :: before, y, after, rfl, failed, List.forall_mem_cons.mpr ⟨⟨b, first⟩, fine⟩⟩

theorem mapM_eq_error {f : α → Except ε β} {before after : List α} {x : α}
    (fine : ∀ y ∈ before, ∃ b, f y = .ok b) (failed : f x = .error e) :
    (before ++ x :: after).mapM f = .error e := by
  induction before with
  | nil =>
    rw [List.nil_append, List.mapM_cons, failed]
    rfl
  | cons y before ih =>
    obtain ⟨⟨b, first⟩, others⟩ := List.forall_mem_cons.mp fine
    rw [List.cons_append, List.mapM_cons, first, ih others]
    rfl

end SparqlCompose
