namespace SparqlCompose.Entries

variable {α β : Type} [DecidableEq α]

def get? (key : α) : List (α × β) → Option β
  | [] => none
  | (k, v) :: rest => if k = key then some v else get? key rest

/-- Binds the key: in its old place if it has one, else at the end. -/
def put (key : α) (value : β) : List (α × β) → List (α × β)
  | [] => [(key, value)]
  | (k, v) :: rest => if k = key then (k, value) :: rest else (k, v) :: put key value rest

def ofPairs (pairs : List (α × β)) : List (α × β) :=
  pairs.foldl (fun m (k, v) => put k v m) []

def keys (m : List (α × β)) : List α := m.map Prod.fst

@[simp] theorem get?_nil (key : α) : get? key ([] : List (α × β)) = none := rfl

@[simp] theorem get?_put_self (key : α) (value : β) (m : List (α × β)) :
    get? key (put key value m) = some value := by
  induction m with
  | nil => simp [put, get?]
  | cons e rest ih =>
    obtain ⟨k, v⟩ := e
    by_cases h : k = key <;> simp [put, get?, h, ih]

theorem get?_put_ne {key other : α} (h : other ≠ key) (value : β) (m : List (α × β)) :
    get? other (put key value m) = get? other m := by
  induction m with
  | nil => simp [put, get?, Ne.symm h]
  | cons e rest ih =>
    obtain ⟨k, v⟩ := e
    by_cases hk : k = key
    · subst hk; simp [put, get?, Ne.symm h]
    · by_cases ho : k = other
      · subst ho; simp [put, get?, hk]
      · simp [put, get?, hk, ho, ih]

theorem keys_put (key : α) (value : β) (m : List (α × β)) :
    keys (put key value m) = if key ∈ keys m then keys m else keys m ++ [key] := by
  induction m with
  | nil => simp [put, keys]
  | cons e rest ih =>
    obtain ⟨k, v⟩ := e
    by_cases h : k = key
    · subst h; simp [put, keys]
    · simp only [keys, List.map_cons] at ih ⊢
      by_cases hm : key ∈ rest.map Prod.fst <;>
        simp [put, h, ih, hm, Ne.symm h]

end SparqlCompose.Entries
