import SparqlCompose.Entries

namespace SparqlCompose.Entries

variable {α β : Type} [DecidableEq α]

theorem put_of_get? {key : α} {value : β} {m : List (α × β)} (h : get? key m = some value) :
    put key value m = m := by
  induction m with
  | nil => cases h
  | cons e rest ih =>
    obtain ⟨k, v⟩ := e
    by_cases same : k = key
    · subst same
      simp only [get?, ite_true, Option.some.injEq] at h
      simp [put, h]
    · simp only [get?, same, ite_false] at h
      simp [put, same, ih h]

theorem put_of_get?_eq_none {key : α} {value : β} {m : List (α × β)} (h : get? key m = none) :
    put key value m = m ++ [(key, value)] := by
  induction m with
  | nil => rfl
  | cons e rest ih =>
    obtain ⟨k, v⟩ := e
    by_cases same : k = key
    · simp [get?, same] at h
    · simp only [get?, same, if_false] at h
      simp [put, same, ih h]

theorem mem_keys_iff {key : α} {m : List (α × β)} :
    key ∈ keys m ↔ ∃ value, get? key m = some value := by
  induction m with
  | nil => simp [keys]
  | cons e rest ih =>
    obtain ⟨k, v⟩ := e
    rw [keys, List.map_cons, List.mem_cons]
    by_cases same : k = key
    · subst same
      simp [get?]
    · simp only [get?, same, Ne.symm same, if_false, false_or]
      exact ih

theorem mem_of_get? {key : α} {value : β} {m : List (α × β)} (h : get? key m = some value) :
    (key, value) ∈ m := by
  induction m with
  | nil => cases h
  | cons e rest ih =>
    rw [get?] at h
    split at h
    case isTrue same =>
      cases h
      rw [← same]
      exact List.mem_cons_self
    case isFalse => exact List.mem_cons_of_mem _ (ih h)

theorem nodup_keys_put {m : List (α × β)} (distinct : (keys m).Nodup) (key : α) (value : β) :
    (keys (put key value m)).Nodup := by
  rw [keys_put]
  split
  · exact distinct
  · rename_i absent
    exact List.nodup_append.mpr ⟨distinct, List.pairwise_singleton _ key,
      fun k member other single => by
        rw [List.mem_singleton.mp single]
        exact fun same => absent (same ▸ member)⟩

theorem mem_put {pair : α × β} {key : α} {value : β} {m : List (α × β)}
    (member : pair ∈ put key value m) : pair = (key, value) ∨ pair ∈ m := by
  induction m with
  | nil => exact .inl (List.mem_singleton.mp member)
  | cons e rest ih =>
    rw [put] at member
    split at member
    case isTrue same =>
      rcases List.mem_cons.mp member with rfl | later
      · exact .inl (by rw [same])
      · exact .inr (List.mem_cons_of_mem _ later)
    case isFalse =>
      rcases List.mem_cons.mp member with rfl | later
      · exact .inr List.mem_cons_self
      · exact (ih later).imp_right (List.mem_cons_of_mem _)

def putAll (pairs m : List (α × β)) : List (α × β) :=
  pairs.foldl (fun m pair => put pair.1 pair.2 m) m

theorem nodup_keys_putAll (pairs : List (α × β)) {m : List (α × β)} (distinct : (keys m).Nodup) :
    (keys (putAll pairs m)).Nodup := by
  induction pairs generalizing m with
  | nil => exact distinct
  | cons pair pairs ih => exact ih (nodup_keys_put distinct pair.1 pair.2)

theorem putAll_append {m pairs : List (α × β)} (distinct : (keys (m ++ pairs)).Nodup) :
    putAll pairs m = m ++ pairs := by
  induction pairs generalizing m with
  | nil => exact (List.append_nil m).symm
  | cons pair pairs ih =>
    have step : putAll (pair :: pairs) m = putAll pairs (put pair.1 pair.2 m) := rfl
    have absent : get? pair.1 m = none := by
      rw [Option.eq_none_iff_forall_ne_some]
      intro value found
      have before : pair.1 ∈ keys m := mem_keys_iff.mpr ⟨value, found⟩
      rw [keys, List.map_append, List.map_cons, List.nodup_append] at distinct
      exact distinct.2.2 _ before _ List.mem_cons_self rfl
    have split : m ++ pair :: pairs = (m ++ [pair]) ++ pairs := by simp
    rw [step, put_of_get?_eq_none absent, split]
    exact ih (split ▸ distinct)

theorem putAll_of_nodup {pairs : List (α × β)} (distinct : (keys pairs).Nodup) :
    putAll pairs [] = pairs := putAll_append distinct

theorem mem_keys_putAll {key : α} {pairs m : List (α × β)} :
    key ∈ keys (putAll pairs m) ↔ key ∈ keys pairs ∨ key ∈ keys m := by
  induction pairs generalizing m with
  | nil => exact ⟨.inr, fun h => h.resolve_left nofun⟩
  | cons pair pairs ih =>
    have once : key ∈ keys (put pair.1 pair.2 m) ↔ key ∈ keys m ∨ key = pair.1 := by
      rw [keys_put]
      split
      case isTrue there => exact ⟨.inl, fun h => h.elim id (· ▸ there)⟩
      case isFalse => rw [List.mem_append, List.mem_singleton]
    have split : keys (pair :: pairs) = pair.1 :: keys pairs := rfl
    have step : putAll (pair :: pairs) m = putAll pairs (put pair.1 pair.2 m) := rfl
    rw [step, ih, once, split, List.mem_cons]
    constructor
    · rintro (later | before | same)
      · exact .inl (.inr later)
      · exact .inr before
      · exact .inl (.inl same)
    · rintro ((same | later) | before)
      · exact .inr (.inr same)
      · exact .inl later
      · exact .inr (.inl before)

theorem mem_putAll {pair : α × β} {pairs m : List (α × β)} (member : pair ∈ putAll pairs m) :
    pair ∈ pairs ∨ pair ∈ m := by
  induction pairs generalizing m with
  | nil => exact .inr member
  | cons first pairs ih =>
    rcases ih member with later | before
    · exact .inl (List.mem_cons_of_mem _ later)
    · rcases mem_put before with rfl | old
      · exact .inl List.mem_cons_self
      · exact .inr old

theorem get?_putAll_of_not_mem {key : α} {pairs : List (α × β)} (absent : key ∉ keys pairs)
    (m : List (α × β)) : get? key (putAll pairs m) = get? key m := by
  induction pairs generalizing m with
  | nil => rfl
  | cons pair pairs ih =>
    have parts : key ≠ pair.1 ∧ key ∉ keys pairs := by simpa [keys] using absent
    have later : get? key (putAll pairs (put pair.1 pair.2 m)) = get? key (put pair.1 pair.2 m) :=
      ih parts.2 _
    rw [← get?_put_ne parts.1 pair.2 m, ← later]
    rfl

theorem get?_putAll_of_mem {key : α} {value : β} {pairs : List (α × β)}
    (distinct : (keys pairs).Nodup) (member : (key, value) ∈ pairs) (m : List (α × β)) :
    get? key (putAll pairs m) = some value := by
  induction pairs generalizing m with
  | nil => cases member
  | cons pair pairs ih =>
    have parts := List.nodup_cons.mp distinct
    rcases List.mem_cons.mp member with rfl | later
    · have kept := get?_putAll_of_not_mem parts.1 (put key value m)
      rw [get?_put_self] at kept
      exact kept
    · exact ih parts.2 later _

theorem keys_putAll {pairs : List (α × β)} (distinct : (keys pairs).Nodup) (m : List (α × β)) :
    keys (putAll pairs m) = keys m ++ (keys pairs).filter (· ∉ keys m) := by
  induction pairs generalizing m with
  | nil => simp [putAll, keys]
  | cons pair pairs ih =>
    have parts : pair.1 ∉ keys pairs ∧ (keys pairs).Nodup := List.nodup_cons.mp distinct
    have later : keys (putAll (pair :: pairs) m) = keys (put pair.1 pair.2 m) ++
        (keys pairs).filter (· ∉ keys (put pair.1 pair.2 m)) := ih parts.2 _
    have split : keys (pair :: pairs) = pair.1 :: keys pairs := rfl
    rw [later, keys_put, split, List.filter_cons]
    by_cases there : pair.1 ∈ keys m
    · simp only [there, if_true, not_true, decide_false, Bool.false_eq_true, if_false]
    · have rest : ∀ k ∈ keys pairs, decide (k ∉ keys m ++ [pair.1]) = decide (k ∉ keys m) := by
        intro k member
        have other : k ≠ pair.1 := fun same => parts.1 (same ▸ member)
        simp [other]
      simp only [there, if_false, not_false_iff, decide_true, if_true, List.append_assoc,
        List.singleton_append, List.filter_congr rest]

theorem get?_append (key : α) (m n : List (α × β)) :
    get? key (m ++ n) = (get? key m).or (get? key n) := by
  induction m with
  | nil => rfl
  | cons pair m ih =>
    obtain ⟨k, v⟩ := pair
    by_cases same : k = key
    · simp [get?, same]
    · simp [get?, same, ih]

theorem get?_map_values {γ : Type} (f : β → γ) (key : α) (m : List (α × β)) :
    get? key (m.map fun (k, v) => (k, f v)) = (get? key m).map f := by
  induction m with
  | nil => rfl
  | cons pair m ih =>
    obtain ⟨k, v⟩ := pair
    by_cases same : k = key
    · simp [get?, same]
    · simp [get?, same, ih]

theorem get?_put (k key : α) (value : β) (m : List (α × β)) :
    get? k (put key value m) = (get? k [(key, value)]).or (get? k m) := by
  by_cases same : key = k
  · rw [same, get?_put_self]
    simp [get?]
  · rw [get?_put_ne (Ne.symm same)]
    simp [get?, same]

theorem get?_putAll (key : α) (pairs m : List (α × β)) :
    get? key (putAll pairs m) = (get? key pairs.reverse).or (get? key m) := by
  induction pairs generalizing m with
  | nil => rfl
  | cons pair pairs ih =>
    have step : putAll (pair :: pairs) m = putAll pairs (put pair.1 pair.2 m) := rfl
    rw [step, ih, get?_put, ← Option.or_assoc, ← get?_append, List.reverse_cons]

theorem eraseDups_of_nodup {keys : List α} (distinct : keys.Nodup) : keys.eraseDups = keys := by
  induction keys with
  | nil => rfl
  | cons key keys ih =>
    have parts := List.nodup_cons.mp distinct
    have others : keys.filter (fun k => !k == key) = keys := by
      apply List.filter_eq_self.mpr
      intro k member
      have other : k ≠ key := fun same => parts.1 (same ▸ member)
      simpa using other
    rw [List.eraseDups_cons, others, ih parts.2]

theorem keys_putAll_eq_eraseDups {m : List (α × β)} (distinct : (keys m).Nodup)
    (pairs : List (α × β)) : keys (putAll pairs m) = (keys m ++ keys pairs).eraseDups := by
  induction pairs generalizing m with
  | nil =>
    have none : keys ([] : List (α × β)) = [] := rfl
    rw [none, List.append_nil, eraseDups_of_nodup distinct]
    rfl
  | cons pair pairs ih =>
    have step : putAll (pair :: pairs) m = putAll pairs (put pair.1 pair.2 m) := rfl
    have split : keys (pair :: pairs) = pair.1 :: keys pairs := rfl
    rw [step, ih (nodup_keys_put distinct pair.1 pair.2), keys_put, split]
    by_cases there : pair.1 ∈ keys m
    · rw [if_pos there, List.eraseDups_append, List.eraseDups_append, List.cons_removeAll,
        if_neg (by simp [there])]
    · rw [if_neg there, List.append_assoc, List.singleton_append]

theorem exists_of_get? {key : α} {value : β} {m : List (α × β)} (found : get? key m = some value) :
    ∃ before after, m = before ++ (key, value) :: after ∧ key ∉ keys before := by
  induction m with
  | nil => cases found
  | cons pair m ih =>
    obtain ⟨k, v⟩ := pair
    by_cases same : k = key
    · rw [get?, if_pos same] at found
      cases found
      exact ⟨[], m, by rw [same]; rfl, List.not_mem_nil⟩
    · rw [get?, if_neg same] at found
      obtain ⟨before, after, rfl, absent⟩ := ih found
      exact ⟨(k, v) :: before, after, rfl, List.not_mem_cons_of_ne_of_not_mem (Ne.symm same) absent⟩

theorem get?_of_mem {key : α} {value : β} {m : List (α × β)} (distinct : (keys m).Nodup)
    (member : (key, value) ∈ m) : get? key m = some value := by
  induction m with
  | nil => cases member
  | cons pair m ih =>
    obtain ⟨k, v⟩ := pair
    have parts : k ∉ keys m ∧ (keys m).Nodup := List.nodup_cons.mp distinct
    rcases List.mem_cons.mp member with same | later
    · cases same
      exact if_pos rfl
    · have other : k ≠ key := fun same => parts.1 (same ▸ List.mem_map_of_mem later)
      rw [get?, if_neg other]
      exact ih parts.2 later

theorem exists_of_get?_putAll {key : α} {value : β} {pairs : List (α × β)}
    (found : get? key (putAll pairs []) = some value) :
    ∃ before after, pairs = before ++ (key, value) :: after ∧ key ∉ keys after := by
  rw [get?_putAll, get?_nil, Option.or_none] at found
  obtain ⟨before, after, turned, absent⟩ := exists_of_get? found
  refine ⟨after.reverse, before.reverse, ?_, ?_⟩
  · rw [← List.reverse_reverse pairs, turned]
    simp
  · simpa [keys] using absent

end SparqlCompose.Entries
