import Mathlib.Data.List.Induction
import SparqlCompose.Proofs.Draft.Projection
import SparqlCompose.Proofs.Entries

namespace SparqlCompose

open Draft

section Projection

variable {vs : List Variable} {v : Variable} {i : Identifier}

theorem keepFirst_concat (vs : List Variable) (v : Variable) :
    keepFirst (vs ++ [v]) = joined (keepFirst vs) v := by
  rw [keepFirst_eq_foldl, List.foldl_append, ← keepFirst_eq_foldl]
  rfl

theorem mem_identifiers_iff_find? :
    i ∈ identifiers vs ↔ (vs.find? (·.identifier = i)).isSome = true := by
  simp [identifiers]

theorem identifiers_keepFirst (vs : List Variable) :
    identifiers (keepFirst vs) = (identifiers vs).eraseDups := by
  induction vs using List.reverseRecOn with
  | nil => rfl
  | append_singleton vs v ih =>
    have last : identifiers [v] = [v.identifier] := rfl
    rw [keepFirst_concat, identifiers_append, List.eraseDups_append, ← ih, last]
    by_cases there : v.identifier ∈ identifiers vs
    · rw [joined, if_pos (mem_identifiers_keepFirst.mpr there)]
      simp [List.removeAll, there]
    · rw [joined, if_neg (mt mem_identifiers_keepFirst.mp there), identifiers_append, last]
      simp [List.removeAll, there, List.eraseDups_cons]

theorem find?_keepFirst (vs : List Variable) (i : Identifier) :
    (keepFirst vs).find? (·.identifier = i) = vs.find? (·.identifier = i) := by
  induction vs using List.reverseRecOn with
  | nil => rfl
  | append_singleton vs v ih =>
    rw [keepFirst_concat, List.find?_append, ← ih]
    by_cases there : v.identifier ∈ identifiers (keepFirst vs)
    · rw [joined, if_pos there]
      by_cases same : v.identifier = i
      · subst same
        obtain ⟨w, found⟩ := Option.isSome_iff_exists.mp (mem_identifiers_iff_find?.mp there)
        rw [found]
        rfl
      · simp [same]
    · rw [joined, if_neg there, List.find?_append]

def filed (vs : List Variable) : List (Identifier × Variable) :=
  vs.foldl (fun entries v =>
    match Entries.get? v.identifier entries with
    | some _ => entries
    | none => Entries.put v.identifier v entries) []

theorem get?_map_identifier (vs : List Variable) (i : Identifier) :
    Entries.get? i (vs.map fun v => (v.identifier, v)) = vs.find? (·.identifier = i) := by
  induction vs with
  | nil => rfl
  | cons v vs ih =>
    rw [List.map_cons, Entries.get?, List.find?_cons, ih]
    by_cases same : v.identifier = i <;> simp [same]

theorem filed_eq (vs : List Variable) :
    filed vs = (keepFirst vs).map fun v => (v.identifier, v) := by
  induction vs using List.reverseRecOn with
  | nil => rfl
  | append_singleton vs v ih =>
    have last : filed (vs ++ [v]) = match Entries.get? v.identifier (filed vs) with
        | some _ => filed vs
        | none => Entries.put v.identifier v (filed vs) := by
      rw [filed, List.foldl_append]
      rfl
    have found := get?_map_identifier (keepFirst vs) v.identifier
    rw [← ih] at found
    rw [last, found, keepFirst_concat]
    by_cases there : v.identifier ∈ identifiers (keepFirst vs)
    · obtain ⟨w, is⟩ := Option.isSome_iff_exists.mp (mem_identifiers_iff_find?.mp there)
      rw [is, joined, if_pos there]
      exact ih
    · have none : (keepFirst vs).find? (·.identifier = v.identifier) = none :=
        Option.not_isSome_iff_eq_none.mp (mt mem_identifiers_iff_find?.mpr there)
      rw [none] at found
      rw [none, joined, if_neg there, List.map_append, ← ih]
      exact Entries.put_of_get?_eq_none found

end Projection

section Grouping

variable {es : List Entity} {e : Entity}

def grouped (es : List Entity) (e : Entity) : List Entity :=
  if es.any (·.equal e) then es else es ++ [e]

def Unequal (es : List Entity) : Prop := es.Pairwise fun e other => e.equal other = false

theorem unequal_grouped (h : Unequal es) (e : Entity) : Unequal (grouped es e) := by
  unfold grouped
  split
  · exact h
  · rename_i fresh
    refine List.pairwise_append.mpr ⟨h, List.pairwise_singleton _ _, fun x member y last => ?_⟩
    rw [List.mem_singleton.mp last]
    apply Bool.eq_false_iff.mpr
    exact fun same => fresh (List.any_eq_true.mpr ⟨x, member, same⟩)

theorem foldl_grouped (es us : List Entity) :
    us.foldl grouped es = List.eraseDupsBy.loop (fun e kept => kept.equal e) us es.reverse := by
  -- the loop has what it keeps in reverse
  induction us generalizing es with
  | nil => simp [List.eraseDupsBy.loop]
  | cons u us ih =>
    have step : List.eraseDupsBy.loop (fun e kept => kept.equal e) (u :: us) es.reverse =
        match es.reverse.any (·.equal u) with
        | true => List.eraseDupsBy.loop (fun e kept => kept.equal e) us es.reverse
        | false => List.eraseDupsBy.loop (fun e kept => kept.equal e) us (u :: es.reverse) := rfl
    rw [List.foldl_cons, ih, step, List.any_reverse, grouped]
    cases es.any (·.equal u) <;> simp

theorem foldl_grouped_of_unequal (h : Unequal es) : es.foldl grouped [] = es := by
  induction es using List.reverseRecOn with
  | nil => rfl
  | append_singleton es e ih =>
    obtain ⟨front, -, apart⟩ := List.pairwise_append.mp h
    have fresh : es.any (·.equal e) = false := by
      apply List.any_eq_false.mpr
      intro x member same
      rw [apart x member e (by simp)] at same
      cases same
    rw [List.foldl_append, ih front, List.foldl_cons, List.foldl_nil, grouped, fresh]
    rfl

theorem foldl_grouped_eq_eraseDupsBy (h : Unequal es) (us : List Entity) :
    us.foldl grouped es = (es ++ us).eraseDupsBy fun e kept => kept.equal e := by
  have whole := foldl_grouped [] (es ++ us)
  rw [List.foldl_append, foldl_grouped_of_unequal h] at whole
  exact whole

end Grouping

end SparqlCompose
