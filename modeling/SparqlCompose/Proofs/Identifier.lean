import SparqlCompose.Draft.Query

namespace SparqlCompose

namespace Identifier

section Splitting

variable {α : Type} {p : α → Bool}

theorem splitAfterLast_append_cons {sep : α} {word : List α} (before : List α)
    (splits : p sep = true) (clean : ∀ c ∈ word, p c = false) :
    splitAfterLast p (before ++ sep :: word) = (before ++ [sep], word) := by
  have kept : ∀ c ∈ word.reverse, (!p c) = true := by
    intro c member
    rw [clean c (List.mem_reverse.mp member)]
    rfl
  have turned : (before ++ sep :: word).reverse = word.reverse ++ sep :: before.reverse := by simp
  rw [splitAfterLast, turned, List.dropWhile_append_of_pos kept, List.takeWhile_append_of_pos kept]
  simp [splits]

theorem splitAfterLast_clean {cs : List α} :
    ∀ c ∈ (splitAfterLast p cs).2, p c = false := by
  intro c member
  have kept := List.all_eq_true.mp (List.all_takeWhile (p := (!p ·)) (l := cs.reverse)) c
    (List.mem_reverse.mp member)
  simpa using kept

theorem splitAfterLast_front (p : α → Bool) (cs : List α) :
    (splitAfterLast p cs).1 = [] ∨
      ∃ before sep, p sep = true ∧ (splitAfterLast p cs).1 = before ++ [sep] := by
  rw [splitAfterLast]
  cases left : cs.reverse.dropWhile (!p ·) with
  | nil => exact .inl rfl
  | cons sep rest =>
    have stops := List.head?_dropWhile_not (!p ·) cs.reverse
    rw [left] at stops
    exact .inr ⟨rest.reverse, sep, by simpa using stops, by simp⟩

end Splitting

theorem ofText?_append (before : List Char) {sep : Char} {word : List Char}
    (splits : isSeparator sep = true) (clean : ∀ c ∈ word, isSeparator c = false) :
    ofText? (String.ofList (before ++ [sep]) ++ String.ofList word) =
      some ⟨String.ofList (before ++ [sep]), String.ofList word⟩ := by
  have joined : String.ofList (before ++ [sep]) ++ String.ofList word =
      String.ofList (before ++ sep :: word) := by
    rw [← String.ofList_append]
    simp
  have some : (String.ofList (before ++ sep :: word)).isEmpty = false := by
    simp
  rw [joined, ofText?, some, if_neg Bool.false_ne_true, String.toList_ofList,
    splitAfterLast_append_cons before splits clean]

def IsSpace (space : String) : Prop :=
  ∃ before sep, isSeparator sep = true ∧ space = String.ofList (before ++ [sep])

theorem isSpace_of_getLast? {space : String}
    (closed : (space.toList.getLast?.any isSeparator) = true) : IsSpace space := by
  obtain ⟨sep, last, splits⟩ := (Option.any_eq_true _ _).mp closed
  obtain ⟨before, whole⟩ := List.getLast?_eq_some_iff.mp last
  refine ⟨before, sep, splits, ?_⟩
  rw [← whole, String.ofList_toList]

theorem IsSpace.ofText?_eq {space name : String} (closed : IsSpace space)
    (clean : (name.toList.any isSeparator) = false) :
    ofText? (space ++ name) = some ⟨space, name⟩ := by
  obtain ⟨before, sep, splits, rfl⟩ := closed
  have none : ∀ c ∈ name.toList, isSeparator c = false := by simpa using clean
  have parts := ofText?_append before splits none
  rw [String.ofList_toList] at parts
  exact parts

structure IsSplit (i : Identifier) : Prop where
  clean : ∀ c ∈ i.name.toList, isSeparator c = false
  closed : i.space = "" ∨ IsSpace i.space

theorem isSplit_of_ofText? {s : String} {i : Identifier} (h : ofText? s = some i) : i.IsSplit := by
  unfold ofText? at h
  split at h
  · cases h
  · cases h
    constructor
    · intro c member
      rw [String.toList_ofList] at member
      exact splitAfterLast_clean c member
    · rcases splitAfterLast_front isSeparator s.toList with none | ⟨before, sep, splits, front⟩
      · exact .inl (congrArg String.ofList none)
      · exact .inr ⟨before, sep, splits, congrArg String.ofList front⟩

theorem exists_ofText? {s : String} (h : s ≠ "") : ∃ i, ofText? s = some i := by
  have some : s.isEmpty = false := by simpa using h
  exact ⟨_, by rw [ofText?, some, if_neg Bool.false_ne_true]⟩

end Identifier

namespace Vocabulary

open Identifier

def spaces : List String := [queryVariable, dublinCore, rdfs, pollution, unit]

theorem isSpace_of_mem {space : String} (member : space ∈ spaces) : IsSpace space := by
  have closed : ∀ space ∈ spaces, (space.toList.getLast?.any isSeparator) = true := by
    decide +kernel
  exact isSpace_of_getLast? (closed space member)

theorem isSpace_queryVariable : IsSpace queryVariable := isSpace_of_mem (by simp [spaces])

theorem isSpace_dublinCore : IsSpace dublinCore := isSpace_of_mem (by simp [spaces])

theorem isSpace_rdfs : IsSpace rdfs := isSpace_of_mem (by simp [spaces])

theorem isSpace_pollution : IsSpace pollution := isSpace_of_mem (by simp [spaces])

theorem isSpace_unit : IsSpace unit := isSpace_of_mem (by simp [spaces])

end Vocabulary

namespace Computed

theorem isWord_of_mem_name {s : String} {x : Computed} (h : ofText? s = some x) :
    ∀ c ∈ x.name.toList, Text.isWord c = true := by
  unfold ofText? at h
  dsimp only at h
  split at h
  case h_2 => cases h
  split at h
  · obtain ⟨e, -, rfl⟩ := Option.map_eq_some_iff.mp h
    intro c member
    rw [String.toList_ofList, List.mem_reverse] at member
    exact List.all_eq_true.mp List.all_takeWhile c member
  · cases h

theorem ofText?_alias {s : String} {x : Computed} (h : ofText? s = some x) :
    Identifier.ofText? (Vocabulary.queryVariable ++ x.name) =
      some (Edit.sharedIdentifier x.name) := by
  have clean : ∀ c ∈ x.name.toList, Identifier.isSeparator c = false := by
    intro c member
    have word := isWord_of_mem_name h c member
    apply Bool.eq_false_iff.mpr
    intro separator
    rw [Identifier.isSeparator, Bool.or_eq_true, beq_iff_eq, beq_iff_eq] at separator
    rcases separator with rfl | rfl <;> exact absurd word (by decide +kernel)
  exact Vocabulary.isSpace_queryVariable.ofText?_eq (List.any_eq_false.mpr (by simpa using clean))

end Computed

end SparqlCompose
