import Mathlib.Data.List.DropRight
import SparqlCompose.Text.Blank
import SparqlCompose.Text.Word

namespace SparqlCompose.Text

section Stops

variable {α : Type} {p : α → Bool} {xs xs' ys ys' : List α}

theorem takeWhile_append (inside : ∀ c ∈ xs, p c = true) (stops : ∀ c ∈ ys.head?, p c = false) :
    (xs ++ ys).takeWhile p = xs := by
  rw [List.takeWhile_append_of_pos inside]
  cases ys with
  | nil => simp
  | cons y ys => simp [stops y rfl]

theorem dropWhile_append (inside : ∀ c ∈ xs, p c = true) (stops : ∀ c ∈ ys.head?, p c = false) :
    (xs ++ ys).dropWhile p = ys := by
  rw [List.dropWhile_append_of_pos inside]
  cases ys with
  | nil => rfl
  | cons y ys => simp [stops y rfl]

theorem append_inj_of_stops (inside : ∀ c ∈ xs, p c = true) (inside' : ∀ c ∈ xs', p c = true)
    (stops : ∀ c ∈ ys.head?, p c = false) (stops' : ∀ c ∈ ys'.head?, p c = false)
    (same : xs ++ ys = xs' ++ ys') : xs = xs' ∧ ys = ys' := by
  constructor
  · rw [← takeWhile_append inside stops, same, takeWhile_append inside' stops']
  · rw [← dropWhile_append inside stops, same, dropWhile_append inside' stops']

theorem stops_of_dropWhile (p : α → Bool) (cs : List α) :
    ∀ c ∈ (cs.dropWhile p).head?, p c = false := by
  intro c first
  have stops := List.head?_dropWhile_not p cs
  rw [Option.mem_def.mp first] at stops
  exact stops

theorem stops_of_trim (p : α → Bool) (cs : List α) :
    ∀ c ∈ (trim p cs).head?, p c = false := by
  intro c first
  obtain ⟨rest, whole⟩ : trim p cs <+: cs.dropWhile p := List.rdropWhile_prefix p _
  apply stops_of_dropWhile p cs
  rw [← whole, List.head?_append, Option.mem_def.mp first]
  rfl

theorem trim_of_stops {cs : List α} (first : ∀ c ∈ cs.head?, p c = false)
    (last : ∀ c ∈ cs.getLast?, p c = false) : trim p cs = cs := by
  have kept : ∀ {ds : List α}, (∀ c ∈ ds.head?, p c = false) → ds.dropWhile p = ds :=
    fun stops => dropWhile_append (List.forall_mem_nil _) stops
  rw [← List.head?_reverse] at last
  rw [trim, kept first, trimEnd, kept last, List.reverse_reverse]

theorem exists_trim (p : α → Bool) (cs : List α) :
    ∃ before after, cs = before ++ trim p cs ++ after ∧ ∀ c ∈ before ++ after, p c = true := by
  have front := List.takeWhile_append_dropWhile (p := p) (l := cs)
  have back := List.takeWhile_append_dropWhile (p := p) (l := (cs.dropWhile p).reverse)
  refine ⟨cs.takeWhile p, ((cs.dropWhile p).reverse.takeWhile p).reverse, ?_, ?_⟩
  · have turned := congrArg List.reverse back
    rw [List.reverse_append, List.reverse_reverse] at turned
    rw [List.append_assoc, trim, trimEnd, turned, front]
  · intro c member
    rcases List.mem_append.mp member with first | last
    · exact List.all_eq_true.mp List.all_takeWhile c first
    · exact List.all_eq_true.mp List.all_takeWhile c (List.mem_reverse.mp last)

theorem trim_append {before cs after : List α} (around : ∀ c ∈ before ++ after, p c = true)
    (some : cs ≠ []) (first : ∀ c ∈ cs.head?, p c = false)
    (last : ∀ c ∈ cs.getLast?, p c = false) : trim p (before ++ cs ++ after) = cs := by
  obtain ⟨inFront, behind⟩ := List.forall_mem_append.mp around
  have front : ∀ c ∈ (cs ++ after).head?, p c = false := by
    rw [List.head?_append_of_ne_nil cs some]
    exact first
  have back : ∀ c ∈ cs.reverse.head?, p c = false := by
    rw [List.head?_reverse]
    exact last
  rw [trim, List.append_assoc, dropWhile_append inFront front, trimEnd, List.reverse_append,
    dropWhile_append (fun c member => behind c (List.mem_reverse.mp member)) back,
    List.reverse_reverse]

end Stops

theorem toNat_of_isAlpha {c : Char} (h : c.isAlpha = true) :
    65 ≤ c.toNat ∧ c.toNat ≤ 90 ∨ 97 ≤ c.toNat ∧ c.toNat ≤ 122 := by
  rcases Bool.or_eq_true_iff.mp h with upper | lower
  · exact .inl (of_decide_eq_true upper)
  · obtain ⟨least, most⟩ := Bool.and_eq_true_iff.mp lower
    exact .inr ⟨of_decide_eq_true least, of_decide_eq_true most⟩

theorem isWord_of_isWordStart {c : Char} (h : isWordStart c = true) : isWord c = true := by
  have letters : ∀ n ∈ List.range' 65 26 ++ List.range' 97 26 ++ [95, 0x130, 0x131, 0x17F, 0x212A],
      flips wordBounds n = true := by
    decide +kernel
  apply letters
  simp only [isWordStart, Bool.or_eq_true, beq_iff_eq] at h
  simp only [List.mem_append, List.mem_range'_1, List.mem_cons, List.not_mem_nil, or_false]
  rcases h with ((((letter | underscore) | dotted) | dotless) | long) | kelvin
  · have codes := toNat_of_isAlpha letter
    omega
  · subst underscore
    decide
  all_goals omega

def blankCodes : List Nat :=
  List.range' 9 5 ++ List.range' 28 5 ++ List.range' 0x2000 11 ++
    [0x85, 0xA0, 0x1680, 0x2028, 0x2029, 0x202F, 0x205F, 0x3000]

theorem toNat_of_isBlank {c : Char} (h : isBlank c = true) : c.toNat ∈ blankCodes := by
  simp only [isBlank, Bool.or_eq_true, Bool.and_eq_true, decide_eq_true_eq, beq_iff_eq] at h
  simp only [blankCodes, List.mem_append, List.mem_range'_1, List.mem_cons, List.not_mem_nil,
    or_false]
  omega

theorem isWord_of_isBlank {c : Char} (h : isBlank c = true) : isWord c = false := by
  have blanks : ∀ n ∈ blankCodes, flips wordBounds n = false := by decide +kernel
  exact blanks c.toNat (toNat_of_isBlank h)

end SparqlCompose.Text
