import Mathlib.Data.Nat.Digits.Lemmas
import SparqlCompose.Number.Read
import SparqlCompose.Proofs.Text.Runs

namespace SparqlCompose.Number

open Text

/-- One digit or more of any script, with at most one underscore between two of them, and their
values. -/
inductive Digits : List Char → List Nat → Prop
  | last {c : Char} {d : Nat} (digit : digitValue? c = some d) : Digits [c] [d]
  | next {c : Char} {d : Nat} {cs : List Char} {ds : List Nat} (digit : digitValue? c = some d)
      (rest : Digits cs ds) : Digits (c :: cs) (d :: ds)
  | spaced {c : Char} {d : Nat} {cs : List Char} {ds : List Nat} (digit : digitValue? c = some d)
      (rest : Digits cs ds) : Digits (c :: '_' :: cs) (d :: ds)

structure Numeral where
  before : List Char
  sign : List Char
  digits : List Char
  after : List Char
  values : List Nat

namespace Numeral

def chars (w : Numeral) : List Char := w.before ++ (w.sign ++ w.digits) ++ w.after

def size (w : Numeral) : Nat := Nat.ofDigits 10 w.values.reverse

def value (w : Numeral) : Int := if w.sign = ['-'] then -w.size else w.size

structure Fits (w : Numeral) : Prop where
  around : ∀ c ∈ w.before ++ w.after, isNumberBlank c = true
  sign : w.sign ∈ [[], ['+'], ['-']]
  digits : Digits w.digits w.values
  short : w.values.length ≤ digitLimit

end Numeral

section Characters

theorem toNat_of_digitValue? {c : Char} {d : Nat} (digit : digitValue? c = some d) :
    ∃ z ∈ digitZeros, z ≤ c.toNat ∧ c.toNat < z + 10 := by
  obtain ⟨z, found, -⟩ := Option.map_eq_some_iff.mp digit
  have inRun := List.find?_some found
  obtain ⟨least, most⟩ := Bool.and_eq_true_iff.mp inRun
  exact ⟨z, List.mem_of_find?_eq_some found, of_decide_eq_true least, of_decide_eq_true most⟩

theorem lt_of_digitValue? {c : Char} {d : Nat} (digit : digitValue? c = some d) : d < 10 := by
  obtain ⟨z, found, rfl⟩ := Option.map_eq_some_iff.mp digit
  have inRun := List.find?_some found
  obtain ⟨least, most⟩ := Bool.and_eq_true_iff.mp inRun
  have below : c.toNat < z + 10 := of_decide_eq_true most
  omega

theorem ne_of_digitValue? {c : Char} {d : Nat} (digit : digitValue? c = some d) :
    c ≠ '+' ∧ c ≠ '-' ∧ c ≠ '_' ∧ isNumberBlank c = false := by
  have apart : ∀ n ∈ ['+'.toNat, '-'.toNat, '_'.toNat] ++ blankCodes, ∀ z ∈ digitZeros,
      ¬ (z ≤ n ∧ n < z + 10) := by
    decide +kernel
  obtain ⟨z, known, inRun⟩ := toNat_of_digitValue? digit
  have other {n : Nat} (listed : n ∈ ['+'.toNat, '-'.toNat, '_'.toNat] ++ blankCodes) :
      c.toNat ≠ n := by
    rintro rfl
    exact apart _ listed z known inRun
  refine ⟨?_, ?_, ?_, ?_⟩
  · rintro rfl
    exact other (by simp) rfl
  · rintro rfl
    exact other (by simp) rfl
  · rintro rfl
    exact other (by simp) rfl
  · rw [Bool.eq_false_iff]
    intro blank
    have code := toNat_of_isBlank (Bool.and_eq_true_iff.mp blank).1
    exact other (List.mem_append_right _ code) rfl

end Characters

namespace Digits

theorem ne_nil {cs : List Char} {ds : List Nat} (h : Digits cs ds) : cs ≠ [] := by
  cases h <;> exact List.cons_ne_nil _ _

theorem first {cs : List Char} {ds : List Nat} (h : Digits cs ds) :
    ∀ c ∈ cs.head?, ∃ d, digitValue? c = some d := by
  cases h with
  | last digit | next digit | spaced digit =>
    rintro c ⟨⟩
    exact ⟨_, digit⟩

theorem lt {cs : List Char} {ds : List Nat} (h : Digits cs ds) : ∀ d ∈ ds, d < 10 := by
  induction h with
  | last digit => exact List.forall_mem_singleton.mpr (lt_of_digitValue? digit)
  | next digit _ ih | spaced digit _ ih =>
    exact List.forall_mem_cons.mpr ⟨lt_of_digitValue? digit, ih⟩

theorem final {cs : List Char} {ds : List Nat} (h : Digits cs ds) :
    ∀ c ∈ cs.getLast?, ∃ d, digitValue? c = some d := by
  induction h with
  | last digit =>
    rintro c ⟨⟩
    exact ⟨_, digit⟩
  | next _ rest ih =>
    rw [List.getLast?_cons, List.getLast?_eq_getLast_of_ne_nil rest.ne_nil] at *
    exact ih
  | spaced _ rest ih =>
    rw [List.getLast?_cons, List.getLast?_cons,
      List.getLast?_eq_getLast_of_ne_nil rest.ne_nil] at *
    exact ih

end Digits

inductive Tail : List Char → List Nat → Prop
  | done : Tail [] []
  | more {cs : List Char} {ds : List Nat} (rest : Digits cs ds) : Tail cs ds
  | spaced {cs : List Char} {ds : List Nat} (rest : Digits cs ds) : Tail ('_' :: cs) ds

theorem Tail.digits {c : Char} {d : Nat} {cs : List Char} {ds : List Nat} (h : Tail cs ds)
    (digit : digitValue? c = some d) : Digits (c :: cs) (d :: ds) := by
  cases h with
  | done => exact .last digit
  | more rest => exact .next digit rest
  | spaced rest => exact .spaced digit rest

theorem spacedDigits?_sound (cs : List Char) :
    ∀ afterDigit ds, spacedDigits? digitValue? afterDigit cs = some ds →
      if afterDigit then Tail cs ds else Digits cs ds := by
  induction cs with
  | nil =>
    intro afterDigit ds read
    cases afterDigit with
    | true =>
      cases read
      exact .done
    | false => cases read
  | cons c cs ih =>
    intro afterDigit ds read
    rw [spacedDigits?] at read
    by_cases underscore : c = '_'
    · subst underscore
      cases afterDigit with
      | true => exact .spaced (ih false ds read)
      | false => cases read
    · rw [if_neg underscore] at read
      split at read
      · rename_i d digit
        obtain ⟨rest, later, rfl⟩ := Option.map_eq_some_iff.mp read
        have whole := (ih true rest later).digits digit
        cases afterDigit with
        | true => exact .more whole
        | false => exact whole
      · cases read

theorem Digits.read {cs : List Char} {ds : List Nat} (h : Digits cs ds) :
    ∀ afterDigit, spacedDigits? digitValue? afterDigit cs = some ds := by
  induction h with
  | last digit | next digit _ ih | spaced digit _ ih =>
    intro afterDigit
    rw [spacedDigits?, if_neg (ne_of_digitValue? digit).2.2.1, digit]
    simp [spacedDigits?, *]

theorem spacedDigits?_eq_some_iff (cs : List Char) (ds : List Nat) :
    spacedDigits? digitValue? false cs = some ds ↔ Digits cs ds :=
  ⟨spacedDigits?_sound cs false ds, fun h => h.read false⟩

theorem ofDigits_eq (ds : List Nat) : ofDigits 10 ds = Nat.ofDigits 10 ds.reverse := by
  rw [Nat.ofDigits_eq_foldr, List.foldr_reverse, ofDigits]
  congr 1
  funext n d
  exact Nat.add_comm _ _

theorem natAbs_signed (negative : Bool) (n : Nat) : (signed negative n).natAbs = n := by
  cases negative <;> simp [signed]

theorem ofDigits_lt {ds : List Nat} (each : ∀ d ∈ ds, d < 10) (short : ds.length ≤ digitLimit) :
    ofDigits 10 ds < Nat.pow 10 digitLimit := by
  rw [ofDigits_eq]
  have bound := Nat.ofDigits_lt_base_pow_length (b := 10) (l := ds.reverse) (by decide)
    fun d member => each d (List.mem_reverse.mp member)
  rw [List.length_reverse] at bound
  -- the power is not to be computed
  generalize digitLimit = limit at short ⊢
  exact bound.trans_le (Nat.pow_le_pow_right (by decide) short)

theorem takeSign_cases (cs : List Char) :
    ∃ sign ∈ [[], ['+'], ['-']], cs = sign ++ (takeSign cs).2 ∧
      ((takeSign cs).1 = true ↔ sign = ['-']) := by
  unfold takeSign
  split
  · exact ⟨['-'], by simp, rfl, by simp⟩
  · exact ⟨['+'], by simp, rfl, by simp⟩
  · exact ⟨[], by simp, rfl, by simp⟩

theorem takeSign_append {sign rest : List Char} (known : sign ∈ [[], ['+'], ['-']])
    (plain : ∀ c ∈ rest.head?, c ≠ '+' ∧ c ≠ '-') :
    takeSign (sign ++ rest) = (decide (sign = ['-']), rest) := by
  simp only [List.mem_cons, List.not_mem_nil, or_false] at known
  rcases known with rfl | rfl | rfl
  · rw [List.nil_append, takeSign]
    · rfl
    · rintro rest' rfl
      exact (plain _ rfl).2 rfl
    · rintro rest' rfl
      exact (plain _ rfl).1 rfl
  · rfl
  · rfl

theorem Digits.ne_sign {cs : List Char} {ds : List Nat} (h : Digits cs ds) :
    ∀ c ∈ cs.head?, c ≠ '+' ∧ c ≠ '-' := by
  intro c first
  obtain ⟨d, digit⟩ := h.first c first
  obtain ⟨plus, minus, -⟩ := ne_of_digitValue? digit
  exact ⟨plus, minus⟩

theorem Numeral.Fits.trim_chars {w : Numeral} (h : w.Fits) :
    trim isNumberBlank w.chars = w.sign ++ w.digits := by
  have signs : ∀ sign ∈ [[], ['+'], ['-']], sign.all (!isNumberBlank ·) = true := by
    decide +kernel
  refine trim_append h.around ?_ ?_ ?_
  · exact fun empty => h.digits.ne_nil (List.append_eq_nil_iff.mp empty).2
  · intro c first
    rw [List.head?_append] at first
    cases start : w.sign.head? with
    | some s =>
      rw [start] at first
      cases first
      have fair := List.all_eq_true.mp (signs w.sign h.sign) c (List.mem_of_mem_head? start)
      rwa [Bool.not_eq_true'] at fair
    | none =>
      rw [start] at first
      obtain ⟨d, digit⟩ := h.digits.first c first
      exact (ne_of_digitValue? digit).2.2.2
  · intro c last
    rw [List.getLast?_append_of_ne_nil _ h.digits.ne_nil] at last
    obtain ⟨d, digit⟩ := h.digits.final c last
    exact (ne_of_digitValue? digit).2.2.2

theorem Numeral.signed_eq (w : Numeral) :
    signed (decide (w.sign = ['-'])) (ofDigits 10 w.values) = w.value := by
  rw [Numeral.value, Numeral.size, ofDigits_eq, signed]
  simp only [decide_eq_true_eq]

theorem Numeral.Fits.natAbs_value_lt {w : Numeral} (h : w.Fits) :
    w.value.natAbs < Nat.pow 10 digitLimit := by
  rw [← w.signed_eq, natAbs_signed]
  exact ofDigits_lt h.digits.lt h.short

/-- An integer is read from the numerals, and from no other text. -/
theorem readInteger?_eq_some_iff (s : String) (n : Int) :
    readInteger? s = some n ↔ ∃ w : Numeral, w.Fits ∧ w.chars = s.toList ∧ w.value = n := by
  constructor
  · intro read
    obtain ⟨before, after, whole, around⟩ := exists_trim isNumberBlank s.toList
    obtain ⟨sign, known, split, negative⟩ := takeSign_cases (trim isNumberBlank s.toList)
    unfold readInteger? at read
    dsimp only at read
    split at read
    · rename_i ds spaced
      split at read
      · rename_i short
        have digits := (spacedDigits?_eq_some_iff _ ds).mp spaced
        have minus : (takeSign (trim isNumberBlank s.toList)).1 = decide (sign = ['-']) := by
          rw [Bool.eq_iff_iff, negative, decide_eq_true_iff]
        refine ⟨⟨before, sign, _, after, ds⟩, ⟨around, known, digits, short⟩, ?_, ?_⟩
        · show before ++ (sign ++ _) ++ after = s.toList
          rw [← split]
          exact whole.symm
        · rw [← Numeral.signed_eq]
          dsimp only
          rw [← minus]
          exact Option.some.inj read
      · cases read
    · cases read
  · rintro ⟨w, fits, same, rfl⟩
    unfold readInteger?
    rw [← same, fits.trim_chars, takeSign_append fits.sign fits.digits.ne_sign]
    dsimp only
    rw [fits.digits.read false]
    dsimp only
    rw [if_pos fits.short, Numeral.signed_eq]

theorem integerIn?_eq_some_iff (r : RawText) (n : Int) :
    integerIn? r = some n ↔
      ∃ w : Numeral, w.Fits ∧ r.points = w.chars.map .char ∧ w.value = n := by
  rw [integerIn?, Option.bind_eq_some_iff]
  constructor
  · rintro ⟨s, plain, read⟩
    obtain rfl := RawText.toString?_eq_some_iff.mp plain
    obtain ⟨w, fits, same, is⟩ := (readInteger?_eq_some_iff s n).mp read
    exact ⟨w, fits, congrArg (List.map Point.char) same.symm, is⟩
  · rintro ⟨w, fits, same, is⟩
    refine ⟨String.ofList w.chars, RawText.toString?_eq_some_iff.mpr ?_, ?_⟩
    · rw [RawText.ofString, String.toList_ofList, ← same]
    · exact (readInteger?_eq_some_iff _ n).mpr ⟨w, fits, String.toList_ofList.symm, is⟩

end SparqlCompose.Number
