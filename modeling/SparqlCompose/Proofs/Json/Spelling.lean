import Mathlib.Data.List.Chain
import SparqlCompose.Json.Printer
import SparqlCompose.Proofs.Json.Scalars

namespace SparqlCompose

namespace Point

def IsHigh : Point → Prop
  | .surrogate offset => offset.val < 0x400
  | .char _ => False

def IsLow : Point → Prop
  | .surrogate offset => 0x400 ≤ offset.val
  | .char _ => False

theorem ofNat_toNat (c : Char) : ofNat c.toNat = .char c := by
  have outside : ¬ (0xD800 ≤ c.toNat ∧ c.toNat < 0xE000) := by
    rcases c.valid with low | high
    · have below : c.toNat < 0xD800 := low
      omega
    · have above : 0xDFFF < c.toNat := high.1
      omega
  rw [ofNat, if_neg outside, Char.ofNat_toNat]

theorem ofNat_surrogate (offset : Fin 2048) : ofNat (0xD800 + offset) = .surrogate offset := by
  have inside : 0xD800 ≤ 0xD800 + offset.val ∧ 0xD800 + offset.val < 0xE000 := by omega
  rw [ofNat, if_pos inside, Nat.add_sub_cancel_left]
  exact congrArg surrogate (Fin.ofNat_val_eq_self offset)

theorem isHigh_ofNat_iff {n : Nat} : (ofNat n).IsHigh ↔ 0xD800 ≤ n ∧ n < 0xDC00 := by
  unfold ofNat
  split
  case isTrue inside =>
    have within : (n - 0xD800) % 2048 = n - 0xD800 := Nat.mod_eq_of_lt (by omega)
    show (n - 0xD800) % 2048 < 0x400 ↔ _
    omega
  case isFalse outside => exact ⟨False.elim, fun high => absurd high (by omega)⟩

theorem isLow_ofNat_iff {n : Nat} : (ofNat n).IsLow ↔ 0xDC00 ≤ n ∧ n < 0xE000 := by
  unfold ofNat
  split
  case isTrue inside =>
    have within : (n - 0xD800) % 2048 = n - 0xD800 := Nat.mod_eq_of_lt (by omega)
    show 0x400 ≤ (n - 0xD800) % 2048 ↔ _
    omega
  case isFalse outside => exact ⟨False.elim, fun low => absurd low (by omega)⟩

end Point

/-- No high surrogate stands in front of a low one, where the two would make up a character. -/
def RawText.IsJoined (r : RawText) : Prop := r.points.IsChain fun p q => ¬ (p.IsHigh ∧ q.IsLow)

theorem RawText.isJoined_ofString (s : String) : (RawText.ofString s).IsJoined := by
  have alone : ∀ cs : List Char,
      (cs.map Point.char).IsChain fun p q => ¬ (p.IsHigh ∧ q.IsLow) := by
    intro cs
    induction cs with
    | nil => exact .nil
    | cons c cs ih => exact List.isChain_cons.mpr ⟨fun q _ high => high.1, ih⟩
  exact alone s.toList

namespace Json

open Value Text

section Strings

theorem hexDigit?_hexDigit (d : Nat) (small : d < 16) : Text.hexDigit? (hexDigit d) = some d := by
  have each : ∀ d : Fin 16, Text.hexDigit? (hexDigit d) = some d.val := by decide
  exact each ⟨d, small⟩

theorem takeUnit_hexDigits {n : Nat} (small : n < 0x10000) (tail : List Point) :
    takeUnit ((hexDigits 4 n).map .char ++ tail) = .ok (n, tail) := by
  have digit (m : Nat) : hexDigit? (.char (hexDigit (m % 16))) = some (m % 16) :=
    hexDigit?_hexDigit _ (Nat.mod_lt _ (by decide))
  simp only [hexDigits, List.nil_append, List.cons_append, List.map_cons, List.map_nil, takeUnit,
    digit]
  congr 2
  omega

inductive Escaped : Point → List Char → Prop
  | plain {c : Char} (quote : c ≠ doubleQuote) (slash : c ≠ backslash) (printed : 32 ≤ c.toNat)
      (ascii : c.toNat < 127) : Escaped (.char c) [c]
  | short {c e : Char} (listed : (e, c) ∈ shortEscapes) (ascii : e.toNat < 127) :
      Escaped (.char c) [backslash, e]
  | unit {n : Nat} (small : n < 0x10000) : Escaped (.ofNat n) (unitEscape n)
  | pair {m : Nat} (small : m < 0x100000) : Escaped (.ofNat (0x10000 + m))
      (unitEscape (0xD800 + m / 0x400) ++ unitEscape (0xDC00 + m % 0x400))

theorem escaped_escapeChar (c : Char) : Escaped (.char c) (escapeChar c) := by
  unfold escapeChar
  dsimp only
  split
  case isTrue same =>
    rcases same with rfl | rfl
    · exact .short (by decide) (by decide)
    · exact .short (by decide) (by decide)
  case isFalse other =>
  obtain ⟨quote, slash⟩ := not_or.mp other
  split
  case isTrue same =>
    subst same
    exact .short (by decide) (by decide)
  split
  case isTrue same =>
    subst same
    exact .short (by decide) (by decide)
  split
  case isTrue same =>
    subst same
    exact .short (by decide) (by decide)
  split
  case isTrue same =>
    obtain rfl : c = '\x08' := Char.toNat_inj.mp same
    exact .short (by decide) (by decide)
  split
  case isTrue same =>
    obtain rfl : c = '\x0c' := Char.toNat_inj.mp same
    exact .short (by decide) (by decide)
  split
  case isTrue printed => exact .plain quote slash printed.1 printed.2
  split
  case isTrue small =>
    have written := Escaped.unit small
    rwa [Point.ofNat_toNat] at written
  case isFalse large =>
    have most : c.toNat < 0x110000 := by
      rcases c.valid with low | high
      · exact Nat.lt_trans low (by decide)
      · exact high.2
    have written := Escaped.pair (m := c.toNat - 0x10000) (by omega)
    rwa [Nat.add_sub_cancel' (by omega), Point.ofNat_toNat] at written

theorem escaped_escapePoint (p : Point) : Escaped p (escapePoint p) := by
  cases p with
  | char c => exact escaped_escapeChar c
  | surrogate offset =>
    have written := Escaped.unit (n := 0xD800 + offset) (by omega)
    rwa [Point.ofNat_surrogate] at written

theorem isUnit_hexDigits {n : Nat} (small : n < 0x10000) (tail : List Point) :
    IsUnit ((hexDigits 4 n).map .char ++ tail) n tail :=
  takeUnit_eq_ok_iff.mp (takeUnit_hexDigits small tail)

theorem alone_escaped {q : Point} {cs : List Char} (escaped : Escaped q cs) (other : ¬ q.IsLow)
    (n : Nat) (tail : List Point) : Alone n (cs.map .char ++ tail) := by
  rintro - ps k rest same unit low
  cases escaped with
  | plain quote slash => exact slash (Point.char.inj (List.cons.inj same).1)
  | short listed =>
    obtain ⟨second, -⟩ := List.cons.inj (List.cons.inj same).2
    rw [Point.char.inj second] at listed
    exact not_mem_shortEscapes _ listed
  | unit small =>
    obtain ⟨-, rfl⟩ := List.cons.inj (List.cons.inj same).2
    obtain ⟨rfl, -⟩ := unit.unique (isUnit_hexDigits small tail)
    exact other (Point.isLow_ofNat_iff.mpr low)
  | @pair m small =>
    rw [List.map_append, List.append_assoc] at same
    obtain ⟨-, rfl⟩ := List.cons.inj (List.cons.inj same).2
    obtain ⟨rfl, -⟩ := unit.unique (isUnit_hexDigits (by omega) _)
    omega

def inside (ps : List Point) (tail : List Point) : List Point :=
  (ps.flatMap escapePoint).map .char ++ .char doubleQuote :: tail

theorem inside_cons (p : Point) (ps tail : List Point) :
    inside (p :: ps) tail = (escapePoint p).map .char ++ inside ps tail := by
  simp [inside]

theorem alone_inside {ps : List Point} (other : ∀ q ∈ ps.head?, ¬ q.IsLow) (n : Nat)
    (tail : List Point) : Alone n (inside ps tail) := by
  cases ps with
  | nil =>
    rintro - ps k rest same
    exact absurd (List.cons.inj same).1 doubleQuote_ne_backslash
  | cons q ps =>
    rw [inside_cons]
    exact alone_escaped (escaped_escapePoint q) (other q rfl) n _

theorem letters_inside {ps : List Point} (joined : (RawText.mk ps).IsJoined) (tail : List Point) :
    Letters (inside ps tail) ps tail := by
  induction ps with
  | nil => exact .close
  | cons p ps ih =>
    obtain ⟨follows, others⟩ := List.isChain_cons.mp joined
    have more := ih others
    have escaped := escaped_escapePoint p
    rw [inside_cons]
    -- the escape is that of the code point, which tells how it is read
    generalize escapePoint p = cs at escaped
    cases escaped with
    | @plain c quote slash printed =>
      refine .plain (mt Point.char.inj quote) (mt Point.char.inj slash) ?_ more
      rintro _ ⟨⟩
      exact printed
    | short listed => exact .escape listed more
    | @unit n small =>
      refine .unit (isUnit_hexDigits small _) ?_ more
      by_cases high : 0xD800 ≤ n ∧ n < 0xDC00
      · exact alone_inside
          (fun q first low => follows q first ⟨Point.isHigh_ofNat_iff.mpr high, low⟩) n tail
      · exact fun high' => absurd high' high
    | @pair m small =>
      have first := isUnit_hexDigits (n := 0xD800 + m / 0x400) (by omega)
        ((unitEscape (0xDC00 + m % 0x400)).map .char ++ inside ps tail)
      have second := isUnit_hexDigits (n := 0xDC00 + m % 0x400) (by omega) (inside ps tail)
      have whole : 0x10000 + (0xD800 + m / 0x400 - 0xD800) * 0x400 +
          (0xDC00 + m % 0x400 - 0xDC00) = 0x10000 + m := by omega
      have read := Letters.pair first second (by omega) (by omega) more
      have character : Point.ofNat (0x10000 + m) = .char (Char.ofNat (0x10000 + m)) :=
        if_neg (by omega)
      rw [whole, ← character] at read
      rw [List.map_append, List.append_assoc]
      exact read

end Strings

section Integers

theorem eq_zero_of_toDigits {m : Nat} {ds : List Char} (zero : Nat.toDigits 10 m = '0' :: ds) :
    m = 0 := by
  induction m using Nat.strongRecOn generalizing ds with
  | _ m ih =>
    rw [Nat.toDigits_eq_if (by decide)] at zero
    split at zero
    case isTrue small =>
      have digits : ∀ m : Fin 10, Nat.digitChar m = '0' → m = 0 := by decide
      exact congrArg Fin.val (digits ⟨m, small⟩ (List.cons.inj zero).1)
    case isFalse large =>
      obtain ⟨c, cs, front⟩ :=
        List.exists_cons_of_ne_nil (Nat.toDigits_ne_nil (n := m / 10) (b := 10))
      rw [front, List.cons_append] at zero
      obtain ⟨rfl, -⟩ := List.cons.inj zero
      have none := ih (m / 10) (by omega) front
      omega

theorem ofDigits_toDigits (m : Nat) : Number.ofDigits 10 (digitValues (Nat.toDigits 10 m)) = m := by
  have read := Nat.ofDigitChars_ten_toDigits (n := m)
  rw [Nat.ofDigitChars_eq_foldl] at read
  rw [Number.ofDigits, digitValues, List.foldl_map]
  exact read

theorem isWholePart_toDigits (m : Nat) : IsWholePart (Nat.toDigits 10 m) := by
  refine ⟨⟨Nat.toDigits_ne_nil, ?_⟩, fun zero => ?_⟩
  · exact fun c member => Nat.isDigit_of_mem_toDigits (by decide) (by decide) member
  · obtain ⟨ds, front⟩ := List.head?_eq_some_iff.mp zero
    obtain rfl := eq_zero_of_toDigits front
    exact Nat.toDigits_zero 10

theorem isNumber_toDigits (negative : Bool) {m : Nat} (short : m < Nat.pow 10 Number.digitLimit) :
    IsNumber negative (Nat.toDigits 10 m) (.integer (Number.signed negative m)) := by
  have fits : (Nat.toDigits 10 m).length ≤ Number.digitLimit := by
    have positive : 0 < Number.digitLimit := by decide
    -- the power is not to be computed
    generalize Number.digitLimit = limit at short positive ⊢
    exact (Nat.length_toDigits_le_iff (by decide) positive).mpr short
  have number : IsNumber negative _ _ := .integer (isWholePart_toDigits m) fits
  rwa [ofDigits_toDigits] at number

end Integers

end Json

end SparqlCompose
