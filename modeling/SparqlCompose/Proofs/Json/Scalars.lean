import SparqlCompose.Proofs.Json.Members
import SparqlCompose.Proofs.Json.Strings
import SparqlCompose.Proofs.Number.Numeral
import SparqlCompose.Proofs.Number.Rounding

namespace SparqlCompose.Json

open Value Text

section Spaces

def spaces : List Char := [' ', '\t', '\n', '\r']

/-- What stands behind the space at the front. -/
def pastSpace (ps : List Point) : List Point :=
  ps.dropWhile fun p => spaces.any fun c => p == .char c

theorem skipSpace_eq : skipSpace = pastSpace := by
  funext ps
  rw [skipSpace, pastSpace]
  congr 1
  funext p
  simp [isSpace, spaces, Bool.or_assoc]

theorem spaces_cases {c : Char} (space : c ∈ spaces) :
    c = ' ' ∨ c = '\t' ∨ c = '\n' ∨ c = '\r' := by
  simpa [spaces] using space

theorem suffix_pastSpace (ps : List Point) : pastSpace ps <:+ ps := List.dropWhile_suffix _

theorem pastSpace_cons {c : Char} (solid : c ∉ spaces) (tail : List Point) :
    pastSpace (.char c :: tail) = .char c :: tail := by
  apply List.dropWhile_cons_of_neg
  rw [List.any_eq_true]
  rintro ⟨c', space, same⟩
  obtain rfl := Point.char.inj (beq_iff_eq.mp same)
  exact solid space

end Spaces

section Words

/-- The words that are values. -/
inductive Names : String → Value → Prop
  | null : Names "null" .null
  | yes : Names "true" (.boolean true)
  | no : Names "false" (.boolean false)
  | nan : Names "NaN" (.float .nan)
  | infinity : Names "Infinity" (.float (.infinite false))
  | negativeInfinity : Names "-Infinity" (.float (.infinite true))

theorem append_of_after? {word : List Char} {ps rest : List Point}
    (found : after? word ps = some rest) : ps = word.map .char ++ rest := by
  induction word generalizing ps with
  | nil =>
    cases found
    rfl
  | cons w ws ih =>
    cases ps with
    | nil => cases found
    | cons p ps =>
      rw [after?] at found
      split at found
      case isTrue same => rw [← same, ih found, List.map_cons, List.cons_append]
      case isFalse => cases found

theorem exists_of_word? {ps rest : List Point} {v : Value} (word : word? ps = some (v, rest)) :
    ∃ w, Names w v ∧ ps = w.toList.map .char ++ rest := by
  obtain ⟨⟨w, v'⟩, listed, found⟩ := List.exists_of_findSome?_eq_some word
  obtain ⟨rest', after, same⟩ := Option.map_eq_some_iff.mp found
  cases same
  refine ⟨w, ?_, append_of_after? after⟩
  simp only [words, List.mem_cons, List.not_mem_nil, or_false, Prod.mk.injEq] at listed
  rcases listed with ⟨rfl, rfl⟩ | ⟨rfl, rfl⟩ | ⟨rfl, rfl⟩ | ⟨rfl, rfl⟩ | ⟨rfl, rfl⟩ | ⟨rfl, rfl⟩
  · exact .null
  · exact .yes
  · exact .no
  · exact .nan
  · exact .infinity
  · exact .negativeInfinity

theorem Names.word?_eq {w : String} {v : Value} (names : Names w v) (rest : List Point) :
    word? (w.toList.map .char ++ rest) = some (v, rest) := by
  cases names <;> rfl

theorem Names.isDocument {w : String} {v : Value} (names : Names w v) : v.IsDocument := by
  cases names with
  | null => exact .null
  | yes | no => exact .boolean _
  | nan | infinity | negativeInfinity => exact .float trivial

theorem Names.exists_initials {w : String} {v : Value} (names : Names w v) :
    ∃ c d tail, w.toList = c :: d :: tail ∧ c.isDigit = false ∧ d.isDigit = false ∧
      c ≠ doubleQuote ∧ c ≠ '[' ∧ c ≠ '\x7b' := by
  cases names <;> exact ⟨_, _, _, rfl, by decide⟩

theorem word?_eq_none {c : Char} (digit : c.isDigit = true) (ps : List Point) :
    word? (.char c :: ps) = none ∧ word? (.char '-' :: .char c :: ps) = none := by
  have initials {qs rest : List Point} {v : Value} (word : word? qs = some (v, rest)) :
      ∃ (c d : Char) (tail : List Point), qs = .char c :: .char d :: tail ∧ c.isDigit = false ∧
        d.isDigit = false := by
    obtain ⟨w, names, rfl⟩ := exists_of_word? word
    obtain ⟨c, d, tail, whole, first, second, -⟩ := names.exists_initials
    exact ⟨c, d, _, by rw [whole]; rfl, first, second⟩
  constructor <;> apply Option.eq_none_iff_forall_ne_some.mpr <;> rintro ⟨v, rest⟩ word
  · obtain ⟨c', d, tail, same, first, -⟩ := initials word
    cases same
    rw [digit] at first
    cases first
  · obtain ⟨c', d, tail, same, -, second⟩ := initials word
    cases same
    rw [digit] at second
    cases second

end Words

section Numbers

open Number

def digitValues (cs : List Char) : List Nat := cs.map fun c => c.toNat - '0'.toNat

def IsDigits (cs : List Char) : Prop := cs ≠ [] ∧ ∀ c ∈ cs, c.isDigit = true

/-- Digits, of which the first is a zero only if it is the only one. -/
def IsWholePart (cs : List Char) : Prop := IsDigits cs ∧ (cs.head? = some '0' → cs = ['0'])

inductive Fraction : List Char → List Nat → Prop
  | absent : Fraction [] []
  | present {cs : List Char} (digits : IsDigits cs) : Fraction ('.' :: cs) (digitValues cs)

inductive Exponent : List Char → Int → Prop
  | absent : Exponent [] 0
  | present {mark : Char} {sign cs : List Char} (marks : mark = 'e' ∨ mark = 'E')
      (signs : sign ∈ [[], ['+'], ['-']]) (digits : IsDigits cs) :
      Exponent (mark :: (sign ++ cs)) (signed (sign = ['-']) (ofDigits 10 (digitValues cs)))

/-- What a number says, its minus sign, if it has one, being read. -/
inductive IsNumber (negative : Bool) : List Char → Value → Prop
  | integer {whole : List Char} (digits : IsWholePart whole) (short : whole.length ≤ digitLimit) :
      IsNumber negative whole (.integer (signed negative (ofDigits 10 (digitValues whole))))
  | float {whole fraction exponent : List Char} {ds : List Nat} {e : Int}
      (digits : IsWholePart whole) (behind : Fraction fraction ds) (scaled : Exponent exponent e)
      (given : fraction ++ exponent ≠ []) : IsNumber negative (whole ++ (fraction ++ exponent))
        (.float (decimal negative (digitValues whole) ds e))

/-- No number goes on with the code points. -/
def Halts (tail : List Point) : Prop :=
  ∀ c, tail.head? = some (.char c) → c.isDigit = false ∧ c ≠ '.' ∧ c ≠ 'e' ∧ c ≠ 'E'

theorem halts_cons {c : Char} (stops : c.isDigit = false ∧ c ≠ '.' ∧ c ≠ 'e' ∧ c ≠ 'E')
    (tail : List Point) : Halts (.char c :: tail) := by
  intro c' first
  obtain rfl := Point.char.inj (Option.some.inj first)
  exact stops

theorem halts_of_mem_spaces {c : Char} (space : c ∈ spaces) (tail : List Point) :
    Halts (.char c :: tail) := by
  apply halts_cons
  rcases spaces_cases space with rfl | rfl | rfl | rfl <;> decide

theorem Halts.of_pastSpace {ps : List Point} (halts : Halts (pastSpace ps)) : Halts ps := by
  cases ps with
  | nil => exact nofun
  | cons p ps =>
    by_cases space : spaces.any (p == .char ·) = true
    · obtain ⟨c, listed, same⟩ := List.any_eq_true.mp space
      rw [beq_iff_eq.mp same]
      exact halts_of_mem_spaces listed ps
    · have kept : pastSpace (p :: ps) = p :: ps := List.dropWhile_cons_of_neg space
      rwa [kept] at halts

section Digits

variable {cs rest : List Char}

theorem length_digitValues (cs : List Char) : (digitValues cs).length = cs.length :=
  List.length_map _

theorem filterMap_asciiDigit? (digits : ∀ c ∈ cs, c.isDigit = true) :
    cs.filterMap asciiDigit? = digitValues cs := by
  induction cs with
  | nil => rfl
  | cons c cs ih =>
    obtain ⟨first, others⟩ := List.forall_mem_cons.mp digits
    obtain ⟨least, most⟩ := Char.isDigit_iff_toNat.mp first
    have value : asciiDigit? c = some (c.toNat - 48) := if_pos ⟨least, most⟩
    rw [List.filterMap_cons_some value, ih others]
    rfl

theorem spanDigits_append (digits : ∀ c ∈ cs, c.isDigit = true)
    (stops : ∀ c ∈ rest.head?, c.isDigit = false) :
    spanDigits (cs ++ rest) = (digitValues cs, rest) := by
  rw [spanDigits, takeWhile_append digits stops, dropWhile_append digits stops,
    filterMap_asciiDigit? digits]

theorem exists_spanDigits (cs : List Char) : ∃ front rest, cs = front ++ rest ∧
    (∀ c ∈ front, c.isDigit = true) ∧ (∀ c ∈ rest.head?, c.isDigit = false) ∧
    spanDigits cs = (digitValues front, rest) := by
  have digits : ∀ c ∈ cs.takeWhile Char.isDigit, c.isDigit = true :=
    fun c member => List.all_eq_true.mp List.all_takeWhile c member
  refine ⟨cs.takeWhile Char.isDigit, cs.dropWhile Char.isDigit,
    List.takeWhile_append_dropWhile.symm, digits, stops_of_dropWhile _ cs, ?_⟩
  rw [spanDigits, filterMap_asciiDigit? digits]

theorem exists_of_spanDigits {d : Nat} {ds : List Nat} (spanned : spanDigits cs = (d :: ds, rest)) :
    ∃ front, IsDigits front ∧ cs = front ++ rest ∧ digitValues front = d :: ds := by
  obtain ⟨front, rest', rfl, digits, -, found⟩ := exists_spanDigits cs
  rw [found] at spanned
  obtain ⟨values, rfl⟩ := Prod.mk.inj spanned
  refine ⟨front, ⟨?_, digits⟩, rfl, values⟩
  rintro rfl
  cases values

theorem IsDigits.exists_cons (digits : IsDigits cs) :
    ∃ c tail, cs = c :: tail ∧ c.isDigit = true := by
  obtain ⟨c, tail, rfl⟩ := List.exists_cons_of_ne_nil digits.1
  exact ⟨c, tail, rfl, digits.2 c List.mem_cons_self⟩

theorem IsDigits.spanDigits_eq (digits : IsDigits cs)
    (stops : ∀ c ∈ rest.head?, c.isDigit = false) :
    ∃ d ds, digitValues cs = d :: ds ∧ spanDigits (cs ++ rest) = (d :: ds, rest) := by
  obtain ⟨c, tail, rfl⟩ := List.exists_cons_of_ne_nil digits.1
  exact ⟨_, _, rfl, spanDigits_append digits.2 stops⟩

theorem lt_of_mem_digitValues (digits : ∀ c ∈ cs, c.isDigit = true) :
    ∀ d ∈ digitValues cs, d < 10 := by
  intro d member
  obtain ⟨c, inside, rfl⟩ := List.mem_map.mp member
  have most : c.toNat ≤ 57 := (Char.isDigit_iff_toNat.mp (digits c inside)).2
  have zero : '0'.toNat = 48 := rfl
  omega

end Digits

section Parts

variable {cs rest : List Char}

theorem takeFraction?_append (digits : IsDigits cs) (stops : ∀ c ∈ rest.head?, c.isDigit = false) :
    takeFraction? ('.' :: (cs ++ rest)) = some (digitValues cs, rest) := by
  obtain ⟨d, ds, values, spanned⟩ := digits.spanDigits_eq stops
  rw [takeFraction?, spanned, values]

theorem takeFraction?_eq_none (other : ∀ c ∈ cs.head?, c ≠ '.') : takeFraction? cs = none := by
  unfold takeFraction?
  split
  · exact absurd rfl (other _ rfl)
  · rfl

theorem exists_of_takeFraction? {ds : List Nat} (found : takeFraction? cs = some (ds, rest)) :
    ∃ text, text ≠ [] ∧ Fraction text ds ∧ cs = text ++ rest := by
  unfold takeFraction? at found
  split at found
  case h_2 => cases found
  case h_1 cs =>
    split at found
    · cases found
    · rename_i ds rest' some spanned
      cases found
      cases values : ds with
      | nil => exact absurd values some
      | cons d ds =>
        rw [values] at spanned
        obtain ⟨front, digits, rfl, is⟩ := exists_of_spanDigits spanned
        rw [← is]
        exact ⟨'.' :: front, nofun, .present digits, rfl⟩

theorem takeExponent?_eq_none (other : ∀ c ∈ cs.head?, c ≠ 'e' ∧ c ≠ 'E') :
    takeExponent? cs = none := by
  cases cs with
  | nil => rfl
  | cons c cs =>
    obtain ⟨small, large⟩ := other c rfl
    exact if_neg (not_or.mpr ⟨small, large⟩)

theorem IsDigits.ne_sign (digits : IsDigits cs) :
    ∀ c ∈ (cs ++ rest).head?, c ≠ '+' ∧ c ≠ '-' := by
  obtain ⟨c, tail, rfl, digit⟩ := digits.exists_cons
  rintro _ ⟨⟩
  constructor <;> rintro rfl <;> exact absurd digit (by decide)

theorem Exponent.takeExponent?_append {text : List Char} {e : Int} (scaled : Exponent text e)
    (given : text ≠ []) (stops : ∀ c ∈ rest.head?, c.isDigit = false) :
    takeExponent? (text ++ rest) = some (e, rest) := by
  cases scaled with
  | absent => exact absurd rfl given
  | @present mark sign cs marks signs digits =>
    obtain ⟨d, ds, values, spanned⟩ := digits.spanDigits_eq stops
    rw [List.cons_append, List.append_assoc, takeExponent?, if_pos marks,
      takeSign_append signs digits.ne_sign]
    dsimp only
    rw [spanned, values]

theorem exists_of_takeExponent? {e : Int} (found : takeExponent? cs = some (e, rest)) :
    ∃ text, text ≠ [] ∧ Exponent text e ∧ cs = text ++ rest := by
  cases cs with
  | nil => cases found
  | cons mark cs =>
    rw [takeExponent?] at found
    split at found
    case isFalse => cases found
    case isTrue marks =>
    obtain ⟨sign, signs, whole, negative⟩ := takeSign_cases cs
    have minus : (takeSign cs).1 = decide (sign = ['-']) := by
      rw [Bool.eq_iff_iff, negative, decide_eq_true_iff]
    dsimp only at found
    split at found
    · cases found
    · rename_i ds rest' some spanned
      cases found
      cases values : ds with
      | nil => exact absurd values some
      | cons d ds =>
        rw [values] at spanned
        obtain ⟨front, digits, same, is⟩ := exists_of_spanDigits spanned
        rw [← is, minus]
        refine ⟨mark :: (sign ++ front), nofun, .present marks signs digits, ?_⟩
        rw [List.cons_append, List.append_assoc, ← same, ← whole]

end Parts

section Whole

variable {cs whole rest : List Char}

def wholeOf (cs : List Char) : List Nat × List Char :=
  match cs with
  | '0' :: rest => ([0], rest)
  | _ => spanDigits cs

theorem IsWholePart.wholeOf_append (digits : IsWholePart whole)
    (stops : ∀ c ∈ rest.head?, c.isDigit = false) :
    wholeOf (whole ++ rest) = (digitValues whole, rest) := by
  unfold wholeOf
  split
  case h_1 behind same =>
    obtain ⟨c, tail, front, -⟩ := digits.1.exists_cons
    rw [front, List.cons_append] at same
    obtain ⟨rfl, -⟩ := List.cons.inj same
    obtain rfl := digits.2 (congrArg List.head? front)
    cases front
    cases same
    rfl
  case h_2 => exact spanDigits_append digits.1.2 stops

theorem exists_of_wholeOf (given : (wholeOf cs).1.isEmpty = false) :
    ∃ whole, IsWholePart whole ∧ cs = whole ++ (wholeOf cs).2 ∧
      (wholeOf cs).1 = digitValues whole := by
  unfold wholeOf at given ⊢
  split at given
  case h_1 rest =>
    have zero : ∀ c ∈ ['0'], c.isDigit = true := List.forall_mem_singleton.mpr rfl
    exact ⟨['0'], ⟨⟨nofun, zero⟩, fun _ => rfl⟩, rfl, rfl⟩
  case h_2 other =>
    obtain ⟨front, rest, whole, digits, -, spanned⟩ := exists_spanDigits cs
    rw [spanned] at given ⊢
    have some : front ≠ [] := by
      rintro rfl
      cases given
    refine ⟨front, ⟨⟨some, digits⟩, fun zero => ?_⟩, whole, rfl⟩
    obtain ⟨tail, rfl⟩ := List.head?_eq_some_iff.mp zero
    exact absurd whole (other _)

end Whole

section Magnitudes

variable {negative : Bool} {cs rest : List Char} {v : Value}

def numberFrom (negative : Bool) (whole : List Nat) (rest : List Char) :
    Except Fault (Value × List Char) :=
  if whole.isEmpty then .error .malformed
  else
    match takeFraction? rest with
    | some (fraction, rest) =>
      match takeExponent? rest with
      | some (e, rest) => .ok (.float (decimal negative whole fraction e), rest)
      | none => .ok (.float (decimal negative whole fraction 0), rest)
    | none =>
      match takeExponent? rest with
      | some (e, rest) => .ok (.float (decimal negative whole [] e), rest)
      | none =>
        if whole.length ≤ digitLimit then
          .ok (.integer (signed negative (ofDigits 10 whole)), rest)
        else .error .malformed

theorem magnitude_eq (negative : Bool) (cs : List Char) :
    magnitude negative cs = numberFrom negative (wholeOf cs).1 (wholeOf cs).2 := by
  unfold magnitude
  split
  rename_i whole rest parts
  have same : wholeOf cs = (whole, rest) := parts
  rw [same]
  rfl

theorem exists_of_magnitude (read : magnitude negative cs = .ok (v, rest)) :
    ∃ front, IsNumber negative front v ∧ cs = front ++ rest := by
  rw [magnitude_eq, numberFrom] at read
  split at read
  case isTrue => cases read
  case isFalse given =>
  obtain ⟨whole, digits, parts, values⟩ := exists_of_wholeOf (Bool.eq_false_iff.mpr given)
  rw [parts]
  generalize (wholeOf cs).2 = behind at read
  rw [values] at read
  split at read
  case h_1 ds after found =>
    obtain ⟨fraction, some, fractional, rfl⟩ := exists_of_takeFraction? found
    split at read
    case h_1 e after found =>
      cases read
      obtain ⟨exponent, -, scaled, rfl⟩ := exists_of_takeExponent? found
      exact ⟨_, .float digits fractional scaled (by simp [some]), by simp⟩
    case h_2 =>
      cases read
      exact ⟨_, .float digits fractional .absent (by simp [some]), by simp⟩
  case h_2 =>
    split at read
    case h_1 e after found =>
      cases read
      obtain ⟨exponent, some, scaled, rfl⟩ := exists_of_takeExponent? found
      exact ⟨_, .float digits .absent scaled (by simp [some]), by simp⟩
    case h_2 =>
      split at read
      case isTrue short =>
        cases read
        rw [length_digitValues] at short
        exact ⟨whole, .integer digits short, rfl⟩
      case isFalse => cases read

theorem IsNumber.magnitude_append (number : IsNumber negative cs v)
    (stops : ∀ c ∈ rest.head?, c.isDigit = false ∧ c ≠ '.' ∧ c ≠ 'e' ∧ c ≠ 'E') :
    magnitude negative (cs ++ rest) = .ok (v, rest) := by
  have behind {exponent : List Char} {e : Int} (scaled : Exponent exponent e) :
      ∀ c ∈ (exponent ++ rest).head?, c.isDigit = false ∧ c ≠ '.' := by
    cases scaled with
    | absent => exact fun c first => ⟨(stops c first).1, (stops c first).2.1⟩
    | present marks =>
      rintro _ ⟨⟩
      rcases marks with rfl | rfl <;> decide
  have given {whole : List Char} (digits : IsWholePart whole) :
      (digitValues whole).isEmpty = false := by
    rw [List.isEmpty_eq_false_iff, digitValues, ne_eq, List.map_eq_nil_iff]
    exact digits.1.1
  have none := takeExponent?_eq_none fun c first => (stops c first).2.2
  cases number with
  | integer digits short =>
    rw [magnitude_eq, digits.wholeOf_append fun c first => (stops c first).1, numberFrom]
    simp only [given digits, Bool.false_eq_true, if_false, none,
      takeFraction?_eq_none fun c first => (stops c first).2.1, length_digitValues, short,
      if_true]
  | @float whole fraction exponent ds e digits fractional scaled some =>
    rw [magnitude_eq, List.append_assoc, List.append_assoc]
    cases fractional with
    | absent =>
      rw [List.nil_append, digits.wholeOf_append fun c first => (behind scaled c first).1,
        numberFrom]
      simp only [given digits, Bool.false_eq_true, if_false,
        takeFraction?_eq_none fun c first => (behind scaled c first).2,
        scaled.takeExponent?_append some fun c first => (stops c first).1]
    | @present text inside =>
      have front : ∀ c ∈ ('.' :: text ++ (exponent ++ rest)).head?, c.isDigit = false := by
        rintro _ ⟨⟩
        decide
      rw [digits.wholeOf_append front, numberFrom]
      simp only [given digits, Bool.false_eq_true, if_false, List.cons_append,
        takeFraction?_append inside fun c first => (behind scaled c first).1]
      by_cases written : exponent = []
      · subst written
        cases scaled
        simp only [List.nil_append, none]
      · simp only [scaled.takeExponent?_append written fun c first => (stops c first).1]

theorem IsNumber.exists_digit (number : IsNumber negative cs v) :
    ∃ c tail, cs = c :: tail ∧ c.isDigit = true := by
  cases number with
  | integer digits => exact digits.1.exists_cons
  | float digits =>
    obtain ⟨c, tail, rfl, digit⟩ := digits.1.exists_cons
    exact ⟨c, _, rfl, digit⟩

theorem IsNumber.isDocument (number : IsNumber negative cs v) : v.IsDocument := by
  cases number with
  | integer digits short =>
    refine .integer ?_
    rw [natAbs_signed]
    apply ofDigits_lt (lt_of_mem_digitValues digits.1.2)
    rwa [length_digitValues]
  | float => exact .float (isCanonical_decimal ..)

end Magnitudes

section Numerals

variable {negative : Bool} {cs : List Char} {ps rest : List Point} {v : Value}

theorem leading_append (cs : List Char) (tail : List Point) :
    leading (cs.map .char ++ tail) = cs ++ leading tail := by
  induction cs with
  | nil => rfl
  | cons c cs ih => rw [List.map_cons, List.cons_append, leading, ih, List.cons_append]

theorem exists_leading (ps : List Point) : ∃ tail, ps = (leading ps).map .char ++ tail := by
  induction ps with
  | nil => exact ⟨[], rfl⟩
  | cons p ps ih =>
    cases p with
    | char c =>
      obtain ⟨tail, whole⟩ := ih
      exact ⟨tail, by rw [leading, List.map_cons, List.cons_append, ← whole]⟩
    | surrogate offset => exact ⟨.surrogate offset :: ps, rfl⟩

theorem Halts.leading (halts : Halts rest) :
    ∀ c ∈ (Json.leading rest).head?, c.isDigit = false ∧ c ≠ '.' ∧ c ≠ 'e' ∧ c ≠ 'E' := by
  intro c first
  unfold Json.leading at first
  split at first
  · obtain rfl := Option.some.inj first
    exact halts _ rfl
  · cases first

theorem IsNumber.numeral_append (number : IsNumber negative cs v) (halts : Halts rest) :
    numeral negative (cs.map .char ++ rest) = .ok (v, rest) := by
  rw [numeral, leading_append, number.magnitude_append halts.leading]
  simp only [List.length_append, Nat.add_sub_cancel]
  rw [List.drop_left' (List.length_map _)]

theorem exists_of_numeral (read : numeral negative ps = .ok (v, rest)) :
    ∃ cs, IsNumber negative cs v ∧ ps = cs.map .char ++ rest := by
  rw [numeral] at read
  split at read
  case h_2 => cases read
  case h_1 v' left found =>
    cases read
    obtain ⟨cs, number, parts⟩ := exists_of_magnitude found
    obtain ⟨tail, whole⟩ := exists_leading ps
    have length : (leading ps).length - left.length = cs.length := by
      rw [parts, List.length_append, Nat.add_sub_cancel]
    refine ⟨cs, number, ?_⟩
    rw [parts, List.map_append, List.append_assoc] at whole
    rw [length, whole, List.drop_left' (List.length_map _)]

end Numerals

end Numbers

end SparqlCompose.Json
