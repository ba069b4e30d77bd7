import SparqlCompose.Json.Reader

namespace SparqlCompose.Json

open Text

/-- Four hexadecimal digits, the code unit that they stand for, and what follows. -/
inductive IsUnit : List Point → Nat → List Point → Prop
  | digits {a b c d : Char} {x y z w : Nat} {rest : List Point}
      (first : Text.hexDigit? a = some x) (second : Text.hexDigit? b = some y)
      (third : Text.hexDigit? c = some z) (fourth : Text.hexDigit? d = some w) :
      IsUnit (.char a :: .char b :: .char c :: .char d :: rest)
        (0x1000 * x + 0x100 * y + 0x10 * z + w) rest

/-- The code unit is no first half of a pair whose second half is written behind it. -/
def Alone (n : Nat) (behind : List Point) : Prop :=
  0xD800 ≤ n ∧ n < 0xDC00 → ∀ ps k rest, behind = .char backslash :: .char 'u' :: ps →
    IsUnit ps k rest → ¬ (0xDC00 ≤ k ∧ k < 0xE000)

def shortEscapes : List (Char × Char) :=
  [('\x22', '\x22'), ('\\', '\\'), ('/', '/'), ('b', '\x08'), ('f', '\x0c'), ('n', '\n'),
    ('r', '\r'), ('t', '\t')]

/-- The code points that a string stands for, from behind its opening quote to its closing one, and
what follows. -/
inductive Letters : List Point → List Point → List Point → Prop
  | close {rest : List Point} : Letters (.char doubleQuote :: rest) [] rest
  | pair {ps behind after letters rest : List Point} {high low : Nat}
      (first : IsUnit ps high (.char backslash :: .char 'u' :: behind))
      (second : IsUnit behind low after) (isHigh : 0xD800 ≤ high ∧ high < 0xDC00)
      (isLow : 0xDC00 ≤ low ∧ low < 0xE000) (more : Letters after letters rest) :
      Letters (.char backslash :: .char 'u' :: ps)
        (.char (Char.ofNat (0x10000 + (high - 0xD800) * 0x400 + (low - 0xDC00))) :: letters) rest
  | unit {ps behind letters rest : List Point} {n : Nat} (first : IsUnit ps n behind)
      (alone : Alone n behind) (more : Letters behind letters rest) :
      Letters (.char backslash :: .char 'u' :: ps) (.ofNat n :: letters) rest
  | escape {ps letters rest : List Point} {e c : Char} (short : (e, c) ∈ shortEscapes)
      (more : Letters ps letters rest) :
      Letters (.char backslash :: .char e :: ps) (.char c :: letters) rest
  | plain {ps letters rest : List Point} {p : Point} (quote : p ≠ doubleQuote)
      (slash : p ≠ backslash) (printed : ∀ c, p = .char c → 32 ≤ c.toNat)
      (more : Letters ps letters rest) : Letters (p :: ps) (p :: letters) rest

theorem doubleQuote_ne_backslash : Point.char doubleQuote ≠ .char backslash := by decide

section Units

variable {ps behind rest after : List Point} {n k : Nat} {p : Point}

theorem hexDigit?_eq_some_iff {x : Nat} :
    hexDigit? p = some x ↔ ∃ c, p = .char c ∧ Text.hexDigit? c = some x := by
  cases p with
  | char c => simp [hexDigit?]
  | surrogate => simp [hexDigit?]

theorem takeUnit_eq_ok_iff : takeUnit ps = .ok (n, rest) ↔ IsUnit ps n rest := by
  constructor
  · intro read
    unfold takeUnit at read
    split at read
    case h_2 => cases read
    case h_1 =>
      split at read
      case h_2 => cases read
      case h_1 x y z w first second third fourth =>
        cases read
        obtain ⟨a, rfl, first⟩ := hexDigit?_eq_some_iff.mp first
        obtain ⟨b, rfl, second⟩ := hexDigit?_eq_some_iff.mp second
        obtain ⟨c, rfl, third⟩ := hexDigit?_eq_some_iff.mp third
        obtain ⟨d, rfl, fourth⟩ := hexDigit?_eq_some_iff.mp fourth
        have value : ((x * 16 + y) * 16 + z) * 16 + w =
            0x1000 * x + 0x100 * y + 0x10 * z + w := by omega
        rw [value]
        exact .digits first second third fourth
  · rintro ⟨first, second, third, fourth⟩
    simp only [takeUnit, hexDigit?, first, second, third, fourth]
    congr 2
    omega

theorem IsUnit.suffix (unit : IsUnit ps n rest) : rest <:+ ps := by
  cases unit
  exact ⟨[_, _, _, _], rfl⟩

theorem IsUnit.unique (unit : IsUnit ps n rest) (unit' : IsUnit ps k after) :
    n = k ∧ rest = after := by
  have read := takeUnit_eq_ok_iff.mpr unit
  rw [takeUnit_eq_ok_iff.mpr unit'] at read
  cases read
  exact ⟨rfl, rfl⟩

theorem escape?_eq_some_iff {e c : Char} :
    escape? (.char e) = some c ↔ (e, c) ∈ shortEscapes := by
  constructor
  · intro short
    unfold escape? at short
    dsimp only at short
    split at short
    case isTrue same =>
      cases short
      rcases same with rfl | rfl | rfl <;> decide
    case isFalse =>
      repeat' split at short
      all_goals cases short
      all_goals subst_vars; decide
  · intro listed
    simp only [shortEscapes, List.mem_cons, List.not_mem_nil, or_false, Prod.mk.injEq] at listed
    rcases listed with ⟨rfl, rfl⟩ | ⟨rfl, rfl⟩ | ⟨rfl, rfl⟩ | ⟨rfl, rfl⟩ | ⟨rfl, rfl⟩ |
      ⟨rfl, rfl⟩ | ⟨rfl, rfl⟩ | ⟨rfl, rfl⟩ <;> rfl

theorem not_mem_shortEscapes (c : Char) : ('u', c) ∉ shortEscapes := by
  simp [shortEscapes]

theorem isControl_eq_false_iff : isControl p = false ↔ ∀ c, p = .char c → 32 ≤ c.toNat := by
  cases p with
  | char c => simp [isControl]
  | surrogate => simp [isControl]

/-- What a code unit comes to: the character of a pair, or itself. -/
theorem joinUnits_cases (joined : joinUnits n behind = .ok (p, after)) :
    (∃ ps low, behind = .char backslash :: .char 'u' :: ps ∧ IsUnit ps low after ∧
      (0xD800 ≤ n ∧ n < 0xDC00) ∧ (0xDC00 ≤ low ∧ low < 0xE000) ∧
      p = .char (Char.ofNat (0x10000 + (n - 0xD800) * 0x400 + (low - 0xDC00)))) ∨
    p = .ofNat n ∧ after = behind ∧ Alone n behind := by
  rw [joinUnits.eq_def] at joined
  split at joined
  case isFalse other =>
    cases joined
    exact .inr ⟨rfl, rfl, fun high => absurd high other⟩
  case isTrue high =>
    split at joined
    case h_2 other =>
      cases joined
      exact .inr ⟨rfl, rfl, fun _ ps _ _ same => absurd same (other ps)⟩
    case h_1 ps =>
      split at joined
      case h_2 => cases joined
      case h_1 low rest read =>
        have second := takeUnit_eq_ok_iff.mp read
        split at joined
        case isTrue isLow =>
          obtain ⟨rfl, rfl⟩ := Prod.mk.inj (Except.ok.inj joined)
          exact .inl ⟨ps, low, rfl, second, high, isLow, if_neg (by omega)⟩
        case isFalse other =>
          obtain ⟨rfl, rfl⟩ := Prod.mk.inj (Except.ok.inj joined)
          refine .inr ⟨rfl, rfl, ?_⟩
          rintro - ps' k rest' same second'
          cases same
          rwa [← (second.unique second').1]

theorem joinUnits_pair (high : 0xD800 ≤ n ∧ n < 0xDC00) (second : IsUnit ps k after)
    (low : 0xDC00 ≤ k ∧ k < 0xE000) :
    joinUnits n (.char backslash :: .char 'u' :: ps) =
      .ok (.char (Char.ofNat (0x10000 + (n - 0xD800) * 0x400 + (k - 0xDC00))), after) := by
  rw [joinUnits.eq_def, if_pos high]
  have read := takeUnit_eq_ok_iff.mpr second
  have large : Point.ofNat (0x10000 + (n - 0xD800) * 0x400 + (k - 0xDC00)) =
      .char (Char.ofNat (0x10000 + (n - 0xD800) * 0x400 + (k - 0xDC00))) := if_neg (by omega)
  simp only [backslash, read, if_pos low, large]

theorem Letters.exists_unit {letters : List Point}
    (read : Letters (.char backslash :: .char 'u' :: ps) letters rest) :
    ∃ n behind, IsUnit ps n behind := by
  cases read with
  | pair first => exact ⟨_, _, first⟩
  | unit first => exact ⟨_, _, first⟩
  | escape short => exact absurd short (not_mem_shortEscapes _)
  | plain _ slash => exact absurd rfl slash

theorem joinUnits_alone {letters : List Point} (alone : Alone n behind)
    (more : Letters behind letters rest) : joinUnits n behind = .ok (.ofNat n, behind) := by
  rw [joinUnits.eq_def]
  split
  case isFalse => rfl
  case isTrue high =>
    split
    case h_2 => rfl
    case h_1 ps =>
      obtain ⟨k, after, second⟩ := more.exists_unit
      rw [takeUnit_eq_ok_iff.mpr second]
      exact if_neg (alone high ps k after rfl second)

end Units

theorem letters_of_string {fuel : Nat} {before ps rest : List Point} {r : RawText}
    (read : string fuel before ps = .ok (r, rest)) :
    ∃ letters, Letters ps letters rest ∧ r = ⟨before.reverse ++ letters⟩ := by
  induction fuel generalizing before ps with
  | zero => cases read
  | succ fuel ih =>
    cases ps with
    | nil => cases read
    | cons c ps =>
      rw [string.eq_def] at read
      dsimp only at read
      split at read
      case isTrue quote =>
        cases read
        exact ⟨[], quote ▸ .close, by simp⟩
      case isFalse quote =>
      split at read
      case isTrue slash =>
        subst slash
        split at read
        · split at read
          · rename_i hex
            have first := takeUnit_eq_ok_iff.mp hex
            split at read
            · rename_i joined
              obtain ⟨letters, more, rfl⟩ := ih read
              rcases joinUnits_cases joined with
                ⟨behind, low, rfl, second, high, isLow, rfl⟩ | ⟨rfl, rfl, alone⟩
              · exact ⟨_ :: letters, .pair first second high isLow more, by simp⟩
              · exact ⟨_ :: letters, .unit first alone more, by simp⟩
            · cases read
          · cases read
        · split at read
          · rename_i e _ _ _ c short
            obtain ⟨letters, more, rfl⟩ := ih read
            cases e with
            | char e => exact ⟨_ :: letters, .escape (escape?_eq_some_iff.mp short) more, by simp⟩
            | surrogate => cases short
          · cases read
        · cases read
      case isFalse slash =>
        split at read
        · cases read
        · rename_i printed
          obtain ⟨letters, more, rfl⟩ := ih read
          have printed := isControl_eq_false_iff.mp (Bool.eq_false_iff.mpr printed)
          exact ⟨c :: letters, .plain quote slash printed more, by simp⟩

theorem suffix_cons_cons (p q : Point) (ps : List Point) : ps <:+ p :: q :: ps :=
  (List.suffix_cons q ps).trans (List.suffix_cons p _)

theorem Letters.suffix {ps letters rest : List Point} (read : Letters ps letters rest) :
    rest <:+ ps := by
  induction read with
  | close => exact List.suffix_cons _ _
  | pair first second _ _ _ ih =>
    have behind := (suffix_cons_cons _ _ _).trans first.suffix
    exact ((ih.trans second.suffix).trans behind).trans (suffix_cons_cons _ _ _)
  | unit first _ _ ih => exact (ih.trans first.suffix).trans (suffix_cons_cons _ _ _)
  | escape _ _ ih => exact ih.trans (suffix_cons_cons _ _ _)
  | plain _ _ _ _ ih => exact ih.trans (List.suffix_cons _ _)

theorem string_of_letters {ps letters rest : List Point} (read : Letters ps letters rest)
    {n : Nat} (enough : ps.length < n) (before : List Point) :
    string n before ps = .ok (⟨before.reverse ++ letters⟩, rest) := by
  induction read generalizing n before with
  | close =>
    obtain ⟨fuel, rfl⟩ : ∃ fuel, n = fuel + 1 := ⟨n - 1, by omega⟩
    simp [string.eq_def]
  | @pair ps behind after letters rest high low first second isHigh isLow more ih =>
    obtain ⟨fuel, rfl⟩ : ∃ fuel, n = fuel + 1 := ⟨n - 1, by omega⟩
    have inner := first.suffix.length_le
    have shorter := second.suffix.length_le
    simp only [List.length_cons] at enough inner
    rw [string.eq_def]
    simp only [doubleQuote_ne_backslash.symm, if_false, if_true, takeUnit_eq_ok_iff.mpr first,
      joinUnits_pair isHigh second isLow]
    rw [ih (by omega)]
    simp
  | @unit ps behind letters rest unit first alone more ih =>
    obtain ⟨fuel, rfl⟩ : ∃ fuel, n = fuel + 1 := ⟨n - 1, by omega⟩
    have shorter := first.suffix.length_le
    simp only [List.length_cons] at enough
    rw [string.eq_def]
    simp only [doubleQuote_ne_backslash.symm, if_false, if_true, takeUnit_eq_ok_iff.mpr first,
      joinUnits_alone alone more]
    rw [ih (by omega)]
    simp
  | @escape ps letters rest e c short more ih =>
    obtain ⟨fuel, rfl⟩ : ∃ fuel, n = fuel + 1 := ⟨n - 1, by omega⟩
    simp only [List.length_cons] at enough
    have read := escape?_eq_some_iff.mpr short
    have other : Point.char e ≠ 'u' := by
      rintro ⟨⟩
      exact not_mem_shortEscapes c short
    generalize Point.char e = q at read other
    rw [string.eq_def]
    simp only [doubleQuote_ne_backslash.symm, if_false, if_true, read]
    rw [ih (by omega)]
    simp
  | @plain ps letters rest c quote slash printed more ih =>
    obtain ⟨fuel, rfl⟩ : ∃ fuel, n = fuel + 1 := ⟨n - 1, by omega⟩
    simp only [List.length_cons] at enough
    rw [string.eq_def]
    simp only [quote, slash, isControl_eq_false_iff.mpr printed, if_false]
    rw [ih (by omega)]
    simp

end SparqlCompose.Json
