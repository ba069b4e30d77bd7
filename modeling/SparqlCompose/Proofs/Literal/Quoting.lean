import SparqlCompose.Proofs.Literal.Lexing

namespace SparqlCompose.Literal

open Lexeme Text

theorem readFrom_short {cs : List Char} (flat : '\n' ∉ cs) (before rest : List Char) :
    readFrom (.short before) (cs.flatMap escapeShort ++ doubleQuote :: rest) =
      (readFrom .outside rest).map (literal (before.reverse ++ cs) :: ·) := by
  induction cs generalizing before with
  | nil => rw [List.flatMap_nil, List.nil_append, List.append_nil, doubleQuote, readFrom]
  | cons c cs ih =>
    rw [List.mem_cons, not_or] at flat
    obtain ⟨feed, flat⟩ := flat
    have step : readFrom (.short before) (escapeShort c ++ (cs.flatMap escapeShort ++
        doubleQuote :: rest)) =
          readFrom (.short (c :: before)) (cs.flatMap escapeShort ++ doubleQuote :: rest) := by
      unfold escapeShort
      split
      case isTrue special =>
        apply readFrom_short_escape
        rcases special with rfl | rfl <;> rfl
      case isFalse common =>
        rw [not_or] at common
        split
        case isTrue ret =>
          subst ret
          exact readFrom_short_escape rfl
        case isFalse ret => exact readFrom_short_char common.2 common.1 (Ne.symm feed) ret
    rw [List.flatMap_cons, List.append_assoc, step, ih flat]
    simp

def longChar (c : Char) : List Char := (doubleBackslash c).flatMap escapeReturn

def longForm : Char → List Char → List Char
  | _, '\x22' :: '\x22' :: '\x22' :: rest =>
    backslash :: '\x22' :: backslash :: '\x22' :: backslash :: '\x22' :: longForm '\x22' rest
  | p, ['\x22'] => if p = backslash then ['\x22'] else [backslash, '\x22']
  | _, c :: rest => longChar c ++ longForm c rest
  | _, [] => []

/-- What is left over of a text, behind the character `p`, when it has been read up to the first
three quotes. -/
def leftover : Char → List Char → List Char
  | p, [c] => if p = backslash ∧ c = doubleQuote then [doubleQuote] else []
  | _, p :: c :: rest => leftover p (c :: rest)
  | _, [] => []

theorem longChar_cases (c : Char) :
    (∃ e, longChar c = [backslash, e] ∧ escaped? e = some c) ∨
      (longChar c = [c] ∧ c ≠ backslash) := by
  unfold longChar doubleBackslash
  split
  case isTrue slash =>
    subst slash
    exact .inl ⟨backslash, rfl, rfl⟩
  case isFalse slash =>
    rw [List.flatMap_singleton, escapeReturn]
    split
    case isTrue ret =>
      subst ret
      exact .inl ⟨'r', rfl, rfl⟩
    case isFalse => exact .inr ⟨rfl, slash⟩

theorem longForm_cons {c : Char} (other : c ≠ doubleQuote) (p : Char) (rest : List Char) :
    longForm p (c :: rest) = longChar c ++ longForm c rest :=
  longForm.eq_3 p c rest (fun _ same => absurd same other) fun same => absurd same other

theorem exists_longForm_head {c : Char} (other : c ≠ doubleQuote) (p : Char) (rest : List Char) :
    ∃ front tail, longForm p (c :: rest) = front :: tail ∧ front ≠ doubleQuote := by
  rw [longForm_cons other]
  rcases longChar_cases c with ⟨e, is, -⟩ | ⟨is, -⟩
  · rw [is]
    exact ⟨backslash, _, rfl, by decide⟩
  · rw [is]
    exact ⟨c, _, rfl, other⟩

theorem single_longForm {c : Char} {rest : List Char}
    (triple : ∀ after, c = doubleQuote → rest ≠ doubleQuote :: doubleQuote :: after)
    (last : c = doubleQuote → rest ≠ []) (after : List Char) :
    Single c (longForm c rest ++ after) := by
  rintro rfl behind same
  cases rest with
  | nil => exact last rfl rfl
  | cons d rest =>
    by_cases first : d = doubleQuote
    · subst first
      cases rest with
      | nil => exact absurd (List.cons.inj same).1 (by decide)
      | cons e rest =>
        have second : e ≠ doubleQuote := by
          rintro rfl
          exact triple rest rfl rfl
        obtain ⟨front, tail, is, other⟩ := exists_longForm_head second doubleQuote rest
        have split : longForm doubleQuote (doubleQuote :: e :: rest) =
            doubleQuote :: longForm doubleQuote (e :: rest) :=
          longForm.eq_3 _ _ _ (fun _ _ pair => second (List.cons.inj pair).1) nofun
        rw [split, is] at same
        exact other (List.cons.inj (List.cons.inj same).2).1
    · obtain ⟨front, tail, is, other⟩ := exists_longForm_head first doubleQuote rest
      rw [is] at same
      exact other (List.cons.inj same).1

theorem leftover_cons {p c : Char} {rest : List Char} (trap : c = doubleQuote → rest ≠ []) :
    leftover p (c :: rest) = leftover c rest := by
  cases rest with
  | nil =>
    have other : c ≠ doubleQuote := fun same => trap same rfl
    simp [leftover, other]
  | cons d rest => rfl

/-- The text is read up to what is left over of it. -/
theorem readFrom_longForm (p : Char) (cs before rest : List Char) :
    ∃ kept, kept ++ leftover p cs = cs ∧
      readFrom (.long before)
          (longForm p cs ++ doubleQuote :: doubleQuote :: doubleQuote :: rest) =
        (readFrom .outside (leftover p cs ++ rest)).map (literal (before.reverse ++ kept) :: ·) := by
  induction p, cs using longForm.induct generalizing before with
  | case1 p cs ih =>
    obtain ⟨kept, whole, found⟩ := ih (doubleQuote :: doubleQuote :: doubleQuote :: before)
    have same : leftover p ('\x22' :: '\x22' :: '\x22' :: cs) = leftover '\x22' cs := by
      cases cs with
      | nil => rfl
      | cons => rfl
    refine ⟨doubleQuote :: doubleQuote :: doubleQuote :: kept, ?_, ?_⟩
    · rw [same]
      exact congrArg (doubleQuote :: doubleQuote :: doubleQuote :: ·) whole
    · have quote : escaped? doubleQuote = some doubleQuote := rfl
      rw [same, longForm]
      refine (readFrom_long_escape quote).trans ?_
      refine (readFrom_long_escape quote).trans ?_
      refine (readFrom_long_escape quote).trans ?_
      refine found.trans ?_
      simp
  | case2 =>
    -- the quote at the end stands as it is, so it closes the literal with the first two behind it
    refine ⟨[], rfl, ?_⟩
    rw [List.append_nil]
    exact readFrom_close
  | case3 p other =>
    have none : leftover p ['\x22'] = [] := by simp [leftover, other]
    refine ⟨[doubleQuote], by rw [none]; rfl, ?_⟩
    rw [none, longForm, if_neg other]
    refine (readFrom_long_escape (c := doubleQuote) rfl).trans ?_
    refine readFrom_close.trans ?_
    rw [List.reverse_cons]
    rfl
  | case4 p c cs triple last ih =>
    obtain ⟨kept, whole, found⟩ := ih (c :: before)
    rw [leftover_cons (fun quote => last quote), longForm.eq_3 p c cs triple last]
    refine ⟨c :: kept, congrArg (c :: ·) whole, ?_⟩
    have step : readFrom (.long before) (longChar c ++ longForm c cs ++
        doubleQuote :: doubleQuote :: doubleQuote :: rest) =
          readFrom (.long (c :: before)) (longForm c cs ++
            doubleQuote :: doubleQuote :: doubleQuote :: rest) := by
      rw [List.append_assoc]
      rcases longChar_cases c with ⟨e, is, escape⟩ | ⟨is, slash⟩
      · rw [is]
        exact readFrom_long_escape escape
      · rw [is]
        exact readFrom_long_char
          (single_longForm (fun after quote => triple after quote) (fun quote => last quote) _) slash
    rw [step, found]
    simp
  | case5 p =>
    refine ⟨[], rfl, ?_⟩
    rw [List.append_nil]
    exact readFrom_close

def guardEnd : Char → List Char → List Char
  | p, ['\x22'] => if p = backslash then ['\x22'] else [backslash, '\x22']
  | _, c :: rest => c :: guardEnd c rest
  | _, [] => []

theorem guardLast_of_quote {cs turned : List Char} {c : Char}
    (is : cs.reverse = '\x22' :: c :: turned) :
    guardLast cs =
      if c = backslash then cs else (doubleQuote :: backslash :: c :: turned).reverse := by
  unfold guardLast
  rw [is]
  rfl

theorem guardLast_of_other {cs turned : List Char} {c : Char} (other : c ≠ doubleQuote)
    (is : cs.reverse = c :: turned) : guardLast cs = cs := by
  unfold guardLast
  rw [is]
  split
  · rename_i same
    exact absurd (List.cons.inj same).1 other
  · rfl

theorem guardLast_cons (p c d : Char) (cs : List Char) :
    guardLast (p :: c :: d :: cs) = p :: guardLast (c :: d :: cs) := by
  cases turned : (c :: d :: cs).reverse with
  | nil => simp at turned
  | cons a rest =>
    have longer : (p :: c :: d :: cs).reverse = a :: (rest ++ [p]) := by
      rw [List.reverse_cons, turned]
      rfl
    by_cases quote : a = doubleQuote
    · subst quote
      cases rest with
      | nil =>
        have lengths := congrArg List.length turned
        simp at lengths
      | cons b rest =>
        rw [guardLast_of_quote turned, guardLast_of_quote longer]
        split
        · rfl
        · simp
    · rw [guardLast_of_other quote turned, guardLast_of_other quote longer]

theorem guardEnd_cons {c : Char} {cs : List Char} (within : c = doubleQuote → cs ≠ []) (p : Char) :
    guardEnd p (c :: cs) = c :: guardEnd c cs :=
  guardEnd.eq_2 p c cs within

theorem guardLast_eq (p : Char) (cs : List Char) : guardLast (p :: cs) = p :: guardEnd p cs := by
  induction cs generalizing p with
  | nil => simp [guardLast, guardEnd]
  | cons c cs ih =>
    cases cs with
    | nil =>
      by_cases quote : c = '\x22'
      · subst quote
        by_cases slash : p = backslash
        · simp [guardLast, guardEnd, slash]
        · simp [guardLast, guardEnd, slash, doubleQuote]
      · rw [guardEnd_cons fun same => absurd same quote]
        simp [guardLast, guardEnd, quote]
    | cons d cs => rw [guardLast_cons, ih, guardEnd_cons (c := c) fun _ => List.cons_ne_nil _ _]

theorem guardTriples_cons {c : Char} {cs : List Char}
    (single : ∀ after, c = doubleQuote → cs ≠ doubleQuote :: doubleQuote :: after) :
    guardTriples (c :: cs) = c :: guardTriples cs :=
  guardTriples.eq_2 c cs single

theorem guardTriples_ne_nil {cs : List Char} (some : cs ≠ []) : guardTriples cs ≠ [] := by
  unfold guardTriples
  split
  · exact nofun
  · exact nofun
  · exact absurd rfl some

theorem flatMap_doubleBackslash_ne_nil {cs : List Char} (some : cs ≠ []) :
    cs.flatMap doubleBackslash ≠ [] := by
  cases cs with
  | nil => exact absurd rfl some
  | cons c cs =>
    rw [List.flatMap_cons, doubleBackslash]
    split
    · exact nofun
    · exact nofun

theorem exists_of_flatMap_doubleBackslash {cs after : List Char}
    (is : cs.flatMap doubleBackslash = doubleQuote :: after) :
    ∃ cs', cs = doubleQuote :: cs' ∧ cs'.flatMap doubleBackslash = after := by
  cases cs with
  | nil => cases is
  | cons c cs =>
    rw [List.flatMap_cons, doubleBackslash] at is
    split at is
    case isTrue => exact absurd (List.cons.inj is).1 (by decide)
    case isFalse =>
      obtain ⟨rfl, rest⟩ := List.cons.inj is
      exact ⟨cs, rfl, rest⟩

theorem guarded_eq (p : Char) (cs : List Char) :
    (guardEnd p (guardTriples (cs.flatMap doubleBackslash))).flatMap escapeReturn =
      longForm p cs := by
  -- by the cases of the text itself: none of the three passes moves a quote into another case
  have slash : backslash ≠ doubleQuote := by decide
  induction p, cs using longForm.induct with
  | case1 p cs ih =>
    have ends (T : List Char) :
        guardEnd backslash ('\x22' :: T) = '\x22' :: guardEnd '\x22' T := by
      cases T with
      | nil => rfl
      | cons => rfl
    have triple : guardTriples (('\x22' :: '\x22' :: '\x22' :: cs).flatMap doubleBackslash) =
        backslash :: '\x22' :: backslash :: '\x22' :: backslash :: '\x22' ::
          guardTriples (cs.flatMap doubleBackslash) := rfl
    rw [triple, longForm, ← ih, guardEnd_cons fun same => absurd same slash, ends,
      guardEnd_cons fun same => absurd same slash, ends,
      guardEnd_cons fun same => absurd same slash, ends]
    rfl
  | case2 => rfl
  | case3 p other =>
    rw [longForm, if_neg other]
    show (guardEnd p ['\x22']).flatMap escapeReturn = _
    rw [guardEnd, if_neg other]
    rfl
  | case4 p c cs triple last ih =>
    rw [longForm.eq_3 p c cs triple last, ← ih, List.flatMap_cons, longChar]
    by_cases special : c = backslash
    · subst special
      have doubled : doubleBackslash backslash = [backslash, backslash] := rfl
      rw [doubled, List.cons_append, List.cons_append, List.nil_append,
        guardTriples_cons fun _ same => absurd same slash,
        guardTriples_cons fun _ same => absurd same slash,
        guardEnd_cons fun same => absurd same slash, guardEnd_cons fun same => absurd same slash]
      rfl
    · have kept : doubleBackslash c = [c] := if_neg special
      have apart : ∀ after, c = doubleQuote →
          cs.flatMap doubleBackslash ≠ doubleQuote :: doubleQuote :: after := by
        intro after quote same
        obtain ⟨cs', rfl, more⟩ := exists_of_flatMap_doubleBackslash same
        obtain ⟨cs'', rfl, -⟩ := exists_of_flatMap_doubleBackslash more
        exact triple cs'' quote rfl
      have within : c = doubleQuote → guardTriples (cs.flatMap doubleBackslash) ≠ [] :=
        fun quote => guardTriples_ne_nil (flatMap_doubleBackslash_ne_nil (last quote))
      rw [kept, List.singleton_append, guardTriples_cons apart, guardEnd_cons within,
        List.flatMap_cons, List.flatMap_singleton]
  | case5 p => rfl

theorem mem_guardTriples {c : Char} {cs : List Char} (member : c ∈ cs) : c ∈ guardTriples cs := by
  induction cs using guardTriples.induct with
  | case1 rest ih =>
    simp only [List.mem_cons, guardTriples] at member ⊢
    rcases member with same | same | same | later
    · exact .inr (.inl same)
    · exact .inr (.inl same)
    · exact .inr (.inl same)
    · simp only [ih later, or_true]
  | case2 d rest single ih =>
    rw [guardTriples.eq_2 d rest single]
    rcases List.mem_cons.mp member with rfl | later
    · exact List.mem_cons_self
    · exact List.mem_cons_of_mem _ (ih later)
  | case3 => cases member

theorem longBody_eq {cs : List Char} (broken : '\n' ∈ cs) : longBody cs = longForm ' ' cs := by
  have kept : '\n' ∈ guardTriples (cs.flatMap doubleBackslash) :=
    mem_guardTriples (List.mem_flatMap.mpr ⟨'\n', broken, List.mem_singleton.mpr rfl⟩)
  rw [longBody, ← guarded_eq]
  congr 1
  generalize guardTriples (cs.flatMap doubleBackslash) = guarded at kept
  cases guarded with
  | nil => cases kept
  | cons c rest =>
    have within : c = doubleQuote → rest ≠ [] := by
      rintro rfl rfl
      exact absurd (List.mem_singleton.mp kept) (by decide)
    rw [guardLast_eq, guardEnd_cons within]

theorem leftover_eq (p : Char) (cs : List Char) :
    leftover p cs = if [backslash, doubleQuote] <:+ p :: cs then [doubleQuote] else [] := by
  induction cs generalizing p with
  | nil =>
    have short : ¬ [backslash, doubleQuote] <:+ [p] := fun suffix => by
      have lengths := suffix.length_le
      simp at lengths
    rw [if_neg short]
    rfl
  | cons c cs ih =>
    cases cs with
    | nil =>
      have whole : [backslash, doubleQuote] <:+ [p, c] ↔ p = backslash ∧ c = doubleQuote := by
        constructor
        · intro suffix
          have same := suffix.eq_of_length rfl
          cases same
          exact ⟨rfl, rfl⟩
        · rintro ⟨rfl, rfl⟩
          exact List.suffix_rfl
      simp only [leftover, whole]
    | cons d cs =>
      have shorter : [backslash, doubleQuote] <:+ p :: c :: d :: cs ↔
          [backslash, doubleQuote] <:+ c :: d :: cs := by
        rw [List.suffix_cons_iff (a := p)]
        simp
      have step : leftover p (c :: d :: cs) = leftover c (d :: cs) := rfl
      rw [step, ih]
      simp only [shorter]

/-- The text has a line break and ends in a backslash and a quote. -/
def Spills (cs : List Char) : Prop := '\n' ∈ cs ∧ [backslash, doubleQuote] <:+ cs

instance (cs : List Char) : Decidable (Spills cs) :=
  inferInstanceAs (Decidable ('\n' ∈ cs ∧ [backslash, doubleQuote] <:+ cs))

theorem leftover_of_spills {cs : List Char} (spills : Spills cs) :
    leftover ' ' cs = [doubleQuote] := by
  rw [leftover_eq, if_pos (spills.2.trans (List.suffix_cons _ _))]

theorem leftover_of_not_spills {cs : List Char} (broken : '\n' ∈ cs) (kept : ¬ Spills cs) :
    leftover ' ' cs = [] := by
  rw [leftover_eq, if_neg]
  intro suffix
  rcases List.suffix_cons_iff.mp suffix with same | suffix
  · exact absurd (List.cons.inj same).1 (by decide)
  · exact kept ⟨broken, suffix⟩

theorem readFrom_long {cs : List Char} (broken : '\n' ∈ cs) (rest : List Char) :
    ∃ kept, kept ++ leftover ' ' cs = cs ∧ readFrom .outside (writeChars cs ++ rest) =
      (readFrom .outside (leftover ' ' cs ++ rest)).map (literal kept :: ·) := by
  obtain ⟨kept, whole, found⟩ := readFrom_longForm ' ' cs [] rest
  refine ⟨kept, whole, ?_⟩
  have form : writeChars cs ++ rest = doubleQuote :: doubleQuote :: doubleQuote ::
      (longForm ' ' cs ++ doubleQuote :: doubleQuote :: doubleQuote :: rest) := by
    rw [writeChars, if_pos (List.contains_iff_mem.mpr broken), longBody_eq broken]
    simp [List.replicate]
  rw [form, doubleQuote, readFrom.eq_3]
  exact found

theorem readFrom_writeChars_of_spills {cs : List Char} (spills : Spills cs) (rest : List Char) :
    readFrom .outside (writeChars cs ++ rest) =
      (readFrom .outside (doubleQuote :: rest)).map (literal cs.dropLast :: ·) := by
  obtain ⟨kept, whole, found⟩ := readFrom_long spills.1 rest
  rw [leftover_of_spills spills] at whole found
  rw [found, ← whole, List.dropLast_concat]
  rfl

/-- Any other text is read back as it is. -/
theorem readFrom_writeChars {cs rest : List Char} (kept : ¬ Spills cs)
    (apart : ∀ after, rest ≠ doubleQuote :: after) :
    readFrom .outside (writeChars cs ++ rest) = (readFrom .outside rest).map (literal cs :: ·) := by
  by_cases broken : '\n' ∈ cs
  · obtain ⟨kept', whole, found⟩ := readFrom_long broken rest
    rw [leftover_of_not_spills broken kept, List.append_nil] at whole
    rw [leftover_of_not_spills broken kept, whole] at found
    exact found
  · have form : writeChars cs ++ rest =
        doubleQuote :: (cs.flatMap escapeShort ++ doubleQuote :: rest) := by
      rw [writeChars, if_neg (mt List.contains_iff_mem.mp broken)]
      simp
    have single : Single doubleQuote (cs.flatMap escapeShort ++ doubleQuote :: rest) := by
      rintro - after same
      cases cs with
      | nil => exact apart after (List.cons.inj same).2
      | cons c cs =>
        rw [List.flatMap_cons, escapeShort] at same
        split at same
        · exact absurd (List.cons.inj same).1 (by decide)
        · rename_i common
          split at same
          · exact absurd (List.cons.inj same).1 (by decide)
          · exact common (.inr (List.cons.inj same).1)
    rw [form, readFrom_openShort single, readFrom_short broken]
    rfl

end SparqlCompose.Literal
