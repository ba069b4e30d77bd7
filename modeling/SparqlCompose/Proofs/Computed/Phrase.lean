import SparqlCompose.Draft.Expression
import SparqlCompose.Proofs.Text.Runs

namespace SparqlCompose

namespace Text

def IsGap (cs : List Char) : Prop := cs ≠ [] ∧ ∀ c ∈ cs, isBlank c = true

/-- The letters `as` of either case, also with the long s that folds to `s`. -/
def IsKeyword (cs : List Char) : Prop :=
  ∃ a s, cs = [a, s] ∧ a ∈ ['a', 'A'] ∧ s ∈ ['s', 'S', '\u017F']

def IsName (cs : List Char) : Prop :=
  ∃ c rest, cs = c :: rest ∧ isWordStart c = true ∧ ∀ d ∈ rest, isWord d = true

structure IsTrimmed (cs : List Char) : Prop where
  some : cs ≠ []
  first : ∀ c ∈ cs.head?, isBlank c = false
  last : ∀ c ∈ cs.getLast?, isBlank c = false

theorem isGap_singleton {c : Char} (blank : isBlank c = true) : IsGap [c] :=
  ⟨List.cons_ne_nil c [], List.forall_mem_singleton.mpr blank⟩

theorem IsName.isWord {cs : List Char} (h : IsName cs) : ∀ c ∈ cs, isWord c = true := by
  obtain ⟨c, rest, rfl, start, words⟩ := h
  intro d member
  rcases List.mem_cons.mp member with rfl | later
  · exact isWord_of_isWordStart start
  · exact words d later

theorem IsKeyword.isBlank {cs : List Char} (h : IsKeyword cs) : ∀ c ∈ cs, isBlank c = false := by
  obtain ⟨a, s, rfl, letterA, letterS⟩ := h
  have visible : ∀ c ∈ ['a', 'A', 's', 'S', '\u017F'], Text.isBlank c = false := by
    simp [Text.isBlank]
  intro c member
  apply visible
  rcases List.mem_cons.mp member with rfl | last
  · exact List.mem_append_left ['s', 'S', '\u017F'] letterA
  · rw [List.mem_singleton.mp last]
    exact List.mem_append_right ['a', 'A'] letterS

end Text

open Text

/-- The parts of a text that ends in an alias. -/
structure Phrase where
  expression : List Char
  before : List Char
  keyword : List Char
  behind : List Char
  name : List Char

namespace Phrase

def chars (x : Phrase) : List Char :=
  x.expression ++ x.before ++ x.keyword ++ x.behind ++ '?' :: x.name

def text (x : Phrase) : String := String.ofList x.chars

def computed (x : Phrase) : Computed := ⟨String.ofList x.expression, String.ofList x.name⟩

structure Fits (x : Phrase) : Prop where
  expression : IsTrimmed x.expression
  before : IsGap x.before
  keyword : IsKeyword x.keyword
  behind : IsGap x.behind
  name : IsName x.name

variable {x y : Phrase}

theorem reverse_chars (x : Phrase) :
    x.chars.reverse = x.name.reverse ++ '?' :: (x.behind.reverse ++ (x.keyword.reverse ++
      (x.before.reverse ++ x.expression.reverse))) := by
  simp [chars]

namespace Fits

theorem name_inside (h : x.Fits) : ∀ c ∈ x.name.reverse, isWord c = true :=
  fun c member => h.name.isWord c (List.mem_reverse.mp member)

theorem behind_inside (h : x.Fits) : ∀ c ∈ x.behind.reverse, isBlank c = true :=
  fun c member => h.behind.2 c (List.mem_reverse.mp member)

theorem before_inside (h : x.Fits) : ∀ c ∈ x.before.reverse, isBlank c = true :=
  fun c member => h.before.2 c (List.mem_reverse.mp member)

theorem name_stops (rest : List Char) : ∀ c ∈ ('?' :: rest).head?, isWord c = false := by
  have mark : isWord '?' = false := by decide +kernel
  rintro c ⟨⟩
  exact mark

theorem behind_stops (h : x.Fits) (rest : List Char) :
    ∀ c ∈ (x.keyword.reverse ++ rest).head?, isBlank c = false := by
  have visible := h.keyword.isBlank
  obtain ⟨a, s, is, -, -⟩ := h.keyword
  rw [is] at visible ⊢
  rintro c ⟨⟩
  exact visible s (by simp)

theorem before_stops (h : x.Fits) : ∀ c ∈ x.expression.reverse.head?, isBlank c = false := by
  rw [List.head?_reverse]
  exact h.expression.last

/-- A text has no two decompositions. -/
theorem unique (hx : x.Fits) (hy : y.Fits) (same : x.chars = y.chars) : x = y := by
  -- from the back every part ends where its characters do, and the expression is what remains
  have backwards := congrArg List.reverse same
  rw [reverse_chars, reverse_chars] at backwards
  obtain ⟨name, backwards⟩ := append_inj_of_stops hx.name_inside hy.name_inside
    (name_stops _) (name_stops _) backwards
  obtain ⟨behind, backwards⟩ := append_inj_of_stops hx.behind_inside hy.behind_inside
    (hx.behind_stops _) (hy.behind_stops _) (List.cons.inj backwards).2
  have length : x.keyword.reverse.length = y.keyword.reverse.length := by
    obtain ⟨a, s, is, -, -⟩ := hx.keyword
    obtain ⟨a', s', is', -, -⟩ := hy.keyword
    simp [is, is']
  obtain ⟨keyword, backwards⟩ := List.append_inj backwards length
  obtain ⟨before, expression⟩ := append_inj_of_stops hx.before_inside hy.before_inside
    hx.before_stops hy.before_stops backwards
  obtain ⟨e, b, k, w, n⟩ := x
  obtain ⟨e', b', k', w', n'⟩ := y
  simp only [List.reverse_inj] at name behind keyword before expression
  rw [name, behind, keyword, before, expression]

end Fits

end Phrase

namespace Computed

theorem isLetterA_iff (c : Char) : isLetterA c = true ↔ c ∈ ['a', 'A'] := by
  simp [isLetterA]

theorem isLetterS_iff (c : Char) : isLetterS c = true ↔ c ∈ ['s', 'S', '\u017F'] := by
  have long : c.toNat = 0x17F ↔ c = '\u017F' := Char.toNat_inj (d := '\u017F')
  simp [isLetterS, long, or_assoc]

theorem expressionBack?_of_fits {x : Phrase} (h : x.Fits) :
    expressionBack? (x.behind.reverse ++ (x.keyword.reverse ++
      (x.before.reverse ++ x.expression.reverse))) = some x.expression := by
  rw [expressionBack?, takeWhile_append h.behind_inside (h.behind_stops _),
    dropWhile_append h.behind_inside (h.behind_stops _)]
  obtain ⟨a, s, is, letterA, letterS⟩ := h.keyword
  obtain ⟨w, behind, gap⟩ := List.exists_cons_of_ne_nil (List.reverse_ne_nil_iff.mpr h.behind.1)
  obtain ⟨b, before, gap'⟩ := List.exists_cons_of_ne_nil (List.reverse_ne_nil_iff.mpr h.before.1)
  obtain ⟨e, rest, last⟩ :=
    List.exists_cons_of_ne_nil (List.reverse_ne_nil_iff.mpr h.expression.some)
  have turned : rest.reverse ++ [e] = x.expression := by
    rw [← List.reverse_cons, ← last, List.reverse_reverse]
  rw [← isLetterA_iff] at letterA
  rw [← isLetterS_iff] at letterS
  simp only [is, gap, List.reverse_cons, List.reverse_nil, List.nil_append, List.cons_append,
    letterA, letterS, Bool.and_self, if_true, takeWhile_append h.before_inside h.before_stops,
    dropWhile_append h.before_inside h.before_stops]
  simp only [gap', last, turned]

theorem exists_of_expressionBack? {back e : List Char} (h : expressionBack? back = some e) :
    ∃ before keyword behind, IsGap before ∧ IsKeyword keyword ∧ IsGap behind ∧ e ≠ [] ∧
      (∀ c ∈ e.getLast?, isBlank c = false) ∧
      back.reverse = e ++ before ++ keyword ++ behind := by
  unfold expressionBack? at h
  split at h
  case h_2 => cases h
  case h_1 w behind s a rest gap dropped =>
  split at h
  case isFalse => cases h
  case isTrue letters =>
  rw [Bool.and_eq_true, isLetterS_iff, isLetterA_iff] at letters
  split at h
  case h_2 => cases h
  case h_1 b before c cs gap' dropped' =>
  cases h
  have inside : ∀ {d ds} {xs : List Char}, xs.takeWhile isBlank = d :: ds →
      IsGap (d :: ds).reverse := by
    intro d ds xs taken
    refine ⟨by simp, fun c member => ?_⟩
    rw [List.mem_reverse, ← taken] at member
    exact List.all_eq_true.mp List.all_takeWhile c member
  have stops := stops_of_dropWhile isBlank rest
  rw [dropped'] at stops
  refine ⟨(b :: before).reverse, [a, s], (w :: behind).reverse, inside gap',
    ⟨a, s, rfl, letters.2, letters.1⟩, inside gap, by simp, ?_, ?_⟩
  · simpa using stops
  · rw [← List.takeWhile_append_dropWhile (p := isBlank) (l := back), gap, dropped,
      ← List.takeWhile_append_dropWhile (p := isBlank) (l := rest), gap', dropped']
    simp

theorem ofText?_of_fits {s : String} {p : Phrase} (fits : p.Fits)
    (chars : trim isBlank s.toList = p.chars) : ofText? s = some p.computed := by
  have named : isAlias p.name = true := by
    obtain ⟨c, rest, is, start, -⟩ := fits.name
    rw [is]
    exact start
  rw [ofText?, chars, Phrase.reverse_chars,
    takeWhile_append fits.name_inside (Phrase.Fits.name_stops _),
    dropWhile_append fits.name_inside (Phrase.Fits.name_stops _)]
  simp only [List.reverse_reverse, named, if_true, expressionBack?_of_fits fits, Option.map_some]
  rfl

theorem isName_of_isAlias {cs : List Char} (named : isAlias cs = true)
    (words : ∀ c ∈ cs, isWord c = true) : IsName cs := by
  cases cs with
  | nil => cases named
  | cons c rest =>
    exact ⟨c, rest, rfl, named, fun d later => words d (List.mem_cons_of_mem _ later)⟩

theorem exists_phrase {s : String} {x : Computed} (read : ofText? s = some x) :
    ∃ p : Phrase, p.Fits ∧ trim isBlank s.toList = p.chars ∧ x = p.computed := by
  unfold ofText? at read
  dsimp only at read
  split at read
  case h_2 => cases read
  case h_1 rest mark =>
  split at read
  case isFalse => cases read
  case isTrue named =>
  obtain ⟨e, back, rfl⟩ := Option.map_eq_some_iff.mp read
  obtain ⟨before, keyword, behind, gap, letters, gap', nonempty, last, whole⟩ :=
    exists_of_expressionBack? back
  have words : ∀ c ∈ ((trim isBlank s.toList).reverse.takeWhile isWord).reverse,
      isWord c = true := by
    intro c member
    exact List.all_eq_true.mp List.all_takeWhile c (List.mem_reverse.mp member)
  have chars : trim isBlank s.toList = e ++ before ++ keyword ++ behind ++
      '?' :: ((trim isBlank s.toList).reverse.takeWhile isWord).reverse := by
    have parts :=
      List.takeWhile_append_dropWhile (p := isWord) (l := (trim isBlank s.toList).reverse)
    rw [mark] at parts
    have turned := congrArg List.reverse parts
    rw [List.reverse_append, List.reverse_cons, whole, List.reverse_reverse] at turned
    exact turned.symm.trans (by simp)
  have first : ∀ c ∈ e.head?, isBlank c = false := by
    intro c first
    apply stops_of_trim isBlank s.toList
    rw [chars]
    simp [Option.mem_def.mp first]
  exact ⟨⟨e, before, keyword, behind, _⟩,
    ⟨⟨nonempty, first, last⟩, gap, letters, gap', isName_of_isAlias named words⟩, chars, rfl⟩

/-- A text describes a computed variable just when it is a phrase, the blanks around it aside. -/
theorem ofText?_eq_some_iff {s : String} {x : Computed} :
    ofText? s = some x ↔ ∃ p : Phrase, p.Fits ∧ strip s = p.text ∧ x = p.computed := by
  constructor
  · intro read
    obtain ⟨p, fits, chars, is⟩ := exists_phrase read
    exact ⟨p, fits, congrArg String.ofList chars, is⟩
  · rintro ⟨p, fits, stripped, rfl⟩
    exact ofText?_of_fits fits (String.ofList_injective stripped)

end Computed

end SparqlCompose
