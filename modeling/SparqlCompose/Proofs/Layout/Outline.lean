import SparqlCompose.Proofs.Draft.Lines
import SparqlCompose.Proofs.Layout.Line

namespace SparqlCompose

inductive Outline
  | pattern (text : String)
  | block (kind : GroupKind) (body : List Outline)

namespace Outline

mutual

def lines (indent : String) (level : Nat) : Outline → List String
  | .pattern text => [Draft.indentation indent level ++ text]
  | .block kind body =>
    (Draft.indentation indent level ++ Draft.opening kind) :: linesOf indent (level + 1) body ++
      [Draft.indentation indent level ++ "\x7d"]

def linesOf (indent : String) (level : Nat) : List Outline → List String
  | [] => []
  | o :: os => lines indent level o ++ linesOf indent level os

end

/-- Reads on behind the outlines that are done, the last one first. For each group that is still
open, `opened` has its kind and what was done when it was opened. -/
def readFrom (opened : List (GroupKind × List Outline)) (done : List Outline) :
    List String → Option (List Outline)
  | [] => if opened.isEmpty then some done.reverse else none
  | line :: rest =>
    match Line.read line with
    | .opens kind => readFrom ((kind, done) :: opened) [] rest
    | .pattern text => readFrom opened (.pattern text :: done) rest
    | .closes =>
      match opened with
      | [] => none
      | (kind, before) :: outer => readFrom outer (.block kind done.reverse :: before) rest

def read (ls : List String) : Option (List Outline) := readFrom [] [] ls

section Steps

variable {line : String} (opened : List (GroupKind × List Outline)) (done : List Outline)
  (rest : List String)

theorem readFrom_opens {kind : GroupKind} (shape : Line.read line = .opens kind) :
    readFrom opened done (line :: rest) = readFrom ((kind, done) :: opened) [] rest := by
  rw [readFrom.eq_def]
  simp only [shape]

theorem readFrom_pattern {text : String} (shape : Line.read line = .pattern text) :
    readFrom opened done (line :: rest) = readFrom opened (.pattern text :: done) rest := by
  rw [readFrom.eq_def]
  simp only [shape]

theorem readFrom_closes (shape : Line.read line = .closes) (kind : GroupKind)
    (before : List Outline) :
    readFrom ((kind, before) :: opened) done (line :: rest) =
      readFrom opened (.block kind done.reverse :: before) rest := by
  rw [readFrom.eq_def]
  simp only [shape]

theorem readFrom_unopened (shape : Line.read line = .closes) :
    readFrom [] done (line :: rest) = none := by
  rw [readFrom.eq_def]
  simp only [shape]

end Steps

end Outline

namespace Line

/-- The brackets match: no line closes a group unless one before it opens the group, and in the end
every group is closed. -/
structure Balanced (ls : List String) : Prop where
  closed : ls.countP isClosing = ls.countP isOpening
  opened : ∀ k, (ls.take k).countP isClosing ≤ (ls.take k).countP isOpening

theorem count_of_readFrom {opened : List (GroupKind × List Outline)} {done os : List Outline}
    {ls : List String} (h : Outline.readFrom opened done ls = some os) :
    ls.countP isClosing = opened.length + ls.countP isOpening ∧
      ∀ k, (ls.take k).countP isClosing ≤ opened.length + (ls.take k).countP isOpening := by
  induction ls generalizing opened done with
  | nil =>
    cases opened with
    | nil => simp
    | cons => cases h
  | cons line rest ih =>
    have step : ∀ {m : Nat},
        (∀ k, (rest.take k).countP isClosing ≤ m + (rest.take k).countP isOpening) →
        (if isClosing line then 1 else 0) + m ≤
          opened.length + (if isOpening line then 1 else 0) →
        ∀ k, ((line :: rest).take k).countP isClosing ≤
          opened.length + ((line :: rest).take k).countP isOpening := by
      intro m within enough k
      cases k with
      | zero => simp
      | succ k =>
        have later := within k
        rw [List.take_succ_cons, List.countP_cons, List.countP_cons]
        omega
    cases shape : read line with
    | opens kind =>
      rw [Outline.readFrom_opens _ _ _ shape] at h
      obtain ⟨total, within⟩ := ih h
      have opens : isOpening line = true ∧ isClosing line = false := by
        simp [isOpening, isClosing, shape]
      refine ⟨?_, step within ?_⟩
      · simp only [List.countP_cons, opens, List.length_cons] at total ⊢
        simp only [if_true, Bool.false_eq_true, if_false]
        omega
      · simp [opens]
    | pattern text =>
      rw [Outline.readFrom_pattern _ _ _ shape] at h
      obtain ⟨total, within⟩ := ih h
      have neither : isOpening line = false ∧ isClosing line = false := by
        simp [isOpening, isClosing, shape]
      refine ⟨?_, step within ?_⟩
      · simpa [List.countP_cons, neither] using total
      · simp [neither]
    | closes =>
      cases opened with
      | nil =>
        rw [Outline.readFrom_unopened _ _ shape] at h
        cases h
      | cons last outer =>
        rw [Outline.readFrom_closes _ _ _ shape] at h
        obtain ⟨total, within⟩ := ih h
        have closes : isOpening line = false ∧ isClosing line = true := by
          simp [isOpening, isClosing, shape]
        refine ⟨?_, step within ?_⟩
        · simp only [List.countP_cons, closes, List.length_cons] at total ⊢
          simp only [if_true, Bool.false_eq_true, if_false]
          omega
        · simp [closes, Nat.add_comm]

theorem balanced_of_read {ls : List String} {os : List Outline} (h : Outline.read ls = some os) :
    Balanced ls := by
  obtain ⟨total, within⟩ := count_of_readFrom h
  simp only [List.length_nil, Nat.zero_add] at total within
  exact ⟨total, within⟩

end Line

namespace Draft

/-- What elements of a group show in their written form. A thing that cannot be written shows
nothing. -/
inductive Shows (d : Draft) : List Element → List Outline → Prop
  | nil : d.Shows [] []
  | pattern {p : Pattern} {text : String} {es : List Element} {os : List Outline}
      (written : p.written = .ok text) (rest : d.Shows es os) :
    d.Shows (.pattern p :: es) (.pattern text :: os)
  | group {inner : GroupId} {body os : List Outline} {es : List Element}
      (inside : d.Shows (d.group inner).elements body) (rest : d.Shows es os) :
    d.Shows (.group inner :: es) (.block (d.group inner).kind body :: os)

variable {d d' : Draft} {indent : String}

theorem exists_shows {n level : Nat} {g : GroupId} {ls : List String}
    (written : d.lines indent n level g = .ok ls) :
    ∃ os, d.Shows (d.group g).elements os ∧ ls = Outline.linesOf indent level os := by
  induction n generalizing level g ls with
  | zero => cases written
  | succ n ih =>
    rw [lines_succ] at written
    obtain ⟨parts, made, written⟩ := exists_of_bind_eq_ok written
    cases written
    clear written
    generalize (d.group g).elements = es at made ⊢
    induction es generalizing parts with
    | nil =>
      cases made
      exact ⟨[], .nil, rfl⟩
    | cons e es rest =>
      rw [List.mapM_cons] at made
      obtain ⟨part, first, made⟩ := exists_of_bind_eq_ok made
      obtain ⟨parts, others, made⟩ := exists_of_bind_eq_ok made
      cases made
      obtain ⟨os, shown, later⟩ := rest parts others
      rw [List.flatten_cons, later]
      cases e with
      | stray thing => cases first
      | pattern p =>
        obtain ⟨text, is, first⟩ := exists_of_bind_eq_ok first
        cases first
        exact ⟨.pattern text :: os, .pattern is shown, by rw [Outline.linesOf, Outline.lines]⟩
      | group inner =>
        obtain ⟨body, deeper, first⟩ := exists_of_bind_eq_ok first
        cases first
        obtain ⟨inside, within, rfl⟩ := ih deeper
        exact ⟨.block _ inside :: os, .group within shown, by rw [Outline.linesOf, Outline.lines]⟩

/-- What is shown is read back, wherever in a text its lines stand. -/
theorem Shows.readFrom {es : List Element} {os : List Outline} (h : d.Shows es os)
    (blank : Text.isAllBlank indent = true) (level : Nat)
    (opened : List (GroupKind × List Outline)) (done : List Outline) (rest : List String) :
    Outline.readFrom opened done (Outline.linesOf indent level os ++ rest) =
      Outline.readFrom opened (os.reverse ++ done) rest := by
  induction h generalizing level opened done rest with
  | nil => rfl
  | pattern written _ later =>
    rw [Outline.linesOf, Outline.lines, List.append_assoc, List.singleton_append,
      Outline.readFrom_pattern _ _ _ (Line.read_pattern blank level written), later,
      List.reverse_cons, List.append_assoc, List.singleton_append]
  | group _ _ within later =>
    rw [Outline.linesOf, Outline.lines, List.append_assoc, List.cons_append, List.cons_append,
      Outline.readFrom_opens _ _ _ (Line.read_opening blank level _), List.append_assoc, within,
      List.singleton_append, Outline.readFrom_closes _ _ _ (Line.read_closing blank level), later]
    simp

theorem Shows.read {es : List Element} {os : List Outline} (h : d.Shows es os)
    (blank : Text.isAllBlank indent = true) (level : Nat) :
    Outline.read (Outline.linesOf indent level os) = some os := by
  have through := h.readFrom blank level [] [] []
  rw [List.append_nil, List.append_nil] at through
  rw [Outline.read, through, Outline.readFrom, List.isEmpty_nil, if_pos rfl, List.reverse_reverse]

/-- Two groups, of any drafts, that are written with the same lines under a blank indentation show
the same outline: the same patterns as they are written and groups of the same kinds, in the same
order and at the same depth. The outline is read back from the lines. The lines that open and close
groups match like brackets, and no line of a pattern can be taken for one of them, whatever its
terms are. -/
theorem lines_determine_outline (blank : Text.isAllBlank indent = true) {n n' level : Nat}
    {g g' : GroupId} {ls : List String} (written : d.lines indent n level g = .ok ls)
    (same : d'.lines indent n' level g' = .ok ls) :
    (∃ os, d.Shows (d.group g).elements os ∧ d'.Shows (d'.group g').elements os ∧
      Outline.linesOf indent level os = ls ∧ Outline.read ls = some os) ∧
    Line.Balanced ls ∧
    ∀ p : Pattern, ∀ text, p.written = .ok text → ∀ inner outer kind,
      indentation indent inner ++ text ≠ indentation indent outer ++ opening kind ∧
      indentation indent inner ++ text ≠ indentation indent outer ++ "\x7d" := by
  obtain ⟨os, shown, rfl⟩ := exists_shows written
  obtain ⟨os', shown', lines⟩ := exists_shows same
  have read := shown.read blank level
  have read' := shown'.read blank level
  rw [← lines, read] at read'
  cases read'
  refine ⟨⟨os, shown, shown', rfl, read⟩, Line.balanced_of_read read, ?_⟩
  intro p text is inner outer kind
  have shape := Line.read_pattern blank inner is
  constructor
  · intro equal
    rw [equal, Line.read_opening blank outer kind] at shape
    cases shape
  · intro equal
    rw [equal, Line.read_closing blank outer] at shape
    cases shape

def disguised (serial : Nat) : Pattern :=
  ⟨serial, .variable ⟨⟨0⟩, ⟨"", "\x7d"⟩⟩, .literal (.text "p"), .literal (.text "\x7d"),
    some (.literal (.text "g> \x7b"))⟩

def lookalikes : Draft where
  groups := #[⟨.plain, [.group ⟨1⟩, .group ⟨1⟩]⟩, ⟨.graph "g", [.pattern (disguised 0)]⟩,
    ⟨.optional, [.group ⟨1⟩, .group ⟨3⟩]⟩, ⟨.graph "g", [.pattern (disguised 1)]⟩]
  queries := #[]
  serial := 2
  journal := #[]

def lookalikeLines : List String :=
  ["GRAPH <g> \x7b", "GRAPH <g> \x7b> \x7b ?\x7d \"p\" \"\x7d\" . \x7d", "\x7d",
   "GRAPH <g> \x7b", "GRAPH <g> \x7b> \x7b ?\x7d \"p\" \"\x7d\" . \x7d", "\x7d"]

theorem lines_determine_outline_lookalikes :
    Text.isAllBlank "" = true ∧ lookalikes.lines "" 3 0 ⟨0⟩ = .ok lookalikeLines ∧
      lookalikes.lines "" 3 0 ⟨2⟩ = .ok lookalikeLines ∧
      (∃ os, lookalikes.Shows (lookalikes.group ⟨0⟩).elements os ∧
        lookalikes.Shows (lookalikes.group ⟨2⟩).elements os) ∧
      Line.Balanced lookalikeLines := by
  have blank : Text.isAllBlank "" = true := by decide
  have first : lookalikes.lines "" 3 0 ⟨0⟩ = .ok lookalikeLines := by rfl
  have second : lookalikes.lines "" 3 0 ⟨2⟩ = .ok lookalikeLines := by rfl
  obtain ⟨⟨os, shown, shown', -⟩, balanced, -⟩ := lines_determine_outline blank first second
  exact ⟨blank, first, second, ⟨os, shown, shown'⟩, balanced⟩

end Draft

end SparqlCompose
