import SparqlCompose.Draft.Sparql
import SparqlCompose.Proofs.Results
import SparqlCompose.Text.Blank

namespace SparqlCompose

open Text

inductive Line
  | opens (kind : GroupKind)
  | closes
  | pattern (text : String)
deriving DecidableEq

namespace Line

def openedBy (cs : List Char) : GroupKind :=
  if cs = "\x7b".toList then .plain
  else if cs = "OPTIONAL \x7b".toList then .optional
  else .graph (String.ofList ((cs.drop 7).take (cs.length - 10)))

def ofChars (cs : List Char) : Line :=
  if cs = ['\x7d'] then .closes
  else if cs.getLast? = some '\x7b' then .opens (openedBy cs)
  else .pattern (String.ofList cs)

/-- What a line is, its indentation left out. -/
def read (line : String) : Line := ofChars (line.toList.dropWhile isBlank)

def isOpening (line : String) : Bool :=
  match read line with
  | .opens _ => true
  | _ => false

def isClosing (line : String) : Bool := read line = .closes

end Line

def Starts (s : String) : Prop := ∃ c rest, s.toList = c :: rest ∧ isBlank c = false

theorem Starts.append {s : String} (h : Starts s) (t : String) : Starts (s ++ t) := by
  obtain ⟨c, rest, chars, visible⟩ := h
  exact ⟨c, rest ++ t.toList, by rw [String.toList_append, chars, List.cons_append], visible⟩

theorem starts_of_decide {s : String} (h : s.toList.head?.any (!isBlank ·) = true) : Starts s := by
  cases chars : s.toList with
  | nil =>
    rw [chars] at h
    cases h
  | cons c rest =>
    rw [chars] at h
    exact ⟨c, rest, chars, by simpa using h⟩

theorem starts_writeText (s : String) : Starts (Literal.writeText s) := by
  unfold Literal.writeText Literal.writeChars
  split
  · exact ⟨'\x22', _, by rw [String.toList_ofList]; rfl, by decide⟩
  · exact ⟨'\x22', _, by rw [String.toList_ofList]; rfl, by decide⟩

theorem starts_writtenLiteral (l : Literal) : Starts l.written := by
  have typed : ∀ value datatype, Starts (Literal.typed value datatype) := by
    intro value datatype
    exact (((starts_writeText value).append _).append _).append _ |>.append _
  cases l with
  | text s => exact starts_writeText s
  | integer n => exact typed _ _
  | float x => exact typed _ _
  | boolean b => exact typed _ _

theorem Term.starts_of_written {t : Term} {s : String} (written : t.written = .ok s) :
    Starts s := by
  cases t with
  | «variable» v =>
    cases written
    exact (starts_of_decide (s := "?") (by decide)).append _
  | blank b =>
    cases written
    exact (starts_of_decide (s := "_:") (by decide)).append _
  | literal l =>
    cases written
    exact starts_writtenLiteral l
  | resource r =>
    simp only [Term.written, writeIri] at written
    split at written
    · cases written
      exact ((starts_of_decide (s := "<") (by decide)).append _).append _
    · cases written

theorem Pattern.exists_of_written {p : Pattern} {text : String} (written : p.written = .ok text) :
    ∃ lead, Starts lead ∧ (text = lead ++ " ." ∨ text = lead ++ " . \x7d") := by
  obtain ⟨s, subject, written⟩ := exists_of_bind_eq_ok written
  obtain ⟨v, predicate, written⟩ := exists_of_bind_eq_ok written
  obtain ⟨o, object, written⟩ := exists_of_bind_eq_ok written
  have starts := Term.starts_of_written subject
  cases scope : p.graph with
  | none =>
    rw [scope] at written
    cases written
    exact ⟨_, (((starts.append " ").append v).append " ").append o, .inl rfl⟩
  | some g =>
    rw [scope] at written
    obtain ⟨graph, name, written⟩ := exists_of_bind_eq_ok written
    cases written
    refine ⟨"GRAPH " ++ graph ++ " \x7b " ++ (s ++ " " ++ v ++ " " ++ o), ?_, .inr ?_⟩
    · exact (((starts_of_decide (s := "GRAPH ") (by decide)).append _).append _).append _
    · simp only [String.append_assoc]

namespace Line

section Indented

variable {indent : String}

theorem blank_indentation (blank : isAllBlank indent = true) (level : Nat) :
    ∀ c ∈ (Draft.indentation indent level).toList, isBlank c = true := by
  induction level with
  | zero => simp [Draft.indentation]
  | succ level ih =>
    have first : Draft.indentation indent (level + 1) =
        indent ++ Draft.indentation indent level := by
      rw [Draft.indentation, List.replicate_succ, String.join_cons]
      rfl
    intro c member
    rw [first, String.toList_append] at member
    rcases List.mem_append.mp member with here | rest
    · exact List.all_eq_true.mp blank c here
    · exact ih c rest

theorem read_indented (blank : isAllBlank indent = true) (level : Nat) {s : String}
    (starts : Starts s) : read (Draft.indentation indent level ++ s) = ofChars s.toList := by
  obtain ⟨c, rest, chars, visible⟩ := starts
  rw [read, String.toList_append, List.dropWhile_append_of_pos (blank_indentation blank level),
    chars, List.dropWhile_cons_of_neg (by simp [visible])]

theorem read_closing (blank : isAllBlank indent = true) (level : Nat) :
    read (Draft.indentation indent level ++ "\x7d") = .closes := by
  rw [read_indented blank level (starts_of_decide (by decide))]
  rfl

theorem ofChars_graph (uri : String) :
    ofChars ("GRAPH <" ++ uri ++ "> \x7b").toList = .opens (.graph uri) := by
  have chars : ("GRAPH <" ++ uri ++ "> \x7b").toList =
      'G' :: 'R' :: 'A' :: 'P' :: 'H' :: ' ' :: '<' :: (uri.toList ++ ['>', ' ', '\x7b']) := by
    simp [String.toList_append]
  have last : ('G' :: 'R' :: 'A' :: 'P' :: 'H' :: ' ' :: '<' ::
      (uri.toList ++ ['>', ' ', '\x7b'])).getLast? = some '\x7b' := by
    simp [List.getLast?_cons, List.getLast?_append]
  rw [chars, ofChars, if_neg (by simp), last, if_pos rfl, openedBy, if_neg (by simp),
    if_neg (by simp)]
  simp

theorem read_opening (blank : isAllBlank indent = true) (level : Nat) (kind : GroupKind) :
    read (Draft.indentation indent level ++ Draft.opening kind) = .opens kind := by
  cases kind with
  | plain =>
    rw [Draft.opening, read_indented blank level (starts_of_decide (by decide))]
    rfl
  | optional =>
    rw [Draft.opening, read_indented blank level (starts_of_decide (by decide))]
    rfl
  | graph uri =>
    have starts : Starts ("GRAPH <" ++ uri ++ "> \x7b") :=
      ((starts_of_decide (s := "GRAPH <") (by decide)).append _).append _
    rw [Draft.opening, read_indented blank level starts, ofChars_graph]

theorem read_pattern (blank : isAllBlank indent = true) (level : Nat) {p : Pattern}
    {text : String} (written : p.written = .ok text) :
    read (Draft.indentation indent level ++ text) = .pattern text := by
  obtain ⟨lead, starts, ends⟩ := p.exists_of_written written
  have begins : Starts text := by
    rcases ends with rfl | rfl
    · exact starts.append _
    · exact starts.append _
  have shape : text.toList ≠ ['\x7d'] ∧ text.toList.getLast? ≠ some '\x7b' := by
    rcases ends with rfl | rfl <;>
      simp [String.toList_append, List.append_eq_cons_iff, List.getLast?_append]
  rw [read_indented blank level begins, ofChars, if_neg shape.1, if_neg shape.2,
    String.ofList_toList]

end Indented

end Line

end SparqlCompose
