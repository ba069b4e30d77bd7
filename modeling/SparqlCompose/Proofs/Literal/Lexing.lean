import SparqlCompose.Draft.Written

namespace SparqlCompose

open Text

/-- A part of a query: a character outside of the literals, or a literal with its value. -/
inductive Lexeme
  | plain (c : Char)
  | literal (value : List Char)
deriving DecidableEq

namespace Lexeme

def escaped? (c : Char) : Option Char :=
  if c = doubleQuote ∨ c = backslash ∨ c = apostrophe then some c
  else if c = 't' then some '\t'
  else if c = 'b' then some '\x08'
  else if c = 'n' then some '\n'
  else if c = 'r' then some '\r'
  else if c = 'f' then some '\x0c'
  else none

/-- Where the reader stands; within a literal it has read the characters before, the last one
first. -/
inductive Place
  | outside
  | short (before : List Char)
  | long (before : List Char)

def readFrom : Place → List Char → Option (List Lexeme)
  | .outside, [] => some []
  | _, [] => none
  | .outside, '\x22' :: '\x22' :: '\x22' :: rest => readFrom (.long []) rest
  | .outside, '\x22' :: rest => readFrom (.short []) rest
  | .outside, c :: rest => (readFrom .outside rest).map (plain c :: ·)
  | .short before, '\x22' :: rest => (readFrom .outside rest).map (literal before.reverse :: ·)
  | .short before, '\x5c' :: e :: rest =>
    (escaped? e).bind fun c => readFrom (.short (c :: before)) rest
  | .short before, c :: rest =>
    if c = backslash ∨ c = '\n' ∨ c = '\r' then none else readFrom (.short (c :: before)) rest
  | .long before, '\x22' :: '\x22' :: '\x22' :: rest =>
    (readFrom .outside rest).map (literal before.reverse :: ·)
  | .long before, '\x5c' :: e :: rest =>
    (escaped? e).bind fun c => readFrom (.long (c :: before)) rest
  | .long before, c :: rest =>
    if c = backslash then none else readFrom (.long (c :: before)) rest

/-- The lexemes of a text, unless a literal in it is not well formed. -/
def read (cs : List Char) : Option (List Lexeme) := readFrom .outside cs

section Steps

attribute [local simp] readFrom

variable {c : Char} {cs rest before : List Char}

theorem readFrom_plain (other : c ≠ doubleQuote) :
    readFrom .outside (c :: rest) = (readFrom .outside rest).map (plain c :: ·) :=
  readFrom.eq_5 c rest (fun _ same => absurd same other) other

theorem readFrom_append (unquoted : doubleQuote ∉ cs) (rest : List Char) :
    readFrom .outside (cs ++ rest) = (readFrom .outside rest).map (cs.map plain ++ ·) := by
  induction cs with
  | nil => simp
  | cons c cs ih =>
    rw [List.mem_cons, not_or] at unquoted
    obtain ⟨other, others⟩ := unquoted
    rw [List.cons_append, readFrom_plain (Ne.symm other), ih others, Option.map_map]
    rfl

def Single (c : Char) (rest : List Char) : Prop :=
  c = doubleQuote → ∀ after, rest ≠ doubleQuote :: doubleQuote :: after

theorem readFrom_openShort (single : Single doubleQuote rest) :
    readFrom .outside (doubleQuote :: rest) = readFrom (.short []) rest :=
  readFrom.eq_4 rest fun after => single rfl after

theorem readFrom_short_escape {e : Char} (escape : escaped? e = some c) :
    readFrom (.short before) (backslash :: e :: rest) = readFrom (.short (c :: before)) rest := by
  simp [backslash, escape]

theorem readFrom_short_char (quote : c ≠ doubleQuote) (slash : c ≠ backslash) (feed : c ≠ '\n')
    (ret : c ≠ '\r') :
    readFrom (.short before) (c :: rest) = readFrom (.short (c :: before)) rest := by
  rw [readFrom.eq_8 before c rest quote fun _ _ same => absurd same slash,
    if_neg (by simp [slash, feed, ret])]

theorem readFrom_long_escape {e : Char} (escape : escaped? e = some c) :
    readFrom (.long before) (backslash :: e :: rest) = readFrom (.long (c :: before)) rest := by
  simp [backslash, escape]

theorem readFrom_close :
    readFrom (.long before) (doubleQuote :: doubleQuote :: doubleQuote :: rest) =
      (readFrom .outside rest).map (literal before.reverse :: ·) := by
  simp [doubleQuote]

theorem readFrom_long_char (single : Single c rest) (slash : c ≠ backslash) :
    readFrom (.long before) (c :: rest) = readFrom (.long (c :: before)) rest := by
  rw [readFrom.eq_11 before c rest (fun after same => single same after)
    fun _ _ same => absurd same slash, if_neg slash]

end Steps

end Lexeme

end SparqlCompose
