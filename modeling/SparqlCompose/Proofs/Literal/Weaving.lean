import SparqlCompose.Proofs.Literal.Quoting

namespace SparqlCompose.Literal

open Lexeme Text

def weave (parts : List (List Char × List Char)) (last : List Char) : List Char :=
  parts.flatMap (fun part => part.1 ++ writeChars part.2) ++ last

/-- What is meant by a woven text: the fixed parts stand for themselves, and each value is that of
one literal. -/
def woven (parts : List (List Char × List Char)) (last : List Char) : List Lexeme :=
  parts.flatMap (fun part => part.1.map plain ++ [literal part.2]) ++ last.map plain

def Clean (s : String) : Prop := doubleQuote ∉ s.toList ∧ backslash ∉ s.toList

instance (s : String) : Decidable (Clean s) :=
  inferInstanceAs (Decidable (doubleQuote ∉ s.toList ∧ backslash ∉ s.toList))

theorem clean_append {s t : String} : Clean (s ++ t) ↔ Clean s ∧ Clean t := by
  simp only [Clean, String.toList_append, List.mem_append, not_or]
  constructor
  · exact fun ⟨⟨quote, quote'⟩, slash, slash'⟩ => ⟨⟨quote, slash⟩, quote', slash'⟩
  · exact fun ⟨⟨quote, slash⟩, quote', slash'⟩ => ⟨⟨quote, quote'⟩, slash, slash'⟩

theorem clean_join {ss : List String} : Clean (String.join ss) ↔ ∀ s ∈ ss, Clean s := by
  induction ss with
  | nil => simp [Clean]
  | cons s ss ih => rw [String.join_cons, clean_append, ih, List.forall_mem_cons]

structure Fixed (cs : List Char) : Prop where
  unquoted : doubleQuote ∉ cs
  unescaped : backslash ∉ cs
  broken : '\n' ∈ cs

theorem Clean.fixed {s : String} (clean : Clean s) (broken : '\n' ∈ s.toList) : Fixed s.toList :=
  ⟨clean.1, clean.2, broken⟩

variable {part : List Char × List Char} {parts : List (List Char × List Char)} {last : List Char}

theorem weave_nil : weave [] last = last := by simp [weave]

theorem weave_cons : weave (part :: parts) last =
    part.1 ++ (writeChars part.2 ++ weave parts last) := by
  simp [weave]

theorem woven_cons : woven (part :: parts) last =
    part.1.map plain ++ literal part.2 :: woven parts last := by
  simp [woven]

theorem exists_weave_eq (fixed : ∀ part ∈ parts, Fixed part.1) (ending : Fixed last) :
    ∃ cs rest, Fixed cs ∧ weave parts last = cs ++ rest := by
  cases parts with
  | nil => exact ⟨last, [], ending, by rw [weave_nil, List.append_nil]⟩
  | cons part parts => exact ⟨part.1, _, fixed part List.mem_cons_self, weave_cons⟩

theorem Fixed.append_ne_quote {cs : List Char} (fixed : Fixed cs) (rest after : List Char) :
    cs ++ rest ≠ doubleQuote :: after := by
  intro same
  obtain ⟨c, cs', rfl⟩ := List.exists_cons_of_ne_nil (List.ne_nil_of_mem fixed.broken)
  obtain rfl := (List.cons.inj same).1
  exact fixed.unquoted List.mem_cons_self

theorem readFrom_short_broken {cs : List Char} (fixed : Fixed cs) (before rest : List Char) :
    readFrom (.short before) (cs ++ rest) = none := by
  obtain ⟨unquoted, unescaped, broken⟩ := fixed
  induction cs generalizing before with
  | nil => cases broken
  | cons c cs ih =>
    rw [List.mem_cons, not_or] at unquoted unescaped
    rw [List.cons_append, readFrom.eq_8 before c _ (Ne.symm unquoted.1)
      fun _ _ same => absurd same.symm unescaped.1]
    split
    · rfl
    · rename_i inside
      have later : '\n' ∈ cs := (List.mem_cons.mp broken).resolve_left
        fun same => inside (.inr (.inl same.symm))
      exact ih _ unquoted.2 unescaped.2 later

theorem Fixed.readFrom_quote {cs : List Char} (fixed : Fixed cs) (rest : List Char) :
    readFrom .outside (doubleQuote :: (cs ++ rest)) = none := by
  rw [readFrom_openShort fun _ after => fixed.append_ne_quote rest _,
    readFrom_short_broken fixed]

theorem read_weave (fixed : ∀ part ∈ parts, Fixed part.1) (ending : Fixed last)
    (kept : ∀ part ∈ parts, ¬ Spills part.2) :
    Lexeme.read (weave parts last) = some (woven parts last) := by
  unfold Lexeme.read
  induction parts with
  | nil =>
    have whole := readFrom_append ending.unquoted []
    rw [List.append_nil] at whole
    rw [weave_nil, whole]
    simp [woven, readFrom]
  | cons part parts ih =>
    obtain ⟨first, later⟩ := List.forall_mem_cons.mp fixed
    obtain ⟨here, there⟩ := List.forall_mem_cons.mp kept
    obtain ⟨cs, rest, separates, behind⟩ := exists_weave_eq later ending
    have apart : ∀ after, weave parts last ≠ doubleQuote :: after := by
      rw [behind]
      exact separates.append_ne_quote rest
    rw [weave_cons, woven_cons, readFrom_append first.unquoted, readFrom_writeChars here apart,
      ih later there]
    rfl

theorem read_weave_of_spills (fixed : ∀ part ∈ parts, Fixed part.1) (ending : Fixed last)
    (spilled : ∃ part ∈ parts, Spills part.2) : Lexeme.read (weave parts last) = none := by
  unfold Lexeme.read
  induction parts with
  | nil =>
    obtain ⟨part, member, -⟩ := spilled
    cases member
  | cons part parts ih =>
    obtain ⟨first, later⟩ := List.forall_mem_cons.mp fixed
    obtain ⟨cs, rest, separates, behind⟩ := exists_weave_eq later ending
    rw [weave_cons, readFrom_append first.unquoted]
    by_cases here : Spills part.2
    · -- the quote left over opens a literal, which the line feed of the next part breaks
      rw [readFrom_writeChars_of_spills here, behind, separates.readFrom_quote]
      rfl
    · have apart : ∀ after, weave parts last ≠ doubleQuote :: after := by
        rw [behind]
        exact separates.append_ne_quote rest
      obtain ⟨other, member, spills⟩ := spilled
      rcases List.mem_cons.mp member with rfl | member
      · exact absurd spills here
      · rw [readFrom_writeChars here apart, ih later ⟨other, member, spills⟩]
        rfl

end SparqlCompose.Literal
