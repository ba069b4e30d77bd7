import SparqlCompose.Proofs.Json.Grammar
import SparqlCompose.Proofs.Json.Spelling

namespace SparqlCompose

/-- A value that can be written and read back: without floats, its integers short, and its texts
without pairs of surrogates. -/
inductive Value.IsPlain : Value → Prop
  | null : IsPlain .null
  | boolean (b : Bool) : IsPlain (.boolean b)
  | integer {n : Int} (short : n.natAbs < Nat.pow 10 Number.digitLimit) : IsPlain (.integer n)
  | text {r : RawText} (joined : r.IsJoined) : IsPlain (.text r)
  | list {items : List Value} (each : ∀ v ∈ items, IsPlain v) : IsPlain (.list items)
  | mapping {members : List (RawText × Value)} (distinct : (Entries.keys members).Nodup)
      (joined : ∀ m ∈ members, m.1.IsJoined) (each : ∀ m ∈ members, IsPlain m.2) :
      IsPlain (.mapping (Value.named members))

theorem Value.isPlain_record {members : List (String × Value)}
    (distinct : (members.map Prod.fst).Nodup) (each : ∀ m ∈ members, m.2.IsPlain) :
    (Value.mapping (members.map fun m => (.text m.1, m.2))).IsPlain := by
  have named : members.map (fun m => (Value.text m.1, m.2)) =
      Value.named (members.map fun m => (RawText.ofString m.1, m.2)) := by
    simp [Value.named]
  have keys : Entries.keys (members.map fun m => (RawText.ofString m.1, m.2)) =
      (members.map Prod.fst).map RawText.ofString := by
    simp [Entries.keys]
  rw [named]
  refine .mapping ?_ ?_ ?_
  · rw [keys]
    exact distinct.map fun _ _ => RawText.ofString_inj.mp
  · simp only [List.forall_mem_map]
    exact fun m _ => RawText.isJoined_ofString m.1
  · simp only [List.forall_mem_map]
    exact each

namespace Json

open Value Text

def ahead (s : String) (tail : List Point) : List Point := s.toList.map .char ++ tail

theorem ahead_append (s t : String) (tail : List Point) :
    ahead (s ++ t) tail = ahead s (ahead t tail) := by
  simp [ahead]

def IsAscii (s : String) : Prop := ∀ c ∈ s.toList, c.toNat < 128

instance (s : String) : Decidable (IsAscii s) :=
  List.decidableBAll (fun c : Char => c.toNat < 128) s.toList

theorem IsAscii.append {s t : String} (first : IsAscii s) (second : IsAscii t) :
    IsAscii (s ++ t) := by
  rw [IsAscii, String.toList_append]
  exact List.forall_mem_append.mpr ⟨first, second⟩

def IsSpaces (s : String) : Prop := ∀ c ∈ s.toList, c ∈ spaces

theorem IsSpaces.pastSpace_ahead {s : String} (blank : IsSpaces s) (tail : List Point) :
    pastSpace (ahead s tail) = pastSpace tail := by
  rw [pastSpace, ahead, List.dropWhile_append_of_pos]
  · rfl
  · intro p member
    obtain ⟨c, inside, rfl⟩ := List.mem_map.mp member
    exact List.any_eq_true.mpr ⟨c, blank c inside, beq_self_eq_true _⟩

theorem IsSpaces.isAscii {s : String} (blank : IsSpaces s) : IsAscii s := by
  intro c member
  rcases spaces_cases (blank c member) with rfl | rfl | rfl | rfl <;> decide

theorem IsSpaces.halts {s : String} (blank : IsSpaces s) {tail : List Point} (halts : Halts tail) :
    Halts (ahead s tail) := by
  rw [ahead]
  cases is : s.toList with
  | nil => exact halts
  | cons c cs => exact halts_of_mem_spaces (blank c (is ▸ List.mem_cons_self)) _

structure Style.IsSpaced (style : Style) : Prop where
  separator : ∃ gap, IsSpaces gap ∧ style.separator = "," ++ gap
  lineBreak : ∀ depth, IsSpaces (style.lineBreak depth)

theorem isSpaced_indented : Style.indented.IsSpaced where
  separator := ⟨"", nofun, rfl⟩
  lineBreak := by
    intro depth c member
    rw [Style.indented, String.toList_ofList, List.mem_cons] at member
    rcases member with rfl | within
    · decide
    · rw [List.eq_of_mem_replicate within]
      decide

def Returns (style : Style) (depth : Nat) (v : Value) : Prop :=
  ∃ s, render style depth v = some s ∧ IsAscii s ∧
    ∀ tail, Halts tail → Reads (.value v) (ahead s tail) tail

section Scalars

variable (style : Style) (depth : Nat)

theorem returns_word {v : Value} {word : String} (names : Names word v)
    (written : render style depth v = some word) (ascii : IsAscii word) :
    Returns style depth v :=
  ⟨word, written, ascii, fun _ _ => .word names⟩

theorem isAscii_toDigits (m : Nat) : IsAscii (String.ofList (Nat.toDigits 10 m)) := by
  intro c member
  rw [String.toList_ofList] at member
  obtain ⟨-, most⟩ := Char.isDigit_iff_toNat.mp
    (Nat.isDigit_of_mem_toDigits (by decide) (by decide) member)
  exact Nat.lt_of_le_of_lt most (by decide)

theorem returns_integer {n : Int} (short : n.natAbs < Nat.pow 10 Number.digitLimit) :
    Returns style depth (.integer n) := by
  have written : render style depth (.integer n) = some (toString n) := by
    rw [render, Number.integerText?, if_pos short]
  have digits (m : Nat) : m.repr = String.ofList (Nat.toDigits 10 m) :=
    Nat.toString_eq_ofList_toDigits
  have spelled : toString n = if 0 ≤ n then n.toNat.repr else "-" ++ (-n).toNat.repr :=
    Int.repr_eq_if
  rw [spelled] at written
  by_cases positive : 0 ≤ n
  · rw [if_pos positive, digits] at written
    refine ⟨_, written, isAscii_toDigits _, fun tail halts => ?_⟩
    have number := isNumber_toDigits false (m := n.toNat) (by omega)
    rw [Number.signed, if_neg Bool.false_ne_true, Int.toNat_of_nonneg positive] at number
    rw [ahead, String.toList_ofList]
    exact .number number halts
  · rw [if_neg positive, digits] at written
    refine ⟨_, written, .append (by decide) (isAscii_toDigits _), fun tail halts => ?_⟩
    have number := isNumber_toDigits true (m := (-n).toNat) (by omega)
    rw [Number.signed, if_pos rfl, Int.toNat_of_nonneg (by omega), Int.neg_neg] at number
    rw [ahead_append]
    show Reads _ (.char '-' :: ahead _ tail) tail
    rw [ahead, String.toList_ofList]
    exact .negative number halts

theorem ahead_quote (r : RawText) (tail : List Point) :
    ahead (quote r) tail = .char doubleQuote :: inside r.points tail := by
  simp [ahead, quote, inside]

theorem isAscii_unitEscape (n : Nat) : ∀ c ∈ unitEscape n, c.toNat < 128 := by
  have digit (m : Nat) : (hexDigit (m % 16)).toNat < 128 := by
    have each : ∀ d : Fin 16, (hexDigit d).toNat < 128 := by decide
    exact each ⟨m % 16, Nat.mod_lt _ (by decide)⟩
  simp only [unitEscape, hexDigits, List.nil_append, List.cons_append, List.forall_mem_cons]
  exact ⟨by decide, by decide, digit _, digit _, digit _, digit _, List.forall_mem_nil _⟩

theorem isAscii_quote (r : RawText) : IsAscii (quote r) := by
  have point : ∀ p, ∀ c ∈ escapePoint p, c.toNat < 128 := by
    intro p
    have escaped := escaped_escapePoint p
    generalize escapePoint p = cs at escaped
    cases escaped with
    | plain _ _ _ ascii => simpa using Nat.lt_succ_of_lt ascii
    | short _ ascii =>
      simp only [List.forall_mem_cons]
      exact ⟨by decide, Nat.lt_succ_of_lt ascii, List.forall_mem_nil _⟩
    | unit => exact isAscii_unitEscape _
    | pair =>
      exact List.forall_mem_append.mpr ⟨isAscii_unitEscape _, isAscii_unitEscape _⟩
  intro c member
  rw [quote, String.toList_ofList, List.cons_append, List.mem_cons, List.mem_append,
    List.mem_flatMap, List.mem_singleton] at member
  rcases member with rfl | ⟨p, -, written⟩ | rfl
  · decide
  · exact point p c written
  · decide

theorem returns_text {r : RawText} (joined : r.IsJoined) : Returns style depth (.text r) := by
  refine ⟨quote r, by rw [render], isAscii_quote r, fun tail _ => ?_⟩
  rw [ahead_quote]
  exact .text (letters_inside joined tail)

end Scalars

section Containers

variable {style : Style} {depth : Nat}

def Style.between (style : Style) (depth : Nat) : String :=
  style.separator ++ style.lineBreak (depth + 1)

theorem Style.IsSpaced.between_eq (spaced : style.IsSpaced) (depth : Nat) :
    ∃ gap, IsSpaces gap ∧ style.between depth = "," ++ gap := by
  obtain ⟨gap, spaces, is⟩ := spaced.separator
  refine ⟨gap ++ style.lineBreak (depth + 1), ?_, ?_⟩
  · rw [IsSpaces, String.toList_append]
    exact List.forall_mem_append.mpr ⟨spaces, spaced.lineBreak _⟩
  · rw [between, is, String.append_assoc]

theorem returns_items (spaced : style.IsSpaced) {v : Value} {vs : List Value}
    (first : Returns style (depth + 1) v) (others : ∀ v ∈ vs, Returns style (depth + 1) v) :
    ∃ s parts, renderItems style (depth + 1) (v :: vs) = some (s :: parts) ∧
      IsAscii ((style.between depth).intercalate (s :: parts)) ∧
      ∀ closing tail, IsSpaces closing →
        Reads (.items (v :: vs)) (ahead ((style.between depth).intercalate (s :: parts))
          (ahead closing (.char ']' :: tail))) tail := by
  induction vs generalizing v with
  | nil =>
    obtain ⟨s, written, ascii, read⟩ := first
    refine ⟨s, [], by rw [renderItems, written, renderItems]; rfl, ?_,
      fun closing tail spaces => ?_⟩
    · rwa [String.intercalate_singleton]
    · rw [String.intercalate_singleton]
      have stops : Halts (.char ']' :: tail) := halts_cons (by decide) _
      refine .lastItem (read _ (spaces.halts stops)) ?_
      rw [spaces.pastSpace_ahead]
      exact pastSpace_cons (by decide) _
  | cons next vs ih =>
    obtain ⟨s, written, ascii, read⟩ := first
    obtain ⟨followed, later⟩ := List.forall_mem_cons.mp others
    obtain ⟨t, parts, rest, asciiRest, reads⟩ := ih followed later
    obtain ⟨gap, blank, between⟩ := spaced.between_eq depth
    refine ⟨s, t :: parts, by rw [renderItems, written, rest]; rfl, ?_,
      fun closing tail spaces => ?_⟩
    · rw [String.intercalate_cons_cons]
      refine (ascii.append ?_).append asciiRest
      rw [between]
      exact .append (by decide) blank.isAscii
    · have more := reads closing tail spaces
      rw [String.intercalate_cons_cons, ahead_append, ahead_append]
      have comma : ahead (style.between depth) = fun tail => .char ',' :: ahead gap tail := by
        funext tail
        rw [between, ahead_append]
        rfl
      rw [comma]
      refine .item (read _ (halts_cons (by decide) _)) (pastSpace_cons (by decide) _) ?_
      rw [blank.pastSpace_ahead, more.pastSpace_eq]
      exact more

theorem returns_members (spaced : style.IsSpaced) {k : RawText} {v : Value}
    {members : List (RawText × Value)} (named : k.IsJoined) (first : Returns style (depth + 1) v)
    (others : ∀ m ∈ members, m.1.IsJoined ∧ Returns style (depth + 1) m.2) :
    ∃ s parts, renderMembers style (depth + 1) (Value.named ((k, v) :: members)) =
        some (s :: parts) ∧
      IsAscii ((style.between depth).intercalate (s :: parts)) ∧
      ∀ closing tail, IsSpaces closing →
        Reads (.members ((k, v) :: members)) (ahead ((style.between depth).intercalate (s :: parts))
          (ahead closing (.char '\x7d' :: tail))) tail := by
  have write {k : RawText} {v : Value} {s : String} {rest : List (RawText × Value)}
      {parts : List String} (written : render style (depth + 1) v = some s)
      (more : renderMembers style (depth + 1) (Value.named rest) = some parts) :
      renderMembers style (depth + 1) (Value.named ((k, v) :: rest)) =
        some ((quote k ++ ": " ++ s) :: parts) := by
    have split : Value.named ((k, v) :: rest) = (.text k, v) :: Value.named rest := rfl
    rw [split, renderMembers, nameOf?, written, more]
    rfl
  have member (k : RawText) (s : String) (tail : List Point) : ahead (quote k ++ ": " ++ s) tail =
      .char doubleQuote :: inside k.points (.char ':' :: .char ' ' :: ahead s tail) := by
    rw [ahead_append, ahead_append, ahead_quote]
    rfl
  have asciiMember (k : RawText) {s : String} (ascii : IsAscii s) :
      IsAscii (quote k ++ ": " ++ s) := ((isAscii_quote k).append (by decide)).append ascii
  have colon (tail : List Point) : pastSpace (.char ':' :: tail) = .char ':' :: tail :=
    pastSpace_cons (by decide) _
  have value {v : Value} {ps rest : List Point} (read : Reads (.value v) ps rest) :
      Reads (.value v) (pastSpace (.char ' ' :: ps)) rest := by
    have skipped : pastSpace (.char ' ' :: ps) = pastSpace ps := rfl
    rw [skipped, read.pastSpace_eq]
    exact read
  induction members generalizing k v with
  | nil =>
    obtain ⟨s, written, ascii, read⟩ := first
    refine ⟨_, [], write written (renderMembers.eq_1 _ _), ?_, fun closing tail spaces => ?_⟩
    · rw [String.intercalate_singleton]
      exact asciiMember k ascii
    · rw [String.intercalate_singleton, member]
      have stops : Halts (.char '\x7d' :: tail) := halts_cons (by decide) _
      refine .lastMember (letters_inside named _) (colon _) (value (read _ (spaces.halts stops))) ?_
      rw [spaces.pastSpace_ahead]
      exact pastSpace_cons (by decide) _
  | cons next members ih =>
    obtain ⟨s, written, ascii, read⟩ := first
    obtain ⟨⟨joined, followed⟩, later⟩ := List.forall_mem_cons.mp others
    obtain ⟨t, parts, rest, asciiRest, reads⟩ := ih joined followed later
    obtain ⟨gap, blank, between⟩ := spaced.between_eq depth
    refine ⟨_, t :: parts, write written rest, ?_, fun closing tail spaces => ?_⟩
    · rw [String.intercalate_cons_cons]
      refine ((asciiMember k ascii).append ?_).append asciiRest
      rw [between]
      exact .append (by decide) blank.isAscii
    · have more := reads closing tail spaces
      have comma (tail : List Point) : ahead (style.between depth) tail =
          .char ',' :: ahead gap tail := by
        rw [between, ahead_append]
        rfl
      rw [String.intercalate_cons_cons, ahead_append, ahead_append, member, comma]
      refine .member (letters_inside named _) (colon _) (value (read _ (halts_cons (by decide) _)))
        (pastSpace_cons (by decide) _) ?_
      rw [blank.pastSpace_ahead, more.pastSpace_eq]
      exact more

theorem wrap_cons (style : Style) (depth : Nat) (opening closing s : String) (parts : List String) :
    style.wrap depth opening closing (s :: parts) = opening ++ style.lineBreak (depth + 1) ++
      (style.between depth).intercalate (s :: parts) ++ style.lineBreak depth ++ closing := rfl

theorem Style.IsSpaced.reads_inside (spaced : style.IsSpaced) {phrase : Phrase}
    {ps tail : List Point} (read : Reads phrase ps tail) :
    Reads phrase (pastSpace (ahead (style.lineBreak (depth + 1)) ps)) tail := by
  rw [(spaced.lineBreak _).pastSpace_ahead, read.pastSpace_eq]
  exact read

theorem isAscii_wrap (spaced : style.IsSpaced) {opening closing s : String} {parts : List String}
    (opens : IsAscii opening) (ascii : IsAscii ((style.between depth).intercalate (s :: parts)))
    (closes : IsAscii closing) : IsAscii (style.wrap depth opening closing (s :: parts)) :=
  (((opens.append (spaced.lineBreak _).isAscii).append ascii).append
    (spaced.lineBreak _).isAscii).append closes

theorem returns_list (spaced : style.IsSpaced) {items : List Value}
    (each : ∀ v ∈ items, Returns style (depth + 1) v) : Returns style depth (.list items) := by
  cases items with
  | nil =>
    refine ⟨"[]", by rw [render, renderItems]; rfl, by decide, fun tail _ => .emptyArray ?_⟩
    exact pastSpace_cons (by decide) tail
  | cons v vs =>
    obtain ⟨first, others⟩ := List.forall_mem_cons.mp each
    obtain ⟨s, parts, written, ascii, read⟩ := returns_items spaced first others
    refine ⟨style.wrap depth "[" "]" (s :: parts), by rw [render, written]; rfl, ?_,
      fun tail _ => ?_⟩
    · exact isAscii_wrap spaced (by decide) ascii (by decide)
    · have inner := read _ tail (spaced.lineBreak depth)
      rw [wrap_cons, ahead_append, ahead_append, ahead_append, ahead_append]
      exact .array (spaced.reads_inside inner)

theorem returns_mapping (spaced : style.IsSpaced) {members : List (RawText × Value)}
    (distinct : (Entries.keys members).Nodup) (joined : ∀ m ∈ members, m.1.IsJoined)
    (each : ∀ m ∈ members, Returns style (depth + 1) m.2) :
    Returns style depth (.mapping (Value.named members)) := by
  have whole : Entries.ofPairs members = members := Entries.putAll_of_nodup distinct
  cases members with
  | nil =>
    have written : render style depth (.mapping (Value.named [])) = some "\x7b\x7d" := by
      rw [render, Value.named, List.map_nil, renderMembers]
      rfl
    exact ⟨_, written, by decide, fun tail _ => .emptyObject (pastSpace_cons (by decide) tail)⟩
  | cons m members =>
    obtain ⟨named, names⟩ := List.forall_mem_cons.mp joined
    obtain ⟨first, others⟩ := List.forall_mem_cons.mp each
    obtain ⟨s, parts, written, ascii, read⟩ := returns_members spaced named first
      fun m member => ⟨names m member, others m member⟩
    refine ⟨style.wrap depth "\x7b" "\x7d" (s :: parts), by rw [render, written]; rfl, ?_,
      fun tail _ => ?_⟩
    · exact isAscii_wrap spaced (by decide) ascii (by decide)
    · have inner := read _ tail (spaced.lineBreak depth)
      rw [wrap_cons, ahead_append, ahead_append, ahead_append, ahead_append, ← whole]
      exact .object (spaced.reads_inside inner)

end Containers

theorem returns_of_isPlain {style : Style} (spaced : style.IsSpaced) {v : Value} (plain : v.IsPlain)
    (depth : Nat) : Returns style depth v := by
  induction plain generalizing depth with
  | null => exact returns_word style depth .null (by rw [render]) (by decide)
  | boolean b =>
    cases b with
    | false => exact returns_word style depth .no (by rw [render]; rfl) (by decide)
    | true => exact returns_word style depth .yes (by rw [render]; rfl) (by decide)
  | integer short => exact returns_integer style depth short
  | text joined => exact returns_text style depth joined
  | list _ ih => exact returns_list spaced fun v member => ih v member (depth + 1)
  | mapping distinct joined _ ih =>
    exact returns_mapping spaced distinct joined fun m member => ih m member (depth + 1)

/-- A plain value is printed as a document that has this value, in ASCII. -/
theorem exists_indented {v : Value} (plain : v.IsPlain) :
    ∃ s, indented v = some s ∧ IsAscii s ∧ Denotes s v := by
  obtain ⟨s, written, ascii, read⟩ := returns_of_isPlain isSpaced_indented plain 0
  have whole := read [] nofun
  have points : ahead s [] = (RawText.ofString s).points := List.append_nil _
  rw [points] at whole
  refine ⟨s, written, ascii, [], ?_, rfl⟩
  rw [whole.pastSpace_eq]
  exact whole

end Json

end SparqlCompose
