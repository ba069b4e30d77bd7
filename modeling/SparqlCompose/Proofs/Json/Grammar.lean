import SparqlCompose.Proofs.Json.Scalars
import SparqlCompose.Proofs.Results

namespace SparqlCompose.Json

open Value Text

/-- What a part of a document says. -/
inductive Phrase
  | value (v : Value)
  | items (vs : List Value)
  | members (pairs : List (RawText × Value))

/-- What a part of a document says, and what follows it. -/
inductive Reads : Phrase → List Point → List Point → Prop
  | text {ps letters rest : List Point} (closed : Letters ps letters rest) :
      Reads (.value (.text ⟨letters⟩)) (.char doubleQuote :: ps) rest
  | word {w : String} {rest : List Point} {v : Value} (names : Names w v) :
      Reads (.value v) (w.toList.map .char ++ rest) rest
  | number {cs : List Char} {rest : List Point} {v : Value} (number : IsNumber false cs v)
      (halts : Halts rest) : Reads (.value v) (cs.map .char ++ rest) rest
  | negative {cs : List Char} {rest : List Point} {v : Value} (number : IsNumber true cs v)
      (halts : Halts rest) : Reads (.value v) (.char '-' :: (cs.map .char ++ rest)) rest
  | emptyArray {ps rest : List Point} (closed : pastSpace ps = .char ']' :: rest) :
      Reads (.value (.list [])) (.char '[' :: ps) rest
  | array {ps rest : List Point} {vs : List Value}
      (inside : Reads (.items vs) (pastSpace ps) rest) :
      Reads (.value (.list vs)) (.char '[' :: ps) rest
  | lastItem {ps behind rest : List Point} {v : Value} (first : Reads (.value v) ps behind)
      (closed : pastSpace behind = .char ']' :: rest) : Reads (.items [v]) ps rest
  | item {ps behind after rest : List Point} {v : Value} {vs : List Value}
      (first : Reads (.value v) ps behind) (comma : pastSpace behind = .char ',' :: after)
      (more : Reads (.items vs) (pastSpace after) rest) : Reads (.items (v :: vs)) ps rest
  | emptyObject {ps rest : List Point} (closed : pastSpace ps = .char '\x7d' :: rest) :
      Reads (.value (.mapping [])) (.char '\x7b' :: ps) rest
  | object {ps rest : List Point} {pairs : List (RawText × Value)}
      (inside : Reads (.members pairs) (pastSpace ps) rest) :
      Reads (.value (.mapping (named (Entries.ofPairs pairs)))) (.char '\x7b' :: ps) rest
  | lastMember {ps letters behind within after rest : List Point} {v : Value}
      (name : Letters ps letters behind) (colon : pastSpace behind = .char ':' :: within)
      (value : Reads (.value v) (pastSpace within) after)
      (closed : pastSpace after = .char '\x7d' :: rest) :
      Reads (.members [(⟨letters⟩, v)]) (.char doubleQuote :: ps) rest
  | member {ps letters behind within after next rest : List Point} {v : Value}
      {pairs : List (RawText × Value)} (name : Letters ps letters behind)
      (colon : pastSpace behind = .char ':' :: within)
      (value : Reads (.value v) (pastSpace within) after)
      (comma : pastSpace after = .char ',' :: next)
      (more : Reads (.members pairs) (pastSpace next) rest) :
      Reads (.members ((⟨letters⟩, v) :: pairs)) (.char doubleQuote :: ps) rest

/-- The text is a document with this value, with space around it. Of the members of an object with
the same name the last one counts. -/
def Denotes (text : RawText) (v : Value) : Prop :=
  ∃ rest, Reads (.value v) (pastSpace text.points) rest ∧ pastSpace rest = []

theorem halts_of_next {ps rest : List Point} {c : Char} (next : pastSpace ps = .char c :: rest)
    (stops : c.isDigit = false ∧ c ≠ '.' ∧ c ≠ 'e' ∧ c ≠ 'E') : Halts ps := by
  apply Halts.of_pastSpace
  rw [next]
  exact halts_cons stops rest

/-- What the readers accept the grammar derives; the induction is on the fuel, over the three
readers at once. -/
theorem reads_of_fuel (fuel : Nat) :
    (∀ depth ps v rest, Halts rest → value fuel depth ps = .ok (v, rest) →
        Reads (.value v) ps rest) ∧
      (∀ depth ps vs rest, items fuel depth ps = .ok (vs, rest) → Reads (.items vs) ps rest) ∧
      ∀ depth known ps es rest, members fuel depth (named known) ps = .ok (es, rest) →
        ∃ pairs, Reads (.members pairs) ps rest ∧ es = named (Entries.putAll pairs known) := by
  induction fuel with
  | zero =>
    refine ⟨fun _ _ _ _ _ read => ?_, fun _ _ _ _ read => ?_, fun _ _ _ _ _ read => ?_⟩
    · rw [value] at read
      cases read
    · rw [items] at read
      cases read
    · rw [members] at read
      cases read
  | succ fuel ih =>
    obtain ⟨ofValue, ofItems, ofMembers⟩ := ih
    refine ⟨fun depth ps v rest halts read => ?_, fun depth ps vs rest read => ?_,
      fun depth known ps es rest read => ?_⟩
    · rw [value.eq_def, skipSpace_eq] at read
      dsimp only at read
      split at read
      case h_1 => cases read
      case h_2 c ps =>
      split at read
      case isTrue quote =>
        subst quote
        obtain ⟨⟨s, behind⟩, spelled, same⟩ := exists_of_bind_eq_ok read
        cases same
        obtain ⟨letters, closed, rfl⟩ := letters_of_string spelled
        exact .text closed
      case isFalse =>
      split at read
      case isTrue bracket =>
        subst bracket
        split at read
        case h_1 => cases read
        case h_2 =>
          split at read
          case h_1 empty =>
            cases read
            exact .emptyArray empty
          case h_2 =>
            obtain ⟨⟨vs, behind⟩, inside, same⟩ := exists_of_bind_eq_ok read
            cases same
            exact .array (ofItems _ _ _ _ inside)
      case isFalse =>
      split at read
      case isTrue brace =>
        subst brace
        split at read
        case h_1 => cases read
        case h_2 =>
          split at read
          case h_1 empty =>
            cases read
            exact .emptyObject empty
          case h_2 =>
            obtain ⟨⟨es, behind⟩, inside, same⟩ := exists_of_bind_eq_ok read
            cases same
            obtain ⟨pairs, listed, rfl⟩ := ofMembers _ [] _ _ _ inside
            exact .object listed
      case isFalse =>
      split at read
      case h_1 word =>
        cases read
        obtain ⟨w, names, whole⟩ := exists_of_word? word
        rw [whole]
        exact .word names
      case h_2 =>
        split at read
        case isTrue minus =>
          subst minus
          obtain ⟨cs, number, rfl⟩ := exists_of_numeral read
          exact .negative number halts
        case isFalse =>
          obtain ⟨cs, number, whole⟩ := exists_of_numeral read
          rw [whole]
          exact .number number halts
    · rw [items.eq_def, skipSpace_eq] at read
      obtain ⟨⟨v, behind⟩, first, read⟩ := exists_of_bind_eq_ok read
      dsimp only at read
      split at read
      case h_1 closed =>
        cases read
        exact .lastItem (ofValue _ _ _ _ (halts_of_next closed (by decide)) first) closed
      case h_2 comma =>
        obtain ⟨⟨vs', behind'⟩, more, same⟩ := exists_of_bind_eq_ok read
        cases same
        have first := ofValue _ _ _ _ (halts_of_next comma (by decide)) first
        exact .item first comma (ofItems _ _ _ _ more)
      case h_3 => cases read
    · rw [members.eq_def, skipSpace_eq] at read
      dsimp only at read
      split at read
      case h_2 => cases read
      case h_1 c ps =>
      split at read
      case isFalse => cases read
      case isTrue quote =>
      subst quote
      obtain ⟨⟨name, behind⟩, spelled, read⟩ := exists_of_bind_eq_ok read
      obtain ⟨letters, closed, rfl⟩ := letters_of_string spelled
      dsimp only at read
      split at read
      case h_2 => cases read
      case h_1 colon =>
      obtain ⟨⟨v, after⟩, said, read⟩ := exists_of_bind_eq_ok read
      dsimp only at read
      rw [bind_named] at read
      split at read
      case h_1 brace =>
        cases read
        have said := ofValue _ _ _ _ (halts_of_next brace (by decide)) said
        exact ⟨_, .lastMember closed colon said brace, rfl⟩
      case h_2 comma =>
        obtain ⟨pairs, more, rfl⟩ := ofMembers _ _ _ _ _ read
        have said := ofValue _ _ _ _ (halts_of_next comma (by decide)) said
        exact ⟨_, .member closed colon said comma more, rfl⟩
      case h_3 => cases read

theorem suffix_of_pastSpace {ps rest : List Point} {p : Point} (next : pastSpace ps = p :: rest) :
    rest <:+ ps := by
  have whole := suffix_pastSpace ps
  rw [next] at whole
  exact (List.suffix_cons _ _).trans whole

theorem Reads.suffix {phrase : Phrase} {ps rest : List Point} (read : Reads phrase ps rest) :
    rest <:+ ps := by
  induction read with
  | text closed => exact closed.suffix.trans (List.suffix_cons _ _)
  | word | number => exact List.suffix_append _ _
  | negative => exact (List.suffix_append _ _).trans (List.suffix_cons _ _)
  | emptyArray closed | emptyObject closed =>
    exact (suffix_of_pastSpace closed).trans (List.suffix_cons _ _)
  | array _ ih | object _ ih => exact (ih.trans (suffix_pastSpace _)).trans (List.suffix_cons _ _)
  | lastItem _ closed ih => exact (suffix_of_pastSpace closed).trans ih
  | item _ comma _ first more =>
    exact ((more.trans (suffix_pastSpace _)).trans (suffix_of_pastSpace comma)).trans first
  | lastMember name colon _ closed ih =>
    have value := (ih.trans (suffix_pastSpace _)).trans (suffix_of_pastSpace colon)
    have inside := ((suffix_of_pastSpace closed).trans value).trans name.suffix
    exact inside.trans (List.suffix_cons _ _)
  | member name colon _ comma _ first more =>
    have value := (first.trans (suffix_pastSpace _)).trans (suffix_of_pastSpace colon)
    have later := (more.trans (suffix_pastSpace _)).trans (suffix_of_pastSpace comma)
    exact ((later.trans value).trans name.suffix).trans (List.suffix_cons _ _)

theorem Reads.head {phrase : Phrase} {ps rest : List Point} (read : Reads phrase ps rest) :
    ∃ c tail, ps = .char c :: tail ∧ c ≠ ']' ∧ c ≠ '}' ∧ c ∉ spaces := by
  have digit {c : Char} (digit : c.isDigit = true) : c ≠ ']' ∧ c ≠ '}' ∧ c ∉ spaces := by
    refine ⟨?_, ?_, fun space => ?_⟩
    · rintro rfl
      exact absurd digit (by decide)
    · rintro rfl
      exact absurd digit (by decide)
    · rcases spaces_cases space with rfl | rfl | rfl | rfl <;> exact absurd digit (by decide)
  induction read with
  | word names =>
    cases names <;> exact ⟨_, _, rfl, by decide, by decide, by decide⟩
  | number number =>
    obtain ⟨c, tail, rfl, first⟩ := number.exists_digit
    exact ⟨c, _, rfl, digit first⟩
  | lastItem _ _ ih => exact ih
  | item _ _ _ ih => exact ih
  | _ => exact ⟨_, _, rfl, by decide, by decide, by decide⟩

theorem Reads.pastSpace_eq {phrase : Phrase} {ps rest : List Point}
    (read : Reads phrase ps rest) : pastSpace ps = ps := by
  obtain ⟨c, tail, rfl, -, -, solid⟩ := read.head
  exact pastSpace_cons solid tail

/-- The result is the given one, unless the nesting goes too deep. -/
def Yields {α : Type} (x : Except Fault α) (a : α) : Prop := x = .ok a ∨ x = .error .tooDeep

theorem Yields.bind {α β : Type} {x : Except Fault α} {f : α → Except Fault β} {a : α} {b : β}
    (first : Yields x a) (rest : Yields (f a) b) : Yields (x >>= f) b := by
  rcases first with rfl | rfl
  · exact rest
  · exact .inr rfl

def Phrase.IsRead (fuel depth : Nat) (ps rest : List Point) : Phrase → Prop
  | .value v => Yields (Json.value fuel depth ps) (v, rest)
  | .items vs => Yields (Json.items fuel depth ps) (vs, rest)
  | .members pairs => ∀ known, Yields (Json.members fuel depth (named known) ps)
      (named (Entries.putAll pairs known), rest)

def Phrase.calls : Phrase → Nat
  | .value _ => 1
  | .items _ => 2
  | .members _ => 2

theorem value_word {fuel depth : Nat} {w : String} {rest : List Point} {v : Value}
    (names : Names w v) : value (fuel + 1) depth (w.toList.map .char ++ rest) = .ok (v, rest) := by
  have found := names.word?_eq rest
  obtain ⟨c, d, tail, whole, -, -, plain⟩ := names.exists_initials
  rw [whole] at found ⊢
  rw [List.map_cons, List.cons_append] at found ⊢
  rw [value.eq_def]
  simp only [Point.char.injEq, plain, if_false, found]

theorem value_number {fuel depth : Nat} {cs : List Char} {rest : List Point} {v : Value}
    (number : IsNumber false cs v) (halts : Halts rest) :
    value (fuel + 1) depth (cs.map .char ++ rest) = .ok (v, rest) := by
  have read := number.numeral_append halts
  obtain ⟨c, tail, rfl, digit⟩ := number.exists_digit
  have plain : c ≠ doubleQuote ∧ c ≠ '[' ∧ c ≠ '\x7b' ∧ c ≠ '-' := by
    refine ⟨?_, ?_, ?_, ?_⟩ <;> rintro rfl <;> exact absurd digit (by decide)
  rw [List.map_cons, List.cons_append] at read ⊢
  rw [value.eq_def]
  simp only [Point.char.injEq, plain, if_false, (word?_eq_none digit _).1, read]

theorem value_negative {fuel depth : Nat} {cs : List Char} {rest : List Point} {v : Value}
    (number : IsNumber true cs v) (halts : Halts rest) :
    value (fuel + 1) depth (.char '-' :: (cs.map .char ++ rest)) = .ok (v, rest) := by
  have read := number.numeral_append halts
  obtain ⟨c, tail, rfl, digit⟩ := number.exists_digit
  have plain : '-' ≠ doubleQuote ∧ '-' ≠ '[' ∧ '-' ≠ '\x7b' := by decide
  rw [List.map_cons, List.cons_append] at read ⊢
  rw [value.eq_def]
  simp only [Point.char.injEq, plain, if_false, if_true, (word?_eq_none digit _).2, read]

theorem lt_of_pastSpace {ps rest : List Point} {p : Point} (next : pastSpace ps = p :: rest) :
    rest.length < ps.length := by
  have within := (suffix_pastSpace ps).length_le
  rw [next, List.length_cons] at within
  omega

theorem isRead_of_reads {phrase : Phrase} {ps rest : List Point} (read : Reads phrase ps rest)
    {n : Nat} (enough : 2 * ps.length + phrase.calls ≤ n) (depth : Nat) :
    phrase.IsRead n depth ps rest := by
  have bracket : Point.char '[' ≠ doubleQuote := by decide
  have brace : Point.char '\x7b' ≠ doubleQuote ∧ Point.char '\x7b' ≠ '[' := by decide
  induction read generalizing n depth with
  | @text ps letters rest closed =>
    simp only [List.length_cons, Phrase.calls] at enough
    obtain ⟨fuel, rfl⟩ := Nat.exists_eq_add_one.mpr (show 0 < n by omega)
    have spelled := string_of_letters closed (n := fuel) (by omega) []
    refine .inl ?_
    rw [value.eq_def]
    simp only [if_true, spelled]
    rfl
  | word names =>
    obtain ⟨fuel, rfl⟩ := Nat.exists_eq_add_one.mpr (Nat.lt_of_lt_of_le (Nat.succ_pos _) enough)
    exact .inl (value_word names)
  | number number halts =>
    obtain ⟨fuel, rfl⟩ := Nat.exists_eq_add_one.mpr (Nat.lt_of_lt_of_le (Nat.succ_pos _) enough)
    exact .inl (value_number number halts)
  | negative number halts =>
    obtain ⟨fuel, rfl⟩ := Nat.exists_eq_add_one.mpr (Nat.lt_of_lt_of_le (Nat.succ_pos _) enough)
    exact .inl (value_negative number halts)
  | emptyArray closed =>
    obtain ⟨fuel, rfl⟩ := Nat.exists_eq_add_one.mpr (Nat.lt_of_lt_of_le (Nat.succ_pos _) enough)
    rw [Phrase.IsRead, value.eq_def, skipSpace_eq]
    simp only [bracket, if_false, if_true]
    cases depth with
    | zero => exact .inr rfl
    | succ depth =>
      simp only [closed]
      exact .inl rfl
  | emptyObject closed =>
    obtain ⟨fuel, rfl⟩ := Nat.exists_eq_add_one.mpr (Nat.lt_of_lt_of_le (Nat.succ_pos _) enough)
    rw [Phrase.IsRead, value.eq_def, skipSpace_eq]
    simp only [brace, if_false, if_true]
    cases depth with
    | zero => exact .inr rfl
    | succ depth =>
      simp only [closed]
      exact .inl rfl
  | @array ps rest vs inside ih =>
    simp only [List.length_cons, Phrase.calls] at enough ih
    obtain ⟨fuel, rfl⟩ := Nat.exists_eq_add_one.mpr (show 0 < n by omega)
    have shorter := (suffix_pastSpace ps).length_le
    rw [Phrase.IsRead, value.eq_def, skipSpace_eq]
    simp only [bracket, if_false, if_true]
    cases depth with
    | zero => exact .inr rfl
    | succ depth =>
      obtain ⟨c, tail, front, other, -, -⟩ := inside.head
      dsimp only
      split
      · rename_i closed
        rw [front] at closed
        exact absurd (Point.char.inj (List.cons.inj closed).1) other
      · exact (ih (n := fuel) (by omega) depth).bind (.inl rfl)
  | @object ps rest pairs inside ih =>
    simp only [List.length_cons, Phrase.calls] at enough ih
    obtain ⟨fuel, rfl⟩ := Nat.exists_eq_add_one.mpr (show 0 < n by omega)
    have shorter := (suffix_pastSpace ps).length_le
    rw [Phrase.IsRead, value.eq_def, skipSpace_eq]
    simp only [brace, if_false, if_true]
    cases depth with
    | zero => exact .inr rfl
    | succ depth =>
      obtain ⟨c, tail, front, -, other, -⟩ := inside.head
      dsimp only
      split
      · rename_i closed
        rw [front] at closed
        exact absurd (Point.char.inj (List.cons.inj closed).1) other
      · exact (ih (n := fuel) (by omega) depth []).bind (.inl rfl)
  | @lastItem ps behind rest v first closed ih =>
    simp only [Phrase.calls] at enough ih
    obtain ⟨fuel, rfl⟩ := Nat.exists_eq_add_one.mpr (show 0 < n by omega)
    rw [Phrase.IsRead, items.eq_def, skipSpace_eq]
    refine (ih (n := fuel) (by omega) depth).bind ?_
    simp only [closed]
    exact .inl rfl
  | @item ps behind after rest v vs first comma more ih ih' =>
    simp only [Phrase.calls] at enough ih ih'
    obtain ⟨fuel, rfl⟩ := Nat.exists_eq_add_one.mpr (show 0 < n by omega)
    have shorter := (suffix_pastSpace after).length_le
    have behind' := first.suffix.length_le
    have next := lt_of_pastSpace comma
    rw [Phrase.IsRead, items.eq_def, skipSpace_eq]
    refine (ih (n := fuel) (by omega) depth).bind ?_
    simp only [comma]
    exact (ih' (n := fuel) (by omega) depth).bind (.inl rfl)
  | @lastMember ps letters behind within after rest v name colon value closed ih =>
    simp only [List.length_cons, Phrase.calls] at enough ih
    obtain ⟨fuel, rfl⟩ := Nat.exists_eq_add_one.mpr (show 0 < n by omega)
    have spelled := string_of_letters name (n := fuel) (by omega) []
    have behind' := name.suffix.length_le
    have inner := lt_of_pastSpace colon
    have shorter := (suffix_pastSpace within).length_le
    intro known
    rw [members.eq_def, skipSpace_eq]
    simp only [if_true]
    refine Yields.bind (.inl spelled) ?_
    simp only [colon]
    refine (ih (n := fuel) (by omega) depth).bind ?_
    simp only [closed]
    rw [bind_named]
    exact .inl rfl
  | @member ps letters behind within after next rest v pairs name colon value comma more ih ih' =>
    simp only [List.length_cons, Phrase.calls] at enough ih ih'
    obtain ⟨fuel, rfl⟩ := Nat.exists_eq_add_one.mpr (show 0 < n by omega)
    have spelled := string_of_letters name (n := fuel) (by omega) []
    have behind' := name.suffix.length_le
    have inner := lt_of_pastSpace colon
    have shorter := (suffix_pastSpace within).length_le
    have after' := value.suffix.length_le
    have later := lt_of_pastSpace comma
    have last := (suffix_pastSpace next).length_le
    intro known
    rw [members.eq_def, skipSpace_eq]
    simp only [if_true]
    refine Yields.bind (.inl spelled) ?_
    simp only [colon]
    refine (ih (n := fuel) (by omega) depth).bind ?_
    simp only [comma]
    rw [bind_named]
    exact ih' (n := fuel) (by omega) depth _

def Phrase.IsSound : Phrase → Prop
  | .value v => v.IsDocument
  | .items vs => ∀ v ∈ vs, v.IsDocument
  | .members pairs => ∀ pair ∈ pairs, pair.2.IsDocument

theorem Reads.isSound {phrase : Phrase} {ps rest : List Point} (read : Reads phrase ps rest) :
    phrase.IsSound := by
  induction read with
  | text => exact .text _
  | word names => exact names.isDocument
  | number number | negative number => exact number.isDocument
  | emptyArray => exact .list nofun
  | emptyObject => exact @Value.IsDocument.mapping [] List.nodup_nil nofun
  | array _ ih => exact .list ih
  | object _ ih =>
    refine .mapping (Entries.nodup_keys_putAll _ List.nodup_nil) fun m member => ?_
    exact ih m ((Entries.mem_putAll member).resolve_right nofun)
  | lastItem _ _ ih => exact List.forall_mem_cons.mpr ⟨ih, nofun⟩
  | item _ _ _ first more => exact List.forall_mem_cons.mpr ⟨first, more⟩
  | lastMember _ _ _ _ ih => exact List.forall_mem_cons.mpr ⟨ih, nofun⟩
  | member _ _ _ _ _ first more => exact List.forall_mem_cons.mpr ⟨first, more⟩

theorem Denotes.isDocument {text : RawText} {v : Value} (means : Denotes text v) :
    v.IsDocument := by
  obtain ⟨rest, read, -⟩ := means
  exact read.isSound

/-- A text is read as what it denotes, unless it is nested too deep. -/
theorem read_eq_ok_iff {text : RawText} (shallow : read text ≠ .error .tooDeep) (v : Value) :
    read text = .ok v ↔ Denotes text v := by
  constructor
  · intro found
    obtain ⟨⟨v', rest⟩, first, found⟩ := exists_of_bind_eq_ok found
    dsimp only at found
    split at found
    case isFalse => cases found
    case isTrue last =>
      cases found
      rw [skipSpace_eq] at first last
      have none := List.isEmpty_iff.mp last
      have halts : Halts rest := by
        apply Halts.of_pastSpace
        rw [none]
        exact nofun
      exact ⟨rest, (reads_of_fuel _).1 _ _ _ _ halts first, none⟩
  · rintro ⟨rest, first, last⟩
    have within := (suffix_pastSpace text.points).length_le
    have found := isRead_of_reads first (n := 2 * text.points.length + 2)
      (by simp only [Phrase.calls]; omega) depthLimit
    have whole : Yields (read text) v := by
      rw [read, skipSpace_eq]
      refine Yields.bind found ?_
      dsimp only
      rw [last]
      exact .inl rfl
    exact whole.resolve_right shallow

end SparqlCompose.Json
