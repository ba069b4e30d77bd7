import SparqlCompose.Proofs.Json.Grammar
import SparqlCompose.Proofs.Json.Spelling

namespace SparqlCompose

/-- The text stands somewhere in the value, other than as a name. -/
inductive Value.Mentions (r : RawText) : Value → Prop
  | here : Mentions r (.text r)
  | item {items : List Value} {v : Value} (member : v ∈ items) (inner : Mentions r v) :
      Mentions r (.list items)
  | member {entries : List (Value × Value)} {k v : Value} (member : (k, v) ∈ entries)
      (inner : Mentions r v) : Mentions r (.mapping entries)

theorem Value.Mentions.of_get? {r name : RawText} {members : List (RawText × Value)} {v : Value}
    (found : Entries.get? name members = some v) (inner : Mentions r v) :
    Mentions r (.mapping (named members)) :=
  .member (List.mem_map_of_mem (f := fun m : RawText × Value => (Value.text m.1, m.2))
    (Entries.mem_of_get? found)) inner

namespace Json

open Value

def IsWhole (ps : List Point) : Prop := ∀ p ∈ ps, ∃ c, p = .char c

theorem IsWhole.suffix {ps rest : List Point} (whole : IsWhole ps) (within : rest <:+ ps) :
    IsWhole rest := fun p member => whole p (within.mem member)

theorem isWhole_ofString (s : String) : IsWhole (RawText.ofString s).points := by
  intro p member
  obtain ⟨c, -, rfl⟩ := List.mem_map.mp member
  exact ⟨c, rfl⟩

theorem isJoined_of_letters {ps letters rest : List Point} (read : Letters ps letters rest)
    (whole : IsWhole ps) : (RawText.mk letters).IsJoined := by
  have within {p q : Point} {ps : List Point} (whole : IsWhole (p :: q :: ps)) : IsWhole ps :=
    whole.suffix (suffix_cons_cons p q ps)
  induction read with
  | close => exact .nil
  | pair first second _ _ more ih =>
    have behind := within ((within whole).suffix first.suffix)
    exact List.isChain_cons.mpr ⟨fun q _ high => high.1, ih (behind.suffix second.suffix)⟩
  | unit first alone more ih =>
    have rests := (within whole).suffix first.suffix
    refine List.isChain_cons.mpr ⟨?_, ih rests⟩
    rintro q next ⟨high, low⟩
    -- a low surrogate can only come from a code unit, and that one would have been taken
    cases more with
    | close => cases next
    | pair =>
      obtain rfl := Option.some.inj next
      cases low
    | unit second =>
      obtain rfl := Option.some.inj next
      exact alone (Point.isHigh_ofNat_iff.mp high) _ _ _ rfl second (Point.isLow_ofNat_iff.mp low)
    | escape =>
      obtain rfl := Option.some.inj next
      cases low
    | plain =>
      obtain rfl := Option.some.inj next
      obtain ⟨c, rfl⟩ := rests _ List.mem_cons_self
      cases low
  | escape short more ih =>
    exact List.isChain_cons.mpr ⟨fun q _ high => high.1, ih (within whole)⟩
  | plain quote slash printed more ih =>
    obtain ⟨c, rfl⟩ := whole _ List.mem_cons_self
    exact List.isChain_cons.mpr ⟨fun q _ high => high.1, ih (whole.suffix (List.suffix_cons _ _))⟩

theorem Names.not_mentions {w : String} {v : Value} (names : Names w v) (r : RawText) :
    ¬ Mentions r v := by
  cases names <;> rintro ⟨⟩

theorem IsNumber.not_mentions {negative : Bool} {cs : List Char} {v : Value}
    (number : IsNumber negative cs v) (r : RawText) : ¬ Mentions r v := by
  cases number <;> rintro ⟨⟩

def Phrase.Mentions (r : RawText) : Phrase → Prop
  | .value v => v.Mentions r
  | .items vs => ∃ v ∈ vs, v.Mentions r
  | .members pairs => ∃ pair ∈ pairs, pair.2.Mentions r

theorem Reads.isJoined {phrase : Phrase} {ps rest : List Point} (read : Reads phrase ps rest)
    (whole : IsWhole ps) {r : RawText} (mentions : phrase.Mentions r) : r.IsJoined := by
  have behind {ps rest : List Point} {p : Point} (whole : IsWhole ps)
      (next : pastSpace ps = p :: rest) : IsWhole (p :: rest) :=
    next ▸ whole.suffix (suffix_pastSpace ps)
  have tail {ps : List Point} {p : Point} (whole : IsWhole (p :: ps)) : IsWhole ps :=
    whole.suffix (List.suffix_cons p ps)
  induction read with
  | text closed =>
    cases mentions
    exact isJoined_of_letters closed (tail whole)
  | word names => exact absurd mentions (names.not_mentions r)
  | number number | negative number => exact absurd mentions (number.not_mentions r)
  | emptyArray | emptyObject =>
    cases mentions
    contradiction
  | array inside ih =>
    cases mentions with
    | item member inner => exact ih ((tail whole).suffix (suffix_pastSpace _)) ⟨_, member, inner⟩
  | object inside ih =>
    cases mentions with
    | member member inner =>
      obtain ⟨m, kept, same⟩ := List.mem_map.mp member
      cases same
      have listed := (Entries.mem_putAll kept).resolve_right nofun
      exact ih ((tail whole).suffix (suffix_pastSpace _)) ⟨m, listed, inner⟩
  | lastItem _ _ ih =>
    obtain ⟨v, member, inner⟩ := mentions
    obtain rfl := List.mem_singleton.mp member
    exact ih whole inner
  | item first comma _ ih ih' =>
    obtain ⟨v, member, inner⟩ := mentions
    rcases List.mem_cons.mp member with rfl | later
    · exact ih whole inner
    · have rest := tail (behind (whole.suffix first.suffix) comma)
      exact ih' (rest.suffix (suffix_pastSpace _)) ⟨v, later, inner⟩
  | lastMember name colon _ _ ih =>
    obtain ⟨pair, member, inner⟩ := mentions
    obtain rfl := List.mem_singleton.mp member
    have rest := tail (behind ((tail whole).suffix name.suffix) colon)
    exact ih (rest.suffix (suffix_pastSpace _)) inner
  | member name colon value comma _ ih ih' =>
    obtain ⟨pair, member, inner⟩ := mentions
    have said := (tail (behind ((tail whole).suffix name.suffix) colon)).suffix (suffix_pastSpace _)
    rcases List.mem_cons.mp member with rfl | later
    · exact ih said inner
    · have rest := tail (behind (said.suffix value.suffix) comma)
      exact ih' (rest.suffix (suffix_pastSpace _)) ⟨pair, later, inner⟩

theorem Denotes.isJoined {s : String} {v : Value} (means : Denotes s v) {r : RawText}
    (mentions : v.Mentions r) : r.IsJoined := by
  obtain ⟨rest, read, -⟩ := means
  exact read.isJoined ((isWhole_ofString s).suffix (suffix_pastSpace _)) mentions

end Json

end SparqlCompose
