import SparqlCompose.Proofs.Nesting.Depth

namespace SparqlCompose.Draft

def IsBracket (indent line : String) : Prop :=
  ∃ level, line = indentation indent level ++ "\x7d" ∨
    ∃ kind, line = indentation indent level ++ opening kind

def IsLineOf (indent : String) (x : Pattern) (line : String) : Prop :=
  ∃ level text, x.written = .ok text ∧ line = indentation indent level ++ text

variable {d : Draft} {indent : String}

theorem mem_lines {n level : Nat} {g : GroupId} {ls : List String}
    (written : d.lines indent n level g = .ok ls) {line : String} (member : line ∈ ls) :
    IsBracket indent line ∨
      ∃ inner, d.Encloses g inner ∧ ∃ x ∈ (d.group inner).patterns, IsLineOf indent x line := by
  induction n generalizing level g ls with
  | zero => cases written
  | succ n ih =>
    rw [lines] at written
    obtain ⟨parts, made, written⟩ := exists_of_bind_eq_ok written
    cases written
    obtain ⟨part, among, inside⟩ := List.mem_flatten.mp member
    obtain ⟨e, there, wrote⟩ := exists_of_mem_mapM made among
    cases e with
    | stray thing => cases wrote
    | pattern x =>
      obtain ⟨text, is, wrote⟩ := exists_of_bind_eq_ok wrote
      cases wrote
      have here : x ∈ (d.group g).patterns := List.mem_filterMap.mpr ⟨_, there, rfl⟩
      exact .inr ⟨g, .refl, x, here, level, text, is, List.mem_singleton.mp inside⟩
    | group inner =>
      obtain ⟨body, deeper, wrote⟩ := exists_of_bind_eq_ok wrote
      cases wrote
      have below : d.Contains g inner := List.mem_filterMap.mpr ⟨_, there, rfl⟩
      rcases List.mem_append.mp inside with front | last
      · rcases List.mem_cons.mp front with first | within
        · exact .inl ⟨level, .inr ⟨_, first⟩⟩
        · rcases ih deeper within with bracket | ⟨found, rest, x, member, is⟩
          · exact .inl bracket
          · exact .inr ⟨found, .head below rest, x, member, is⟩
      · exact .inl ⟨level, .inl (List.mem_singleton.mp last)⟩

theorem sparql_of_select {q : QueryId} {distinct : Bool} {projection : List Variable}
    {grouping : List Entity} {text : String}
    (form : (d.query q).form = .select distinct projection grouping)
    (written : d.sparql indent q = .ok text) :
    ∃ body tail, d.lines indent d.depth 1 (d.query q).body = .ok body ∧
      text = String.join ((namespaceLines (d.query q) ++ d.selectLine distinct projection ::
        "WHERE \x7b" :: body ++ "\x7d" :: tail).map (· ++ "\n")) := by
  obtain ⟨ls, made, written⟩ := exists_of_bind_eq_ok written
  cases written
  obtain ⟨head, first, made⟩ := exists_of_bind_eq_ok made
  obtain ⟨body, inside, made⟩ := exists_of_bind_eq_ok made
  obtain ⟨tail, -, made⟩ := exists_of_bind_eq_ok made
  cases made
  rw [headLines, form] at first
  cases first
  refine ⟨body, tail, inside, ?_⟩
  simp

end SparqlCompose.Draft
