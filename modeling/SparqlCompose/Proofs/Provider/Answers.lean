import SparqlCompose.Proofs.Json.Printing
import SparqlCompose.Proofs.Json.Surrogates
import SparqlCompose.Proofs.Provider.Counting

namespace SparqlCompose

open Value

theorem Source.isPlain_document {source : Source} (uri : source.uri.IsJoined)
    (label : source.label.IsJoined) : source.document.IsPlain := by
  refine @isPlain_record [("uri", .text source.uri), ("label", .text source.label)] (by simp) ?_
  simp only [List.forall_mem_cons]
  exact ⟨.text uri, .text label, nofun⟩

theorem InstanceCount.isPlain_document {x : InstanceCount}
    (short : x.count.natAbs < Nat.pow 10 Number.digitLimit) : x.document.IsPlain := by
  refine @isPlain_record
    [("type", .text x.type), ("label", .text x.label), ("count", .integer x.count)] (by simp) ?_
  simp only [List.forall_mem_cons]
  exact ⟨.text (RawText.isJoined_ofString _), .text (RawText.isJoined_ofString _), .integer short,
    nofun⟩

theorem Response.isPlain_document {response : Response}
    (plain : ∀ entries, response.entries? = some entries → ∀ v ∈ entries, v.IsPlain) :
    response.document.IsPlain := by
  rw [document]
  cases data : response.entries? with
  | none =>
    exact @isPlain_record [("success", .boolean response.success)] (by simp)
      (List.forall_mem_singleton.mpr (.boolean _))
  | some entries =>
    refine @isPlain_record [("success", .boolean response.success), ("data", .list entries)]
      (by simp) ?_
    simp only [List.forall_mem_cons]
    exact ⟨.boolean _, .list (plain entries data), nofun⟩

theorem Source.isJoined_labelled {segment ps : List Point} (last : IsLastSegment segment ps)
    (joined : (RawText.mk ps).IsJoined) : (labelled segment).IsJoined := by
  have within : segment <:+ ps := by
    rcases last.2 with rfl | ⟨before, rfl⟩
    · exact List.suffix_rfl
    · exact (List.suffix_cons _ _).trans (List.suffix_append _ _)
  have kept : segment.IsChain fun p q => ¬ (p.IsHigh ∧ q.IsLow) := joined.suffix within
  -- a period is no surrogate, as a hyphen is none
  rw [RawText.IsJoined, labelled, List.isChain_map]
  refine kept.imp fun p q apart => ?_
  rintro ⟨high, low⟩
  refine apart ⟨?_, ?_⟩
  · split at high
    · cases high
    · exact high
  · split at low
    · cases low
    · exact low

section Sources

variable {text : String} {root members : List (RawText × Value)}
  {rows : List (List (RawText × Value))}

theorem ResultTable.Tabular.isJoined (tabular : ResultTable.Tabular text root rows)
    (listed : members ∈ rows) {name : RawText} {raw : Value}
    (found : Entries.get? name members = some raw) {b : Binding} (means : Binding.Means raw b) :
    b.value.IsJoined := by
  obtain ⟨parts, rfl, value, -⟩ := means
  obtain ⟨results, inRoot, inResults⟩ := tabular.bindings
  refine tabular.denotes.isJoined (.of_get? inRoot (.of_get? inResults ?_))
  exact .item (List.mem_map_of_mem listed) (.of_get? found (.of_get? value .here))

theorem Source.Describes.isPlain {source : Source} (describes : source.Describes members)
    (tabular : ResultTable.Tabular text root rows) (listed : members ∈ rows) :
    source.document.IsPlain := by
  obtain ⟨raw, b, found, means, is⟩ := describes.uri
  have uri : source.uri.IsJoined := is ▸ tabular.isJoined listed found means
  refine Source.isPlain_document uri ?_
  by_cases there : .ofString Vocabulary.label ∈ Entries.keys members
  · obtain ⟨raw, found⟩ := Entries.mem_keys_iff.mp there
    obtain ⟨b, means⟩ := tabular.binds members listed _ (Entries.mem_of_get? found)
    rw [describes.label raw b found means]
    exact tabular.isJoined listed found means
  · obtain ⟨segment, last, is⟩ := describes.derived there
    rw [is]
    exact Source.isJoined_labelled last uri

end Sources

theorem InstanceCount.Describes.isPlain {rows : List (List (RawText × Value))} {uri : String}
    {x : InstanceCount} (describes : x.Describes rows uri) : x.document.IsPlain := by
  apply InstanceCount.isPlain_document
  rcases describes.count with ⟨-, members, -, -, ⟨text, -, -, w, fits, -, is⟩, -⟩ | ⟨-, none⟩
  · rw [← is]
    exact fits.natAbs_value_lt
  · rw [none, Nat.pow_eq]
    exact Nat.pow_pos (by decide)

namespace Provider

variable {reply : Reply}

theorem isPlain_failed : Response.failed.document.IsPlain :=
  Response.isPlain_document nofun

theorem isPlain_listing {data : List Source} {rows : List (List (RawText × Value))}
    (lists : reply.Lists rows)
    (each : List.Forall₂ (fun members source => source.Describes members) rows data) :
    (Response.sources true (some data)).document.IsPlain := by
  obtain ⟨text, root, -, tabular, -⟩ := lists
  refine Response.isPlain_document ?_
  rintro entries ⟨⟩ v member
  obtain ⟨source, inside, rfl⟩ := List.mem_map.mp member
  obtain ⟨members, listed, describes⟩ := exists_left_of_mem each inside
  exact describes.isPlain tabular listed

theorem isPlain_counting {data : List InstanceCount} {rows : List (List (RawText × Value))}
    {classes : List String}
    (each : List.Forall₂ (InstanceCount.Describes rows) classes data) :
    (Response.counts true (some data)).document.IsPlain := by
  refine Response.isPlain_document ?_
  rintro entries ⟨⟩ v member
  obtain ⟨x, inside, rfl⟩ := List.mem_map.mp member
  obtain ⟨uri, -, describes⟩ := exists_left_of_mem each inside
  exact describes.isPlain

end Provider

end SparqlCompose
