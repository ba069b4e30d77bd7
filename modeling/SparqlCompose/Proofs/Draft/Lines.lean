import SparqlCompose.Proofs.Draft.Fresh
import SparqlCompose.Proofs.Results

namespace SparqlCompose

theorem writeIri_of_allowed [IriCheck] {iri : String} (allowed : iriAllowed iri = true) :
    writeIri iri = .ok ("<" ++ iri ++ ">") := by
  rw [writeIri, if_pos allowed]

theorem Term.written_resource [IriCheck] {r : Resource} (iri : String) (is : r.iri = iri)
    (allowed : iriAllowed iri = true) : (Term.resource r).written = .ok ("<" ++ iri ++ ">") := by
  rw [written, is, writeIri_of_allowed allowed]

theorem Pattern.written_eq [IriCheck] {serial : Nat} {s v o : Term}
    {subject predicate object : String} (hs : s.written = .ok subject)
    (hv : v.written = .ok predicate) (ho : o.written = .ok object) :
    (⟨serial, s, v, o, none⟩ : Pattern).written =
      .ok (subject ++ " " ++ predicate ++ " " ++ object ++ " .") := by
  simp only [written, hs, hv, ho]
  rfl

namespace Draft

def elementLines [IriCheck] (d : Draft) (indent : String) (depth level : Nat) :
    Element → Except Failure (List String)
  | .pattern p => do return [indentation indent level ++ (← p.written)]
  | .group inner => do
    let body ← d.lines indent depth (level + 1) inner
    return (indentation indent level ++ opening (d.group inner).kind) :: body ++
      [indentation indent level ++ "\x7d"]
  | .stray thing => .error (.invalid (.strayElement (d.entityKind thing)))

variable {d : Draft} {indent : String} {depth level : Nat}

theorem lines_succ [IriCheck] (g : GroupId) :
    d.lines indent (depth + 1) level g =
      (do return (← (d.group g).elements.mapM (d.elementLines indent depth level)).flatten) := by
  rw [lines]
  congr 1

theorem lines_eq_ok [IriCheck] {g : GroupId} (parts : List (List String))
    (each : List.Forall₂ (fun e part => d.elementLines indent depth level e = .ok part)
      (d.group g).elements parts) :
    d.lines indent (depth + 1) level g = .ok parts.flatten := by
  rw [lines_succ, mapM_eq_ok each]
  rfl

theorem elementLines_pattern [IriCheck] {p : Pattern} {text : String}
    (written : p.written = .ok text) :
    d.elementLines indent depth level (.pattern p) = .ok [indentation indent level ++ text] := by
  rw [elementLines, written]
  rfl

theorem elementLines_group [IriCheck] {inner : GroupId} {kind : GroupKind} {body : List String}
    (is : (d.group inner).kind = kind) (below : d.lines indent depth (level + 1) inner = .ok body) :
    d.elementLines indent depth level (.group inner) =
      .ok ((indentation indent level ++ opening kind) :: body ++
        [indentation indent level ++ "\x7d"]) := by
  rw [elementLines, below, is]
  rfl

theorem projected_attach {d : Draft} {w : Sheet} {v : Variable} (own : d.Leaves w v) :
    (d.attach w).projected v = v.text := by
  rw [projected, own.expression?_attach]

theorem sparql_eq_ok [IriCheck] {q : QueryId} {query : Query} {head body tail : List String}
    (is : d.query q = query) (first : d.headLines indent query = .ok head)
    (inside : d.lines indent d.depth 1 query.body = .ok body)
    (last : tailLines query = .ok tail) :
    d.sparql indent q = .ok (String.join ((namespaceLines query ++ head ++
      "WHERE \x7b" :: body ++ "\x7d" :: tail).map (· ++ "\n"))) := by
  rw [sparql, queryLines, is, first, inside, last]
  rfl

end Draft

end SparqlCompose
