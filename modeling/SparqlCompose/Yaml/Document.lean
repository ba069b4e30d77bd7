import SparqlCompose.Yaml.Reader
import SparqlCompose.Yaml.Scalar
import SparqlCompose.Yaml.Token

namespace SparqlCompose.Yaml

/-- Where a node stands decides which tokens may start it. -/
inductive Place
  | flow
  | block
  | keyed
deriving DecidableEq

def bindKey? (key value : Value) (entries : List (Value × Value)) : Option (List (Value × Value)) :=
  if key.isKey then some (Value.bind key value entries) else none

mutual

def node? (place : Place) (fuel : Nat) (ts : List Token) : Option (Value × List Token) :=
  match fuel with
  | 0 => none
  | fuel + 1 =>
    match ts with
    | .scalar plain s :: rest => (scalarValue? plain s).map fun v => (v, rest)
    | .flowSequenceStart :: rest => do
      let (items, rest) ← flowItems? true fuel rest
      return (.list items, rest)
    | .flowMappingStart :: rest => do
      let (entries, rest) ← flowMembers? true fuel [] rest
      return (.mapping entries, rest)
    | .sequenceStart :: rest =>
      if place = .flow then none
      else do
        let (items, rest) ← items? true fuel rest
        return (.list items, rest)
    | .mappingStart :: rest =>
      if place = .flow then none
      else do
        let (entries, rest) ← members? fuel [] rest
        return (.mapping entries, rest)
    | .entry :: rest =>
      if place = .keyed then do
        let (items, rest) ← items? false fuel (.entry :: rest)
        return (.list items, rest)
      else none
    | _ => none

def items? (indented : Bool) (fuel : Nat) (ts : List Token) : Option (List Value × List Token) :=
  match fuel with
  | 0 => none
  | fuel + 1 =>
    match ts with
    | .entry :: rest => do
      let (v, rest) ←
        match rest with
        | .entry :: _ | .blockEnd :: _ => some (.null, rest)
        | .key :: _ | .value :: _ =>
          if indented then node? .block fuel rest else some (.null, rest)
        | _ => node? .block fuel rest
      let (vs, rest) ← items? indented fuel rest
      return (v :: vs, rest)
    | .blockEnd :: rest => if indented then some ([], rest) else some ([], .blockEnd :: rest)
    | rest => if indented then none else some ([], rest)

def members? (fuel : Nat) (seen : List (Value × Value)) (ts : List Token) :
    Option (List (Value × Value) × List Token) :=
  match fuel with
  | 0 => none
  | fuel + 1 =>
    match ts with
    | .key :: rest => do
      let (k, rest) ← optional? fuel rest
      let (v, rest) ←
        match rest with
        | .value :: rest => optional? fuel rest
        | rest => some (.null, rest)
      members? fuel (← bindKey? k v seen) rest
    | .blockEnd :: rest => some (seen, rest)
    | _ => none

def optional? (fuel : Nat) (ts : List Token) : Option (Value × List Token) :=
  match fuel with
  | 0 => none
  | fuel + 1 =>
    match ts with
    | .key :: _ | .value :: _ | .blockEnd :: _ => some (.null, ts)
    | _ => node? .keyed fuel ts

/-- The items of a flow sequence. A single pair stands for a mapping with that member. -/
def flowItems? (first : Bool) (fuel : Nat) (ts : List Token) :
    Option (List Value × List Token) :=
  match fuel with
  | 0 => none
  | fuel + 1 =>
    match ts with
    | .flowSequenceEnd :: rest => some ([], rest)
    | _ => do
      let ts ←
        if first then some ts
        else
          match ts with
          | .flowEntry :: rest => some rest
          | _ => none
      match ts with
      | .flowSequenceEnd :: rest => return ([], rest)
      | .key :: rest =>
        let (k, rest) ← flowPart? fuel rest
        let (v, rest) ← flowPartAfterColon? fuel rest
        let entries ← bindKey? k v []
        let (vs, rest) ← flowItems? false fuel rest
        return (.mapping entries :: vs, rest)
      | _ =>
        let (v, rest) ← node? .flow fuel ts
        let (vs, rest) ← flowItems? false fuel rest
        return (v :: vs, rest)

def flowMembers? (first : Bool) (fuel : Nat) (seen : List (Value × Value)) (ts : List Token) :
    Option (List (Value × Value) × List Token) :=
  match fuel with
  | 0 => none
  | fuel + 1 =>
    match ts with
    | .flowMappingEnd :: rest => some (seen, rest)
    | _ => do
      let ts ←
        if first then some ts
        else
          match ts with
          | .flowEntry :: rest => some rest
          | _ => none
      match ts with
      | .flowMappingEnd :: rest => return (seen, rest)
      | .key :: rest =>
        let (k, rest) ← flowPart? fuel rest
        let (v, rest) ← flowPartAfterColon? fuel rest
        flowMembers? false fuel (← bindKey? k v seen) rest
      | _ =>
        let (k, rest) ← node? .flow fuel ts
        flowMembers? false fuel (← bindKey? k .null seen) rest

def flowPart? (fuel : Nat) (ts : List Token) : Option (Value × List Token) :=
  match fuel with
  | 0 => none
  | fuel + 1 =>
    match ts with
    | .value :: _ | .flowEntry :: _ | .flowSequenceEnd :: _ | .flowMappingEnd :: _ =>
      some (.null, ts)
    | _ => node? .flow fuel ts

def flowPartAfterColon? (fuel : Nat) (ts : List Token) : Option (Value × List Token) :=
  match fuel with
  | 0 => none
  | fuel + 1 =>
    match ts with
    | .value :: rest => flowPart? fuel rest
    | _ => some (.null, ts)

end

def skipEnds : List Token → List Token
  | .documentEnd :: rest => skipEnds rest
  | ts => ts

def content? (ts : List Token) : Option (Value × List Token) :=
  match ts with
  | [] | .documentStart :: _ | .documentEnd :: _ => some (.null, ts)
  | _ => node? .block (3 * ts.length + 3) ts

def document? (ts : List Token) : Option Value :=
  match ts with
  | [] => some .null
  | _ => do
    let ts ←
      match ts with
      | .documentStart :: rest => some rest
      | .documentEnd :: _ => none
      | ts => some ts
    let (v, rest) ← content? ts
    if (skipEnds rest).isEmpty then some v else none

def depthLimit : Nat := 480

def nesting (depth : Nat) : List Token → Nat
  | [] => depth
  | t :: ts =>
    if t.opens then nesting (depth + 1) ts
    else if t.closes then max depth (nesting (depth - 1) ts)
    else nesting depth ts

def read (s : String) : Except Fault Value := do
  let some ts := Token.ofText? s | throw .malformed
  if depthLimit < nesting 0 ts then throw .tooDeep
  let some v := document? ts | throw .malformed
  return v

/-- A reader for a part of YAML. It looks at no text before all of it is decoded. -/
def reader : Reader := ⟨read, fun _ => false⟩

@[simp] theorem load_reader (s : String) : reader.load s = read s := rfl

end SparqlCompose.Yaml
