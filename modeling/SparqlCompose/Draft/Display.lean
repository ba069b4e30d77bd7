import SparqlCompose.Draft.Query
import SparqlCompose.Text.Quoted

namespace SparqlCompose

namespace Draft

def showVariable (d : Draft) (v : Variable) : String :=
  match d.expression? v with
  | some e => "Variable(" ++ Text.quoted v.name ++ ", expression=" ++ Text.quoted e ++ ")"
  | none => "Variable(" ++ Text.quoted v.identifier.text ++ ")"

def showResource (r : Resource) : String := "QueryResource(" ++ Text.quoted r.iri ++ ")"

def showBlank (b : BlankNode) : String := "BlankNode(" ++ Text.quoted b.label ++ ")"

def showLiteral : Literal → String
  | .text s => Text.quoted s
  | .integer n => toString n
  | .float x => x.text
  | .boolean b => if b then "True" else "False"

def showTerm (d : Draft) : Term → String
  | .variable v => d.showVariable v
  | .resource r => showResource r
  | .blank b => showBlank b
  | .literal l => showLiteral l

def showPattern (d : Draft) (p : Pattern) : String :=
  "BasicPattern(" ++ d.showTerm p.subject ++ ", " ++ d.showTerm p.predicate ++ ", " ++
    d.showTerm p.object ++ ")"

def showGroup? (g : Group) : Option String :=
  match g.kind with
  | .plain => none
  | .graph uri =>
    some ("NamedGraphComponent(" ++ Text.quoted uri ++
      s!", {g.elements.length} components)")
  | .optional => some s!"OptionalComponent({g.elements.length} components)"

end Draft

end SparqlCompose
