namespace SparqlCompose.Text

/-- Membership starts out false and flips at every boundary. -/
def flips : List Nat → Nat → Bool
  | [], _ => false
  | b :: bs, n => if n < b then false else !flips bs n

end SparqlCompose.Text
