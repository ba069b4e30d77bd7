namespace SparqlCompose.Text

def isBlank (c : Char) : Bool :=
  let n := c.toNat
  (9 ≤ n && n ≤ 13) || (28 ≤ n && n ≤ 32) || n == 0x85 || n == 0xA0 || n == 0x1680 ||
    (0x2000 ≤ n && n ≤ 0x200A) || n == 0x2028 || n == 0x2029 || n == 0x202F || n == 0x205F ||
    n == 0x3000

def trimEnd {α : Type} (p : α → Bool) (cs : List α) : List α :=
  (cs.reverse.dropWhile p).reverse

def trim {α : Type} (p : α → Bool) (cs : List α) : List α :=
  trimEnd p (cs.dropWhile p)

def strip (s : String) : String :=
  String.ofList (trim isBlank s.toList)

def isAllBlank (s : String) : Bool :=
  s.toList.all isBlank

end SparqlCompose.Text
