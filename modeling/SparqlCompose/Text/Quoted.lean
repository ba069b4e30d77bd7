import SparqlCompose.Text.Printable
import SparqlCompose.Text.RawText

namespace SparqlCompose.Text

def apostrophe : Char := '\x27'
def doubleQuote : Char := '\x22'
def backslash : Char := '\x5c'

def quoteFor (ps : List Point) : Char :=
  if ps.contains apostrophe && !ps.contains doubleQuote then doubleQuote else apostrophe

def numericEscape (c : Char) : List Char :=
  let n := c.toNat
  if n < 0x100 then backslash :: 'x' :: hexDigits 2 n
  else if n < 0x10000 then backslash :: 'u' :: hexDigits 4 n
  else backslash :: 'U' :: hexDigits 8 n

def quoteChar (quote : Char) (c : Char) : List Char :=
  if c = backslash || c = quote then [backslash, c]
  else if c = '\n' then [backslash, 'n']
  else if c = '\r' then [backslash, 'r']
  else if c = '\t' then [backslash, 't']
  else if isPrintable c then [c]
  else numericEscape c

def quotePoint (quote : Char) : Point → List Char
  | .char c => quoteChar quote c
  | p => p.shown

def quoted (r : RawText) : String :=
  let quote := quoteFor r.points
  String.ofList (quote :: r.points.flatMap (quotePoint quote) ++ [quote])

end SparqlCompose.Text
