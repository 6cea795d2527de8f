import NamedConditions.Text.Printable
/-!
Quoted texts and octet strings, as values are shown inside other values. A text stands in single
quotes, unless it holds a single quote and no double one; a backslash or a quote of the same sort is
escaped, and so is every character that is not printable.
-/
namespace NamedConditions.Text

/-- A hexadecimal digit. -/
def hexDigit (n : Nat) : Char := "0123456789abcdef".toList.getD n '0'

/-- The lowest `width` hexadecimal digits of a number. -/
def hex (width : Nat) (n : Nat) : List Char :=
  (List.range width).reverse.map fun i => hexDigit (n >>> (4 * i) % 16)

/-- The quote around a text. -/
def quoteFor (s : List Char) : Char := if '\'' ∈ s ∧ '"' ∉ s then '"' else '\''

/-- One character inside quotes; the test says which characters stand for themselves. -/
def escapeChar (plain : Char → Bool) (quote c : Char) : List Char :=
  if c = quote ∨ c = '\\' then ['\\', c]
  else if c = '\t' then ['\\', 't']
  else if c = '\n' then ['\\', 'n']
  else if c = '\r' then ['\\', 'r']
  else if plain c then [c]
  else if c.toNat < 0x100 then '\\' :: 'x' :: hex 2 c.toNat
  else if c.toNat < 0x10000 then '\\' :: 'u' :: hex 4 c.toNat
  else '\\' :: 'U' :: hex 8 c.toNat

/-- A text in quotes. -/
def quoted (s : List Char) : List Char :=
  let quote := quoteFor s
  quote :: s.flatMap (escapeChar isPrintable quote) ++ [quote]

/-- Octets as characters. -/
def octetChars (octets : List UInt8) : List Char := octets.map fun o => Char.ofNat o.toNat

/-- Octets as characters between quotes, of which one sort is escaped; so are octets beyond
ASCII. -/
def octetsBetween (quote escapedQuote : Char) (s : List Char) : List Char :=
  let plain := fun c => isPrintable c && decide (c.toNat < 0x80)
  quote :: s.flatMap (escapeChar plain escapedQuote) ++ [quote]

/-- An octet string in quotes. -/
def quotedOctets (octets : List UInt8) : List Char :=
  let s := octetChars octets
  octetsBetween (quoteFor s) (quoteFor s) s

/-- An octet array in quotes: a single quote is escaped between double ones too. -/
def quotedOctetArray (octets : List UInt8) : List Char :=
  let s := octetChars octets
  octetsBetween (quoteFor s) '\'' s

end NamedConditions.Text
