import SheetPricing.Text.Printable

/-!
# Quoted text

Text inside quotes, for messages. The quotes are single, unless the text holds a single quote
and no double one; the quote in use and the backslash are escaped, line breaks and tabs by name, and
characters that cannot be printed by number.
-/
namespace SheetPricing.Text

def singleQuote : Char := '\x27'

def doubleQuote : Char := '\x22'

def backslash : Char := '\x5c'

/-- The lower-case hexadecimal digits of a number, filled up with zeros to a width. -/
def hexadecimal (width n : Nat) : List Char :=
  let digits := Nat.toDigits 16 n
  List.replicate (width - digits.length) '0' ++ digits

/-- The quote that surrounds a text. -/
def quoteFor (s : String) : Char :=
  if s.toList.contains singleQuote && !s.toList.contains doubleQuote then doubleQuote
  else singleQuote

/-- A character by its number, in as few digits as its size allows. -/
def escapedByNumber (c : Char) : List Char :=
  let n := c.toNat
  if n < 0x100 then [backslash, 'x'] ++ hexadecimal 2 n
  else if n < 0x10000 then [backslash, 'u'] ++ hexadecimal 4 n
  else [backslash, 'U'] ++ hexadecimal 8 n

/-- One character inside the given quotes. -/
def escapeChar (quote c : Char) : List Char :=
  if c == quote || c == backslash then [backslash, c]
  else if c == '\n' then [backslash, 'n']
  else if c == '\r' then [backslash, 'r']
  else if c == '\t' then [backslash, 't']
  else if isPrintable c then [c]
  else escapedByNumber c

/-- A text inside quotes. -/
def quoted (s : String) : String :=
  let quote := quoteFor s
  String.ofList ([quote] ++ s.toList.flatMap (escapeChar quote) ++ [quote])

/-- Octets inside quotes. -/
def quotedOctets (octets : List Nat) : String :=
  let cs := octets.map Char.ofNat
  let quote := quoteFor (String.ofList cs)
  let escaped (c : Char) : List Char :=
    if c.toNat < 0x80 then escapeChar quote c else escapedByNumber c
  String.ofList (['b', quote] ++ cs.flatMap escaped ++ [quote])

end SheetPricing.Text
