import SheetPricing.Text.Blank
import SheetPricing.Text.Digit
import SheetPricing.Text.Octets
import SheetPricing.Text.Quoted
import SheetPricing.Text.Split

/-!
# Values of headers

A value of a header may have parameters after semicolons, each a name and a text with an equals sign
between. The text may stand between quotes; a long one may be given in numbered sections, and its
octets may be escaped. Values are read octet by octet, so that each character here is an octet; the
text that the octets make up depends on the character set.
-/
namespace SheetPricing.Service

/-- A parameter: its name, and the octets of its text. -/
abbrev Parameter := String × List Char

namespace HeaderValue

def octets (text : String) : List Char := (Text.octets text.toList).map Char.ofNat

def isBlank (c : Char) : Bool := Text.isBlank c

/-- Octets without blanks at the ends. -/
def trim (cs : List Char) : List Char := ((cs.dropWhile isBlank).reverse.dropWhile isBlank).reverse

/-- The pieces between the semicolons that stand outside quotes. A quote behind a backslash neither
opens nor closes. -/
def pieces (isInside : Bool) (before : Char) : List Char → List (List Char)
  | [] => [[]]
  | c :: rest =>
    if c = ';' ∧ !isInside then [] :: pieces false c rest
    else
      let isTurn := c = Text.doubleQuote && before != Text.backslash
      match pieces (isInside != isTurn) c rest with
      | [] => [[c]]
      | piece :: more => (c :: piece) :: more

/-- A text in which each of the given pairs of characters is replaced by its second one. -/
def collapsed (first second : Char) : List Char → List Char
  | a :: b :: rest =>
    if a = first ∧ b = second then b :: collapsed first second rest
    else a :: collapsed first second (b :: rest)
  | cs => cs

/-- A text without the backslashes that escape backslashes, and then without those that escape
quotes. -/
def withoutEscapes (cs : List Char) : List Char :=
  collapsed Text.backslash Text.doubleQuote (collapsed Text.backslash Text.backslash cs)

/-- A text without the quotes or the angles around it. -/
def unquoted (cs : List Char) : List Char :=
  let inside := (cs.drop 1).dropLast
  if cs.length < 2 then cs
  else if cs.head? = some Text.doubleQuote ∧ cs.getLast? = some Text.doubleQuote then
    withoutEscapes inside
  else if cs.head? = some '<' ∧ cs.getLast? = some '>' then inside
  else cs

/-- A text with its escaped octets in place. -/
def unescaped : List Char → List Char
  | '%' :: a :: b :: rest =>
    match Text.hexadecimalDigit? a, Text.hexadecimalDigit? b with
    | some high, some low => Char.ofNat (high * 16 + low) :: unescaped rest
    | _, _ => '%' :: unescaped (a :: b :: rest)
  | c :: rest => c :: unescaped rest
  | [] => []

/-- A name and a text. Names are written in any case; one without a text is as it is written. -/
def parameter (piece : List Char) : Parameter :=
  let name := trim (piece.takeWhile (· != '='))
  if piece.contains '=' then
    (String.ofList (name.map Char.toLower), unquoted (trim ((piece.dropWhile (· != '=')).drop 1)))
  else (String.ofList name, [])

/-- A section of a text: its number, if it has one, and whether its octets are escaped. -/
structure Section where
  name : String
  number : Option Nat
  isEscaped : Bool
  text : List Char

/-- A character of a plain name. -/
def isNamed (c : Char) : Bool := c.isAlphanum || c = '_'

/-- The section that a parameter is: an asterisk follows its name, then a number, and another
asterisk if it is escaped. -/
def section? (parameter : Parameter) : Option Section :=
  let (written, text) := parameter
  let name := written.toList.takeWhile isNamed
  let digits := (written.toList.drop (name.length + 1)).takeWhile Char.isDigit
  let number := digits.foldl (fun n c => 10 * n + (c.toNat - '0'.toNat)) 0
  match written.toList.drop name.length with
  | '*' :: rest =>
    if name.isEmpty then none
    else match rest.drop digits.length with
      | [] =>
        let number := if digits.isEmpty then none else some number
        some ⟨String.ofList name, number, digits.isEmpty, text⟩
      | ['*'] =>
        if digits.isEmpty then none else some ⟨String.ofList name, some number, true, text⟩
      | _ => none
  | _ => none

/-- Whether a section stands before another. -/
def Section.comesBefore (a b : Section) : Bool :=
  let numbered (part : Section) : Nat := (part.number.map (· + 1)).getD 0
  numbered a < numbered b || (numbered a = numbered b && !b.text.lex a.text)

/-- The text of sections. One that is escaped begins with its character set and its language, each
with a quote behind, which do not count. -/
def joined (sections : List Section) : List Char :=
  let text := (sections.mergeSort Section.comesBefore).flatMap fun part =>
    if part.isEscaped then unescaped part.text else part.text
  match Text.splitList Text.singleQuote text with
  | _ :: _ :: rest =>
    if sections.any Section.isEscaped ∧ !rest.isEmpty then
      List.intercalate [Text.singleQuote] rest
    else text
  | _ => text

/-- The parameters of a value. Those in sections come last. -/
def parameters (value : List Char) : List Parameter :=
  let all := ((pieces false ';' value).drop 1).map parameter
  let sections := all.filterMap section?
  let names := (sections.map Section.name).eraseDups
  all.filter (fun parameter => (section? parameter).isNone)
    ++ names.map fun name => (name, joined (sections.filter (·.name = name)))

/-- The octets of a parameter; of several the last one counts. -/
def parameter? (value : List Char) (name : String) : Option (List Char) :=
  (parameters value).reverse.lookup name

/-- The octets of the name of a file: of a path from a drive or a share only the last part. -/
def fileName (octets : List Char) : List Char :=
  if (octets.drop 1).take 2 = [':', Text.backslash]
      ∨ octets.take 2 = [Text.backslash, Text.backslash] then
    (octets.reverse.takeWhile (· != Text.backslash)).reverse
  else octets

end HeaderValue

/-- The names of the character set in which a character has one to four octets. -/
def octetSets : List String := ["utf_8", "utf8", "u8", "utf", "utf8_ucs2", "utf8_ucs4", "cp65001"]

/-- The text that octets make up. In any other character set, and if they make up none, each octet
is a character. -/
def decoded (charset octets : List Char) : String :=
  let name := String.ofList (charset.map fun c => if c = '-' ∨ c = ' ' then '_' else c.toLower)
  match octetSets.contains name, Text.readOctets (octets.map Char.toNat) with
  | true, .ok text => String.ofList text
  | _, _ => String.ofList octets

end SheetPricing.Service
