import SheetPricing.Decimal.Numeral
import SheetPricing.Json.Basic
import SheetPricing.Table

/-!
# Reading JSON

The text of one value, with blanks around it. The words for infinity and for what is not a number
are values as well; of two fields with one name the later value counts, in the place of the first.
Values may be nested, and integers may be long, only up to given limits.
-/
namespace SheetPricing.Json

/-- Why a text is no JSON value within the limits. -/
inductive ReadError where
  | malformed
  /-- The octets of the text make up no characters. -/
  | undecodable
  | nestedTooDeep
  | integerTooLong
  deriving DecidableEq, Repr

/-- How deep values may be nested and how many digits an integer may have. -/
structure ReadLimits where
  depth : Nat
  digits : Nat
  deriving DecidableEq, Repr

def isSpace (c : Char) : Bool := c == ' ' || c == '\t' || c == '\n' || c == '\r'

def skipSpaces (cs : List Char) : List Char := cs.dropWhile isSpace

/-- The unit of 16 bits that four hexadecimal digits stand for. -/
def unit? (a b c d : Char) : Option Nat := do
  let a ← Text.hexadecimalDigit? a
  let b ← Text.hexadecimalDigit? b
  let c ← Text.hexadecimalDigit? c
  let d ← Text.hexadecimalDigit? d
  return ((a * 16 + b) * 16 + c) * 16 + d

/-- The units of a text, one or two for a character; a unit without its partner is replaced. -/
def joinUnits : List Nat → List Char
  | [] => []
  | high :: low :: rest =>
    if 0xd800 ≤ high && high < 0xdc00 && 0xdc00 ≤ low && low < 0xe000 then
      Char.ofNat (0x10000 + (high - 0xd800) * 0x400 + (low - 0xdc00)) :: joinUnits rest
    else
      (if 0xd800 ≤ high && high < 0xe000 then '\ufffd' else Char.ofNat high)
        :: joinUnits (low :: rest)
  | [unit] => [if 0xd800 ≤ unit && unit < 0xe000 then '\ufffd' else Char.ofNat unit]

/-- The character that follows a backslash, other than `u`. -/
def shortEscape? : Char → Option Char
  | 'b' => some '\x08'
  | 'f' => some '\x0c'
  | 'n' => some '\n'
  | 'r' => some '\r'
  | 't' => some '\t'
  | c => if c == Text.doubleQuote || c == Text.backslash || c == '/' then some c else none

/-- The units of a text up to its closing quote, and the rest. -/
def readUnits : List Char → Except ReadError (List Nat × List Char)
  | [] => .error .malformed
  | '\x5c' :: 'u' :: a :: b :: c :: d :: rest =>
    match unit? a b c d with
    | none => .error .malformed
    | some unit => (readUnits rest).map fun (units, after) => (unit :: units, after)
  | '\x5c' :: c :: rest =>
    match shortEscape? c with
    | none => .error .malformed
    | some plain => (readUnits rest).map fun (units, after) => (plain.toNat :: units, after)
  | c :: rest =>
    if c == Text.doubleQuote then .ok ([], rest)
    else if c.toNat < 0x20 || c == Text.backslash then .error .malformed
    else (readUnits rest).map fun (units, after) => (c.toNat :: units, after)

/-- A text after its opening quote. -/
def readText (cs : List Char) : Except ReadError (String × List Char) :=
  (readUnits cs).map fun (units, after) => (String.ofList (joinUnits units), after)

/-- The digits of a fraction; a point without digits is none. -/
def takeFraction : List Char → List Nat × List Char
  | '.' :: c :: rest =>
    if Text.isPlainDigit c then Numeral.takeDigits (c :: rest) else ([], '.' :: c :: rest)
  | cs => ([], cs)

/-- An exponent with at least one digit. -/
def takeExponent? : List Char → Option (Int × List Char)
  | c :: rest =>
    if c == 'e' || c == 'E' then
      let (negative, digits) := Numeral.takeSign rest
      match Numeral.takeDigits digits with
      | ([], _) => none
      | (ds, after) => some (if negative then -(ofDigits ds) else ofDigits ds, after)
    else none
  | [] => none

/-- The digits before the point: a zero stands alone. -/
def takeWhole : List Char → List Nat × List Char
  | '0' :: rest => ([0], rest)
  | cs => Numeral.takeDigits cs

/-- A number: an integer if it has neither a fraction nor an exponent. -/
def readNumber (limits : ReadLimits) (negative : Bool) (cs : List Char) :
    Except ReadError (Json × List Char) :=
  let (whole, afterWhole) := takeWhole cs
  let (fraction, afterFraction) := takeFraction afterWhole
  if whole.isEmpty then .error .malformed
  else
    match takeExponent? afterFraction with
    | some (exponent, rest) =>
      .ok (.real (Decimal.toBinary64
        ⟨negative, ofDigits (whole ++ fraction), exponent - fraction.length⟩), rest)
    | none =>
      if fraction.isEmpty then
        if limits.digits < whole.length then .error .integerTooLong
        else
          let size : Int := ofDigits whole
          .ok (.integer (if negative then -size else size), afterFraction)
      else
        .ok (.real (Decimal.toBinary64
          ⟨negative, ofDigits (whole ++ fraction), -(fraction.length : Int)⟩), afterFraction)

/-- The rest of a text after a word that it begins with. -/
def afterWord? : List Char → List Char → Option (List Char)
  | [], rest => some rest
  | _ :: _, [] => none
  | w :: word, c :: rest => if w == c then afterWord? word rest else none

/-- The words that are values. -/
def words : List (String × Json) :=
  [("null", .null), ("true", .bool true), ("false", .bool false), ("NaN", .real .nan),
    ("Infinity", .real (.infinity false)), ("-Infinity", .real (.infinity true))]

def readWord? (cs : List Char) : Option (Json × List Char) :=
  words.findSome? fun (word, value) => (afterWord? word.toList cs).map (value, ·)

/-- A value that is neither a list nor an object. -/
def readScalar (limits : ReadLimits) (cs : List Char) : Except ReadError (Json × List Char) :=
  match readWord? cs with
  | some found => .ok found
  | none =>
    match cs with
    | '-' :: rest => readNumber limits true rest
    | c :: rest =>
      if c == Text.doubleQuote then (readText rest).map fun (s, after) => (.text s, after)
      else readNumber limits false cs
    | [] => .error .malformed

mutual

/-- A value without blanks before it. -/
def readValue (limits : ReadLimits) : Nat → Nat → List Char → Except ReadError (Json × List Char)
  | 0, _, _ => .error .malformed
  | fuel + 1, depth, '[' :: rest =>
    if limits.depth ≤ depth then .error .nestedTooDeep
    else match skipSpaces rest with
      | ']' :: after => .ok (.list [], after)
      | items => (readItems limits fuel (depth + 1) items).map
          fun (values, after) => (.list values, after)
  | fuel + 1, depth, '\x7b' :: rest =>
    if limits.depth ≤ depth then .error .nestedTooDeep
    else match skipSpaces rest with
      | '\x7d' :: after => .ok (.object [], after)
      | fields => (readFields limits fuel (depth + 1) .empty fields).map
          fun (table, after) => (.object table.entries, after)
  | _ + 1, _, cs => readScalar limits cs

/-- The items of a list up to its closing bracket. -/
def readItems (limits : ReadLimits) :
    Nat → Nat → List Char → Except ReadError (List Json × List Char)
  | 0, _, _ => .error .malformed
  | fuel + 1, depth, cs => do
    let (item, afterItem) ← readValue limits fuel depth cs
    match skipSpaces afterItem with
    | ']' :: after => return ([item], after)
    | ',' :: more =>
      let (items, after) ← readItems limits fuel depth (skipSpaces more)
      return (item :: items, after)
    | _ => throw .malformed

/-- The fields of an object up to its closing brace, added to those before them. -/
def readFields (limits : ReadLimits) :
    Nat → Nat → Table String Json → List Char → Except ReadError (Table String Json × List Char)
  | fuel + 1, depth, fields, '\x22' :: rest => do
    let (name, afterName) ← readText rest
    match skipSpaces afterName with
    | ':' :: value =>
      let (field, afterField) ← readValue limits fuel depth (skipSpaces value)
      match skipSpaces afterField with
      | '\x7d' :: after => return (fields.put name field, after)
      | ',' :: more => readFields limits fuel depth (fields.put name field) (skipSpaces more)
      | _ => throw .malformed
    | _ => throw .malformed
  | _, _, _, _ => .error .malformed

end

/-- The text without the mark that may begin an encoded text. -/
def withoutMark : List Char → List Char
  | '\ufeff' :: rest => rest
  | cs => cs

/-- The value that a text stands for. Each step of the reading takes at least one character, so that
the length of the text bounds their number. -/
def read (limits : ReadLimits) (s : String) : Except ReadError Json := do
  let cs := withoutMark s.toList
  let (value, rest) ← readValue limits (2 * cs.length + 1) 0 (skipSpaces cs)
  if (skipSpaces rest).isEmpty then return value else throw .malformed

end SheetPricing.Json
