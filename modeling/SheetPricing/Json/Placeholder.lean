import SheetPricing.Decimal.Styled
import SheetPricing.Json.Shown

/-!
# Placeholders

A text with placeholders is filled with a value: `%s` stands for the text of the value, `%r` for the
value as it is shown, `%d` for its whole part, `%x` for an integer by another base, `%f` for a
number in one of the styles and `%%` for the sign itself. A name in parentheses picks a field, so
that an object may fill any number of placeholders; any other value fills one.
-/
namespace SheetPricing.Json

/-- What is wrong with a text with placeholders, or with the value for them. -/
inductive FillFault where
  | tooFew
  | tooMany
  | noFields
  /-- A name was looked for in a list. -/
  | nameInList
  | unknownName (name : String)
  | unfinished
  | unfinishedName
  | unknownKind (kind : Char) (place : Nat)
  | notNumber (kind : Char) (found : String)
  | notInteger (kind : Char) (found : String)
  | notReal (found : String)
  | notCharacter
  | noSuchCharacter
  | infinite
  | notANumber
  | integerTooLarge
  /-- A width or a precision that is taken from the value is no integer. -/
  | notCount
  | widthTooLarge
  | precisionTooLarge
  /-- A precision that can be read, but not kept to. -/
  | precisionOutOfReach
  /-- A width or a precision that is taken from the value is out of the range of a kind of integer.
  -/
  | countTooLarge (kind : String)
  deriving DecidableEq, Repr

def FillFault.message : FillFault → String
  | .tooFew => "not enough arguments for format string"
  | .tooMany => "not all arguments converted during string formatting"
  | .noFields => "format requires a mapping"
  | .nameInList => "list indices must be integers or slices, not str"
  | .unknownName name => Text.quoted name
  | .unfinished => "incomplete format"
  | .unfinishedName => "incomplete format key"
  | .unknownKind kind place =>
    let shown := if 31 ≤ kind.toNat && kind.toNat < 127 then kind else '?'
    "unsupported format character '" ++ shown.toString ++ "' (0x"
      ++ String.ofList (Nat.toDigits 16 kind.toNat) ++ s!") at index {place}"
  | .notNumber kind found =>
    "%" ++ kind.toString ++ s!" format: a real number is required, not {found}"
  | .notInteger kind found =>
    "%" ++ kind.toString ++ s!" format: an integer is required, not {found}"
  | .notReal found => s!"must be real number, not {found}"
  | .notCharacter => "%c requires int or char"
  | .noSuchCharacter => "%c arg not in range(0x110000)"
  | .infinite => "cannot convert float infinity to integer"
  | .notANumber => "cannot convert float NaN to integer"
  | .integerTooLarge => "int too large to convert to float"
  | .notCount => "* wants int"
  | .widthTooLarge => "width too big"
  | .precisionTooLarge => "precision too big"
  | .precisionOutOfReach => "precision too large"
  | .countTooLarge kind => s!"Python int too large to convert to C {kind}"

/-- A width or a precision: written, or taken from the value. -/
inductive Count where
  | written (count : Nat)
  | taken
  deriving DecidableEq, Repr

/-- A placeholder: how the value is written, in which width, and where the kind stands. A text may
end before the kind. -/
structure Placeholder where
  name : Option String
  flags : List Char
  width : Option Count
  precision : Option Count
  kind : Option Char
  place : Nat
  deriving DecidableEq, Repr

/-- A part of a text with placeholders. -/
inductive Piece where
  | plain (c : Char)
  | hole (placeholder : Placeholder)
  /-- A name that is not closed. -/
  | unclosed
  deriving DecidableEq, Repr

namespace Placeholder

/-- A name up to its closing parenthesis, where `depth` more are open inside it. -/
def readName : Nat → List Char → Option (List Char × List Char)
  | _, [] => none
  | depth, c :: rest =>
    if c = ')' then
      match depth with
      | 0 => some ([], rest)
      | inner + 1 => (readName inner rest).map fun (name, after) => (c :: name, after)
    else
      (readName (if c = '(' then depth + 1 else depth) rest).map
        fun (name, after) => (c :: name, after)

/-- The count in front of a text: digits, or a star for one that is taken. -/
def readCount : List Char → Option Count × List Char
  | [] => (none, [])
  | c :: rest =>
    if c = '*' then (some .taken, rest)
    else if c.isDigit then
      let (digits, after) := (c :: rest).span Char.isDigit
      (some (.written (digits.foldl (fun n c => 10 * n + (c.toNat - '0'.toNat)) 0)), after)
    else (none, c :: rest)

def isFlag (c : Char) : Bool := c == '-' || c == '+' || c == ' ' || c == '#' || c == '0'

/-- A letter for the size of a number, which makes no difference. -/
def isSize (c : Char) : Bool := c == 'h' || c == 'l' || c == 'L'

/-- The precision in front of a text. A point alone is a precision of zero. -/
def readPrecision : List Char → Option Count × List Char
  | '.' :: rest =>
    let (count, after) := readCount rest
    (some (count.getD (.written 0)), after)
  | cs => (none, cs)

/-- A placeholder without its sign and its name, at the front of the rest of a text of `size`
characters. -/
def read (size : Nat) (name : Option String) (cs : List Char) : Placeholder × List Char :=
  let flags := cs.takeWhile isFlag
  let (width, cs) := readCount (cs.dropWhile isFlag)
  let (precision, cs) := readPrecision cs
  let cs := if cs.head?.any isSize then cs.drop 1 else cs
  (⟨name, flags, width, precision, cs.head?, size - cs.length⟩, cs.drop 1)

end Placeholder

/-- The parts of a text of `size` characters, as far as it can be read. -/
def pieces (size : Nat) : Nat → List Char → List Piece
  | 0, _ => []
  | _, [] => []
  | steps + 1, '%' :: '%' :: rest => .plain '%' :: pieces size steps rest
  | steps + 1, '%' :: '(' :: rest =>
    match Placeholder.readName 0 rest with
    | none => [.unclosed]
    | some (name, rest) =>
      let (placeholder, rest) := Placeholder.read size (some (String.ofList name)) rest
      .hole placeholder :: pieces size steps rest
  | steps + 1, '%' :: rest =>
    let (placeholder, rest) := Placeholder.read size none rest
    .hole placeholder :: pieces size steps rest
  | steps + 1, c :: rest => .plain c :: pieces size steps rest

end SheetPricing.Json
