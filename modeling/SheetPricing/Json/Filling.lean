import SheetPricing.Json.Placeholder

/-!
# Filling placeholders

A value in the place of a placeholder is a sign, a mark of its base, and digits or letters, in a
field of at least the given width. Counts that are taken from the value, and the value itself, are
taken in the order in which they stand in the text.
-/
namespace SheetPricing.Json

/-- A written value: its sign, the mark of its base, and the rest. Only numbers are filled up with
zeros. -/
structure Written where
  sign : List Char
  mark : List Char
  body : List Char
  isNumber : Bool
  deriving DecidableEq, Repr

/-- How a value is written, with the counts that are known by now. -/
structure FieldLayout where
  flags : List Char
  width : Nat
  precision : Option Nat
  deriving DecidableEq, Repr

namespace FieldLayout

/-- A written value in its field. -/
def fill (layout : FieldLayout) (written : Written) : List Char :=
  let front := written.sign ++ written.mark
  let missing := layout.width - (front.length + written.body.length)
  if layout.flags.contains '-' then front ++ written.body ++ List.replicate missing ' '
  else if written.isNumber && layout.flags.contains '0' then
    front ++ List.replicate missing '0' ++ written.body
  else List.replicate missing ' ' ++ front ++ written.body

/-- The sign of a number; those that are not negative have one if it is asked for. -/
def sign (layout : FieldLayout) (negative : Bool) : List Char :=
  if negative then ['-']
  else if layout.flags.contains '+' then ['+']
  else if layout.flags.contains ' ' then [' ']
  else []

/-- A text, cut to the precision. -/
def text (layout : FieldLayout) (text : String) : Written :=
  let cs := text.toList
  ⟨[], [], (layout.precision.map cs.take).getD cs, false⟩

/-- The greatest precision that an integer can be written with. -/
def integerPrecision : Nat := 2 ^ (31 : Nat) - 4

/-- An integer by a base, with at least as many digits as the precision. -/
def integer (layout : FieldLayout) (base : Nat) (mark : List Char) (value : Int) :
    Except FillFault Written :=
  let least := layout.precision.getD 0
  if integerPrecision < least then .error .precisionOutOfReach
  else
    let digits := Nat.toDigits base value.natAbs
    .ok ⟨layout.sign (value < 0), if layout.flags.contains '#' then mark else [],
      List.replicate (least - digits.length) '0' ++ digits, true⟩

/-- A number in a style, with six places or digits if nothing else is asked for. -/
def real (layout : FieldLayout) (style : NumberStyle) (value : Binary64) : Written :=
  ⟨layout.sign value.isNegative, [],
    style.size (layout.flags.contains '#') (layout.precision.getD 6) value, true⟩

end FieldLayout

namespace Written

/-- A written number in capitals. -/
def capital (written : Written) : Written :=
  { written with mark := written.mark.map Char.toUpper, body := written.body.map Char.toUpper }

end Written

/-- A value as it is shown, in plain characters: all others by number. -/
def shownPlain (value : Json) : String :=
  String.ofList (value.shown.toList.flatMap fun c =>
    if c.toNat < 0x80 then [c] else (Text.escapedByNumber c))

/-- The whole part of a value. -/
def whole (kind : Char) : Json → Except FillFault Int
  | .integer value => .ok value
  | .bool value => .ok (if value then 1 else 0)
  | .real .nan => .error .notANumber
  | .real value => value.truncate?.elim (.error .infinite) .ok
  | value => .error (.notNumber kind value.kindName)

/-- The integer that a value is. -/
def exactInteger (kind : Char) : Json → Except FillFault Int
  | .integer value => .ok value
  | .bool value => .ok (if value then 1 else 0)
  | value => .error (.notInteger kind value.kindName)

/-- The number that a value is. -/
def number : Json → Except FillFault Binary64
  | .real value => .ok value
  | .bool value => .ok (if value then 1 else 0)
  | .integer value =>
    let number := Binary64.ofInt value
    if number.isFinite then .ok number else .error .integerTooLarge
  | value => .error (.notReal value.kindName)

/-- The one character that a value is, or the number of which it is. -/
def character : Json → Except FillFault Char
  | .text value =>
    match value.toList with
    | [c] => .ok c
    | _ => .error .notCharacter
  | .integer value =>
    if 0 ≤ value ∧ value < 0x110000 then .ok (Char.ofNat value.toNat) else .error .noSuchCharacter
  | .bool value => .ok (Char.ofNat (if value then 1 else 0))
  | _ => .error .notCharacter

/-- A value in the place of a placeholder of some kind. -/
def write (layout : FieldLayout) (kind : Char) (place : Nat) (value : Json) :
    Except FillFault Written :=
  match kind with
  | 's' => .ok (layout.text value.message)
  | 'r' => .ok (layout.text value.shown)
  | 'a' => .ok (layout.text value.shownPlain)
  | 'd' | 'i' | 'u' => value.whole kind >>= layout.integer 10 []
  | 'o' => value.exactInteger kind >>= layout.integer 8 ['0', 'o']
  | 'x' => value.exactInteger kind >>= layout.integer 16 ['0', 'x']
  | 'X' => (value.exactInteger kind >>= layout.integer 16 ['0', 'x']).map Written.capital
  | 'e' => value.number.map (layout.real .scientific)
  | 'E' => value.number.map (Written.capital ∘ layout.real .scientific)
  | 'f' => value.number.map (layout.real .fixed)
  | 'F' => value.number.map (Written.capital ∘ layout.real .fixed)
  | 'g' => value.number.map (layout.real .general)
  | 'G' => value.number.map (Written.capital ∘ layout.real .general)
  | 'c' => value.character.map fun c => ⟨[], [], [c], false⟩
  | kind => .error (.unknownKind kind place)

/-- The named part of a value. -/
def part (value : Json) (name : String) : Except FillFault Json :=
  match value with
  | .object fields =>
    match fields.lookup name with
    | some field => .ok field
    | none => .error (.unknownName name)
  | .list _ => .error .nameInList
  | _ => .error .noFields

/-- Whether a value has parts of its own. Such a value need not be used. -/
def hasParts : Json → Bool
  | .object _ | .list _ => true
  | _ => false

/-- What is left to be taken from a value: all of it, or nothing. -/
abbrev Filling := StateT (Option Json) (Except FillFault)

namespace Filling

/-- Take the value. -/
def take : Filling Json := do
  match ← get with
  | none => throw .tooFew
  | some value =>
    set (none : Option Json)
    return value

/-- A count between limits; one that is not written is taken. -/
def count (limit : Nat) (tooLarge outOfRange : FillFault) : Count → Filling Int
  | .written count => if limit < count then throw tooLarge else return count
  | .taken => do
    let value ← take
    let count ← (match value with
      | .integer count => pure count
      | .bool value => pure (if value then 1 else 0)
      | _ => throw .notCount : Filling Int)
    if count < -(limit + 1) ∨ limit < count then throw outOfRange
    return count

/-- The width that a placeholder asks for; a negative one puts the value in front. -/
def layout (placeholder : Placeholder) : Filling FieldLayout := do
  let width ← (placeholder.width.getD (.written 0) |>
    count (2 ^ (63 : Nat) - 1) .widthTooLarge (.countTooLarge "ssize_t"))
  let precision ← placeholder.precision.mapM
    (count (2 ^ (31 : Nat) - 1) .precisionTooLarge (.countTooLarge "int"))
  let flags := if width < 0 then '-' :: placeholder.flags else placeholder.flags
  return ⟨flags, width.natAbs, precision.map Int.toNat⟩

/-- Fill one placeholder with a value or its part. -/
def hole (value : Json) (placeholder : Placeholder) : Filling (List Char) := do
  if let some name := placeholder.name then set (some (← value.part name))
  let layout ← layout placeholder
  match placeholder.kind with
  | none => throw .unfinished
  | some kind =>
    let written ← (← take).write layout kind placeholder.place
    return layout.fill written

/-- Fill the parts of a text. -/
def all (value : Json) : List Piece → Filling (List Char)
  | [] => return []
  | .plain c :: rest => return c :: (← all value rest)
  | .unclosed :: _ => throw (if value.hasParts then .unfinishedName else .noFields)
  | .hole placeholder :: rest => do
    let written ← hole value placeholder
    return written ++ (← all value rest)

end Filling

/-- Fill a text with a value. A value that counts as missing leaves the text as it is. -/
def fill (text : String) (value : Json) : Except FillFault String :=
  if value.isVoid then .ok text
  else
    let cs := text.toList
    match (Filling.all value (pieces cs.length cs.length cs)).run (some value) with
    | .ok (written, left) =>
      if left.isSome && !value.hasParts then .error .tooMany else .ok (String.ofList written)
    | .error fault => .error fault

end SheetPricing.Json
