import SheetPricing.Json.Reading
import SheetPricing.Text.Octets

/-!
# Encoded JSON texts

A JSON text may be written with units of one, two or four octets. As it begins with plain
characters, the zeros among its first octets tell which, and in which order the octets of a unit
stand.

Main statement: `readEncoded_eq_read` (a text whose first octets tell nothing else is read as it
is).
-/
namespace SheetPricing.Json

/-- How characters are written as octets. -/
inductive Encoding where
  | octets
  /-- Units of 16 bits; the octet of the high bits first, or last. -/
  | units (highFirst : Bool)
  /-- The numbers of the characters; the octet of the high bits first, or last. -/
  | numbers (highFirst : Bool)
  deriving DecidableEq, Repr

/-- The encoding of a text that begins with the given octets. -/
def encodingOf : List Nat → Encoding
  | a :: b :: c :: d :: _ =>
    if a = 0 then if b = 0 then .numbers true else .units true
    else if b = 0 then if c = 0 ∧ d = 0 then .numbers false else .units false
    else .octets
  | [a, b] => if a = 0 then .units true else if b = 0 then .units false else .octets
  | _ => .octets

/-- The units that pairs of octets make up, if no octet is left over. -/
def pairs? (highFirst : Bool) : List Nat → Option (List Nat)
  | [] => some []
  | a :: b :: rest =>
    (pairs? highFirst rest).map ((if highFirst then a * 0x100 + b else b * 0x100 + a) :: ·)
  | _ => none

/-- The numbers that groups of four octets make up, as far as they are numbers of characters. -/
def quads? (highFirst : Bool) : List Nat → Option (List Nat)
  | [] => some []
  | a :: b :: c :: d :: rest =>
    let number :=
      if highFirst then ((a * 0x100 + b) * 0x100 + c) * 0x100 + d
      else ((d * 0x100 + c) * 0x100 + b) * 0x100 + a
    if number < 0x110000 then (quads? highFirst rest).map (number :: ·) else none
  | _ => none

/-- The text that octets write. -/
def decode? (encoding : Encoding) (octets : List Nat) : Option (List Char) :=
  match encoding with
  | .octets => some (Text.decodeOctets octets)
  | .units highFirst => (pairs? highFirst octets).map joinUnits
  | .numbers highFirst => (quads? highFirst octets).map (·.map fun n => (joinUnits [n]).headD ' ')

/-- The value that a text stands for whose octets may be those of another encoding. -/
def readEncoded (limits : ReadLimits) (s : String) : Except ReadError Json :=
  match encodingOf (Text.octets (s.toList.take 4)) with
  | .octets => read limits s
  | encoding =>
    match decode? encoding (Text.octets s.toList) with
    | some cs => read limits (String.ofList cs)
    | none => .error .undecodable

theorem readEncoded_eq_read {limits : ReadLimits} {s : String}
    (plain : encodingOf (Text.octets (s.toList.take 4)) = .octets) :
    readEncoded limits s = read limits s := by
  simp [readEncoded, plain]

end SheetPricing.Json
