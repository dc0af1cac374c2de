import SheetPricing.Json.Reading
import SheetPricing.Text.Blank

/-!
# Bytes as hexadecimal digits

A byte is written by two digits in any case; blanks may stand between bytes.
-/
namespace SheetPricing.Hexadecimal

/-- The place of a character that stands where a digit has to. -/
structure Misplaced where
  place : Nat
  deriving DecidableEq, Repr

def Misplaced.message (misplaced : Misplaced) : String :=
  s!"non-hexadecimal number found in fromhex() arg at position {misplaced.place}"

/-- The bytes that characters from a place on write. -/
def readFrom (place : Nat) : List Char → Except Misplaced (List UInt8)
  | [] => .ok []
  | a :: rest =>
    if Text.isNumberBlank a then readFrom (place + 1) rest
    else match Text.hexadecimalDigit? a, rest with
      | none, _ => .error ⟨place⟩
      | some _, [] => .error ⟨place + 1⟩
      | some high, b :: rest =>
        match Text.hexadecimalDigit? b with
        | none => .error ⟨place + 1⟩
        | some low => (readFrom (place + 2) rest).map (UInt8.ofNat (high * 16 + low) :: ·)

/-- The bytes that a text writes. Characters that are not plain are found first. -/
def read (s : String) : Except Misplaced (List UInt8) :=
  let plain := s.toList.takeWhile fun c => decide (c.toNat < 0x80)
  if plain.length < s.length then .error ⟨plain.length⟩ else readFrom 0 s.toList

end SheetPricing.Hexadecimal
