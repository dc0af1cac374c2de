/-!
# Plain capitals

Capitals as far as they are letters from `A` to `Z`. A few characters outside the plain alphabet
have such capitals too, some of them more than one; all others stay what they are.
-/
namespace SheetPricing.Text

/-- The characters outside the plain alphabet whose capitals are plain letters. -/
def foreignCapitals : List (Nat × String) :=
  [(0xdf, "SS"), (0x131, "I"), (0x17f, "S"), (0xfb00, "FF"), (0xfb01, "FI"), (0xfb02, "FL"),
    (0xfb03, "FFI"), (0xfb04, "FFL"), (0xfb05, "ST"), (0xfb06, "ST")]

def capitals (c : Char) : List Char :=
  if 'a' ≤ c ∧ c ≤ 'z' then [c.toUpper]
  else match foreignCapitals.lookup c.toNat with
    | some letters => letters.toList
    | none => [c]

def capitalize (s : String) : String := String.ofList (s.toList.flatMap capitals)

/-- The small letter of a plain capital; every other character is its own. -/
def lowered (s : String) : List Char := s.toList.map Char.toLower

end SheetPricing.Text
