import SheetPricing.Text.Octets
import SheetPricing.Text.Quoted
import SheetPricing.Json.Reading

/-!
# Escapes in URLs

A character that a part of a URL does not hold is written by its octets, each as a percent sign and
two digits. Every part has its own set of such characters; what is no plain character is in all of
them.

Main statement: `escape_eq_self` (a part that holds all its characters is written as it is).
-/
namespace SheetPricing.Url

/-- The character that is no plain character, or is a control. -/
def isForeign (c : Char) : Bool := c.toNat < 0x20 || 0x7e < c.toNat

def outsideFragment (c : Char) : Bool := isForeign c || c ∈ [' ', '\x22', '<', '>', '\x60']

def outsidePath (c : Char) : Bool := outsideFragment c || c ∈ ['#', '?', '\x7b', '\x7d']

def outsideQuery (c : Char) : Bool := isForeign c || c ∈ [' ', '\x22', '#', '<', '>', '\x27']

def outsideCredentials (c : Char) : Bool :=
  outsidePath c || c ∈ ['/', ':', ';', '=', '@', '[', '\x5c', ']', '^', '|']

/-- An octet as a percent sign and two digits. -/
def escapeOctet (octet : Nat) : List Char :=
  '%' :: (Text.hexadecimal 2 octet).map Char.toUpper

/-- A part of a URL without the characters that it does not hold. -/
def escape (outside : Char → Bool) (cs : List Char) : List Char :=
  cs.flatMap fun c => if outside c then (Text.octetsOf c).flatMap escapeOctet else [c]

theorem escape_eq_self {outside : Char → Bool} {cs : List Char}
    (inside : ∀ c ∈ cs, outside c = false) : escape outside cs = cs := by
  induction cs with
  | nil => rfl
  | cons c rest ih =>
    have first := inside c List.mem_cons_self
    have others := ih fun d member => inside d (List.mem_cons_of_mem c member)
    simp only [escape] at others ⊢
    simp [first, others]

/-- The octets of a text in which octets may be escaped; a percent sign without two digits stands
for itself. -/
def unescapeOctets : List Char → List Nat
  | [] => []
  | '%' :: a :: b :: rest =>
    match Text.hexadecimalDigit? a, Text.hexadecimalDigit? b with
    | some high, some low => (high * 16 + low) :: unescapeOctets rest
    | _, _ => Text.octetsOf '%' ++ unescapeOctets (a :: b :: rest)
  | c :: rest => Text.octetsOf c ++ unescapeOctets rest

/-- A text with its escaped octets replaced by the characters that they write. -/
def unescape (cs : List Char) : List Char := Text.decodeOctets (unescapeOctets cs)

end SheetPricing.Url
