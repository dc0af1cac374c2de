import SheetPricing.Power

/-!
# Names in plain characters

A name of a domain in any script, written with plain characters only. Its plain characters come
first; the others follow in the order of their numbers, each as the distance from the one before,
counted over all places of the name. Distances are numbers with digits of falling weight, so that
they need no separator; how fast the weights fall is adapted from distance to distance.
-/
namespace SheetPricing.Url.Punycode

def base : Nat := 36

def leastThreshold : Nat := 1

def greatestThreshold : Nat := 26

/-- The digit that a number below the base is written with. -/
def digit (value : Nat) : Char :=
  if value < 26 then Char.ofNat ('a'.toNat + value) else Char.ofNat ('0'.toNat + (value - 26))

/-- The value of a digit in any case. -/
def digitValue? (c : Char) : Option Nat :=
  if 'a' ≤ c && c ≤ 'z' then some (c.toNat - 'a'.toNat)
  else if 'A' ≤ c && c ≤ 'Z' then some (c.toNat - 'A'.toNat)
  else if '0' ≤ c && c ≤ '9' then some (c.toNat - '0'.toNat + 26)
  else none

/-- A digit below its threshold is the last one of a number. The position counts in steps of the
base. -/
def threshold (bias position : Nat) : Nat :=
  max leastThreshold (min greatestThreshold (position - bias))

theorem threshold_le (bias position : Nat) : threshold bias position ≤ greatestThreshold := by
  simp only [threshold, leastThreshold, greatestThreshold]
  omega

theorem threshold_pos (bias position : Nat) : 0 < threshold bias position := by
  simp only [threshold, leastThreshold, greatestThreshold]
  omega

/-- The bias after a distance that was halved before: how often it can be divided until it is
small. -/
def settle (distance steps : Nat) : Nat :=
  if (base - leastThreshold) * greatestThreshold / 2 < distance then
    settle (distance / (base - leastThreshold)) (steps + base)
  else steps + base * distance / (distance + 38)
termination_by distance
decreasing_by
  simp only [base, leastThreshold, greatestThreshold] at *
  exact Nat.div_lt_self (by omega) (by omega)

/-- The bias for the next distance; `count` characters are placed, and the first distance, which is
long, counts little. -/
def adapt (distance count : Nat) (first : Bool) : Nat :=
  let damped := if first then distance / 700 else distance / 2
  settle (damped + damped / count) 0

/-- The digits of a number, from the given position on. -/
def number (bias : Nat) (position value : Nat) : List Char :=
  let t := threshold bias position
  if value < t then [digit value]
  else digit (t + (value - t) % (base - t))
    :: number bias (position + base) ((value - t) / (base - t))
termination_by value
decreasing_by
  have := threshold_pos bias position
  exact Nat.lt_of_le_of_lt (Nat.div_le_self _ _) (by omega)

/-- A name that is being written: the digits so far, the distance from the last character, and how
many characters are placed. -/
structure Writing where
  digits : List Char
  distance : Nat
  bias : Nat
  placed : Nat

/-- Pass one character of the name while those with the number `n` are placed. -/
def Writing.pass (plain n : Nat) (writing : Writing) (c : Char) : Writing :=
  if c.toNat < n then { writing with distance := writing.distance + 1 }
  else if c.toNat = n then
    { digits := writing.digits ++ number writing.bias base writing.distance
      distance := 0
      bias := adapt writing.distance (writing.placed + 1) (writing.placed = plain)
      placed := writing.placed + 1 }
  else writing

/-- Place the characters with the given numbers, which ascend from `next`. -/
def place (name : List Char) (plain : Nat) : List Nat → Nat → Writing → Writing
  | [], _, writing => writing
  | n :: more, next, writing =>
    let skipped :=
      { writing with distance := writing.distance + (n - next) * (writing.placed + 1) }
    let passed := name.foldl (Writing.pass plain n) skipped
    place name plain more (n + 1) { passed with distance := passed.distance + 1 }

/-- The first number of a character that is not plain. -/
def firstForeign : Nat := 0x80

def isPlain (c : Char) : Bool := c.toNat < firstForeign

/-- A name in plain characters. -/
def encode (name : List Char) : List Char :=
  let plain := name.filter isPlain
  let foreign := ((name.filter (!isPlain ·)).map Char.toNat).eraseDups.mergeSort
    fun a b => decide (a ≤ b)
  let written := place name plain.length foreign firstForeign ⟨[], 0, 72, plain.length⟩
  plain ++ (if plain.isEmpty then [] else ['-']) ++ written.digits

/-- A name that is being read: the characters so far, the number of the last one and the place after
it, and the number whose digits are read. -/
structure Reading where
  name : List Char
  last : Nat
  start : Nat
  bias : Nat
  sum : Nat
  weight : Nat
  position : Nat

/-- Whether no number is begun. -/
def Reading.isBetween (reading : Reading) : Bool := reading.position == base

/-- Whether a character has this number. -/
def isCharacter (n : Nat) : Bool := n < 0xd800 || (0xdfff < n && n < 0x110000)

/-- Weights and sums stay below this number. -/
def numberLimit : Nat := 2 ^ (32 : Nat)

/-- Read one digit. The last digit of a number places a character. -/
def Reading.next (reading : Reading) (value : Nat) : Option Reading :=
  let t := threshold reading.bias reading.position
  let sum := reading.sum + value * reading.weight
  if numberLimit ≤ reading.weight || numberLimit ≤ sum then none
  else if value < t then
    let count := reading.name.length + 1
    let n := reading.last + sum / count
    let index := sum % count
    if isCharacter n then
      some
        { name := reading.name.insertIdx index (Char.ofNat n)
          last := n
          start := index + 1
          bias := adapt (sum - reading.start) count (reading.start = 0)
          sum := index + 1
          weight := 1
          position := base }
    else none
  else some
    { reading with
      sum, weight := reading.weight * (base - t), position := reading.position + base }

/-- The name that plain characters write. The mark between the plain characters and the digits is
left out if there are none. -/
def decode? (written : List Char) : Option (List Char) := do
  if written.head? = some '-' && !(written.drop 1).contains '-' then none
  let digits := (written.reverse.takeWhile (· != '-')).reverse
  let plain := (written.take (written.length - digits.length)).dropLast
  let reading ← digits.foldlM (fun reading c => digitValue? c >>= reading.next)
    (⟨plain, firstForeign, 0, 72, 0, 1, base⟩ : Reading)
  if plain.all isPlain && reading.isBetween then some reading.name else none

end SheetPricing.Url.Punycode
