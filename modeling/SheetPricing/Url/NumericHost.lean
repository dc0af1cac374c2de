import SheetPricing.Json.Reading
import SheetPricing.Text.Split

/-!
# Numeric hosts

Addresses of 32 bits, written as one to four numbers of which the last one fills what the others
leave, and addresses of eight pieces of 16 bits, in which one run of zeros may be left out.
-/
namespace SheetPricing.Url

/-- The value of hexadecimal digits, if all are. -/
def hexadecimal? (cs : List Char) : Option Nat :=
  cs.foldlM (fun value c => (Text.hexadecimalDigit? c).map (value * 16 + ·)) 0

/-- The value of digits of a base up to ten, if all are. -/
def digitsIn? (base : Nat) (cs : List Char) : Option Nat :=
  cs.foldlM (fun value c =>
    if '0' ≤ c && c.toNat < '0'.toNat + base then some (value * base + (c.toNat - '0'.toNat))
    else none) 0

/-- A number in a numeric host: hexadecimal after `0x`, octal after another zero, else decimal. -/
def hostNumber? : List Char → Option Nat
  | [] => none
  | '0' :: 'x' :: digits => hexadecimal? digits
  | '0' :: 'X' :: digits => hexadecimal? digits
  | '0' :: c :: digits => digitsIn? 8 (c :: digits)
  | digits => digitsIn? 10 digits

/-- The parts of a host between points; a point at the end is left out. -/
def hostParts (host : List Char) : List (List Char) :=
  let parts := Text.splitList '.' host
  if parts.getLast? = some [] then parts.dropLast else parts

/-- Whether a host means a number, because its last part does. -/
def endsInNumber (host : List Char) : Bool :=
  match (hostParts host).getLast? with
  | some [] | none => false
  | some last => last.all Text.isPlainDigit || (hostNumber? last).isSome

/-- The address of 32 bits that a host writes. -/
def address4? (host : List Char) : Option Nat := do
  let numbers ← (hostParts host).mapM hostNumber?
  let last ← numbers.getLast?
  let before := numbers.dropLast
  if before.length < 4 && before.all (· < 256) && last < 256 ^ (4 - before.length) then
    return before.foldr (fun number rest => number * 256 ^ (3 : Nat) + rest / 256) 0 + last
  else none

/-- An address of 32 bits as four numbers. -/
def address4Text (address : Nat) : String :=
  ".".intercalate
    (([3, 2, 1, 0] : List Nat).map fun place => toString (address / 256 ^ place % 256))

/-- A decimal number of one octet without needless zeros. -/
def octet? (cs : List Char) : Option Nat := do
  let value ← digitsIn? 10 cs
  if cs.isEmpty || (cs.head? = some '0' && cs.length != 1) || 255 < value then none else value

/-- The two pieces that four numbers between points write. -/
def pairOfOctets? (cs : List Char) : Option (List Nat) := do
  match ← (Text.splitList '.' cs).mapM octet? with
  | [a, b, c, d] => return [a * 256 + b, c * 256 + d]
  | _ => none

/-- A piece of 16 bits: one to four hexadecimal digits. -/
def piece? (cs : List Char) : Option Nat :=
  if cs.isEmpty || 4 < cs.length then none else hexadecimal? cs

/-- Pieces so far, and how many of them stand before the zeros that are left out. -/
structure Pieces where
  pieces : List Nat
  gap : Option Nat

/-- A piece more. There are at most eight. -/
def Pieces.add (before : Pieces) (more : List Nat) : Option Pieces :=
  if 8 < before.pieces.length + more.length then none
  else some { before with pieces := before.pieces ++ more }

/-- The pieces after those that are read, from the parts between colons. An empty part is where
zeros are left out, and stands for one of them. -/
def Pieces.read (before : Pieces) : List (List Char) → Option Pieces
  | [] => some before
  | [last] =>
    if last.isEmpty then some before
    else if last.contains '.' then (pairOfOctets? last).bind before.add
    else (piece? last).bind fun piece => before.add [piece]
  | part :: rest =>
    if part.isEmpty then
      if before.gap.isSome then none
      else (before.add [0]).bind fun now => { now with gap := some now.pieces.length }.read rest
    else if rest = [[]] then none
    else (piece? part).bind fun piece => (before.add [piece]).bind fun now => now.read rest

/-- All eight pieces, with the zeros that were left out. -/
def Pieces.filled? (all : Pieces) : Option (List Nat) :=
  match all.gap with
  | some gap => some (all.pieces.take gap ++ List.replicate (8 - all.pieces.length) 0
      ++ all.pieces.drop gap)
  | none => if all.pieces.length = 8 then some all.pieces else none

/-- The eight pieces that a text writes. -/
def address6? (cs : List Char) : Option (List Nat) :=
  if cs.length < 2 then none
  else match Text.splitList ':' cs with
    | [] :: [] :: rest => (Pieces.read ⟨[0], some 1⟩ rest).bind Pieces.filled?
    | [] :: _ => none
    | parts => (Pieces.read ⟨[], none⟩ parts).bind Pieces.filled?

/-- The length of the run of zeros that begins pieces. -/
def zeroRun (pieces : List Nat) : Nat := (pieces.takeWhile (· == 0)).length

/-- Where the first of the longest runs of zeros begins, and its length; one zero is no run. -/
def longestZeroRun (pieces : List Nat) : Option (Nat × Nat) :=
  let runs := (List.range pieces.length).map fun start => (start, zeroRun (pieces.drop start))
  runs.foldl (fun best run =>
    if 1 < run.2 && (best.map Prod.snd).getD 0 < run.2 then some run else best) none

/-- Eight pieces as text, without the longest run of zeros. -/
def address6Text (pieces : List Nat) : String :=
  let shown (part : List Nat) :=
    ":".intercalate (part.map fun piece => String.ofList (Nat.toDigits 16 piece))
  match longestZeroRun pieces with
  | some (start, length) =>
    shown (pieces.take start) ++ "::" ++ shown (pieces.drop (start + length))
  | none => shown pieces

end SheetPricing.Url
