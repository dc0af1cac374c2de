/-!
# Octets

A text as octets, one to four for a character, and back. Octets that are part of no character are
replaced, as few as possible at a time.

Main statement: `decodeOctets_of_plain` (plain characters are octets themselves).
-/
namespace SheetPricing.Text

/-- An octet that goes on with a character: six more bits of its number. -/
def restOctet (n : Nat) : Nat := 0x80 + n % 0x40

def octetsOf (c : Char) : List Nat :=
  let n := c.toNat
  if n < 0x80 then [n]
  else if n < 0x800 then [0xc0 + n / 0x40, restOctet n]
  else if n < 0x10000 then [0xe0 + n / 0x1000, restOctet (n / 0x40), restOctet n]
  else [0xf0 + n / 0x40000, restOctet (n / 0x1000), restOctet (n / 0x40), restOctet n]

def octets (cs : List Char) : List Nat := cs.flatMap octetsOf

/-- A character that began: how many octets it still takes, the number so far, and the bounds of the
next octet. -/
structure Pending where
  missing : Nat
  number : Nat
  low : Nat
  high : Nat
  deriving Repr

/-- What an octet begins. -/
inductive Start where
  | whole (c : Char)
  | part (pending : Pending)

/-- What replaces octets that are part of no character. -/
def replacement : Char := '\ufffd'

/-- The first octet of a character. The bounds of the second one leave out numbers that fewer octets
write, and numbers of no character. -/
def startOf (octet : Nat) : Start :=
  if octet < 0x80 then .whole (Char.ofNat octet)
  else if 0xc2 ≤ octet && octet ≤ 0xdf then .part ⟨1, octet - 0xc0, 0x80, 0xbf⟩
  else if 0xe0 ≤ octet && octet ≤ 0xef then
    .part ⟨2, octet - 0xe0, if octet = 0xe0 then 0xa0 else 0x80,
      if octet = 0xed then 0x9f else 0xbf⟩
  else if 0xf0 ≤ octet && octet ≤ 0xf4 then
    .part ⟨3, octet - 0xf0, if octet = 0xf0 then 0x90 else 0x80,
      if octet = 0xf4 then 0x8f else 0xbf⟩
  else .whole replacement

/-- The text of octets that follow a character that began. -/
def decodeAfter : Option Pending → List Nat → List Char
  | none, [] => []
  | some _, [] => [replacement]
  | none, octet :: rest =>
    match startOf octet with
    | .whole c => c :: decodeAfter none rest
    | .part pending => decodeAfter (some pending) rest
  | some pending, octet :: rest =>
    if pending.low ≤ octet && octet ≤ pending.high then
      let number := pending.number * 0x40 + (octet - 0x80)
      if pending.missing = 1 then Char.ofNat number :: decodeAfter none rest
      else decodeAfter (some ⟨pending.missing - 1, number, 0x80, 0xbf⟩) rest
    else match startOf octet with
      | .whole c => replacement :: c :: decodeAfter none rest
      | .part next => replacement :: decodeAfter (some next) rest

def decodeOctets (octets : List Nat) : List Char := decodeAfter none octets

/-- Why octets are no text. -/
inductive OctetProblem where
  | start
  | continuation
  | unfinished
  deriving DecidableEq, Repr

def OctetProblem.text : OctetProblem → String
  | .start => "invalid start byte"
  | .continuation => "invalid continuation byte"
  | .unfinished => "unexpected end of data"

/-- Octets that make up no character: the first one, its place, and how many they are. -/
structure OctetFault where
  octet : Nat
  place : Nat
  count : Nat
  problem : OctetProblem
  deriving DecidableEq, Repr

def OctetFault.message (fault : OctetFault) : String :=
  let found :=
    if fault.count = 1 then
      "byte 0x" ++ String.ofList (Nat.toDigits 16 fault.octet) ++ s!" in position {fault.place}"
    else s!"bytes in position {fault.place}-{fault.place + fault.count - 1}"
  s!"'utf-8' codec can't decode {found}: {fault.problem.text}"

/-- A character that began, the octet that it began with, and how many octets it has so far. -/
structure Begun where
  pending : Pending
  first : Nat
  count : Nat

/-- The text of octets that begin at a place, unless some of them are part of no character. -/
def readAfter (place : Nat) : Option Begun → List Nat → Except OctetFault (List Char)
  | none, [] => .ok []
  | some begun, [] => .error ⟨begun.first, place - begun.count, begun.count, .unfinished⟩
  | none, octet :: rest =>
    match startOf octet with
    | .whole c =>
      if octet < 0x80 then (readAfter (place + 1) none rest).map (c :: ·)
      else .error ⟨octet, place, 1, .start⟩
    | .part pending => readAfter (place + 1) (some ⟨pending, octet, 1⟩) rest
  | some begun, octet :: rest =>
    let pending := begun.pending
    if pending.low ≤ octet && octet ≤ pending.high then
      let number := pending.number * 0x40 + (octet - 0x80)
      if pending.missing = 1 then
        (readAfter (place + 1) none rest).map (Char.ofNat number :: ·)
      else
        readAfter (place + 1)
          (some ⟨⟨pending.missing - 1, number, 0x80, 0xbf⟩, begun.first, begun.count + 1⟩) rest
    else .error ⟨begun.first, place - begun.count, begun.count, .continuation⟩

def readOctets (octets : List Nat) : Except OctetFault (List Char) := readAfter 0 none octets

theorem decodeOctets_of_plain {octets : List Nat} (plain : ∀ n ∈ octets, n < 0x80) :
    decodeOctets octets = octets.map Char.ofNat := by
  induction octets with
  | nil => rfl
  | cons n rest ih =>
    have first : n < 0x80 := plain n List.mem_cons_self
    have others := ih fun m inside => plain m (List.mem_cons_of_mem n inside)
    simp only [decodeOctets] at others ⊢
    simp [decodeAfter, startOf, first, others]

end SheetPricing.Text
