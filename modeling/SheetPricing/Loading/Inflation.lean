import SheetPricing.Action
import SheetPricing.Power

/-!
# Inflation

Octets that were packed by leaving out what was written before: blocks of plain octets, and blocks
of codes for octets and for stretches of the output so far. Codes are read bit by bit; short codes
stand for what is frequent. Packed octets may end anywhere; what they gave until then counts.
-/
namespace SheetPricing.Loading

/-- Why packed octets cannot be unpacked. -/
inductive InflationFault where
  | blockKind
  | plainSize
  | tooManyCodes
  | sizeCodes
  | repetition
  | noEnd
  | symbolCodes
  | distanceCodes
  | symbol
  | distance
  | tooFarBack
  deriving DecidableEq, Repr

def InflationFault.reason : InflationFault → String
  | .blockKind => "invalid block type"
  | .plainSize => "invalid stored block lengths"
  | .tooManyCodes => "too many length or distance symbols"
  | .sizeCodes => "invalid code lengths set"
  | .repetition => "invalid bit length repeat"
  | .noEnd => "invalid code -- missing end-of-block"
  | .symbolCodes => "invalid literal/lengths set"
  | .distanceCodes => "invalid distances set"
  | .symbol => "invalid literal/length code"
  | .distance => "invalid distance code"
  | .tooFarBack => "invalid distance too far back"

def InflationFault.message (fault : InflationFault) : String :=
  "Error -3 while decompressing data: " ++ fault.reason

namespace Inflation

/-- What ends the unpacking before its end: the octets are used up, or a fault. -/
inductive Stop where
  | short
  | fault (fault : InflationFault)

/-- The bits that are left, how many of them stand in the octet that is begun, and the output. -/
structure State where
  bits : List Bool
  output : Array Nat

abbrev UnpackM := Action Stop State

/-- The bits of an octet, the lowest first. -/
def bitsOf (octet : Nat) : List Bool :=
  (List.range 8).map fun place => octet / 2 ^ place % 2 == 1

/-- The number that bits write, the lowest first. -/
def numberOf (bits : List Bool) : Nat := bits.foldr (fun bit high => bit.toNat + 2 * high) 0

/-- The next bits as a number. -/
def number (count : Nat) : UnpackM Nat := do
  let state ← get
  let taken := state.bits.take count
  if taken.length < count then throw .short
  set { state with bits := state.bits.drop count }
  return numberOf taken

def fail {α : Type} (fault : InflationFault) : UnpackM α := throw (.fault fault)

def put (octet : Nat) : UnpackM Unit :=
  modify fun state => { state with output := state.output.push octet }

/-- The longest code has so many bits. -/
def longestCode : Nat := 15

/-- Codes: how many there are of each size from one on, and what they stand for, in their order. -/
structure Codes where
  counts : List Nat
  symbols : List Nat

/-- The codes of which the sizes are given, one for each symbol; a size of zero means no code. -/
def Codes.ofSizes (sizes : List Nat) : Codes :=
  let lengths := (List.range longestCode).map (· + 1)
  ⟨lengths.map fun size => sizes.countP (· == size), lengths.flatMap fun size =>
    sizes.zipIdx.filterMap fun (given, symbol) => if given = size then some symbol else none⟩

/-- What is left of all codes after those of the given counts, if there are not too many. -/
def unused? (counts : List Nat) : Option Nat :=
  counts.foldlM (fun left count => if 2 * left < count then none else some (2 * left - count)) 1

/-- Whether codes can be told apart and use up all there are. There may be none at all, and where
`lone` allows it only one of one bit. -/
def Codes.isComplete (codes : Codes) (lone : Bool) : Bool :=
  codes.symbols.isEmpty || match unused? codes.counts with
    | none => false
    | some left => left == 0 || (lone && (codes.counts.drop 1).all (· == 0))

/-- The place of the next code among all; `code` are the bits so far, `first` the first code of this
size, and `before` how many codes are shorter. -/
def place (code first before : Nat) : List Nat → UnpackM (Option Nat)
  | [] => return none
  | count :: longer => do
    let code := 2 * code + (← number 1)
    if code < first + count then return some (before + (code - first))
    else if longer.all (· == 0) then return none
    else place code (2 * (first + count)) (before + count) longer

/-- What the next code stands for. -/
def Codes.next (codes : Codes) : UnpackM (Option Nat) := do
  return (← place 0 0 0 codes.counts).bind (codes.symbols[·]?)

/-- A stretch of some size or distance: the least one, and how many bits are added to it. -/
structure Stretch where
  least : Nat
  bits : Nat

/-- The sizes of stretches by their symbols. -/
def sizes : List Stretch :=
  [⟨3, 0⟩, ⟨4, 0⟩, ⟨5, 0⟩, ⟨6, 0⟩, ⟨7, 0⟩, ⟨8, 0⟩, ⟨9, 0⟩, ⟨10, 0⟩, ⟨11, 1⟩, ⟨13, 1⟩, ⟨15, 1⟩,
    ⟨17, 1⟩, ⟨19, 2⟩, ⟨23, 2⟩, ⟨27, 2⟩, ⟨31, 2⟩, ⟨35, 3⟩, ⟨43, 3⟩, ⟨51, 3⟩, ⟨59, 3⟩, ⟨67, 4⟩,
    ⟨83, 4⟩, ⟨99, 4⟩, ⟨115, 4⟩, ⟨131, 5⟩, ⟨163, 5⟩, ⟨195, 5⟩, ⟨227, 5⟩, ⟨258, 0⟩]

/-- The distances of stretches by their symbols. -/
def distances : List Stretch :=
  [⟨1, 0⟩, ⟨2, 0⟩, ⟨3, 0⟩, ⟨4, 0⟩, ⟨5, 1⟩, ⟨7, 1⟩, ⟨9, 2⟩, ⟨13, 2⟩, ⟨17, 3⟩, ⟨25, 3⟩, ⟨33, 4⟩,
    ⟨49, 4⟩, ⟨65, 5⟩, ⟨97, 5⟩, ⟨129, 6⟩, ⟨193, 6⟩, ⟨257, 7⟩, ⟨385, 7⟩, ⟨513, 8⟩, ⟨769, 8⟩,
    ⟨1025, 9⟩, ⟨1537, 9⟩, ⟨2049, 10⟩, ⟨3073, 10⟩, ⟨4097, 11⟩, ⟨6145, 11⟩, ⟨8193, 12⟩, ⟨12289, 12⟩,
    ⟨16385, 13⟩, ⟨24577, 13⟩]

/-- The symbol that ends a block. -/
def endSymbol : Nat := 256

/-- Write a stretch of the output once more; it may reach into itself. -/
def copy (distance : Nat) : (size : Nat) → UnpackM Unit
  | 0 => return
  | size + 1 => do
    let output := (← get).output
    put ((output[output.size - distance]?).getD 0)
    copy distance size

/-- The stretch that a symbol for a size begins. -/
def stretch (codes : Codes) (symbol : Nat) : UnpackM Unit := do
  match sizes[symbol - (endSymbol + 1)]? with
  | none => fail .symbol
  | some size =>
    let count := size.least + (← number size.bits)
    match (← codes.next).bind (distances[·]?) with
    | none => fail .distance
    | some distance =>
      let back := distance.least + (← number distance.bits)
      if (← get).output.size < back then fail .tooFarBack
      copy back count

/-- The symbols of a block up to its end. -/
def symbols (codes distances : Codes) : (steps : Nat) → UnpackM Unit
  | 0 => throw .short
  | steps + 1 => do
    match ← codes.next with
    | none => fail .symbol
    | some symbol =>
      if symbol = endSymbol then return
      if symbol < endSymbol then put symbol else stretch distances symbol
      symbols codes distances steps

/-- The codes of a block that does not bring its own. -/
def usualCodes : Codes :=
  .ofSizes (List.replicate 144 8 ++ List.replicate 112 9 ++ List.replicate 24 7
    ++ List.replicate 8 8)

def usualDistances : Codes := .ofSizes (List.replicate 32 5)

/-- The order in which the sizes of the codes for sizes are written. -/
def sizeOrder : List Nat := [16, 17, 18, 0, 8, 7, 9, 6, 10, 5, 11, 4, 12, 3, 13, 2, 14, 1, 15]

/-- So many numbers of three bits. -/
def numbers : (count : Nat) → UnpackM (List Nat)
  | 0 => return []
  | count + 1 => do
    let first ← number 3
    return first :: (← numbers count)

/-- The sizes of so many codes, of which some are read; a symbol may repeat a size. -/
def readSizes (codes : Codes) (total : Nat) : (steps : Nat) → Array Nat → UnpackM (Array Nat)
  | 0, read => return read
  | steps + 1, read => do
    if total ≤ read.size then return read
    let found ← codes.next
    let symbol := found.getD 0
    if symbol < 16 then readSizes codes total steps (read.push symbol)
    else
      let least := if symbol = 18 then 11 else 3
      let count := least + (← number (if symbol = 16 then 2 else if symbol = 17 then 3 else 7))
      if symbol = 16 && read.isEmpty then fail .repetition
      if total < read.size + count then fail .repetition
      let size := if symbol = 16 then (read.back?).getD 0 else 0
      readSizes codes total steps (read ++ Array.replicate count size)

/-- The codes that a block brings, for symbols and for distances. -/
def readCodes : UnpackM (Codes × Codes) := do
  let header ← number 14
  let symbolCount := header % 32 + 257
  let distanceCount := header / 32 % 32 + 1
  let sizeCount := header / 1024 + 4
  if 286 < symbolCount || 30 < distanceCount then fail .tooManyCodes
  let given ← numbers sizeCount
  let sizeCodes := Codes.ofSizes ((List.range 19).map fun symbol =>
    (given[sizeOrder.idxOf symbol]?).getD 0)
  unless sizeCodes.isComplete false do fail .sizeCodes
  let total := symbolCount + distanceCount
  let read := (← readSizes sizeCodes total total #[]).toList
  if (read[endSymbol]?).getD 0 = 0 then fail .noEnd
  let codes := Codes.ofSizes (read.take symbolCount)
  unless codes.isComplete true do fail .symbolCodes
  let distances := Codes.ofSizes (read.drop symbolCount)
  unless distances.isComplete true do fail .distanceCodes
  return (codes, distances)

/-- So many plain octets. -/
def plain : (count : Nat) → UnpackM Unit
  | 0 => return
  | count + 1 => do
    put (← number 8)
    plain count

/-- A block of plain octets, which begins with the next octet. -/
def plainBlock : UnpackM Unit := do
  modify fun state => { state with bits := state.bits.drop (state.bits.length % 8) }
  let size ← number 32
  if size % 0x10000 + size / 0x10000 ≠ 0xffff then fail .plainSize
  plain (size % 0x10000)

def blocks : (steps : Nat) → UnpackM Unit
  | 0 => throw .short
  | steps + 1 => do
    let last ← number 1
    let kind ← number 2
    match kind with
    | 0 => plainBlock
    | 1 => symbols usualCodes usualDistances ((← get).bits.length + 1)
    | 2 =>
      let (codes, distances) ← readCodes
      symbols codes distances ((← get).bits.length + 1)
    | _ => fail .blockKind
    if last = 0 then blocks steps

end Inflation

/-- The octets that packed octets stand for. -/
def inflate (packed : List Nat) : Except InflationFault (List Nat) :=
  let bits := packed.flatMap Inflation.bitsOf
  match (Inflation.blocks (bits.length + 1)).on ⟨bits, #[]⟩ with
  | (.error (.fault fault), _) => .error fault
  | (_, state) => .ok state.output.toList

end SheetPricing.Loading
