import SheetPricing.Power
import SheetPricing.Text.Octets
import SheetPricing.Text.Quoted

/-!
# Containers

A workbook file is a container of items, which ends with a record of where the list of its items is.
An item stands behind a header of its own, which has to agree with the list. Numbers are written
with their lowest octet first. The checksum of 32 bits that goes with an item is the remainder of
its octets, taken as a polynomial over two elements, lowest bits first.
-/
namespace SheetPricing.Loading.Checksum

/-- The divisor without its highest term, lowest bits last. -/
def divisor : Nat := 0xedb88320

/-- One step of the division. -/
def step (rest : Nat) : Nat :=
  if rest % 2 = 1 then (rest / 2).xor divisor else rest / 2

/-- The rest after one octet more. -/
def next (rest octet : Nat) : Nat := (List.range 8).foldl (fun rest _ => step rest) (rest.xor octet)

/-- The rest of no octets, and what the rest is combined with at the end. -/
def ones : Nat := 0xffffffff

def ofOctets (octets : List Nat) : Nat := (octets.foldl next ones).xor ones

end SheetPricing.Loading.Checksum

namespace SheetPricing.Loading

/-- What is wrong with a container or with an item of it. -/
inductive ContainerFault where
  | noContainer
  | manyDisks
  | badOffset
  | truncatedList
  | badItemMark
  | badExtra (kind size : Nat)
  | badName (fault : Text.OctetFault)
  | newerVersion (version : Nat)
  | noItem (name : String)
  | beforeStart (place : Int)
  | outOfReach
  | truncatedHeader
  | badHeaderMark
  | patched
  | stronglyEncrypted
  | otherName (listed : String) (found : List Nat)
  | overlapping (name : String)
  | encrypted (name : String)
  | unknownMethod
  | badChecksum (name : String)
  deriving DecidableEq, Repr

/-- A kind of number as four hexadecimal digits. -/
def ContainerFault.kindText (kind : Nat) : String := String.ofList (Text.hexadecimal 4 kind)

def ContainerFault.message : ContainerFault → String
  | .noContainer => "File is not a zip file"
  | .manyDisks => "zipfiles that span multiple disks are not supported"
  | .badOffset => "Bad offset for central directory"
  | .truncatedList => "Truncated central directory"
  | .badItemMark => "Bad magic number for central directory"
  | .badExtra kind size => s!"Corrupt extra field {kindText kind} (size={size})"
  | .badName fault => fault.message
  | .newerVersion version => s!"zip file version {version / 10}.{version % 10}"
  | .noItem name => "\x22There is no item named " ++ Text.quoted name ++ " in the archive\x22"
  | .beforeStart place => s!"negative seek value {place}"
  | .outOfReach => "Python int too large to convert to C ssize_t"
  | .truncatedHeader => "Truncated file header"
  | .badHeaderMark => "Bad magic number for file header"
  | .patched => "compressed patched data (flag bit 5)"
  | .stronglyEncrypted => "strong encryption (flag bit 6)"
  | .otherName listed found =>
    s!"File name in directory {Text.quoted listed} and header {Text.quotedOctets found} differ."
  | .overlapping name => s!"Overlapped entries: {Text.quoted name} (possible zip bomb)"
  | .encrypted name => s!"File {Text.quoted name} is encrypted, password required for extraction"
  | .unknownMethod => "That compression method is not supported"
  | .badChecksum name => s!"Bad CRC-32 for file {Text.quoted name}"

namespace Container

/-- The octets that the record at the end begins with. -/
def endMark : List Nat := [0x50, 0x4b, 5, 6]

/-- The octets that the record at the end of a large container begins with, and those that the note
of where it is begins with. -/
def largeEndMark : List Nat := [0x50, 0x4b, 6, 6]

def largeNoteMark : List Nat := [0x50, 0x4b, 6, 7]

/-- The octets that an item of the list begins with. -/
def itemMark : List Nat := [0x50, 0x4b, 1, 2]

/-- The octets that the header of an item begins with. -/
def headerMark : List Nat := [0x50, 0x4b, 3, 4]

/-- The record at the end has at least this many octets; a comment may follow. -/
def endSize : Nat := 22

def largeEndSize : Nat := 56

def largeNoteSize : Nat := 20

/-- An item of the list has at least this many octets. -/
def itemSize : Nat := 46

/-- The header of an item has at least this many octets. -/
def headerSize : Nat := 30

/-- A comment has at most this many octets. -/
def maxCommentSize : Nat := 0x10000

/-- The number that octets write, the lowest first. -/
def numberOf (octets : List Nat) : Nat := octets.foldr (fun octet high => octet + 0x100 * high) 0

/-- The number that stands at some place of a record, in so many octets. -/
def numberAt (record : List Nat) (place count : Nat) : Nat :=
  numberOf ((record.drop place).take count)

/-- The last place of a text of octets where a mark stands, counted on from `place`, and what stands
from there on. -/
def lastPlace (mark : List Nat) (place : Nat) : List Nat → Option (Nat × List Nat)
  | [] => none
  | octet :: rest =>
    (lastPlace mark (place + 1) rest).or
      (if mark.isPrefixOf (octet :: rest) then some (place, octet :: rest) else none)

/-- Where the record at the end stands, and the record. -/
def endRecord? (octets : List Nat) : Option (Nat × List Nat) :=
  let size := octets.length
  let last := octets.drop (size - endSize)
  if last.length = endSize ∧ endMark.isPrefixOf last ∧ last.drop (endSize - 2) = [0, 0] then
    some (size - endSize, last)
  else
    let skipped := size - (maxCommentSize + endSize)
    (lastPlace endMark skipped (octets.drop skipped)).filter fun (_, rest) =>
      decide (endSize ≤ rest.length)

/-- Where the list of the items is said to be: where it ends, its size, and its offset from the
first item. -/
structure ListPlace where
  endPlace : Int
  size : Nat
  offset : Nat
  deriving DecidableEq, Repr

/-- The place of the list of the items. A large container has a second record before the one at the
end, which counts if it is there. -/
def listPlace? (octets : List Nat) : Except ContainerFault ListPlace := do
  match endRecord? octets with
  | none => throw .noContainer
  | some (place, record) =>
    let plain : ListPlace := ⟨place, numberAt record 12 4, numberAt record 16 4⟩
    let note := (octets.drop (place - largeNoteSize)).take largeNoteSize
    if note.length = largeNoteSize ∧ largeNoteMark.isPrefixOf note then
      if numberAt note 4 4 ≠ 0 ∨ 1 < numberAt note 16 4 then throw .manyDisks
      let large :=
        (octets.drop (place - largeNoteSize - largeEndSize)).take largeEndSize
      if large.length = largeEndSize ∧ largeEndMark.isPrefixOf large then
        return ⟨(place : Int) - (largeNoteSize + largeEndSize), numberAt large 40 8,
          numberAt large 48 8⟩
    return plain

/-- An item as it is listed. The list tells where its header is, and how far it may reach. -/
structure Item where
  listedName : String
  flags : Nat
  method : Nat
  checksum : Nat
  packedSize : Nat
  size : Nat
  place : Int
  limit : Int
  deriving Repr

/-- The flag of names in the encoding of texts. -/
def textFlag : Nat := 0x800

def hasFlag (flags flag : Nat) : Bool := flags / flag % 2 == 1

/-- The characters from `0x80` on in names of the older kind. -/
def olderCharacters : String :=
  "ÇüéâäàåçêëèïîìÄÅÉæÆôöòûùÿÖÜ¢£¥₧ƒáíóúñÑªº¿⌐¬½¼¡«»" ++
  "░▒▓│┤╡╢╖╕╣║╗╝╜╛┐└┴┬├─┼╞╟╚╔╩╦╠═╬╧╨╤╥╙╘╒╓╫╪┘┌█▄▌▐▀" ++
  "αßΓπΣσµτΦΘΩδ∞φε∩≡±≥≤⌠⌡÷≈°∙·√ⁿ²■\u00a0"

/-- A character in a name of the older kind. -/
def olderCharacter (octet : Nat) : Char :=
  if octet < 0x80 then Char.ofNat octet
  else (olderCharacters.toList[octet - 0x80]?).getD '\x00'

/-- The name that octets write. -/
def nameOf (flags : Nat) (octets : List Nat) : Except ContainerFault String :=
  if hasFlag flags textFlag then
    ((Text.readOctets octets).map String.ofList).mapError .badName
  else .ok (String.ofList (octets.map olderCharacter))

/-- The name by which an item is looked for: it ends before the first null character. -/
def Item.name (item : Item) : String :=
  String.ofList (item.listedName.toList.takeWhile (· != '\x00'))

/-- Further fields of an item are a kind, a size and so many octets each. -/
def checkExtra : (steps : Nat) → List Nat → Except ContainerFault Unit
  | 0, _ => .ok ()
  | steps + 1, extra =>
    if extra.length < 4 then .ok ()
    else
      let size := numberAt extra 2 2
      if extra.length < size + 4 then .error (.badExtra (numberAt extra 0 2) size)
      else checkExtra steps (extra.drop (size + 4))

/-- The newest version that is known, in tenths. -/
def newestVersion : Nat := 63

/-- The items of a list of `size` octets, of which `total` are read; `skew` is how far the offsets
in it are off. -/
def items (size : Nat) (skew : Int) :
    (steps total : Nat) → List Nat → Except ContainerFault (List Item)
  | 0, _, _ => .ok []
  | steps + 1, total, octets => do
    if size ≤ total then return []
    let record := octets.take itemSize
    if record.length < itemSize then throw .truncatedList
    unless itemMark.isPrefixOf record do throw .badItemMark
    let nameSize := numberAt record 28 2
    let extraSize := numberAt record 30 2
    let commentSize := numberAt record 32 2
    let flags := numberAt record 8 2
    let rest := octets.drop itemSize
    let listedName ← nameOf flags (rest.take nameSize)
    if newestVersion < numberAt record 6 1 then throw (.newerVersion (numberAt record 6 1))
    let extra := (rest.drop nameSize).take extraSize
    checkExtra extra.length extra
    let item : Item :=
      { listedName, flags
        method := numberAt record 10 2
        checksum := numberAt record 16 4
        packedSize := numberAt record 20 4
        size := numberAt record 24 4
        place := numberAt record 42 4 + skew
        limit := 0 }
    let after := rest.drop (nameSize + extraSize + commentSize)
    let others ← items size skew steps
      (total + itemSize + nameSize + extraSize + commentSize) after
    return item :: others

/-- Items from the last one to the first one; each may reach up to the one behind it. -/
def limited : Int → List Item → List Item
  | _, [] => []
  | limit, item :: rest => { item with limit } :: limited item.place rest

def itemsOf (octets : List Nat) : Except ContainerFault (List Item) := do
  let place ← listPlace? octets
  let start := place.endPlace - place.size
  if start < 0 then throw .badOffset
  let listed := (octets.drop start.toNat).take place.size
  let found ← items place.size (start - place.offset) (listed.length + 1) 0 listed
  let indexed := found.zipIdx.mergeSort fun a b => decide (b.1.place ≤ a.1.place)
  let ends := limited start (indexed.map Prod.fst)
  return ((ends.zip (indexed.map Prod.snd)).mergeSort fun a b => decide (a.2 ≤ b.2)).map Prod.fst

/-- The places that can be looked at. -/
def placeLimit : Int := 2 ^ (63 : Nat)

/-- The way in which an item is packed. -/
inductive Method where
  | stored
  | deflated
  | sorted
  | ranged
  deriving DecidableEq, Repr

/-- The methods that are known by their numbers. -/
def method? : Nat → Option Method
  | 0 => some .stored
  | 8 => some .deflated
  | 12 => some .sorted
  | 14 => some .ranged
  | _ => none

/-- The octets of an item behind its header, as they are packed, and the method. -/
def Item.packed (item : Item) (octets : List Nat) :
    Except ContainerFault (Method × List Nat) := do
  if item.place < -placeLimit then throw .outOfReach
  if item.place < 0 then throw (.beforeStart item.place)
  let here := octets.drop item.place.toNat
  let header := here.take headerSize
  if header.length < headerSize then throw .truncatedHeader
  unless headerMark.isPrefixOf header do throw .badHeaderMark
  let rest := here.drop headerSize
  let found := rest.take (numberAt header 26 2)
  let data := (rest.drop found.length).drop (numberAt header 28 2)
  if hasFlag item.flags 0x20 then throw .patched
  if hasFlag item.flags 0x40 then throw .stronglyEncrypted
  let name ← nameOf (numberAt header 6 2) found
  if name ≠ item.listedName then throw (.otherName item.listedName found)
  if item.limit < (octets.length - data.length + item.packedSize : Nat) then
    throw (.overlapping item.listedName)
  if hasFlag item.flags 1 then throw (.encrypted item.name)
  match method? item.method with
  | none => throw .unknownMethod
  | some method => return (method, data.take item.packedSize)

/-- The item of a name. Of items with one name the last one counts. -/
def item? (items : List Item) (name : String) : Option Item :=
  items.reverse.find? (·.name == name)

end Container
end SheetPricing.Loading
