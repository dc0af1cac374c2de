import SheetPricing.Text.Digit
import SheetPricing.Text.Split

/-!
# Tables of characters

A table of runs of characters in ascending order, each run with a value. Tables are written as text:
a run is how many characters it lies behind the run before, a plus sign and how many characters
follow its first one, and a colon and its value. What is zero or has no value is left out; numbers
are hexadecimal.
-/
namespace SheetPricing.Text

/-- A run of characters from the first to the last one. -/
structure Run (α : Type) where
  first : Nat
  last : Nat
  value : α
  deriving Repr

/-- Runs in ascending order. -/
structure RunTable (α : Type) where
  runs : Array (Run α)

namespace RunTable

variable {α : Type}

/-- The number that hexadecimal digits write. -/
def number (cs : List Char) : Nat :=
  cs.foldl (fun value c => 16 * value + (hexadecimalDigit? c).getD 0) 0

/-- The characters whose numbers stand in a list with commas. -/
def characters (cs : List Char) : List Char :=
  (splitList ',' cs).map fun digits => Char.ofNat (number digits)

/-- The part of a text before a character, and the part behind it. -/
def part (c : Char) (cs : List Char) : List Char × List Char :=
  (cs.takeWhile (· != c), (cs.dropWhile (· != c)).drop 1)

/-- One run, which lies behind the characters before `next`. -/
def readRun (value : List Char → α) (next : Nat) (written : List Char) : Run α :=
  let (place, given) := part ':' written
  let (gap, extent) := part '+' place
  let first := next + number gap
  ⟨first, first + number extent, value given⟩

/-- The runs that are read, the characters of the next one from the last to the first, and the first
character behind those runs. -/
structure Reading (α : Type) where
  runs : Array (Run α)
  written : List Char
  next : Nat

/-- Take the run that is written to its end. -/
def Reading.finish (value : List Char → α) (reading : Reading α) : Reading α :=
  if reading.written.isEmpty then reading
  else
    let run := readRun value reading.next reading.written.reverse
    ⟨reading.runs.push run, [], run.last + 1⟩

def Reading.take (value : List Char → α) (reading : Reading α) (c : Char) : Reading α :=
  if c = ' ' ∨ c = '\n' then reading.finish value
  else { reading with written := c :: reading.written }

/-- The table that a text writes. -/
def ofText (value : List Char → α) (text : String) : RunTable α :=
  let reading := text.toList.foldl (Reading.take value) ⟨#[], [], 0⟩
  ⟨(reading.finish value).runs⟩

/-- The run of a number among those from `low` up to `high`. -/
def search (table : RunTable α) (n low high : Nat) : Option (Run α) :=
  if low < high then
    let middle := (low + high) / 2
    match table.runs[middle]? with
    | none => none
    | some run =>
      if n < run.first then search table n low middle
      else if run.last < n then search table n (middle + 1) high
      else some run
  else none
termination_by high - low
decreasing_by all_goals omega

/-- The run that has a character. -/
def find? (table : RunTable α) (c : Char) : Option (Run α) :=
  table.search c.toNat 0 table.runs.size

def get? (table : RunTable α) (c : Char) : Option α := (table.find? c).map Run.value

end RunTable

abbrev CharSet := RunTable Unit

namespace CharSet

/-- The set that a text writes. -/
def ofText (text : String) : CharSet := RunTable.ofText (fun _ => ()) text

def has (set : CharSet) (c : Char) : Bool := (RunTable.find? set c).isSome

end CharSet
end SheetPricing.Text
