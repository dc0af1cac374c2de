import SheetPricing.Json.Shown
import SheetPricing.Service.LogLevel

/-!
# Thresholds

The rank below which records are dropped. Any rank can be a threshold; those of the levels have
names.
-/
namespace SheetPricing.Service

structure Threshold where
  rank : Int
  /-- How the rank is shown if it has no name. -/
  label : String
  deriving DecidableEq, Repr

/-- What is no threshold: a name that no level has, or a value of another kind. -/
inductive ThresholdFault where
  | unknown (name : String)
  | notLevel (value : String)
  deriving DecidableEq, Repr

def ThresholdFault.message : ThresholdFault → String
  | .unknown name => s!"Unknown level: {Text.quoted name}"
  | .notLevel value => s!"Level not an integer or a valid string: {value}"

namespace Threshold

def ofRank (rank : Int) : Threshold := ⟨rank, toString rank⟩

def ofLevel (level : LogLevel) : Threshold := ofRank level.rank

/-- No record is dropped. -/
def all : Threshold := ofRank 0

/-- The names of thresholds; two of them have a second name. -/
def names : List (String × Threshold) :=
  LogLevel.all.map (fun level => (level.name, ofLevel level))
    ++ [("FATAL", ofLevel .critical), ("WARN", ofLevel .warning), ("NOTSET", all)]

/-- The first name of a threshold, or else its rank. -/
def name (threshold : Threshold) : String :=
  match names.find? (·.2.rank = threshold.rank) with
  | some (name, _) => name
  | none => s!"Level {threshold.label}"

/-- The threshold if none is named: one for debugging or for running. -/
def unnamed (debug : Bool) : Threshold := ofLevel (if debug then .debug else .info)

/-- The threshold that a value names, by a name or by a rank. -/
def ofJson (debug : Bool) (value : Json) : Except ThresholdFault Threshold :=
  if value.isVoid then .ok (unnamed debug)
  else match value with
    | .text name => (names.lookup name).elim (.error (.unknown name)) .ok
    | .integer rank => .ok (ofRank rank)
    | .bool value => .ok ⟨1, (Json.bool value).shown⟩
    | value => .error (.notLevel value.shown)

/-- The name of the level of a record, which is given by a name or by a rank. -/
def levelName : Json → String
  | .text level => ((names.lookup level).map name).getD level
  | .integer rank => (ofRank rank).name
  | level => level.shown

end Threshold
end SheetPricing.Service
