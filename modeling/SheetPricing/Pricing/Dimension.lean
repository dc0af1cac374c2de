/-!
# The four inputs of a price

A part is priced by its length, width, height and weight. What is known about each of them is kept
together as `PerDimension`, always in this order.
-/
namespace SheetPricing

inductive Dimension where
  | length
  | width
  | height
  | weight
  deriving DecidableEq, Repr

namespace Dimension

def all : List Dimension := [.length, .width, .height, .weight]

def name : Dimension → String
  | .length => "length"
  | .width => "width"
  | .height => "height"
  | .weight => "weight"

/-- How a dimension is called in messages to the user. -/
def label : Dimension → String
  | .length => "Lengte"
  | .width => "Breedte"
  | .height => "Hoogte"
  | .weight => "Gewicht"

def named? (name : String) : Option Dimension := all.find? (·.name = name)

theorem mem_all (d : Dimension) : d ∈ all := by cases d <;> decide

end Dimension

/-- Something known of each dimension. -/
structure PerDimension (α : Type) where
  length : α
  width : α
  height : α
  weight : α
  deriving DecidableEq, Repr, Inhabited

namespace PerDimension

variable {α β ε : Type}

def get (values : PerDimension α) : Dimension → α
  | .length => values.length
  | .width => values.width
  | .height => values.height
  | .weight => values.weight

def map (f : α → β) (values : PerDimension α) : PerDimension β :=
  ⟨f values.length, f values.width, f values.height, f values.weight⟩

/-- The dimensions with what is known of them, in order. -/
def toList (values : PerDimension α) : List (Dimension × α) :=
  Dimension.all.map fun dimension => (dimension, values.get dimension)

/-- Check the dimensions in order; the first error counts. -/
def check (f : Dimension → α → Except ε β) (values : PerDimension α) :
    Except ε (PerDimension β) := do
  let length ← f .length values.length
  let width ← f .width values.width
  let height ← f .height values.height
  let weight ← f .weight values.weight
  return ⟨length, width, height, weight⟩

/-- All or none. -/
def all? (values : PerDimension (Option α)) : Option (PerDimension α) := do
  let length ← values.length
  let width ← values.width
  let height ← values.height
  let weight ← values.weight
  return ⟨length, width, height, weight⟩

end PerDimension
end SheetPricing
