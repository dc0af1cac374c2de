import SheetPricing.Pricing.Config
import SheetPricing.Text.Split

/-!
# Treatments

The shared template has one worksheet for each treatment. On all of them the inputs and the price
have the same cells.
-/
namespace SheetPricing

inductive Treatment where
  | galvanizing
  | pickling
  | sublimation
  deriving DecidableEq, Repr

namespace Treatment

def all : List Treatment := [.galvanizing, .pickling, .sublimation]

/-- The name of the treatment's worksheet. -/
def sheetName : Treatment → String
  | .galvanizing => "Verzinken"
  | .pickling => "Dompelbeitsen"
  | .sublimation => "Sublimotion"

def named? (name : String) : Option Treatment := all.find? (·.sheetName = name)

/-- The message about a name that is no treatment's. -/
def unknownMessage (name : String) : String := s!"{Text.quoted name} is not a valid CoatingSheet"

/-- The cells of the inputs in the shared template. -/
def inputCells : PerDimension Address := ⟨"D67", "D68", "D69", "D74"⟩

/-- The cell of the price in the shared template. -/
def priceCell : Address := "L17"

/-- The configuration of a treatment in the shared template at a URL. -/
def config (treatment : Treatment) (url : String) : PricingConfig :=
  ⟨url, Text.afterLast '/' url, treatment.sheetName, inputCells, priceCell, none⟩

/-- The URL of the shared template: the one that is given, or else the one in the settings. -/
def templateUrl? (given : String) (setting : Option String) : Option String :=
  if given.isEmpty then setting.filter (!·.isEmpty) else some given

/-- The message that there is no shared template. -/
def notConfigured : String := "PRICING_TEMPLATE_URL is not configured"

end Treatment
end SheetPricing
