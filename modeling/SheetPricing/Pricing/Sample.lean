import SheetPricing.Pricing.Treatment
import SheetPricing.Workbook.Basic

/-!
# The sample workbook

A workbook with one worksheet for each treatment, to try the calculation with: the price is a rate
for each kilogram with a minimum, and a surcharge for bulky parts.
-/
namespace SheetPricing.Sample

/-- What a treatment costs. -/
structure Tariff where
  ratePerKilogram : Binary64
  minimum : Binary64
  bulkyVolume : Binary64
  bulkySurcharge : Binary64

def cents (amount : Nat) : Binary64 := Decimal.toBinary64 ⟨false, amount, -2⟩

def tariff : Treatment → Tariff
  | .galvanizing => ⟨cents 85, cents 4500, cents 150, cents 3500⟩
  | .pickling => ⟨cents 110, cents 6000, cents 100, cents 5000⟩
  | .sublimation => ⟨cents 475, cents 9500, cents 50, cents 7500⟩

/-- A cell with text that is not computed with. -/
def label (text : String) : Cell := .other (.text text)

/-- A cell with a formula that was never calculated. -/
def formula (text : String) : Cell := .formula text none

/-- The cells of a treatment, row by row. -/
def cells (treatment : Treatment) : List (Address × Cell) :=
  let tariff := tariff treatment
  [("A1", label ("Prijsberekening " ++ treatment.sheetName)),
    ("K16", label "Volume (m3)"),
    ("L16", formula "=D67*D68*D69/1000000000"),
    ("K17", label "Prijs excl. BTW"),
    ("L17", formula "=ROUND(MAX(D74*D60, D61) + IF(L16>D62, D63, 0), 2)"),
    ("C59", label "Tarieven"),
    ("C60", label "Tarief per kg"), ("D60", .number tariff.ratePerKilogram),
    ("C61", label "Minimumprijs"), ("D61", .number tariff.minimum),
    ("C62", label "Grens groot volume (m3)"), ("D62", .number tariff.bulkyVolume),
    ("C63", label "Toeslag groot volume"), ("D63", .number tariff.bulkySurcharge),
    ("C66", label "Invoer"),
    ("C67", label "Lengte (mm)"), ("D67", .number 1000),
    ("C68", label "Breedte (mm)"), ("D68", .number 500),
    ("C69", label "Hoogte (mm)"), ("D69", .number 250),
    ("C74", label "Gewicht (kg)"), ("D74", .number 25)]

/-- The worksheet with remarks. -/
def remarks : Worksheet :=
  ⟨"Toelichting", .ofList [("A1", label "Alle prijzen zijn exclusief BTW en transport."),
    ("A2", label "Gele cellen zijn invoervelden.")]⟩

/-- The sample workbook; the hash is that of the file it is stored in. -/
def workbook (hash : String) : Workbook :=
  ⟨Treatment.all.map (fun treatment => ⟨treatment.sheetName, .ofList (cells treatment)⟩)
    ++ [remarks], hash⟩

end SheetPricing.Sample
