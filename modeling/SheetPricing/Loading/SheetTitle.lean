import SheetPricing.Text.Digit
import SheetPricing.Text.SmallLetter

/-!
# Titles of worksheets

Worksheets of one workbook have different titles, whatever their case. A title that is taken gets a
number, one more than the greatest that follows it anywhere in the titles before.

Main statement: `number_of_isFree` (a title that is free is kept).
-/
namespace SheetPricing.Loading.SheetTitle

/-- The title of a worksheet without one. -/
def usual : String := "Sheet"

def deniedCharacters : List Char := ['\x5c', '*', '?', ':', '/', '[', ']']

def isDenied (title : String) : Bool := title.toList.any (· ∈ deniedCharacters)

/-- Whether a title is taken by none of those before it. -/
def isFree (before : List String) (title : String) : Bool :=
  before.all fun other => Text.small other.toList != Text.small title.toList

/-- What follows a title in a text, if the text begins with it in any case. -/
def after? : List Char → List Char → Option (List Char)
  | [], rest => some rest
  | _ :: _, [] => none
  | a :: title, c :: rest =>
    if Text.isSameLetter a c then after? title rest else none

/-- The numbers that follow a title in a text, wherever it stands there; `steps` bounds how often it
is looked for. -/
def numbersAfter (title : List Char) : (steps : Nat) → List Char → List (Option Nat)
  | 0, _ => []
  | steps + 1, text =>
    match after? title text with
    | some rest =>
      let digits := (rest.takeWhile Text.isDigit).filterMap Text.digitValue?
      let number := if digits.isEmpty then none else some (digits.foldl (· * 10 + ·) 0)
      let behind := rest.dropWhile Text.isDigit
      number :: numbersAfter title steps (if behind.head? = some ',' then behind.drop 1 else behind)
    | none =>
      match text with
      | [] => []
      | _ :: rest => numbersAfter title steps rest

/-- A title with a number if it is taken. -/
def number (before : List String) (title : String) : String :=
  if isFree before title then title
  else
    let text := (",".intercalate before).toList
    match numbersAfter title.toList (text.length + 1) text with
    | [] => title
    | numbers => title ++ toString ((numbers.filterMap id).foldl max 0 + 1)

theorem number_of_isFree {before : List String} {title : String}
    (free : isFree before title = true) : number before title = title := by
  simp [number, free]

/-- The title of a worksheet that is named after those before it, unless it cannot be a title. -/
def next? (before : List String) (name : String) : Option String :=
  let title := if name.isEmpty then usual else name
  if isDenied title then none else some (number before title)

end SheetPricing.Loading.SheetTitle
