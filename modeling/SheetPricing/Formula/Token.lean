import SheetPricing.Formula.Lexemes
import SheetPricing.Text.Quoted

/-!
# Tokens

The lexemes of a formula other than its blanks, each with its place, and what can be wrong with a
formula as a text.
-/
namespace SheetPricing.Formula

/-- A token with its text and the place of its first character in the formula. -/
structure Token where
  kind : TokenKind
  text : String
  position : Nat
  kept : kind.Promises text
  deriving DecidableEq, Repr

/-- Why a text is no formula, or is nested deeper than formulas may be. -/
inductive Malformation where
  | empty
  | unsupported (position : Nat) (excerpt : String)
  | unexpected (token : Token)
  | unexpectedEnd
  | expected (kind : TokenKind) (found : Token)
  | badArguments (function : String) (found : Token)
  | nestedTooDeep
  deriving DecidableEq, Repr

def Malformation.message : Malformation → String
  | .empty => "Empty formula"
  | .unsupported position excerpt =>
    s!"Unsupported syntax at position {position}: {Text.quoted excerpt}"
  | .unexpected token => s!"Unexpected {Text.quoted token.text} at position {token.position}"
  | .unexpectedEnd => "Unexpected end of formula"
  | .expected kind found =>
    s!"Expected {kind.label} but found {Text.quoted found.text} at position {found.position}"
  | .badArguments function found =>
    s!"Expected ',' or ')' in {function}() but found {Text.quoted found.text}"
  | .nestedTooDeep => "Nested too deeply"

/-- How much of a text is shown where it is no formula. -/
def excerptLength : Nat := 10

/-- The tokens of a text that begins at a position. -/
def scan (position : Nat) (cs : List Char) : Except Malformation (List Token) :=
  if cs.isEmpty then .ok []
  else
    match found : next? cs with
    | none => .error (.unsupported position (String.ofList (cs.take excerptLength)))
    | some (none, taken, rest) => scan (position + taken.length) rest
    | some (some kind, taken, rest) =>
      (scan (position + taken.length) rest).map fun tokens =>
        ⟨kind, String.ofList taken, position, promises_of_next? found⟩ :: tokens
termination_by cs.length
decreasing_by all_goals exact length_lt_of_next? found

def tokenize (formula : String) : Except Malformation (List Token) := scan 0 formula.toList

end SheetPricing.Formula
