import SheetPricing.Text.Blank
import SheetPricing.Text.Capital
import SheetPricing.Text.Quoted

/-!
# Log levels
-/
namespace SheetPricing.Service

inductive LogLevel where
  | debug
  | info
  | warning
  | error
  | critical
  deriving DecidableEq, Repr

namespace LogLevel

def all : List LogLevel := [.debug, .info, .warning, .error, .critical]

def name : LogLevel → String
  | .debug => "DEBUG"
  | .info => "INFO"
  | .warning => "WARNING"
  | .error => "ERROR"
  | .critical => "CRITICAL"

/-- The number of a level: the higher, the more urgent. -/
def rank : LogLevel → Nat
  | .debug => 10
  | .info => 20
  | .warning => 30
  | .error => 40
  | .critical => 50

def named? (name : String) : Option LogLevel := all.find? (·.name = name)

/-- The level that a text names, in any case and with blanks around it; or else the message about
the text. -/
def read (text : String) : Except String LogLevel :=
  match named? (Text.capitalize (Text.trim text)) with
  | some level => .ok level
  | none => .error s!"LOG_LEVEL must be a standard logging level, got {Text.quoted text}"

end LogLevel
end SheetPricing.Service
