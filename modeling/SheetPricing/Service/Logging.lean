import SheetPricing.Service.LogRecord
import SheetPricing.Service.Settings
import SheetPricing.Service.Threshold

/-!
# Logging

Records are written as plain lines while debugging, otherwise as objects. Logging may be set up
again and again; what was set up before is replaced.

Main statement: `count_setUp` (there is exactly one handler of the service).
-/
namespace SheetPricing.Service

/-- What takes records. Handlers are known by their names. -/
structure LogHandler where
  name : String
  format : LineFormat
  deriving DecidableEq, Repr

/-- The loggers of others that report too much. -/
inductive NoisyLogger where
  | requests
  | downloads
  | workbooks
  deriving DecidableEq, Repr

def NoisyLogger.all : List NoisyLogger := [.requests, .downloads, .workbooks]

/-- The state of logging: the threshold, the handlers, and the loggers with a level of their own. -/
structure Logging where
  threshold : Threshold
  handlers : List LogHandler
  quieted : List (NoisyLogger × LogLevel)
  deriving DecidableEq, Repr

namespace Logging

/-- Logging before it is set up. -/
def initial : Logging := ⟨.ofLevel .warning, [], []⟩

def handlerName : String := "service"

def isOwn (handler : LogHandler) : Bool := handler.name == handlerName

/-- Set logging up. The handler of an earlier set-up is replaced, and noisy loggers report warnings
only. -/
def setUp (threshold : Threshold) (format : LineFormat) (logging : Logging) : Logging where
  threshold := threshold
  handlers := logging.handlers.filter (!isOwn ·) ++ [⟨handlerName, format⟩]
  quieted := NoisyLogger.all.map fun logger => (logger, .warning)

/-- However often logging was set up before, the service has one handler afterwards. -/
theorem count_setUp (threshold : Threshold) (format : LineFormat) (logging : Logging) :
    ((setUp threshold format logging).handlers.filter isOwn).length = 1 := by
  have own : isOwn ⟨handlerName, format⟩ = true := by simp [isOwn]
  simp [setUp, List.filter_append, own]

/-- How records are written under some settings. -/
def formatOf (settings : Settings) : LineFormat :=
  if settings.debug then .plain else .object settings.projectName settings.version

def setUpFor (settings : Settings) (logging : Logging) : Logging :=
  let named := settings.logLevel.map Threshold.ofLevel
  setUp (named.getD (.unnamed settings.debug)) (formatOf settings) logging

/-- Logging once the service runs with its own settings. -/
def started : Logging := setUpFor .default initial

end Logging
end SheetPricing.Service
