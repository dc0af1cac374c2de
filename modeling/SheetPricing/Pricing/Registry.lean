import SheetPricing.Pricing.Session
import SheetPricing.Table

/-!
# The registry of sessions

One session for each key, made when the key is first used and then kept.
-/
namespace SheetPricing

abbrev Registry := Table String Session

namespace Registry

def session (registry : Registry) (key : String) : Session := (registry.get? key).getD .empty

/-- The registry in which a key has a session. -/
def touch (registry : Registry) (key : String) : Registry :=
  registry.put key (registry.session key)

def update (registry : Registry) (key : String) (change : Session → Session) : Registry :=
  registry.put key (change (registry.session key))

/-- The keys whose sessions hold a template, in alphabetical order. -/
def loadedKeys (registry : Registry) : List String :=
  let loaded := registry.entries.filter fun (_, session) => session.template.isSome
  (loaded.map Prod.fst).mergeSort fun a b => decide (a ≤ b)

end Registry
end SheetPricing
