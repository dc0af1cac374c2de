import SheetPricing.Decimal.Rounding

/-!
# The network

Requests are answered one after another from a script of replies, and recorded. When the script is
at its end no connection can be made.
-/
namespace SheetPricing.Loading

/-- What comes of a request. -/
inductive Reply (β : Type) where
  | response (status : Int) (reason : String) (body : β)
  | connectionFailure (message : String)
  | timedOut (message : String)
  | requestFailure (message : String)

/-- A request: the URL and the seconds that it may take. -/
structure Request where
  url : String
  timeout : Amount
  deriving DecidableEq

structure Network (β : Type) where
  replies : List (Reply β)
  /-- The requests so far, in order. -/
  requests : List Request

namespace Network

variable {β : Type}

/-- The reply when none is left. -/
def exhausted : Reply β := .connectionFailure "no response scripted"

def send (network : Network β) (request : Request) : Reply β × Network β :=
  (network.replies.head?.getD exhausted,
    ⟨network.replies.drop 1, network.requests ++ [request]⟩)

end Network
end SheetPricing.Loading
