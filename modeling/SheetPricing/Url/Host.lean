import SheetPricing.Url.Basic
import SheetPricing.Url.Name
import SheetPricing.Url.NumericHost

/-!
# Hosts

A host is a numeric one or the name of a domain.
-/
namespace SheetPricing.Url

/-- A host between brackets. -/
def bracketed (host : List Char) : Except UrlFault String :=
  if host.getLast? = some ']' then
    match address6? (host.drop 1).dropLast with
    | some pieces => .ok ("[" ++ address6Text pieces ++ "]")
    | none => .error .address6
  else .error .address6

/-- The host of a scheme whose hosts are domains. -/
def domainHost (host : List Char) : Except UrlFault String :=
  if host.head? = some '[' then bracketed host
  else match domain? (unescape host) with
    | none => .error .domain
    | some [] => .error .emptyHost
    | some name =>
      if endsInNumber name then
        match address4? name with
        | some address => .ok (address4Text address)
        | none => .error .address4
      else .ok (String.ofList name)

/-- The characters that a host of another scheme does not have. -/
def hostStops : List Char :=
  ['\x00', '\t', '\n', '\r', ' ', '#', '/', ':', '<', '>', '?', '@', '[', '\x5c', ']', '^', '|']

/-- The host of another scheme, which is not looked into. -/
def otherHost (host : List Char) : Except UrlFault String :=
  if host.head? = some '[' then bracketed host
  else if host.any (· ∈ hostStops) then .error .hostCharacter
  else .ok (String.ofList (escape isForeign host))

end SheetPricing.Url
