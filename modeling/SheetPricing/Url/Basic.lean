import SheetPricing.Url.Escape

/-!
# URLs

A URL of the web in its parts, each in its normal form, and as text.
-/
namespace SheetPricing

/-- Why a text is no URL. -/
inductive UrlFault where
  | empty
  | relative
  | emptyHost
  | domain
  | port
  | address4
  | address6
  | hostCharacter
  deriving DecidableEq, Repr

def UrlFault.message : UrlFault → String
  | .empty => "input is empty"
  | .relative => "relative URL without a base"
  | .emptyHost => "empty host"
  | .domain => "invalid international domain name"
  | .port => "invalid port number"
  | .address4 => "invalid IPv4 address"
  | .address6 => "invalid IPv6 address"
  | .hostCharacter => "invalid domain character"

/-- What a URL shows of who asks. -/
structure Credentials where
  user : String
  password : String
  deriving DecidableEq, Repr

namespace Credentials

def none : Credentials := ⟨"", ""⟩

/-- Credentials before a host; empty parts are left out. -/
def text (credentials : Credentials) : String :=
  let password := if credentials.password.isEmpty then "" else ":" ++ credentials.password
  let all := credentials.user ++ password
  if all.isEmpty then "" else all ++ "@"

end Credentials

/-- A URL of the web. The port is left out if it is the usual one of the scheme, and the names of
the path are those between its slashes. -/
structure Url where
  scheme : String
  credentials : Credentials
  host : String
  port : Option Nat
  names : List String
  query : Option String
  fragment : Option String
  deriving DecidableEq, Repr

namespace Url

def pathText (url : Url) : String := "/" ++ "/".intercalate url.names

def text (url : Url) : String :=
  url.scheme ++ "://" ++ url.credentials.text ++ url.host
    ++ ((url.port.map fun port => ":" ++ toString port).getD "") ++ url.pathText
    ++ ((url.query.map ("?" ++ ·)).getD "") ++ ((url.fragment.map ("#" ++ ·)).getD "")

end Url
end SheetPricing
