import SheetPricing.Text.Blank
import SheetPricing.Url.Host

/-!
# Reading URLs

Controls and blanks around a URL do not count, nor do tabs and line breaks in it. URLs of the web
are brought into their normal form; of another URL only the part that names its host is looked at.
-/
namespace SheetPricing.Url

/-- What a URL is, going by its scheme. -/
inductive Kind where
  /-- Slashes before the host do not count, and the scheme has a usual port. -/
  | network (usualPort : Nat)
  | file
  | other
  deriving DecidableEq, Repr

/-- The schemes whose hosts are domains, with their usual ports. -/
def networkSchemes : List (String × Nat) :=
  [("http", 80), ("https", 443), ("ws", 80), ("wss", 443), ("ftp", 21)]

def webSchemes : List String := ["http", "https"]

def kindOf (scheme : String) : Kind :=
  match networkSchemes.lookup scheme with
  | some port => .network port
  | none => if scheme = "file" then .file else .other

/-- Whether a backslash counts as a slash. -/
def Kind.takesBackslash (kind : Kind) : Bool := kind != .other

def Kind.isSlash (kind : Kind) (c : Char) : Bool :=
  c == '/' || (kind.takesBackslash && c == Text.backslash)

/-- Whether a character ends the part of a URL that names its host. -/
def Kind.endsAuthority (kind : Kind) (c : Char) : Bool := kind.isSlash c || c == '?' || c == '#'

/-- The scheme of a URL in small letters, and what follows its colon. -/
def takeScheme? (cs : List Char) : Option (String × List Char) :=
  let inScheme (c : Char) : Bool :=
    Text.isPlainLetter c || Text.isPlainDigit c || c == '+' || c == '-' || c == '.'
  let scheme := cs.takeWhile inScheme
  match scheme.head?.map Text.isPlainLetter, cs.dropWhile inScheme with
  | some true, ':' :: rest => some (String.ofList (scheme.map Char.toLower), rest)
  | _, _ => none

/-- The part of a text before the last of a character, if it has one, and the part after it. -/
def splitLast (separator : Char) (cs : List Char) : Option (List Char) × List Char :=
  let after := (cs.reverse.takeWhile (· != separator)).reverse
  if cs.contains separator then (some (cs.take (cs.length - after.length - 1)), after)
  else (none, after)

/-- Credentials with a colon before the password. -/
def credentialsOf (cs : List Char) : Credentials :=
  let part (cs : List Char) := String.ofList (escape outsideCredentials cs)
  ⟨part (cs.takeWhile (· != ':')), part ((cs.dropWhile (· != ':')).drop 1)⟩

/-- The host that begins a text, up to a colon that is not between brackets. -/
def takeHost (inBrackets : Bool) : List Char → List Char × List Char
  | [] => ([], [])
  | c :: rest =>
    if c == ':' && !inBrackets then ([], c :: rest)
    else
      let (host, after) := takeHost (if c == '[' then true else if c == ']' then false
        else inBrackets) rest
      (c :: host, after)

/-- The port that a text writes; no digits are no port. -/
def port? (cs : List Char) : Except UrlFault (Option Nat) :=
  match digitsIn? 10 cs with
  | none => .error .port
  | some port =>
    if cs.isEmpty then .ok none else if port < 0x10000 then .ok (some port) else .error .port

/-- Who asks, the host and the port. -/
structure Authority where
  credentials : Credentials
  host : String
  port : Option Nat

/-- The host of a text, which may be empty only if it needs none. -/
def hostOf (kind : Kind) (host : List Char) : Except UrlFault String :=
  match kind with
  | .other => otherHost host
  | _ => if host.isEmpty then .error .emptyHost else domainHost host

/-- What stands between the slashes before a host and the end of its part of the URL. `ended` says
whether anything follows that part. -/
def readAuthority (kind : Kind) (cs : List Char) (ended : Bool) : Except UrlFault Authority := do
  let (shown, place) := splitLast '@' cs
  if shown = some [] && place.isEmpty && ended then throw .emptyHost
  let credentials := (shown.map credentialsOf).getD .none
  let (host, rest) := takeHost false place
  let name ← hostOf kind host
  if name.isEmpty && (!rest.isEmpty || credentials != .none) then throw .emptyHost
  let port ← port? ((rest.drop 1).takeWhile (· != Text.backslash))
  return ⟨credentials, name, if kind = .network (port.getD 0) then none else port⟩

/-- Whether a name of a path is the letter of a drive, which no step back leaves. -/
def isDrive : List Char → Bool
  | [letter, mark] => Text.isPlainLetter letter && (mark == ':' || mark == '|')
  | _ => false

/-- A name of a path as it is compared with points, which may be escaped. -/
def plainPoints : List Char → List Char
  | '%' :: '2' :: 'e' :: rest => '.' :: plainPoints rest
  | '%' :: '2' :: 'E' :: rest => '.' :: plainPoints rest
  | c :: rest => c :: plainPoints rest
  | [] => []

/-- The names of a path without steps: one point stays, two points go one step back. A step at the
end leaves an empty name there. -/
def walk (before : List (List Char)) : List (List Char) → List (List Char)
  | [] => before
  | name :: rest =>
    let ending := if rest.isEmpty then [[]] else []
    if plainPoints name = "..".toList then
      let back := if (before.getLast?.map isDrive).getD false then before else before.dropLast
      walk (back ++ ending) rest
    else if plainPoints name = ".".toList then walk (before ++ ending) rest
    else walk (before ++ [name]) rest

def pathNames (kind : Kind) (cs : List Char) : List String :=
  let slashed := cs.map fun c => if kind.isSlash c then '/' else c
  let relative := if slashed.head? = some '/' then slashed.drop 1 else slashed
  (walk [] ((Text.splitList '/' relative).map (escape outsidePath))).map String.ofList

/-- What follows a mark, if the text begins with it. -/
def afterMark? (mark : Char) : List Char → Option (List Char)
  | c :: rest => if c == mark then some rest else none
  | [] => none

/-- A URL of the web, given what follows the colon of its scheme. -/
def readWeb (scheme : String) (kind : Kind) (cs : List Char) : Except UrlFault Url := do
  let place := cs.dropWhile kind.isSlash
  let rest := place.dropWhile (!kind.endsAuthority ·)
  let authority ←
    readAuthority kind (place.takeWhile (!kind.endsAuthority ·)) (!rest.isEmpty)
  let (plain, fragment) := (rest.takeWhile (· != '#'), rest.dropWhile (· != '#'))
  let (path, query) := (plain.takeWhile (· != '?'), plain.dropWhile (· != '?'))
  return {
    scheme
    credentials := authority.credentials
    host := authority.host
    port := authority.port
    names := pathNames kind path
    query := (afterMark? '?' query).map fun cs => String.ofList (escape outsideQuery cs)
    fragment := (afterMark? '#' fragment).map fun cs => String.ofList (escape outsideFragment cs) }

/-- Whether the host of a URL that is not one of the web can be read. -/
def checkOther (kind : Kind) (cs : List Char) : Except UrlFault Unit := do
  let place := match kind with
    | .network _ => cs.dropWhile kind.isSlash
    | _ => cs.drop 2
  let authority := place.takeWhile (!kind.endsAuthority ·)
  let hasHost := 2 ≤ cs.length && (cs.take 2).all kind.isSlash
  match kind with
  | .network _ =>
    discard (readAuthority kind authority (authority.length < place.length))
  | .file =>
    if hasHost && !authority.isEmpty && !isDrive authority then discard (domainHost authority)
  | .other =>
    if hasHost then discard (readAuthority kind authority (authority.length < place.length))

/-- What a text is that can be read as a URL. -/
inductive Found where
  | web (url : Url)
  /-- A URL of another scheme. -/
  | other

/-- Whether a character does not count at the ends of a URL. -/
def isOuter (c : Char) : Bool := c.toNat ≤ 0x20

/-- Whether a character does not count in a URL. -/
def isInner (c : Char) : Bool := c == '\t' || c == '\n' || c == '\r'

def read (text : String) : Except UrlFault Found :=
  if text.isEmpty then .error .empty
  else
    match takeScheme? ((Text.trimList isOuter text.toList).filter (!isInner ·)) with
    | none => .error .relative
    | some (scheme, rest) =>
      let kind := kindOf scheme
      if scheme ∈ webSchemes then (readWeb scheme kind rest).map .web
      else (checkOther kind rest).map fun _ => .other

end SheetPricing.Url
