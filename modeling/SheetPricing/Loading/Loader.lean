import SheetPricing.Action
import SheetPricing.Loading.FileFormat
import SheetPricing.Loading.Network
import SheetPricing.Storage.FileTree
import SheetPricing.Text.Capital

/-!
# The workbook loader

Workbooks are loaded from bytes, from URLs and from files. What was read once is kept, under the
digest of its bytes and, if it came from there, under its URL, until it is dropped. Downloads that
fail for reasons that may pass are tried again a few times.
-/
namespace SheetPricing.Loading

/-- A workbook as it is kept, with the number of workbooks that were read before it. -/
structure Parsed where
  workbook : Workbook
  serial : Nat
  deriving Inhabited

structure Loader (β : Type) where
  timeout : Amount
  /-- How often a failed download is tried again. -/
  retries : Int
  cache : Table String Parsed
  /-- How many workbooks were read so far. -/
  parses : Nat
  network : Network β

abbrev LoaderM (β : Type) := Action (LoadFailure LoadFault) (Loader β)

/-- The schemes of what is downloaded. -/
def urlSchemes : List String := ["http://", "https://"]

/-- Whether a text is the URL of something to download. -/
def isUrl (text : String) : Bool :=
  urlSchemes.any fun scheme => scheme.toList.isPrefixOf (Text.lowered text)

/-- Where a workbook is loaded from. -/
inductive WorkbookSource (β : Type) where
  | bytes (data : β)
  | text (place : String)
  | path (path : Storage.Path)

namespace Loader

variable {β : Type}

def new (timeout : Amount) (retries : Int) (replies : List (Reply β)) : Loader β :=
  ⟨timeout, retries, .empty, 0, ⟨replies, []⟩⟩

def contains (loader : Loader β) (key : String) : Bool := loader.cache.contains key

/-- Drop what is kept under a key. -/
def evict (loader : Loader β) (key : String) : Loader β :=
  { loader with cache := loader.cache.erase key }

/-- Drop everything that is kept. -/
def clear (loader : Loader β) : Loader β := { loader with cache := .empty }

/-- Keep a workbook under a key. -/
def keep (loader : Loader β) (key : String) (parsed : Parsed) : Loader β :=
  { loader with cache := loader.cache.put key parsed }

/-- Send a request. -/
def request (url : String) : LoaderM β (Reply β) := do
  let loader ← get
  let (reply, network) := loader.network.send ⟨url, loader.timeout⟩
  set { loader with network }
  return reply

/-- The first status that means a failure of the server. -/
def serverFailure : Int := 500

/-- The first status that means a failure at all. -/
def anyFailure : Int := 400

def downloadError (url reason : String) : LoadFailure LoadFault :=
  .unavailable ⟨"Failed to download template: " ++ reason, some url⟩

/-- Try a download so many times; the last passing failure is named when no try is left. -/
def downloadTrying (url : String) : (tries : Nat) → (last : String) → LoaderM β β
  | 0, last => throw (downloadError url last)
  | tries + 1, _ => do
    match ← request url with
    | .connectionFailure message => downloadTrying url tries message
    | .timedOut message => downloadTrying url tries message
    | .requestFailure message => throw (.broken (.request message))
    | .response status reason body =>
      if serverFailure ≤ status then downloadTrying url tries s!"Server error {status}"
      else if anyFailure ≤ status then throw (downloadError url s!"HTTP {status} {reason}")
      else return body

def download (url : String) : LoaderM β β := do
  downloadTrying url ((← get).retries + 1).toNat "None"

/-- The workbook in bytes, read only if it is not kept. -/
def loadBytes (format : FileFormat β) (data : β) : LoaderM β Parsed := do
  let loader ← get
  let key := format.digest data
  match loader.cache.get? key with
  | some parsed => return parsed
  | none =>
    match format.open data with
    | .error failure => throw failure
    | .ok workbook =>
      let parsed : Parsed := ⟨workbook, loader.parses⟩
      set { loader.keep key parsed with parses := loader.parses + 1 }
      return parsed

/-- The workbook at a URL, downloaded only if it is not kept. -/
def loadUrl (format : FileFormat β) (url : String) : LoaderM β Parsed := do
  match (← get).cache.get? url with
  | some parsed => return parsed
  | none =>
    let data ← download url
    let parsed ← loadBytes format data
    modify (·.keep url parsed)
    return parsed

/-- The workbook in a file, given how files are read. -/
def loadFile (format : FileFormat β) (read : Storage.Path → Except Storage.FileError β)
    (path : Storage.Path) : LoaderM β Parsed :=
  if path.text.toList.contains '\x00' then throw (.broken .nulCharacter)
  else match read path with
    | .ok data => loadBytes format data
    | .error error =>
      throw (.unavailable
        ⟨s!"Cannot read workbook file {path.text}: {error.message}", some path.text⟩)

/-- The workbook of a source: a text is a URL or else the path of a file. -/
def load (format : FileFormat β) (read : Storage.Path → Except Storage.FileError β) :
    WorkbookSource β → LoaderM β Parsed
  | .bytes data => loadBytes format data
  | .path path => loadFile format read path
  | .text place =>
    if isUrl place then loadUrl format place
    else loadFile format read (Storage.Path.ofText place)

end Loader
end SheetPricing.Loading
