import SheetPricing.Text.Blank
import SheetPricing.Text.Split

/-!
# Media types

What the body of a request is, as its header says: a type and a subtype between a slash, in any
case, and parameters after a semicolon, which do not matter here.
-/
namespace SheetPricing.Service

structure MediaType where
  type : String
  subtype : String
  deriving DecidableEq, Repr

namespace MediaType

/-- What a header that names no media type stands for. -/
def plainText : MediaType := ⟨"text", "plain"⟩

def ofHeader (header : String) : MediaType :=
  let named := Text.trim (String.ofList (header.toList.takeWhile (· != ';')))
  match Text.split '/' (String.ofList (named.toList.map Char.toLower)) with
  | [type, subtype] => ⟨type, subtype⟩
  | _ => plainText

/-- JSON, or something that is written as JSON. -/
def isJson (media : MediaType) : Bool :=
  media.type == "application"
    && (media.subtype == "json" || "+json".toList.isSuffixOf media.subtype.toList)

def isLineForm (media : MediaType) : Bool :=
  media == ⟨"application", "x-www-form-urlencoded"⟩

/-- A form in several parts. -/
def isPartForm (media : MediaType) : Bool := media == ⟨"multipart", "form-data"⟩

end MediaType
end SheetPricing.Service
