import SheetPricing.Schema.Field
import SheetPricing.Text.Blank
import SheetPricing.Text.Split
import SheetPricing.Url.Reading

/-!
# Origins

The origins from which the service may be called, listed between commas or one by one. An origin
is a URL of the web in its normal form.
-/
namespace SheetPricing.Service

open Schema

namespace Origin

/-- The origins that a setting lists. A text names them between commas, unless it begins with a
bracket; such a text and a list stay as they are. Anything else is shown as the message. -/
def split : Json → Except String Json
  | .text value =>
    if value.toList.head? = some '[' then .ok (.text value)
    else
      let parts := (Text.split ',' value).map Text.trim
      .ok (.list ((parts.filter (!·.isEmpty)).map .text))
  | .list items => .ok (.list items)
  | value => .error value.message

def ofJson : Json → Except FieldProblem String
  | .text value =>
    match Url.read value with
    | .ok (.web url) => .ok url.text
    | .ok .other => .error .urlScheme
    | .error fault => .error (.url fault)
  | _ => .error .notUrl

/-- The origins of a setting in their normal form. -/
def listOf (value : Json) : Checked (List String) :=
  match split value with
  | .ok (.list items) => Checked.items ofJson 0 items
  | .ok _ => .error [("", .notList)]
  | .error message => .error [("", .invalid message)]

end Origin
end SheetPricing.Service
