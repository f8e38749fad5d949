/-
# What the handlers see of a cJSON tree

A request body that `cJSON_Parse` accepts is a tree of items. Of a number the
handlers read `valueint` and the text `printf` makes of `valuedouble` with
`%g`; that text is made of `gChars` alone, which `JNum` carries as a field.
`cJSON_GetObjectItemCaseSensitive` and `cJSON_GetObjectItem` return the first
member of an object with the name (the second one up to case), and nothing
for an item that is no object; `valuestring` of an item that is no string is
NULL.

Key definitions: `Json`, `Json.getObjectItemCaseSensitive`,
`Json.getObjectItem`, `Json.valuestring`, `Json.valueint`.
-/
import WtslCore.Lib.CStr

namespace WtslCore

/-- The characters of a number printed with `%g`. -/
def gChars : CStr := "0123456789+-.einfa".toList

theorem one_gChars : ∀ c ∈ "1".toList, c ∈ gChars := by decide

/-- A JSON number, as far as the handlers look at it. -/
structure JNum where
  /-- `valueint`, the number saturated to an `int`. -/
  valueint : ℤ
  /-- The text of `valuedouble` under `%g`. -/
  gText : CStr
  gText_ok : ∀ c ∈ gText, c ∈ gChars

/-- A cJSON item. -/
inductive Json
  | null
  | bool (b : Bool)
  | number (n : JNum)
  | string (s : CStr)
  | array (items : List Json)
  | object (members : List (CStr × Json))

namespace Json

/-- `cJSON_GetObjectItemCaseSensitive`. -/
def getObjectItemCaseSensitive (j : Json) (name : CStr) : Option Json :=
  match j with
  | .object ms => (ms.find? fun m => m.1 == name).map Prod.snd
  | _ => none

/-- `cJSON_GetObjectItem`: the name is compared up to case. -/
def getObjectItem (j : Json) (name : CStr) : Option Json :=
  match j with
  | .object ms => (ms.find? fun m => strcasecmpEq m.1 name).map Prod.snd
  | _ => none

/-- `item->valuestring`; `none` is NULL. -/
def valuestring : Json → Option CStr
  | .string s => some s
  | _ => none

/-- `item->valueint`. -/
def valueint : Json → ℤ
  | .number n => n.valueint
  | .bool true => 1
  | _ => 0

end Json

end WtslCore
