import SandboxManager.Bytes

/-! JSON trees as the cJSON library hands them out.

Parsing is the library's; what is here is the tree it returns and the few
accessors that read it. A string item is the C string behind `valuestring`. -/
namespace SandboxManager

inductive Json where
  | null
  | bool (value : Bool)
  | number (literal : Bytes)
  | string (valuestring : Bytes)
  | array (items : List Json)
  | object (members : List (Bytes × Json))

namespace Json

/-- `cJSON_GetObjectItemCaseSensitive`: the first member of that name. -/
def getObjectItemCaseSensitive (item : Json) (name : Bytes) : Option Json :=
  match item with
  | object members => (members.find? fun member => member.1 = name).map Prod.snd
  | _ => none

/-- `cJSON_GetObjectItem`, which compares names without regard to letter case. -/
def getObjectItem (item : Json) (name : Bytes) : Option Json :=
  match item with
  | object members => (members.find? fun member => strcasecmpEq member.1 name).map Prod.snd
  | _ => none

def isObject : Json → Bool
  | object _ => true
  | _ => false

/-- `cJSON_IsString` of an item that may be missing, with its text. -/
def stringOf : Option Json → Option Bytes
  | some (string valuestring) => some (cStr valuestring)
  | _ => none

/-- `cJSON_IsArray` of an item that may be missing, with its items. -/
def itemsOf : Option Json → Option (List Json)
  | some (array items) => some items
  | _ => none

end Json

end SandboxManager
