import HardwareTest.Common.SafeString
import Mathlib.Data.List.Basic

/-!
# Parsed JSON: `cJSON` and `config/parser.h`

* `CJson` is the tree `cJSON_Parse` returns. A number is its `valueint` (a saturated 32-bit
  integer); nothing here reads the floating-point value.
* `getObjectItem` is the case-sensitive lookup: the first member of the name, and nothing in a value
  that is not an object, whose children carry no names.
* `getString`, `getInt`, `getBool` are the helpers of `config/parser.h`.
-/

namespace HardwareTest

/-- A parsed JSON value. Source: `third-party/cjson-1.7.19/cJSON.h`, `cJSON` -/
inductive CJson
  | null
  | bool (value : Bool)
  | number (valueint : Int32)
  | string (valuestring : CString)
  | array (items : List CJson)
  | object (members : List (CString × CJson))

namespace CJson

/-- Source: `third-party/cjson-1.7.19/cJSON.c`, `cJSON_GetObjectItemCaseSensitive` -/
def getObjectItem (item : CJson) (key : CString) : Option CJson :=
  match item with
  | .object members => (members.find? fun m => decide (key = m.1)).map Prod.snd
  | _ => none

/-- The elements of an array, none for anything else: `if(cJSON_IsArray(x)) cJSON_ArrayForEach`. -/
def elements : Option CJson → List CJson
  | some (.array items) => items
  | _ => []

/-- The string of an item: `cJSON_IsString(x) && x->valuestring != NULL`. -/
def asString : Option CJson → Option CString
  | some (.string s) => some s
  | _ => none

/-- The integer of an item: `cJSON_IsNumber(x)`, read as `(uint32_t)x->valueint`. -/
def asInt : Option CJson → Option UInt32
  | some (.number v) => some v.toUInt32
  | _ => none

/-- The truth value of an item: `cJSON_IsBool(x)`, read with `cJSON_IsTrue`. -/
def asBool : Option CJson → Option Bool
  | some (.bool b) => some b
  | _ => none

/-- What `get_string` leaves in its destination: the string, or the empty string.
Source: `config/parser.h`, `get_string` -/
def getString {n : ℕ} (obj : CJson) (key : CString) (destSize : ℕ)
    (h₀ : 0 < destSize := by
      first | exact zero_lt_64 | exact zero_lt_128 | exact zero_lt_32 | decide)
    (hn : destSize ≤ n := by first | exact le_64 | exact le_128 | exact le_32 | decide) :
    CharBuf n :=
  safeStringCopy ((asString (obj.getObjectItem key)).getD []) destSize h₀ hn

/-- What `get_int` writes, `none` when it leaves its destination alone.
Source: `config/parser.h`, `get_int` -/
def getInt (obj : CJson) (key : CString) : Option UInt32 := asInt (obj.getObjectItem key)

/-- What `get_bool` writes, `none` when it leaves its destination alone.
Source: `config/parser.h`, `get_bool` -/
def getBool (obj : CJson) (key : CString) : Option Bool := asBool (obj.getObjectItem key)

end CJson

end HardwareTest
