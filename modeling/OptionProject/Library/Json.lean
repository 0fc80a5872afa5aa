import OptionProject.Library.Text

/-!
# JSON values

The values `json.loads` gives, lookups in objects, and the texts `str` and `repr` make of them.
-/
namespace OptionProject.Library

/-- A float is kept as its `repr`; the keys of an object are distinct. -/
inductive Json
  | null
  | bool (value : Bool)
  | integer (value : ℤ)
  | float (text : String)
  | string (value : String)
  | array (items : List Json)
  | object (fields : List (String × Json))

namespace Json

/-- `type(value).__name__`. -/
def typeName : Json → String
  | null => "NoneType"
  | bool _ => "bool"
  | integer _ => "int"
  | float _ => "float"
  | string _ => "str"
  | array _ => "list"
  | object _ => "dict"

mutual

/-- `repr(value)`. -/
def repr [UnicodeTable] : Json → String
  | null => "None"
  | bool value => if value then "True" else "False"
  | integer value => toString value
  | float text => text
  | string value => quoted value
  | array items => "[" ++ reprItems items ++ "]"
  | object fields => "\x7b" ++ reprFields fields ++ "\x7d"

def reprItems [UnicodeTable] : List Json → String
  | [] => ""
  | [item] => repr item
  | item :: rest => repr item ++ ", " ++ reprItems rest

def reprFields [UnicodeTable] : List (String × Json) → String
  | [] => ""
  | [(key, value)] => quoted key ++ ": " ++ repr value
  | (key, value) :: rest => quoted key ++ ": " ++ repr value ++ ", " ++ reprFields rest

end

/-- `str(value)`. -/
def text [UnicodeTable] : Json → String
  | string value => value
  | value => repr value

/-- `fields.get(key)`. -/
def get? (fields : List (String × Json)) (key : String) : Option Json :=
  (fields.find? fun field => field.1 = key).map Prod.snd

/-- `str(fields.get(key, default))`. -/
def textOr [UnicodeTable] (fields : List (String × Json)) (key default : String) : String :=
  ((get? fields key).map text).getD default

/-- `bool(value)`. -/
def truthy : Json → Bool
  | null => false
  | bool value => value
  | integer value => value ≠ 0
  | float text => text ∉ ["0.0", "-0.0"]
  | string value => value ≠ ""
  | array items => !items.isEmpty
  | object fields => !fields.isEmpty

/-- `value == text` -/
def isText : Json → String → Bool
  | string value, text => value = text
  | _, _ => false

/-- `fields.get(key) == text` -/
def holds (fields : List (String × Json)) (key text : String) : Bool :=
  (get? fields key).any (isText · text)

end Json
end OptionProject.Library
