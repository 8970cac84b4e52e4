import AfricaFrontier.Python.Json

/-!
# JSON-like values

What a program passes about in mappings: the values of JSON, and tuples beside lists.  `repr`
and `str` write a tuple in parentheses, and everything else that JSON has as they write it
there.
-/

namespace Python

/-- A JSON-like value, with Python's two kinds of sequence. -/
inductive PyValue
  | null
  | bool (b : Bool)
  | int (n : ℤ)
  | float (x : PyFloat)
  | str (s : String)
  | list (items : List PyValue)
  | tuple (items : List PyValue)
  | dict (fields : List (String × PyValue))

/-- A mapping with texts for keys. -/
abbrev Mapping := List (String × PyValue)

mutual

/-- `repr` of a value.  A tuple of one element has a comma at its end. -/
def PyValue.repr : PyValue → String
  | .null => "None"
  | .bool b => if b then "True" else "False"
  | .int n => toString n
  | .float x => floatText x
  | .str s => textRepr s
  | .list items => "[" ++ PyValue.reprItems items ++ "]"
  | .tuple [a] => "(" ++ a.repr ++ ",)"
  | .tuple items => "(" ++ PyValue.reprItems items ++ ")"
  | .dict fields => "\x7b" ++ PyValue.reprFields fields ++ "\x7d"

/-- The elements of a sequence, separated by commas. -/
def PyValue.reprItems : List PyValue → String
  | [] => ""
  | [a] => a.repr
  | a :: as => a.repr ++ ", " ++ PyValue.reprItems as

/-- The entries of a mapping. -/
def PyValue.reprFields : Mapping → String
  | [] => ""
  | [(k, a)] => textRepr k ++ ": " ++ a.repr
  | (k, a) :: as => textRepr k ++ ": " ++ a.repr ++ ", " ++ PyValue.reprFields as

end

/-- `str` of a value. -/
def PyValue.text : PyValue → String
  | .str s => s
  | a => a.repr

/-- Python truth of a value. -/
def PyValue.truthy : PyValue → Bool
  | .null => false
  | .bool b => b
  | .int n => n ≠ 0
  | .float (.finite _ digits _) => digits ≠ 0
  | .float _ => true
  | .str s => s ≠ ""
  | .list items => !items.isEmpty
  | .tuple items => !items.isEmpty
  | .dict fields => !fields.isEmpty

/-- A value that holds no other. -/
def PyValue.IsScalar : PyValue → Prop
  | .list _ | .tuple _ | .dict _ => False
  | _ => True

/-- `a or b`. -/
def PyValue.orElse (a b : PyValue) : PyValue := if a.truthy then a else b

/-- The entry of a key, if the mapping has one. -/
def Mapping.find : Mapping → String → Option PyValue
  | [], _ => none
  | (k, a) :: rest, key => if k = key then some a else Mapping.find rest key

/-- `context.get(key, default)`. -/
def Mapping.getD (context : Mapping) (key : String) (default : PyValue) : PyValue :=
  (context.find key).getD default

/-- `context.get(key)`. -/
def Mapping.get (context : Mapping) (key : String) : PyValue := context.getD key .null

/-! ## JSON values among them -/

mutual

/-- A JSON value among the JSON-like ones. -/
def PyValue.ofJson : Json → PyValue
  | .null => .null
  | .bool b => .bool b
  | .int n => .int n
  | .float x => .float x
  | .str s => .str s
  | .arr items => .list (PyValue.ofItems items)
  | .obj fields => .dict (Mapping.ofFields fields)

/-- The elements of an array, as those of a list. -/
def PyValue.ofItems : List Json → List PyValue
  | [] => []
  | a :: as => PyValue.ofJson a :: PyValue.ofItems as

/-- An object, as a mapping. -/
def Mapping.ofFields : Obj → Mapping
  | [] => []
  | (key, a) :: rest => (key, PyValue.ofJson a) :: Mapping.ofFields rest

end

end Python
