import VerdictRisk.Python.Datetime
import VerdictRisk.Python.Text

/-!
# Python values

The values that a caller can put into a mapping of its own, as far as the code looks into them:
the scalars, lists, tuples and mappings. Any other object is known by its `str`.
-/

namespace Python

/-- A key of a mapping. -/
inductive PyKey where
  | none
  | bool (value : Bool)
  | int (n : ℤ)
  | float (x : PyFloat)
  | str (text : String)
  /-- Any other hashable object, by the name of its type and its `str`, which is assumed to
  return. -/
  | object (typeName text : String)
deriving DecidableEq

/-- `str(key)` -/
def PyKey.text [FloatFormat] : PyKey → Except PyError String
  | .none => .ok "None"
  | .bool true => .ok "True"
  | .bool false => .ok "False"
  | .int n => intText n
  | .float x => .ok (FloatFormat.repr x)
  | .str text => .ok text
  | .object _ text => .ok text

/-- `type(key).__name__` -/
def PyKey.typeName : PyKey → String
  | .none => "NoneType"
  | .bool _ => "bool"
  | .int _ => "int"
  | .float _ => "float"
  | .str _ => "str"
  | .object typeName _ => typeName

/-- The number that a key compares as, if it is one. -/
def PyKey.number : PyKey → Option PyFloat
  | .bool value => some (if value then 1 else 0)
  | .int n => some (.finite n)
  | .float x => some x
  | _ => .none

/-- A value. -/
inductive PyValue where
  | none
  | bool (value : Bool)
  | int (n : ℤ)
  | float (x : PyFloat)
  | str (text : String)
  | list (items : List PyValue)
  | tuple (items : List PyValue)
  | dict (entries : List (PyKey × PyValue))
  /-- A `Mapping` that is not a `dict`, with its `str`. -/
  | mapping (entries : List (PyKey × PyValue)) (text : String)
  /-- Any other object, by its `str`. -/
  | object (text : String)

namespace PyValue

/-- A dict with string keys. -/
def record (entries : List (String × PyValue)) : PyValue :=
  .dict (entries.map fun (key, value) => (.str key, value))

/-- The entries of a record. -/
theorem record_eq (entries : List (String × PyValue)) :
    record entries = .dict (entries.map fun entry => (.str entry.1, entry.2)) := rfl

/-- A number of either type. -/
def ofNum : PyNum → PyValue
  | .int n => .int n
  | .float x => .float x

end PyValue

end Python
