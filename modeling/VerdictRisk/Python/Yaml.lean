import VerdictRisk.Python.Value

/-!
# Parsed YAML

What `yaml.safe_load` returns, as far as a caller looks into it: scalars, lists and mappings. Any
other object (a date, a byte string, a set) is known by its type and by whether it is empty.
-/

namespace Python

/-- A parsed document. -/
inductive Yaml where
  | none
  | bool (value : Bool)
  | int (n : ℤ)
  | float (x : PyFloat)
  | str (text : String)
  | list (items : List Yaml)
  | dict (entries : List (PyKey × Yaml))
  /-- Any other object, by the name of its type and by whether it counts as true. -/
  | object (typeName : String) (truthy : Bool)

namespace Yaml

/-- `type(value).__name__` -/
def typeName : Yaml → String
  | .none => "NoneType"
  | .bool _ => "bool"
  | .int _ => "int"
  | .float _ => "float"
  | .str _ => "str"
  | .list _ => "list"
  | .dict _ => "dict"
  | .object typeName _ => typeName

/-- `bool(value)` -/
def truthy : Yaml → Bool
  | .none => false
  | .bool value => value
  | .int n => n != 0
  | .float x => !x.eq 0
  | .str text => text != ""
  | .list items => !items.isEmpty
  | .dict entries => !entries.isEmpty
  | .object _ truthy => truthy

end Yaml

end Python
