import VerdictRisk.Python.Value
import Mathlib.Data.List.Sort

/-!
# Serialized values

`json.dumps(value, sort_keys=True, separators=(",", ":"), default=str)`: ASCII text without
spaces, mappings in the order of their keys, and the `str` of anything that JSON does not have.
Keys that cannot be compared, and keys that JSON does not have, raise.
-/

namespace Python

/-- A character of a JSON string, in ASCII. -/
def escapeChar (c : Char) : String :=
  let codePoint := c.toNat
  if codePoint = 34 then "\\\""
  else if codePoint = 92 then "\\\\"
  else if codePoint = 10 then "\\n"
  else if codePoint = 13 then "\\r"
  else if codePoint = 9 then "\\t"
  else if codePoint = 12 then "\\f"
  else if codePoint = 8 then "\\b"
  else if 32 ≤ codePoint ∧ codePoint ≤ 126 then c.toString
  else if codePoint < 65536 then "\\u" ++ hex 4 codePoint
  else
    -- A surrogate pair.
    let rest := codePoint - 65536
    "\\u" ++ hex 4 (55296 + rest / 1024) ++ "\\u" ++ hex 4 (56320 + rest % 1024)

/-- A JSON string. -/
def dumpsText (text : String) : String :=
  "\"" ++ String.join (text.toList.map escapeChar) ++ "\""

section Dumps

variable [FloatFormat]

/-- A JSON number, or the name of what JSON does not have. -/
def dumpsFloat : PyFloat → String
  | .nan => "NaN"
  | .posInf => "Infinity"
  | .negInf => "-Infinity"
  | x => FloatFormat.repr x

/-- `true` or `false`. -/
def dumpsBool (value : Bool) : String := if value then "true" else "false"

/-- The text of a key; only the scalars of JSON have one. -/
def dumpsKey : PyKey → Except PyError String
  | .none => .ok "null"
  | .bool value => .ok (dumpsBool value)
  | .int n => intText n
  | .float x => .ok (dumpsFloat x)
  | .str text => .ok text
  | .object typeName _ =>
    .error (.typeError s!"keys must be str, int, float, bool or None, not {typeName}")

/-- `left < right`, where Python can compare the two. -/
def keyLess : PyKey → PyKey → Option Bool
  | .str left, .str right => some (decide (left < right))
  | left, right => do
    let first ← left.number
    let second ← right.number
    some (first.lt second)

/-- `sorted(entries)`. The error names the first two adjacent keys that cannot be compared, where
CPython names the two that its sort meets first. With a NaN among the keys `<` is no order and
Python leaves the result of `sorted` unspecified: insertion then gives one order of the entries,
which need not be that of CPython. -/
def sortedEntries {α : Type} (entries : List (PyKey × α)) : Except PyError (List (PyKey × α)) :=
  let clash := (entries.zip entries.tail).find? fun pair => (keyLess pair.2.1 pair.1.1).isNone
  match clash with
  | some (first, second) =>
    let left := second.1.typeName
    let right := first.1.typeName
    .error (.typeError s!"'<' not supported between instances of '{left}' and '{right}'")
  | none => .ok (entries.insertionSort fun left right => keyLess right.1 left.1 ≠ some true)

/-- A JSON object of entries whose values have been serialized. -/
def dumpsEntries (entries : List (PyKey × Except PyError String)) : Except PyError String := do
  let sorted ← sortedEntries entries
  let members ← sorted.mapM fun (key, value) => do
    let name ← dumpsKey key
    let text ← value
    .ok (dumpsText name ++ ":" ++ text)
  let text := ",".intercalate members
  .ok ("\x7b" ++ text ++ "\x7d")

mutual

/-- `json.dumps` of a value. -/
def dumps : PyValue → Except PyError String
  | .none => .ok "null"
  | .bool value => .ok (dumpsBool value)
  | .int n => intText n
  | .float x => .ok (dumpsFloat x)
  | .str text => .ok (dumpsText text)
  | .list items | .tuple items => do
    let texts ← dumpsItems items
    .ok ("[" ++ ",".intercalate texts ++ "]")
  | .dict entries => dumpsEntries (dumpsValues entries)
  | .mapping _ text | .object text => .ok (dumpsText text)

/-- The items of a list or a tuple. -/
def dumpsItems : List PyValue → Except PyError (List String)
  | [] => .ok []
  | item :: rest => do
    let text ← dumps item
    let texts ← dumpsItems rest
    .ok (text :: texts)

/-- The values of a mapping, each under its key. -/
def dumpsValues : List (PyKey × PyValue) → List (PyKey × Except PyError String)
  | [] => []
  | (key, value) :: rest => (key, dumps value) :: dumpsValues rest

end

end Dumps

end Python
