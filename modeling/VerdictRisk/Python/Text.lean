import Mathlib.Data.List.Basic

/-!
# Python text

How `repr` writes a string, what `strip` removes and what `lower` does to the letters of ASCII
names. Strings are sequences of Unicode scalar values. Whether a character outside ASCII is
printable is a table of the interpreter's Unicode version, which `Unicode` stands for.
-/

namespace Python

/-- The character table of the interpreter. -/
class Unicode where
  /-- `str.isprintable` of one character outside ASCII. -/
  printable : Char → Bool

/-- The table in which every character is printable. -/
@[reducible] def Unicode.allPrintable : Unicode := ⟨fun _ => true⟩

/-- A code point in lower-case hexadecimal, padded to a width. -/
def hex (width codePoint : ℕ) : String :=
  let digits := Nat.toDigits 16 codePoint
  String.ofList (List.replicate (width - digits.length) '0' ++ digits)

/-- How `repr` writes one character between quotes of a given code point. -/
def reprChar [Unicode] (quote : ℕ) (c : Char) : String :=
  let codePoint := c.toNat
  if codePoint = quote ∨ codePoint = 92 then "\\" ++ c.toString
  else if codePoint = 9 then "\\t"
  else if codePoint = 10 then "\\n"
  else if codePoint = 13 then "\\r"
  else if codePoint < 32 ∨ codePoint = 127 then "\\x" ++ hex 2 codePoint
  else if codePoint < 127 ∨ Unicode.printable c then c.toString
  else if codePoint < 256 then "\\x" ++ hex 2 codePoint
  else if codePoint < 65536 then "\\u" ++ hex 4 codePoint
  else "\\U" ++ hex 8 codePoint

/-- `repr(text)`: in single quotes, unless only double ones spare an escape. -/
def reprText [Unicode] (text : String) : String :=
  let single := text.toList.any (·.toNat = 39)
  let double := text.toList.any (·.toNat = 34)
  let quote := if single && !double then 34 else 39
  let mark := (Char.ofNat quote).toString
  mark ++ String.join (text.toList.map (reprChar quote)) ++ mark

/-- `repr(texts)` of a list of strings. -/
def reprTexts [Unicode] (texts : List String) : String :=
  "[" ++ ", ".intercalate (texts.map reprText) ++ "]"

/-- `str.isspace` of one character. -/
def isSpace (c : Char) : Bool :=
  let codePoint := c.toNat
  9 ≤ codePoint ∧ codePoint ≤ 13 ∨ 28 ≤ codePoint ∧ codePoint ≤ 32 ∨ codePoint = 133 ∨
    codePoint = 160 ∨ codePoint = 5760 ∨ 8192 ≤ codePoint ∧ codePoint ≤ 8202 ∨
    codePoint = 8232 ∨ codePoint = 8233 ∨ codePoint = 8239 ∨ codePoint = 8287 ∨
    codePoint = 12288

/-- `not text.strip()` -/
def isBlank (text : String) : Bool := text.toList.all isSpace

/-- `str.lower` of one character, as far as its result is in ASCII: the only character outside
ASCII with such a result is the Kelvin sign. -/
def lowerChar (c : Char) : Char := if c.toNat = 8490 then 'k' else c.toLower

/-- `text.lower().replace("-", "_")`, for a comparison with an ASCII name. -/
def foldedName (text : String) : String :=
  String.ofList (text.toList.map fun c => if c = '-' then '_' else lowerChar c)

end Python
