import VerdictRisk.Library.Documents
import VerdictRisk.Library.Fallible
import VerdictRisk.Python.Serializable

/-!
# Serialized values as documents

What `json.dumps` writes of a value is the text of a document: scalars are tokens, other objects are
the text of their `str`, and the members of a dict stand in the order of its keys. ASCII escapes
can be undone, and where `repr` tells floats apart no two tokens are spelled alike, so a serialized
value determines its document.
-/

namespace Python

open Documents

/-- The scalars of a document. -/
inductive Scalar where
  | null
  | bool (value : Bool)
  | int (n : ℤ)
  | float (x : PyFloat)

section Documents

variable [FloatFormat]

/-- The text of a scalar. -/
def Scalar.spell : Scalar → List Char
  | .null => "null".toList
  | .bool value => (dumpsBool value).toList
  | .int n => (toString n).toList
  | .float x => (dumpsFloat x).toList

/-- The text of a document. -/
def render (doc : Doc Scalar) : String :=
  String.ofList (write Scalar.spell (fun c => (escapeChar c).toList) doc)

/-- A member of a dict whose value has been read. -/
def documentMember (entry : PyKey × Except PyError (Doc Scalar)) :
    Except PyError (List Char × Doc Scalar) := do
  let name ← dumpsKey entry.1
  let doc ← entry.2
  .ok (name.toList, doc)

/-- The document of a dict whose values have been read. -/
def documentEntries (entries : List (PyKey × Except PyError (Doc Scalar))) :
    Except PyError (Doc Scalar) := do
  let sorted ← sortedEntries entries
  let members ← sorted.mapM documentMember
  .ok (.object members)

mutual

/-- The document of a value. -/
def document : PyValue → Except PyError (Doc Scalar)
  | .none => .ok (.token .null)
  | .bool value => .ok (.token (.bool value))
  | .int n => (intText n).map fun _ => .token (.int n)
  | .float x => .ok (.token (.float x))
  | .list items | .tuple items => (documentItems items).map .array
  | .dict entries => documentEntries (documentValues entries)
  | .str text | .mapping _ text | .object text => .ok (.text text.toList)

/-- The documents of the items of a list or a tuple. -/
def documentItems : List PyValue → Except PyError (List (Doc Scalar))
  | [] => .ok []
  | item :: rest => do
    let doc ← document item
    let docs ← documentItems rest
    .ok (doc :: docs)

/-- The documents of the values of a mapping, each under its key. -/
def documentValues : List (PyKey × PyValue) → List (PyKey × Except PyError (Doc Scalar))
  | [] => []
  | (key, value) :: rest => (key, document value) :: documentValues rest

end

omit [FloatFormat] in
/-- Sorting looks at the keys alone. -/
theorem sortedEntries_map {α β : Type} (function : α → β) (entries : List (PyKey × α)) :
    sortedEntries (entries.map fun entry => (entry.1, function entry.2)) =
      (sortedEntries entries).map (List.map fun entry => (entry.1, function entry.2)) := by
  have clashes : ((entries.map fun entry => (entry.1, function entry.2)).zip
      (entries.map fun entry => (entry.1, function entry.2)).tail).find?
        (fun pair => (keyLess pair.2.1 pair.1.1).isNone) =
      ((entries.zip entries.tail).find? fun pair => (keyLess pair.2.1 pair.1.1).isNone).map
        fun pair => ((pair.1.1, function pair.1.2), (pair.2.1, function pair.2.2)) := by
    rw [← List.map_tail, List.zip_map, List.find?_map]
    rfl
  unfold sortedEntries
  simp only [clashes]
  cases (entries.zip entries.tail).find? fun pair => (keyLess pair.2.1 pair.1.1).isNone with
  | some clash => rfl
  | none =>
    rw [Option.map_none]
    refine congrArg Except.ok (List.map_insertionSort _ _ _ _ ?_).symm
    intro left _ right _
    exact Iff.rfl

omit [FloatFormat] in
/-- The text of a string. -/
theorem dumpsText_eq (text : String) :
    dumpsText text = String.ofList (quoted (fun c => (escapeChar c).toList) text.toList) := by
  rw [← String.toList_inj]
  simp [dumpsText, quoted, String.toList_join, List.flatMap_map]

omit [FloatFormat] in
/-- Texts between brackets. -/
theorem bracketed (opening closing : Char) (texts : List String) :
    String.singleton opening ++ ",".intercalate texts ++ String.singleton closing =
      String.ofList (opening :: ([','].intercalate (texts.map String.toList) ++ [closing])) := by
  rw [← String.toList_inj]
  simp [String.toList_intercalate]

/-- The text of a member is that of its key and its document. -/
theorem dumpsMember_eq (entry : PyKey × Except PyError (Doc Scalar)) :
    (do
      let name ← dumpsKey entry.1
      let text ← entry.2.map render
      .ok (dumpsText name ++ ":" ++ text)) =
    (documentMember entry).map fun member =>
      dumpsText (String.ofList member.1) ++ ":" ++ render member.2 := by
  unfold documentMember
  cases dumpsKey entry.1 with
  | error raised => rfl
  | ok name =>
    cases entry.2 with
    | error raised => rfl
    | ok doc => simp [bind, Except.bind, Except.map]

/-- The text of an object is that of its members. -/
theorem render_object (members : List (List Char × Doc Scalar)) :
    "\x7b" ++ ",".intercalate (members.map fun member =>
      dumpsText (String.ofList member.1) ++ ":" ++ render member.2) ++ "\x7d" =
        render (.object members) := by
  have texts : (members.map fun member =>
      dumpsText (String.ofList member.1) ++ ":" ++ render member.2).map String.toList =
        writeMembers Scalar.spell (fun c => (escapeChar c).toList) members := by
    rw [writeMembers_eq, List.map_map]
    apply List.map_congr_left
    intro member _
    simp [dumpsText_eq, render]
  rw [render, write, ← texts]
  exact bracketed '\x7b' '\x7d' _

/-- A dict is written as the object of its members. -/
theorem dumpsEntries_eq (entries : List (PyKey × Except PyError (Doc Scalar))) :
    dumpsEntries (entries.map fun entry => (entry.1, entry.2.map render)) =
      (documentEntries entries).map render := by
  unfold dumpsEntries
  rw [sortedEntries_map, documentEntries]
  cases sortedEntries entries with
  | error raised => rfl
  | ok sorted =>
    have texts : (sorted.map fun entry => (entry.1, entry.2.map render)).mapM (fun entry => do
        let name ← dumpsKey entry.1
        let text ← entry.2
        .ok (dumpsText name ++ ":" ++ text)) = (sorted.mapM documentMember).map (List.map
          fun member => dumpsText (String.ofList member.1) ++ ":" ++ render member.2) := by
      rw [List.mapM_map, Fallible.map_mapM]
      exact congrArg (List.mapM · sorted) (funext dumpsMember_eq)
    change ((sorted.map fun entry => (entry.1, entry.2.map render)).mapM _ >>= _) =
      ((sorted.mapM documentMember) >>= _).map render
    rw [texts]
    cases sorted.mapM documentMember with
    | error raised => rfl
    | ok members => exact congrArg Except.ok (render_object members)

mutual

/-- A value is written as its document. -/
theorem dumps_eq (value : PyValue) : dumps value = (document value).map render := by
  cases value with
  | none => rfl
  | bool value => cases value <;> rfl
  | int n =>
    rw [dumps, document]
    unfold intText
    split
    · simp [Except.map, render, write, Scalar.spell]
    · rfl
  | float x => simp [dumps, document, Except.map, render, write, Scalar.spell]
  | str text => exact congrArg Except.ok (dumpsText_eq text)
  | list items | tuple items =>
    rw [dumps, document, dumpsItems_eq items]
    cases documentItems items with
    | error raised => rfl
    | ok docs =>
      apply congrArg Except.ok
      rw [render, write, writeItems_eq]
      apply (bracketed '[' ']' (docs.map render)).trans
      rw [List.map_map]
      refine congrArg (fun texts => String.ofList ('[' :: ([','].intercalate texts ++ [']']))) ?_
      exact List.map_congr_left fun doc _ => String.toList_ofList
  | dict entries => rw [dumps, document, dumpsValues_eq entries, dumpsEntries_eq]
  | mapping entries text => exact congrArg Except.ok (dumpsText_eq text)
  | object text => exact congrArg Except.ok (dumpsText_eq text)

/-- The items of a list are written as their documents. -/
theorem dumpsItems_eq (items : List PyValue) :
    dumpsItems items = (documentItems items).map (List.map render) := by
  cases items with
  | nil => rfl
  | cons item rest =>
    rw [dumpsItems, documentItems, dumps_eq item, dumpsItems_eq rest]
    cases document item with
    | error raised => rfl
    | ok doc => cases documentItems rest <;> rfl

/-- The values of a dict are written as their documents. -/
theorem dumpsValues_eq (entries : List (PyKey × PyValue)) :
    dumpsValues entries =
      (documentValues entries).map fun entry => (entry.1, entry.2.map render) := by
  cases entries with
  | nil => rfl
  | cons entry rest =>
    obtain ⟨key, value⟩ := entry
    rw [dumpsValues, documentValues, dumps_eq value, dumpsValues_eq rest, List.map_cons]

end

end Documents

/-- The number that lower-case hexadecimal digits denote. -/
def hexValue (digits : List Char) : ℕ :=
  digits.foldl (fun value c => 16 * value + if c.toNat < 58 then c.toNat - 48 else c.toNat - 87) 0

/-- Padded digits denote the code point they were made of. -/
theorem hexValue_hex (width codePoint : ℕ) : hexValue (hex width codePoint).toList = codePoint := by
  have digit : ∀ d < 16, (if (Nat.digitChar d).toNat < 58 then (Nat.digitChar d).toNat - 48
      else (Nat.digitChar d).toNat - 87) = d := by decide
  have zeros : ∀ count : ℕ, hexValue (List.replicate count '0') = 0 := by
    intro count
    induction count with
    | zero => rfl
    | succ count ih => simpa [hexValue, List.replicate_succ] using ih
  have digits : hexValue (Nat.toDigits 16 codePoint) = codePoint := by
    induction codePoint using Nat.base_induction 16 (by decide) with
    | single m small => simp [hexValue, Nat.toDigits_of_lt_base small, digit m small]
    | digit m k below positive ih =>
      rw [← Nat.toDigits_append_toDigits (by decide) positive below, hexValue, List.foldl_append,
        ← hexValue, ih, Nat.toDigits_of_lt_base below]
      simp [digit k below]
  rw [hex, String.toList_ofList, hexValue, List.foldl_append, ← hexValue, zeros]
  exact digits

/-- The digits of a code point of the first plane fill exactly four places. -/
theorem hex_four {codePoint : ℕ} (short : codePoint < 65536) :
    ∃ a b c d, (hex 4 codePoint).toList = [a, b, c, d] := by
  have digits : (Nat.toDigits 16 codePoint).length ≤ 4 :=
    (Nat.length_toDigits_le_iff (by decide) (by decide)).mpr short
  have full : (hex 4 codePoint).toList.length = 4 := by
    rw [hex, String.toList_ofList, List.length_append, List.length_replicate]
    omega
  exact List.length_eq_four.mp full

/-- The character that a short escape stands for. -/
def shortEscape (c : Char) : Char :=
  if c = 'n' then '\n' else if c = 'r' then '\r' else if c = 't' then '\t'
  else if c = 'f' then Char.ofNat 12 else if c = 'b' then Char.ofNat 8 else c

/-- The character that a text begins with, and the rest of the text. -/
def unescape : List Char → Option (Char × List Char)
  | '\\' :: 'u' :: a :: b :: c :: d :: rest =>
    let unit := hexValue [a, b, c, d]
    if 55296 ≤ unit ∧ unit < 56320 then
      match rest with
      | _ :: _ :: e :: f :: g :: h :: rest =>
        some (Char.ofNat (65536 + (unit - 55296) * 1024 + (hexValue [e, f, g, h] - 56320)), rest)
      | _ => none
    else some (Char.ofNat unit, rest)
  | '\\' :: c :: rest => some (shortEscape c, rest)
  | c :: rest => some (c, rest)
  | [] => none

/-- A character that begins no escape stands for itself. -/
theorem unescape_plain {c : Char} (plain : c ≠ '\\') (rest : List Char) :
    unescape (c :: rest) = some (c, rest) := by
  rw [unescape.eq_def]
  split <;> simp_all

/-- One code unit is read back, unless it begins a pair. -/
theorem unescape_unit {unit : ℕ} (short : unit < 65536) (single : ¬ (55296 ≤ unit ∧ unit < 56320))
    (rest : List Char) :
    unescape (("\\u" ++ hex 4 unit).toList ++ rest) = some (Char.ofNat unit, rest) := by
  obtain ⟨a, b, c, d, digits⟩ := hex_four short
  have denoted := hexValue_hex 4 unit
  rw [digits] at denoted
  simp only [String.toList_append, digits, unescape, denoted, if_neg single, String.reduceToList,
    List.cons_append, List.nil_append]

/-- Two code units of which the first begins a pair are read back together. -/
theorem unescape_pair {high low : ℕ} (leading : 55296 ≤ high ∧ high < 56320) (short : low < 65536)
    (rest : List Char) :
    unescape (("\\u" ++ hex 4 high ++ "\\u" ++ hex 4 low).toList ++ rest) =
      some (Char.ofNat (65536 + (high - 55296) * 1024 + (low - 56320)), rest) := by
  obtain ⟨a, b, c, d, first⟩ := hex_four (leading.2.trans (by decide))
  obtain ⟨e, f, g, h, second⟩ := hex_four short
  have denoted := hexValue_hex 4 high
  have denoted' := hexValue_hex 4 low
  rw [first] at denoted
  rw [second] at denoted'
  simp only [String.toList_append, first, second, unescape, denoted, denoted', if_pos leading,
    String.reduceToList, List.cons_append, List.nil_append]

/-- An escaped character is read back, whatever follows it. -/
theorem unescape_escapeChar (c : Char) (rest : List Char) :
    unescape ((escapeChar c).toList ++ rest) = some (c, rest) := by
  have known : ∀ {codePoint : ℕ}, c.toNat = codePoint → c = Char.ofNat codePoint := by
    intro codePoint same
    rw [← same, Char.ofNat_toNat]
  have valid : c.toNat < 55296 ∨ 57343 < c.toNat ∧ c.toNat < 1114112 := c.valid
  unfold escapeChar
  dsimp only
  iterate 7
    split
    · rename_i same
      rw [known same]
      rfl
  split
  · rename_i other _ _ _ _ _ _
    have plain : c ≠ '\\' := by
      rintro rfl
      exact other rfl
    have text : c.toString.toList = [c] := by simp [Char.toString]
    rw [text, List.singleton_append, unescape_plain plain]
  split
  · rename_i short
    have single : ¬ (55296 ≤ c.toNat ∧ c.toNat < 56320) := by omega
    rw [unescape_unit short single, Char.ofNat_toNat]
  · have leading : 55296 ≤ 55296 + (c.toNat - 65536) / 1024 ∧
        55296 + (c.toNat - 65536) / 1024 < 56320 := by omega
    have short : 56320 + (c.toNat - 65536) % 1024 < 65536 := by omega
    have joined : 65536 + (55296 + (c.toNat - 65536) / 1024 - 55296) * 1024 +
        (56320 + (c.toNat - 65536) % 1024 - 56320) = c.toNat := by omega
    rw [unescape_pair leading short, joined, Char.ofNat_toNat]

/-- `repr` tells finite floats apart and writes them in decimal notation, with a point or an
exponent. -/
structure FaithfulRepr [FloatFormat] : Prop where
  distinct : ∀ x y : PyFloat, x.isFinite = true → y.isFinite = true →
    FloatFormat.repr x = FloatFormat.repr y → x = y
  alphabet : ∀ x : PyFloat, x.isFinite = true → ∀ c ∈ (FloatFormat.repr x).toList,
    c.isDigit = true ∨ c ∈ ['-', '+', '.', 'e']
  decimal : ∀ x : PyFloat, x.isFinite = true → ∃ c ∈ (FloatFormat.repr x).toList, c = '.' ∨ c = 'e'

section Scalars

variable [FloatFormat]

omit [FloatFormat] in
/-- The scalars that are written as a word. -/
def Scalar.isWord : Scalar → Bool
  | .null | .bool _ => true
  | .int _ => false
  | .float x => !x.isFinite

omit [FloatFormat] in
/-- An integer is written with digits and a sign. -/
theorem intDigits (n : ℤ) : ∀ c ∈ (toString n).toList, c.isDigit = true ∨ c = '-' := by
  intro c member
  cases n with
  | ofNat m => exact .inl (natDigits m c member)
  | negSucc m =>
    have text : (toString (Int.negSucc m)).toList = '-' :: (toString (m + 1)).toList := by
      change ("-" ++ toString (m + 1)).toList = _
      rw [String.toList_append]
      rfl
    rw [text, List.mem_cons] at member
    rcases member with sign | member
    · exact .inr sign
    · exact .inl (natDigits (m + 1) c member)

omit [FloatFormat] in
/-- An integer is written without a point and without an exponent. -/
theorem intDigits_free (n : ℤ) : ∀ c ∈ (toString n).toList, c ∉ ['.', 'e'] := by
  have other : ∀ c ∈ ['.', 'e'], ¬ (c.isDigit = true ∨ c = '-') := by simp
  intro c member stop
  exact other c stop (intDigits n c member)

omit [FloatFormat] in
/-- An integer is written with at least one digit. -/
theorem intText_ne_empty (n : ℤ) : toString n ≠ "" := by
  intro empty
  cases n with
  | ofNat m => exact Nat.repr_ne_empty empty
  | negSucc m =>
    have text : toString (Int.negSucc m) = "-" ++ toString (m + 1) := rfl
    rw [text] at empty
    simp at empty

/-- A finite float is written as its `repr`. -/
theorem dumpsFloat_finite {x : PyFloat} (finite : x.isFinite = true) :
    dumpsFloat x = FloatFormat.repr x := by
  cases x <;> first | rfl | contradiction

/-- The characters of numbers. -/
theorem spell_number (faithful : FaithfulRepr) {scalar : Scalar} (number : scalar.isWord = false) :
    ∀ c ∈ scalar.spell, c.isDigit = true ∨ c ∈ ['-', '+', '.', 'e'] := by
  intro c member
  cases scalar with
  | null => contradiction
  | bool => contradiction
  | int n =>
    rcases intDigits n c member with digit | sign
    · exact .inl digit
    · exact .inr (by simp [sign])
  | float x =>
    have finite : x.isFinite = true := by simpa [Scalar.isWord] using number
    rw [Scalar.spell, dumpsFloat_finite finite] at member
    exact faithful.alphabet x finite c member

omit [FloatFormat] in
/-- The scalar that a word stands for. -/
def wordScalar (text : List Char) : Option Scalar :=
  if text = "null".toList then some .null
  else if text = "true".toList then some (.bool true)
  else if text = "false".toList then some (.bool false)
  else if text = "NaN".toList then some (.float .nan)
  else if text = "Infinity".toList then some (.float .posInf)
  else if text = "-Infinity".toList then some (.float .negInf)
  else none

/-- A word is read back. -/
theorem wordScalar_spell {scalar : Scalar} (word : scalar.isWord = true) :
    wordScalar scalar.spell = some scalar := by
  cases scalar with
  | null => rfl
  | bool value => cases value <;> rfl
  | int => contradiction
  | float x =>
    cases x with
    | nan => simp [wordScalar, Scalar.spell, dumpsFloat]
    | posInf => simp [wordScalar, Scalar.spell, dumpsFloat]
    | negInf => simp [wordScalar, Scalar.spell, dumpsFloat]
    | negZero => contradiction
    | finite => contradiction

/-- A word has a letter that no number has. -/
theorem spell_letter_iff (faithful : FaithfulRepr) (scalar : Scalar) :
    (∃ c ∈ scalar.spell, c ∈ ['l', 'r', 'N', 'I']) ↔ scalar.isWord = true := by
  cases kind : scalar.isWord with
  | true =>
    refine iff_of_true ?_ rfl
    cases scalar with
    | null => exact ⟨'l', by simp [Scalar.spell], by simp⟩
    | bool value =>
      cases value with
      | true => exact ⟨'r', by simp [Scalar.spell, dumpsBool], by simp⟩
      | false => exact ⟨'l', by simp [Scalar.spell, dumpsBool], by simp⟩
    | int => contradiction
    | float x =>
      cases x with
      | nan => exact ⟨'N', by simp [Scalar.spell, dumpsFloat], by simp⟩
      | posInf => exact ⟨'I', by simp [Scalar.spell, dumpsFloat], by simp⟩
      | negInf => exact ⟨'I', by simp [Scalar.spell, dumpsFloat], by simp⟩
      | negZero => contradiction
      | finite => contradiction
  | false =>
    refine iff_of_false ?_ (by decide)
    rintro ⟨c, member, letter⟩
    have other : ∀ c ∈ ['l', 'r', 'N', 'I'], ¬ (c.isDigit = true ∨ c ∈ ['-', '+', '.', 'e']) := by
      simp
    exact other c letter (spell_number faithful kind c member)

/-- Of the numbers only the floats have a point or an exponent. -/
theorem spell_decimal_iff (faithful : FaithfulRepr) {scalar : Scalar}
    (number : scalar.isWord = false) :
    (∃ c ∈ scalar.spell, c = '.' ∨ c = 'e') ↔ ∃ x, scalar = .float x := by
  cases scalar with
  | null => contradiction
  | bool => contradiction
  | int n =>
    refine iff_of_false ?_ (by simp)
    rintro ⟨c, member, decimal⟩
    exact intDigits_free n c member (by simpa using decimal)
  | float x =>
    have finite : x.isFinite = true := by simpa [Scalar.isWord] using number
    rw [Scalar.spell, dumpsFloat_finite finite]
    exact iff_of_true (faithful.decimal x finite) ⟨x, rfl⟩

/-- No two scalars are written alike. -/
theorem spell_injective (faithful : FaithfulRepr) {scalar scalar' : Scalar}
    (same : scalar.spell = scalar'.spell) : scalar = scalar' := by
  have kinds : scalar.isWord = scalar'.isWord := by
    rw [Bool.eq_iff_iff, ← spell_letter_iff faithful, ← spell_letter_iff faithful, same]
  cases word : scalar.isWord with
  | true =>
    have read := wordScalar_spell word
    rw [same, wordScalar_spell (kinds ▸ word)] at read
    exact (Option.some.inj read).symm
  | false =>
    rw [word] at kinds
    have decimals := spell_decimal_iff faithful word
    rw [same, spell_decimal_iff faithful kinds.symm] at decimals
    cases scalar with
    | null => contradiction
    | bool => contradiction
    | int n =>
      cases scalar' with
      | null => contradiction
      | bool => contradiction
      | int n' =>
        have digits : toString n = toString n' := String.toList_inj.mp same
        rw [intText_inj digits]
      | float x' => simp at decimals
    | float x =>
      cases scalar' with
      | null => contradiction
      | bool => contradiction
      | int n' => simp at decimals
      | float x' =>
        have finite : x.isFinite = true := by simpa [Scalar.isWord] using word
        have finite' : x'.isFinite = true := by simpa [Scalar.isWord] using kinds.symm
        have reprs : dumpsFloat x = dumpsFloat x' := String.toList_inj.mp same
        rw [dumpsFloat_finite finite, dumpsFloat_finite finite'] at reprs
        rw [faithful.distinct x x' finite finite' reprs]

omit [FloatFormat] in
/-- A word has at least one letter. -/
theorem wordScalar_nil : wordScalar [] = none := by simp [wordScalar]

/-- Every scalar is written with at least one character. -/
theorem spell_ne_nil (faithful : FaithfulRepr) (scalar : Scalar) : scalar.spell ≠ [] := by
  intro empty
  cases word : scalar.isWord with
  | true =>
    have read := wordScalar_spell word
    rw [empty, wordScalar_nil] at read
    contradiction
  | false =>
    cases scalar with
    | null => contradiction
    | bool => contradiction
    | int n => exact intText_ne_empty n (String.toList_eq_nil_iff.mp empty)
    | float x =>
      obtain ⟨c, member, _⟩ := (spell_decimal_iff faithful word).mpr ⟨x, rfl⟩
      rw [empty] at member
      contradiction

/-- A scalar is written without marks. -/
theorem spell_unmarked (faithful : FaithfulRepr) (scalar : Scalar) :
    ∀ c ∈ scalar.spell, c ∉ marks := by
  cases word : scalar.isWord with
  | true =>
    cases scalar with
    | null => simp [Scalar.spell, marks]
    | bool value => cases value <;> simp [Scalar.spell, dumpsBool, marks]
    | int => contradiction
    | float x =>
      cases x with
      | nan => simp [Scalar.spell, dumpsFloat, marks]
      | posInf => simp [Scalar.spell, dumpsFloat, marks]
      | negInf => simp [Scalar.spell, dumpsFloat, marks]
      | negZero => contradiction
      | finite => contradiction
  | false =>
    have marked : ∀ c ∈ marks, ¬ (c.isDigit = true ∨ c ∈ ['-', '+', '.', 'e']) := by simp [marks]
    intro c member mark
    exact marked c mark (spell_number faithful word c member)

omit [FloatFormat] in
/-- An escape is never a closing quote. -/
theorem escapeChar_unquoted (c : Char) (rest rest' : List Char) :
    (escapeChar c).toList ++ rest ≠ '"' :: rest' := by
  intro same
  have quote : (escapeChar '"').toList = ['\\', '"'] := by rfl
  have bare : unescape ('"' :: rest') = some ('"', rest') := unescape_plain (by decide) rest'
  have first := unescape_escapeChar c rest
  rw [same, bare, Option.some.injEq, Prod.mk.injEq] at first
  rw [← first.1, quote] at same
  simp at same

/-- Where `repr` is faithful, what `json.dumps` writes can be read. -/
theorem dumps_lawful (faithful : FaithfulRepr) :
    Lawful Scalar.spell fun c => (escapeChar c).toList where
  spelled := spell_ne_nil faithful
  unmarked := spell_unmarked faithful
  distinct _ _ := spell_injective faithful
  escapes := by
    intro c c' rest rest' same
    have first := unescape_escapeChar c rest
    rw [same, unescape_escapeChar, Option.some.injEq, Prod.mk.injEq] at first
    exact ⟨first.1.symm, first.2.symm⟩
  unquoted := escapeChar_unquoted

end Scalars

/-- Writes integral floats as Python does, and others as a numerator and a denominator. -/
def fractional : PyFloat → String
  | .finite q => toString q.num ++ (if q.den = 1 then "." else "e") ++ toString (q.den - 1)
  | x => positional x

/-- Exact rational arithmetic, with a `repr` that tells all floats apart. -/
@[reducible] def FloatFormat.fractional : FloatFormat :=
  { FloatFormat.exact with repr := Python.fractional }

/-- The parts of the text of a fraction. -/
theorem fractional_finite (q : ℚ) : (fractional (.finite q)).toList =
    (toString q.num).toList ++
      (if q.den = 1 then '.' else 'e') :: (toString (q.den - 1)).toList := by
  rw [fractional, String.toList_append, String.toList_append, List.append_assoc]
  by_cases whole : q.den = 1
  · simp [whole]
  · simp [whole]

/-- What stands before a separator ends there. -/
theorem separated_inj {left right rest rest' : List Char} {c c' : Char}
    (free : ∀ c ∈ left, c ∉ ['.', 'e']) (free' : ∀ c ∈ right, c ∉ ['.', 'e'])
    (separator : c ∈ ['.', 'e']) (separator' : c' ∈ ['.', 'e'])
    (same : left ++ c :: rest = right ++ c' :: rest') : left = right ∧ rest = rest' := by
  have stops : ∀ {first : Char} {others : List Char}, first ∈ ['.', 'e'] →
      ∀ c more, first :: others = c :: more → c ∈ ['.', 'e'] := by
    intro first others stop c more begins
    rwa [← (List.cons.inj begins).1]
  obtain ⟨fronts, rests⟩ := front_inj free free' (stops separator) (stops separator') same
  exact ⟨fronts, (List.cons.inj rests).2⟩

/-- No integer has a negative zero for its digits. -/
theorem intText_ne_negZero (n : ℤ) : toString n ≠ "-0" := by
  intro same
  cases n with
  | ofNat m => exact natText_ne_negText m 0 same
  | negSucc m =>
    have text : toString (Int.negSucc m) = "-" ++ toString (m + 1) := rfl
    have zero : "-0" = "-" ++ toString 0 := rfl
    rw [text, zero, String.append_right_inj] at same
    exact absurd (natText_inj same) (by omega)

/-- A fraction is written with a point or an exponent. -/
theorem fractional_separator (q : ℚ) : (if q.den = 1 then '.' else 'e') ∈ ['.', 'e'] := by
  split
  · simp
  · simp

/-- The text of the negative zero. -/
theorem fractional_negZero :
    (fractional .negZero).toList = "-0".toList ++ '.' :: ['0'] := rfl

/-- No fraction is written as the negative zero. -/
theorem fractional_signed (q : ℚ) : fractional .negZero ≠ fractional (.finite q) := by
  intro same
  rw [← String.toList_inj, fractional_negZero, fractional_finite] at same
  obtain ⟨zero, _⟩ :=
    separated_inj (by simp) (intDigits_free q.num) (by simp) (fractional_separator q) same
  exact intText_ne_negZero q.num (String.toList_inj.mp zero).symm

/-- Fractions with one text are equal. -/
theorem fractional_finite_inj {q q' : ℚ} (same : fractional (.finite q) = fractional (.finite q')) :
    q = q' := by
  have texts := String.toList_inj.mpr same
  rw [fractional_finite, fractional_finite] at texts
  obtain ⟨nums, dens⟩ := separated_inj (intDigits_free q.num) (intDigits_free q'.num)
    (fractional_separator q) (fractional_separator q') texts
  have nums : q.num = q'.num := intText_inj (String.toList_inj.mp nums)
  have dens : q.den - 1 = q'.den - 1 := natText_inj (String.toList_inj.mp dens)
  have pos := q.den_pos
  have pos' := q'.den_pos
  exact Rat.ext nums (by omega)

/-- Finite floats with one text are equal. -/
theorem fractional_distinct {x y : PyFloat} (finite : x.isFinite = true)
    (finite' : y.isFinite = true) (same : fractional x = fractional y) : x = y := by
  cases x with
  | finite q =>
    cases y with
    | finite q' => exact congrArg PyFloat.finite (fractional_finite_inj same)
    | negZero => exact absurd same.symm (fractional_signed q)
    | _ => contradiction
  | negZero =>
    cases y with
    | finite q' => exact absurd same (fractional_signed q')
    | negZero => rfl
    | _ => contradiction
  | _ => contradiction

/-- A finite float is written with digits, a sign, a point or an exponent. -/
theorem fractional_alphabet {x : PyFloat} (finite : x.isFinite = true) {c : Char}
    (member : c ∈ (fractional x).toList) : c.isDigit = true ∨ c ∈ ['-', '+', '.', 'e'] := by
  cases x with
  | finite q =>
    rw [fractional_finite, List.mem_append, List.mem_cons] at member
    rcases member with numerator | mark | denominator
    · cases intDigits _ c numerator with
      | inl digit => exact .inl digit
      | inr sign => exact .inr (by simp [sign])
    · have point := fractional_separator q
      rw [← mark] at point
      exact .inr (by simp_all)
    · exact .inl (natDigits _ c denominator)
  | negZero =>
    rw [fractional_negZero] at member
    revert c
    simp
  | _ => contradiction

/-- A finite float is written with a point or an exponent. -/
theorem fractional_decimal {x : PyFloat} (finite : x.isFinite = true) :
    ∃ c ∈ (fractional x).toList, c = '.' ∨ c = 'e' := by
  cases x with
  | finite q =>
    rw [fractional_finite]
    refine ⟨_, List.mem_append_right _ List.mem_cons_self, ?_⟩
    simpa using fractional_separator q
  | negZero =>
    rw [fractional_negZero]
    exact ⟨'.', by simp, .inl rfl⟩
  | _ => contradiction

/-- Its `repr` is faithful. -/
theorem fractional_faithful : @FaithfulRepr .fractional :=
  @FaithfulRepr.mk .fractional
    (fun _ _ finite finite' same => fractional_distinct finite finite' same)
    (fun _ finite _ member => fractional_alphabet finite member)
    (fun _ finite => fractional_decimal finite)

section SameDocument

variable [FloatFormat]

/-- Two values are written, and as one document. -/
def SameDocument (left right : PyValue) : Prop :=
  ∃ doc, document left = .ok doc ∧ document right = .ok doc

/-- The values of a dict are read one by one. -/
theorem documentValues_eq (entries : List (PyKey × PyValue)) :
    documentValues entries = entries.map fun entry => (entry.1, document entry.2) := by
  induction entries with
  | nil => rfl
  | cons entry rest ih => rw [documentValues, ih, List.map_cons]

/-- The items of a list are read one by one. -/
theorem documentItems_eq (items : List PyValue) : documentItems items = items.mapM document := by
  induction items with
  | nil => rfl
  | cons item rest ih =>
    rw [documentItems, ih, List.mapM_cons]
    rfl

/-- The document of a dict depends on the documents of its values alone. -/
theorem document_record_congr (fields : List (String × PyValue × PyValue))
    (alike : ∀ field ∈ fields, document field.2.1 = document field.2.2) :
    document (.record (fields.map fun field => (field.1, field.2.1))) =
      document (.record (fields.map fun field => (field.1, field.2.2))) := by
  rw [PyValue.record_eq, PyValue.record_eq, document, document, documentValues_eq,
    documentValues_eq]
  simp only [List.map_map]
  refine congrArg documentEntries (List.map_congr_left fun field member => ?_)
  exact congrArg (PyKey.str field.1, ·) (alike field member)

/-- The document of a dict has the members of its sorted entries. -/
theorem document_dict_ok_iff {entries : List (PyKey × PyValue)} {doc : Doc Scalar} :
    document (.dict entries) = .ok doc ↔ ∃ sorted members, sortedEntries entries = .ok sorted ∧
      sorted.mapM (fun entry => documentMember (entry.1, document entry.2)) = .ok members ∧
        .object members = doc := by
  rw [document, documentValues_eq, documentEntries, sortedEntries_map]
  cases sorts : sortedEntries entries with
  | error raised =>
    constructor
    · intro returned
      contradiction
    · rintro ⟨sorted, members, sorts', _⟩
      contradiction
  | ok sorted =>
    have reads : (sorted.map fun entry => (entry.1, document entry.2)).mapM documentMember =
        sorted.mapM fun entry => documentMember (entry.1, document entry.2) := by
      rw [List.mapM_map]
      rfl
    change (((sorted.map fun entry => (entry.1, document entry.2)).mapM documentMember) >>= _) =
      _ ↔ _
    rw [reads, Fallible.bind_ok_iff]
    constructor
    · rintro ⟨members, read, same⟩
      exact ⟨sorted, members, rfl, read, Except.ok.inj same⟩
    · rintro ⟨_, members, ⟨rfl⟩, read, same⟩
      exact ⟨members, read, congrArg Except.ok same⟩

/-- Two entries are read as one member when their keys have one text and their values one
document. -/
theorem documentMember_same_iff (left right : PyKey × PyValue) :
    (∃ member, documentMember (left.1, document left.2) = .ok member ∧
        documentMember (right.1, document right.2) = .ok member) ↔
      (∃ name, dumpsKey left.1 = .ok name ∧ dumpsKey right.1 = .ok name) ∧
        SameDocument left.2 right.2 := by
  constructor
  · rintro ⟨member, read, read'⟩
    obtain ⟨name, named, read⟩ := Fallible.bind_ok_iff.mp read
    obtain ⟨doc, written, read⟩ := Fallible.bind_ok_iff.mp read
    obtain ⟨name', named', read'⟩ := Fallible.bind_ok_iff.mp read'
    obtain ⟨doc', written', read'⟩ := Fallible.bind_ok_iff.mp read'
    obtain ⟨names, docs⟩ := Prod.mk.inj (Except.ok.inj (read.trans read'.symm))
    rw [← String.toList_inj.mp names] at named'
    rw [← docs] at written'
    exact ⟨⟨name, named, named'⟩, doc, written, written'⟩
  · rintro ⟨⟨name, named, named'⟩, doc, written, written'⟩
    refine ⟨(name.toList, doc), ?_, ?_⟩
    · exact Fallible.bind_ok_iff.mpr ⟨name, named, Fallible.bind_ok_iff.mpr ⟨doc, written, rfl⟩⟩
    · exact Fallible.bind_ok_iff.mpr ⟨name, named', Fallible.bind_ok_iff.mpr ⟨doc, written', rfl⟩⟩

/-- Dicts have one document when their sorted entries do, one by one. -/
theorem sameDocument_dict_iff {entries entries' : List (PyKey × PyValue)} :
    SameDocument (.dict entries) (.dict entries') ↔ ∃ sorted sorted',
      sortedEntries entries = .ok sorted ∧ sortedEntries entries' = .ok sorted' ∧
      List.Forall₂ (fun entry entry' =>
        (∃ name, dumpsKey entry.1 = .ok name ∧ dumpsKey entry'.1 = .ok name) ∧
          SameDocument entry.2 entry'.2) sorted sorted' := by
  simp only [← documentMember_same_iff, ← Fallible.mapM_same_iff]
  constructor
  · rintro ⟨doc, left, right⟩
    obtain ⟨sorted, members, sorts, reads, rfl⟩ := document_dict_ok_iff.mp left
    obtain ⟨sorted', members', sorts', reads', same⟩ := document_dict_ok_iff.mp right
    rw [Doc.object.inj same] at reads'
    exact ⟨sorted, sorted', sorts, sorts', members, reads, reads'⟩
  · rintro ⟨sorted, sorted', sorts, sorts', members, reads, reads'⟩
    exact ⟨.object members, document_dict_ok_iff.mpr ⟨sorted, members, sorts, reads, rfl⟩,
      document_dict_ok_iff.mpr ⟨sorted', members, sorts', reads', rfl⟩⟩

/-- Records with the same keys that have one document have it field by field. -/
theorem sameDocument_record (fields : List (String × PyValue × PyValue))
    (same : SameDocument (.record (fields.map fun field => (field.1, field.2.1)))
      (.record (fields.map fun field => (field.1, field.2.2)))) :
    ∀ field ∈ fields, SameDocument field.2.1 field.2.2 := by
  let pairs : List (PyKey × PyValue × PyValue) := fields.map fun field => (.str field.1, field.2)
  have lefts : (fields.map fun field => (field.1, field.2.1)).map
      (fun entry => (PyKey.str entry.1, entry.2)) = pairs.map fun pair => (pair.1, pair.2.1) := by
    simp [pairs]
  have rights : (fields.map fun field => (field.1, field.2.2)).map
      (fun entry => (PyKey.str entry.1, entry.2)) = pairs.map fun pair => (pair.1, pair.2.2) := by
    simp [pairs]
  rw [PyValue.record_eq, PyValue.record_eq, lefts, rights, sameDocument_dict_iff] at same
  obtain ⟨sorted, sorted', sorts, sorts', each⟩ := same
  rw [sortedEntries_map, Fallible.map_ok_iff] at sorts sorts'
  obtain ⟨paired, pairSorts, rfl⟩ := sorts
  obtain ⟨paired', pairSorts', rfl⟩ := sorts'
  rw [pairSorts, Except.ok.injEq] at pairSorts'
  rw [← pairSorts', List.forall₂_map_left_iff, List.forall₂_map_right_iff,
    List.forall₂_same] at each
  intro field member
  have among : (PyKey.str field.1, field.2) ∈ paired :=
    (sortedEntries_perm pairSorts).mem_iff.mpr (List.mem_map_of_mem member)
  exact (each _ among).2

/-- Lists that have one document have it item by item. -/
theorem sameDocument_list {items items' : List PyValue}
    (same : SameDocument (.list items) (.list items')) :
    List.Forall₂ SameDocument items items' := by
  obtain ⟨doc, left, right⟩ := same
  rw [document, documentItems_eq, Fallible.map_ok_iff] at left right
  obtain ⟨docs, reads, rfl⟩ := left
  obtain ⟨docs', reads', arrays⟩ := right
  cases arrays
  exact Fallible.mapM_same_iff.mp ⟨docs, reads, reads'⟩

/-- A number is determined by its document. -/
theorem sameDocument_ofNum {x y : PyNum} (same : SameDocument (.ofNum x) (.ofNum y)) : x = y := by
  obtain ⟨doc, left, right⟩ := same
  cases x with
  | int n =>
    obtain ⟨_, _, rfl⟩ := Fallible.map_ok_iff.mp left
    cases y with
    | int n' =>
      obtain ⟨_, _, equal⟩ := Fallible.map_ok_iff.mp right
      cases equal
      rfl
    | float x' => cases right
  | float x =>
    cases left
    cases y with
    | int n' =>
      obtain ⟨_, _, equal⟩ := Fallible.map_ok_iff.mp right
      cases equal
    | float x' =>
      cases right
      rfl

/-- A text is determined by its document. -/
theorem sameDocument_str {text text' : String} (same : SameDocument (.str text) (.str text')) :
    text = text' := by
  obtain ⟨doc, left, right⟩ := same
  cases left
  have chars : text'.toList = text.toList := Doc.text.inj (Except.ok.inj right)
  exact (String.toList_inj.mp chars).symm

/-- A truth value is determined by its document. -/
theorem sameDocument_bool {value value' : Bool}
    (same : SameDocument (.bool value) (.bool value')) : value = value' := by
  obtain ⟨doc, left, right⟩ := same
  cases left
  cases right
  rfl

/-- Where `repr` is faithful, values that are written alike have one document. -/
theorem sameDocument_of_dumps (faithful : FaithfulRepr) {left right : PyValue} {text : String}
    (written : dumps left = .ok text) (written' : dumps right = .ok text) :
    SameDocument left right := by
  rw [dumps_eq, Fallible.map_ok_iff] at written written'
  obtain ⟨doc, read, rendered⟩ := written
  obtain ⟨doc', read', rendered'⟩ := written'
  have chars : render doc = render doc' := rendered.trans rendered'.symm
  rw [render, render, String.ofList_inj] at chars
  rw [← write_injective (dumps_lawful faithful) chars] at read'
  exact ⟨doc, read, read'⟩

end SameDocument

end Python
