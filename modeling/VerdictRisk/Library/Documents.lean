import Mathlib.Data.List.Basic

/-!
# Documents and their texts

A document is a token, a quoted text, an array or an object, and is written with brackets, commas
and colons. How tokens are spelled and how the characters of a text are escaped is left open. Where
spellings differ and keep clear of the marks, and no escape is the beginning of another one, a
document can be read off its text: no two documents are written alike.
-/

namespace Documents

/-- A document. -/
inductive Doc (Token : Type) where
  | token (value : Token)
  | text (chars : List Char)
  | array (items : List (Doc Token))
  | object (members : List (List Char × Doc Token))

/-- The characters that structure a text. -/
def marks : List Char := ['"', ',', '[', ']', '\x7b', '\x7d']

variable {Token : Type} (spell : Token → List Char) (escape : Char → List Char)

/-- What is asked of a spelling: tokens are spelled differently and without marks, and the escape
of a character can be told from whatever may follow it. -/
structure Lawful : Prop where
  spelled : ∀ token, spell token ≠ []
  unmarked : ∀ token, ∀ c ∈ spell token, c ∉ marks
  distinct : ∀ token token', spell token = spell token' → token = token'
  escapes : ∀ c c' rest rest', escape c ++ rest = escape c' ++ rest' → c = c' ∧ rest = rest'
  unquoted : ∀ c rest rest', escape c ++ rest ≠ '"' :: rest'

/-- A text in quotes. -/
def quoted (chars : List Char) : List Char := '"' :: (chars.flatMap escape ++ ['"'])

mutual

/-- The text of a document. -/
def write : Doc Token → List Char
  | .token value => spell value
  | .text chars => quoted escape chars
  | .array items => '[' :: ([','].intercalate (writeItems items) ++ [']'])
  | .object members => '\x7b' :: ([','].intercalate (writeMembers members) ++ ['\x7d'])

/-- The texts of the items of an array. -/
def writeItems : List (Doc Token) → List (List Char)
  | [] => []
  | item :: rest => write item :: writeItems rest

/-- The texts of the members of an object. -/
def writeMembers : List (List Char × Doc Token) → List (List Char)
  | [] => []
  | (key, value) :: rest => (quoted escape key ++ ':' :: write value) :: writeMembers rest

end

variable {spell escape}

/-- The items of an array are written one by one. -/
theorem writeItems_eq (items : List (Doc Token)) :
    writeItems spell escape items = items.map (write spell escape) := by
  induction items with
  | nil => rfl
  | cons item rest ih => rw [writeItems, ih, List.map_cons]

/-- The members of an object are written one by one. -/
theorem writeMembers_eq (members : List (List Char × Doc Token)) :
    writeMembers spell escape members = members.map fun member =>
      quoted escape member.1 ++ ':' :: write spell escape member.2 := by
  induction members with
  | nil => rfl
  | cons member rest ih => rw [writeMembers, ih, List.map_cons]

/-- What may follow a document: nothing, or a mark that ends it. -/
def Ends (rest : List Char) : Prop := ∀ c more, rest = c :: more → c ∈ [',', ']', '\x7d']

/-- What ends a document is a mark. -/
theorem mark_of_end : ∀ c ∈ [',', ']', '\x7d'], c ∈ marks := by simp [marks]

/-- Nothing may follow a document. -/
theorem ends_nil : Ends [] := by
  intro c more same
  contradiction

/-- A comma or a closing bracket may follow a document. -/
theorem ends_cons {c : Char} (mark : c ∈ [',', ']', '\x7d']) (rest : List Char) :
    Ends (c :: rest) := by
  intro first more same
  cases same
  exact mark

/-- The front of a text ends at the first of the characters that stop it. -/
theorem front_inj {stops left right rest rest' : List Char} (free : ∀ c ∈ left, c ∉ stops)
    (free' : ∀ c ∈ right, c ∉ stops) (stopped : ∀ c more, rest = c :: more → c ∈ stops)
    (stopped' : ∀ c more, rest' = c :: more → c ∈ stops) (same : left ++ rest = right ++ rest') :
    left = right ∧ rest = rest' := by
  induction left generalizing right with
  | nil =>
    cases right with
    | nil => exact ⟨rfl, same⟩
    | cons c right => exact absurd (stopped c _ same) (free' c List.mem_cons_self)
  | cons c left ih =>
    cases right with
    | nil => exact absurd (stopped' c _ same.symm) (free c List.mem_cons_self)
    | cons c' right =>
      rw [List.cons_append, List.cons_append, List.cons.injEq] at same
      rw [List.forall_mem_cons] at free free'
      obtain ⟨equal, others⟩ := ih free.2 free'.2 same.2
      exact ⟨by rw [same.1, equal], others⟩

/-- A spelling ends where a mark begins. -/
theorem unmarked_inj {left right rest rest' : List Char} (unmarked : ∀ c ∈ left, c ∉ marks)
    (unmarked' : ∀ c ∈ right, c ∉ marks) (ends : Ends rest) (ends' : Ends rest')
    (same : left ++ rest = right ++ rest') : left = right ∧ rest = rest' := by
  exact front_inj unmarked unmarked' (fun c more begins => mark_of_end c (ends c more begins))
    (fun c more begins => mark_of_end c (ends' c more begins)) same

/-- A quoted text ends at its closing quote. -/
theorem quoted_inj (lawful : Lawful spell escape) {chars chars' rest rest' : List Char}
    (same : quoted escape chars ++ rest = quoted escape chars' ++ rest') :
    chars = chars' ∧ rest = rest' := by
  simp only [quoted, List.cons_append, List.cons.injEq, true_and, List.append_assoc,
    List.nil_append] at same
  induction chars generalizing chars' with
  | nil =>
    cases chars' with
    | nil => exact ⟨rfl, by simpa using same⟩
    | cons c chars' =>
      rw [List.flatMap_cons, List.append_assoc] at same
      exact absurd same.symm (lawful.unquoted c _ _)
  | cons c chars ih =>
    rw [List.flatMap_cons, List.append_assoc] at same
    cases chars' with
    | nil => exact absurd same (lawful.unquoted c _ _)
    | cons c' chars' =>
      rw [List.flatMap_cons, List.append_assoc] at same
      obtain ⟨equal, onward⟩ := lawful.escapes _ _ _ _ same
      obtain ⟨others, after⟩ := ih onward
      exact ⟨by rw [equal, others], after⟩

/-- A document does not begin with a mark that ends one. -/
theorem write_head (lawful : Lawful spell escape) (doc : Doc Token) :
    ∃ c more, write spell escape doc = c :: more ∧ c ∉ [',', ']', '\x7d'] := by
  cases doc with
  | token value =>
    rw [write]
    cases spelled : spell value with
    | nil => exact absurd spelled (lawful.spelled value)
    | cons c more =>
      refine ⟨c, more, rfl, fun ends => lawful.unmarked value c ?_ (mark_of_end c ends)⟩
      rw [spelled]
      exact List.mem_cons_self
  | text chars => exact ⟨'"', _, by rw [write, quoted], by decide⟩
  | array items => exact ⟨'[', _, by rw [write], by decide⟩
  | object members => exact ⟨'\x7b', _, by rw [write], by decide⟩

/-- Texts with a comma before each of them. -/
theorem comma_intercalate (first : List Char) (rest : List (List Char)) :
    ',' :: [','].intercalate (first :: rest) = (first :: rest).flatMap (',' :: ·) := by
  induction rest generalizing first with
  | nil => simp
  | cons second rest ih =>
    rw [List.intercalate_cons_cons, List.flatMap_cons, ← ih second]
    simp

/-- Two lists of texts that do not begin with the closing mark are alike between their brackets
when they are alike with a comma before each text. -/
theorem commas_of_intercalate {texts texts' : List (List Char)} {close : Char}
    {rest rest' : List Char}
    (opened : ∀ text ∈ texts, ∃ c more, text = c :: more ∧ c ≠ close)
    (opened' : ∀ text ∈ texts', ∃ c more, text = c :: more ∧ c ≠ close)
    (same : [','].intercalate texts ++ close :: rest = [','].intercalate texts' ++ close :: rest') :
    texts.flatMap (',' :: ·) ++ close :: rest = texts'.flatMap (',' :: ·) ++ close :: rest' := by
  have begins : ∀ (first : List Char) (others : List (List Char)) (after : List Char),
      (∃ c more, first = c :: more ∧ c ≠ close) →
        [','].intercalate (first :: others) ++ close :: after ≠ close :: rest ∧
          [','].intercalate (first :: others) ++ close :: after ≠ close :: rest' := by
    rintro first others after ⟨c, more, rfl, other⟩
    cases others <;> simp [other]
  cases texts with
  | nil =>
    cases texts' with
    | nil => exact same
    | cons first others =>
      exact absurd same.symm (begins first others rest' (opened' first List.mem_cons_self)).1
  | cons first others =>
    cases texts' with
    | nil => exact absurd same (begins first others rest (opened first List.mem_cons_self)).2
    | cons first' others' =>
      rw [← comma_intercalate, ← comma_intercalate, List.cons_append, List.cons_append, same]

/-- The text of an array's item begins neither with a comma nor with the closing bracket. -/
theorem writeItems_opened (lawful : Lawful spell escape) (items : List (Doc Token)) :
    ∀ text ∈ writeItems spell escape items, ∃ c more, text = c :: more ∧ c ≠ ']' := by
  induction items with
  | nil => simp [writeItems]
  | cons item rest ih =>
    rw [writeItems, List.forall_mem_cons]
    refine ⟨?_, ih⟩
    obtain ⟨c, more, opened, inside⟩ := write_head lawful item
    exact ⟨c, more, opened, fun close => inside (by simp [close])⟩

/-- The text of an object's member begins with a quote. -/
theorem writeMembers_opened (members : List (List Char × Doc Token)) :
    ∀ text ∈ writeMembers spell escape members, ∃ c more, text = c :: more ∧ c ≠ '\x7d' := by
  induction members with
  | nil => simp [writeMembers]
  | cons member rest ih =>
    obtain ⟨key, value⟩ := member
    rw [writeMembers, List.forall_mem_cons]
    exact ⟨⟨'"', _, by rw [quoted, List.cons_append], by decide⟩, ih⟩

mutual

/-- A document can be read off the front of a text: what follows it begins after its end. -/
theorem write_inj (lawful : Lawful spell escape) (doc doc' : Doc Token)
    {rest rest' : List Char} (ends : Ends rest)
    (ends' : Ends rest')
    (same : write spell escape doc ++ rest = write spell escape doc' ++ rest') :
    doc = doc' ∧ rest = rest' := by
  have quote : '"' ∈ marks := by decide
  have bracket : '[' ∈ marks := by decide
  have brace : '\x7b' ∈ marks := by decide
  have token_other : ∀ (value : Token) (c : Char) (more after : List Char), c ∈ marks →
      spell value ++ after ≠ c :: more := by
    intro value c more after mark alike
    cases spelled : spell value with
    | nil => exact absurd spelled (lawful.spelled value)
    | cons first others =>
      rw [spelled, List.cons_append, List.cons.injEq] at alike
      refine lawful.unmarked value c ?_ mark
      rw [spelled, alike.1]
      exact List.mem_cons_self
  cases doc with
  | token value =>
    cases doc' with
    | token value' =>
      obtain ⟨equal, after⟩ := unmarked_inj (lawful.unmarked value) (lawful.unmarked value')
        ends ends' same
      exact ⟨by rw [lawful.distinct value value' equal], after⟩
    | text chars' => exact absurd same (token_other value _ _ rest quote)
    | array items' => exact absurd same (token_other value _ _ rest bracket)
    | object members' => exact absurd same (token_other value _ _ rest brace)
  | text chars =>
    cases doc' with
    | token value' => exact absurd same.symm (token_other value' _ _ rest' quote)
    | text chars' =>
      obtain ⟨equal, after⟩ := quoted_inj lawful same
      exact ⟨by rw [equal], after⟩
    | array items' => simp [write, quoted] at same
    | object members' => simp [write, quoted] at same
  | array items =>
    cases doc' with
    | token value' => exact absurd same.symm (token_other value' _ _ rest' bracket)
    | text chars' => simp [write, quoted] at same
    | array items' =>
      simp only [write, List.cons_append, List.cons.injEq, true_and, List.append_assoc,
        List.nil_append] at same
      obtain ⟨equal, after⟩ := writeItems_inj lawful items items' (commas_of_intercalate
        (writeItems_opened lawful items) (writeItems_opened lawful items') same)
      exact ⟨by rw [equal], after⟩
    | object members' => simp [write] at same
  | object members =>
    cases doc' with
    | token value' => exact absurd same.symm (token_other value' _ _ rest' brace)
    | text chars' => simp [write, quoted] at same
    | array items' => simp [write] at same
    | object members' =>
      simp only [write, List.cons_append, List.cons.injEq, true_and, List.append_assoc,
        List.nil_append] at same
      obtain ⟨equal, after⟩ := writeMembers_inj lawful members members' (commas_of_intercalate
        (writeMembers_opened members) (writeMembers_opened members') same)
      exact ⟨by rw [equal], after⟩

/-- The items of an array can be read up to its closing bracket. -/
theorem writeItems_inj (lawful : Lawful spell escape) (items items' : List (Doc Token))
    {rest rest' : List Char}
    (same : (writeItems spell escape items).flatMap (',' :: ·) ++ ']' :: rest =
      (writeItems spell escape items').flatMap (',' :: ·) ++ ']' :: rest') :
    items = items' ∧ rest = rest' := by
  have follows : ∀ (more : List (Doc Token)) (after : List Char),
      Ends ((writeItems spell escape more).flatMap (',' :: ·) ++ ']' :: after) := by
    intro more after
    cases more with
    | nil => exact ends_cons (by decide) _
    | cons item more => exact ends_cons (by decide) _
  cases items with
  | nil =>
    cases items' with
    | nil => exact ⟨rfl, (List.cons.inj same).2⟩
    | cons item' others' => exact absurd (List.cons.inj same).1 (by decide)
  | cons item others =>
    cases items' with
    | nil => exact absurd (List.cons.inj same).1 (by decide)
    | cons item' others' =>
      simp only [writeItems, List.flatMap_cons, List.cons_append, List.cons.injEq, true_and,
        List.append_assoc] at same
      obtain ⟨equal, onward⟩ := write_inj lawful item item' (follows others rest)
        (follows others' rest') same
      obtain ⟨equals, after⟩ := writeItems_inj lawful others others' onward
      exact ⟨by rw [equal, equals], after⟩

/-- The members of an object can be read up to its closing brace. -/
theorem writeMembers_inj (lawful : Lawful spell escape)
    (members members' : List (List Char × Doc Token)) {rest rest' : List Char}
    (same : (writeMembers spell escape members).flatMap (',' :: ·) ++ '\x7d' :: rest =
      (writeMembers spell escape members').flatMap (',' :: ·) ++ '\x7d' :: rest') :
    members = members' ∧ rest = rest' := by
  have follows : ∀ (more : List (List Char × Doc Token)) (after : List Char),
      Ends ((writeMembers spell escape more).flatMap (',' :: ·) ++ '\x7d' :: after) := by
    intro more after
    cases more with
    | nil => exact ends_cons (by decide) _
    | cons member more => exact ends_cons (by decide) _
  cases members with
  | nil =>
    cases members' with
    | nil => exact ⟨rfl, (List.cons.inj same).2⟩
    | cons member' others' => exact absurd (List.cons.inj same).1 (by decide)
  | cons member others =>
    obtain ⟨key, value⟩ := member
    cases members' with
    | nil => exact absurd (List.cons.inj same).1 (by decide)
    | cons member' others' =>
      obtain ⟨key', value'⟩ := member'
      simp only [writeMembers, List.flatMap_cons, List.cons_append, List.cons.injEq, true_and,
        List.append_assoc] at same
      obtain ⟨named, onward⟩ := quoted_inj lawful same
      obtain ⟨equal, onward⟩ := write_inj lawful value value' (follows others rest)
        (follows others' rest') (List.cons.inj onward).2
      obtain ⟨equals, after⟩ := writeMembers_inj lawful others others' onward
      exact ⟨by rw [named, equal, equals], after⟩

end

/-- No two documents are written alike. -/
theorem write_injective (lawful : Lawful spell escape) {doc doc' : Doc Token}
    (same : write spell escape doc = write spell escape doc') : doc = doc' :=
  (write_inj lawful doc doc' ends_nil ends_nil (by rw [same])).1

end Documents
