import VerdictRisk.Library.MemberWise
import VerdictRisk.Python.Documents

/-!
# Values that are written alike

When two values have one document, said of the values: scalars are of one type and one sign, what
JSON does not have is of one `str`, sequences are alike item by item, and dicts have keys of one
text and alike values in the order of their keys.
-/

namespace Python

section Shapes

/-- The scalar of JSON that a value is, where its digits can be written. -/
def PyValue.scalar : PyValue → Option Scalar
  | .none => some .null
  | .bool value => some (.bool value)
  | .int n => if n.natAbs < textLimit then some (.int n) else Option.none
  | .float x => some (.float x)
  | _ => Option.none

/-- The text of a string, or of what JSON does not have. -/
def PyValue.quotedText : PyValue → Option String
  | .str text | .mapping _ text | .object text => some text
  | _ => Option.none

/-- The items of a list or a tuple. -/
def PyValue.items : PyValue → Option (List PyValue)
  | .list items | .tuple items => some items
  | _ => Option.none

end Shapes

variable [FloatFormat]

/-- Two values are written alike. -/
inductive Alike : PyValue → PyValue → Prop
  | scalar {left right : PyValue} {value : Scalar} : left.scalar = some value →
      right.scalar = some value → Alike left right
  | text {left right : PyValue} {text : String} : left.quotedText = some text →
      right.quotedText = some text → Alike left right
  | items {left right : PyValue} {lefts rights : List PyValue} : left.items = some lefts →
      right.items = some rights → List.Forall₂ Alike lefts rights → Alike left right
  | members {left right lefts rights : List (PyKey × PyValue)} {names : List String} :
      sortedEntries left = .ok lefts → sortedEntries right = .ok rights →
      (lefts.map Prod.fst).mapM dumpsKey = .ok names →
      (rights.map Prod.fst).mapM dumpsKey = .ok names →
      List.Forall₂ Alike (lefts.map Prod.snd) (rights.map Prod.snd) →
      Alike (.dict left) (.dict right)

open Documents

/-- Of a dict no document is read but an object. -/
theorem document_dict_ne {entries : List (PyKey × PyValue)} {doc : Doc Scalar}
    (other : ∀ members, doc ≠ .object members) : document (.dict entries) ≠ .ok doc := by
  intro returned
  obtain ⟨_, members, _, _, same⟩ := document_dict_ok_iff.mp returned
  exact other members same.symm

/-- A token is the document of a scalar. -/
theorem document_token_iff {value : PyValue} {scalar : Scalar} :
    document value = .ok (.token scalar) ↔ value.scalar = some scalar := by
  cases value with
  | int n =>
    unfold document intText PyValue.scalar
    by_cases short : n.natAbs < textLimit
    · simp [short, Except.map]
    · simp [short, Except.map]
  | list | tuple => simp [document, PyValue.scalar, Fallible.map_ok_iff]
  | dict entries => exact iff_of_false (document_dict_ne (by simp)) (by simp [PyValue.scalar])
  | _ => simp [document, PyValue.scalar]

/-- A text is the document of a string, or of what JSON does not have. -/
theorem document_text_iff {value : PyValue} {chars : List Char} :
    document value = .ok (.text chars) ↔
      ∃ text, value.quotedText = some text ∧ text.toList = chars := by
  cases value with
  | int | list | tuple => simp [document, PyValue.quotedText, Fallible.map_ok_iff]
  | dict entries => exact iff_of_false (document_dict_ne (by simp)) (by simp [PyValue.quotedText])
  | _ => simp [document, PyValue.quotedText]

/-- An array is the document of a sequence. -/
theorem document_array_iff {value : PyValue} {docs : List (Doc Scalar)} :
    document value = .ok (.array docs) ↔
      ∃ items, value.items = some items ∧ items.mapM document = .ok docs := by
  cases value with
  | int => simp [document, PyValue.items, Fallible.map_ok_iff]
  | list | tuple => simp [document, PyValue.items, Fallible.map_ok_iff, documentItems_eq]
  | dict entries => exact iff_of_false (document_dict_ne (by simp)) (by simp [PyValue.items])
  | _ => simp [document, PyValue.items]

/-- An object is the document of a dict. -/
theorem document_object {value : PyValue} {members : List (List Char × Doc Scalar)}
    (written : document value = .ok (.object members)) : ∃ entries, value = .dict entries := by
  cases value with
  | dict entries => exact ⟨entries, rfl⟩
  | int | list | tuple =>
    rw [document, Fallible.map_ok_iff] at written
    obtain ⟨_, _, same⟩ := written
    cases same
  | _ => cases written

omit [FloatFormat] in
/-- The items of a value are smaller than the value. -/
theorem items_smaller {value item : PyValue} {items : List PyValue}
    (sequence : value.items = some items) (member : item ∈ items) : sizeOf item < sizeOf value := by
  have within := List.sizeOf_lt_of_mem member
  cases value with
  | list | tuple =>
    cases sequence
    simp
    omega
  | _ => contradiction

omit [FloatFormat] in
/-- The values of a dict are smaller than the dict. -/
theorem members_smaller {entries : List (PyKey × PyValue)} {entry : PyKey × PyValue}
    (member : entry ∈ entries) : sizeOf entry.2 < sizeOf (PyValue.dict entries) := by
  have within := List.sizeOf_lt_of_mem member
  obtain ⟨key, value⟩ := entry
  simp at within ⊢
  omega

omit [FloatFormat] in
/-- Lists are related alike by relations that agree on the members of the first. -/
theorem forall₂_congr_mem {related related' : PyValue → PyValue → Prop} {lefts : List PyValue}
    (agree : ∀ left ∈ lefts, ∀ right, related left right ↔ related' left right)
    (rights : List PyValue) : List.Forall₂ related lefts rights ↔
      List.Forall₂ related' lefts rights := by
  induction lefts generalizing rights with
  | nil => simp
  | cons left rest ih =>
    rw [List.forall_mem_cons] at agree
    simp only [List.forall₂_cons_left_iff, agree.1, ih agree.2]

/-- Dicts have one document when the texts of their sorted keys are the same and their values have
one document. -/
theorem sameDocument_members_iff {entries entries' : List (PyKey × PyValue)} :
    SameDocument (.dict entries) (.dict entries') ↔ ∃ sorted sorted' names,
      sortedEntries entries = .ok sorted ∧ sortedEntries entries' = .ok sorted' ∧
      ((sorted.map Prod.fst).mapM dumpsKey = .ok names ∧
        (sorted'.map Prod.fst).mapM dumpsKey = .ok names) ∧
      List.Forall₂ SameDocument (sorted.map Prod.snd) (sorted'.map Prod.snd) := by
  rw [sameDocument_dict_iff]
  refine exists_congr fun sorted => exists_congr fun sorted' => ?_
  rw [MemberWise.forall₂_and, List.forall₂_map_left_iff, List.forall₂_map_right_iff]
  have names := @Fallible.mapM_same_iff _ _ _ _ dumpsKey dumpsKey (sorted.map Prod.fst)
    (sorted'.map Prod.fst)
  rw [List.forall₂_map_left_iff, List.forall₂_map_right_iff] at names
  rw [← names]
  constructor
  · rintro ⟨sorts, sorts', ⟨names, keys⟩, values⟩
    exact ⟨names, sorts, sorts', keys, values⟩
  · rintro ⟨names, sorts, sorts', keys, values⟩
    exact ⟨sorts, sorts', ⟨names, keys⟩, values⟩

/-- Values have one document exactly when they are written alike. -/
theorem sameDocument_iff_alike (left right : PyValue) :
    SameDocument left right ↔ Alike left right := by
  have itemwise : ∀ lefts, left.items = some lefts → ∀ rights,
      List.Forall₂ SameDocument lefts rights ↔ List.Forall₂ Alike lefts rights := by
    intro lefts sequence
    exact forall₂_congr_mem fun item member other => sameDocument_iff_alike item other
  have memberwise : ∀ entries sorted, left = .dict entries → sortedEntries entries = .ok sorted →
      ∀ values, List.Forall₂ SameDocument (sorted.map Prod.snd) values ↔
        List.Forall₂ Alike (sorted.map Prod.snd) values := by
    intro entries sorted dict sorts
    apply forall₂_congr_mem
    intro value member other
    have smaller : sizeOf value < sizeOf left := by
      obtain ⟨entry, among, same⟩ := List.mem_map.mp member
      rw [dict, ← same]
      exact members_smaller ((sortedEntries_perm sorts).mem_iff.mp among)
    exact sameDocument_iff_alike value other
  constructor
  · rintro ⟨doc, written, written'⟩
    cases doc with
    | token scalar =>
      exact .scalar (document_token_iff.mp written) (document_token_iff.mp written')
    | text chars =>
      obtain ⟨text, shape, same⟩ := document_text_iff.mp written
      obtain ⟨text', shape', same'⟩ := document_text_iff.mp written'
      rw [← String.toList_inj.mp (same.trans same'.symm)] at shape'
      exact .text shape shape'
    | array docs =>
      obtain ⟨lefts, sequence, reads⟩ := document_array_iff.mp written
      obtain ⟨rights, sequence', reads'⟩ := document_array_iff.mp written'
      refine .items sequence sequence' ((itemwise lefts sequence rights).mp ?_)
      exact Fallible.mapM_same_iff.mp ⟨docs, reads, reads'⟩
    | object members =>
      obtain ⟨entries, rfl⟩ := document_object written
      obtain ⟨entries', rfl⟩ := document_object written'
      obtain ⟨sorted, sorted', names, sorts, sorts', ⟨keys, keys'⟩, values⟩ :=
        sameDocument_members_iff.mp ⟨_, written, written'⟩
      exact .members sorts sorts' keys keys' ((memberwise entries sorted rfl sorts _).mp values)
  · intro alike
    cases alike with
    | scalar shape shape' =>
      exact ⟨_, document_token_iff.mpr shape, document_token_iff.mpr shape'⟩
    | text shape shape' =>
      exact ⟨_, document_text_iff.mpr ⟨_, shape, rfl⟩, document_text_iff.mpr ⟨_, shape', rfl⟩⟩
    | items sequence sequence' each =>
      obtain ⟨docs, reads, reads'⟩ :=
        Fallible.mapM_same_iff.mpr ((itemwise _ sequence _).mpr each)
      exact ⟨.array docs, document_array_iff.mpr ⟨_, sequence, reads⟩,
        document_array_iff.mpr ⟨_, sequence', reads'⟩⟩
    | members sorts sorts' keys keys' values =>
      exact sameDocument_members_iff.mpr ⟨_, _, _, sorts, sorts', ⟨keys, keys'⟩,
        (memberwise _ _ rfl sorts _).mpr values⟩
termination_by sizeOf left
decreasing_by
  · exact items_smaller sequence member
  · exact smaller

end Python
