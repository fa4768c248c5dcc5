import Mathlib.Data.List.DropRight
import Mathlib.Tactic.Cases

/-!
# Streaks and windows

Three readings of the end of a list: the run of marked entries that it ends with, its last few
entries, and what a scan from the last entry backwards answers. A counter that is reset by every
unmarked entry and latches at a threshold finds the first block of that many marked entries in
a row; a buffer that is trimmed after every entry holds the last entries of all that were given;
a scan that counts up to a limit answers by the entries before the first that ends it.
-/

namespace Streaks

variable {α : Type*} (marked : α → Bool)

/-- The length of the run of marked entries at the end. -/
def trailing (entries : List α) : ℕ := (entries.rtakeWhile marked).length

/-- Some `n` entries in a row are all marked. -/
def HasBlock (n : ℕ) (entries : List α) : Prop :=
  ∃ before block later, entries = before ++ block ++ later ∧ block.length = n ∧
    ∀ entry ∈ block, marked entry = true

/-- The entry `last` completes the first block of `n` marked entries. -/
def FirstBlock (n : ℕ) (entries : List α) (last : α) : Prop :=
  ∃ before block later, entries = before ++ (block ++ [last]) ++ later ∧
    (block ++ [last]).length = n ∧ (∀ entry ∈ block ++ [last], marked entry = true) ∧
    ¬ HasBlock marked n (before ++ block)

variable {marked}

/-- A run of marked entries at the end is no longer than the trailing one. -/
theorem length_le_trailing (before : List α) {block : List α}
    (all : ∀ entry ∈ block, marked entry = true) :
    block.length ≤ trailing marked (before ++ block) := by
  have reversed : ∀ entry ∈ block.reverse, marked entry = true := by
    intro entry member
    exact all entry (List.mem_reverse.mp member)
  rw [trailing, List.rtakeWhile, List.length_reverse, List.reverse_append,
    List.takeWhile_append_of_pos reversed, List.length_append, List.length_reverse]
  omega

/-- A marked entry extends the trailing run. -/
theorem trailing_marked (entries : List α) {entry : α} (mark : marked entry = true) :
    trailing marked (entries ++ [entry]) = trailing marked entries + 1 := by
  rw [trailing, List.rtakeWhile_concat_pos _ _ _ mark, List.length_append]
  rfl

/-- Any other entry ends it. -/
theorem trailing_unmarked (entries : List α) {entry : α} (mark : marked entry = false) :
    trailing marked (entries ++ [entry]) = 0 := by
  rw [trailing, List.rtakeWhile_concat_neg _ _ _ (Bool.eq_false_iff.mp mark)]
  rfl

/-- A trailing run that is long enough is a block. -/
theorem hasBlock_of_trailing {n : ℕ} {entries : List α} (long : n ≤ trailing marked entries) :
    HasBlock marked n entries := by
  refine ⟨entries.rdropWhile marked ++ (entries.rtakeWhile marked).take
      (trailing marked entries - n), (entries.rtakeWhile marked).drop
      (trailing marked entries - n), [], ?_, ?_, ?_⟩
  · rw [List.append_nil, List.append_assoc, List.take_append_drop,
      List.rdropWhile_append_rtakeWhile]
  · rw [List.length_drop]
    change trailing marked entries - (trailing marked entries - n) = n
    omega
  · intro entry member
    exact List.mem_rtakeWhile_imp (List.mem_of_mem_drop member)

/-- Without a block the trailing run is too short for one. -/
theorem trailing_lt {n : ℕ} {entries : List α} (none_yet : ¬ HasBlock marked n entries) :
    trailing marked entries < n := by
  by_contra long
  exact none_yet (hasBlock_of_trailing (not_lt.mp long))

/-- Later entries leave a block in place. -/
theorem HasBlock.append {n : ℕ} {entries : List α} (block : HasBlock marked n entries)
    (later : List α) : HasBlock marked n (entries ++ later) := by
  obtain ⟨before, run, after, rfl, length, all⟩ := block
  exact ⟨before, run, after ++ later, by rw [List.append_assoc _ after], length, all⟩

/-- A new block is one that the last entry completes. -/
theorem hasBlock_snoc {n : ℕ} {entries : List α} {entry : α}
    (block : HasBlock marked n (entries ++ [entry])) :
    HasBlock marked n entries ∨ n ≤ trailing marked (entries ++ [entry]) := by
  obtain ⟨before, run, after, split, rfl, all⟩ := block
  rcases List.eq_nil_or_concat after with rfl | ⟨after, last, rfl⟩
  · right
    rw [List.append_nil] at split
    rw [split]
    exact length_le_trailing before all
  · left
    rw [List.concat_eq_append, ← List.append_assoc] at split
    have same := List.append_inj_left' split rfl
    exact ⟨before, run, after, same, rfl, all⟩

/-- A block is a trailing run of some beginning. -/
theorem hasBlock_iff {n : ℕ} {entries : List α} :
    HasBlock marked n entries ↔ ∃ past, past <+: entries ∧ n ≤ trailing marked past := by
  constructor
  · rintro ⟨before, block, later, rfl, rfl, all⟩
    exact ⟨before ++ block, List.prefix_append _ _, length_le_trailing before all⟩
  · rintro ⟨past, ⟨later, rfl⟩, long⟩
    exact (hasBlock_of_trailing long).append later

/-- The first block of a list is the first block of every list that it begins. -/
theorem FirstBlock.append {n : ℕ} {entries : List α} {last : α}
    (first : FirstBlock marked n entries last) (later : List α) :
    FirstBlock marked n (entries ++ later) last := by
  obtain ⟨before, block, after, rfl, length, all, none_before⟩ := first
  exact ⟨before, block, after ++ later, by rw [List.append_assoc _ after], length, all,
    none_before⟩

/-- A list with a first block has a block. -/
theorem FirstBlock.hasBlock {n : ℕ} {entries : List α} {last : α}
    (first : FirstBlock marked n entries last) : HasBlock marked n entries := by
  obtain ⟨before, block, after, split, length, all, _⟩ := first
  exact ⟨before, block ++ [last], after, split, length, all⟩

/-- What a counter of marked entries in a row holds. -/
inductive Counter (α : Type*) where
  /-- The length of the current run. -/
  | counting (streak : ℕ)
  /-- The threshold was reached by this entry. -/
  | latched (last : α)

section Count

variable (marked) (threshold : ℕ)

/-- One entry: a marked one extends the run and may latch, any other resets it. -/
def feed : Counter α → α → Counter α
  | .latched last, _ => .latched last
  | .counting streak, entry =>
    if marked entry then
      if threshold ≤ streak + 1 then .latched entry else .counting (streak + 1)
    else .counting 0

/-- The counter after a list of entries. -/
def count (entries : List α) : Counter α := entries.foldl (feed marked threshold) (.counting 0)

/-- A counter is fed the last entry after all the others. -/
theorem count_snoc (entries : List α) (entry : α) :
    count marked threshold (entries ++ [entry]) =
      feed marked threshold (count marked threshold entries) entry :=
  List.foldl_append

variable {threshold}

/-- A marked entry that brings the trailing run to the threshold completes the first block. -/
theorem firstBlock_completed {entries : List α} {entry : α} (mark : marked entry = true)
    (none_yet : ¬ HasBlock marked threshold entries)
    (length : trailing marked entries + 1 = threshold) :
    FirstBlock marked threshold (entries ++ [entry]) entry := by
  refine ⟨entries.rdropWhile marked, entries.rtakeWhile marked, [], ?_, ?_, ?_, ?_⟩
  · rw [List.append_nil, ← List.append_assoc, List.rdropWhile_append_rtakeWhile]
  · rw [List.length_append]
    exact length
  · intro member found
    cases List.mem_append.mp found with
    | inl earlier => exact List.mem_rtakeWhile_imp earlier
    | inr here =>
      rw [List.mem_singleton.mp here]
      exact mark
  · rw [List.rdropWhile_append_rtakeWhile]
    exact none_yet

/-- The counter latches at the entry that completes the first block, and until then holds the
length of the trailing run. -/
theorem count_cases (positive : 1 ≤ threshold) (entries : List α) :
    (∃ last, count marked threshold entries = .latched last ∧
      FirstBlock marked threshold entries last) ∨
    (count marked threshold entries = .counting (trailing marked entries) ∧
      ¬ HasBlock marked threshold entries) := by
  induction entries using List.reverseRecOn with
  | nil =>
    refine .inr ⟨rfl, ?_⟩
    rintro ⟨before, block, later, split, length, _⟩
    have empty := congrArg List.length split
    simp only [List.length_nil, List.length_append] at empty
    omega
  | append_singleton entries entry ih =>
    rw [count_snoc]
    rcases ih with ⟨last, latched, first⟩ | ⟨counting, none_yet⟩
    · left
      rw [latched]
      exact ⟨last, rfl, first.append [entry]⟩
    · have below := trailing_lt none_yet
      rw [counting, feed]
      cases mark : marked entry with
      | false =>
        right
        have ended := trailing_unmarked entries mark
        refine ⟨by rw [ended]; rfl, ?_⟩
        intro block
        rcases hasBlock_snoc block with earlier | long
        · exact none_yet earlier
        · omega
      | true =>
        have extended := trailing_marked entries mark
        rw [if_pos rfl]
        by_cases reached : threshold ≤ trailing marked entries + 1
        · left
          rw [if_pos reached]
          have length : trailing marked entries + 1 = threshold := by omega
          exact ⟨entry, rfl, firstBlock_completed marked mark none_yet length⟩
        · right
          rw [if_neg reached, extended]
          refine ⟨rfl, ?_⟩
          intro block
          rcases hasBlock_snoc block with earlier | long
          · exact none_yet earlier
          · omega

end Count

/-- Of a buffer that holds the last `n` entries and more entries after it, the last `n` are those
of all the entries. -/
theorem rtake_append (n : ℕ) (entries later : List α) :
    (entries.rtake n ++ later).rtake n = (entries ++ later).rtake n := by
  by_cases short : entries.length ≤ n
  · have whole : entries.rtake n = entries := by
      rw [List.rtake, Nat.sub_eq_zero_of_le short, List.drop_zero]
    rw [whole]
  · have kept : (entries.rtake n).length = n := by
      rw [List.rtake, List.length_drop]
      omega
    have dropped : entries.length - n + later.length = (entries ++ later).length - n := by
      rw [List.length_append]
      omega
    have split : entries ++ later =
        entries.take (entries.length - n) ++ (entries.rtake n ++ later) := by
      rw [← List.append_assoc, List.rtake, List.take_append_drop]
    have front : (entries.take (entries.length - n)).length = entries.length - n := by
      rw [List.length_take]
      omega
    calc (entries.rtake n ++ later).rtake n
        = (entries.rtake n ++ later).drop later.length := by
          rw [List.rtake, List.length_append, kept, Nat.add_sub_cancel_left]
      _ = (entries ++ later).drop (entries.length - n + later.length) := by
          conv_rhs => rw [split, List.drop_append, front, Nat.add_sub_cancel_left,
            List.drop_eq_nil_of_le (by omega), List.nil_append]
      _ = (entries ++ later).rtake n := by rw [List.rtake, dropped]

/-- The last `n` entries are as many as there are, up to `n`. -/
theorem rtake_length (n : ℕ) (entries : List α) :
    (entries.rtake n).length = min entries.length n := by
  rw [List.rtake, List.length_drop]
  omega

/-- The trailing run has `n` entries exactly when the last `n` of at least as many are marked. -/
theorem le_trailing_iff {n : ℕ} {entries : List α} :
    n ≤ trailing marked entries ↔
      n ≤ entries.length ∧ ∀ entry ∈ entries.rtake n, marked entry = true := by
  have split : entries.take (entries.length - n) ++ entries.rtake n = entries := by
    rw [List.rtake, List.take_append_drop]
  constructor
  · intro long
    have run : entries.rdropWhile marked ++ entries.rtakeWhile marked = entries :=
      List.rdropWhile_append_rtakeWhile
    have total := congrArg List.length run
    rw [List.length_append] at total
    change _ + trailing marked entries = _ at total
    refine ⟨by omega, ?_⟩
    intro entry member
    apply List.mem_rtakeWhile_imp (l := entries)
    rw [List.rtake] at member
    have inside : entries.drop (entries.length - n) =
        (entries.rtakeWhile marked).drop (trailing marked entries - n) := by
      conv_lhs => rw [← run]
      rw [List.drop_append, List.drop_eq_nil_of_le (by rw [run]; omega), List.nil_append, run]
      congr 1
      omega
    rw [inside] at member
    exact List.mem_of_mem_drop member
  · rintro ⟨enough, all⟩
    have long := length_le_trailing (entries.take (entries.length - n)) all
    rw [split, rtake_length] at long
    omega

/-- A buffer of the last `n` flags has `n` of them set exactly when the trailing run has `n`
entries. -/
theorem count_rtake_iff {n : ℕ} (entries : List α) :
    n ≤ ((entries.map marked).rtake n).count true ↔ n ≤ trailing marked entries := by
  have flags : (entries.map marked).rtake n = (entries.rtake n).map marked := by
    rw [List.rtake, List.rtake, List.length_map, List.map_drop]
  have counted : ((entries.map marked).rtake n).count true = (entries.rtake n).countP marked := by
    rw [flags, List.count, List.countP_map]
    congr 1
    funext entry
    simp
  have length := rtake_length n entries
  have most := List.countP_le_length (p := marked) (l := entries.rtake n)
  rw [counted, le_trailing_iff, ← List.countP_eq_length, length]
  omega

/-- What an entry does to a scan. -/
inductive Mark where
  /-- The scan ends here and passes. -/
  | stop
  /-- The scan ends here and refuses. -/
  | refuse
  /-- The entry is counted. -/
  | count
deriving DecidableEq

/-- What a scan answers. -/
inductive Verdict where
  | passed
  | refused
  | reached
deriving DecidableEq

/-- Count entries up to a limit, until one ends the scan. -/
def tally (limit : ℕ) : ℕ → List Mark → Verdict
  | _, [] => .passed
  | _, .stop :: _ => .passed
  | _, .refuse :: _ => .refused
  | counted, .count :: rest =>
    if limit ≤ counted + 1 then .reached else tally limit (counted + 1) rest

section Tally

variable {limit counted : ℕ}

/-- A scan of no marks passes. -/
@[simp] theorem tally_nil : tally limit counted [] = .passed := by rw [tally]

/-- A scan passes at a mark that ends it. -/
@[simp] theorem tally_stop (rest : List Mark) : tally limit counted (.stop :: rest) = .passed := by
  rw [tally]

/-- A scan refuses at a mark that is refused. -/
@[simp] theorem tally_refuse (rest : List Mark) :
    tally limit counted (.refuse :: rest) = .refused := by
  rw [tally]

/-- Counted entries at the front are counted, below the limit. -/
theorem tally_counted {front : List Mark} (all : ∀ mark ∈ front, mark = .count)
    (below : counted + front.length < limit) (rest : List Mark) :
    tally limit counted (front ++ rest) = tally limit (counted + front.length) rest := by
  induction front generalizing counted with
  | nil => rfl
  | cons mark front ih =>
    rw [List.forall_mem_cons] at all
    rw [List.length_cons] at below ⊢
    rw [all.1, List.cons_append, tally, if_neg (by omega), ih all.2 (by omega)]
    have total : counted + 1 + front.length = counted + (front.length + 1) := by omega
    rw [total]

/-- Enough counted entries at the front reach the limit. -/
theorem tally_reaches {front : List Mark} (all : ∀ mark ∈ front, mark = .count)
    (below : counted < limit) (enough : limit ≤ counted + front.length) (rest : List Mark) :
    tally limit counted (front ++ rest) = .reached := by
  induction front generalizing counted with
  | nil =>
    rw [List.length_nil] at enough
    omega
  | cons mark front ih =>
    rw [List.forall_mem_cons] at all
    rw [List.length_cons] at enough
    rw [all.1, List.cons_append, tally]
    by_cases last : limit ≤ counted + 1
    · rw [if_pos last]
    · rw [if_neg last]
      exact ih all.2 (by omega) (by omega)

/-- A front that is not merely counted below the limit decides the scan. -/
theorem tally_decided {front : List Mark} (below : counted < limit)
    (decides : ¬ ((∀ mark ∈ front, mark = .count) ∧ counted + front.length < limit))
    (rest rest' : List Mark) :
    tally limit counted (front ++ rest) = tally limit counted (front ++ rest') := by
  induction front generalizing counted with
  | nil =>
    refine absurd ⟨?_, ?_⟩ decides
    · intro mark member
      contradiction
    · exact below
  | cons mark front ih =>
    cases mark with
    | stop => rw [List.cons_append, List.cons_append, tally_stop, tally_stop]
    | refuse => rw [List.cons_append, List.cons_append, tally_refuse, tally_refuse]
    | count =>
      rw [List.cons_append, List.cons_append, tally, tally]
      by_cases last : limit ≤ counted + 1
      · rw [if_pos last, if_pos last]
      · rw [if_neg last, if_neg last]
        apply ih (by omega)
        rintro ⟨all, short⟩
        apply decides
        constructor
        · rw [List.forall_mem_cons]
          exact ⟨rfl, all⟩
        · rw [List.length_cons]
          omega

/-- A scan reaches its limit exactly when as many entries as are missing are counted first. -/
theorem tally_reached_iff (below : counted < limit) (marks : List Mark) :
    tally limit counted marks = .reached ↔
      ∃ front rest, marks = front ++ rest ∧ front.length = limit - counted ∧
        ∀ mark ∈ front, mark = .count := by
  constructor
  · intro reached
    induction marks generalizing counted with
    | nil => contradiction
    | cons mark marks ih =>
      cases mark with
      | stop =>
        rw [tally_stop] at reached
        contradiction
      | refuse =>
        rw [tally_refuse] at reached
        contradiction
      | count =>
        rw [tally] at reached
        by_cases last : limit ≤ counted + 1
        · refine ⟨[.count], marks, rfl, ?_, ?_⟩
          · rw [List.length_singleton]
            omega
          · intro mark member
            exact List.mem_singleton.mp member
        · rw [if_neg last] at reached
          obtain ⟨front, rest, rfl, length, all⟩ := ih (by omega) reached
          refine ⟨.count :: front, rest, rfl, ?_, ?_⟩
          · rw [List.length_cons]
            omega
          · rw [List.forall_mem_cons]
            exact ⟨rfl, all⟩
  · rintro ⟨front, rest, rfl, length, all⟩
    exact tally_reaches all below (by omega) rest

/-- A scan from the last entry backwards reaches its limit exactly when the trailing run of counted
entries is as long. -/
theorem tally_reverse_iff (positive : 0 < limit) (mark : α → Mark) (entries : List α) :
    tally limit 0 (entries.reverse.map mark) = .reached ↔
      limit ≤ trailing (fun entry => decide (mark entry = .count)) entries := by
  rw [tally_reached_iff positive, Nat.sub_zero]
  constructor
  · rintro ⟨front, rest, split, rfl, counted⟩
    obtain ⟨newest, older, reversed, rfl, _⟩ := List.map_eq_append_iff.mp split
    have forward : entries = older.reverse ++ newest.reverse := by
      rw [← List.reverse_append, ← reversed, List.reverse_reverse]
    rw [List.length_map, forward, ← List.length_reverse]
    apply length_le_trailing
    intro entry member
    rw [List.mem_reverse] at member
    exact decide_eq_true (counted _ (List.mem_map_of_mem member))
  · intro long
    obtain ⟨enough, counted⟩ := le_trailing_iff.mp long
    refine ⟨(entries.rtake limit).reverse.map mark,
      (entries.take (entries.length - limit)).reverse.map mark, ?_, ?_, ?_⟩
    · rw [← List.map_append, ← List.reverse_append, List.rtake, List.take_append_drop]
    · rw [List.length_map, List.length_reverse, rtake_length]
      omega
    · intro counts member
      obtain ⟨entry, held, rfl⟩ := List.mem_map.mp member
      exact of_decide_eq_true (counted entry (List.mem_reverse.mp held))

/-- A scan that meets no refusing entry does not refuse. -/
theorem tally_not_refused {marks : List Mark} (none_refuses : ∀ mark ∈ marks, mark ≠ .refuse) :
    tally limit counted marks ≠ .refused := by
  induction marks generalizing counted with
  | nil => simp
  | cons mark marks ih =>
    rw [List.forall_mem_cons] at none_refuses
    cases mark with
    | stop => simp
    | refuse => exact absurd rfl none_refuses.1
    | count =>
      rw [tally]
      split
      · simp
      · exact ih none_refuses.2

/-- A mark that ends a scan, with so many entries counted before it, and what it answers. -/
def Ends (limit counted : ℕ) : Mark → Verdict → Prop
  | .stop, verdict => verdict = .passed
  | .refuse, verdict => verdict = .refused
  | .count, verdict => verdict = .reached ∧ limit ≤ counted + 1

/-- A scan counts all entries, too few of them, or counts the entries before one that ends it. -/
theorem tally_cases (below : counted < limit) (marks : List Mark) :
    ((∀ mark ∈ marks, mark = .count) ∧ counted + marks.length < limit ∧
      tally limit counted marks = .passed) ∨
    ∃ front mark rest, marks = front ++ mark :: rest ∧ (∀ mark ∈ front, mark = .count) ∧
      counted + front.length < limit ∧
      Ends limit (counted + front.length) mark (tally limit counted marks) := by
  induction marks generalizing counted with
  | nil => exact .inl ⟨by simp, below, tally_nil⟩
  | cons mark marks ih =>
    cases mark with
    | stop => exact .inr ⟨[], .stop, marks, rfl, by simp, below, tally_stop marks⟩
    | refuse => exact .inr ⟨[], .refuse, marks, rfl, by simp, below, tally_refuse marks⟩
    | count =>
      rw [tally]
      by_cases last : limit ≤ counted + 1
      · rw [if_pos last]
        exact .inr ⟨[], .count, marks, rfl, by simp, below, rfl, last⟩
      · rw [if_neg last, List.forall_mem_cons, List.length_cons]
        rcases ih (not_le.mp last) with ⟨all, few, passed⟩ |
          ⟨front, mark, rest, split, all, few, ends⟩
        · left
          exact ⟨⟨rfl, all⟩, by omega, passed⟩
        · right
          have counts : counted + (Mark.count :: front).length = counted + 1 + front.length := by
            rw [List.length_cons]
            omega
          refine ⟨.count :: front, mark, rest, by rw [split]; rfl, ?_, ?_, ?_⟩
          · rw [List.forall_mem_cons]
            exact ⟨rfl, all⟩
          · rw [counts]
            exact few
          · rw [counts]
            exact ends

end Tally

end Streaks
