import VerdictRisk.Library.StableOrder
import VerdictRisk.Library.Streaks

/-!
# Backward scans of stable orders

Entries are put in the stable order of their keys and scanned from the last one, by a mark of
each. The order in which the entries of one key were given decides which of them the scan meets
first. So a scan can give exactly the answers of the levels that it gets to, in some order of the
entries each.
-/

namespace Scans

open Streaks

variable {α ι : Type*} [LinearOrder ι] (key : α → ι) (mark : α → Mark) (limit : ℕ)

/-- The verdict of the scan from the last entry. -/
def scan (order : List α) : Verdict := tally limit 0 (order.reverse.map mark)

/-- The entries after a level. -/
def after (entries : List α) (k : ι) : List α := entries.filter fun entry => k < key entry

/-- The entries of a level. -/
def level (entries : List α) (k : ι) : List α := entries.filter fun entry => key entry = k

/-- The scan gets to a level: it counts all entries after it, and not enough of them. -/
structure Reaches (entries : List α) (k : ι) : Prop where
  later : ∀ entry ∈ after key entries k, mark entry = .count
  few : (after key entries k).length < limit

/-- The mark that a verdict comes from. -/
def ending : Verdict → Mark
  | .passed => .stop
  | .refused => .refuse
  | .reached => .count

/-- A level that the scan gets to can end it with this verdict: it has an entry of that mark, and
for the limit as many counted ones as are missing. -/
def LevelEnds (entries : List α) (k : ι) (verdict : Verdict) : Prop :=
  (∃ entry ∈ level key entries k, mark entry = ending verdict) ∧
    (verdict = .reached → limit ≤ (after key entries k).length +
      (level key entries k).countP fun entry => mark entry = .count)

/-- The scan can answer with this verdict: a level that it gets to can, or it counts all entries,
too few of them. -/
inductive Answers (entries : List α) : Verdict → Prop
  | ended {k : ι} {verdict : Verdict} (reaches : Reaches key mark limit entries k)
      (ends : LevelEnds key mark limit entries k verdict) : Answers entries verdict
  | exhausted (all : ∀ entry ∈ entries, mark entry = .count) (few : entries.length < limit) :
      Answers entries .passed

/-- The entries, with those of one mark in a level moved to the end. -/
def moved (entries : List α) (k : ι) (wanted : Mark) : List α :=
  entries.filter (fun entry => !(decide (key entry = k) && decide (mark entry = wanted))) ++
    entries.filter fun entry => decide (key entry = k) && decide (mark entry = wanted)

variable {key mark limit}

/-- In a sorted list, an entry is followed by what is left of its level and what comes after. -/
theorem follows {older newest : List α} {entry : α}
    (sorted : (older ++ entry :: newest).Pairwise fun first second => key first ≤ key second) :
    after key (older ++ entry :: newest) (key entry) =
        newest.filter (fun other => key entry < key other) ∧
      newest.length = (after key (older ++ entry :: newest) (key entry)).length +
        (level key newest (key entry)).length := by
  rw [List.pairwise_append, List.pairwise_cons] at sorted
  have none_older : older.filter (fun other => key entry < key other) = [] := by
    rw [List.filter_eq_nil_iff]
    intro other member
    simpa using sorted.2.2 other member entry List.mem_cons_self
  have later : after key (older ++ entry :: newest) (key entry) =
      newest.filter fun other => key entry < key other := by
    rw [after, List.filter_append, none_older, List.filter_cons_of_neg (by simp), List.nil_append]
  have tied : newest.filter (fun other => !decide (key entry < key other)) =
      level key newest (key entry) := by
    apply List.filter_congr
    intro other member
    have ordered := sorted.2.1.1 other member
    rw [Bool.eq_iff_iff, Bool.not_eq_true', decide_eq_false_iff_not, decide_eq_true_eq, not_lt]
    exact ⟨fun under => le_antisymm under ordered, le_of_eq⟩
  have whole := (List.filter_append_perm (fun other => key entry < key other) newest).length_eq
  rw [tied, List.length_append] at whole
  rw [later]
  exact ⟨rfl, whole.symm⟩

/-- Permuted entries let the scan get to the same levels. -/
theorem Reaches.perm {entries entries' : List α} {k : ι}
    (reaches : Reaches key mark limit entries k) (permuted : entries.Perm entries') :
    Reaches key mark limit entries' k := by
  have same : (after key entries k).Perm (after key entries' k) := permuted.filter _
  constructor
  · intro entry member
    exact reaches.later entry (same.mem_iff.mpr member)
  · rw [← same.length_eq]
    exact reaches.few

/-- A level of permuted entries can end the scan with the same verdicts. -/
theorem LevelEnds.perm {entries entries' : List α} {k : ι} {verdict : Verdict}
    (ends : LevelEnds key mark limit entries k verdict) (permuted : entries.Perm entries') :
    LevelEnds key mark limit entries' k verdict := by
  have later : (after key entries k).Perm (after key entries' k) := permuted.filter _
  have here : (level key entries k).Perm (level key entries' k) := permuted.filter _
  obtain ⟨⟨entry, member, marked⟩, enough⟩ := ends
  constructor
  · exact ⟨entry, here.mem_iff.mp member, marked⟩
  · rw [← later.length_eq, ← here.countP_eq]
    exact enough

/-- The scan can give the same answers on permuted entries. -/
theorem Answers.perm {entries entries' : List α} {verdict : Verdict}
    (answers : Answers key mark limit entries verdict) (permuted : entries.Perm entries') :
    Answers key mark limit entries' verdict := by
  cases answers with
  | ended reaches ends => exact .ended (reaches.perm permuted) (ends.perm permuted)
  | exhausted all few =>
    rw [permuted.length_eq] at few
    exact .exhausted (fun entry member => all entry (permuted.mem_iff.mpr member)) few

/-- A mark that ends a scan is the one that its verdict comes from. -/
theorem ending_of_ends {counted : ℕ} {last : Mark} {verdict : Verdict}
    (ends : Ends limit counted last verdict) : last = ending verdict := by
  cases last with
  | stop => rw [show verdict = .passed from ends, ending]
  | refuse => rw [show verdict = .refused from ends, ending]
  | count => rw [show verdict = .reached from ends.1, ending]

/-- A scan that reaches its limit has counted enough entries. -/
theorem enough_of_ends {counted : ℕ} {last : Mark} (ends : Ends limit counted last .reached) :
    last = .count ∧ limit ≤ counted + 1 := by
  have counts : last = .count := ending_of_ends ends
  rw [counts] at ends
  exact ⟨counts, ends.2⟩

section Met

variable {older newest : List α} {entry : α}
variable (sorted : (older ++ entry :: newest).Pairwise fun first second => key first ≤ key second)
variable (counted : ∀ other ∈ newest, mark other = .count)

include counted

/-- An entry that is counted is counted in its level after those that the scan met before it. -/
theorem level_counted (counts : mark entry = .count) :
    (level key newest (key entry)).length + 1 ≤
      (level key (older ++ entry :: newest) (key entry)).countP fun other =>
        mark other = .count := by
  have met : (level key newest (key entry)).countP (fun other => mark other = .count) =
      (level key newest (key entry)).length := by
    rw [List.countP_eq_length]
    intro other member
    simpa using counted other (List.mem_filter.mp member).1
  have around : level key (older ++ entry :: newest) (key entry) = level key older (key entry) ++
      entry :: level key newest (key entry) := by
    rw [level, List.filter_append, List.filter_cons_of_pos (by simp)]
    rfl
  rw [around, List.countP_append, List.countP_cons_of_pos (by simpa using counts), met]
  omega

include sorted

/-- The scan gets to the level of an entry before which it counts too few. -/
theorem reaches_met (few : newest.length < limit) :
    Reaches key mark limit (older ++ entry :: newest) (key entry) := by
  obtain ⟨later, parts⟩ := follows sorted
  constructor
  · intro other member
    rw [later] at member
    exact counted other (List.mem_filter.mp member).1
  · omega

/-- The level of an entry that ends the scan can end it. -/
theorem levelEnds_met {verdict : Verdict}
    (ends : Ends limit newest.length (mark entry) verdict) :
    LevelEnds key mark limit (older ++ entry :: newest) (key entry) verdict := by
  have here : entry ∈ level key (older ++ entry :: newest) (key entry) := by
    simp [level]
  constructor
  · exact ⟨entry, here, ending_of_ends ends⟩
  · intro reached
    rw [reached] at ends
    obtain ⟨counts, enough⟩ := enough_of_ends ends
    have parts := (follows sorted).2
    have held : (level key newest (key entry)).length + 1 ≤
        (level key (older ++ entry :: newest) (key entry)).countP fun other =>
          mark other = .count := level_counted counted counts
    omega

end Met

/-- The verdict of a scan of a sorted list is one that it can answer with. -/
theorem sorted_answers (positive : 0 < limit) {order : List α}
    (sorted : order.Pairwise fun first second => key first ≤ key second) :
    Answers key mark limit order (scan mark limit order) := by
  rcases tally_cases positive (order.reverse.map mark) with ⟨all, few, passed⟩ |
    ⟨front, last, rest, split, counted, few, ends⟩
  · rw [scan, passed]
    rw [List.length_map, List.length_reverse, Nat.zero_add] at few
    refine .exhausted ?_ few
    intro entry member
    apply all
    apply List.mem_map_of_mem
    exact List.mem_reverse.mpr member
  · obtain ⟨newest, tail, reversed, same, cut⟩ := List.map_eq_append_iff.mp split
    obtain ⟨entry, older, tail_eq, marked, _⟩ := List.map_eq_cons_iff.mp cut
    have forward : order = older.reverse ++ entry :: newest.reverse := by
      rw [← List.reverse_reverse order, reversed, tail_eq, List.reverse_append, List.reverse_cons,
        List.append_assoc]
      rfl
    have met : ∀ other ∈ newest.reverse, mark other = .count := by
      intro other member
      apply counted
      rw [← same]
      exact List.mem_map_of_mem (List.mem_reverse.mp member)
    have size : front.length = newest.reverse.length := by
      rw [← same, List.length_map, List.length_reverse]
    rw [Nat.zero_add, size] at few ends
    rw [← marked] at ends
    rw [forward] at sorted ends ⊢
    exact .ended (reaches_met sorted met few) (levelEnds_met sorted met ends)

/-- The verdict of a scan is one that it can answer with. -/
theorem scan_answers (positive : 0 < limit) {entries order : List α}
    (stable : StableOrder key entries order) :
    Answers key mark limit entries (scan mark limit order) :=
  (sorted_answers positive stable.sorted).perm stable.perm

/-- Marks that agree on the entries after a level let the scan get to it alike. -/
theorem Reaches.congr {mark' : α → Mark} {entries : List α} {k : ι}
    (reaches : Reaches key mark limit entries k)
    (same : ∀ entry ∈ after key entries k, mark entry = mark' entry) :
    Reaches key mark' limit entries k := by
  refine ⟨?_, reaches.few⟩
  intro entry member
  rw [← same entry member]
  exact reaches.later entry member

/-- Marks that agree on a level can end the scan there alike. -/
theorem LevelEnds.congr {mark' : α → Mark} {entries : List α} {k : ι} {verdict : Verdict}
    (ends : LevelEnds key mark limit entries k verdict)
    (same : ∀ entry ∈ level key entries k, mark entry = mark' entry) :
    LevelEnds key mark' limit entries k verdict := by
  obtain ⟨⟨entry, member, marked⟩, enough⟩ := ends
  constructor
  · refine ⟨entry, member, ?_⟩
    rw [← same entry member]
    exact marked
  · intro reached
    have counts : (level key entries k).countP (fun entry => mark' entry = .count) =
        (level key entries k).countP fun entry => mark entry = .count := by
      apply List.countP_congr
      intro other held
      rw [same other held]
    rw [counts]
    exact enough reached

/-- Marks that agree on a level move its entries alike. -/
theorem moved_congr {mark' : α → Mark} {entries : List α} {k : ι} {wanted : Mark}
    (same : ∀ entry ∈ level key entries k, mark entry = mark' entry) :
    moved key mark entries k wanted = moved key mark' entries k wanted := by
  have agree : ∀ entry ∈ entries, (decide (key entry = k) && decide (mark entry = wanted)) =
      (decide (key entry = k) && decide (mark' entry = wanted)) := by
    intro entry member
    by_cases here : key entry = k
    · rw [same entry (List.mem_filter.mpr ⟨member, by simpa using here⟩)]
    · simp [here]
  unfold moved
  rw [List.filter_congr agree]
  congr 1
  apply List.filter_congr
  intro entry member
  rw [agree entry member]

variable (key mark) in
/-- Moved entries are the same ones. -/
theorem moved_perm (entries : List α) (k : ι) (wanted : Mark) :
    entries.Perm (moved key mark entries k wanted) :=
  ((List.perm_append_comm).trans (List.filter_append_perm _ entries)).symm

/-- An entry of another key stays the first. -/
theorem moved_cons {first : α} {k : ι} (apart : key first ≠ k) (rest : List α) (wanted : Mark) :
    ∃ rest', moved key mark (first :: rest) k wanted = first :: rest' := by
  rw [moved, List.filter_cons_of_pos (by simp [apart]), List.cons_append]
  exact ⟨_, rfl⟩

/-- A level with the entries of one mark moved to its end. -/
theorem level_moved (entries : List α) (k : ι) (wanted : Mark) :
    level key (moved key mark entries k wanted) k =
      (level key entries k).filter (fun entry => !decide (mark entry = wanted)) ++
        (level key entries k).filter fun entry => mark entry = wanted := by
  unfold level moved
  rw [List.filter_append, List.filter_filter, List.filter_filter, List.filter_filter,
    List.filter_filter]
  congr 1
  · apply List.filter_congr
    intro entry _
    cases decide (key entry = k) <;> cases decide (mark entry = wanted) <;> rfl
  · apply List.filter_congr
    intro entry _
    cases decide (key entry = k) <;> cases decide (mark entry = wanted) <;> rfl

/-- From its end, a sorted list is first the entries after a level, then those of the level. -/
theorem reverse_split {entries order : List α} (stable : StableOrder key entries order) (k : ι) :
    ∃ rest, order.reverse.map mark =
      (after key order k).reverse.map mark ++ ((level key entries k).reverse.map mark ++ rest) := by
  refine ⟨(order.filter fun entry => key entry < k).reverse.map mark, ?_⟩
  rw [stable.reverse_eq k, List.map_append, List.map_append]
  rfl

/-- A scan that gets to a level goes on with the entries of that level, the one given last
first. -/
theorem scan_at {entries order : List α} (stable : StableOrder key entries order) {k : ι}
    (reaches : Reaches key mark limit entries k) :
    ∃ rest, scan mark limit order = tally limit (after key entries k).length
      ((level key entries k).reverse.map mark ++ rest) := by
  have same : (after key order k).Perm (after key entries k) := stable.perm.filter _
  have counted : ∀ marked ∈ (after key order k).reverse.map mark, marked = .count := by
    intro marked held
    obtain ⟨entry, member, rfl⟩ := List.mem_map.mp held
    exact reaches.later entry (same.mem_iff.mp (List.mem_reverse.mp member))
  have length : ((after key order k).reverse.map mark).length = (after key entries k).length := by
    rw [List.length_map, List.length_reverse]
    exact same.length_eq
  have few := reaches.few
  obtain ⟨rest, split⟩ := reverse_split stable k
  refine ⟨rest, ?_⟩
  rw [scan, split, tally_counted counted (by omega), length, Nat.zero_add]

/-- A scan that gets to a level can be made to give every verdict that the level can end it with:
it meets the entries that are moved to the end of the level first. -/
theorem scan_moved {entries order : List α} {k : ι} {verdict : Verdict}
    (reaches : Reaches key mark limit entries k)
    (ends : LevelEnds key mark limit entries k verdict)
    (stable : StableOrder key (moved key mark entries k (ending verdict)) order) :
    scan mark limit order = verdict := by
  have same : (after key entries k).Perm
      (after key (moved key mark entries k (ending verdict)) k) :=
    (moved_perm key mark entries k _).filter _
  have reaches' := reaches.perm (moved_perm key mark entries k (ending verdict))
  obtain ⟨rest, reached⟩ := scan_at stable reaches'
  rw [reached, level_moved, ← same.length_eq, List.reverse_append, List.map_append,
    List.append_assoc]
  have marks : ∀ marked ∈ ((level key entries k).filter fun entry =>
      mark entry = ending verdict).reverse.map mark, marked = ending verdict := by
    intro marked held
    obtain ⟨entry, member, rfl⟩ := List.mem_map.mp held
    simpa using (List.mem_filter.mp (List.mem_reverse.mp member)).2
  obtain ⟨entry, here, marked⟩ := ends.1
  have first : ∃ others, ((level key entries k).filter fun entry =>
      mark entry = ending verdict).reverse.map mark = ending verdict :: others := by
    have some_marked : ((level key entries k).filter fun entry =>
        mark entry = ending verdict).reverse.map mark ≠ [] := by
      apply List.ne_nil_of_mem (a := ending verdict)
      rw [List.mem_map]
      refine ⟨entry, ?_, marked⟩
      rw [List.mem_reverse, List.mem_filter, decide_eq_true_eq]
      exact ⟨here, marked⟩
    obtain ⟨head, others, split⟩ := List.exists_cons_of_ne_nil some_marked
    refine ⟨others, ?_⟩
    rw [split, marks head (by rw [split]; exact List.mem_cons_self)]
  obtain ⟨others, first⟩ := first
  cases verdict with
  | passed =>
    rw [first]
    exact tally_stop _
  | refused =>
    rw [first]
    exact tally_refuse _
  | reached =>
    apply tally_reaches marks reaches.few
    rw [List.length_map, List.length_reverse, ← List.countP_eq_length_filter]
    exact ends.2 rfl

/-- A scan that counts all entries, too few of them, passes. -/
theorem scan_exhausted {entries order : List α} (all : ∀ entry ∈ entries, mark entry = .count)
    (few : entries.length < limit) (permuted : order.Perm entries) :
    scan mark limit order = .passed := by
  have counted : ∀ marked ∈ order.reverse.map mark, marked = .count := by
    intro marked held
    obtain ⟨entry, member, rfl⟩ := List.mem_map.mp held
    exact all entry (permuted.mem_iff.mp (List.mem_reverse.mp member))
  have length : (order.reverse.map mark).length = entries.length := by
    rw [List.length_map, List.length_reverse, permuted.length_eq]
  have whole : order.reverse.map mark ++ [] = order.reverse.map mark := List.append_nil _
  rw [scan, ← whole, tally_counted counted (by omega), tally_nil]

end Scans
