import Mathlib.Data.List.Sort

/-!
# Stable orders

Entries in the order of their keys, where entries of one key keep the order in which they were
given. There is one such order, insertion by key computes it, and at every key it falls into
the entries before, those given with that key, and the entries after.
-/

variable {α ι : Type*} [LinearOrder ι]

/-- The entries in the order of their keys, those of one key in the order they were given in. -/
structure StableOrder (key : α → ι) (entries order : List α) : Prop where
  sorted : order.Pairwise fun first second => key first ≤ key second
  stable : ∀ k, order.filter (fun entry => key entry = k) =
    entries.filter fun entry => key entry = k

namespace StableOrder

variable {key : α → ι}

/-- Lists with the same entries of each key have the same entries. -/
theorem mem_iff_of_levels {order order' : List α}
    (levels : ∀ k, order.filter (fun entry => key entry = k) =
      order'.filter fun entry => key entry = k) (entry : α) : entry ∈ order ↔ entry ∈ order' := by
  have shared : entry ∈ order.filter (fun other => key other = key entry) ↔
      entry ∈ order'.filter fun other => key other = key entry := by
    rw [levels]
  simpa using shared

/-- Among sorted lists the entries of each key determine the list. -/
theorem sorted_unique {order order' : List α}
    (sorted : order.Pairwise fun first second => key first ≤ key second)
    (sorted' : order'.Pairwise fun first second => key first ≤ key second)
    (levels : ∀ k, order.filter (fun entry => key entry = k) =
      order'.filter fun entry => key entry = k) : order = order' := by
  induction order generalizing order' with
  | nil =>
    apply Eq.symm
    rw [List.eq_nil_iff_forall_not_mem]
    intro entry held
    exact List.not_mem_nil ((mem_iff_of_levels levels entry).mpr held)
  | cons first rest ih =>
    have member := mem_iff_of_levels levels
    cases order' with
    | nil => exact absurd ((member first).mp List.mem_cons_self) List.not_mem_nil
    | cons first' rest' =>
      rw [List.pairwise_cons] at sorted sorted'
      have below : key first ≤ key first' := by
        rcases List.mem_cons.mp ((member first').mpr List.mem_cons_self) with here | later
        · rw [here]
        · exact sorted.1 first' later
      have above : key first' ≤ key first := by
        rcases List.mem_cons.mp ((member first).mp List.mem_cons_self) with here | later
        · rw [here]
        · exact sorted'.1 first later
      have level : key first' = key first := le_antisymm above below
      have heads := levels (key first)
      simp only [List.filter_cons, level, decide_true, if_true] at heads
      have head := (List.cons.inj heads).1
      subst head
      have tails : ∀ k, rest.filter (fun entry => key entry = k) =
          rest'.filter fun entry => key entry = k := by
        intro k
        have whole := levels k
        simp only [List.filter_cons] at whole
        split at whole
        · exact (List.cons.inj whole).2
        · exact whole
      rw [ih sorted.2 sorted'.2 tails]

/-- There is one stable order of given entries. -/
theorem unique {entries order order' : List α} (stable : StableOrder key entries order)
    (stable' : StableOrder key entries order') : order = order' :=
  sorted_unique stable.sorted stable'.sorted fun k => by rw [stable.stable, stable'.stable]

/-- A sorted list falls apart at a key. -/
theorem split {order : List α}
    (sorted : order.Pairwise fun first second => key first ≤ key second) (k : ι) :
    order = order.filter (fun entry => key entry < k) ++
      order.filter (fun entry => key entry = k) ++ order.filter fun entry => k < key entry := by
  induction order with
  | nil => rfl
  | cons first rest ih =>
    rw [List.pairwise_cons] at sorted
    have onward := ih sorted.2
    rcases lt_trichotomy (key first) k with before | same | after
    · have differs : ¬ key first = k := ne_of_lt before
      have unreached : ¬ k < key first := not_lt.mpr (le_of_lt before)
      simp only [List.filter_cons, before, differs, unreached, decide_true, decide_false, if_true,
        Bool.false_eq_true, if_false, List.cons_append]
      exact congrArg _ onward
    · have none_before : rest.filter (fun entry => key entry < k) = [] := by
        rw [List.filter_eq_nil_iff]
        intro entry member
        simpa [same] using sorted.1 entry member
      rw [none_before, List.nil_append] at onward
      simp only [List.filter_cons, same, lt_irrefl, decide_true, decide_false, if_true,
        Bool.false_eq_true, if_false, none_before, List.nil_append, List.cons_append]
      exact congrArg _ onward
    · have all_after : ∀ entry ∈ first :: rest, k < key entry := by
        intro entry member
        rcases List.mem_cons.mp member with rfl | later
        · exact after
        · exact after.trans_le (sorted.1 entry later)
      have none_before : (first :: rest).filter (fun entry => key entry < k) = [] := by
        rw [List.filter_eq_nil_iff]
        intro entry member
        simpa using (all_after entry member).le
      have none_level : (first :: rest).filter (fun entry => key entry = k) = [] := by
        rw [List.filter_eq_nil_iff]
        intro entry member
        simpa using (all_after entry member).ne'
      have every : (first :: rest).filter (fun entry => k < key entry) = first :: rest := by
        rw [List.filter_eq_self]
        intro entry member
        simpa using all_after entry member
      rw [none_before, none_level, every]
      rfl

/-- An inserted entry comes first among those of its key. -/
theorem filter_orderedInsert (k : ι) (first : α) (order : List α) :
    (order.orderedInsert (fun first second => key first ≤ key second) first).filter
        (fun entry => key entry = k) =
      (first :: order).filter fun entry => key entry = k := by
  induction order with
  | nil => rw [List.orderedInsert_nil]
  | cons head tail ih =>
    rw [List.orderedInsert_cons]
    split
    · rfl
    · rename_i passes
      have differs : key first = k → key head ≠ k := by
        rintro rfl same
        exact passes (le_of_eq same.symm)
      rw [List.filter_cons, ih]
      by_cases here : key first = k
      · simp [here, differs here]
      · simp [here, List.filter_cons]

/-- The entry that comes last among those not before a level: the last of a sorted list after it,
or else the last given of the level. -/
theorem reverse_eq {entries order : List α} (stable : StableOrder key entries order) (k : ι) :
    order.reverse = (order.filter fun entry => k < key entry).reverse ++
      ((entries.filter fun entry => key entry = k).reverse ++
        (order.filter fun entry => key entry < k).reverse) := by
  conv_lhs => rw [split stable.sorted k]
  rw [List.reverse_append, List.reverse_append, stable.stable]

/-- Insertion by a relation that compares keys computes the stable order. -/
theorem insertionSort {entries : List α} (compare : α → α → Prop) [DecidableRel compare]
    (compares : ∀ first ∈ entries, ∀ second ∈ entries,
      compare first second ↔ key first ≤ key second) :
    StableOrder key entries (entries.insertionSort compare) := by
  have by_key : entries.insertionSort compare =
      entries.insertionSort fun first second => key first ≤ key second := by
    have mapped := List.map_insertionSort compare (fun first second => key first ≤ key second) id
      entries compares
    simpa using mapped
  rw [by_key]
  constructor
  · have total : Std.Total fun first second : α => key first ≤ key second :=
      ⟨fun first second => le_total (key first) (key second)⟩
    have transitive : IsTrans α fun first second => key first ≤ key second :=
      ⟨fun _ _ _ => le_trans⟩
    exact List.pairwise_insertionSort _ entries
  · intro k
    clear by_key compares
    induction entries with
    | nil => rfl
    | cons first rest ih =>
      rw [List.insertionSort_cons, filter_orderedInsert, List.filter_cons, List.filter_cons, ih]

/-- A stable order permutes its entries. -/
theorem perm {entries order : List α} (stable : StableOrder key entries order) :
    order.Perm entries := by
  have inserted : StableOrder key entries
      (entries.insertionSort fun first second => key first ≤ key second) :=
    insertionSort (fun first second => key first ≤ key second) fun first _ second _ => Iff.rfl
  rw [stable.unique inserted]
  exact List.perm_insertionSort _ entries

/-- An inserted entry leaves the parts of an order that lie on either side of it alone. -/
theorem filter_inserted {before after order order' : List α} {entry : α}
    (stable : StableOrder key (before ++ after) order)
    (stable' : StableOrder key (before ++ entry :: after) order') (side : ι → Bool)
    (outside : side (key entry) = false) :
    order.filter (fun other => side (key other)) =
      order'.filter fun other => side (key other) := by
  apply sorted_unique (stable.sorted.filter _) (stable'.sorted.filter _)
  intro k
  rw [List.filter_filter, List.filter_filter]
  cases here : side k with
  | false =>
    have levels : ∀ entries : List α, entries.filter
        (fun other => decide (key other = k) && side (key other)) = [] := by
      intro entries
      rw [List.filter_eq_nil_iff]
      intro other _ both
      rw [Bool.and_eq_true, decide_eq_true_eq] at both
      rw [both.1, here] at both
      exact absurd both.2 Bool.false_ne_true
    rw [levels, levels]
  | true =>
    have levels : ∀ entries : List α,
        entries.filter (fun other => decide (key other = k) && side (key other)) =
          entries.filter fun other => key other = k := by
      intro entries
      apply List.filter_congr
      intro other _
      by_cases same : key other = k
      · simp [same, here]
      · simp [same]
    have apart : ¬ key entry = k := by
      intro same
      rw [same, here] at outside
      contradiction
    rw [levels, levels, stable.stable, stable'.stable, List.filter_append, List.filter_append,
      List.filter_cons_of_neg (by simpa using apart)]

/-- From its end, an order with an inserted entry is the order without it, with the entry put
behind those that are after it, or given after it at its own key. -/
theorem inserted {before after order order' : List α} {entry : α}
    (stable : StableOrder key (before ++ after) order)
    (stable' : StableOrder key (before ++ entry :: after) order') :
    ∃ front rest, order.reverse = front ++ rest ∧ order'.reverse = front ++ entry :: rest ∧
      front.Perm ((before.filter fun other => key entry < key other) ++
        after.filter fun other => key entry ≤ key other) := by
  have whole := stable.reverse_eq (key entry)
  have whole' := stable'.reverse_eq (key entry)
  have later := filter_inserted stable stable' (fun k => key entry < k) (by simp)
  have earlier := filter_inserted stable stable' (fun k => k < key entry) (by simp)
  refine ⟨(order.filter fun other => key entry < key other).reverse ++
    (after.filter fun other => key other = key entry).reverse,
    (before.filter fun other => key other = key entry).reverse ++
      (order.filter fun other => key other < key entry).reverse, ?_, ?_, ?_⟩
  · rw [whole, List.filter_append, List.reverse_append, List.append_assoc, List.append_assoc]
  · rw [whole', ← later, ← earlier, List.filter_append, List.filter_cons_of_pos (by simp),
      List.reverse_append, List.reverse_cons]
    simp only [List.append_assoc, List.cons_append, List.nil_append]
  · have past : (order.filter fun other => key entry < key other).Perm
        ((before ++ after).filter fun other => key entry < key other) := stable.perm.filter _
    rw [List.filter_append] at past
    have strict : (after.filter fun other => key entry ≤ key other).filter
        (fun other => key entry < key other) = after.filter fun other => key entry < key other := by
      rw [List.filter_filter]
      apply List.filter_congr
      intro other _
      simpa using le_of_lt
    have tied : (after.filter fun other => key entry ≤ key other).filter
        (fun other => !decide (key entry < key other)) =
          after.filter fun other => key other = key entry := by
      rw [List.filter_filter]
      apply List.filter_congr
      intro other _
      rw [Bool.eq_iff_iff, Bool.and_eq_true, Bool.not_eq_true', decide_eq_false_iff_not,
        decide_eq_true_eq, decide_eq_true_eq, not_lt, le_antisymm_iff]
    have met := List.filter_append_perm (fun other => key entry < key other)
      (after.filter fun other => key entry ≤ key other)
    rw [strict, tied] at met
    apply ((List.reverse_perm _).append (List.reverse_perm _)).trans
    apply (past.append_right _).trans
    rw [List.append_assoc]
    exact met.append_left _

section Rank

variable (before : α → α → Bool)

omit [LinearOrder ι]

/-- A strict order of some entries, where what is before another is before or after any third. -/
structure WeakOrder (entries : List α) : Prop where
  asymm : ∀ first ∈ entries, ∀ second ∈ entries,
    before first second = true → before second first = false
  split : ∀ first ∈ entries, ∀ second ∈ entries, ∀ third ∈ entries,
    before first third = true → before first second = true ∨ before second third = true

/-- The number of entries before this one. -/
def rank (entries : List α) (entry : α) : ℕ := entries.countP fun other => before other entry

variable {before}

/-- In a weak order one entry is before another when fewer entries are before it. -/
theorem WeakOrder.before_iff_rank {entries : List α} (weak : WeakOrder before entries)
    {first second : α} (held : first ∈ entries) (held' : second ∈ entries) :
    before first second = true ↔ rank before entries first < rank before entries second := by
  constructor
  · intro ordered
    have below : ∀ other ∈ entries, before other first = true → before other second = true := by
      intro other member earlier
      rcases weak.split other member second held' first held earlier with done | reversed
      · exact done
      · rw [weak.asymm first held second held' ordered] at reversed
        contradiction
    have itself : before first first = false := by
      rw [← Bool.not_eq_true]
      intro self
      have other := weak.asymm first held first held self
      rw [self] at other
      contradiction
    obtain ⟨front, rest, split⟩ := List.append_of_mem held
    rw [rank, rank, split, List.countP_append, List.countP_append,
      List.countP_cons_of_neg (by simp [itself]), List.countP_cons_of_pos (by exact ordered)]
    have fronts : front.countP (before · first) ≤ front.countP (before · second) := by
      apply List.countP_mono_left
      intro other member
      exact below other (by rw [split]; exact List.mem_append_left _ member)
    have rests : rest.countP (before · first) ≤ rest.countP (before · second) := by
      apply List.countP_mono_left
      intro other member
      apply below other
      rw [split]
      exact List.mem_append_right _ (List.mem_cons_of_mem _ member)
    omega
  · intro fewer
    by_contra unordered
    apply absurd fewer
    rw [not_lt]
    apply List.countP_mono_left
    intro other member earlier
    rcases weak.split other member first held second held' earlier with done | ordered
    · exact done
    · exact absurd ordered unordered

end Rank

end StableOrder
