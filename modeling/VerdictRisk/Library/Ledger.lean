import Mathlib.Algebra.Order.Monoid.Defs
import Mathlib.Algebra.Order.Monoid.Unbundled.Basic

/-!
# Ledgers of open entries

An entry is booked to any number of accounts with an amount, and stays open until it is
closed. The exposure of an account is the total of its open entries. Dropping or closing
entries of a non-negative amount never raises an exposure, so a ledger whose openings are
admitted against a limit stays within its limits along every run of openings and closings.
-/

namespace Ledgers

/-- How the entries of a book are read: which are closed, what closing does, which accounts an
entry is booked to, and its amount. -/
structure Ledger (Entry Account Amount : Type*) where
  closed : Entry → Bool
  close : Entry → Entry
  booked : Entry → Account → Bool
  amount : Entry → Amount
  /-- A closed entry is closed. -/
  closed_close : ∀ entry, closed (close entry) = true
  /-- Closing does not change the amount. -/
  amount_close : ∀ entry, amount (close entry) = amount entry

namespace Ledger

variable {Entry Account Amount : Type*} [AddCommMonoid Amount]
variable (ledger : Ledger Entry Account Amount)

/-- What an entry adds to an account: its amount while it is open and booked there. -/
def weight (account : Account) (entry : Entry) : Amount :=
  if !ledger.closed entry && ledger.booked entry account then ledger.amount entry else 0

/-- The total of an account. -/
def exposure (account : Account) : List Entry → Amount
  | [] => 0
  | entry :: rest => ledger.weight account entry + exposure account rest

/-- A closed entry weighs nothing. -/
@[simp] theorem weight_close (account : Account) (entry : Entry) :
    ledger.weight account (ledger.close entry) = 0 := by
  simp [weight, ledger.closed_close]

/-- An empty book exposes nothing. -/
@[simp] theorem exposure_nil (account : Account) : ledger.exposure account [] = 0 := rfl

/-- An entry adds its weight to the exposure of the rest. -/
@[simp] theorem exposure_cons (account : Account) (entry : Entry) (rest : List Entry) :
    ledger.exposure account (entry :: rest) =
      ledger.weight account entry + ledger.exposure account rest := rfl

/-- The exposures of two books add up. -/
theorem exposure_append (account : Account) (first second : List Entry) :
    ledger.exposure account (first ++ second) =
      ledger.exposure account first + ledger.exposure account second := by
  induction first with
  | nil => rw [List.nil_append, exposure_nil, zero_add]
  | cons entry rest ih => rw [List.cons_append, exposure_cons, exposure_cons, ih, add_assoc]

/-- One book is obtained from another by dropping or closing entries of a non-negative amount. -/
inductive Relieved [LE Amount] : List Entry → List Entry → Prop
  | nil : Relieved [] []
  | keep (entry : Entry) {rest rest' : List Entry} : Relieved rest rest' →
      Relieved (entry :: rest) (entry :: rest')
  | drop (entry : Entry) {rest rest' : List Entry} : 0 ≤ ledger.amount entry →
      Relieved rest rest' → Relieved (entry :: rest) rest'
  | close (entry : Entry) {rest rest' : List Entry} : 0 ≤ ledger.amount entry →
      Relieved rest rest' → Relieved (entry :: rest) (ledger.close entry :: rest')

section Order

variable [PartialOrder Amount] [IsOrderedAddMonoid Amount]

omit [IsOrderedAddMonoid Amount] in
/-- An entry of a non-negative amount never lowers an account. -/
theorem weight_nonneg {entry : Entry} (nonneg : 0 ≤ ledger.amount entry) (account : Account) :
    0 ≤ ledger.weight account entry := by
  unfold weight
  split
  · exact nonneg
  · exact le_refl 0

/-- Relieving a book raises no exposure. -/
theorem exposure_relieved {book book' : List Entry} (relieved : ledger.Relieved book book')
    (account : Account) : ledger.exposure account book' ≤ ledger.exposure account book := by
  induction relieved with
  | nil => exact le_refl 0
  | keep entry _ ih =>
    rw [exposure_cons, exposure_cons]
    exact add_le_add_right ih _
  | drop entry nonneg _ ih =>
    rw [exposure_cons]
    exact ih.trans (le_add_of_nonneg_left (ledger.weight_nonneg nonneg account))
  | close entry nonneg _ ih =>
    rw [exposure_cons, exposure_cons, weight_close, zero_add]
    exact ih.trans (le_add_of_nonneg_left (ledger.weight_nonneg nonneg account))

/-- Some open entry is booked to the account. -/
def Occupied (account : Account) (book : List Entry) : Prop :=
  ∃ entry ∈ book, ledger.closed entry = false ∧ ledger.booked entry account = true

/-- Every account with an open entry is within its limit, and no amount is negative. -/
structure Within (limit : Account → Amount) (book : List Entry) : Prop where
  nonneg : ∀ entry ∈ book, 0 ≤ ledger.amount entry
  bounded : ∀ account, ledger.Occupied account book → ledger.exposure account book ≤ limit account

/-- An opening is admitted when every account it is booked to has room for it. -/
def Admitted (limit : Account → Amount) (book : List Entry) (entry : Entry) : Prop :=
  ∀ account, ledger.booked entry account = true →
    ledger.exposure account book + ledger.amount entry ≤ limit account

variable {limit : Account → Amount} {book : List Entry}

omit [IsOrderedAddMonoid Amount] in
/-- The empty book is within its limits. -/
theorem within_nil : ledger.Within limit [] :=
  ⟨fun _ member => absurd member List.not_mem_nil, fun _ ⟨_, member, _⟩ =>
    absurd member List.not_mem_nil⟩

omit [IsOrderedAddMonoid Amount] in
/-- An admitted opening keeps the limits. -/
theorem within_open {entry : Entry} (within : ledger.Within limit book)
    (nonneg : 0 ≤ ledger.amount entry) (opened : ledger.closed entry = false)
    (admitted : ledger.Admitted limit book entry) : ledger.Within limit (book ++ [entry]) := by
  constructor
  · intro other member
    rcases List.mem_append.mp member with held | fresh
    · exact within.nonneg other held
    · rw [List.mem_singleton.mp fresh]
      exact nonneg
  · intro account occupied
    rw [exposure_append, exposure_cons, exposure_nil, add_zero]
    cases booked : ledger.booked entry account with
    | true =>
      have weight : ledger.weight account entry = ledger.amount entry := by
        simp [Ledger.weight, opened, booked]
      rw [weight]
      exact admitted account booked
    | false =>
      have weight : ledger.weight account entry = 0 := by simp [Ledger.weight, booked]
      rw [weight, add_zero]
      obtain ⟨other, member, still, there⟩ := occupied
      rcases List.mem_append.mp member with held | fresh
      · exact within.bounded account ⟨other, held, still, there⟩
      · rw [List.mem_singleton.mp fresh, booked] at there
        contradiction

omit [IsOrderedAddMonoid Amount] in
/-- Closing one entry of a book relieves it. -/
theorem relieved_modify (nonneg : ∀ entry ∈ book, 0 ≤ ledger.amount entry) (index : ℕ) :
    ledger.Relieved book (book.modify index ledger.close) := by
  induction book generalizing index with
  | nil => cases index <;> exact .nil
  | cons entry rest ih =>
    rw [List.forall_mem_cons] at nonneg
    have same : ∀ entries : List Entry, ledger.Relieved entries entries := by
      intro entries
      induction entries with
      | nil => exact .nil
      | cons entry rest ih => exact .keep entry ih
    cases index with
    | zero => exact .close entry nonneg.1 (same rest)
    | succ index => exact .keep entry (ih nonneg.2 index)

omit [AddCommMonoid Amount] [PartialOrder Amount] [IsOrderedAddMonoid Amount] in
/-- Each entry of a modified book is one of the old entries, or one of them closed. -/
theorem mem_modify {index : ℕ} {entry : Entry}
    (member : entry ∈ book.modify index ledger.close) :
    entry ∈ book ∨ ∃ old ∈ book, entry = ledger.close old := by
  induction book generalizing index with
  | nil => cases index <;> exact absurd member List.not_mem_nil
  | cons head rest ih =>
    cases index with
    | zero =>
      rcases List.mem_cons.mp member with rfl | later
      · exact .inr ⟨head, List.mem_cons_self, rfl⟩
      · exact .inl (List.mem_cons_of_mem _ later)
    | succ index =>
      rcases List.mem_cons.mp member with rfl | later
      · exact .inl List.mem_cons_self
      · rcases ih later with held | ⟨old, held, rfl⟩
        · exact .inl (List.mem_cons_of_mem _ held)
        · exact .inr ⟨old, List.mem_cons_of_mem _ held, rfl⟩

/-- Closing an entry keeps the limits. -/
theorem within_close (within : ledger.Within limit book) (index : ℕ) :
    ledger.Within limit (book.modify index ledger.close) := by
  constructor
  · intro entry member
    rcases ledger.mem_modify member with held | ⟨old, held, rfl⟩
    · exact within.nonneg entry held
    · rw [ledger.amount_close]
      exact within.nonneg old held
  · rintro account ⟨entry, member, still, booked⟩
    have relieved := ledger.exposure_relieved (ledger.relieved_modify within.nonneg index) account
    rcases ledger.mem_modify member with held | ⟨old, _, rfl⟩
    · exact relieved.trans (within.bounded account ⟨entry, held, still, booked⟩)
    · rw [ledger.closed_close] at still
      contradiction

end Order

end Ledger

end Ledgers
