import Mathlib.Data.List.Forall2

/-!
# Lists related member by member

Two lists are related when they have one length and each member is related to the one at its place.
The rules here say when such lists are equal, when their readings are, and that two relations
between lists are one.
-/

namespace MemberWise

variable {α β γ : Type*}

/-- Lists are equal when they are related by what relates only equal members. -/
theorem eq_of_forall₂ {related : α → α → Prop} {lefts rights : List α}
    (pairs : List.Forall₂ related lefts rights)
    (equal : ∀ left ∈ lefts, ∀ right ∈ rights, related left right → left = right) :
    lefts = rights := by
  rw [List.forall₂_iff_zip] at pairs
  rw [← List.forall₂_eq_eq_eq, List.forall₂_iff_zip]
  refine ⟨pairs.1, fun {left right} member => ?_⟩
  obtain ⟨inLefts, inRights⟩ := List.of_mem_zip member
  exact equal left inLefts right inRights (pairs.2 member)

/-- Lists that agree one by one when each is read have the same readings. -/
theorem map_eq_map_of_forall₂ {read : α → γ} {read' : β → γ} {lefts : List α} {rights : List β}
    (agree : List.Forall₂ (fun left right => read left = read' right) lefts rights) :
    lefts.map read = rights.map read' := by
  rwa [← List.forall₂_eq_eq_eq, List.forall₂_map_left_iff, List.forall₂_map_right_iff]

/-- Lists are related in two ways when they are related in each. -/
theorem forall₂_and {related related' : α → β → Prop} {lefts : List α} {rights : List β} :
    List.Forall₂ (fun left right => related left right ∧ related' left right) lefts rights ↔
      List.Forall₂ related lefts rights ∧ List.Forall₂ related' lefts rights := by
  simp only [List.forall₂_iff_zip]
  constructor
  · rintro ⟨length, each⟩
    exact ⟨⟨length, fun member => (each member).1⟩, length, fun member => (each member).2⟩
  · rintro ⟨⟨length, each⟩, _, each'⟩
    exact ⟨length, fun member => ⟨each member, each' member⟩⟩

end MemberWise
