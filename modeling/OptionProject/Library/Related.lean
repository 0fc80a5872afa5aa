import Mathlib.Data.List.Forall2
import Mathlib.Data.List.Perm.Subperm

/-!
# Lists related element by element

What a relation between the elements of two lists in their places says about members, about a
part of one list, and about images.

## Main results

* `Related.exists_part` — a part of one list is related to a part of the other.
* `Related.forall₂_zipWith` — a function of related elements, applied along the lists.
-/
namespace OptionProject.Library.Related

variable {α β : Type*} {R : α → β → Prop} {xs : List α} {ys part : List β} {x : α} {y : β}

theorem exists_right (related : List.Forall₂ R xs ys) (member : x ∈ xs) : ∃ y ∈ ys, R x y := by
  induction related with
  | nil => cases member
  | cons first _ ih =>
    rcases List.mem_cons.mp member with rfl | member
    · exact ⟨_, List.mem_cons_self, first⟩
    · obtain ⟨y, later, holds⟩ := ih member
      exact ⟨y, List.mem_cons_of_mem _ later, holds⟩

theorem exists_left (related : List.Forall₂ R xs ys) (member : y ∈ ys) : ∃ x ∈ xs, R x y :=
  exists_right related.flip member

theorem exists_sublist (related : List.Forall₂ R xs ys) (sublist : part.Sublist ys) :
    ∃ owners, owners.Sublist xs ∧ List.Forall₂ R owners part := by
  induction sublist generalizing xs with
  | slnil =>
    cases related
    exact ⟨[], .slnil, .nil⟩
  | cons y _ ih =>
    cases related with
    | cons first rest =>
      obtain ⟨owners, sublist, each⟩ := ih rest
      exact ⟨owners, sublist.cons _, each⟩
  | cons_cons y _ ih =>
    cases related with
    | cons first rest =>
      obtain ⟨owners, sublist, each⟩ := ih rest
      exact ⟨_, sublist.cons_cons _, .cons first each⟩

/-- A part of one list, in any order, belongs to a part of the other. -/
theorem exists_part (related : List.Forall₂ R xs ys) (subperm : part.Subperm ys) :
    ∃ owners, owners.Subperm xs ∧ List.Forall₂ R owners part := by
  obtain ⟨part', perm, sublist⟩ := subperm
  obtain ⟨owners', sublist, each⟩ := exists_sublist related sublist
  -- the owners are rearranged as the part is
  obtain ⟨owners, each, rearranged⟩ := List.perm_comp_forall₂ perm.symm each.flip
  exact ⟨owners, rearranged.subperm.trans sublist.subperm, each.flip⟩

/-- What holds of related elements and their images holds along the lists. -/
theorem forall₂_zipWith {γ : Type*} {f : α → β → γ} {S : β → γ → Prop}
    (related : List.Forall₂ R xs ys) (image : ∀ x ∈ xs, ∀ y, R x y → S y (f x y)) :
    List.Forall₂ S ys (List.zipWith f xs ys) := by
  induction related with
  | nil => exact .nil
  | cons first _ ih =>
    obtain ⟨here, later⟩ := List.forall_mem_cons.mp image
    exact .cons (here _ first) (ih later)

theorem map_zipWith_left {γ δ : Type*} {f : α → β → γ} {g : γ → δ} {h : α → δ}
    (related : List.Forall₂ R xs ys) (same : ∀ x y, g (f x y) = h x) :
    (List.zipWith f xs ys).map g = xs.map h := by
  induction related with
  | nil => rfl
  | cons _ _ ih => simp [same, ih]

/-- Values that are pairwise distinct are so on a part. -/
theorem nodup_map_of_subperm {f : α → β} {part whole : List α} (subperm : part.Subperm whole)
    (nodup : (whole.map f).Nodup) : (part.map f).Nodup := by
  obtain ⟨part', perm, sublist⟩ := subperm
  exact (perm.map f).nodup_iff.mp (nodup.sublist (sublist.map f))

end OptionProject.Library.Related
