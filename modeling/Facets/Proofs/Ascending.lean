import Facets.Ascending
import Mathlib

namespace Facets.Ascending

variable {α : Type} [LT α] [DecidableLT α]

theorem length_insert_le (a : α) (xs : List α) : (insert a xs).length ≤ xs.length + 1 := by
  induction xs with
  | nil => exact le_rfl
  | cons b rest ih =>
    unfold insert
    split
    · exact le_rfl
    · split
      · exact Nat.succ_le_succ ih
      · exact Nat.le_succ _

theorem length_ofList_le (xs : List α) : (ofList xs).length ≤ xs.length := by
  induction xs with
  | nil => exact le_rfl
  | cons a rest ih => exact (length_insert_le a _).trans (Nat.succ_le_succ ih)

section Members

variable [Std.Trichotomous (α := α) (· < ·)]

@[simp]
theorem mem_insert {a b : α} {xs : List α} : a ∈ insert b xs ↔ a = b ∨ a ∈ xs := by
  induction xs with
  | nil => simp [insert]
  | cons c rest ih =>
    unfold insert
    split
    · simp
    · rename_i notBelow
      split
      · simp only [List.mem_cons, ih, or_left_comm]
      · rename_i notAbove
        have same : b = c := Std.Trichotomous.trichotomous b c notBelow notAbove
        simp [same]

@[simp]
theorem mem_ofList {a : α} {xs : List α} : a ∈ ofList xs ↔ a ∈ xs := by
  induction xs with
  | nil => simp
  | cons b rest ih => simp [ih]

end Members

variable [IsStrictTotalOrder α (· < ·)]

theorem insert_pairwise {a : α} {xs : List α} (ascending : xs.Pairwise (· < ·)) :
    (insert a xs).Pairwise (· < ·) := by
  induction xs with
  | nil => simp [insert]
  | cons b rest ih =>
    obtain ⟨first, tail⟩ := List.pairwise_cons.mp ascending
    unfold insert
    split
    · rename_i below
      refine List.pairwise_cons.mpr ⟨?_, ascending⟩
      intro c member
      rcases List.mem_cons.mp member with rfl | later
      · exact below
      · exact IsTrans.trans _ _ _ below (first c later)
    · split
      · rename_i above
        refine List.pairwise_cons.mpr ⟨?_, ih tail⟩
        intro c member
        rcases mem_insert.mp member with rfl | later
        · exact above
        · exact first c later
      · exact ascending

theorem ofList_pairwise (xs : List α) : (ofList xs).Pairwise (· < ·) := by
  induction xs with
  | nil => exact .nil
  | cons a rest ih => exact insert_pairwise ih

theorem ofList_nodup (xs : List α) : (ofList xs).Nodup :=
  (ofList_pairwise xs).imp fun less => ne_of_irrefl less

/-- What is gathered depends on the members alone, not on their order or repetition. -/
theorem ofList_congr {xs ys : List α} (same : ∀ a, a ∈ xs ↔ a ∈ ys) : ofList xs = ofList ys :=
  (ofList_pairwise xs).eq_of_mem_iff (ofList_pairwise ys) fun a => by simp only [mem_ofList, same a]

theorem ofList_perm {xs : List α} (distinct : xs.Nodup) : (ofList xs).Perm xs :=
  (List.perm_ext_iff_of_nodup (ofList_nodup xs) distinct).mpr fun _ => mem_ofList

end Facets.Ascending
