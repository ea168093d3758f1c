import Facets.Text.Split
import Mathlib

/-!
Splitting undoes joining: pieces that share no character with the separator come back whole.
-/

namespace Facets.Text

variable {separator piece : List Char}

theorem isPrefixOf_cons_of_notMem (nonempty : separator ≠ []) {c : Char} (free : c ∉ separator)
    (rest : List Char) : separator.isPrefixOf (c :: rest) = false := by
  cases separator with
  | nil => exact absurd rfl nonempty
  | cons first others =>
    have differs : first ≠ c := fun same => free (same ▸ List.mem_cons_self)
    simp [List.isPrefixOf, differs]

theorem piecesAfter_length (skipped rest : List Char) :
    piecesAfter separator skipped.length (skipped ++ rest) = piecesAfter separator 0 rest := by
  induction skipped with
  | nil => rfl
  | cons c others ih => exact ih

/-- A text without characters of the separator is one piece. -/
theorem piecesAfter_free (nonempty : separator ≠ []) (free : ∀ c ∈ piece, c ∉ separator) :
    piecesAfter separator 0 piece = [piece] := by
  induction piece with
  | nil => rfl
  | cons c rest ih =>
    obtain ⟨first, others⟩ := List.forall_mem_cons.mp free
    rw [piecesAfter, isPrefixOf_cons_of_notMem nonempty first, if_neg Bool.false_ne_true, ih others]
    rfl

/-- What precedes the separator without characters of it is the first piece. -/
theorem piecesAfter_first (nonempty : separator ≠ []) (free : ∀ c ∈ piece, c ∉ separator)
    (rest : List Char) :
    piecesAfter separator 0 (piece ++ (separator ++ rest)) =
      piece :: piecesAfter separator 0 rest := by
  induction piece with
  | nil =>
    -- the separator itself: its first character is matched, the others are skipped
    obtain ⟨first, others, rfl⟩ := List.exists_cons_of_ne_nil nonempty
    have here : (first :: others).isPrefixOf (first :: (others ++ rest)) = true := by simp
    rw [List.nil_append, List.cons_append, piecesAfter, if_pos here, List.length_cons,
      Nat.add_sub_cancel, piecesAfter_length]
  | cons c others ih =>
    obtain ⟨first, later⟩ := List.forall_mem_cons.mp free
    rw [List.cons_append, piecesAfter, isPrefixOf_cons_of_notMem nonempty first,
      if_neg Bool.false_ne_true, ih later]
    rfl

theorem split_intercalate (nonempty : separator ≠ []) {pieces : List (List Char)}
    (some : pieces ≠ []) (free : ∀ piece ∈ pieces, ∀ c ∈ piece, c ∉ separator) :
    split separator (separator.intercalate pieces) = pieces := by
  rw [split, if_neg (by simpa using nonempty)]
  induction pieces with
  | nil => exact absurd rfl some
  | cons piece rest ih =>
    obtain ⟨first, others⟩ := List.forall_mem_cons.mp free
    cases rest with
    | nil => rw [List.intercalate_singleton, piecesAfter_free nonempty first]
    | cons next later =>
      rw [List.intercalate_cons_cons, List.append_assoc, piecesAfter_first nonempty first,
        ih (List.cons_ne_nil _ _) others]

/-- The tags of a joined text are those that are not empty. -/
theorem tags_intercalate {separator : String} (nonempty : separator ≠ "") {tags : List String}
    (free : ∀ tag ∈ tags, ∀ c ∈ tag.toList, c ∉ separator.toList) :
    Text.tags separator (separator.intercalate tags) = tags.filter (· ≠ "") := by
  have apart : separator.toList ≠ [] := by simpa using nonempty
  have pieces : (split separator.toList (separator.intercalate tags).toList).filter
      (fun piece => !piece.isEmpty) =
        (tags.map String.toList).filter fun piece => !piece.isEmpty := by
    rw [String.toList_intercalate]
    cases tags with
    | nil => simp [split, piecesAfter, apart]
    | cons tag rest =>
      have whole : ∀ piece ∈ (tag :: rest).map String.toList, ∀ c ∈ piece, c ∉ separator.toList := by
        simpa using free
      rw [split_intercalate apart (by simp) whole]
  have kept : ((fun piece : List Char => !piece.isEmpty) ∘ String.toList) =
      fun tag => decide (tag ≠ "") := by
    funext tag
    rw [Bool.eq_iff_iff, Function.comp_apply, Bool.not_eq_true', List.isEmpty_eq_false_iff,
      decide_eq_true_eq, Ne, String.toList_eq_nil_iff]
  rw [Text.tags, pieces, List.filter_map, List.map_map, kept]
  simp [Function.comp_def]

end Facets.Text
