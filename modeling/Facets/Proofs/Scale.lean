import Facets.Facet.Buckets
import Facets.Proofs.Ascending
import Facets.Proofs.Number.Key

namespace Facets

theorem Ascending.idxOf?_eq {α : Type} [LT α] [DecidableLT α] [DecidableEq α]
    [IsStrictTotalOrder α (· < ·)] {xs : List α} (ascending : xs.Pairwise (· < ·)) {a : α}
    (member : a ∈ xs) : xs.idxOf? a = some (xs.countP (· < a)) := by
  induction xs with
  | nil => cases member
  | cons b rest ih =>
    obtain ⟨first, tail⟩ := List.pairwise_cons.mp ascending
    rw [List.idxOf?_cons, List.countP_cons]
    by_cases same : b = a
    · subst same
      have none : rest.countP (· < b) = 0 :=
        List.countP_eq_zero.mpr fun c later => by simpa using asymm (first c later)
      have self : ¬ b < b := irrefl b
      simp [none, self]
    · have later : a ∈ rest := (List.mem_cons.mp member).resolve_left (Ne.symm same)
      simp [same, ih tail later, first a later]

namespace RankTable

/-- A value's place among given values: how many distinct ones lie below it. -/
def rankAmong (values : List Float) (x : Float) : Ordinal :=
  ((values.map ValueKey.ofValue).toFinset.filter (· < ValueKey.ofValue x)).card

theorem keys_pairwise (values : List Float) : (ofValues values).keys.Pairwise (· < ·) :=
  Ascending.ofList_pairwise _

theorem mem_keys {values : List Float} {key : ValueKey} :
    key ∈ (ofValues values).keys ↔ ∃ x ∈ values, ValueKey.ofValue x = key := by
  simp only [ofValues, Ascending.mem_ofList, List.mem_map]

theorem rank?_ofValues {values : List Float} {x : Float} (member : x ∈ values) :
    (ofValues values).rank? x = some (rankAmong values x) := by
  have distinct : ((ofValues values).keys.filter (· < ValueKey.ofValue x)).Nodup :=
    (Ascending.ofList_nodup _).filter _
  have below : (values.map ValueKey.ofValue).toFinset.filter (· < ValueKey.ofValue x) =
      ((ofValues values).keys.filter (· < ValueKey.ofValue x)).toFinset := by
    ext key
    simp [mem_keys]
  rw [rank?, Ascending.idxOf?_eq (keys_pairwise values) (mem_keys.mpr ⟨x, member, rfl⟩), rankAmong,
    below, List.toFinset_card_of_nodup distinct, List.countP_eq_length_filter]

theorem rankAmong_lt_size {values : List Float} {x : Float} (member : x ∈ values) :
    rankAmong values x < (ofValues values).size := by
  obtain ⟨within, _⟩ := List.idxOf?_eq_some_iff.mp (rank?_ofValues member)
  exact within

theorem ofValues_perm {xs ys : List Float} (same : xs.Perm ys) : ofValues xs = ofValues ys := by
  simp only [ofValues, mk.injEq]
  exact Ascending.ofList_congr fun key => (same.map _).mem_iff

theorem rankAmong_perm {xs ys : List Float} (same : xs.Perm ys) : rankAmong xs = rankAmong ys := by
  funext x
  rw [rankAmong, rankAmong, List.toFinset_eq_of_perm _ _ (same.map ValueKey.ofValue)]

end RankTable

theorem Specials.ofValues_perm {xs ys : List Float} (same : xs.Perm ys) :
    ofValues xs = ofValues ys := by
  simp only [ofValues, same.any_eq]

namespace LinearScale

theorem ofValues_perm (kind : NumberKind) {xs ys : List Float} (same : xs.Perm ys) :
    ofValues kind xs = ofValues kind ys := by
  unfold ofValues
  rw [Number.extremes?_perm (same.filter _)]

theorem positionOf_lt (scale : LinearScale) (x : Float) : scale.positionOf x < size := by
  have bound : boundariesReached ((x - scale.low) / scale.width) ≤ 9 := by
    simpa [boundariesReached] using List.countP_le_length (l := List.range 9)
  unfold positionOf size
  split
  · decide
  · split
    · decide
    · exact Nat.lt_succ_of_le bound

theorem bucketOf_lt (scale : LinearScale) (x : Float) : scale.bucketOf x < size := by
  have position := scale.positionOf_lt x
  unfold bucketOf
  split
  · unfold snap
    cases found : List.find? (fun o => (scale.rangeOf o).contains (Number.toInt64 Number.truncate x))
        [scale.positionOf x - 1, scale.positionOf x, min (scale.positionOf x + 1) 9] with
    | none => exact position
    | some ordinal =>
      have member := List.mem_of_find?_eq_some found
      simp only [List.mem_cons, List.not_mem_nil, or_false, Ordinal] at member
      simp only [size, Ordinal, Option.getD_some] at position ⊢
      omega
  · exact position

end LinearScale

namespace LogScale

theorem bucketOfRat_lt (q : Rat) : bucketOfRat q < size := by
  simp only [bucketOfRat, size, Ordinal]
  split
  · omega
  · split <;> omega

theorem bucketOf_lt (x : Float) : bucketOf x < size := by
  unfold bucketOf
  split
  · decide
  · decide
  · decide
  · exact bucketOfRat_lt _

end LogScale

namespace NumberScale

theorem bucketOf_lt (scale : NumberScale) (x : Float) : scale.bucketOf x < scale.size := by
  cases scale with
  | log => exact LogScale.bucketOf_lt x
  | linear scale => exact scale.bucketOf_lt x

/-- What a bucket shows does not depend on the order of the values. -/
theorem shown_perm (kind : NumberKind) {xs ys : List Float} (same : xs.Perm ys)
    (scale : NumberScale) (ordinal : Ordinal) :
    scale.shown kind xs ordinal = scale.shown kind ys ordinal := by
  cases scale with
  | log => rfl
  | linear scale =>
    unfold shown
    simp only [Number.extremes?_perm (same.filter _), Specials.ofValues_perm same]

end NumberScale

end Facets
