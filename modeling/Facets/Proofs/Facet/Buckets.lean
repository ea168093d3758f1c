import Facets.Facet.Buckets
import Facets.Proofs.Plan

namespace Facets

theorem Histogram.total_eq_sum (histogram : Histogram) :
    histogram.total = (histogram.buckets.map (·.count)).sum := by
  rw [total, List.sum_eq_foldr, List.foldr_map]

namespace Bucket

/-- Buckets that are described one after the other keep the order of their ordinals. -/
theorem ordinals_pairwise {ordinals : List Ordinal} (ascending : ordinals.Pairwise (· < ·))
    (describe : Ordinal → Option Descriptor) (countOf : Ordinal → Nat) :
    ((ordinals.filterMap fun ordinal => (describe ordinal).map fun descriptor =>
      (⟨ordinal, descriptor, countOf ordinal⟩ : Bucket)).map (·.ordinal)).Pairwise (· < ·) := by
  rw [List.pairwise_map]
  refine List.Pairwise.filterMap _ ?_ ascending
  intro ordinal later less bucket atBucket next atNext
  obtain ⟨_, _, rfl⟩ := Option.map_eq_some_iff.mp atBucket
  obtain ⟨_, _, rfl⟩ := Option.map_eq_some_iff.mp atNext
  exact less

/-- The buckets that some sets of ordinals fill: each ordinal of any set, ascending, with the number
of sets it is in. -/
def listOf (sets : List (Finset Ordinal)) (describe : Ordinal → Option Descriptor) : List Bucket :=
  ((sets.toFinset.biUnion id).sort (· ≤ ·)).filterMap fun ordinal =>
    (describe ordinal).map fun descriptor =>
      ⟨ordinal, descriptor, sets.countP fun set => ordinal ∈ set⟩

variable {sets : List (Finset Ordinal)} {describe : Ordinal → Option Descriptor}

theorem mem_union_iff {ordinal : Ordinal} :
    ordinal ∈ sets.toFinset.biUnion id ↔ 0 < sets.countP fun set => ordinal ∈ set := by
  simp only [Finset.mem_biUnion, List.mem_toFinset, id_eq, List.countP_pos_iff, decide_eq_true_eq]

theorem mem_listOf {bucket : Bucket} : bucket ∈ listOf sets describe ↔
    0 < bucket.count ∧ describe bucket.ordinal = some bucket.descriptor ∧
      bucket.count = sets.countP fun set => bucket.ordinal ∈ set := by
  simp only [listOf, List.mem_filterMap, Finset.mem_sort, mem_union_iff, Option.map_eq_some_iff]
  constructor
  · rintro ⟨ordinal, filled, descriptor, described, rfl⟩
    exact ⟨filled, described, rfl⟩
  · rintro ⟨filled, described, counted⟩
    refine ⟨bucket.ordinal, counted ▸ filled, bucket.descriptor, described, ?_⟩
    rw [← counted]

theorem listOf_pairwise : ((listOf sets describe).map (·.ordinal)).Pairwise (· < ·) :=
  ordinals_pairwise (Finset.sortedLT_sort _).pairwise describe _

/-- Sets that put the same number of documents into each bucket fill the same buckets. -/
theorem listOf_congr {others : List (Finset Ordinal)} {describe' : Ordinal → Option Descriptor}
    (counts : ∀ ordinal,
      (sets.countP fun set => ordinal ∈ set) = others.countP fun set => ordinal ∈ set)
    (descriptors : ∀ ordinal, describe ordinal = describe' ordinal) :
    listOf sets describe = listOf others describe' := by
  have members : sets.toFinset.biUnion id = others.toFinset.biUnion id := by
    ext ordinal
    rw [mem_union_iff, mem_union_iff, counts]
  simp only [listOf, members, counts, descriptors]

/-- Counting over all buckets counts every member of every set once. -/
theorem sum_countP_mem {space : Finset Ordinal} (within : ∀ set ∈ sets, set ⊆ space) :
    (∑ ordinal ∈ space, sets.countP fun set => ordinal ∈ set) = (sets.map Finset.card).sum := by
  induction sets with
  | nil => simp
  | cons set rest ih =>
    have inner : space.filter (· ∈ set) = set := by
      rw [Finset.filter_mem_eq_inter]
      exact Finset.inter_eq_right.mpr (within set List.mem_cons_self)
    have tail := ih fun other member => within other (List.mem_cons_of_mem _ member)
    simp only [List.countP_cons, Finset.sum_add_distrib, decide_eq_true_eq, tail,
      ← Finset.card_filter, inner, List.map_cons, List.sum_cons]
    omega

section Described

variable {histogram : Histogram}
  (described : ∀ ordinal, (0 < sets.countP fun set => ordinal ∈ set) → (describe ordinal).isSome)
  (listed : histogram.buckets = listOf sets describe)

include described listed

/-- The bucket of an ordinal counts the sets that hold it. -/
theorem count_of_listOf (ordinal : Ordinal) :
    histogram.count ordinal = sets.countP fun set => ordinal ∈ set := by
  unfold Histogram.count Histogram.bucket?
  rw [listed]
  cases found : (listOf sets describe).find? (·.ordinal == ordinal) with
  | some bucket =>
    obtain ⟨_, _, counted⟩ := mem_listOf.mp (List.mem_of_find?_eq_some found)
    have same : bucket.ordinal = ordinal := by simpa using List.find?_some found
    rw [same] at counted
    simpa using counted
  | none =>
    rw [List.find?_eq_none] at found
    by_contra absent
    have filled : 0 < sets.countP fun set => ordinal ∈ set := Nat.pos_of_ne_zero (Ne.symm absent)
    obtain ⟨descriptor, atOrdinal⟩ := Option.isSome_iff_exists.mp (described ordinal filled)
    exact found ⟨ordinal, descriptor, _⟩ (mem_listOf.mpr ⟨filled, atOrdinal, rfl⟩) (by simp)

theorem mem_ordinals_of_listOf {ordinal : Ordinal} :
    ordinal ∈ histogram.ordinals ↔ 0 < sets.countP fun set => ordinal ∈ set := by
  simp only [Histogram.ordinals, Ascending.mem_ofList, List.mem_map, listed]
  constructor
  · rintro ⟨bucket, member, rfl⟩
    obtain ⟨filled, _, counted⟩ := mem_listOf.mp member
    exact counted ▸ filled
  · intro filled
    obtain ⟨descriptor, atOrdinal⟩ := Option.isSome_iff_exists.mp (described ordinal filled)
    exact ⟨⟨ordinal, descriptor, _⟩, mem_listOf.mpr ⟨filled, atOrdinal, rfl⟩, rfl⟩

/-- A document adds to the total as often as its set has members. -/
theorem total_of_listOf : histogram.total = (sets.map Finset.card).sum := by
  have counts : (listOf sets describe).map (·.count) =
      ((sets.toFinset.biUnion id).sort (· ≤ ·)).map fun ordinal =>
        sets.countP fun set => ordinal ∈ set := by
    unfold listOf
    rw [List.map_filterMap, ← List.filterMap_eq_map]
    refine List.filterMap_congr fun ordinal member => ?_
    rw [Finset.mem_sort, mem_union_iff] at member
    obtain ⟨descriptor, atOrdinal⟩ := Option.isSome_iff_exists.mp (described ordinal member)
    simp [atOrdinal]
  rw [histogram.total_eq_sum, listed, counts, ← List.sum_toFinset _ (Finset.sort_nodup _ _),
    Finset.sort_toFinset]
  refine sum_countP_mem fun set member ordinal within => ?_
  exact Finset.mem_biUnion.mpr ⟨set, List.mem_toFinset.mpr member, within⟩

end Described

end Bucket

namespace Buckets

/-- Buckets that spread hits over sets: up to their order, the documents are those of the hits, each
in the buckets of its hit's set, and the set of a hit without a document is empty. -/
def Spread (buckets : Buckets) (hits : Hits) (setOf : Hit × Nat → Finset Ordinal) : Prop :=
  ∃ document? : Hit × Nat → Option (List Ordinal),
    buckets.Perm (hits.zipIdx.filterMap fun place => (document? place).map (place.2, ·)) ∧
    ∀ place ∈ hits.zipIdx, ((document? place).getD []).toFinset = setOf place

variable {buckets : Buckets} {hits : Hits} {setOf : Hit × Nat → Finset Ordinal}

theorem Spread.congr {others : Hit × Nat → Finset Ordinal} (spread : buckets.Spread hits setOf)
    (same : ∀ place ∈ hits.zipIdx, setOf place = others place) : buckets.Spread hits others := by
  obtain ⟨document?, perm, sets⟩ := spread
  exact ⟨document?, perm, fun place member => (sets place member).trans (same place member)⟩

theorem Spread.count_eq (spread : buckets.Spread hits setOf) (ordinal : Ordinal) :
    buckets.count ordinal = (hits.zipIdx.map setOf).countP fun set => ordinal ∈ set := by
  obtain ⟨document?, same, sets⟩ := spread
  rw [count, same.countP_eq, List.countP_filterMap, List.countP_map]
  refine List.countP_congr fun place member => ?_
  rw [Function.comp_apply, ← sets place member]
  cases document? place <;> simp

theorem Spread.matched_eq (spread : buckets.Spread hits setOf) :
    buckets.matched = (hits.zipIdx.map setOf).countP fun set => set.Nonempty := by
  obtain ⟨document?, same, sets⟩ := spread
  rw [matched, same.countP_eq, List.countP_filterMap, List.countP_map]
  refine List.countP_congr fun place member => ?_
  rw [Function.comp_apply, ← sets place member]
  cases document? place with
  | none => simp
  | some ordinals => cases ordinals <;> simp

theorem mem_occupied {ordinal : Ordinal} : ordinal ∈ buckets.occupied ↔ 0 < buckets.count ordinal := by
  simp only [occupied, count, Ascending.mem_ofList, List.mem_flatMap, List.countP_pos_iff,
    List.contains_iff_mem]

theorem Spread.tally_eq (spread : buckets.Spread hits setOf)
    (describe : Ordinal → Option Descriptor) :
    buckets.tally describe = Bucket.listOf (hits.zipIdx.map setOf) describe := by
  have ordinals : buckets.occupied =
      ((hits.zipIdx.map setOf).toFinset.biUnion id).sort (· ≤ ·) := by
    refine (Ascending.ofList_pairwise _).eq_of_mem_iff (Finset.sortedLT_sort _).pairwise ?_
    intro ordinal
    rw [Finset.mem_sort, Bucket.mem_union_iff, ← spread.count_eq]
    exact mem_occupied
  simp only [tally, Bucket.listOf, ordinals, spread.count_eq]

/-- Picking by bucket leaves the hits in their order. -/
theorem Spread.picked_eq (spread : buckets.Spread hits setOf) (wanted : List Ordinal) :
    hits.atPositions (buckets.positionsIn wanted) =
      (hits.zipIdx.filter fun place => ∃ ordinal ∈ wanted, ordinal ∈ setOf place).map (·.1) := by
  obtain ⟨document?, same, sets⟩ := spread
  let chosen := hits.zipIdx.filter fun place => ∃ ordinal ∈ wanted, ordinal ∈ setOf place
  have ascending : (chosen.map (·.2)).Pairwise (· < ·) :=
    List.pairwise_map.mpr (hits.zipIdx_pairwise.filter _)
  have positions : buckets.positionsIn wanted = chosen.map (·.2) := by
    refine (Ascending.ofList_pairwise _).eq_of_mem_iff ascending fun position => ?_
    rw [Ascending.mem_ofList, (same.filterMap _).mem_iff]
    simp only [List.mem_filterMap, List.mem_map, List.mem_filter, chosen, Option.map_eq_some_iff,
      decide_eq_true_eq]
    constructor
    · rintro ⟨_, ⟨place, member, ordinals, atPlace, rfl⟩, picked⟩
      obtain ⟨meets, here⟩ := Option.ite_none_right_eq_some.mp picked
      cases here
      obtain ⟨ordinal, within, inWanted⟩ := List.any_eq_true.mp meets
      refine ⟨place, ⟨member, ordinal, List.contains_iff_mem.mp inWanted, ?_⟩, rfl⟩
      rw [← sets place member]
      simpa [atPlace] using within
    · rintro ⟨place, ⟨member, ordinal, inWanted, within⟩, rfl⟩
      rw [← sets place member] at within
      cases atPlace : document? place with
      | none => simp [atPlace] at within
      | some ordinals =>
        refine ⟨_, ⟨place, member, ordinals, atPlace, rfl⟩, ?_⟩
        have meets : ordinals.any wanted.contains = true :=
          List.any_eq_true.mpr ⟨ordinal, by simpa [atPlace] using within,
            List.contains_iff_mem.mpr inWanted⟩
        simp only [meets, if_true]
  rw [positions, Hits.atPositions, List.filterMap_map, ← List.filterMap_eq_map]
  refine List.filterMap_congr fun place member => ?_
  exact List.mem_zipIdx_iff_getElem?.mp (List.mem_filter.mp member).1

end Buckets

end Facets
