import Facets.Facet.Count
import Facets.Proofs.Ascending
import Facets.Proofs.Except
import Facets.Proofs.Facet.Buckets
import Facets.Proofs.Labels

/-!
Histograms as functions of ordinals. The buckets of a histogram that was counted have distinct
ordinals and labels that were not looked up, and what is asked of a histogram by ordinals does not
depend on the order of its buckets.
-/

namespace Facets

namespace Histogram

/-- No two buckets of a histogram have the same ordinal. -/
def Distinct (histogram : Histogram) : Prop := (histogram.buckets.map (·.ordinal)).Nodup

variable {histogram other : Histogram}

theorem total_congr (same : (histogram.buckets.map (·.count)).Perm (other.buckets.map (·.count))) :
    histogram.total = other.total := by
  rw [total_eq_sum, total_eq_sum, same.sum_eq]

theorem ordinals_congr
    (same : (histogram.buckets.map (·.ordinal)).Perm (other.buckets.map (·.ordinal))) :
    histogram.ordinals = other.ordinals :=
  Ascending.ofList_congr fun _ => same.mem_iff

theorem Distinct.congr (distinct : histogram.Distinct)
    (same : (other.buckets.map (·.ordinal)).Perm (histogram.buckets.map (·.ordinal))) :
    other.Distinct :=
  same.nodup_iff.mpr distinct

/-- The bucket of an ordinal is the one that has it. -/
theorem Distinct.bucket?_eq_some_iff (distinct : histogram.Distinct) {ordinal : Ordinal}
    {bucket : Bucket} : histogram.bucket? ordinal = some bucket ↔
      bucket ∈ histogram.buckets ∧ bucket.ordinal = ordinal := by
  constructor
  · intro found
    exact ⟨List.mem_of_find?_eq_some found, by simpa using List.find?_some found⟩
  · rintro ⟨member, rfl⟩
    cases found : histogram.bucket? bucket.ordinal with
    | none => exact absurd (List.find?_eq_none.mp found bucket member) (by simp)
    | some first =>
      have same : first.ordinal = bucket.ordinal := by simpa using List.find?_some found
      exact congrArg some
        (List.inj_on_of_nodup_map distinct (List.mem_of_find?_eq_some found) member same)

/-- Buckets that were changed but for their ordinals, and reordered, are found by the same ordinals. -/
theorem Distinct.bucket?_of_perm_map (distinct : histogram.Distinct) {change : Bucket → Bucket}
    (still : ∀ bucket, (change bucket).ordinal = bucket.ordinal)
    (same : other.buckets.Perm (histogram.buckets.map change)) (ordinal : Ordinal) :
    other.bucket? ordinal = (histogram.bucket? ordinal).map change := by
  have ordinals : (other.buckets.map (·.ordinal)).Perm (histogram.buckets.map (·.ordinal)) := by
    refine (same.map _).trans (List.Perm.of_eq ?_)
    rw [List.map_map]
    exact List.map_congr_left fun bucket _ => still bucket
  ext found
  rw [(distinct.congr ordinals).bucket?_eq_some_iff, same.mem_iff, List.mem_map, Option.map_eq_some_iff]
  constructor
  · rintro ⟨⟨bucket, member, rfl⟩, here⟩
    exact ⟨bucket, distinct.bucket?_eq_some_iff.mpr ⟨member, (still bucket).symm.trans here⟩, rfl⟩
  · rintro ⟨bucket, here, rfl⟩
    obtain ⟨member, here⟩ := distinct.bucket?_eq_some_iff.mp here
    exact ⟨⟨bucket, member, rfl⟩, (still bucket).trans here⟩

end Histogram

theorem Buckets.tally_nodup (buckets : Buckets) (describe : Ordinal → Option Descriptor) :
    ((buckets.tally describe).map (·.ordinal)).Nodup :=
  (Bucket.ordinals_pairwise (Ascending.ofList_pairwise _) describe _).imp fun less => ne_of_lt less

namespace Facet

variable {facet : Facet} {memory : FacetMemory} {hits : Hits} {histogram : Histogram}

/-- Buckets as counting makes them: with distinct ordinals, and labels that were not looked up. -/
def Unread (buckets : List Bucket) : Prop :=
  (buckets.map (·.ordinal)).Nodup ∧ ∀ bucket ∈ buckets, bucket.text? = none

theorem unread_tally (buckets : Buckets) {describe : Ordinal → Option Descriptor}
    (unread : ∀ ordinal descriptor count, describe ordinal = some descriptor →
      Bucket.text? ⟨ordinal, descriptor, count⟩ = none) : Unread (buckets.tally describe) := by
  refine ⟨buckets.tally_nodup describe, fun bucket member => ?_⟩
  obtain ⟨ordinal, _, atBucket⟩ := List.mem_filterMap.mp member
  obtain ⟨descriptor, described, rfl⟩ := Option.map_eq_some_iff.mp atBucket
  exact unread ordinal descriptor _ described

theorem unread_countOnScale {reader : Reader Int64} {scale : NumberScale} {plan : Plan}
    {trace : Trace} {buckets : List Bucket}
    (counted : (facet.countOnScale reader scale memory hits plan trace).result = .ok buckets) :
    Unread buckets := by
  unfold countOnScale at counted
  split at counted <;> cases counted
  exact unread_tally _ fun ordinal descriptor count described => by
    cases described
    rfl

theorem unread_countExact {reader : Reader Int64} {plan : Plan} {buckets : List Bucket}
    (counted : (facet.countExact reader memory hits plan).result = .ok buckets) :
    Unread buckets := by
  unfold countExact at counted
  split at counted <;> cases counted
  exact unread_tally _ fun ordinal descriptor count described => by
    obtain ⟨_, _, rfl⟩ := Option.map_eq_some_iff.mp described
    rfl

theorem unread_countTerms {column : TermColumn} {style : LabelStyle} {expander : Option Expander}
    {plan : Plan} {buckets : List Bucket}
    (counted : (facet.countTerms column style expander memory hits plan).result = .ok buckets) :
    Unread buckets := by
  unfold countTerms at counted
  split at counted <;> cases counted
  exact unread_tally _ fun ordinal descriptor count described => by
    cases described
    rfl

/-- A histogram that was counted has distinct ordinals, and no label of it was looked up. -/
theorem unread_of_counted (counted : (facet.count memory hits).result = .ok histogram) :
    Unread histogram.buckets := by
  unfold count at counted
  split at counted
  case h_1 =>
    cases counted
    exact ⟨List.nodup_nil, List.forall_mem_nil _⟩
  case h_2 =>
    obtain ⟨buckets, swept, rfl⟩ := exists_of_map_ok counted
    simp only [Sweep.toPass, countLinear] at swept
    split at swept
    · cases swept
    · exact unread_countOnScale swept
  case h_3 =>
    obtain ⟨buckets, swept, rfl⟩ := exists_of_map_ok counted
    exact unread_countOnScale swept
  case h_4 =>
    obtain ⟨buckets, swept, rfl⟩ := exists_of_map_ok counted
    exact unread_countExact swept
  case h_5 =>
    obtain ⟨buckets, swept, rfl⟩ := exists_of_map_ok counted
    exact unread_countTerms swept

end Facet

end Facets
