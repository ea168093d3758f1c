import Facets.Proofs.Facet.Calls

/-!
Narrowing what was narrowed before. Where the buckets of a hit do not depend on the other hits,
narrowing is a filter: it can be repeated, split and reordered, also between facets.
-/

namespace Facets

namespace Hits

variable {hits : Hits} {bucketsOf others : Item → Finset Ordinal} {first second : List Ordinal}

theorem mem_within {hit : Hit} : hit ∈ hits.within bucketsOf first ↔
    hit ∈ hits ∧ ∃ ordinal ∈ first, ordinal ∈ bucketsOf hit.item := by
  simp only [within, List.mem_filter, decide_eq_true_eq]

theorem within_within : Hits.within (hits.within bucketsOf first) others second =
    hits.filter fun hit => (∃ ordinal ∈ first, ordinal ∈ bucketsOf hit.item) ∧
      ∃ ordinal ∈ second, ordinal ∈ others hit.item := by
  rw [within, within, List.filter_filter]
  refine List.filter_congr fun hit _ => ?_
  rw [Bool.and_comm, ← Bool.decide_and]

theorem within_self : Hits.within (hits.within bucketsOf first) bucketsOf first =
    hits.within bucketsOf first := by
  rw [within_within]
  exact List.filter_congr fun hit _ => decide_eq_decide.mpr and_self_iff

/-- Filters of a result set may change places. -/
theorem within_swap : Hits.within (hits.within others second) bucketsOf first =
    hits.filter fun hit => (∃ ordinal ∈ first, ordinal ∈ bucketsOf hit.item) ∧
      ∃ ordinal ∈ second, ordinal ∈ others hit.item := by
  rw [within_within]
  exact List.filter_congr fun hit _ => decide_eq_decide.mpr and_comm

/-- The hits of either of two sets of buckets, in the order of the result set. -/
theorem within_either {both : List Ordinal}
    (union : ∀ ordinal, ordinal ∈ both ↔ ordinal ∈ first ∨ ordinal ∈ second) :
    hits.within bucketsOf both = hits.filter fun hit =>
      hit ∈ hits.within bucketsOf first ∨ hit ∈ hits.within bucketsOf second := by
  refine List.filter_congr fun hit member => ?_
  simp only [mem_within, member, true_and, union, or_and_right, exists_or]

/-- A hit among others is kept by its own buckets, whatever the others are. -/
theorem within_among (bucketsOf : Item → Finset Ordinal) (ordinals : List Ordinal)
    (earlier later : Hits) (hit : Hit) :
    Hits.within (earlier ++ hit :: later) bucketsOf ordinals =
      earlier.within bucketsOf ordinals ++
        (if decide (∃ ordinal ∈ ordinals, ordinal ∈ bucketsOf hit.item) = true then [hit] else []) ++
        later.within bucketsOf ordinals := by
  simp only [within, List.filter_append, List.filter_cons, List.append_assoc]
  split
  · rw [List.singleton_append]
  · rw [List.nil_append]

end Hits

namespace Facet

/-- Whether the buckets of a facet are ranks among the values of a result set. -/
def isRanked (facet : Facet) : Bool :=
  match facet.source, facet.mode with
  | .numeric _, .exact => true
  | _, _ => false

/-- A facet in use whose buckets are settled: they are no ranks, and if they are those of a fitted
scale, a scale is stored. Its rows always answer the same and its cursors open. -/
structure Settled (facet : Facet) (rows : RowAnswers) (memory : FacetMemory) : Prop where
  steady : facet.AnswersBy rows
  opening : ∀ n, facet.opens n = .ok ()
  faithful : facet.Faithful memory
  unranked : facet.isRanked = false
  scaled : facet.isFitted = true → memory.scale.isSome

/-- The buckets that an item has by itself. -/
def ownBuckets (facet : Facet) (rows : RowAnswers) (memory : FacetMemory) : Item → Finset Ordinal :=
  facet.bucketsAmong rows (memory.scale.getD (facet.rowFit rows [])) []

variable {facet : Facet} {rows : RowAnswers} {memory : FacetMemory}

namespace Settled

theorem of_calls (steady : facet.AnswersBy rows) (opening : ∀ n, facet.opens n = .ok ())
    (unranked : facet.isRanked = false) (calls : List Call)
    (scaled : facet.isFitted = true → (facet.after calls).scale.isSome) :
    facet.Settled rows (facet.after calls) :=
  ⟨steady, opening, facet.faithful_after calls, unranked, scaled⟩

/-- Among any hits, an item has the buckets that it has by itself. -/
theorem bucketsAmong_eq (settled : facet.Settled rows memory) (hits : Hits) :
    facet.bucketsAmong rows (memory.scale.getD (facet.rowFit rows hits)) hits =
      facet.ownBuckets rows memory := by
  funext item
  unfold ownBuckets bucketsAmong bucketsOf
  cases source : facet.source with
  | absent => rfl
  | enumerated column style dictionary expander => rfl
  | numeric reader =>
    have rule : facet.bucketOf (memory.scale.getD (facet.rowFit rows hits))
        (facet.rowValues rows hits) =
        facet.bucketOf (memory.scale.getD (facet.rowFit rows [])) (facet.rowValues rows []) := by
      unfold bucketOf
      cases mode : facet.mode with
      | linear =>
        have fitted : facet.isFitted = true := by simp only [isFitted, source, mode]
        obtain ⟨scale, stored⟩ := Option.isSome_iff_exists.mp (settled.scaled fitted)
        rw [stored, Option.getD_some, Option.getD_some]
      | log => rfl
      | exact =>
        have ranked := settled.unranked
        simp only [isRanked, source, mode, Bool.true_eq_false] at ranked
    dsimp only
    rw [rule]

theorem narrow_result (settled : facet.Settled rows memory) (hits : Hits)
    (ordinals : List Ordinal) : (facet.narrow memory hits ordinals).result =
      .ok (hits.within (facet.ownBuckets rows memory) ordinals) := by
  rw [Facet.narrow_result settled.faithful settled.steady,
    narrowOpens_of_opening settled.opening, settled.bucketsAmong_eq]
  rfl

theorem narrow_scale (settled : facet.Settled rows memory) (hits : Hits)
    (ordinals : List Ordinal) :
    (facet.narrow memory hits ordinals).memory.scale = memory.scale := by
  rw [Facet.narrow_scale]
  cases fitted : facet.isFitted with
  | true =>
    obtain ⟨scale, stored⟩ := Option.isSome_iff_exists.mp (settled.scaled fitted)
    rw [stored, Option.some_or]
  | false => rw [fit?_of_unfitted fitted, Option.or_none]

/-- Narrowing leaves the buckets settled as they are. -/
theorem narrow (settled : facet.Settled rows memory) (hits : Hits) (ordinals : List Ordinal) :
    facet.Settled rows (facet.narrow memory hits ordinals).memory where
  steady := settled.steady
  opening := settled.opening
  faithful := settled.faithful.narrow hits ordinals
  unranked := settled.unranked
  scaled fitted := by
    rw [settled.narrow_scale]
    exact settled.scaled fitted

theorem ownBuckets_narrow (settled : facet.Settled rows memory) (hits : Hits)
    (ordinals : List Ordinal) :
    facet.ownBuckets rows (facet.narrow memory hits ordinals).memory =
      facet.ownBuckets rows memory := by
  rw [ownBuckets, ownBuckets, settled.narrow_scale]

theorem narrow_narrow_result (settled : facet.Settled rows memory) (hits others : Hits)
    (ordinals wanted : List Ordinal) :
    (facet.narrow (facet.narrow memory hits ordinals).memory others wanted).result =
      .ok (others.within (facet.ownBuckets rows memory) wanted) := by
  rw [(settled.narrow hits ordinals).narrow_result, settled.ownBuckets_narrow]

end Settled

/-- On a settled facet, narrowing picks hits one by one and in their order: to two sets of buckets at
once it picks what it picks to either, twice to the same buckets it picks what it picks once, and to
one set after the other it picks the hits in buckets of both, in whatever order the two come. The same
holds for one set on each of two settled facets. -/
theorem narrowing_composes {other : Facet} {rows' : RowAnswers} {memory' : FacetMemory}
    (settled : facet.Settled rows memory) (settled' : other.Settled rows' memory') (hits : Hits)
    (first second : List Ordinal) :
    let buckets := facet.ownBuckets rows memory
    let buckets' := other.ownBuckets rows' memory'
    let narrowed := hits.within buckets first
    let after := (facet.narrow memory hits first).memory
    (facet.narrow memory hits first).result = .ok narrowed ∧ narrowed.Sublist hits ∧
    (∀ both, (∀ ordinal, ordinal ∈ both ↔ ordinal ∈ first ∨ ordinal ∈ second) →
      (facet.narrow memory hits both).result = .ok (hits.filter fun hit =>
        hit ∈ narrowed ∨ hit ∈ hits.within buckets second)) ∧
    (facet.narrow after narrowed first).result = .ok narrowed ∧
    (facet.narrow after narrowed second).result = .ok (hits.filter fun hit =>
      (∃ ordinal ∈ first, ordinal ∈ buckets hit.item) ∧
        ∃ ordinal ∈ second, ordinal ∈ buckets hit.item) ∧
    (facet.narrow (facet.narrow memory hits second).memory (hits.within buckets second)
      first).result = (facet.narrow after narrowed second).result ∧
    (other.narrow memory' hits second).result = .ok (hits.within buckets' second) ∧
    (other.narrow memory' narrowed second).result = .ok (hits.filter fun hit =>
      (∃ ordinal ∈ first, ordinal ∈ buckets hit.item) ∧
        ∃ ordinal ∈ second, ordinal ∈ buckets' hit.item) ∧
    (facet.narrow memory (hits.within buckets' second) first).result =
      (other.narrow memory' narrowed second).result := by
  intro buckets buckets' narrowed after
  refine ⟨settled.narrow_result hits first, List.filter_sublist, ?_, ?_, ?_, ?_,
    settled'.narrow_result hits second, ?_, ?_⟩
  · intro both union
    rw [settled.narrow_result, Hits.within_either union]
  · rw [settled.narrow_narrow_result, Hits.within_self]
  · rw [settled.narrow_narrow_result, Hits.within_within]
  · rw [settled.narrow_narrow_result, settled.narrow_narrow_result, Hits.within_within,
      Hits.within_swap]
  · rw [settled'.narrow_result, Hits.within_within]
  · rw [settled.narrow_result, settled'.narrow_result, Hits.within_within, Hits.within_swap]

theorem narrowing_composes_market :
    let hits := TableIndex.marketHits
    ∃ price colour, TableIndex.market.toIndex.facet .default "price" .linear = .ok price ∧
      TableIndex.market.toIndex.facet .default "colour" .linear = .ok colour ∧
      (price.narrow (price.after [.count hits]) (hits.within
        (colour.ownBuckets (TableIndex.market.answers "colour") .fresh) [1]) [5]).result =
      (colour.narrow .fresh (hits.within (price.ownBuckets (TableIndex.market.answers "price")
        (price.after [.count hits])) [5]) [1]).result ∧
      (price.narrow (price.after [.count hits]) [⟨⟨0, 2, none⟩, 3⟩, ⟨⟨0, 0, none⟩, 4⟩] [5]).result =
        .ok [⟨⟨0, 2, none⟩, 3⟩] := by
  intro hits
  have ⟨steady, opening⟩ :=
    @TableIndex.facet_answersBy TableIndex.market .default "price" .linear _ rfl
  have ⟨steady', opening'⟩ :=
    @TableIndex.facet_answersBy TableIndex.market .default "colour" .linear _ rfl
  have settled := Settled.of_calls steady opening rfl [.count hits] fun _ => rfl
  have settled' := Settled.of_calls steady' opening' rfl [] fun fitted => by cases fitted
  have composes := narrowing_composes settled settled' hits [5] [1]
  refine ⟨_, _, rfl, rfl, composes.2.2.2.2.2.2.2.2, ?_⟩
  decide +kernel

end Facet

end Facets
