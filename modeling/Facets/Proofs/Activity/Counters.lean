import Facets.Proofs.Activity.Tally
import Facets.Proofs.Number.Arithmetic
import Facets.Proofs.Number.Whole
import Facets.Proofs.Text.Bytes

/-!
Counters of all fields together and counters of each field. As long as no counter is full, the ones are
the sums of the others, and a report shows for each field what its events add up to.
-/

namespace Facets

namespace Gauge

/-- A counter of one event counts it. -/
theorem tally_eq_count {gauge : Gauge} {counted : Event}
    (counts : ∀ event, gauge.added event = if event = counted then 1 else 0) (events : List Event) :
    gauge.tally events = events.count counted := by
  induction events with
  | nil => rfl
  | cons event rest ih =>
    rw [tally, List.map_cons, List.sum_cons, ← tally, ih, counts, List.count_cons, Nat.add_comm]
    simp only [beq_iff_eq]

theorem tally_probes (hit : Bool) (events : List Event) :
    (probes hit).tally events = events.count (.cacheProbed hit) := by
  refine tally_eq_count (fun event => ?_) events
  cases event with
  | cacheProbed probed => cases probed <;> cases hit <;> rfl
  | started | finished | skipped | labelResolved => rfl

theorem tally_labels (events : List Event) : labels.tally events = events.count .labelResolved := by
  refine tally_eq_count (fun event => ?_) events
  cases event <;> rfl

end Gauge

namespace Measure

/-- The counters that count the same for all fields together. -/
def gauges : Measure → List Gauge
  | passes kind => [.passes kind]
  | visited => [.visited]
  | matched => [.matched]
  | skipped => [.skipped .malformed, .skipped .unreadable, .skipped .ordinalOutOfRange,
      .skipped .unknownTag, .skipped .unknownItem]

/-- What an event adds to the counters of its field, it adds to those of all fields. -/
theorem added_eq (measure : Measure) (event : Event) :
    measure.added event = (measure.gauges.map (·.added event)).sum := by
  rcases measure with (_ | _) | _ | _ | _ <;>
  cases event with
  | started kind => cases kind <;> rfl
  | skipped _ reason => cases reason <;> rfl
  | cacheProbed hit => cases hit <;> rfl
  | finished | labelResolved => rfl

/-- Events without a field add nothing. -/
theorem added_of_field?_eq_none (measure : Measure) {event : Event} (without : event.field? = none) :
    measure.added event = 0 := by
  cases event with
  | started | finished | skipped => cases without
  | cacheProbed | labelResolved => rfl

theorem sum_gauges (measure : Measure) (events : List Event) :
    (measure.gauges.map (·.tally events)).sum = (events.map measure.added).sum := by
  induction events with
  | nil => simp [Gauge.tally]
  | cons event rest ih =>
    simp only [Gauge.tally, List.map_cons, List.sum_cons, List.sum_map_add] at ih ⊢
    rw [ih, measure.added_eq]

/-- Every event counts for the one field it is about. -/
theorem sum_tally (measure : Measure) {names : List String} (distinct : names.Nodup)
    {events : List Event}
    (known : ∀ event ∈ events, ∀ field, event.field? = some field → field ∈ names) :
    (names.map (measure.tally · events)).sum = (events.map measure.added).sum := by
  rw [← List.sum_toFinset _ distinct]
  induction events using List.reverseRecOn with
  | nil => simp [tally]
  | append_singleton events event ih =>
    obtain ⟨earlier, last⟩ := List.forall_mem_append.mp known
    rw [List.map_append, List.sum_append, ← ih earlier, List.map_singleton, List.sum_singleton]
    cases about : event.field? with
    | none =>
      rw [measure.added_of_field?_eq_none about, Nat.add_zero]
      exact Finset.sum_congr rfl fun name _ => measure.tally_concat_other events (by simp [about])
    | some field =>
      have inside : field ∈ names.toFinset := by simpa using last event (by simp) field about
      rw [← Finset.add_sum_erase _ _ inside, ← Finset.add_sum_erase _ _ inside,
        measure.tally_concat_self events about, Nat.add_right_comm]
      congr 2
      refine Finset.sum_congr rfl fun name member => measure.tally_concat_other events ?_
      simpa [about] using (Finset.ne_of_mem_erase member).symm

/-- Every pass over a field was started by an event. -/
theorem tally_passes_le (field : String) (events : List Event) :
    (passes .counting).tally field events + (passes .narrowing).tally field events ≤
      events.length := by
  rw [tally, tally, ← List.sum_map_add]
  refine le_trans (List.sum_le_card_nsmul _ 1 ?_) ?_
  · intro amount member
    obtain ⟨event, _, rfl⟩ := List.mem_map.mp member
    cases event with
    | started kind => cases kind <;> exact le_rfl
    | finished | skipped | cacheProbed | labelResolved => exact Nat.zero_le 1
  · rw [List.length_map, smul_eq_mul, Nat.mul_one]
    exact List.length_filter_le _ _

end Measure

/-- The mean is the double nearest to the quotient, as long as its parts are doubles. -/
theorem FieldCounters.meanVisited_roundsTo (counters : FieldCounters)
    (any : counters.countings + counters.narrowings ≠ 0)
    (few : counters.countings + counters.narrowings ≤ 2 ^ 53) (small : counters.visited ≤ 2 ^ 53) :
    Number.RoundsTo (counters.visited / (counters.countings + counters.narrowings : ℕ))
      counters.meanVisited := by
  have mean : counters.meanVisited = _ := if_neg any
  obtain ⟨visited, finite⟩ :=
    Number.toRat_ofInt (n := counters.visited) (Number.isDouble_of_le (by omega)) (by omega)
  obtain ⟨passes, finites⟩ :=
    Number.toRat_ofInt (n := (counters.countings + counters.narrowings : ℕ))
      (Number.isDouble_of_le (by omega)) (by omega)
  have quotient := Number.roundsTo_div finite finites (by
    rw [passes]
    exact_mod_cast any)
  rw [visited, passes, Int.cast_natCast, Int.cast_natCast] at quotient
  rw [mean]
  exact quotient

namespace Counters

/-- No counter has reached the largest number. -/
structure Below (counters : Counters) : Prop where
  totals : ∀ gauge : Gauge, gauge.read counters.totals < UInt64.size - 1
  fields : ∀ entry ∈ counters.fields, ∀ measure : Measure, measure.read entry.2 < UInt64.size - 1

section Below

variable {counters : Counters} {since : Nat} {events : List Event}
  (tally : counters.Tally since events) (below : counters.Below)

include tally below

theorem Tally.read_total (gauge : Gauge) : gauge.read counters.totals = gauge.tally events :=
  (tally.totals gauge).eq_of_lt (below.totals gauge)

theorem Tally.read_field {entry : String × FieldCounters} (member : entry ∈ counters.fields)
    (measure : Measure) : measure.read entry.2 = measure.tally entry.1 events := by
  have registers := tally.fields measure entry.1
  rw [FieldTable.countersOf_of_mem tally.ascending member] at registers
  exact registers.eq_of_lt (below.fields entry member measure)

/-- The counters of all fields together are the sums of those of each field. -/
theorem Tally.sum_fields (measure : Measure) :
    (measure.gauges.map (·.read counters.totals)).sum =
      (counters.fields.map fun entry => measure.read entry.2).sum := by
  calc (measure.gauges.map (·.read counters.totals)).sum
      = (measure.gauges.map (·.tally events)).sum :=
        congrArg List.sum (List.map_congr_left fun gauge _ => tally.read_total below gauge)
    _ = (events.map measure.added).sum := measure.sum_gauges events
    _ = (counters.fields.names.map (measure.tally · events)).sum := by
        refine (measure.sum_tally tally.ascending.nodup fun event member field about => ?_).symm
        exact (tally.mem_names field).mpr ⟨event, member, about⟩
    _ = (counters.fields.map fun entry => measure.read entry.2).sum := by
        rw [FieldTable.names, List.map_map]
        exact congrArg List.sum (List.map_congr_left fun entry member =>
          (tally.read_field below member measure).symm)

end Below

/-- As long as the events can be numbered in 64 bits, a field's passes can be added up in 64 bits. -/
theorem passes_in_words {since : Nat} {events : List Event} (few : events.length < UInt64.size)
    {entry : String × FieldCounters} (member : entry ∈ ((zero since).recordAll events).fields) :
    (UInt64.ofNat entry.2.countings + UInt64.ofNat entry.2.narrowings).toNat =
      entry.2.countings + entry.2.narrowings := by
  have tally := tally_recordAll since events
  have passes := Measure.tally_passes_le entry.1 events
  have countings := tally.fields (.passes .counting) entry.1
  have narrowings := tally.fields (.passes .narrowing) entry.1
  rw [FieldTable.countersOf_of_mem tally.ascending member] at countings narrowings
  simp only [Registers, Measure.read] at countings narrowings
  have sum : entry.2.countings + entry.2.narrowings < UInt64.size := by omega
  rw [← UInt64.ofNat_add, UInt64.toNat_ofNat_of_lt' sum]

theorem report_of_le (counters : Counters) {from? : Option Nat}
    (early : ∀ time ∈ from?, time ≤ counters.since) :
    counters.report from? = ⟨some counters, counters.fields.map fun entry =>
      ⟨entry.1, entry.2, entry.2.meanVisited⟩⟩ := by
  cases from? with
  | none => rfl
  | some time => exact if_neg (by simpa using early time rfl)

/-- As long as no counter is full, the counters of all fields together are the sums of those of each
field, and probes and labels are counted as they come. The order of the events leaves no trace. A report
shows every field with an event once, in the order of their bytes, with what its events add up to and
the documents visited by a pass on average. There are no more passes than events, so where events can be
numbered in 64 bits, so can passes. -/
theorem counters_add_up {since : Nat} {events : List Event}
    (below : ((zero since).recordAll events).Below) :
    let counters := (zero since).recordAll events
    let summed (read : FieldCounters → Nat) := (counters.fields.map fun entry => read entry.2).sum
    counters.totals.countings = summed (·.countings) ∧
    counters.totals.narrowings = summed (·.narrowings) ∧
    counters.totals.visited = summed (·.visited) ∧
    counters.totals.matched = summed (·.matched) ∧
    counters.totals.skippedMalformed + counters.totals.skippedUnreadable +
      counters.totals.skippedOrdinalOutOfRange + counters.totals.skippedUnknownTag +
      counters.totals.skippedUnknownItem = summed (·.skipped) ∧
    counters.totals.cacheHits = events.count (.cacheProbed true) ∧
    counters.totals.cacheMisses = events.count (.cacheProbed false) ∧
    counters.totals.labelsResolved = events.count .labelResolved ∧
    (∀ reordered : List Event, reordered.Perm events →
      (zero since).recordAll reordered = counters) ∧
    ∀ from? : Option Nat, (∀ time ∈ from?, time ≤ since) →
      let report := counters.report from?
      report.counters = some counters ∧
      report.summaries.Pairwise (fun summary later =>
        Text.bytes summary.field < Text.bytes later.field) ∧
      (∀ field, field ∈ report.summaries.map (·.field) ↔
        ∃ event ∈ events, event.field? = some field) ∧
      ∀ summary ∈ report.summaries,
        let passes := summary.counters.countings + summary.counters.narrowings
        (∀ measure : Measure, measure.read summary.counters = measure.tally summary.field events) ∧
        passes ≤ events.length ∧
        (passes = 0 → summary.meanVisited = 0.0) ∧
        (passes ≠ 0 → summary.meanVisited =
          Number.ofInt summary.counters.visited / Number.ofInt passes) ∧
        (passes ≠ 0 → passes ≤ 2 ^ 53 → summary.counters.visited ≤ 2 ^ 53 →
          Number.RoundsTo (summary.counters.visited / passes) summary.meanVisited) := by
  intro counters summed
  have tally := tally_recordAll since events
  have total (gauge : Gauge) : gauge.read counters.totals = gauge.tally events :=
    tally.read_total below gauge
  refine ⟨tally.sum_fields below (.passes .counting), tally.sum_fields below (.passes .narrowing),
    tally.sum_fields below .visited, tally.sum_fields below .matched, ?_,
    (total (.probes true)).trans (Gauge.tally_probes true events),
    (total (.probes false)).trans (Gauge.tally_probes false events),
    (total .labels).trans (Gauge.tally_labels events),
    fun reordered => tally.eq_of_perm (tally_recordAll since reordered), fun from? early => ?_⟩
  · simp only [Nat.add_assoc]
    exact tally.sum_fields below .skipped
  · rw [← tally.since_eq] at early
    rw [report_of_le counters early]
    refine ⟨rfl, ?_, fun field => ?_, fun summary member => ?_⟩
    · exact List.pairwise_map.mpr ((List.pairwise_map.mp tally.ascending).imp Text.bytes_lt_bytes)
    · rw [List.map_map, ← tally.mem_names]
      rfl
    · obtain ⟨entry, inside, rfl⟩ := List.mem_map.mp member
      have read := tally.read_field below inside
      refine ⟨read, ?_, fun none => if_pos none, fun any => if_neg any,
        entry.2.meanVisited_roundsTo⟩
      have passes := Measure.tally_passes_le entry.1 events
      rw [← read, ← read] at passes
      exact passes

/-- Two passes over sizes and one over colours; of prices only an item without row is known. -/
theorem counters_add_up_market :
    let events : List Event := [.started .counting "size", .skipped "size" .malformed,
      .finished .counting "size" 4 3, .skipped "price" .unknownItem, .started .narrowing "colour",
      .cacheProbed false, .cacheProbed true, .finished .narrowing "colour" 2 1, .labelResolved,
      .started .narrowing "size", .finished .narrowing "size" 3 1]
    let counters := (zero 7).recordAll events
    counters.Below ∧ counters.totals.visited = 9 ∧
      (counters.fields.map fun entry => entry.2.visited).sum = 9 ∧
      (zero 7).recordAll events.reverse = counters := by
  intro events counters
  have shown : counters = ⟨⟨1, 2, 9, 5, 1, 0, 0, 0, 1, 1, 1, 1⟩,
      [("colour", ⟨0, 1, 2, 1, 0⟩), ("price", ⟨0, 0, 0, 0, 1⟩), ("size", ⟨1, 1, 7, 4, 1⟩)], 7⟩ := by
    decide +kernel
  have below : counters.Below := by
    rw [shown]
    refine ⟨fun gauge => ?_, fun entry member measure => ?_⟩
    · rcases gauge with (_ | _) | _ | _ | (_ | _ | _ | _ | _) | (_ | _) | _ <;>
        simp [Gauge.read, UInt64.size]
    · simp only [List.mem_cons, List.not_mem_nil, or_false] at member
      rcases member with rfl | rfl | rfl <;> rcases measure with (_ | _) | _ | _ | _ <;>
        simp [Measure.read, UInt64.size]
  have visited : counters.totals.visited = 9 := by rw [shown]
  obtain ⟨_, _, summed, _, _, _, _, _, reordered, _⟩ := counters_add_up below
  exact ⟨below, visited, summed.symm.trans visited, reordered _ events.reverse_perm⟩

end Counters

end Facets
