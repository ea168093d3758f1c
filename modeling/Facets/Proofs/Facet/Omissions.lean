import Facets.Proofs.Facet.Accounts
import Facets.Proofs.Facet.Cursors

/-!
What a count reports of the documents it leaves out. Every reading of a result set reports a document
once if its row or its group cannot be read, and once if its row holds a word that stands for no value.
A count reads the result set once, but on a linear scale of numbers twice, and then it reports the same
documents twice: once while it fits the scale and once while it counts.
-/

namespace Facets

namespace SkipReason

/-- Whether a reason leaves out a document as a whole. -/
def ofDocument : SkipReason → Bool
  | .malformed | .unreadable => true
  | .ordinalOutOfRange | .unknownItem | .unknownTag => false

def unreadableIf (lost : Bool) : Option SkipReason := if lost then some .unreadable else none

end SkipReason

/-- Why a row of numbers is left out as a whole, if it is. -/
def NumberKind.omission? (kind : NumberKind) (delivery : Delivery Int64) : Option SkipReason :=
  if delivery.complaint.isSome then some .unreadable
  else if delivery.values.all kind.stores then none
  else some .malformed

namespace Reading

variable {reason : SkipReason}

/-- A document left out as a whole is reported for the one reason it is left out for. -/
theorem count_skips_skip {α : Type} (left reason : SkipReason) :
    (skip left : Reading α).skips.count reason = if some left = some reason then 1 else 0 := by
  simp only [skip, List.count_singleton, beq_iff_eq, Option.some.injEq]

theorem count_skips_ofWords (kind : NumberKind) (delivery : Delivery Int64) (reason : SkipReason) :
    (ofWords kind delivery).skips.count reason =
      if kind.omission? delivery = some reason then 1 else 0 := by
  unfold ofWords NumberKind.omission?
  cases delivery.complaint with
  | some complaint => exact count_skips_skip .unreadable reason
  | none =>
    cases delivery.values.all kind.stores with
    | true => rfl
    | false => exact count_skips_skip .malformed reason

theorem count_skips_inSpace (document : reason.ofDocument = true) (size : Nat)
    (ordinals : List Ordinal) : (inSpace size ordinals).skips.count reason = 0 := by
  refine List.count_eq_zero.mpr fun member => ?_
  obtain ⟨_, _, rfl⟩ := List.mem_map.mp member
  cases document

theorem count_skips_ofOrdinals (document : reason.ofDocument = true) (size : Nat)
    (delivery : Delivery Ordinal) : (ofOrdinals size delivery).skips.count reason =
      if SkipReason.unreadableIf delivery.complaint.isSome = some reason then 1 else 0 := by
  unfold ofOrdinals
  cases delivery.complaint with
  | some complaint => exact count_skips_skip .unreadable reason
  | none => exact count_skips_inSpace document size delivery.values

end Reading

namespace Expander

variable {expander : Expander} {reason : SkipReason}

theorem count_skips_reading (document : reason.ofDocument = true) (expander : Expander) (size : Nat)
    (group : Ordinal) : (expander.reading size group).skips.count reason =
      if SkipReason.unreadableIf (expander.loses group) = some reason then 1 else 0 := by
  unfold reading loses
  cases expander.expandAnew group with
  | error error => exact Reading.count_skips_skip .unreadable reason
  | ok ordinals => exact Reading.count_skips_inSpace document size ordinals

/-- Of whole documents, an expansion reports those that its readings leave out. -/
theorem count_scan_trace (document : reason.ofDocument = true) (size : Nat)
    (expansions : Expansions) (groups : List (Nat × Ordinal)) :
    (expander.scan size expansions groups).trace.events.count (.skipped expander.field reason) =
      ((expander.scan size expansions groups).scan.trace expander.field).events.count
        (.skipped expander.field reason) := by
  induction groups generalizing expansions with
  | nil => rfl
  | cons first rest ih =>
    have expanding : (expander.expand expansions first.2).trace.events.count
        (.skipped expander.field reason) = 0 := by
      refine List.count_eq_zero.mpr fun member => ?_
      rcases event_of_mem_expand member with same | ⟨hit, same⟩ <;> cases same
      cases document
    simp only [Expander.scan, Scan.trace, Trace.events_append, Trace.events_ofSkips,
      List.flatMap_cons, List.map_append, List.count_append, expanding, Nat.zero_add] at ih ⊢
    rw [ih]

end Expander

/-- Readings that follow a result set report a reason as often as a hit is left out for it. -/
theorem Scan.Follows.count_skips {α : Type} {scan : Scan α} {hits : Hits}
    {reading? : Hit × Nat → Option (Reading α)} (follows : scan.Follows hits reading?)
    (field : String) {reason : SkipReason} {left : Hit × Nat → Bool}
    (once : ∀ place, (((reading? place).map (·.skips)).getD []).count reason =
      if left place then 1 else 0) :
    (scan.trace field).events.count (.skipped field reason) = hits.zipIdx.countP left := by
  have injective : Function.Injective (Event.skipped field) := fun _ _ same =>
    (Event.skipped.inj same).2
  rw [Scan.trace, Trace.events_ofSkips, List.count_map_of_injective _ _ injective,
    (follows.flatMap_right _).count_eq]
  induction hits.zipIdx with
  | nil => rfl
  | cons place rest ih =>
    have here := once place
    rw [List.countP_cons, ← here, ← ih, List.filterMap_cons]
    cases reading? place with
    | none => rfl
    | some reading =>
      simp only [Option.map_some, Option.getD_some, List.flatMap_cons, List.count_append]
      exact Nat.add_comm _ _

namespace Facet

/-- Why an item is left out as a whole, if it is: its row cannot be read, or holds a word that stands
for no value; or its group, where groups are expanded, cannot be. -/
def omission? (facet : Facet) (rows : RowAnswers) (item : Item) : Option SkipReason :=
  match facet.source with
  | .absent => none
  | .numeric _ => (facet.rowOf item).bind fun row => facet.traits.kind.omission? (rows.words row)
  | .enumerated _ _ _ expander =>
    match expander, item.group with
    | some expander, some group => SkipReason.unreadableIf (expander.loses group)
    | _, _ => (facet.rowOf item).bind fun row =>
      SkipReason.unreadableIf (rows.ordinals row).complaint.isSome

/-- How many hits the reading of the cursor opened for the `n`-th time leaves out for a reason. -/
def omitted (facet : Facet) (n : Nat) (hits : Hits) (reason : SkipReason) : Nat :=
  hits.zipIdx.countP fun place =>
    facet.omission? (facet.heard n hits place.2) place.1.item = some reason

variable {facet : Facet} {memory : FacetMemory} {hits : Hits} {n : Nat} {reason : SkipReason}

theorem omission?_of_absent (absent : facet.source = .absent) (rows : RowAnswers) (item : Item) :
    facet.omission? rows item = none := by
  simp only [omission?, absent]

/-- No hit is left out for two reasons. -/
theorem omitted_add_le (facet : Facet) (n : Nat) (hits : Hits) {first second : SkipReason}
    (apart : first ≠ second) :
    facet.omitted n hits first + facet.omitted n hits second ≤ hits.length := by
  unfold omitted
  rw [← List.length_zipIdx (l := hits), List.length_eq_countP_add_countP fun place =>
    decide (facet.omission? (facet.heard n hits place.2) place.1.item = some first)]
  refine Nat.add_le_add_left (List.countP_mono_left fun place _ left => ?_) _
  rw [decide_eq_true_eq] at left ⊢
  rw [left, decide_eq_true_eq, Option.some.injEq]
  exact apart.symm

/-- Where rows always answer the same, every reading leaves out the same hits. -/
theorem omitted_of_steady {rows : RowAnswers} (steady : facet.AnswersBy rows)
    (opened : facet.opens n = .ok ()) (hits : Hits) (reason : SkipReason) :
    facet.omitted n hits reason =
      hits.countP fun hit => facet.omission? rows hit.item = some reason := by
  have same (position : Nat) (item : Item) :
      facet.omission? (facet.heard n hits position) item = facet.omission? rows item := by
    unfold omission?
    cases source : facet.source with
    | absent => rfl
    | numeric reader => simp only [words_heard source steady opened]
    | enumerated column style dictionary expander =>
      simp only [ordinals_heard source steady opened]
  simp only [omitted, same]
  conv_rhs => rw [← List.zipIdx_map_fst 0 hits, List.countP_map]
  rfl

section Numeric

variable {reader : Reader Int64} (numeric : facet.source = .numeric reader)

include numeric

theorem count_skipped_numbers {scan : Scan Float}
    (follows : scan.Follows hits (facet.numberReading? (facet.heard n hits)))
    (reason : SkipReason) :
    (scan.trace facet.field).events.count (.skipped facet.field reason) =
      facet.omitted n hits reason := by
  refine follows.count_skips facet.field fun place => ?_
  simp only [numberReading?, omission?, numeric, decide_eq_true_eq]
  cases facet.rowOf place.1.item with
  | none => rfl
  | some row => exact Reading.count_skips_ofWords _ _ reason

theorem countOnScale_skips {scale : NumberScale} {trace : Trace} {buckets : List Bucket}
    (counted : (facet.countOnScale reader scale memory hits (facet.plan hits) trace).result =
      .ok buckets) (reason : SkipReason) :
    (facet.countOnScale reader scale memory hits (facet.plan hits) trace).trace.events.count
      (.skipped facet.field reason) =
        trace.events.count (.skipped facet.field reason) +
          facet.omitted memory.openings hits reason := by
  unfold countOnScale at counted ⊢
  obtain ⟨error, _, read⟩ | ⟨scan, _, read, follows⟩ :=
    scanNumbers_cases numeric memory.openings hits
  · rw [read] at counted
    cases counted
  · rw [read]
    dsimp only
    rw [Trace.events_append, List.count_append, count_skipped_numbers numeric follows]

theorem countExact_skips {buckets : List Bucket}
    (counted : (facet.countExact reader memory hits (facet.plan hits)).result = .ok buckets)
    (reason : SkipReason) :
    (facet.countExact reader memory hits (facet.plan hits)).trace.events.count
      (.skipped facet.field reason) = facet.omitted memory.openings hits reason := by
  unfold countExact at counted ⊢
  obtain ⟨error, _, read⟩ | ⟨scan, _, read, follows⟩ :=
    scanNumbers_cases numeric memory.openings hits
  · rw [read] at counted
    cases counted
  · rw [read]
    exact count_skipped_numbers numeric follows reason

/-- On a linear scale a hit is reported by the reading that fits the scale, and again by the one that
counts. -/
theorem countLinear_skips {buckets : List Bucket}
    (counted : (facet.countLinear reader memory hits (facet.plan hits)).result = .ok buckets)
    (reason : SkipReason) :
    (facet.countLinear reader memory hits (facet.plan hits)).trace.events.count
      (.skipped facet.field reason) = facet.omitted memory.openings hits reason +
        facet.omitted (memory.openings + 1) hits reason := by
  unfold countLinear at counted ⊢
  obtain ⟨error, _, read⟩ | ⟨scan, _, read, follows⟩ :=
    scanNumbers_cases numeric memory.openings hits
  · rw [read] at counted
    cases counted
  · rw [read] at counted ⊢
    dsimp only at counted ⊢
    rw [countOnScale_skips numeric counted, count_skipped_numbers numeric follows]
    rfl

end Numeric

section Enumerated

variable {column : TermColumn} {style : LabelStyle} {dictionary : Dictionary}
  {expander : Option Expander}
  (enumerated : facet.source = .enumerated column style dictionary expander)

include enumerated

theorem count_skipped_terms (document : reason.ofDocument = true) {scan : Scan Ordinal}
    (follows : scan.Follows hits (facet.termReading? column expander (facet.heard n hits))) :
    (scan.trace facet.field).events.count (.skipped facet.field reason) =
      facet.omitted n hits reason := by
  refine follows.count_skips facet.field fun place => ?_
  have ofRow : ((((facet.rowOf place.1.item).map fun row => Reading.ofOrdinals column.size
      ((facet.heard n hits place.2).ordinals row)).map (·.skips)).getD []).count reason =
      if ((facet.rowOf place.1.item).bind fun row => SkipReason.unreadableIf
        ((facet.heard n hits place.2).ordinals row).complaint.isSome) = some reason
      then 1 else 0 := by
    cases facet.rowOf place.1.item with
    | none => rfl
    | some row => exact Reading.count_skips_ofOrdinals document _ _
  simp only [termReading?, omission?, enumerated, decide_eq_true_eq]
  cases expander with
  | none => exact ofRow
  | some expander =>
    cases place.1.item.group with
    | none => exact ofRow
    | some group => exact expander.count_skips_reading document column.size group

/-- What a reading of terms reports of whole documents is what its groups and rows leave out. -/
theorem count_skipped_groups (itself : facet.ReportsAsItself) (document : reason.ofDocument = true)
    {groups : GroupScan}
    (read : scanOrdinals column expander memory facet.field (facet.plan hits) = .ok groups) :
    groups.trace.events.count (.skipped facet.field reason) =
      (groups.scan.trace facet.field).events.count (.skipped facet.field reason) := by
  unfold scanOrdinals at read
  obtain ⟨cursor, _, rfl⟩ := exists_of_map_ok read
  cases expander with
  | none => rfl
  | some expander =>
    have counted :=
      expander.count_scan_trace document column.size memory.expansions (facet.plan hits).groups
    rw [itself _ _ _ _ enumerated] at counted
    simp only [Trace.events_append, List.count_append, counted]
    simp only [Scan.trace, List.flatMap_append, Trace.events_ofSkips, List.map_append,
      List.count_append]

theorem countTerms_skips (itself : facet.ReportsAsItself) (faithful : facet.Faithful memory)
    (document : reason.ofDocument = true) {buckets : List Bucket}
    (counted : (facet.countTerms column style expander memory hits (facet.plan hits)).result =
      .ok buckets) :
    (facet.countTerms column style expander memory hits (facet.plan hits)).trace.events.count
      (.skipped facet.field reason) = facet.omitted memory.openings hits reason := by
  unfold countTerms at counted ⊢
  obtain ⟨error, _, read⟩ | ⟨groups, _, read, follows, _⟩ :=
    scanOrdinals_cases enumerated faithful hits
  · rw [read] at counted
    cases counted
  · rw [read]
    dsimp only
    rw [count_skipped_groups enumerated itself document read,
      count_skipped_terms enumerated document follows]

end Enumerated

/-- Around a sweep nothing is reported of whole documents but that hits have no row. -/
theorem count_skips_toPass {α : Type} (sweep : Sweep α) (kind : PassKind) (field : String)
    (plan : Plan) (document : reason.ofDocument = true) :
    (sweep.toPass kind field plan).trace.events.count (.skipped field reason) =
      sweep.trace.events.count (.skipped field reason) := by
  have known : reason ≠ .unknownItem := by
    rintro rfl
    cases document
  rw [Sweep.toPass, Trace.count_around, Trace.events_append, List.count_append, Plan.count_trace,
    if_neg known, Nat.zero_add]

/-- A count that succeeds reports of whole documents what its readings leave out. -/
theorem count_skips (itself : facet.ReportsAsItself) (faithful : facet.Faithful memory)
    {histogram : Histogram} (counted : (facet.count memory hits).result = .ok histogram)
    (document : reason.ofDocument = true) :
    (facet.count memory hits).trace.events.count (.skipped facet.field reason) =
      facet.omitted memory.openings hits reason +
        if facet.isFitted then facet.omitted (memory.openings + 1) hits reason else 0 := by
  cases source : facet.source with
  | absent =>
    have none : facet.omitted memory.openings hits reason = 0 := by
      refine List.countP_eq_zero.mpr fun place _ => ?_
      rw [omission?_of_absent source]
      simp
    have unfitted : facet.isFitted = false := by simp only [isFitted, source]
    rw [none, unfitted]
    simp only [count, source]
    rfl
  | numeric reader =>
    cases mode : facet.mode with
    | linear =>
      have fitted : facet.isFitted = true := by simp only [isFitted, source, mode]
      simp only [count, source, mode] at counted ⊢
      obtain ⟨buckets, answered, _⟩ := exists_of_map_ok counted
      rw [count_skips_toPass _ _ _ _ document, fitted, if_pos rfl]
      exact countLinear_skips source answered reason
    | log =>
      have unfitted : facet.isFitted = false := by simp only [isFitted, source, mode]
      simp only [count, source, mode] at counted ⊢
      obtain ⟨buckets, answered, _⟩ := exists_of_map_ok counted
      rw [count_skips_toPass _ _ _ _ document, unfitted, countOnScale_skips source answered]
      exact Nat.zero_add _
    | exact =>
      have unfitted : facet.isFitted = false := by simp only [isFitted, source, mode]
      simp only [count, source, mode] at counted ⊢
      obtain ⟨buckets, answered, _⟩ := exists_of_map_ok counted
      rw [count_skips_toPass _ _ _ _ document, unfitted, countExact_skips source answered]
      rfl
  | enumerated column style dictionary expander =>
    have unfitted : facet.isFitted = false := by simp only [isFitted, source]
    simp only [count, source] at counted ⊢
    obtain ⟨buckets, answered, _⟩ := exists_of_map_ok counted
    rw [count_skips_toPass _ _ _ _ document, unfitted,
      countTerms_skips source itself faithful document answered]
    rfl

/-- A count that succeeds reports every hit whose row holds a malformed word, and every hit whose row or
group cannot be read, once for each reading of the result set. There is one reading, of as many hits as
the count has visited, and on a linear scale of numbers there are two, that which fits the scale and
that which counts; so there every such hit is reported twice. -/
theorem counts_report_each_reading {index : Index} {settings : Settings} {field : String} {mode : Mode}
    (opened : index.facet settings field mode = .ok facet) (calls : List Call) (hits : Hits)
    {histogram : Histogram}
    (counted : (facet.count (facet.after calls) hits).result = .ok histogram) :
    let first := (facet.after calls).openings
    let trace := (facet.count (facet.after calls) hits).trace
    let reported reason := trace.events.count (.skipped field reason)
    (facet.source ≠ .absent → ∃ matched, trace.IsPass .counting field hits.length matched) ∧
    (∀ n, facet.omitted n hits .malformed + facet.omitted n hits .unreadable ≤ hits.length) ∧
    ∀ reason ∈ [SkipReason.malformed, .unreadable],
      (facet.isFitted = false → reported reason = facet.omitted first hits reason) ∧
      (facet.isFitted = true →
        reported reason = facet.omitted first hits reason + facet.omitted (first + 1) hits reason) ∧
      ∀ rows, facet.AnswersBy rows → reported reason = (if facet.isFitted then 2 else 1) *
        hits.countP fun hit => facet.omission? rows hit.item = some reason := by
  intro first trace reported
  have faithful := facet.faithful_after calls
  have itself := reportsAsItself_of_opened opened
  refine ⟨fun present => ?_, fun n => facet.omitted_add_le n hits (by decide),
    fun reason listed => ?_⟩
  · obtain ⟨visited, matched, pass, _, _, answered⟩ :=
      ((passes_account_for_hits opened calls hits []).2 present).1
    rw [(answered _ counted).1] at pass
    exact ⟨matched, pass⟩
  have document : reason.ofDocument = true := by
    simp only [List.mem_cons, List.not_mem_nil, or_false] at listed
    rcases listed with rfl | rfl <;> rfl
  have skips : reported reason = facet.omitted first hits reason +
      if facet.isFitted then facet.omitted (first + 1) hits reason else 0 := by
    simp only [reported, ← Index.field_of_facet opened]
    exact count_skips itself faithful counted document
  refine ⟨fun unfitted => ?_, fun fitted => ?_, fun rows steady => ?_⟩
  · rw [skips, unfitted]
    rfl
  · rw [skips, fitted]
    rfl
  · obtain ⟨atFirst, atCounting⟩ :=
      opens_of_countOpens (eq_reference_of_counted faithful counted).1
    rw [skips, show facet.omitted first hits reason = _ from
      omitted_of_steady steady atFirst hits reason]
    cases fitted : facet.isFitted with
    | false => exact (Nat.one_mul _).symm
    | true =>
      simp only [countingCursor, fitted, if_true] at atCounting
      rw [if_pos rfl, if_pos rfl, Nat.two_mul,
        show facet.omitted (first + 1) hits reason = _ from
          omitted_of_steady steady atCounting hits reason]

/-- Three documents with a ratio each, the second of which is stored as no single is. -/
def ratios : TableIndex :=
  (TableIndex.new 3).withWords "ratio" .single [some 1069547520, some Int64.maxValue, some 1075838976]

def ratioHits : Hits := [⟨⟨0, 0, none⟩, 0⟩, ⟨⟨0, 1, none⟩, 0⟩, ⟨⟨0, 2, none⟩, 0⟩]

/-- On the logarithmic scale the one malformed ratio is reported once, on a linear scale twice. -/
theorem counts_report_each_reading_ratios :
    ∃ logarithmic linear,
      ratios.toIndex.facet .default "ratio" .log = .ok logarithmic ∧
      ratios.toIndex.facet .default "ratio" .linear = .ok linear ∧
      (logarithmic.count .fresh ratioHits).trace.events.count (.skipped "ratio" .malformed) = 1 ∧
      (linear.count .fresh ratioHits).trace.events.count (.skipped "ratio" .malformed) = 2 := by
  have logarithmic : ratios.toIndex.facet .default "ratio" .log = .ok _ := rfl
  have linear : ratios.toIndex.facet .default "ratio" .linear = .ok _ := rfl
  have once := (counts_report_each_reading logarithmic [] ratioHits rfl).2.2 .malformed (by decide)
  have twice := (counts_report_each_reading linear [] ratioHits rfl).2.2 .malformed (by decide)
  refine ⟨_, _, logarithmic, linear, (once.1 rfl).trans ?_, (twice.2.1 rfl).trans ?_⟩
  · decide +kernel
  · decide +kernel

/-- A count on a linear scale visits three ratios, one of them malformed, and reports it twice. -/
theorem linear_count_reports_twice :
    ∃ facet histogram, ratios.toIndex.facet .default "ratio" .linear = .ok facet ∧
      (facet.count .fresh ratioHits).result = .ok histogram ∧
      facet.omitted 0 ratioHits .malformed = 1 ∧
      (facet.count .fresh ratioHits).trace.events.count (.skipped "ratio" .malformed) ≠ 1 := by
  refine ⟨_, _, rfl, rfl, ?_, ?_⟩
  · decide +kernel
  · decide +kernel

end Facet

end Facets
