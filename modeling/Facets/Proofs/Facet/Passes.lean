import Facets.Proofs.Facet.Calls

/-!
What passes do with their cursors. A pass opens cursors one after another, and each that opens is read
along the plan of the result set before the next is opened; only a cursor that does not open makes a
pass fail. The main statement says so of every call, with all that is reported on the way.
-/

namespace Facets

namespace Call

def hits : Call → Hits
  | .count hits => hits
  | .narrow hits _ => hits

def kind : Call → PassKind
  | .count _ => .counting
  | .narrow _ _ => .narrowing

end Call

def Pass.map {α β : Type} (f : α → β) (pass : Pass α) : Pass β :=
  { pass with result := pass.result.map f }

namespace Facet

/-- Makes a call, which answers a histogram or the hits that were picked. -/
def perform (facet : Facet) (memory : FacetMemory) : Call → Pass (Histogram ⊕ Hits)
  | .count hits => (facet.count memory hits).map .inl
  | .narrow hits ordinals => (facet.narrow memory hits ordinals).map .inr

/-- Why values are left out when the cursor opened for the `n`-th time is asked for a row after some
others. -/
def reasonsAt (facet : Facet) (n : Nat) (history : List RowId) (row : RowId) : List SkipReason :=
  match facet.source with
  | .absent => []
  | .numeric reader => (Reading.ofWords facet.traits.kind (reader.answer n history row)).skips
  | .enumerated column .. =>
    (Reading.ofOrdinals column.size (column.reader.answer n history row)).skips

/-- What the expansion of a plan's groups leaves behind. -/
def groupTrace (facet : Facet) (memory : FacetMemory) (plan : Plan) : Trace :=
  match facet.source with
  | .enumerated column _ _ (some expander) =>
    (expander.scan column.size memory.expansions plan.groups).trace
  | _ => []

/-- The cursors below the `n`-th that a pass has opened, and what they left behind. Each is asked for
the row of every visit, once and after the rows of the visits before it. -/
inductive Swept (facet : Facet) (memory : FacetMemory) (plan : Plan) : (n : Nat) → Trace → Prop
  | start : Swept facet memory plan memory.openings []
  | next {n trace} : Swept facet memory plan n trace → facet.opens n = .ok () →
      Swept facet memory plan (n + 1) (trace ++ facet.groupTrace memory plan ++
        Trace.ofSkips facet.field (plan.visits.flatMap fun visit =>
          facet.reasonsAt n (plan.before visit) visit.row))

end Facet

namespace Sweep

variable {α : Type}

/-- A sweep that has read all cursors it has opened, and that fails only with one that does not
open. -/
inductive Ends (facet : Facet) (memory : FacetMemory) (plan : Plan) (sweep : Sweep α) : Prop
  | answered {value} : sweep.result = .ok value →
      facet.Swept memory plan sweep.memory.openings sweep.trace → Ends facet memory plan sweep
  | failed {error n} : sweep.result = .error error → facet.opens n = .error error →
      sweep.memory.openings = n + 1 → facet.Swept memory plan n sweep.trace →
      Ends facet memory plan sweep

/-- A sweep that picks hits reports how many, and that all were visited if some wanted bucket lies in
the bucket space, and none if not. -/
def Picks (sweep : Sweep Hits) (hits : Hits) (space : Nat) (ordinals : List Ordinal) : Prop :=
  ∀ picked, sweep.result = .ok picked → sweep.matched = picked.length ∧
    sweep.visited = if ∃ ordinal ∈ ordinals, ordinal < space then hits.length else 0

/-- A sweep of a result set that reads its cursors and reports numbers within bounds. -/
structure Regular (facet : Facet) (memory : FacetMemory) (hits : Hits) (sweep : Sweep α) : Prop where
  ends : sweep.Ends facet memory (facet.plan hits)
  matched_le : sweep.matched ≤ sweep.visited
  visited_le : sweep.visited ≤ hits.length

/-- The sweep with another answer. -/
def map {β : Type} (f : α → β) (sweep : Sweep α) : Sweep β :=
  { sweep with result := sweep.result.map f }

theorem Regular.map {β : Type} {facet : Facet} {memory : FacetMemory} {hits : Hits}
    {sweep : Sweep α} (regular : sweep.Regular facet memory hits) (f : α → β) :
    (sweep.map f).Regular facet memory hits := by
  refine ⟨?_, regular.matched_le, regular.visited_le⟩
  cases regular.ends with
  | answered answered swept =>
    exact .answered (by rw [Sweep.map, answered, Except.map]) swept
  | failed failed closed openings swept =>
    exact .failed (by rw [Sweep.map, failed, Except.map]) closed openings swept

end Sweep

namespace Facet

variable {facet : Facet} {hits : Hits} {start memory : FacetMemory} {trace : Trace}

theorem length_plan_le (facet : Facet) (hits : Hits) :
    (facet.plan hits).groups.length + (facet.plan hits).visits.length ≤ hits.length := by
  have length := (Plan.positions_perm facet.rowOf facet.isEvent hits).length_eq
  simp only [List.length_append, List.length_map, List.length_range] at length
  unfold plan
  omega

theorem plan_ascending (facet : Facet) (hits : Hits) :
    (facet.plan hits).visits.Pairwise (· < ·) :=
  Plan.visits_pairwise facet.rowOf facet.isEvent hits

/-- A reading of numbers adds its cursor to those that were read, if it opens. -/
theorem scanNumbers_swept {reader : Reader Int64} (numeric : facet.source = .numeric reader) {n : Nat}
    (swept : facet.Swept start (facet.plan hits) n trace) :
    (∃ error, facet.opens n = .error error ∧
      facet.scanNumbers reader n (facet.plan hits) = .error error) ∨
    (∃ scan, facet.scanNumbers reader n (facet.plan hits) = .ok scan ∧ scan.length ≤ hits.length ∧
      facet.Swept start (facet.plan hits) (n + 1) (trace ++ scan.trace facet.field)) := by
  have groups : facet.groupTrace start (facet.plan hits) = [] := by
    simp only [groupTrace, numeric]
  unfold scanNumbers
  cases opened : reader.openCursor n with
  | error error =>
    have closed : facet.opens n = .error error := by
      simp only [opens, numeric, opened, Except.map]
    exact Or.inl ⟨error, closed, rfl⟩
  | ok cursor =>
    have opens : facet.opens n = .ok () := by
      simp only [opens, numeric, opened, Except.map]
    refine Or.inr ⟨_, rfl, ?_, ?_⟩
    · have length := facet.length_plan_le hits
      rw [Scan.length_ofCursor]
      omega
    · have next := swept.next opens
      rw [groups, List.append_nil] at next
      simp only [reasonsAt, numeric, Reader.answer, opened] at next
      rwa [← Scan.trace_ofCursor cursor (Reading.ofWords facet.traits.kind) facet.field
        (facet.plan_ascending hits)] at next

/-- A reading of terms expands the groups, then adds its cursor. -/
theorem scanOrdinals_swept {column : TermColumn} {style : LabelStyle} {dictionary : Dictionary}
    {expander : Option Expander}
    (enumerated : facet.source = .enumerated column style dictionary expander) (hits : Hits) :
    (∃ error, facet.opens memory.openings = .error error ∧
      scanOrdinals column expander memory facet.field (facet.plan hits) = .error error) ∨
    (∃ groups, scanOrdinals column expander memory facet.field (facet.plan hits) = .ok groups ∧
      groups.scan.length ≤ hits.length ∧
      facet.Swept memory (facet.plan hits) (memory.openings + 1) groups.trace) := by
  unfold scanOrdinals
  cases opened : column.reader.openCursor memory.openings with
  | error error =>
    have closed : facet.opens memory.openings = .error error := by
      simp only [opens, enumerated, opened, Except.map]
    exact Or.inl ⟨error, closed, rfl⟩
  | ok cursor =>
    have opens : facet.opens memory.openings = .ok () := by
      simp only [opens, enumerated, opened, Except.map]
    have length := facet.length_plan_le hits
    have unread : facet.Swept memory (facet.plan hits) memory.openings [] := .start
    have next := unread.next opens
    simp only [reasonsAt, groupTrace, enumerated, Reader.answer, opened, List.nil_append] at next
    rw [← Scan.trace_ofCursor cursor (Reading.ofOrdinals column.size) facet.field
      (facet.plan_ascending hits)] at next
    refine Or.inr ⟨_, rfl, ?_, ?_⟩
    · cases expander with
      | none =>
        simp only [List.nil_append, Scan.length_ofCursor]
        omega
      | some expander =>
        simp only [List.length_append, Expander.length_scan, Scan.length_ofCursor]
        omega
    · cases expander <;> exact next

end Facet

namespace Buckets

variable {buckets : Buckets}

theorem matched_le_length (buckets : Buckets) : buckets.matched ≤ buckets.length :=
  List.countP_le_length

@[simp]
theorem length_ofScan {α : Type} (bucketOf? : α → Option Ordinal) (scan : Scan α) :
    (ofScan bucketOf? scan).length = scan.length :=
  List.length_map _

@[simp]
theorem length_ofOrdinals (scan : Scan Ordinal) : (ofOrdinals scan).length = scan.length :=
  List.length_map _

theorem length_positionsIn_le (buckets : Buckets) (wanted : List Ordinal) :
    (buckets.positionsIn wanted).length ≤ buckets.length :=
  (Ascending.length_ofList_le _).trans (List.length_filterMap_le _ _)

end Buckets

namespace Sweep.Regular

variable {α : Type} {facet : Facet} {hits : Hits} {start memory : FacetMemory} {trace : Trace}

theorem of_failed {error : SourceError} {visited : Nat}
    (closed : facet.opens memory.openings = .error error)
    (swept : facet.Swept start (facet.plan hits) memory.openings trace)
    (bound : visited ≤ hits.length) :
    Regular facet start hits (Sweep.failed error memory.opened visited trace : Sweep α) :=
  ⟨.failed rfl closed rfl swept, Nat.zero_le _, bound⟩

theorem of_pick {buckets : Buckets} {wanted : List Ordinal}
    (swept : facet.Swept start (facet.plan hits) memory.openings trace)
    (short : buckets.length ≤ hits.length) :
    Regular facet start hits (Facet.pick hits buckets wanted memory trace) := by
  refine ⟨.answered rfl swept, ?_, le_rfl⟩
  calc (hits.atPositions (buckets.positionsIn wanted)).length
      ≤ (buckets.positionsIn wanted).length := List.length_filterMap_le _ _
    _ ≤ buckets.length := buckets.length_positionsIn_le wanted
    _ ≤ hits.length := short

theorem of_pickNone (swept : facet.Swept start (facet.plan hits) memory.openings trace) :
    Regular facet start hits (Facet.pickNone memory trace) :=
  ⟨.answered rfl swept, le_rfl, Nat.zero_le _⟩

end Sweep.Regular

namespace Sweep.Picks

variable {hits : Hits} {space : Nat} {ordinals : List Ordinal} {memory : FacetMemory} {trace : Trace}

theorem of_failed {error : SourceError} {visited : Nat} :
    Picks (Sweep.failed error memory visited trace) hits space ordinals :=
  fun _ answered => by cases answered

theorem of_pickNone (empty : (ordinals.filter (· < space)).isEmpty = true) :
    Picks (Facet.pickNone memory trace) hits space ordinals := by
  rintro _ ⟨rfl⟩
  refine ⟨rfl, (if_neg ?_).symm⟩
  rintro ⟨ordinal, wanted, within⟩
  have kept : ordinal ∈ ordinals.filter (· < space) :=
    List.mem_filter.mpr ⟨wanted, decide_eq_true within⟩
  rw [List.isEmpty_iff.mp empty] at kept
  cases kept

theorem of_pick {buckets : Buckets} {wanted : List Ordinal}
    (filled : ¬ (ordinals.filter (· < space)).isEmpty = true) :
    Picks (Facet.pick hits buckets wanted memory trace) hits space ordinals := by
  rintro _ ⟨rfl⟩
  refine ⟨rfl, (if_pos ?_).symm⟩
  obtain ⟨ordinal, kept⟩ :=
    List.isEmpty_eq_false_iff_exists_mem.mp (Bool.eq_false_of_not_eq_true filled)
  obtain ⟨member, within⟩ := List.mem_filter.mp kept
  exact ⟨ordinal, member, of_decide_eq_true within⟩

end Sweep.Picks

namespace Facet

variable {facet : Facet} {hits : Hits} {start memory : FacetMemory} {trace : Trace}
  {ordinals : List Ordinal}

section Numeric

variable {reader : Reader Int64} (numeric : facet.source = .numeric reader)

include numeric

theorem countOnScale_regular (swept : facet.Swept start (facet.plan hits) memory.openings trace)
    (scale : NumberScale) :
    (facet.countOnScale reader scale memory hits (facet.plan hits) trace).Regular facet start
      hits := by
  unfold countOnScale
  obtain ⟨error, closed, read⟩ | ⟨scan, read, short, next⟩ := scanNumbers_swept numeric swept
  · rw [read]
    exact .of_failed closed swept le_rfl
  · rw [read]
    refine ⟨.answered rfl next, ?_, le_rfl⟩
    exact (Buckets.matched_le_length _).trans (by rwa [Buckets.length_ofScan])

theorem countExact_regular :
    (facet.countExact reader memory hits (facet.plan hits)).Regular facet memory hits := by
  unfold countExact
  obtain ⟨error, closed, read⟩ | ⟨scan, read, short, next⟩ := scanNumbers_swept numeric .start
  · rw [read]
    exact .of_failed closed .start le_rfl
  · rw [read]
    refine ⟨.answered rfl next, ?_, le_rfl⟩
    exact (Buckets.matched_le_length _).trans (by rwa [Buckets.length_ofScan])

theorem countLinear_regular :
    (facet.countLinear reader memory hits (facet.plan hits)).Regular facet memory hits := by
  unfold countLinear
  obtain ⟨error, closed, read⟩ | ⟨scan, read, _, next⟩ := scanNumbers_swept numeric .start
  · rw [read]
    exact .of_failed closed .start (Nat.zero_le _)
  · rw [read]
    exact countOnScale_regular numeric next _

theorem narrowOnScale_regular (swept : facet.Swept start (facet.plan hits) memory.openings trace)
    (scale : NumberScale) :
    (facet.narrowOnScale reader scale memory hits ordinals (facet.plan hits) trace).Regular facet start
      hits := by
  unfold narrowOnScale
  dsimp only
  split
  · exact .of_pickNone swept
  · obtain ⟨error, closed, read⟩ | ⟨scan, read, short, next⟩ := scanNumbers_swept numeric swept
    · rw [read]
      exact .of_failed closed swept le_rfl
    · rw [read]
      exact .of_pick next (by rwa [Buckets.length_ofScan])

theorem narrowExact_regular :
    (facet.narrowExact reader memory hits ordinals (facet.plan hits)).Regular facet memory hits := by
  unfold narrowExact
  obtain ⟨error, closed, read⟩ | ⟨first, read, _, next⟩ := scanNumbers_swept numeric .start
  · rw [read]
    exact .of_failed closed .start (Nat.zero_le _)
  · rw [read]
    dsimp only
    split
    · exact .of_pickNone next
    · obtain ⟨error, closed, again⟩ | ⟨second, again, short, last⟩ := scanNumbers_swept numeric next
      · rw [FacetMemory.opened, again]
        exact .of_failed closed next le_rfl
      · rw [FacetMemory.opened, again]
        exact .of_pick last (by rwa [Buckets.length_ofScan])

theorem narrowLinear_regular :
    (facet.narrowLinear reader memory hits ordinals (facet.plan hits)).Regular facet memory hits := by
  unfold narrowLinear
  cases memory.scale with
  | some scale => exact narrowOnScale_regular numeric .start _
  | none =>
    obtain ⟨error, closed, read⟩ | ⟨scan, read, _, next⟩ := scanNumbers_swept numeric .start
    · rw [read]
      exact .of_failed closed .start (Nat.zero_le _)
    · rw [read]
      exact narrowOnScale_regular numeric next _

end Numeric

section Enumerated

variable {column : TermColumn} {style : LabelStyle} {dictionary : Dictionary}
  {expander : Option Expander}
  (enumerated : facet.source = .enumerated column style dictionary expander)

include enumerated

theorem countTerms_regular :
    (facet.countTerms column style expander memory hits (facet.plan hits)).Regular facet memory
      hits := by
  unfold countTerms
  obtain ⟨error, closed, read⟩ | ⟨groups, read, short, next⟩ := scanOrdinals_swept enumerated hits
  · rw [read]
    exact .of_failed closed .start le_rfl
  · rw [read]
    refine ⟨.answered rfl next, ?_, le_rfl⟩
    exact (Buckets.matched_le_length _).trans (by rwa [Buckets.length_ofOrdinals])

theorem narrowTerms_regular :
    (facet.narrowTerms column expander memory hits ordinals (facet.plan hits)).Regular facet memory
      hits := by
  unfold narrowTerms
  dsimp only
  split
  · exact .of_pickNone .start
  · obtain ⟨error, closed, read⟩ | ⟨groups, read, short, next⟩ := scanOrdinals_swept enumerated hits
    · rw [read]
      exact .of_failed closed .start le_rfl
    · rw [read]
      exact .of_pick next (by rwa [Buckets.length_ofOrdinals])

end Enumerated

theorem narrowOnScale_picks (reader : Reader Int64) (scale : NumberScale) :
    (facet.narrowOnScale reader scale memory hits ordinals (facet.plan hits) trace).Picks hits
      scale.size ordinals := by
  unfold narrowOnScale
  dsimp only
  split
  · rename_i empty
    exact .of_pickNone empty
  · rename_i filled
    cases facet.scanNumbers reader memory.openings (facet.plan hits) with
    | error error => exact .of_failed
    | ok scan => exact .of_pick filled

theorem narrowLinear_picks (reader : Reader Int64) :
    (facet.narrowLinear reader memory hits ordinals (facet.plan hits)).Picks hits LinearScale.size
      ordinals := by
  unfold narrowLinear
  cases memory.scale with
  | some scale => exact narrowOnScale_picks reader (.linear scale)
  | none =>
    cases facet.scanNumbers reader memory.openings (facet.plan hits) with
    | error error => exact .of_failed
    | ok scan => exact narrowOnScale_picks reader (.linear _)

theorem narrowExact_picks {reader : Reader Int64} (numeric : facet.source = .numeric reader)
    (exact : facet.mode = .exact) :
    (facet.narrowExact reader memory hits ordinals (facet.plan hits)).Picks hits
      (facet.bucketSpace (facet.values (facet.heard memory.openings hits) hits)) ordinals := by
  unfold narrowExact
  obtain ⟨error, _, read⟩ | ⟨first, _, read, follows⟩ :=
    scanNumbers_cases numeric memory.openings hits
  · rw [read]
    exact .of_failed
  · have sized : facet.bucketSpace (facet.values (facet.heard memory.openings hits) hits) =
        (RankTable.ofValues first.values).size := by
      simp only [bucketSpace, numeric, exact, RankTable.ofValues_perm (values_perm_of_follows follows)]
    rw [read, sized]
    dsimp only
    split
    · rename_i empty
      exact .of_pickNone empty
    · rename_i filled
      cases facet.scanNumbers reader memory.opened.openings (facet.plan hits) with
      | error error => exact .of_failed
      | ok second => exact .of_pick filled

theorem narrowTerms_picks (column : TermColumn) (expander : Option Expander) :
    (facet.narrowTerms column expander memory hits ordinals (facet.plan hits)).Picks hits column.size
      ordinals := by
  unfold narrowTerms
  dsimp only
  split
  · rename_i empty
    exact .of_pickNone empty
  · rename_i filled
    cases scanOrdinals column expander memory facet.field (facet.plan hits) with
    | error error => exact .of_failed
    | ok groups => exact .of_pick filled

/-- On a facet with values, counting is a pass around a regular sweep. -/
theorem count_regular (present : facet.source ≠ .absent) (memory : FacetMemory) (hits : Hits) :
    ∃ sweep : Sweep (List Bucket), sweep.Regular facet memory hits ∧
      facet.count memory hits = ⟨sweep.result.map facet.histogram, sweep.memory,
        (sweep.toPass .counting facet.field (facet.plan hits)).trace⟩ := by
  cases source : facet.source with
  | absent => exact absurd source present
  | numeric reader =>
    cases mode : facet.mode with
    | linear => exact ⟨_, countLinear_regular source, by simp only [count, source, mode]; rfl⟩
    | log =>
      exact ⟨_, countOnScale_regular source .start .log, by simp only [count, source, mode]; rfl⟩
    | exact => exact ⟨_, countExact_regular source, by simp only [count, source, mode]; rfl⟩
  | enumerated column style dictionary expander =>
    exact ⟨_, countTerms_regular source, by simp only [count, source]; rfl⟩

/-- The bucket space of narrowing is that of its first reading. -/
theorem narrow_regular (present : facet.source ≠ .absent) (memory : FacetMemory) (hits : Hits)
    (ordinals : List Ordinal) :
    ∃ sweep : Sweep Hits, sweep.Regular facet memory hits ∧
      sweep.Picks hits
        (facet.bucketSpace (facet.values (facet.heard memory.openings hits) hits)) ordinals ∧
      facet.narrow memory hits ordinals = sweep.toPass .narrowing facet.field (facet.plan hits) := by
  cases source : facet.source with
  | absent => exact absurd source present
  | numeric reader =>
    cases mode : facet.mode with
    | linear =>
      have sized : facet.bucketSpace (facet.values (facet.heard memory.openings hits) hits) =
          LinearScale.size := by simp only [bucketSpace, source, mode]
      rw [sized]
      exact ⟨facet.narrowLinear reader memory hits ordinals (facet.plan hits),
        narrowLinear_regular source, narrowLinear_picks reader,
        by simp only [narrow, source, mode]⟩
    | log =>
      have sized : facet.bucketSpace (facet.values (facet.heard memory.openings hits) hits) =
          LogScale.size := by simp only [bucketSpace, source, mode]
      rw [sized]
      exact ⟨facet.narrowOnScale reader .log memory hits ordinals (facet.plan hits) [],
        narrowOnScale_regular source .start .log, narrowOnScale_picks reader .log,
        by simp only [narrow, source, mode]⟩
    | exact =>
      exact ⟨facet.narrowExact reader memory hits ordinals (facet.plan hits),
        narrowExact_regular source, narrowExact_picks source mode,
        by simp only [narrow, source, mode]⟩
  | enumerated column style dictionary expander =>
    have sized : facet.bucketSpace (facet.values (facet.heard memory.openings hits) hits) =
        column.size := by simp only [bucketSpace, source]
    rw [sized]
    exact ⟨facet.narrowTerms column expander memory hits ordinals (facet.plan hits),
      narrowTerms_regular source, narrowTerms_picks column expander, by simp only [narrow, source]⟩

/-- On a facet with values, every call is a pass around a regular sweep. -/
theorem perform_regular (present : facet.source ≠ .absent) (memory : FacetMemory) (call : Call) :
    ∃ sweep : Sweep (Histogram ⊕ Hits), sweep.Regular facet memory call.hits ∧
      facet.perform memory call =
        sweep.toPass call.kind facet.field (facet.plan call.hits) := by
  cases call with
  | count hits =>
    obtain ⟨sweep, regular, run⟩ := count_regular present memory hits
    refine ⟨sweep.map fun buckets => .inl (facet.histogram buckets), regular.map _, ?_⟩
    simp only [perform, run]
    cases answer : sweep.result <;> simp only [Pass.map, Sweep.map, Sweep.toPass, answer] <;> rfl
  | narrow hits ordinals =>
    obtain ⟨sweep, regular, _, run⟩ := narrow_regular present memory hits ordinals
    refine ⟨sweep.map .inr, regular.map _, ?_⟩
    simp only [perform, run]
    rfl

/-- Every call on a facet with values reads some cursors, one after another and each along the whole
plan, and reports them between its start, with the hits that have no row, and its end. It fails only
with a cursor that does not open. -/
theorem perform_runs (present : facet.source ≠ .absent) (memory : FacetMemory) (call : Call) :
    ∃ n trace visited matched, facet.Swept memory (facet.plan call.hits) n trace ∧
      (facet.perform memory call).trace = .event (.started call.kind facet.field) ::
        ((facet.plan call.hits).trace facet.field ++ trace ++
          [.event (.finished call.kind facet.field visited matched)]) ∧
      ((∃ answer, (facet.perform memory call).result = .ok answer) ∧
          (facet.perform memory call).memory.openings = n ∨
        ∃ error, (facet.perform memory call).result = .error error ∧ facet.opens n = .error error ∧
          (facet.perform memory call).memory.openings = n + 1) := by
  obtain ⟨sweep, regular, run⟩ := perform_regular present memory call
  rw [run]
  cases regular.ends with
  | answered answered swept =>
    exact ⟨_, _, _, _, swept, rfl, Or.inl ⟨⟨_, answered⟩, rfl⟩⟩
  | failed failed closed openings swept =>
    exact ⟨_, _, _, _, swept, rfl, Or.inr ⟨_, failed, closed, openings⟩⟩

end Facet

end Facets
