import Facets.Proofs.Facet.Reports
import Facets.Proofs.Facet.Steady
import Facets.Proofs.Index.Table

/-!
What calls depend on. A call reads each cursor it opens along the rows of its plan, from the lowest to
the highest and no further, so cursors that answer alike along these rows give the same call. Tables,
whose cursors refuse to go back, are therefore read without complaint.
-/

namespace Facets

/-- What the cursor opened for the `n`-th time answers when rows are asked for one after another. -/
def Reader.deliveries {α : Type} (reader : Reader α) (n : Nat) (rows : List RowId) :
    Except SourceError (List (Delivery α)) :=
  (reader.openCursor n).map fun cursor => cursor.readAll rows

/-- Sources whose cursors answer alike when rows are asked for one after another. -/
inductive FacetSource.Alike (rows : List RowId) : FacetSource → FacetSource → Prop
  | absent : Alike rows .absent .absent
  | numeric {reader reader'} :
    (∀ n, reader'.deliveries n rows = reader.deliveries n rows) →
    Alike rows (.numeric reader) (.numeric reader')
  | enumerated {column column' style dictionary dictionary' expander} :
    column'.size = column.size →
    (∀ n, column'.reader.deliveries n rows = column.reader.deliveries n rows) →
    Alike rows (.enumerated column style dictionary expander)
      (.enumerated column' style dictionary' expander)

/-- Every row is read without complaint. -/
structure RowAnswers.Whole (rows : RowAnswers) : Prop where
  words : ∀ row, (rows.words row).complaint = none
  ordinals : ∀ row, (rows.ordinals row).complaint = none

theorem TableIndex.answers_whole (table : TableIndex) (field : String) :
    (table.answers field).Whole := by
  unfold answers
  cases (table.field? field).bind (·.column) with
  | none => exact ⟨fun _ => rfl, fun _ => rfl⟩
  | some column => cases column <;> exact ⟨fun _ => rfl, fun _ => rfl⟩

namespace Facet

/-- The facet with its values from another source. -/
def withSource (facet : Facet) (source : FacetSource) : Facet := { facet with source }

@[simp]
theorem source_withSource (facet : Facet) (source : FacetSource) :
    (facet.withSource source).source = source := rfl

@[simp]
theorem mode_withSource (facet : Facet) (source : FacetSource) :
    (facet.withSource source).mode = facet.mode := rfl

variable {facet : Facet} {source : FacetSource} {hits : Hits}

theorem plan_withSource {rows : List RowId} (alike : facet.source.Alike rows source) (hits : Hits) :
    (facet.withSource source).plan hits = facet.plan hits := by
  have expanding : (facet.withSource source).isEvent = facet.isEvent := by
    unfold isEvent
    rw [source_withSource]
    generalize facet.source = own at alike
    cases alike with
    | absent => rfl
    | numeric _ => rfl
    | @enumerated _ _ _ _ _ expander _ _ => cases expander <;> rfl
  rw [plan, expanding]
  rfl

theorem scanNumbers_eq (facet : Facet) (reader : Reader Int64) (n : Nat) (plan : Plan) :
    facet.scanNumbers reader n plan = (reader.deliveries n plan.rows).map fun answers =>
      (plan.visits.map (·.position)).zip (answers.map (Reading.ofWords facet.traits.kind)) := by
  unfold scanNumbers Reader.deliveries
  cases reader.openCursor n <;> rfl

theorem scanOrdinals_eq (column : TermColumn) (expander : Option Expander) (memory : FacetMemory)
    (field : String) (plan : Plan) :
    scanOrdinals column expander memory field plan =
      (column.reader.deliveries memory.openings plan.rows).map fun answers =>
        let groups := match expander with
          | some expander => expander.scan column.size memory.expansions plan.groups
          | none => ⟨[], memory.expansions, []⟩
        let rows : Scan Ordinal :=
          (plan.visits.map (·.position)).zip (answers.map (Reading.ofOrdinals column.size))
        ⟨groups.scan ++ rows, groups.expansions, groups.trace ++ rows.trace field⟩ := by
  unfold scanOrdinals Reader.deliveries
  cases column.reader.openCursor memory.openings <;> rfl

section Numeric

variable {reader reader' : Reader Int64} {plan : Plan}
  (alike : ∀ n, reader'.deliveries n plan.rows = reader.deliveries n plan.rows)
  (memory : FacetMemory) (ordinals : List Ordinal)

include alike

theorem scanNumbers_congr (n : Nat) : (facet.withSource source).scanNumbers reader' n plan =
    facet.scanNumbers reader n plan := by
  rw [scanNumbers_eq, scanNumbers_eq, alike n]
  rfl

theorem countOnScale_congr (scale : NumberScale) (trace : Trace) :
    (facet.withSource source).countOnScale reader' scale memory hits plan trace =
      facet.countOnScale reader scale memory hits plan trace := by
  rw [countOnScale, scanNumbers_congr alike]
  rfl

theorem countExact_congr : (facet.withSource source).countExact reader' memory hits plan =
    facet.countExact reader memory hits plan := by
  rw [countExact, scanNumbers_congr alike]
  rfl

theorem countLinear_congr : (facet.withSource source).countLinear reader' memory hits plan =
    facet.countLinear reader memory hits plan := by
  simp only [countLinear, scanNumbers_congr alike, countOnScale_congr alike]
  rfl

theorem narrowOnScale_congr (scale : NumberScale) (trace : Trace) :
    (facet.withSource source).narrowOnScale reader' scale memory hits ordinals plan trace =
      facet.narrowOnScale reader scale memory hits ordinals plan trace := by
  rw [narrowOnScale, scanNumbers_congr alike]
  rfl

theorem narrowExact_congr :
    (facet.withSource source).narrowExact reader' memory hits ordinals plan =
      facet.narrowExact reader memory hits ordinals plan := by
  simp only [narrowExact, scanNumbers_congr alike]
  rfl

theorem narrowLinear_congr :
    (facet.withSource source).narrowLinear reader' memory hits ordinals plan =
      facet.narrowLinear reader memory hits ordinals plan := by
  simp only [narrowLinear, scanNumbers_congr alike, narrowOnScale_congr alike]
  rfl

end Numeric

section Enumerated

variable {column column' : TermColumn} {plan : Plan} (sizes : column'.size = column.size)
  (alike : ∀ n, column'.reader.deliveries n plan.rows = column.reader.deliveries n plan.rows)
  (style : LabelStyle) (expander : Option Expander) (memory : FacetMemory)

include sizes alike

theorem scanOrdinals_congr (field : String) :
    scanOrdinals column' expander memory field plan =
      scanOrdinals column expander memory field plan := by
  rw [scanOrdinals_eq, scanOrdinals_eq, alike, sizes]

theorem countTerms_congr :
    (facet.withSource source).countTerms column' style expander memory hits plan =
      facet.countTerms column style expander memory hits plan := by
  rw [countTerms, scanOrdinals_congr sizes alike]
  rfl

theorem narrowTerms_congr (ordinals : List Ordinal) :
    (facet.withSource source).narrowTerms column' expander memory hits ordinals plan =
      facet.narrowTerms column expander memory hits ordinals plan := by
  rw [narrowTerms, scanOrdinals_congr sizes alike, sizes]
  rfl

end Enumerated

/-- A call depends on its cursors only through what they answer along the rows of its plan. -/
theorem perform_congr {call : Call} (memory : FacetMemory)
    (alike : facet.source.Alike (facet.plan call.hits).rows source) :
    (facet.withSource source).perform memory call = facet.perform memory call := by
  -- plans are made before any cursor is opened, so that both facets have the same
  have plans := plan_withSource alike call.hits
  generalize held : facet.source = own at alike
  cases call with
  | count hits =>
    refine congrArg (Pass.map _) ?_
    unfold count
    simp only [Call.hits] at plans alike
    rw [source_withSource, mode_withSource, plans, held]
    cases alike with
    | absent => rfl
    | numeric alike =>
      cases facet.mode with
      | linear => simp only [countLinear_congr alike]; rfl
      | log => simp only [countOnScale_congr alike]; rfl
      | exact => simp only [countExact_congr alike]; rfl
    | enumerated sizes alike => simp only [countTerms_congr sizes alike]; rfl
  | narrow hits ordinals =>
    refine congrArg (Pass.map _) ?_
    unfold narrow
    simp only [Call.hits] at plans alike
    rw [source_withSource, mode_withSource, plans, held]
    cases alike with
    | absent => rfl
    | numeric alike =>
      cases facet.mode with
      | linear => simp only [narrowLinear_congr alike]; rfl
      | log => simp only [narrowOnScale_congr alike]; rfl
      | exact => simp only [narrowExact_congr alike]; rfl
    | enumerated sizes alike => simp only [narrowTerms_congr sizes alike]; rfl

/-- Rows that are read whole are not reported as unreadable. -/
theorem unreadable_notMem_reasonsAt {rows : RowAnswers} (steady : facet.AnswersBy rows)
    (whole : rows.Whole) {n : Nat} (opened : facet.opens n = .ok ()) {history : List RowId}
    {row : RowId} (forward : ∀ earlier ∈ history, earlier ≤ row) :
    .unreadable ∉ facet.reasonsAt n history row := by
  cases source : facet.source with
  | absent => simp only [reasonsAt, source, List.not_mem_nil, not_false_eq_true]
  | numeric reader =>
    simp only [AnswersBy, opens, reasonsAt, source] at steady opened ⊢
    obtain ⟨cursor, atOpening, _⟩ := exists_of_map_ok opened
    rw [steady.answer_eq atOpening forward]
    exact Reading.unreadable_notMem_skips_ofWords _ (whole.words row)
  | enumerated column style dictionary expander =>
    simp only [AnswersBy, opens, reasonsAt, source] at steady opened ⊢
    obtain ⟨cursor, atOpening, _⟩ := exists_of_map_ok opened
    rw [steady.answer_eq atOpening forward]
    exact Reading.unreadable_notMem_skips_ofOrdinals _ (whole.ordinals row)

/-- A call on a field with values gives every position of the result set one place: with a group that
is expanded, with a row to read, or with a report of an unknown item. It opens cursors one after another
and reads each along the rows to read, which never go back, once for every visit; what other rows or
another order would be answered makes no difference. Without values nothing is read or reported. On a
table nothing is unreadable but groups that cannot be expanded. -/
theorem calls_read_cursors_forward {index : Index} {settings : Settings} {field : String}
    {mode : Mode} (opened : index.facet settings field mode = .ok facet) (calls : List Call)
    (call : Call) :
    let plan := facet.plan call.hits
    let memory := facet.after calls
    let pass := facet.perform memory call
    (facet.source = .absent → pass.trace = [] ∧ pass.memory = memory) ∧
    (facet.source ≠ .absent →
      plan.Covers index.rowOf facet.isEvent call.hits ∧
      pass.trace.events.count (.skipped field .unknownItem) = plan.unknown.length ∧
      (∃ n trace visited matched, facet.Swept memory plan n trace ∧
        pass.trace = .event (.started call.kind field) ::
          (plan.trace field ++ trace ++ [.event (.finished call.kind field visited matched)]) ∧
        ((∃ answer, pass.result = .ok answer) ∧ pass.memory.openings = n ∨
          ∃ error, pass.result = .error error ∧ facet.opens n = .error error ∧
            pass.memory.openings = n + 1)) ∧
      (∀ source, facet.source.Alike plan.rows source →
        (facet.withSource source).perform memory call = pass) ∧
      ∀ table : TableIndex, index = table.toIndex →
        pass.trace.events.count (.skipped field .unreadable) =
          (pass.memory.openings - memory.openings) * facet.lostGroups plan) := by
  intro plan memory pass
  have itself := reportsAsItself_of_opened opened
  rw [← Index.field_of_facet opened, ← Index.rowOf_of_facet opened]
  refine ⟨fun absent => ?_, fun present => ?_⟩
  · cases call <;> simp only [pass, perform, Pass.map, count, narrow, absent, and_self]
  obtain ⟨n, trace, visited, matched, swept, reported, ended⟩ := perform_runs present memory call
  refine ⟨Plan.make_covers _ _ _, ?_, ⟨n, trace, visited, matched, swept, reported, ended⟩,
    fun source alike => perform_congr memory alike, ?_⟩
  · rw [show pass.trace = _ from reported, Trace.count_around, Trace.events_append, List.count_append,
      Plan.count_trace, swept.count_unknownItem itself, if_pos rfl, Nat.add_zero]
  · rintro table rfl
    obtain ⟨steady, opens⟩ := TableIndex.facet_answersBy opened
    -- a table's cursor would refuse a row behind one it has read, and no plan has one
    have whole : ∀ n, facet.opens n = .ok () → ∀ visit ∈ plan.visits,
        .unreadable ∉ facet.reasonsAt n (plan.before visit) visit.row :=
      fun n atOpening visit _ => unreadable_notMem_reasonsAt steady (table.answers_whole field)
        atOpening fun _ => Plan.row_le_of_mem_before
    rw [show pass.trace = _ from reported, Trace.count_around, Trace.events_append, List.count_append,
      Plan.count_trace, swept.count_unreadable itself (facet.faithful_after calls) whole,
      if_neg (by decide), Nat.zero_add]
    rcases ended with ⟨_, openings⟩ | ⟨error, _, closed, _⟩
    · rw [show pass.memory.openings = n from openings]
    · rw [opens n] at closed
      cases closed

/-- Two hits of the market have groups, and one of these is not there; one hit has no row, and the
others are read from the lowest row to the highest. -/
theorem calls_read_cursors_forward_market :
    let call := Call.count TableIndex.marketHits
    ∃ facet, TableIndex.market.toIndex.facet .default "colour" .linear = .ok facet ∧
      (facet.plan call.hits).rows = [0, 2, 2] ∧ (facet.plan call.hits).rows.Pairwise (· ≤ ·) ∧
      (facet.perform .fresh call).trace.events.count (.skipped "colour" .unknownItem) = 1 ∧
      (facet.perform .fresh call).trace.events.count (.skipped "colour" .unreadable) = 1 := by
  intro call
  have opened : TableIndex.market.toIndex.facet .default "colour" .linear = .ok _ := rfl
  obtain ⟨covers, unknown, _, _, unreadable⟩ :=
    (calls_read_cursors_forward opened [] call).2 (by intro absent; cases absent)
  exact ⟨_, opened, by decide +kernel, covers.forward, unknown.trans (by decide +kernel),
    (unreadable _ rfl).trans (by decide +kernel)⟩

/-- Without values a hit that has neither a group nor a row is passed over, and not reported. -/
theorem hit_without_row_goes_unreported :
    let item : Item := ⟨0, 5, none⟩
    ∃ facet, (TableIndex.new 1).toIndex.facet .default "size" .linear = .ok facet ∧
      ¬ ((facet.isEvent = true ∧ item.group.isSome) ∨ (facet.rowOf item).isSome ∨
        (facet.perform .fresh (.count [⟨item, 0⟩])).trace.events.count
          (.skipped "size" .unknownItem) = 1) :=
  ⟨_, rfl, by decide +kernel⟩

end Facet

end Facets
