import Facets.Proofs.Facet.Passes
import Facets.Proofs.Index.Opening

/-!
What passes report between their start and their end: values that were left out, each with its
reason, and lookups among the groups that were expanded before.
-/

namespace Facets

/-- A report on values of a field, or on what is remembered of groups. Hits without a row are reported
before any cursor is opened and do not count here. -/
def Event.IsReport (field : String) (event : Event) : Prop :=
  (∃ reason, reason ≠ .unknownItem ∧ event = .skipped field reason) ∨
    ∃ hit, event = .cacheProbed hit

theorem Event.isReport_skipped {field : String} {reason : SkipReason}
    (known : reason ≠ .unknownItem) : (Event.skipped field reason).IsReport field :=
  Or.inl ⟨reason, known, rfl⟩

theorem Trace.isReport_ofSkips {field : String} {reasons : List SkipReason}
    (known : .unknownItem ∉ reasons) {event : Event}
    (member : event ∈ (Trace.ofSkips field reasons).events) : event.IsReport field := by
  rw [Trace.events_ofSkips] at member
  obtain ⟨reason, listed, rfl⟩ := List.mem_map.mp member
  exact Event.isReport_skipped fun same => known (same ▸ listed)

theorem Trace.events_around (first last : Event) (between : Trace) :
    Trace.events (.event first :: (between ++ [.event last])) =
      first :: (between.events ++ [last]) := by
  simp [Trace.events, Mark.event?]

/-- The start and the end of a pass skip nothing. -/
theorem Trace.count_around (kind : PassKind) (field : String) (visited matched : Nat)
    (between : Trace) (reason : SkipReason) :
    (Trace.events (.event (.started kind field) ::
      (between ++ [.event (.finished kind field visited matched)]))).count (.skipped field reason) =
        between.events.count (.skipped field reason) := by
  rw [events_around, List.count_cons_of_ne (by simp), List.count_append,
    List.count_singleton, if_neg (by simp), Nat.add_zero]

/-- A plan reports each of its unknown hits once, and nothing else. -/
theorem Plan.count_trace (plan : Plan) (field : String) (reason : SkipReason) :
    (plan.trace field).events.count (.skipped field reason) =
      if reason = .unknownItem then plan.unknown.length else 0 := by
  have reported : (plan.trace field).events =
      List.replicate plan.unknown.length (.skipped field .unknownItem) := by
    rw [Plan.trace, Trace.events_ofSkips, List.map_map]
    exact List.map_const' ..
  rw [reported, List.count_replicate, beq_eq_decide]
  by_cases same : reason = .unknownItem
  · rw [if_pos same, same, if_pos (decide_eq_true rfl)]
  · rw [if_neg same, if_neg]
    intro equal
    exact same (Event.skipped.inj (of_decide_eq_true equal)).2.symm

namespace Reading

theorem unknownItem_notMem_skips_inSpace (size : Nat) (ordinals : List Ordinal) :
    .unknownItem ∉ (inSpace size ordinals).skips := by
  simp [inSpace]

theorem unknownItem_notMem_skips_ofWords (kind : NumberKind) (delivery : Delivery Int64) :
    .unknownItem ∉ (ofWords kind delivery).skips := by
  unfold ofWords
  split
  · simp [skip]
  · split <;> simp [skip]

theorem unknownItem_notMem_skips_ofOrdinals (size : Nat) (delivery : Delivery Ordinal) :
    .unknownItem ∉ (ofOrdinals size delivery).skips := by
  unfold ofOrdinals
  split
  · simp [skip]
  · exact unknownItem_notMem_skips_inSpace size _

theorem unreadable_notMem_skips_inSpace (size : Nat) (ordinals : List Ordinal) :
    .unreadable ∉ (inSpace size ordinals).skips := by
  simp [inSpace]

/-- A row that was read is not reported as unreadable. -/
theorem unreadable_notMem_skips_ofWords (kind : NumberKind) {delivery : Delivery Int64}
    (whole : delivery.complaint = none) : .unreadable ∉ (ofWords kind delivery).skips := by
  simp only [ofWords, whole]
  split <;> simp [skip]

theorem unreadable_notMem_skips_ofOrdinals (size : Nat) {delivery : Delivery Ordinal}
    (whole : delivery.complaint = none) : .unreadable ∉ (ofOrdinals size delivery).skips := by
  simp only [ofOrdinals, whole]
  exact unreadable_notMem_skips_inSpace size _

end Reading

namespace Expander

variable {expander : Expander} {expansions : Expansions} {event : Event}

theorem isReport_of_mem_scan {size : Nat} {groups : List (Nat × Ordinal)}
    (member : event ∈ (expander.scan size expansions groups).trace.events) :
    event.IsReport expander.field := by
  induction groups generalizing expansions with
  | nil => cases member
  | cons first rest ih =>
    simp only [scan, Trace.events_append, List.append_assoc, List.mem_append] at member
    rcases member with expanded | left | later
    · rcases event_of_mem_expand expanded with rfl | probed
      · exact Event.isReport_skipped (by decide)
      · exact Or.inr probed
    · refine Trace.isReport_ofSkips ?_ left
      split
      · exact Reading.unknownItem_notMem_skips_inSpace size _
      · simp [Reading.skip]
    · exact ih later

/-- Whether a group cannot be expanded. -/
def loses (expander : Expander) (group : Ordinal) : Bool := !(expander.expandAnew group).isOk

/-- Every group that cannot be expanded is reported as unreadable, once. -/
theorem Faithful.count_unreadable_scan (faithful : expander.Faithful expansions) (size : Nat)
    (groups : List (Nat × Ordinal)) :
    (expander.scan size expansions groups).trace.events.count (.skipped expander.field .unreadable) =
      groups.countP fun place => expander.loses place.2 := by
  induction groups generalizing expansions with
  | nil => rfl
  | cons first rest ih =>
    obtain ⟨position, group⟩ := first
    have expanding : (expander.expand expansions group).trace.events.count
        (.skipped expander.field .unreadable) = 0 := by
      refine List.count_eq_zero.mpr fun member => ?_
      rcases event_of_mem_expand member with same | ⟨hit, same⟩ <;> cases same
    simp only [Expander.scan, Trace.events_append, List.append_assoc, List.count_append, expanding,
      ih (faithful.expand group), List.countP_cons, faithful.expand_result, Trace.events_ofSkips]
    rw [loses]
    cases expander.expandAnew group with
    | error error => simp [Reading.skip, Except.isOk, Except.toBool, Nat.add_comm]
    | ok ordinals =>
      have none : ((Reading.inSpace size ordinals).skips.map (Event.skipped expander.field)).count
          (.skipped expander.field .unreadable) = 0 := by
        refine List.count_eq_zero.mpr fun member => ?_
        obtain ⟨reason, listed, same⟩ := List.mem_map.mp member
        cases same
        exact Reading.unreadable_notMem_skips_inSpace size ordinals listed
      simp [none, Except.isOk, Except.toBool]

end Expander

namespace Facet

/-- Reports on groups are made under the facet's own field. -/
def ReportsAsItself (facet : Facet) : Prop :=
  ∀ column style dictionary expander,
    facet.source = .enumerated column style dictionary (some expander) → expander.field = facet.field

/-- How many groups of a plan cannot be expanded. -/
def lostGroups (facet : Facet) (plan : Plan) : Nat :=
  match facet.source with
  | .enumerated _ _ _ (some expander) => plan.groups.countP fun place => expander.loses place.2
  | _ => 0

variable {facet : Facet} {memory : FacetMemory} {plan : Plan} {n : Nat} {trace : Trace}

theorem reportsAsItself_of_opened {index : Index} {settings : Settings} {field : String} {mode : Mode}
    (opened : index.facet settings field mode = .ok facet) : facet.ReportsAsItself := by
  intro column style dictionary expander source
  obtain ⟨_, _, _, _, rfl⟩ := Index.expander_of_facet opened source
  exact (Index.field_of_facet opened).symm

theorem unknownItem_notMem_reasonsAt (facet : Facet) (n : Nat) (history : List RowId) (row : RowId) :
    .unknownItem ∉ facet.reasonsAt n history row := by
  unfold reasonsAt
  split
  · exact List.not_mem_nil
  · exact Reading.unknownItem_notMem_skips_ofWords _ _
  · exact Reading.unknownItem_notMem_skips_ofOrdinals _ _

/-- A cursor that reads every row of a plan without complaint reports none as unreadable. -/
theorem count_unreadable_visits
    (whole : ∀ visit ∈ plan.visits, .unreadable ∉ facet.reasonsAt n (plan.before visit) visit.row) :
    (Trace.ofSkips facet.field (plan.visits.flatMap fun visit =>
      facet.reasonsAt n (plan.before visit) visit.row)).events.count
        (.skipped facet.field .unreadable) = 0 := by
  refine List.count_eq_zero.mpr fun member => ?_
  rw [Trace.events_ofSkips] at member
  obtain ⟨reason, listed, same⟩ := List.mem_map.mp member
  cases same
  obtain ⟨visit, visited, atVisit⟩ := List.mem_flatMap.mp listed
  exact whole visit visited atVisit

theorem isReport_of_mem_groupTrace (itself : facet.ReportsAsItself) {event : Event}
    (member : event ∈ (facet.groupTrace memory plan).events) : event.IsReport facet.field := by
  unfold groupTrace at member
  split at member
  · rename_i expander source
    rw [← itself _ _ _ _ source]
    exact Expander.isReport_of_mem_scan member
  · cases member

theorem count_unreadable_groupTrace (itself : facet.ReportsAsItself)
    (faithful : facet.Faithful memory) (plan : Plan) :
    (facet.groupTrace memory plan).events.count (.skipped facet.field .unreadable) =
      facet.lostGroups plan := by
  cases source : facet.source with
  | absent | numeric =>
    simp only [groupTrace, lostGroups, source, Trace.events, List.filterMap_nil, List.count_nil]
  | enumerated column style dictionary expander =>
    cases expander with
    | none =>
      simp only [groupTrace, lostGroups, source, Trace.events, List.filterMap_nil, List.count_nil]
    | some expander =>
      simp only [Faithful, source] at faithful
      simp only [groupTrace, lostGroups, source, ← itself _ _ _ _ source]
      exact faithful.count_unreadable_scan _ _

namespace Swept

/-- Cursors report nothing but what they leave out and what is remembered of groups. -/
theorem isReport (itself : facet.ReportsAsItself) (swept : facet.Swept memory plan n trace) :
    ∀ event ∈ trace.events, event.IsReport facet.field := by
  induction swept with
  | start =>
    intro event member
    cases member
  | next _ _ ih =>
    intro event member
    simp only [Trace.events_append, List.append_assoc, List.mem_append] at member
    rcases member with earlier | ofGroup | ofRow
    · exact ih event earlier
    · exact isReport_of_mem_groupTrace itself ofGroup
    · refine Trace.isReport_ofSkips (fun listed => ?_) ofRow
      obtain ⟨visit, _, atVisit⟩ := List.mem_flatMap.mp listed
      exact facet.unknownItem_notMem_reasonsAt _ _ _ atVisit

theorem count_unknownItem (itself : facet.ReportsAsItself)
    (swept : facet.Swept memory plan n trace) :
    trace.events.count (.skipped facet.field .unknownItem) = 0 := by
  refine List.count_eq_zero.mpr fun member => ?_
  rcases swept.isReport itself _ member with ⟨reason, known, same⟩ | ⟨hit, same⟩
  · cases same
    exact known rfl
  · cases same

/-- A column of numbers that leaves nothing out has nothing to report. -/
theorem events_eq_nil {reader : Reader Int64} (numeric : facet.source = .numeric reader)
    (complete : ∀ n, facet.opens n = .ok () → ∀ visit,
      facet.reasonsAt n (plan.before visit) visit.row = [])
    (swept : facet.Swept memory plan n trace) : trace.events = [] := by
  induction swept with
  | start => rfl
  | next _ opened ih =>
    have silent : facet.groupTrace memory plan = [] := by simp only [groupTrace, numeric]
    have nothing : plan.visits.flatMap (fun visit =>
        facet.reasonsAt _ (plan.before visit) visit.row) = [] :=
      List.flatMap_eq_nil_iff.mpr fun visit _ => complete _ opened visit
    rw [Trace.events_append, Trace.events_append, ih, silent, nothing]
    rfl

theorem openings_le (swept : facet.Swept memory plan n trace) : memory.openings ≤ n := by
  induction swept with
  | start => exact le_rfl
  | next _ _ ih => omega

/-- Where no row is complained about, each cursor reports the groups that cannot be expanded and
nothing else as unreadable. -/
theorem count_unreadable (itself : facet.ReportsAsItself) (faithful : facet.Faithful memory)
    (whole : ∀ n, facet.opens n = .ok () → ∀ visit ∈ plan.visits,
      .unreadable ∉ facet.reasonsAt n (plan.before visit) visit.row)
    (swept : facet.Swept memory plan n trace) :
    trace.events.count (.skipped facet.field .unreadable) =
      (n - memory.openings) * facet.lostGroups plan := by
  induction swept with
  | start => simp [Trace.events]
  | next earlier opened ih =>
    have bound := earlier.openings_le
    rw [Trace.events_append, Trace.events_append, List.count_append, List.count_append, ih,
      count_unreadable_groupTrace itself faithful, count_unreadable_visits (whole _ opened),
      Nat.succ_sub bound, Nat.succ_mul, Nat.add_zero]

end Swept

end Facet

end Facets
