import Facets.Proofs.Facet.Agreement
import Facets.Proofs.Facet.Reports
import Facets.Proofs.Index.Table

/-!
The accounts of a pass. Whatever happens on the way, a pass reports one start and one end, and at the
end how many documents it visited and how many of them it counted or picked.
-/

namespace Facets

/-- A trace of one pass over a field: its start, reports on values that were left out and on groups,
and its end. -/
def Trace.IsPass (trace : Trace) (kind : PassKind) (field : String) (visited matched : Nat) : Prop :=
  ∃ between : List Event, trace.events =
      .started kind field :: (between ++ [.finished kind field visited matched]) ∧
    ∀ event ∈ between, (∃ reason, event = .skipped field reason) ∨ ∃ hit, event = .cacheProbed hit

theorem Sweep.getLast?_toPass {α : Type} (sweep : Sweep α) (kind : PassKind) (field : String)
    (plan : Plan) : (sweep.toPass kind field plan).trace.getLast? =
      some (.event (.finished kind field sweep.visited sweep.matched)) := by
  simp only [Sweep.toPass, List.getLast?_cons, List.getLast?_append, List.getLast?_nil,
    Option.some_or, Option.getD_some, Option.getD_none]

namespace Facet

variable {facet : Facet} {memory : FacetMemory} {hits : Hits}

/-- A pass around a regular sweep starts, reports and ends. -/
theorem isPass_of_regular {α : Type} (itself : facet.ReportsAsItself) {sweep : Sweep α}
    (regular : sweep.Regular facet memory hits) (kind : PassKind) :
    (sweep.toPass kind facet.field (facet.plan hits)).trace.IsPass kind facet.field sweep.visited
      sweep.matched := by
  obtain ⟨n, swept⟩ : ∃ n, facet.Swept memory (facet.plan hits) n sweep.trace := by
    cases regular.ends with
    | answered _ swept => exact ⟨_, swept⟩
    | failed _ _ _ swept => exact ⟨_, swept⟩
  refine ⟨((facet.plan hits).trace facet.field).events ++ sweep.trace.events, ?_, ?_⟩
  · rw [Sweep.toPass, Trace.events_around, Trace.events_append]
  · intro event member
    rcases List.mem_append.mp member with unknown | report
    · rw [Plan.trace, Trace.events_ofSkips] at unknown
      obtain ⟨reason, _, rfl⟩ := List.mem_map.mp unknown
      exact Or.inl ⟨reason, rfl⟩
    · rcases swept.isReport itself event report with ⟨reason, _, rfl⟩ | probed
      · exact Or.inl ⟨reason, rfl⟩
      · exact Or.inr probed

/-- Every pass has one start and one end, with its kind and its field, and between them nothing but
reports on values left out and on groups. At its end, also if it fails, it has matched no more
documents than it visited and visited no more than there are hits. A count that succeeds visited all
hits and matched those that are in some bucket; a narrowing that succeeds matched the hits it picked,
and visited all hits or, if no wanted bucket lies in the bucket space, none. Without values there is no
pass and nothing is reported. -/
theorem passes_account_for_hits {index : Index} {settings : Settings} {field : String} {mode : Mode}
    (opened : index.facet settings field mode = .ok facet) (calls : List Call) (hits : Hits)
    (ordinals : List Ordinal) :
    let memory := facet.after calls
    let counted := facet.count memory hits
    let narrowed := facet.narrow memory hits ordinals
    let sets := facet.bucketSets (facet.heard (facet.countingCursor memory) hits)
      (facet.fit (facet.heard memory.openings hits) hits) hits
    let space := facet.bucketSpace (facet.values (facet.heard memory.openings hits) hits)
    (facet.source = .absent → counted.trace = [] ∧ narrowed.trace = []) ∧
    (facet.source ≠ .absent →
      (∃ visited matched, counted.trace.IsPass .counting field visited matched ∧
        matched ≤ visited ∧ visited ≤ hits.length ∧
        ∀ histogram, counted.result = .ok histogram → visited = hits.length ∧
          (matched = sets.countP fun set => set.Nonempty) ∧
          ∀ ordinal, histogram.count ordinal = sets.countP fun set => ordinal ∈ set) ∧
      ∃ visited matched, narrowed.trace.IsPass .narrowing field visited matched ∧
        matched ≤ visited ∧ visited ≤ hits.length ∧
        ∀ picked, narrowed.result = .ok picked → matched = picked.length ∧
          visited = if ∃ ordinal ∈ ordinals, ordinal < space then hits.length else 0) := by
  intro memory counted narrowed sets space
  have itself := reportsAsItself_of_opened opened
  have faithful := facet.faithful_after calls
  rw [← Index.field_of_facet opened]
  refine ⟨fun absent => ?_, fun present => ⟨?_, ?_⟩⟩
  · simp only [counted, narrowed, count, narrow, absent, and_self]
  · obtain ⟨sweep, regular, run⟩ := count_regular present memory hits
    have trace : counted.trace = (sweep.toPass .counting facet.field (facet.plan hits)).trace :=
      congrArg Pass.trace run
    refine ⟨sweep.visited, sweep.matched, ?_, regular.matched_le, regular.visited_le, ?_⟩
    · rw [trace]
      exact isPass_of_regular itself regular .counting
    · intro histogram answered
      obtain ⟨opens, rfl⟩ := eq_reference_of_counted faithful answered
      have last : counted.trace.getLast? = _ := count_finishes faithful present opens
      rw [trace, Sweep.getLast?_toPass] at last
      simp only [Option.some.injEq, Mark.event.injEq, Event.finished.injEq, true_and] at last
      exact ⟨last.1, last.2, Bucket.count_of_listOf (fun ordinal => described_of_filled ordinal) rfl⟩
  · obtain ⟨sweep, regular, picks, run⟩ := narrow_regular present memory hits ordinals
    refine ⟨sweep.visited, sweep.matched, ?_, regular.matched_le, regular.visited_le, ?_⟩
    · rw [show narrowed = _ from run]
      exact isPass_of_regular itself regular .narrowing
    · intro picked answered
      rw [show narrowed = _ from run] at answered
      exact picks picked answered

/-- Of six hits four have colours; one has none, and one no row. Three are green. -/
theorem passes_account_for_hits_market :
    let hits := TableIndex.marketHits
    ∃ facet counted narrowed,
      TableIndex.market.toIndex.facet .default "colour" .linear = .ok facet ∧
      (facet.count .fresh hits).trace.IsPass .counting "colour" 6 counted ∧ counted = 4 ∧
      (facet.narrow .fresh hits [1, 7]).trace.IsPass .narrowing "colour" 6 narrowed ∧
      narrowed = 3 := by
  intro hits
  have opened : TableIndex.market.toIndex.facet .default "colour" .linear = .ok _ := rfl
  obtain ⟨⟨_, _, counting, _, _, counted⟩, _, _, narrowing, _, _, narrowed⟩ :=
    (passes_account_for_hits opened [] hits [1, 7]).2 (by intro absent; cases absent)
  obtain ⟨rfl, rfl, _⟩ := counted _ rfl
  obtain ⟨rfl, rfl⟩ := narrowed _ rfl
  exact ⟨_, _, _, opened, counting, by decide +kernel, narrowing, by decide +kernel⟩

end Facet

end Facets
