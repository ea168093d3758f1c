import Facets.Index.Staged
import Facets.Proofs.Facet.Agreement

/-!
What a failed count leaves behind. Its only trace is the scale that a linear facet fits before it
opens its second cursor: that scale is kept although nothing was counted on it.
-/

namespace Facets

namespace Facet

variable {facet : Facet} {rows : RowAnswers} {memory : FacetMemory}

/-- A call that is answered and does not fail. -/
def Answers (facet : Facet) (memory : FacetMemory) : Call → Prop
  | .count hits => ∃ histogram, (facet.count memory hits).result = .ok histogram
  | .narrow hits ordinals => ∃ picked, (facet.narrow memory hits ordinals).result = .ok picked

/-- Calls that are answered one after another. -/
def AnswersAll (facet : Facet) : FacetMemory → List Call → Prop
  | _, [] => True
  | memory, call :: rest =>
    facet.Answers memory call ∧ facet.AnswersAll (facet.afterCall memory call) rest

/-- The scale remembered after a call that is answered. -/
def scaleAfter (facet : Facet) (rows : RowAnswers) (scale : Option LinearScale) :
    Call → Option LinearScale
  | .count hits => (if facet.isFitted then some (facet.rowFit rows hits) else none).or scale
  | .narrow hits _ => scale.or (if facet.isFitted then some (facet.rowFit rows hits) else none)

theorem fit?_of_opened (steady : facet.AnswersBy rows)
    (opened : facet.isFitted = true → facet.opens memory.openings = .ok ()) (hits : Hits) :
    facet.fit? memory hits = if facet.isFitted then some (facet.rowFit rows hits) else none := by
  cases fitted : facet.isFitted with
  | true =>
    rw [fit?_of_steady steady fitted, opened fitted]
    rfl
  | false =>
    rw [fit?_of_unfitted fitted]
    rfl

/-- Without a scale to narrow on, narrowing opens a cursor to fit one. -/
theorem opens_of_narrowed (faithful : facet.Faithful memory) (steady : facet.AnswersBy rows)
    (fitted : facet.isFitted = true) (unscaled : memory.scale = none) {hits picked : Hits}
    {ordinals : List Ordinal} (narrowed : (facet.narrow memory hits ordinals).result = .ok picked) :
    facet.opens memory.openings = .ok () := by
  rw [narrow_result faithful steady] at narrowed
  obtain ⟨_, opened, _⟩ := exists_of_map_ok narrowed
  obtain ⟨reader, numeric, linear⟩ := exists_reader_of_isFitted fitted
  have ahead : facet.readsAhead memory = true := by
    simp only [readsAhead, numeric, linear, unscaled, Option.isNone_none]
  simp only [narrowOpens, ahead, if_true] at opened
  obtain ⟨_, first, _⟩ := exists_of_bind_ok opened
  exact first

theorem scale_afterCall (faithful : facet.Faithful memory) (steady : facet.AnswersBy rows)
    {call : Call} (answered : facet.Answers memory call) :
    (facet.afterCall memory call).scale = facet.scaleAfter rows memory.scale call := by
  cases call with
  | count hits =>
    obtain ⟨histogram, counted⟩ := answered
    have opened := (opens_of_countOpens (eq_rowHistogram_of_counted faithful steady counted).1).1
    rw [afterCall, scaleAfter, count_scale, fit?_of_opened steady fun _ => opened]
  | narrow hits ordinals =>
    obtain ⟨picked, narrowed⟩ := answered
    rw [afterCall, scaleAfter, narrow_scale]
    cases stored : memory.scale with
    | some scale => rw [Option.some_or, Option.some_or]
    | none =>
      rw [fit?_of_opened steady fun fitted =>
        opens_of_narrowed faithful steady fitted stored narrowed]

/-- After calls that are answered, the remembered scale depends on the scale before and on the result
sets of the calls alone. -/
theorem scale_resume (steady : facet.AnswersBy rows) {memory : FacetMemory}
    (faithful : facet.Faithful memory) {calls : List Call}
    (answered : facet.AnswersAll memory calls) :
    (facet.resume memory calls).scale = calls.foldl (facet.scaleAfter rows) memory.scale := by
  induction calls generalizing memory with
  | nil => rfl
  | cons call rest ih =>
    obtain ⟨first, others⟩ := answered
    have step := scale_afterCall faithful steady first
    rw [List.foldl_cons, ← step]
    exact ih (faithful.afterCall call) others

theorem expansions_of_failed_count {hits : Hits} {error : SourceError}
    (failed : (facet.count memory hits).result = .error error) :
    (facet.count memory hits).memory.expansions = memory.expansions := by
  unfold count at failed ⊢
  cases source : facet.source with
  | absent => rfl
  | numeric reader =>
    cases mode : facet.mode with
    | linear =>
      simp only [countLinear]
      cases facet.scanNumbers reader memory.openings (facet.plan hits) with
      | error error => rfl
      | ok scan =>
        simp only [countOnScale]
        cases facet.scanNumbers reader _ (facet.plan hits) <;> rfl
    | log =>
      simp only [countOnScale]
      cases facet.scanNumbers reader memory.openings (facet.plan hits) <;> rfl
    | exact =>
      simp only [countExact]
      cases facet.scanNumbers reader memory.openings (facet.plan hits) <;> rfl
  | enumerated column style dictionary expander =>
    simp only [source, countTerms] at failed ⊢
    cases read : scanOrdinals column expander memory facet.field (facet.plan hits) with
    | error error => rfl
    | ok groups =>
      rw [read] at failed
      cases failed

/-- A count fails at its first cursor, or on a fitted facet at the second one, after the fit. -/
theorem opens_of_failed_count (faithful : facet.Faithful memory) {hits : Hits} {error : SourceError}
    (failed : (facet.count memory hits).result = .error error) :
    facet.opens memory.openings = .error error ∨
      facet.isFitted = true ∧ facet.opens memory.openings = .ok () ∧
        facet.opens (memory.openings + 1) = .error error := by
  rw [count_result faithful] at failed
  have closed := eq_error_of_map_error failed
  cases fitted : facet.isFitted with
  | true =>
    simp only [countOpens, countingCursor, fitted, if_true] at closed
    rcases exists_of_bind_error closed with first | ⟨_, first, second⟩
    · exact Or.inl first
    · exact Or.inr ⟨rfl, first, second⟩
  | false =>
    rw [countOpens_of_unfitted fitted] at closed
    exact Or.inl closed

/-- A count that fails keeps what is remembered of groups. It keeps the scale too, unless it was made
on a linear facet of numbers and failed at its second cursor: by then the scale of its own hits has
replaced the one before. Later calls that are answered are answered as if it had not been made, on
the scale it left. -/
theorem failed_count_keeps_all_but_fit (calls : List Call) (hits : Hits) {error : SourceError}
    (failed : (facet.count (facet.after calls) hits).result = .error error) :
    let before := facet.after calls
    let left := (facet.count before hits).memory
    left.expansions = before.expansions ∧
    (facet.opens before.openings = .error error ∧ left.scale = before.scale ∨
      facet.isFitted = true ∧ facet.opens before.openings = .ok () ∧
        facet.opens (before.openings + 1) = .error error ∧
        left.scale = some (facet.fit (facet.heard before.openings hits) hits)) ∧
    ∀ rows, facet.AnswersBy rows → ∀ openings later others ordinals picked expected,
      let unmade := { before with openings := openings, scale := left.scale }
      facet.AnswersAll left later → facet.AnswersAll unmade later →
      (facet.narrow (facet.resume left later) others ordinals).result = .ok picked →
      (facet.narrow (facet.resume unmade later) others ordinals).result = .ok expected →
      picked = expected := by
  intro before left
  have faithful := facet.faithful_after calls
  refine ⟨expansions_of_failed_count failed, ?_, ?_⟩
  · rcases opens_of_failed_count faithful failed with closed | ⟨fitted, opened, closed⟩
    · refine Or.inl ⟨closed, ?_⟩
      have unfit : facet.fit? before hits = none := by
        unfold fit?
        rw [closed]
        cases facet.isFitted <;> rfl
      rw [count_scale, unfit, Option.none_or]
    · refine Or.inr ⟨fitted, opened, closed, ?_⟩
      rw [count_scale, fit?, fitted, opened, Option.some_or]
  · intro rows steady openings later others ordinals picked expected unmade answered answered'
      narrowed narrowed'
    have faithful' : facet.Faithful left := faithful.count hits
    have faithful'' : facet.Faithful unmade := faithful.of_expansions rfl
    have scales : (facet.resume left later).scale = (facet.resume unmade later).scale := by
      rw [scale_resume steady faithful' answered, scale_resume steady faithful'' answered']
    rw [eq_within_of_narrowed (faithful'.resume later) steady narrowed,
      eq_within_of_narrowed (faithful''.resume later) steady narrowed', scales]

/-- A facet of three sizes, in a column one of whose openings fails. -/
def faltering (fault : Nat) : Facet where
  field := "size"
  traits := ⟨true, .integer, false, false, false⟩
  mode := .linear
  source := .numeric (.single fun n =>
    if n = fault then .error (.unavailable "closed")
    else .ok fun _ row => .ok ([some 0, some 50, some 100][row]?).join)
  rowOf item := if item.id < 3 then some item.id else none
  format := ⟨true, " - "⟩

/-- The hits of three documents. -/
def falteringHits : Hits := Hits.ofItems [⟨0, 0, none⟩, ⟨0, 1, none⟩, ⟨0, 2, none⟩]

/-- What the column of three sizes answers. -/
def falteringRows : RowAnswers :=
  ⟨fun row => .whole ([some 0, some 50, some 100][row]?).join.toList, fun _ => .whole []⟩

theorem faltering_answersBy (fault : Nat) : (faltering fault).AnswersBy falteringRows := by
  intro n cursor opened history row _
  simp only [Reader.openCursor] at opened
  split at opened
  · cases opened
  · cases opened
    rfl

/-- A failure at the first cursor of the second count, and one at its second cursor. -/
theorem failed_count_keeps_all_but_fit_faltering :
    let hits := falteringHits
    let before (fault : Nat) := (faltering fault).after [.count hits]
    let second (fault : Nat) := (faltering fault).count (before fault) (hits.take 2)
    let fit := (faltering 3).fit ((faltering 3).heard (before 3).openings (hits.take 2)) (hits.take 2)
    (second 2).result = .error (.unavailable "closed") ∧
    ((faltering 2).narrow ((faltering 2).resume (second 2).memory [.narrow hits [0]]) hits [9]).result =
      ((faltering 2).narrow
        ((faltering 2).resume { before 2 with openings := 3 } [.narrow hits [0]]) hits [9]).result ∧
    (second 3).result = .error (.unavailable "closed") ∧ (second 3).memory.scale = some fit ∧
    ((faltering 3).narrow (before 3) hits [9]).result = .ok (hits.drop 2) ∧
    ((faltering 3).narrow (second 3).memory hits [9]).result = .ok (hits.drop 1) := by
  intro hits before second fit
  have kept := (failed_count_keeps_all_but_fit [.count hits] (hits.take 2)
    (rfl : (second 2).result = _)).2.2 _ (faltering_answersBy 2)
  have same := kept 3 [.narrow hits [0]] hits [9] _ _
    ⟨⟨_, rfl⟩, trivial⟩ ⟨⟨_, rfl⟩, trivial⟩ rfl rfl
  obtain ⟨_, ⟨closed, _⟩ | ⟨_, _, _, stored⟩, _⟩ :=
    failed_count_keeps_all_but_fit [.count hits] (hits.take 2) (rfl : (second 3).result = _)
  · cases closed
  · refine ⟨rfl, congrArg Except.ok same, rfl, stored, ?_, ?_⟩
    · decide +kernel
    · decide +kernel

end Facet

/-- Three sizes in a column whose cursors open three times. -/
def StagedIndex.rationed : StagedIndex where
  documents := 3
  rows := none
  fields :=
    [("size",
      { traits := ⟨true, .integer, false, false, false⟩
        column := some
          { rows := .numbers [some 0, some 50, some 100]
            badRows := []
            size := 0
            dictionary := .empty
            gate := ⟨some 3, "closed"⟩ }
        columnError := none
        groups := none
        groupsError := none })]

namespace Facet

open StagedIndex

/-- A count whose second cursor does not open replaces a scale from 0 to 100 by one from 0 to 50. -/
theorem failed_count_replaces_scale : ∃ facet,
    rationed.toIndex.facet .default "size" .linear = .ok facet ∧
    (facet.count (facet.after [.count falteringHits]) (falteringHits.take 2)).result =
      .error (.unavailable "closed") ∧
    (facet.after [.count falteringHits]).scale.map (·.high.toBits) = some (100.0 : Float).toBits ∧
    (facet.count (facet.after [.count falteringHits]) (falteringHits.take 2)).memory.scale.map
      (·.high.toBits) = some (50.0 : Float).toBits ∧
    (facet.count (facet.after [.count falteringHits]) (falteringHits.take 2)).memory.scale ≠
      (facet.after [.count falteringHits]).scale := by
  refine ⟨_, rfl, rfl, by decide +kernel, by decide +kernel, fun same => ?_⟩
  have bits := congrArg (Option.map (·.high.toBits)) same
  revert bits
  decide +kernel

end Facet

end Facets
