import Facets.Proofs.Facet.Narrowing
import Facets.Proofs.Index.Table

namespace Facets

/-- One use of an open facet. -/
inductive Call where
  | count (hits : Hits)
  | narrow (hits : Hits) (ordinals : List Ordinal)

namespace Call

def counted? : Call → Option Hits
  | .count hits => some hits
  | .narrow _ _ => none

def narrowed? : Call → Option Hits
  | .count _ => none
  | .narrow hits _ => some hits

/-- The result set that scales are fitted to after some calls: that of the last count, or that of the
first narrowing if nothing was counted. -/
def standing (calls : List Call) : Option Hits :=
  (calls.filterMap counted?).getLast?.or (calls.filterMap narrowed?).head?

theorem standing_count (calls : List Call) (hits : Hits) :
    standing (calls ++ [.count hits]) = some hits := by
  simp [standing, counted?]

theorem standing_narrow (calls : List Call) (hits : Hits) (ordinals : List Ordinal) :
    standing (calls ++ [.narrow hits ordinals]) = (standing calls).or (some hits) := by
  simp [standing, counted?, narrowed?]

end Call

namespace Facet

/-- What a facet remembers after one more call. -/
def afterCall (facet : Facet) (memory : FacetMemory) : Call → FacetMemory
  | .count hits => (facet.count memory hits).memory
  | .narrow hits ordinals => (facet.narrow memory hits ordinals).memory

/-- What a facet remembers after some more calls. -/
def resume (facet : Facet) (memory : FacetMemory) (calls : List Call) : FacetMemory :=
  calls.foldl facet.afterCall memory

/-- What a facet remembers after some calls, whether they succeed or fail. -/
def after (facet : Facet) (calls : List Call) : FacetMemory := calls.foldl facet.afterCall .fresh

variable {facet : Facet} {rows : RowAnswers}

theorem after_concat (calls : List Call) (call : Call) :
    facet.after (calls ++ [call]) = facet.afterCall (facet.after calls) call := by
  simp only [after, List.foldl_append, List.foldl_cons, List.foldl_nil]

theorem Faithful.afterCall {memory : FacetMemory} (faithful : facet.Faithful memory) (call : Call) :
    facet.Faithful (facet.afterCall memory call) := by
  cases call with
  | count hits => exact faithful.count hits
  | narrow hits ordinals => exact faithful.narrow hits ordinals

theorem Faithful.resume {memory : FacetMemory} (faithful : facet.Faithful memory)
    (calls : List Call) : facet.Faithful (facet.resume memory calls) := by
  induction calls generalizing memory with
  | nil => exact faithful
  | cons call rest ih => exact ih (faithful.afterCall call)

/-- No run of calls ever remembers of a group what it does not expand to. -/
theorem faithful_after (facet : Facet) (calls : List Call) : facet.Faithful (facet.after calls) :=
  facet.faithful_fresh.resume calls

theorem scale_after_of_unfitted (unfitted : facet.isFitted = false) (calls : List Call) :
    (facet.after calls).scale = none := by
  induction calls using List.reverseRecOn with
  | nil => rfl
  | append_singleton calls call ih =>
    rw [after_concat]
    cases call with
    | count hits => rw [afterCall, count_scale, fit?_of_unfitted unfitted, ih, Option.or_none]
    | narrow hits ordinals =>
      rw [afterCall, narrow_scale, fit?_of_unfitted unfitted, ih, Option.or_none]

section Opening

variable (steady : facet.AnswersBy rows) (opening : ∀ n, facet.opens n = .ok ())

include opening

theorem countOpens_of_opening (memory : FacetMemory) : facet.countOpens memory = .ok () := by
  simp only [countOpens, opening, Except.bind]

theorem narrowOpens_of_opening (memory : FacetMemory) (space : Nat) (ordinals : List Ordinal) :
    facet.narrowOpens memory space ordinals = .ok () := by
  simp only [narrowOpens, pickOpens, opening, Except.bind, ite_self]

include steady

theorem fit?_of_opening (fitted : facet.isFitted = true) (memory : FacetMemory) (hits : Hits) :
    facet.fit? memory hits = some (facet.rowFit rows hits) := by
  rw [fit?_of_steady steady fitted, opening]
  rfl

/-- The scale a fitted facet remembers is that of one result set, whatever else it was used for. -/
theorem scale_after (fitted : facet.isFitted = true) (calls : List Call) :
    (facet.after calls).scale = (Call.standing calls).map (facet.rowFit rows) := by
  have fit := fit?_of_opening steady opening fitted
  induction calls using List.reverseRecOn with
  | nil => rfl
  | append_singleton calls call ih =>
    rw [after_concat]
    cases call with
    | count hits => rw [afterCall, count_scale, fit, Call.standing_count]; rfl
    | narrow hits ordinals =>
      rw [afterCall, narrow_scale, fit, ih, Call.standing_narrow]
      cases Call.standing calls <;> rfl

theorem count_result_of_opening {memory : FacetMemory} (faithful : facet.Faithful memory)
    (hits : Hits) :
    (facet.count memory hits).result = .ok (facet.rowHistogram rows hits) := by
  rw [count_result_of_steady faithful steady, countOpens_of_opening opening]
  rfl

theorem count_scale_after (calls : List Call) (hits : Hits) :
    (facet.count (facet.after calls) hits).memory.scale =
      if facet.isFitted then some (facet.rowFit rows hits) else none := by
  rw [count_scale]
  cases fitted : facet.isFitted with
  | true => rw [fit?_of_opening steady opening fitted, Option.some_or]; rfl
  | false => rw [fit?_of_unfitted fitted, scale_after_of_unfitted fitted]; rfl

/-- After any calls, narrowing is done on the scale of the result set that scales are fitted to, and
on that of its own hits if there was none. -/
theorem narrow_result_after (calls : List Call) (hits : Hits) (ordinals : List Ordinal) :
    (facet.narrow (facet.after calls) hits ordinals).result =
      .ok (hits.within (facet.bucketsAmong rows
        (facet.rowFit rows ((Call.standing calls).getD hits)) hits) ordinals) := by
  rw [narrow_result (facet.faithful_after calls) steady, narrowOpens_of_opening opening]
  have sets : facet.bucketsAmong rows
      ((facet.after calls).scale.getD (facet.rowFit rows hits)) hits =
      facet.bucketsAmong rows (facet.rowFit rows ((Call.standing calls).getD hits)) hits := by
    refine bucketsOf_congr (fun fitted => ?_) (fun _ _ => rfl) rows
    rw [scale_after steady opening fitted]
    cases Call.standing calls <;> rfl
  rw [sets]
  rfl

end Opening

/-- Earlier calls show in nothing but the remembered scale. A count answers and keeps what it does on
a facet just opened, and so does a second count of the same hits. Narrowing answers what it does on a
facet just opened, but for facets with a fitted scale, which is that of the last count or else of the
first narrowing, and which narrowing never replaces. -/
theorem calls_leave_only_scale (steady : facet.AnswersBy rows)
    (opening : ∀ n, facet.opens n = .ok ()) (calls : List Call) (hits : Hits)
    (ordinals : List Ordinal) :
    (facet.count (facet.after calls) hits).result = .ok (facet.rowHistogram rows hits) ∧
    (facet.count (facet.after calls) hits).result = (facet.count .fresh hits).result ∧
    (facet.count (facet.after calls) hits).memory.scale =
      (facet.count .fresh hits).memory.scale ∧
    (facet.narrow (facet.after calls) hits ordinals).result =
      .ok (hits.within (facet.bucketsAmong rows
        (facet.rowFit rows ((Call.standing calls).getD hits)) hits) ordinals) ∧
    (facet.isFitted = false → (facet.narrow (facet.after calls) hits ordinals).result =
      (facet.narrow .fresh hits ordinals).result) ∧
    (∀ scale, (facet.after calls).scale = some scale →
      (facet.narrow (facet.after calls) hits ordinals).memory.scale = some scale) ∧
    (facet.count (facet.count (facet.after calls) hits).memory hits).result =
      (facet.count (facet.after calls) hits).result ∧
    (facet.count (facet.count (facet.after calls) hits).memory hits).memory.scale =
      (facet.count (facet.after calls) hits).memory.scale := by
  have faithful := facet.faithful_after calls
  have again : (facet.count (facet.after calls) hits).memory =
      facet.after (calls ++ [.count hits]) := by rw [after_concat, afterCall]
  have counted := count_result_of_opening steady opening faithful hits
  have fresh := count_result_of_opening steady opening facet.faithful_fresh hits
  have scales := count_scale_after steady opening
  have narrowed := narrow_result_after steady opening calls hits ordinals
  refine ⟨counted, counted.trans fresh.symm, ?_, narrowed, ?_, ?_, ?_, ?_⟩
  · exact (scales calls hits).trans (scales [] hits).symm
  · intro unfitted
    have sets : facet.bucketsAmong rows (facet.rowFit rows ((Call.standing calls).getD hits)) hits =
        facet.bucketsAmong rows (facet.rowFit rows hits) hits := by
      refine bucketsOf_congr (fun fitted => ?_) (fun _ _ => rfl) rows
      rw [fitted] at unfitted
      cases unfitted
    rw [narrowed, sets]
    exact (narrow_result_after steady opening [] hits ordinals).symm
  · intro scale stored
    rw [narrow_scale, stored, Option.some_or]
  · exact (count_result_of_opening steady opening (faithful.count hits) hits).trans counted.symm
  · have second := scales (calls ++ [.count hits]) hits
    rw [← again] at second
    exact second.trans (scales calls hits).symm

theorem calls_leave_only_scale_market :
    let hits := TableIndex.marketHits
    let calls := [.narrow (hits.take 1) [0], .count (hits.drop 2), .narrow hits [0, 1, 2]]
    ∃ facet, TableIndex.market.toIndex.facet .default "price" .linear = .ok facet ∧
      (facet.count (facet.after calls) hits).result = (facet.count .fresh hits).result := by
  intro hits calls
  have ⟨steady, opening⟩ :=
    @TableIndex.facet_answersBy TableIndex.market .default "price" .linear _ rfl
  exact ⟨_, rfl, (calls_leave_only_scale steady opening calls hits []).2.1⟩

end Facet

end Facets
