import Facets.Proofs.Facet.Scans

namespace Facets.Facet

variable {facet : Facet} {memory : FacetMemory}

theorem Faithful.of_expansions (faithful : facet.Faithful memory) {later : FacetMemory}
    (same : later.expansions = memory.expansions) : facet.Faithful later := by
  unfold Faithful at faithful ⊢
  rwa [same]

theorem faithful_fresh (facet : Facet) : facet.Faithful .fresh := by
  unfold Faithful
  split
  · exact Expander.faithful_nil
  · exact trivial

theorem faithful_of_numeric {reader : Reader Int64} (numeric : facet.source = .numeric reader)
    (memory : FacetMemory) : facet.Faithful memory := by
  simp only [Faithful, numeric]

/-- Counting remembers of groups nothing but what they expand to. -/
theorem Faithful.count (faithful : facet.Faithful memory) (hits : Hits) :
    facet.Faithful (facet.count memory hits).memory := by
  cases source : facet.source with
  | absent =>
    simp only [Facet.count, source]
    exact faithful
  | numeric reader => exact faithful_of_numeric source _
  | enumerated column style dictionary expander =>
    simp only [Facet.count, source, countTerms]
    obtain ⟨error, _, read⟩ | ⟨groups, _, read, _, kept⟩ := scanOrdinals_cases source faithful hits
    · simp only [read]
      exact faithful.of_expansions rfl
    · simp only [read]
      exact kept

theorem Faithful.narrow (faithful : facet.Faithful memory) (hits : Hits) (ordinals : List Ordinal) :
    facet.Faithful (facet.narrow memory hits ordinals).memory := by
  cases source : facet.source with
  | absent =>
    simp only [Facet.narrow, source]
    exact faithful
  | numeric reader => exact faithful_of_numeric source _
  | enumerated column style dictionary expander =>
    simp only [Facet.narrow, source, narrowTerms]
    split
    · exact faithful
    · obtain ⟨error, _, read⟩ | ⟨groups, _, read, _, kept⟩ :=
        scanOrdinals_cases source faithful hits
      · simp only [read]
        exact faithful.of_expansions rfl
      · simp only [read]
        exact kept

/-- The scale a pass fits to a result set, if the facet is a fitted one and its cursor opens. -/
def fit? (facet : Facet) (memory : FacetMemory) (hits : Hits) : Option LinearScale :=
  match facet.isFitted, facet.opens memory.openings with
  | true, .ok _ => some (facet.fit (facet.heard memory.openings hits) hits)
  | _, _ => none

theorem fit?_of_unfitted (unfitted : facet.isFitted = false) (hits : Hits) :
    facet.fit? memory hits = none := by
  simp only [fit?, unfitted]

theorem scanNumbers_fit {reader : Reader Int64} (numeric : facet.source = .numeric reader)
    (linear : facet.mode = .linear) (memory : FacetMemory) (hits : Hits) :
    (∃ error, facet.fit? memory hits = none ∧
      facet.scanNumbers reader memory.openings (facet.plan hits) = .error error) ∨
    (∃ scan, facet.fit? memory hits = some (.ofValues facet.traits.kind scan.values) ∧
      facet.scanNumbers reader memory.openings (facet.plan hits) = .ok scan) := by
  have fitted : facet.isFitted = true := by simp only [isFitted, numeric, linear]
  obtain ⟨error, closed, read⟩ | ⟨scan, opened, read, follows⟩ :=
    scanNumbers_cases numeric memory.openings hits
  · exact Or.inl ⟨error, by simp only [fit?, fitted, closed], read⟩
  · refine Or.inr ⟨scan, ?_, read⟩
    simp only [fit?, fitted, opened, fit]
    rw [LinearScale.ofValues_perm _ (values_perm_of_follows follows)]

theorem countOnScale_scale (reader : Reader Int64) (scale : NumberScale) (hits : Hits)
    (plan : Plan) (trace : Trace) :
    (facet.countOnScale reader scale memory hits plan trace).memory.scale = memory.scale := by
  unfold countOnScale
  cases facet.scanNumbers reader memory.openings plan <;> rfl

theorem narrowOnScale_scale (reader : Reader Int64) (scale : NumberScale) (hits : Hits)
    (ordinals : List Ordinal) (plan : Plan) (trace : Trace) :
    (facet.narrowOnScale reader scale memory hits ordinals plan trace).memory.scale =
      memory.scale := by
  unfold narrowOnScale
  dsimp only
  split
  · rfl
  · cases facet.scanNumbers reader memory.openings plan <;> rfl

/-- Counting replaces the scale by the one it fits, and keeps it if it fits none. -/
theorem count_scale (facet : Facet) (memory : FacetMemory) (hits : Hits) :
    (facet.count memory hits).memory.scale = (facet.fit? memory hits).or memory.scale := by
  unfold count
  cases source : facet.source with
  | absent => rw [fit?_of_unfitted (by simp only [isFitted, source])]; rfl
  | numeric reader =>
    cases mode : facet.mode with
    | linear =>
      simp only [countLinear]
      obtain ⟨error, fit, read⟩ | ⟨scan, fit, read⟩ :=
        scanNumbers_fit source mode memory hits
      · rw [fit]
        simp only [read]
        rfl
      · rw [fit]
        simp only [read]
        exact countOnScale_scale reader _ hits _ _
    | log =>
      rw [fit?_of_unfitted (by simp only [isFitted, source, mode])]
      exact countOnScale_scale reader _ hits _ _
    | exact =>
      rw [fit?_of_unfitted (by simp only [isFitted, source, mode])]
      simp only [countExact]
      cases facet.scanNumbers reader memory.openings (facet.plan hits) <;> rfl
  | enumerated column style dictionary expander =>
    rw [fit?_of_unfitted (by simp only [isFitted, source])]
    simp only [countTerms]
    cases scanOrdinals column expander memory facet.field (facet.plan hits) <;> rfl

/-- Narrowing keeps the scale there is, and else the one it fits. -/
theorem narrow_scale (facet : Facet) (memory : FacetMemory) (hits : Hits)
    (ordinals : List Ordinal) :
    (facet.narrow memory hits ordinals).memory.scale =
      memory.scale.or (facet.fit? memory hits) := by
  unfold narrow
  cases source : facet.source with
  | absent => rw [fit?_of_unfitted (by simp only [isFitted, source]), Option.or_none]
  | numeric reader =>
    cases mode : facet.mode with
    | linear =>
      simp only [narrowLinear]
      cases stored : memory.scale with
      | some scale => exact (narrowOnScale_scale reader _ hits _ _ _).trans stored
      | none =>
        dsimp only
        obtain ⟨error, fit, read⟩ | ⟨scan, fit, read⟩ :=
          scanNumbers_fit source mode memory hits
        · rw [fit]
          simp only [read]
          exact stored
        · rw [fit]
          simp only [read]
          exact narrowOnScale_scale reader _ hits _ _ _
    | log =>
      rw [fit?_of_unfitted (by simp only [isFitted, source, mode]), Option.or_none]
      exact narrowOnScale_scale reader _ hits _ _ _
    | exact =>
      rw [fit?_of_unfitted (by simp only [isFitted, source, mode]), Option.or_none]
      simp only [narrowExact]
      cases facet.scanNumbers reader memory.openings (facet.plan hits) with
      | error error => rfl
      | ok first =>
        dsimp only
        split
        · rfl
        · cases facet.scanNumbers reader memory.opened.openings (facet.plan hits) <;> rfl
  | enumerated column style dictionary expander =>
    rw [fit?_of_unfitted (by simp only [isFitted, source]), Option.or_none]
    simp only [narrowTerms]
    split
    · rfl
    · cases scanOrdinals column expander memory facet.field (facet.plan hits) <;> rfl

end Facets.Facet
