import Facets.Proofs.Facet.Reference

namespace Facets.Facet

variable {facet : Facet} {hits : Hits}

/-- What a pass takes from a hit's row. -/
def numberReading? (facet : Facet) (heard : Nat → RowAnswers) (place : Hit × Nat) :
    Option (Reading Float) :=
  (facet.rowOf place.1.item).map fun row =>
    .ofWords facet.traits.kind ((heard place.2).words row)

theorem valuesOf_numberReading? (heard : Nat → RowAnswers) (place : Hit × Nat) :
    Scan.valuesOf (facet.numberReading? heard place) =
      facet.numbersOf (heard place.2) place.1.item := by
  unfold Scan.valuesOf numberReading? numbersOf
  cases facet.rowOf place.1.item with
  | none => rfl
  | some row => exact Reading.values_ofWords _ _

theorem values_perm_of_follows {scan : Scan Float} {heard : Nat → RowAnswers}
    (follows : scan.Follows hits (facet.numberReading? heard)) :
    scan.values.Perm (facet.values heard hits) := by
  simpa only [valuesOf_numberReading?, values] using follows.values_perm

/-- A rule that gives all values of the pass their buckets spreads the hits over their buckets. -/
theorem ofScan_spread_of_follows {reader : Reader Int64} (numeric : facet.source = .numeric reader)
    {scan : Scan Float} {heard : Nat → RowAnswers}
    (follows : scan.Follows hits (facet.numberReading? heard)) (scale : LinearScale)
    (values : List Float) (bucketOf? : Float → Option Ordinal)
    (total : ∀ x ∈ facet.values heard hits, bucketOf? x = some (facet.bucketOf scale values x)) :
    (Buckets.ofScan bucketOf? scan).Spread hits fun place =>
      facet.bucketsOf (heard place.2) scale values place.1.item := by
  refine (follows.ofScan_spread bucketOf?).congr fun place member => ?_
  simp only [bucketsOf, numeric]
  rw [valuesOf_numberReading?, ← List.filterMap_eq_map]
  congr 1
  refine List.filterMap_congr fun x within => ?_
  exact total x (List.mem_flatMap.mpr ⟨place, member, within⟩)

/-- A reading of numbers fails if its cursor does not open, and follows the result set if it does. -/
theorem scanNumbers_cases {reader : Reader Int64} (numeric : facet.source = .numeric reader)
    (n : Nat) (hits : Hits) :
    (∃ error, facet.opens n = .error error ∧
      facet.scanNumbers reader n (facet.plan hits) = .error error) ∨
    (∃ scan, facet.opens n = .ok () ∧ facet.scanNumbers reader n (facet.plan hits) = .ok scan ∧
      scan.Follows hits (facet.numberReading? (facet.heard n hits))) := by
  have still : facet.isEvent = false := by simp only [isEvent, numeric]
  unfold opens scanNumbers
  simp only [numeric]
  cases opened : reader.openCursor n with
  | error error => exact Or.inl ⟨error, rfl, rfl⟩
  | ok cursor =>
    refine Or.inr ⟨_, rfl, rfl, ?_⟩
    have follows := Scan.ofCursor_follows cursor (Reading.ofWords facet.traits.kind) facet.rowOf
      facet.isEvent hits
    refine follows.trans (List.Perm.of_eq ?_)
    refine List.filterMap_congr fun place _ => ?_
    simp only [Place.row?_ofItem, still, Bool.false_and, Bool.false_eq_true, if_false,
      numberReading?, heard, numeric, Reader.answer, opened, plan]

/-- What a pass takes from a hit: from its group, where groups are expanded, or from its row. -/
def termReading? (facet : Facet) (column : TermColumn) (expander : Option Expander)
    (heard : Nat → RowAnswers) (place : Hit × Nat) : Option (Reading Ordinal) :=
  match expander, place.1.item.group with
  | some expander, some group => some (expander.reading column.size group)
  | _, _ => (facet.rowOf place.1.item).map fun row =>
    .ofOrdinals column.size ((heard place.2).ordinals row)

/-- What a facet remembers of groups is what the groups expand to. -/
def Faithful (facet : Facet) (memory : FacetMemory) : Prop :=
  match facet.source with
  | .enumerated _ _ _ (some expander) => expander.Faithful memory.expansions
  | _ => True

variable {column : TermColumn} {style : LabelStyle} {dictionary : Dictionary}
  {expander : Option Expander}

theorem ofOrdinals_spread_of_follows
    (enumerated : facet.source = .enumerated column style dictionary expander)
    {scan : Scan Ordinal} {heard : Nat → RowAnswers}
    (follows : scan.Follows hits (facet.termReading? column expander heard)) (scale : LinearScale)
    (values : List Float) :
    (Buckets.ofOrdinals scan).Spread hits fun place =>
      facet.bucketsOf (heard place.2) scale values place.1.item := by
  refine follows.ofOrdinals_spread.congr fun place _ => ?_
  have ofRow : (Scan.valuesOf ((facet.rowOf place.1.item).map fun row =>
      Reading.ofOrdinals column.size ((heard place.2).ordinals row))).toFinset =
      facet.ordinalsOf (heard place.2) column.size place.1.item := by
    unfold ordinalsOf
    cases facet.rowOf place.1.item with
    | none => rfl
    | some row => exact Reading.values_ofOrdinals _ _
  simp only [bucketsOf, enumerated, termReading?]
  cases expander with
  | none => exact ofRow
  | some expander =>
    cases place.1.item.group with
    | none => exact ofRow
    | some group => exact expander.values_reading column.size group

/-- A reading of terms fails if its cursor does not open. If it does, the reading follows the result
set, and what is remembered afterwards is still faithful. -/
theorem scanOrdinals_cases (enumerated : facet.source = .enumerated column style dictionary expander)
    {memory : FacetMemory} (faithful : facet.Faithful memory) (hits : Hits) :
    (∃ error, facet.opens memory.openings = .error error ∧
      scanOrdinals column expander memory facet.field (facet.plan hits) = .error error) ∨
    (∃ groups, facet.opens memory.openings = .ok () ∧
      scanOrdinals column expander memory facet.field (facet.plan hits) = .ok groups ∧
      groups.scan.Follows hits
        (facet.termReading? column expander (facet.heard memory.openings hits)) ∧
      facet.Faithful { memory.opened with expansions := groups.expansions }) := by
  unfold opens scanOrdinals
  simp only [enumerated]
  cases opened : column.reader.openCursor memory.openings with
  | error error => exact Or.inl ⟨error, rfl, rfl⟩
  | ok cursor =>
    refine Or.inr ⟨_, rfl, rfl, ?_⟩
    have rows := Scan.ofCursor_follows cursor (Reading.ofOrdinals column.size) facet.rowOf
      facet.isEvent hits
    cases expander with
    | none =>
      have still : facet.isEvent = false := by simp only [isEvent, enumerated]
      refine ⟨?_, by simp only [Faithful, enumerated]⟩
      refine rows.trans (List.Perm.of_eq (List.filterMap_congr fun place _ => ?_))
      simp only [Place.row?_ofItem, still, Bool.false_and, Bool.false_eq_true, if_false,
        termReading?, heard, enumerated, Reader.answer, opened, plan]
    | some expander =>
      have expanding : facet.isEvent = true := by simp only [isEvent, enumerated]
      have faithful' : expander.Faithful memory.expansions := by
        simpa only [Faithful, enumerated] using faithful
      refine ⟨?_, by simpa only [Faithful, enumerated] using faithful'.scan _ _⟩
      have groups := Scan.groups_follow (expander.reading column.size) facet.rowOf facet.isEvent hits
      simp only [plan, faithful'.scan_scan]
      refine (groups.append rows fun place => ?_).trans
        (List.Perm.of_eq (List.filterMap_congr fun place _ => ?_))
      · simp only [Place.row?_ofItem, Place.group?_ofItem, expanding]
        cases place.1.item.group <;> simp
      · simp only [Place.row?_ofItem, Place.group?_ofItem, expanding, termReading?, heard,
          enumerated, Reader.answer, opened, plan]
        cases place.1.item.group <;> simp

end Facets.Facet
