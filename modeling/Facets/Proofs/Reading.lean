import Facets.Proofs.Expansion
import Facets.Proofs.Facet.Buckets

namespace Facets

/-- The numbers of a document: none if its row cannot be read or holds a malformed word. -/
def NumberKind.numbers (kind : NumberKind) (delivery : Delivery Int64) : List Float :=
  if delivery.complaint = none ∧ ∀ raw ∈ delivery.values, kind.stores raw = true then
    delivery.values.map kind.decode
  else []

theorem Reading.values_ofWords (kind : NumberKind) (delivery : Delivery Int64) :
    (ofWords kind delivery).values = kind.numbers delivery := by
  unfold ofWords NumberKind.numbers
  cases delivery.complaint with
  | some complaint => rfl
  | none =>
    simp only [List.all_eq_true, true_and]
    split <;> rfl

/-- The ordinals of a document that lie in a bucket space: none if its row cannot be read. -/
def ordinalsWithin (size : Nat) (delivery : Delivery Ordinal) : Finset Ordinal :=
  if delivery.complaint = none then (delivery.values.filter (· < size)).toFinset else ∅

theorem Reading.values_ofOrdinals (size : Nat) (delivery : Delivery Ordinal) :
    (ofOrdinals size delivery).values.toFinset = ordinalsWithin size delivery := by
  unfold ofOrdinals ordinalsWithin
  cases delivery.complaint with
  | some complaint => rfl
  | none =>
    ext ordinal
    simp [inSpace]

theorem lt_of_mem_ordinalsWithin {size : Nat} {delivery : Delivery Ordinal} {ordinal : Ordinal}
    (held : ordinal ∈ ordinalsWithin size delivery) : ordinal < size := by
  unfold ordinalsWithin at held
  split at held
  · simp only [List.mem_toFinset, List.mem_filter, decide_eq_true_eq] at held
    exact held.2
  · cases Finset.notMem_empty _ held

/-- The ordinals of a group's tags that lie in a bucket space: none if it cannot be expanded. -/
def Expander.ordinalsWithin (expander : Expander) (size : Nat) (group : Ordinal) : Finset Ordinal :=
  match expander.expandAnew group with
  | .ok ordinals => (ordinals.filter (· < size)).toFinset
  | .error _ => ∅

theorem Expander.lt_of_mem_ordinalsWithin {expander : Expander} {size : Nat} {group ordinal : Ordinal}
    (held : ordinal ∈ expander.ordinalsWithin size group) : ordinal < size := by
  unfold ordinalsWithin at held
  split at held
  · simp only [List.mem_toFinset, List.mem_filter, decide_eq_true_eq] at held
    exact held.2
  · cases Finset.notMem_empty _ held

theorem Expander.values_reading (expander : Expander) (size : Nat) (group : Ordinal) :
    (expander.reading size group).values.toFinset = expander.ordinalsWithin size group := by
  unfold reading ordinalsWithin
  cases expander.expandAnew group <;> rfl

namespace Scan

variable {α : Type}

/-- A scan that follows a result set: up to their order, the readings are those of the hits, some of
which have none. -/
def Follows (scan : Scan α) (hits : Hits) (reading? : Hit × Nat → Option (Reading α)) : Prop :=
  scan.Perm (hits.zipIdx.filterMap fun place => (reading? place).map (place.2, ·))

variable {scan : Scan α} {hits : Hits} {reading? : Hit × Nat → Option (Reading α)}

/-- The values of a reading that may be missing. -/
def valuesOf (reading? : Option (Reading α)) : List α := (reading?.map (·.values)).getD []

theorem Follows.values_perm (follows : scan.Follows hits reading?) :
    scan.values.Perm (hits.zipIdx.flatMap fun place => valuesOf (reading? place)) := by
  refine (follows.flatMap_right _).trans (List.Perm.of_eq ?_)
  induction hits.zipIdx with
  | nil => rfl
  | cons place rest ih =>
    rw [List.filterMap_cons, List.flatMap_cons, ← ih]
    cases reading? place <;> rfl

/-- Sorting each document's buckets spreads the hits over the buckets of their values. -/
theorem Follows.ofScan_spread (follows : scan.Follows hits reading?)
    (bucketOf? : α → Option Ordinal) :
    (Buckets.ofScan bucketOf? scan).Spread hits fun place =>
      ((valuesOf (reading? place)).filterMap bucketOf?).toFinset := by
  refine ⟨fun place => (reading? place).map fun reading =>
    Ascending.ofList (reading.values.filterMap bucketOf?), ?_, ?_⟩
  · refine (follows.map _).trans (List.Perm.of_eq ?_)
    rw [List.map_filterMap]
    refine List.filterMap_congr fun place _ => ?_
    dsimp only
    cases reading? place <;> rfl
  · intro place _
    ext ordinal
    dsimp only [valuesOf]
    cases reading? place <;> simp

theorem Follows.ofOrdinals_spread {scan : Scan Ordinal}
    {reading? : Hit × Nat → Option (Reading Ordinal)} (follows : scan.Follows hits reading?) :
    (Buckets.ofOrdinals scan).Spread hits fun place => (valuesOf (reading? place)).toFinset := by
  refine ⟨fun place => (reading? place).map (·.values), ?_, fun place _ => rfl⟩
  refine (follows.map _).trans (List.Perm.of_eq ?_)
  rw [List.map_filterMap]
  refine List.filterMap_congr fun place _ => ?_
  dsimp only
  cases reading? place <;> rfl

/-- A cursor is asked for the row of each hit once, after the rows of the visits before it. -/
theorem ofCursor_follows {ρ : Type} (cursor : Cursor ρ) (reading : ρ → Reading α)
    (rowOf : Item → Option RowId) (expanding : Bool) (hits : Hits) :
    (ofCursor cursor (Plan.make rowOf expanding hits).visits reading).Follows hits fun place =>
      ((Place.ofItem rowOf expanding place.1.item).row?).map fun row =>
        reading (cursor ((Plan.make rowOf expanding hits).before ⟨row, place.2⟩) row) := by
  unfold ofCursor Cursor.readAll Follows
  rw [Cursor.readFrom_visits cursor [] (Plan.visits_pairwise rowOf expanding hits), List.map_map,
    List.zip_map']
  refine ((Plan.visits_perm rowOf expanding hits).map _).trans (List.Perm.of_eq ?_)
  rw [Plan.inputVisits, List.map_filterMap]
  refine List.filterMap_congr fun place _ => ?_
  simp only [Option.map_map, Function.comp_def, List.append_nil, Plan.before]

@[simp]
theorem length_ofCursor {ρ : Type} (cursor : Cursor ρ) (visits : List Visit)
    (reading : ρ → Reading α) : (ofCursor cursor visits reading).length = visits.length := by
  simp [ofCursor, Cursor.readAll]

/-- What a cursor leaves out of the rows of a plan, visit by visit. -/
theorem trace_ofCursor {ρ : Type} (cursor : Cursor ρ) (reading : ρ → Reading α) (field : String)
    {plan : Plan} (ascending : plan.visits.Pairwise (· < ·)) :
    (ofCursor cursor plan.visits reading).trace field =
      Trace.ofSkips field (plan.visits.flatMap fun visit =>
        (reading (cursor (plan.before visit) visit.row)).skips) := by
  unfold ofCursor Cursor.readAll Scan.trace
  rw [Cursor.readFrom_visits cursor [] ascending, List.map_map, List.zip_map', List.flatMap_map]
  simp only [Function.comp_apply, List.append_nil, Plan.before]

/-- Groups are read in input order. -/
theorem groups_follow (reading : Ordinal → Reading Ordinal) (rowOf : Item → Option RowId)
    (expanding : Bool) (hits : Hits) :
    Follows ((Plan.make rowOf expanding hits).groups.map fun (position, group) =>
      (position, reading group)) hits fun place =>
        ((Place.ofItem rowOf expanding place.1.item).group?).map reading := by
  refine List.Perm.of_eq ?_
  rw [Plan.groups_make, List.map_filterMap]
  refine List.filterMap_congr fun place _ => ?_
  simp only [Option.map_map, Function.comp_def]

/-- Two scans of different hits read one after another follow both. -/
theorem Follows.append {other : Scan α} {other? : Hit × Nat → Option (Reading α)}
    (follows : scan.Follows hits reading?) (others : other.Follows hits other?)
    (apart : ∀ place, reading? place = none ∨ other? place = none) :
    (scan ++ other).Follows hits fun place => (reading? place).or (other? place) := by
  refine (List.Perm.append follows others).trans ?_
  induction hits.zipIdx with
  | nil => exact .nil
  | cons place rest ih =>
    simp only [List.filterMap_cons]
    cases first : reading? place with
    | some reading =>
      have second := (apart place).resolve_left (by simp [first])
      simpa [second] using ih
    | none =>
      cases second : other? place with
      | none => simpa using ih
      | some reading => simpa using List.perm_middle.trans (ih.cons (place.2, reading))

end Scan

end Facets
