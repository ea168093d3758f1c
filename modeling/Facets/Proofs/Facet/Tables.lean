import Facets.Proofs.Facet.Calls
import Facets.Proofs.Scale.Logarithm
import Facets.Proofs.Tables

/-!
Counting and narrowing with tables. Whatever columns and dictionaries answer, a pass that counts in tables
of the size of its bucket space and looks up hits by their positions never leaves them, and answers what
the pass answers.
-/

namespace Facets

namespace Scan

variable {α : Type} {scan : Scan α} {hits : Hits} {reading? : Hit × Nat → Option (Reading α)}

theorem Follows.exists_of_mem (follows : scan.Follows hits reading?) {document : Nat × Reading α}
    (member : document ∈ scan) :
    document.1 < hits.length ∧ ∃ place, reading? place = some document.2 := by
  obtain ⟨place, listed, taken⟩ := List.mem_filterMap.mp (follows.mem_iff.mp member)
  obtain ⟨reading, here, rfl⟩ := Option.map_eq_some_iff.mp taken
  exact ⟨(List.getElem?_eq_some_iff.mp (List.mem_zipIdx_iff_getElem?.mp listed)).1, place, here⟩

end Scan

namespace Buckets

/-- Positions are picked from those of the reading that the buckets are of. -/
theorem exists_of_mem_positionsIn {α : Type} {scan : Scan α}
    {bucketed : Nat × Reading α → Nat × List Ordinal} {wanted : List Ordinal} {position : Nat}
    (stays : ∀ document, (bucketed document).1 = document.1)
    (picked : position ∈ Buckets.positionsIn (scan.map bucketed) wanted) :
    ∃ document ∈ scan, document.1 = position := by
  obtain ⟨_, member, taken⟩ := List.mem_filterMap.mp (Ascending.mem_ofList.mp picked)
  obtain ⟨document, listed, rfl⟩ := List.mem_map.mp member
  have same := Option.some.inj (Option.ite_none_right_eq_some.mp taken).2
  exact ⟨document, listed, (stays document).symm.trans same⟩

end Buckets

/-- Distinct ordinals of a bucket space. -/
def Reading.Fits (reading : Reading Ordinal) (size : Nat) : Prop :=
  reading.values.Nodup ∧ ∀ ordinal ∈ reading.values, ordinal < size

theorem Reading.fits_ofOrdinals (size : Nat) (delivery : Delivery Ordinal) :
    (ofOrdinals size delivery).Fits size := by
  unfold ofOrdinals
  cases delivery.complaint with
  | some complaint => exact ⟨.nil, by simp [skip]⟩
  | none =>
    refine ⟨Ascending.ofList_nodup _, fun ordinal held => ?_⟩
    exact of_decide_eq_true (List.mem_filter.mp (Ascending.mem_ofList.mp held)).2

theorem Expander.nodup_of_expandAnew {expander : Expander} {group : Ordinal} {ordinals : List Ordinal}
    (expanded : expander.expandAnew group = .ok ordinals) : ordinals.Nodup := by
  unfold expandAnew at expanded
  obtain ⟨composite, _, found⟩ := exists_of_bind_ok expanded
  obtain ⟨tags, _, rfl⟩ := exists_of_map_ok found
  exact Ascending.ofList_nodup _

theorem Expander.fits_reading (expander : Expander) (size : Nat) (group : Ordinal) :
    (expander.reading size group).Fits size := by
  unfold reading
  cases expanded : expander.expandAnew group with
  | error error => exact ⟨.nil, by simp [Reading.skip]⟩
  | ok ordinals =>
    exact ⟨(nodup_of_expandAnew expanded).filter _, fun ordinal held =>
      of_decide_eq_true (List.mem_filter.mp held).2⟩

/-- A reading that fails, or what the tables of its pass say. -/
def tabled {σ α : Type} (read : Except SourceError σ) (tables : σ → Option α) :
    Option (Except SourceError α) :=
  match read with
  | .error error => some (.error error)
  | .ok scan => (tables scan).map .ok

namespace Facet

section Tables

variable (facet : Facet) (memory : FacetMemory) (hits : Hits) (ordinals : List Ordinal)

/-- Counts on a scale with the cursor opened for the `n`-th time. -/
def countOnScaleIn? (reader : Reader Int64) (scale : NumberScale) (n : Nat) :
    Option (Except SourceError (List Bucket)) :=
  tabled (facet.scanNumbers reader n (facet.plan hits)) fun scan =>
    scale.tallyIn? scan facet.traits.kind

def countLinearIn? (reader : Reader Int64) : Option (Except SourceError (List Bucket)) :=
  match facet.scanNumbers reader memory.openings (facet.plan hits) with
  | .error error => some (.error error)
  | .ok scan =>
    facet.countOnScaleIn? hits reader (.linear (.ofValues facet.traits.kind scan.values))
      (memory.openings + 1)

def countExactIn? (reader : Reader Int64) : Option (Except SourceError (List Bucket)) :=
  tabled (facet.scanNumbers reader memory.openings (facet.plan hits)) fun scan =>
    (RankTable.ofValues scan.values).tallyIn? scan

/-- The readings of a plan whose groups are looked up by the positions of their hits. -/
def scanTermsIn? (column : TermColumn) (expander : Option Expander) :
    Option (Except SourceError GroupScan) :=
  let plan := facet.plan hits
  (plan.groupsIn? hits).map fun groups =>
    scanOrdinals column expander memory facet.field { plan with groups }

def countTermsIn? (column : TermColumn) (style : LabelStyle) (expander : Option Expander) :
    Option (Except SourceError (List Bucket)) :=
  (facet.scanTermsIn? memory hits column expander).bind fun read =>
    tabled read fun groups =>
      (Buckets.ofOrdinals groups.scan).tallyIn? column.size fun ordinal =>
        some (.label (.fresh ordinal style))

/-- Counting with tables. -/
def countIn? : Option (Except SourceError (List Bucket)) :=
  match facet.source, facet.mode with
  | .absent, _ => some (.ok [])
  | .numeric reader, .linear => facet.countLinearIn? memory hits reader
  | .numeric reader, .log => facet.countOnScaleIn? hits reader .log memory.openings
  | .numeric reader, .exact => facet.countExactIn? memory hits reader
  | .enumerated column style _ expander, _ => facet.countTermsIn? memory hits column style expander

/-- Narrows on a scale with the cursor opened for the `n`-th time. -/
def narrowOnScaleIn? (reader : Reader Int64) (scale : NumberScale) (n : Nat) :
    Option (Except SourceError Hits) :=
  let wanted := ordinals.filter (· < scale.size)
  if wanted.isEmpty then some (.ok [])
  else
    tabled (facet.scanNumbers reader n (facet.plan hits)) fun scan =>
      (scan.bucketsIn? scale.bucketIn?).bind fun buckets =>
        hits.atPositionsIn? (buckets.positionsIn wanted)

def narrowLinearIn? (reader : Reader Int64) : Option (Except SourceError Hits) :=
  match memory.scale with
  | some scale => facet.narrowOnScaleIn? hits ordinals reader (.linear scale) memory.openings
  | none =>
    match facet.scanNumbers reader memory.openings (facet.plan hits) with
    | .error error => some (.error error)
    | .ok scan =>
      facet.narrowOnScaleIn? hits ordinals reader
        (.linear (.ofValues facet.traits.kind scan.values)) (memory.openings + 1)

def narrowExactIn? (reader : Reader Int64) : Option (Except SourceError Hits) :=
  match facet.scanNumbers reader memory.openings (facet.plan hits) with
  | .error error => some (.error error)
  | .ok first =>
    let table := RankTable.ofValues first.values
    let wanted := ordinals.filter (· < table.size)
    if wanted.isEmpty then some (.ok [])
    else
      tabled (facet.scanNumbers reader (memory.openings + 1) (facet.plan hits)) fun second =>
        hits.atPositionsIn? ((Buckets.ofScan table.rank? second).positionsIn wanted)

def narrowTermsIn? (column : TermColumn) (expander : Option Expander) :
    Option (Except SourceError Hits) :=
  let wanted := ordinals.filter (· < column.size)
  if wanted.isEmpty then some (.ok [])
  else
    (facet.scanTermsIn? memory hits column expander).bind fun read =>
      tabled read fun groups =>
        hits.atPositionsIn? ((Buckets.ofOrdinals groups.scan).positionsIn wanted)

/-- Narrowing with tables. -/
def narrowIn? : Option (Except SourceError Hits) :=
  match facet.source, facet.mode with
  | .absent, _ => some (.ok [])
  | .numeric reader, .linear => facet.narrowLinearIn? memory hits ordinals reader
  | .numeric reader, .log => facet.narrowOnScaleIn? hits ordinals reader .log memory.openings
  | .numeric reader, .exact => facet.narrowExactIn? memory hits ordinals reader
  | .enumerated column _ _ expander, _ => facet.narrowTermsIn? memory hits ordinals column expander

end Tables

variable {facet : Facet} {memory : FacetMemory} {hits : Hits} {ordinals : List Ordinal}

theorem fits_of_termReading? {column : TermColumn} {expander : Option Expander}
    {heard : Nat → RowAnswers} {place : Hit × Nat} {reading : Reading Ordinal}
    (taken : facet.termReading? column expander heard place = some reading) :
    reading.Fits column.size := by
  unfold termReading? at taken
  split at taken
  · exact Option.some.inj taken ▸ Expander.fits_reading _ _ _
  · obtain ⟨row, _, rfl⟩ := Option.map_eq_some_iff.mp taken
    exact Reading.fits_ofOrdinals _ _

section Numeric

variable {reader : Reader Int64}

theorem countOnScaleIn?_eq (reader : Reader Int64) (scale : NumberScale) (memory : FacetMemory)
    (hits : Hits) (trace : Trace) :
    facet.countOnScaleIn? hits reader scale memory.openings =
      some (facet.countOnScale reader scale memory hits (facet.plan hits) trace).result := by
  unfold countOnScaleIn? countOnScale
  cases facet.scanNumbers reader memory.openings (facet.plan hits) with
  | error error => rfl
  | ok scan =>
    rw [tabled, scale.tallyIn?_eq scan facet.traits.kind]
    rfl

theorem countLinearIn?_eq (reader : Reader Int64) : facet.countLinearIn? memory hits reader =
    some (facet.countLinear reader memory hits (facet.plan hits)).result := by
  unfold countLinearIn? countLinear
  cases facet.scanNumbers reader memory.openings (facet.plan hits) with
  | error error => rfl
  | ok scan => exact countOnScaleIn?_eq reader _ { memory.opened with scale := _ } hits _

theorem countExactIn?_eq (reader : Reader Int64) : facet.countExactIn? memory hits reader =
    some (facet.countExact reader memory hits (facet.plan hits)).result := by
  unfold countExactIn? countExact
  cases facet.scanNumbers reader memory.openings (facet.plan hits) with
  | error error => rfl
  | ok scan =>
    rw [tabled, RankTable.tallyIn?_eq]
    rfl

variable (numeric : facet.source = .numeric reader)

include numeric

theorem position_lt_of_scanNumbers {n : Nat} {scan : Scan Float}
    (read : facet.scanNumbers reader n (facet.plan hits) = .ok scan) {document : Nat × Reading Float}
    (member : document ∈ scan) : document.1 < hits.length := by
  obtain ⟨error, _, failed⟩ | ⟨other, _, same, follows⟩ := scanNumbers_cases numeric n hits
  · cases read.symm.trans failed
  · cases read.symm.trans same
    exact (follows.exists_of_mem member).1

theorem atPositionsIn?_ofScan {n : Nat} {scan : Scan Float}
    (read : facet.scanNumbers reader n (facet.plan hits) = .ok scan)
    (bucketOf? : Float → Option Ordinal) (wanted : List Ordinal) :
    hits.atPositionsIn? ((Buckets.ofScan bucketOf? scan).positionsIn wanted) =
      some (hits.atPositions ((Buckets.ofScan bucketOf? scan).positionsIn wanted)) := by
  refine Hits.atPositionsIn?_eq fun position picked => ?_
  obtain ⟨document, member, rfl⟩ := Buckets.exists_of_mem_positionsIn (fun _ => rfl) picked
  exact position_lt_of_scanNumbers numeric read member

theorem narrowOnScaleIn?_eq (scale : NumberScale) (memory : FacetMemory) (trace : Trace) :
    facet.narrowOnScaleIn? hits ordinals reader scale memory.openings =
      some (facet.narrowOnScale reader scale memory hits ordinals (facet.plan hits) trace).result := by
  unfold narrowOnScaleIn? narrowOnScale
  dsimp only
  split
  · rfl
  · cases read : facet.scanNumbers reader memory.openings (facet.plan hits) with
    | error error => rfl
    | ok scan =>
      rw [tabled, scan.bucketsIn?_eq scale.bucketIn?_eq, Option.bind_some,
        atPositionsIn?_ofScan numeric read]
      rfl

theorem narrowLinearIn?_eq : facet.narrowLinearIn? memory hits ordinals reader =
    some (facet.narrowLinear reader memory hits ordinals (facet.plan hits)).result := by
  unfold narrowLinearIn? narrowLinear
  cases memory.scale with
  | some scale => exact narrowOnScaleIn?_eq numeric (.linear scale) memory []
  | none =>
    dsimp only
    cases facet.scanNumbers reader memory.openings (facet.plan hits) with
    | error error => rfl
    | ok scan => exact narrowOnScaleIn?_eq numeric _ { memory.opened with scale := _ } _

theorem narrowExactIn?_eq : facet.narrowExactIn? memory hits ordinals reader =
    some (facet.narrowExact reader memory hits ordinals (facet.plan hits)).result := by
  unfold narrowExactIn? narrowExact
  cases facet.scanNumbers reader memory.openings (facet.plan hits) with
  | error error => rfl
  | ok first =>
    dsimp only [FacetMemory.opened]
    split
    · rfl
    · cases read : facet.scanNumbers reader (memory.openings + 1) (facet.plan hits) with
      | error error => rfl
      | ok second =>
        rw [tabled, atPositionsIn?_ofScan numeric read]
        rfl

end Numeric

section Enumerated

variable {column : TermColumn} {style : LabelStyle} {dictionary : Dictionary}
  {expander : Option Expander}

/-- A plan looks up its groups where the hits have them. -/
theorem scanTermsIn?_eq (facet : Facet) (memory : FacetMemory) (hits : Hits) (column : TermColumn)
    (expander : Option Expander) : facet.scanTermsIn? memory hits column expander =
      some (scanOrdinals column expander memory facet.field (facet.plan hits)) := by
  have looked : (facet.plan hits).groupsIn? hits = some (facet.plan hits).groups :=
    Plan.groupsIn?_eq facet.rowOf facet.isEvent hits
  rw [scanTermsIn?, looked]
  rfl

variable (enumerated : facet.source = .enumerated column style dictionary expander)
  (faithful : facet.Faithful memory)

include enumerated faithful

/-- The documents of a reading of terms are those of hits, and their ordinals are distinct and in the
bucket space. -/
theorem fits_of_scanOrdinals {groups : GroupScan}
    (read : scanOrdinals column expander memory facet.field (facet.plan hits) = .ok groups)
    {document : Nat × Reading Ordinal} (member : document ∈ groups.scan) :
    document.1 < hits.length ∧ document.2.Fits column.size := by
  obtain ⟨error, _, failed⟩ | ⟨other, _, same, follows, _⟩ :=
    scanOrdinals_cases enumerated faithful hits
  · cases read.symm.trans failed
  · cases read.symm.trans same
    obtain ⟨inside, place, taken⟩ := follows.exists_of_mem member
    exact ⟨inside, fits_of_termReading? taken⟩

theorem countTermsIn?_eq : facet.countTermsIn? memory hits column style expander =
    some (facet.countTerms column style expander memory hits (facet.plan hits)).result := by
  unfold countTermsIn? countTerms
  rw [scanTermsIn?_eq, Option.bind_some]
  cases read : scanOrdinals column expander memory facet.field (facet.plan hits) with
  | error error => rfl
  | ok groups =>
    have fits : ∀ document ∈ Buckets.ofOrdinals groups.scan,
        document.2.Nodup ∧ ∀ ordinal ∈ document.2, ordinal < column.size := by
      intro document member
      obtain ⟨reading, listed, rfl⟩ := List.mem_map.mp member
      exact (fits_of_scanOrdinals enumerated faithful read listed).2
    rw [tabled, Buckets.tallyIn?_eq (fun document member => (fits document member).2)
      (fun document member => (fits document member).1) fun _ _ => rfl]
    rfl

theorem narrowTermsIn?_eq : facet.narrowTermsIn? memory hits ordinals column expander =
    some (facet.narrowTerms column expander memory hits ordinals (facet.plan hits)).result := by
  unfold narrowTermsIn? narrowTerms
  dsimp only
  split
  · rfl
  · rw [scanTermsIn?_eq, Option.bind_some]
    cases read : scanOrdinals column expander memory facet.field (facet.plan hits) with
    | error error => rfl
    | ok groups =>
      rw [tabled, Hits.atPositionsIn?_eq]
      · rfl
      · intro position picked
        obtain ⟨document, member, rfl⟩ := Buckets.exists_of_mem_positionsIn (fun _ => rfl) picked
        exact (fits_of_scanOrdinals enumerated faithful read member).1

end Enumerated

/-- Counting with tables answers the buckets of the count. -/
theorem countIn?_eq (faithful : facet.Faithful memory) (hits : Hits) :
    facet.countIn? memory hits = some ((facet.count memory hits).result.map (·.buckets)) := by
  have answered (sweep : Sweep (List Bucket)) :
      some sweep.result = some ((sweep.result.map facet.histogram).map (·.buckets)) := by
    cases sweep.result <;> rfl
  unfold countIn? count
  cases source : facet.source with
  | absent => rfl
  | numeric reader =>
    cases facet.mode with
    | linear => exact (countLinearIn?_eq reader).trans (answered _)
    | log => exact (countOnScaleIn?_eq reader .log memory hits []).trans (answered _)
    | exact => exact (countExactIn?_eq reader).trans (answered _)
  | enumerated column style dictionary expander =>
    exact (countTermsIn?_eq source faithful).trans (answered _)

/-- Narrowing with tables answers the hits of the narrowing. -/
theorem narrowIn?_eq (faithful : facet.Faithful memory) (hits : Hits) (ordinals : List Ordinal) :
    facet.narrowIn? memory hits ordinals = some (facet.narrow memory hits ordinals).result := by
  unfold narrowIn? narrow
  cases source : facet.source with
  | absent => rfl
  | numeric reader =>
    cases facet.mode with
    | linear => exact narrowLinearIn?_eq source
    | log => exact narrowOnScaleIn?_eq source .log memory []
    | exact => exact narrowExactIn?_eq source
  | enumerated column style dictionary expander => exact narrowTermsIn?_eq source faithful

/-- No call leaves its tables. Whatever the column and the dictionaries of a facet answer and after whatever
calls, counting with tables and narrowing with tables answer what counting and narrowing answer. The
bucket of a number is in the bucket space of every linear scale, which finds it in the table of its
ranges, and in that of the logarithmic one; so it is by any other logarithm within bounds, whose readings
can be counted in tables as well. -/
theorem calls_stay_in_tables (facet : Facet) (calls : List Call) (hits : Hits)
    (ordinals : List Ordinal) :
    let memory := facet.after calls
    facet.countIn? memory hits = some ((facet.count memory hits).result.map (·.buckets)) ∧
      facet.narrowIn? memory hits ordinals = some (facet.narrow memory hits ordinals).result ∧
      (∀ (scale : LinearScale) (x : Float),
        scale.bucketIn? x = some (scale.bucketOf x) ∧ scale.bucketOf x < LinearScale.size) ∧
      (∀ x, LogScale.bucketOf x < LogScale.size) ∧
      ∀ log10, LogScale.Bounded log10 → (∀ x, LogScale.bucketBy log10 x < LogScale.size) ∧
        ∀ scan : Scan Float,
          (scan.endsIn? (fun x => some (LogScale.bucketBy log10 x)) LogScale.size).isSome ∧
          ((Buckets.ofScan (fun x => some (LogScale.bucketBy log10 x)) scan).countIn?
            LogScale.size).isSome := by
  intro memory
  have faithful := facet.faithful_after calls
  refine ⟨countIn?_eq faithful hits, narrowIn?_eq faithful hits ordinals,
    fun scale x => ⟨scale.bucketIn?_eq x, scale.bucketOf_lt x⟩, LogScale.bucketOf_lt,
    fun log10 bounded => ⟨LogScale.bucketBy_lt bounded, fun scan => ⟨?_, ?_⟩⟩⟩
  · rw [scan.endsIn?_eq (fun _ => rfl) (LogScale.bucketBy_lt bounded), Option.isSome_some]
  · rw [Buckets.countIn?_eq (Buckets.within_ofScan scan (LogScale.bucketBy_lt bounded))
      (Buckets.nodup_ofScan _ scan), Option.isSome_some]

/-- The prices of the market are counted in a table of ten entries, and by the logarithm without its fraction
the last entry of a table of forty is for NaN. -/
theorem calls_stay_in_tables_market :
    (∃ facet, TableIndex.market.toIndex.facet .default "price" .linear = .ok facet ∧
      facet.countIn? (facet.after []) TableIndex.marketHits =
        some ((facet.count (facet.after []) TableIndex.marketHits).result.map (·.buckets))) ∧
      LogScale.Bounded LogScale.wholeLog ∧
      LogScale.bucketBy LogScale.wholeLog (0.0 / 0.0) < LogScale.size ∧
      LogScale.bucketBy LogScale.wholeLog (0.0 / 0.0) = 39 := by
  have bounded := LogScale.logarithm_wholeLog.bounded
  have opened : TableIndex.market.toIndex.facet .default "price" .linear = .ok _ := rfl
  obtain ⟨counted, _, _, _, logs⟩ := calls_stay_in_tables _ [] TableIndex.marketHits []
  exact ⟨⟨_, opened, counted⟩, bounded, (logs _ bounded).1 _, by decide +kernel⟩

end Facet

end Facets
