import Facets.Facet.Count
import Facets.Facet.Narrow
import Facets.Proofs.Reading
import Facets.Proofs.Scale

namespace Facets

/-- What an index answers for its rows: the stored words of columns of numbers, the ordinals of
columns of terms. -/
structure RowAnswers where
  words : RowId → Delivery Int64
  ordinals : RowId → Delivery Ordinal

namespace Reader

variable {α : Type}

/-- What the cursor opened for the `n`-th time answers after some rows. -/
def answer (reader : Reader α) (n : Nat) (history : List RowId) (row : RowId) : Delivery α :=
  match reader.openCursor n with
  | .ok cursor => cursor history row
  | .error complaint => ⟨[], some complaint⟩

/-- Every cursor that opens answers a row the same, whatever it was asked before, as long as it only
moves forward. -/
def AnswersBy (reader : Reader α) (answers : RowId → Delivery α) : Prop :=
  ∀ n cursor, reader.openCursor n = .ok cursor →
    ∀ history row, (∀ earlier ∈ history, earlier ≤ row) → cursor history row = answers row

end Reader

namespace Facet

/-- The column of a facet answers every row the same. -/
def AnswersBy (facet : Facet) (rows : RowAnswers) : Prop :=
  match facet.source with
  | .absent => True
  | .numeric reader => reader.AnswersBy rows.words
  | .enumerated column .. => column.reader.AnswersBy rows.ordinals

/-- Opens a cursor for the `n`-th time. -/
def opens (facet : Facet) (n : Nat) : Except SourceError Unit :=
  match facet.source with
  | .absent => .ok ()
  | .numeric reader => (reader.openCursor n).map fun _ => ()
  | .enumerated column .. => (column.reader.openCursor n).map fun _ => ()

/-- Whether the buckets of a facet are those of a linear scale, fitted to a result set. -/
def isFitted (facet : Facet) : Bool :=
  match facet.source, facet.mode with
  | .numeric _, .linear => true
  | _, _ => false

/-- How many times cursors have been opened before counting opens the one it counts with. -/
def countingCursor (facet : Facet) (memory : FacetMemory) : Nat :=
  if facet.isFitted then memory.openings + 1 else memory.openings

/-- The openings counting needs: one to fit a scale, where there is one, and one to count. -/
def countOpens (facet : Facet) (memory : FacetMemory) : Except SourceError Unit :=
  (facet.opens memory.openings).bind fun _ => facet.opens (facet.countingCursor memory)

/-- What the cursor of a pass answers for the rows of the hit at a position: it has been asked for the
rows of all visits before. -/
def heard (facet : Facet) (n : Nat) (hits : Hits) (position : Nat) : RowAnswers where
  words row := match facet.source with
    | .numeric reader => reader.answer n ((facet.plan hits).before ⟨row, position⟩) row
    | _ => .whole []
  ordinals row := match facet.source with
    | .enumerated column .. =>
      column.reader.answer n ((facet.plan hits).before ⟨row, position⟩) row
    | _ => .whole []

/-- The numbers of an item: those of its row, and none without a row. -/
def numbersOf (facet : Facet) (rows : RowAnswers) (item : Item) : List Float :=
  match facet.rowOf item with
  | some row => facet.traits.kind.numbers (rows.words row)
  | none => []

/-- The ordinals of an item that lie in a bucket space: those of its row, and none without a row. -/
def ordinalsOf (facet : Facet) (rows : RowAnswers) (size : Nat) (item : Item) : Finset Ordinal :=
  match facet.rowOf item with
  | some row => ordinalsWithin size (rows.ordinals row)
  | none => ∅

/-- All numbers of a result set, given what is heard at each position. -/
def values (facet : Facet) (heard : Nat → RowAnswers) (hits : Hits) : List Float :=
  hits.zipIdx.flatMap fun (hit, position) => facet.numbersOf (heard position) hit.item

/-- The linear scale that spans a result set. -/
def fit (facet : Facet) (heard : Nat → RowAnswers) (hits : Hits) : LinearScale :=
  .ofValues facet.traits.kind (facet.values heard hits)

/-- The bucket of a number: on a given linear scale, on the logarithmic one, or by its rank among the
values of a pass. -/
def bucketOf (facet : Facet) (scale : LinearScale) (values : List Float) : Float → Ordinal :=
  match facet.mode with
  | .linear => scale.bucketOf
  | .log => LogScale.bucketOf
  | .exact => RankTable.rankAmong values

/-- The buckets of an item: those of its numbers, or the ordinals of its terms. Where groups are
expanded, an item with a group has the ordinals of the group's tags, and its row does not count. -/
def bucketsOf (facet : Facet) (rows : RowAnswers) (scale : LinearScale) (values : List Float)
    (item : Item) : Finset Ordinal :=
  match facet.source with
  | .absent => ∅
  | .numeric _ => ((facet.numbersOf rows item).map (facet.bucketOf scale values)).toFinset
  | .enumerated column _ _ expander =>
    match expander, item.group with
    | some expander, some group => expander.ordinalsWithin column.size group
    | _, _ => facet.ordinalsOf rows column.size item

/-- The buckets of each hit of a result set, in input order. -/
def bucketSets (facet : Facet) (heard : Nat → RowAnswers) (scale : LinearScale) (hits : Hits) :
    List (Finset Ordinal) :=
  hits.zipIdx.map fun (hit, position) =>
    facet.bucketsOf (heard position) scale (facet.values heard hits) hit.item

/-- What a bucket stands for, given all values of the pass. -/
def describes (facet : Facet) (scale : LinearScale) (values : List Float) (ordinal : Ordinal) :
    Option Descriptor :=
  match facet.source, facet.mode with
  | .absent, _ => none
  | .numeric _, .linear =>
    let (start, stop) := (NumberScale.linear scale).shown facet.traits.kind values ordinal
    some (.range start stop)
  | .numeric _, .log =>
    let (start, stop) := LogScale.edges ordinal
    some (.range start stop)
  | .numeric _, .exact => ((RankTable.ofValues values).valueAt? ordinal).map .value
  | .enumerated _ style _ _, _ => some (.label (.fresh ordinal style))

/-- The histogram of a result set, bucket by bucket from the sets of its hits. -/
def reference (facet : Facet) (heard : Nat → RowAnswers) (scale : LinearScale) (hits : Hits) :
    Histogram :=
  facet.histogram (Bucket.listOf (facet.bucketSets heard scale hits)
    (facet.describes scale (facet.values heard hits)))

/-- How many buckets there are, given all values of the pass. -/
def bucketSpace (facet : Facet) (values : List Float) : Nat :=
  match facet.source, facet.mode with
  | .absent, _ => 0
  | .numeric _, .linear => LinearScale.size
  | .numeric _, .log => LogScale.size
  | .numeric _, .exact => (RankTable.ofValues values).size
  | .enumerated column .., _ => column.size

theorem lt_bucketSpace {facet : Facet} {rows : RowAnswers} {scale : LinearScale}
    {values : List Float} {item : Item} {ordinal : Ordinal}
    (contained : ∀ x ∈ facet.numbersOf rows item, x ∈ values)
    (held : ordinal ∈ facet.bucketsOf rows scale values item) :
    ordinal < facet.bucketSpace values := by
  unfold bucketsOf at held
  unfold bucketSpace
  cases source : facet.source with
  | absent =>
    simp only [source, Finset.notMem_empty] at held
  | numeric reader =>
    simp only [source, List.mem_toFinset, List.mem_map] at held
    obtain ⟨x, value, rfl⟩ := held
    unfold bucketOf
    cases facet.mode with
    | linear => exact scale.bucketOf_lt x
    | log => exact LogScale.bucketOf_lt x
    | exact => exact RankTable.rankAmong_lt_size (contained x value)
  | enumerated column style dictionary expander =>
    simp only [source] at held
    split at held
    · exact Expander.lt_of_mem_ordinalsWithin held
    · unfold ordinalsOf at held
      split at held
      · exact lt_of_mem_ordinalsWithin held
      · cases Finset.notMem_empty _ held

theorem describes_isSome {facet : Facet} {values : List Float} {ordinal : Ordinal}
    (within : ordinal < facet.bucketSpace values) (scale : LinearScale) :
    (facet.describes scale values ordinal).isSome := by
  unfold bucketSpace at within
  unfold describes
  split
  · rename_i absent
    simp only [absent] at within
    cases Nat.not_lt_zero _ within
  · rfl
  · rfl
  · rename_i reader numeric exact
    simp only [numeric, exact] at within
    have ranked : ordinal < (RankTable.ofValues values).keys.length := within
    simp only [RankTable.valueAt?, List.getElem?_eq_getElem ranked, Option.map_some,
      Option.isSome_some]
  · rfl

theorem exists_reader_of_isFitted {facet : Facet} (fitted : facet.isFitted = true) :
    ∃ reader, facet.source = .numeric reader ∧ facet.mode = .linear := by
  unfold isFitted at fitted
  split at fitted
  · rename_i reader numeric linear
    exact ⟨reader, numeric, linear⟩
  · cases fitted

section Perm

variable {facet : Facet} {scale other : LinearScale} {values others : List Float}
  (scales : facet.isFitted = true → scale = other)
  (same : ∀ reader, facet.source = .numeric reader → values.Perm others)

include same

theorem bucketSpace_perm : facet.bucketSpace values = facet.bucketSpace others := by
  cases source : facet.source with
  | absent => simp only [bucketSpace, source]
  | numeric reader => simp only [bucketSpace, source, RankTable.ofValues_perm (same reader source)]
  | enumerated column style dictionary expander => simp only [bucketSpace, source]

include scales

/-- Buckets depend on the scale only where it is fitted, and on the values only where they are
numbers, whose order is immaterial. -/
theorem bucketsOf_perm (rows : RowAnswers) :
    facet.bucketsOf rows scale values = facet.bucketsOf rows other others := by
  funext item
  unfold bucketsOf
  cases source : facet.source with
  | absent => rfl
  | enumerated column style dictionary expander => rfl
  | numeric reader =>
    have rule : facet.bucketOf scale values = facet.bucketOf other others := by
      unfold bucketOf
      cases mode : facet.mode with
      | linear => rw [scales (by simp only [isFitted, source, mode])]
      | log => rfl
      | exact => exact RankTable.rankAmong_perm (same reader source)
    dsimp only
    rw [rule]

theorem describes_perm : facet.describes scale values = facet.describes other others := by
  funext ordinal
  cases source : facet.source with
  | absent => simp only [describes, source]
  | enumerated column style dictionary expander => simp only [describes, source]
  | numeric reader =>
    have alike := same reader source
    cases mode : facet.mode with
    | linear =>
      have scales := scales (by simp only [isFitted, source, mode])
      simp only [describes, source, mode, scales, NumberScale.shown_perm _ alike]
    | log => simp only [describes, source, mode]
    | exact => simp only [describes, source, mode, RankTable.ofValues_perm alike]

end Perm

section Congr

variable {facet : Facet} {scale other : LinearScale} {values others : List Float}
  (scales : facet.isFitted = true → scale = other)
  (same : ∀ reader, facet.source = .numeric reader → values = others)

include same

theorem bucketSpace_congr : facet.bucketSpace values = facet.bucketSpace others :=
  bucketSpace_perm fun reader numeric => .of_eq (same reader numeric)

include scales

theorem bucketsOf_congr (rows : RowAnswers) :
    facet.bucketsOf rows scale values = facet.bucketsOf rows other others :=
  bucketsOf_perm scales (fun reader numeric => .of_eq (same reader numeric)) rows

theorem describes_congr : facet.describes scale values = facet.describes other others :=
  describes_perm scales fun reader numeric => .of_eq (same reader numeric)

end Congr

theorem described_of_filled {facet : Facet} {heard : Nat → RowAnswers} {scale : LinearScale}
    {hits : Hits} (ordinal : Ordinal)
    (filled : 0 < (facet.bucketSets heard scale hits).countP fun set => ordinal ∈ set) :
    (facet.describes scale (facet.values heard hits) ordinal).isSome := by
  obtain ⟨set, member, held⟩ := List.countP_pos_iff.mp filled
  obtain ⟨place, within, rfl⟩ := List.mem_map.mp member
  have contained : ∀ x ∈ facet.numbersOf (heard place.2) place.1.item,
      x ∈ facet.values heard hits :=
    fun x value => List.mem_flatMap.mpr ⟨place, within, value⟩
  exact describes_isSome (lt_bucketSpace contained (of_decide_eq_true held)) scale

end Facet

end Facets
