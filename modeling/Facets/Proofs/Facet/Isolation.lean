import Facets.Proofs.Facet.Calls

namespace Facets

theorem Hits.within_filter_of_empty {hits : Hits} {kept : Hit → Bool}
    {bucketsOf : Item → Finset Ordinal} (ordinals : List Ordinal)
    (empty : ∀ hit, kept hit = false → bucketsOf hit.item = ∅) :
    Hits.within (hits.filter kept) bucketsOf ordinals = hits.within bucketsOf ordinals := by
  rw [within, within, List.filter_filter]
  refine List.filter_congr fun hit _ => ?_
  cases keeping : kept hit with
  | true => rw [Bool.and_true]
  | false =>
    rw [empty hit keeping]
    simp

namespace Facet

/-- Whether an item has no row, or its row of terms cannot be read. -/
def unreadable (facet : Facet) (rows : RowAnswers) (item : Item) : Bool :=
  match facet.rowOf item with
  | some row => (rows.ordinals row).complaint.isSome
  | none => true

/-- Whether no value can be taken from an item: its group is to be expanded and cannot be, or else it
has no row, or a row that cannot be read or that holds a word that stands for no value. -/
def fails (facet : Facet) (rows : RowAnswers) (item : Item) : Bool :=
  match facet.source with
  | .absent => (facet.rowOf item).isNone
  | .numeric _ =>
    match facet.rowOf item with
    | some row => (rows.words row).complaint.isSome ||
        !(rows.words row).values.all facet.traits.kind.stores
    | none => true
  | .enumerated _ _ _ expander =>
    match expander, item.group with
    | some expander, some group => !(expander.expandAnew group).isOk
    | _, _ => facet.unreadable rows item

/-- The hits from which values can be taken. -/
def sound (facet : Facet) (rows : RowAnswers) (hits : Hits) : Hits :=
  hits.filter fun hit => !facet.fails rows hit.item

variable {facet : Facet} {rows : RowAnswers} {memory : FacetMemory} {hits : Hits}

theorem numbersOf_of_fails {reader : Reader Int64} (numeric : facet.source = .numeric reader)
    {item : Item} (failure : facet.fails rows item = true) : facet.numbersOf rows item = [] := by
  simp only [fails, numeric] at failure
  unfold numbersOf
  cases atItem : facet.rowOf item with
  | none => rfl
  | some row =>
    simp only [atItem, Bool.or_eq_true, Bool.not_eq_true'] at failure
    dsimp only
    unfold NumberKind.numbers
    refine if_neg ?_
    rintro ⟨whole, stored⟩
    rcases failure with unreadable | malformed
    · rw [whole] at unreadable
      cases unreadable
    · rw [List.all_eq_true.mpr stored] at malformed
      cases malformed

theorem bucketsOf_of_fails {item : Item} (failure : facet.fails rows item = true)
    (scale : LinearScale) (values : List Float) : facet.bucketsOf rows scale values item = ∅ := by
  unfold bucketsOf
  cases source : facet.source with
  | absent => rfl
  | numeric reader =>
    dsimp only
    rw [numbersOf_of_fails source failure]
    rfl
  | enumerated column style dictionary expander =>
    simp only [fails, source] at failure
    have ofRow : facet.unreadable rows item = true → facet.ordinalsOf rows column.size item = ∅ := by
      unfold unreadable ordinalsOf
      cases facet.rowOf item with
      | none => exact fun _ => rfl
      | some row =>
        intro unreadable
        obtain ⟨complaint, found⟩ := Option.isSome_iff_exists.mp unreadable
        simp only [ordinalsWithin, found, reduceCtorEq, if_false]
    cases expander with
    | none => exact ofRow failure
    | some expander =>
      cases ofGroup : item.group with
      | none =>
        rw [ofGroup] at failure
        exact ofRow failure
      | some group =>
        simp only [ofGroup] at failure
        simp only [Expander.ordinalsWithin]
        cases expanded : expander.expandAnew group with
        | error error => rfl
        | ok ordinals =>
          rw [expanded] at failure
          cases failure

theorem bucketsAmong_of_fails {hit : Hit} (failure : (!facet.fails rows hit.item) = false)
    (scale : LinearScale) (hits : Hits) : facet.bucketsAmong rows scale hits hit.item = ∅ :=
  bucketsOf_of_fails (by simpa using failure) scale _

theorem rowValues_sound {reader : Reader Int64} (numeric : facet.source = .numeric reader)
    (hits : Hits) : facet.rowValues rows (facet.sound rows hits) = facet.rowValues rows hits := by
  unfold rowValues sound
  induction hits with
  | nil => rfl
  | cons hit rest ih =>
    rw [List.filter_cons, List.flatMap_cons]
    cases failure : facet.fails rows hit.item with
    | true =>
      rw [numbersOf_of_fails numeric failure]
      exact ih
    | false =>
      simp only [Bool.not_false, if_true, List.flatMap_cons, ih]

theorem rowFit_sound (fitted : facet.isFitted = true) (hits : Hits) :
    facet.rowFit rows (facet.sound rows hits) = facet.rowFit rows hits := by
  obtain ⟨reader, numeric, _⟩ := exists_reader_of_isFitted fitted
  rw [rowFit, rowFit, rowValues_sound numeric]

/-- The scale that spans the sound hits puts every item into the same buckets as that of all hits. -/
theorem bucketsAmong_sound (stored : Option LinearScale) (hits : Hits) :
    facet.bucketsAmong rows (stored.getD (facet.rowFit rows (facet.sound rows hits)))
      (facet.sound rows hits) =
      facet.bucketsAmong rows (stored.getD (facet.rowFit rows hits)) hits :=
  bucketsOf_congr (fun fitted => by rw [rowFit_sound fitted])
    (fun _ numeric => rowValues_sound numeric hits) rows

theorem bucketSpace_sound (hits : Hits) :
    facet.bucketSpace (facet.rowValues rows (facet.sound rows hits)) =
      facet.bucketSpace (facet.rowValues rows hits) :=
  bucketSpace_congr fun _ numeric => rowValues_sound numeric hits

theorem describes_sound (hits : Hits) :
    facet.describes (facet.rowFit rows (facet.sound rows hits))
      (facet.rowValues rows (facet.sound rows hits)) =
      facet.describes (facet.rowFit rows hits) (facet.rowValues rows hits) :=
  describes_congr (fun fitted => rowFit_sound fitted hits)
    (fun _ numeric => rowValues_sound numeric hits)

theorem countP_sound (scale : LinearScale) (among hits : Hits) (ordinal : Ordinal) :
    ((facet.sound rows hits).map fun hit => facet.bucketsAmong rows scale among hit.item).countP
      (fun set => ordinal ∈ set) =
      (hits.map fun hit => facet.bucketsAmong rows scale among hit.item).countP
        fun set => ordinal ∈ set := by
  rw [List.countP_map, List.countP_map, sound, List.countP_filter]
  refine List.countP_congr fun hit _ => ?_
  simp only [Function.comp_apply, Bool.and_eq_true, decide_eq_true_eq, and_iff_left_iff_imp]
  intro held
  cases failure : facet.fails rows hit.item with
  | true =>
    rw [bucketsAmong_of_fails (by rw [failure]; rfl)] at held
    cases Finset.notMem_empty _ held
  | false => rfl

/-- Hits from which no value can be taken leave no mark in a histogram. -/
theorem rowHistogram_sound (facet : Facet) (rows : RowAnswers) (hits : Hits) :
    facet.rowHistogram rows (facet.sound rows hits) = facet.rowHistogram rows hits := by
  have sets : facet.bucketsAmong rows (facet.rowFit rows (facet.sound rows hits))
      (facet.sound rows hits) = facet.bucketsAmong rows (facet.rowFit rows hits) hits :=
    bucketsAmong_sound none hits
  rw [rowHistogram, rowHistogram, sets, describes_sound]
  congr 1
  exact Bucket.listOf_congr (countP_sound _ _ hits) fun _ => rfl

theorem within_sound (scale : LinearScale) (among hits : Hits) (ordinals : List Ordinal) :
    (facet.sound rows hits).within (facet.bucketsAmong rows scale among) ordinals =
      hits.within (facet.bucketsAmong rows scale among) ordinals :=
  Hits.within_filter_of_empty ordinals fun _ failure => bucketsAmong_of_fails failure scale among

theorem fit?_sound (steady : facet.AnswersBy rows) (memory : FacetMemory) (hits : Hits) :
    facet.fit? memory (facet.sound rows hits) = facet.fit? memory hits := by
  cases fitted : facet.isFitted with
  | true => rw [fit?_of_steady steady fitted, fit?_of_steady steady fitted, rowFit_sound fitted]
  | false => rw [fit?_of_unfitted fitted, fit?_of_unfitted fitted]

theorem opens_of_countOpens_error {error : SourceError}
    (closed : facet.countOpens memory = .error error) : ∃ n, facet.opens n = .error error := by
  rcases exists_of_bind_error closed with first | ⟨_, _, second⟩
  · exact ⟨_, first⟩
  · exact ⟨_, second⟩

theorem opens_of_pickOpens_error {n space : Nat} {ordinals : List Ordinal} {error : SourceError}
    (closed : facet.pickOpens n space ordinals = .error error) : facet.opens n = .error error := by
  unfold pickOpens at closed
  split at closed
  · cases closed
  · exact closed

theorem opens_of_narrowOpens_error {space : Nat} {ordinals : List Ordinal} {error : SourceError}
    (closed : facet.narrowOpens memory space ordinals = .error error) :
    ∃ n, facet.opens n = .error error := by
  unfold narrowOpens at closed
  split at closed
  · rcases exists_of_bind_error closed with first | ⟨_, _, second⟩
    · exact ⟨_, first⟩
    · exact ⟨_, opens_of_pickOpens_error second⟩
  · exact ⟨_, opens_of_pickOpens_error closed⟩

/-- Hits from which no value can be taken make no call fail and show in no answer: a facet counts,
narrows and fits its scale as if they were not in the result set. Calls fail only where a cursor does
not open. -/
theorem failures_are_isolated (steady : facet.AnswersBy rows) (calls : List Call) (hits : Hits)
    (ordinals : List Ordinal) :
    (∀ error, (facet.count (facet.after calls) hits).result = .error error →
      ∃ n, facet.opens n = .error error) ∧
    (∀ error, (facet.narrow (facet.after calls) hits ordinals).result = .error error →
      ∃ n, facet.opens n = .error error) ∧
    (facet.count (facet.after calls) hits).result =
      (facet.count (facet.after calls) (facet.sound rows hits)).result ∧
    (facet.count (facet.after calls) hits).memory.scale =
      (facet.count (facet.after calls) (facet.sound rows hits)).memory.scale ∧
    (facet.narrow (facet.after calls) hits ordinals).result =
      (facet.narrow (facet.after calls) (facet.sound rows hits) ordinals).result ∧
    (facet.narrow (facet.after calls) hits ordinals).memory.scale =
      (facet.narrow (facet.after calls) (facet.sound rows hits) ordinals).memory.scale := by
  have faithful := facet.faithful_after calls
  refine ⟨?_, ?_, ?_, ?_, ?_, ?_⟩
  · intro error failed
    rw [count_result_of_steady faithful steady] at failed
    exact opens_of_countOpens_error (eq_error_of_map_error failed)
  · intro error failed
    rw [narrow_result faithful steady] at failed
    exact opens_of_narrowOpens_error (eq_error_of_map_error failed)
  · rw [count_result_of_steady faithful steady, count_result_of_steady faithful steady,
      rowHistogram_sound]
  · rw [count_scale, count_scale, fit?_sound steady]
  · rw [narrow_result faithful steady, narrow_result faithful steady, bucketSpace_sound,
      bucketsAmong_sound, within_sound]
  · rw [narrow_scale, narrow_scale, fit?_sound steady]

/-- Four rows of singles. The second breaks off after a number, and the third holds a word of more than 32
bits. -/
def brokenRows : RowId → Delivery Int64
  | 0 => .whole [1069547520]
  | 1 => ⟨[1075838976], some (.read 1 "closed")⟩
  | 2 => .whole [1069547520, 1099511627776]
  | _ => .whole [1082130432]

/-- A field whose cursors deliver these rows. -/
def broken : Facet where
  field := "ratio"
  traits := ⟨true, .single, false, false, false⟩
  mode := .linear
  source := .numeric (.set fun _ => .ok fun _ => brokenRows)
  rowOf item := some item.id
  format := ⟨false, " - "⟩

theorem broken_answersBy : broken.AnswersBy ⟨brokenRows, fun _ => .whole []⟩ := by
  intro n cursor opened history row _
  cases opened
  rfl

/-- Of the colours two hits cannot be read, and of the ratios another two. -/
theorem failures_are_isolated_market :
    (let hits := TableIndex.marketHits
    let rows := TableIndex.market.answers "colour"
    ∃ facet, TableIndex.market.toIndex.facet .default "colour" .exact = .ok facet ∧
      (facet.count (facet.after [.count hits]) hits).result =
        (facet.count (facet.after [.count hits]) (facet.sound rows hits)).result ∧
      hits.length = 6 ∧ (facet.sound rows hits).length = 4) ∧
    let hits : Hits := (List.range 4).map fun id => ⟨⟨0, id, none⟩, 0⟩
    let rows : RowAnswers := ⟨brokenRows, fun _ => .whole []⟩
    let memory := broken.after [.narrow (hits.drop 1) [3]]
    (broken.count memory hits).result = (broken.count memory (broken.sound rows hits)).result ∧
      (broken.count memory hits).memory.scale =
        (broken.count memory (broken.sound rows hits)).memory.scale ∧
      (broken.narrow memory hits [0]).result =
        (broken.narrow memory (broken.sound rows hits) [0]).result ∧
      hits.length = 4 ∧ (broken.sound rows hits).map (·.item.id) = [0, 3] := by
  constructor
  · intro hits rows
    have steady := (@TableIndex.facet_answersBy TableIndex.market .default "colour" .exact _ rfl).1
    refine ⟨_, rfl, (failures_are_isolated steady [.count hits] hits []).2.2.1, ?_, ?_⟩
    · decide
    · decide
  · intro hits rows memory
    obtain ⟨-, -, counted, fitted, narrowed, -⟩ :=
      failures_are_isolated broken_answersBy [.narrow (hits.drop 1) [3]] hits [0]
    exact ⟨counted, fitted, narrowed, rfl, by decide⟩

end Facet

end Facets
