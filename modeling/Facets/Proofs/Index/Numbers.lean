import Facets.Proofs.Facet.Cursors
import Facets.Proofs.Facet.Ranking
import Facets.Proofs.Number.Conversions

/-!
Columns of numbers in a table. What is read for a document are the numbers given for it, each
converted to the kind of the field; sets are kept as words in ascending order, and the words are
ordered as the numbers they stand for.
-/

namespace Facets

open Number (Precedes)

instance int64IsStrictTotalOrder : IsStrictTotalOrder Int64 (· < ·) where
  irrefl word := Int64.lt_irrefl
  trans _ _ _ := Int64.lt_trans
  trichotomous a b := by
    simp only [Int64.lt_iff_toInt_lt, ← Int64.toInt_inj]
    omega

/-- The numbers given for documents: at most one each, or a list of numbers each. -/
inductive GivenNumbers where
  | single (rows : List (Option Float))
  | sets (rows : List (List Float))

namespace GivenNumbers

/-- The numbers given for a document; documents beyond the end have none. -/
def ofRow : GivenNumbers → RowId → List Float
  | single rows, row => (rows[row]?).join.toList
  | sets rows, row => rows[row]?.getD []

/-- The numbers given for all documents. -/
def all : GivenNumbers → List Float
  | single rows => rows.filterMap id
  | sets rows => rows.flatten

/-- How many documents numbers are given for. -/
def length : GivenNumbers → Nat
  | single rows => rows.length
  | sets rows => rows.length

/-- The column that a table builds from given numbers. -/
def column (kind : NumberKind) : GivenNumbers → TableColumn
  | single rows => .numbers (rows.map fun value? => value?.map kind.encode)
  | sets rows => .numberSets ((rows.map fun row => row.map kind.encode).map Ascending.ofList)

/-- What is read for a document: its number converted, or its converted numbers in ascending order and
each once. -/
def ReadAs (given : GivenNumbers) (kind : NumberKind) (row : RowId) (values : List Float) : Prop :=
  match given with
  | single _ => values = (given.ofRow row).map kind.converted
  | sets _ => values.Pairwise Precedes ∧
      ∀ y, y ∈ values ↔ ∃ x ∈ given.ofRow row, kind.converted x = y

variable {given : GivenNumbers} {kind : NumberKind} {row : RowId} {values : List Float}

theorem mem_all_of_mem_ofRow {x : Float} (listed : x ∈ given.ofRow row) : x ∈ given.all := by
  cases given with
  | single rows =>
    simp only [ofRow, Option.mem_toList, Option.join_eq_some_iff] at listed
    exact List.mem_filterMap.mpr ⟨some x, List.mem_of_getElem? listed, rfl⟩
  | sets rows =>
    cases found : rows[row]? with
    | none => simp [ofRow, found] at listed
    | some numbers =>
      simp only [ofRow, found, Option.getD_some] at listed
      exact List.mem_flatten.mpr ⟨numbers, List.mem_of_getElem? found, listed⟩

theorem ofRow_eq_nil (beyond : given.length ≤ row) : given.ofRow row = [] := by
  cases given with
  | single rows => simp only [ofRow, List.getElem?_eq_none beyond, Option.join_none, Option.toList_none]
  | sets rows => simp only [ofRow, List.getElem?_eq_none beyond, Option.getD_none]

/-- The words kept for a document are those of its numbers. -/
theorem words_single (kind : NumberKind) (rows : List (Option Float)) (row : RowId) :
    ((single rows).column kind).answers.words row =
      .whole (((single rows).ofRow row).map kind.encode) := by
  simp only [column, TableColumn.answers, ofRow, List.getElem?_map]
  rcases rows[row]? with _ | _ | x <;> rfl

theorem words_sets (kind : NumberKind) (rows : List (List Float)) (row : RowId) :
    ((sets rows).column kind).answers.words row =
      .whole (Ascending.ofList (((sets rows).ofRow row).map kind.encode)) := by
  simp only [column, TableColumn.answers, ofRow, List.getElem?_map]
  cases rows[row]? <;> rfl

/-- Words of numbers are never malformed. -/
theorem ofWords_of_encoded {words : List Int64}
    (encoded : ∀ word ∈ words, ∃ x, kind.encode x = word) :
    Reading.ofWords kind (.whole words) = ⟨words.map kind.decode, []⟩ := by
  have stored : words.all kind.stores = true := by
    refine List.all_eq_true.mpr fun word member => ?_
    obtain ⟨x, rfl⟩ := encoded word member
    exact kind.stores_encode x
  simp only [Reading.ofWords, Delivery.whole, stored, if_true]

theorem exists_readAs (kind : NumberKind) (numbers : ∀ x ∈ given.all, x.isNaN = false) (row : RowId) :
    ∃ values, Reading.ofWords kind ((given.column kind).answers.words row) = ⟨values, []⟩ ∧
      given.ReadAs kind row values := by
  cases given with
  | single rows =>
    refine ⟨_, ?_, rfl⟩
    rw [words_single, ofWords_of_encoded, List.map_map]
    · rfl
    · intro word member
      obtain ⟨x, _, same⟩ := List.mem_map.mp member
      exact ⟨x, same⟩
  | sets rows =>
    have encoded : ∀ word ∈ Ascending.ofList (((sets rows).ofRow row).map kind.encode),
        ∃ x ∈ (sets rows).ofRow row, kind.encode x = word := by
      intro word member
      exact List.mem_map.mp (Ascending.mem_ofList.mp member)
    rw [words_sets, ofWords_of_encoded fun word member => (encoded word member).imp fun _ => And.right]
    refine ⟨_, rfl, List.pairwise_map.mpr ?_, fun y => ?_⟩
    -- words are sorted before they are read, so their order has to be that of what is read
    · refine (Ascending.ofList_pairwise _).imp_of_mem fun {v w} first second less => ?_
      obtain ⟨x, listed, rfl⟩ := encoded v first
      obtain ⟨y, listing, rfl⟩ := encoded w second
      exact (kind.converted_precedes_iff (numbers x (mem_all_of_mem_ofRow listed))
        (numbers y (mem_all_of_mem_ofRow listing))).mpr less
    · simp only [List.mem_map, Ascending.mem_ofList, exists_exists_and_eq_and]
      rfl

theorem ReadAs.mem_iff (read : given.ReadAs kind row values) {y : Float} :
    y ∈ values ↔ y ∈ (given.ofRow row).map kind.converted := by
  cases given with
  | single rows => rw [show values = _ from read]
  | sets rows => rw [read.2 y, List.mem_map]

theorem ReadAs.eq_nil (read : given.ReadAs kind row values) (beyond : given.length ≤ row) :
    values = [] := by
  refine List.eq_nil_iff_forall_not_mem.mpr fun y held => ?_
  rw [read.mem_iff, ofRow_eq_nil beyond] at held
  cases held

end GivenNumbers

namespace TableIndex

/-- A table with a column of given numbers. -/
def withGivenNumbers (table : TableIndex) (field : String) (kind : NumberKind) :
    GivenNumbers → TableIndex
  | .single rows => table.withNumbers field kind rows
  | .sets rows => table.withNumberSets field kind rows

/-- The numbers given for an item's document. Documents that the table does not have have none. -/
def numbersFor (table : TableIndex) (given : GivenNumbers) (item : Item) : List Float :=
  if item.id < table.documents then given.ofRow item.id else []

variable {table : TableIndex} {field : String} {kind : NumberKind} {given : GivenNumbers}

theorem field?_withGivenNumbers (table : TableIndex) (field : String) (kind : NumberKind)
    (given : GivenNumbers) : ∃ entry, (table.withGivenNumbers field kind given).field? field =
      some entry ∧ entry.traits.kind = kind ∧ entry.column = some (given.column kind) := by
  cases given <;>
    simp [withGivenNumbers, withNumbers, withWords, withNumberSets, withWordSets, withNumericColumn,
      alter, field?, GivenNumbers.column]

theorem answers_withGivenNumbers (table : TableIndex) (field : String) (kind : NumberKind)
    (given : GivenNumbers) :
    (table.withGivenNumbers field kind given).answers field = (given.column kind).answers := by
  obtain ⟨entry, found, _, column⟩ := field?_withGivenNumbers table field kind given
  rw [answers, found, Option.bind_some, column]

/-- A field of given numbers opens in every mode. -/
theorem exists_facet_withGivenNumbers (table : TableIndex) (field : String) (kind : NumberKind)
    (given : GivenNumbers) (settings : Settings) (mode : Mode) : ∃ facet reader,
      (table.withGivenNumbers field kind given).toIndex.facet settings field mode = .ok facet ∧
        facet.source = .numeric reader ∧ facet.traits.kind = kind ∧ facet.mode = mode := by
  obtain ⟨entry, found, same, column⟩ := field?_withGivenNumbers table field kind given
  obtain ⟨reader, known⟩ : ∃ reader, toColumn (given.column kind) = .numeric reader := by
    cases given <;> exact ⟨_, rfl⟩
  have opened : (table.withGivenNumbers field kind given).toIndex.source settings field =
      .ok (.numeric reader) := by
    simp only [Index.source, toIndex, found, Option.bind_some, column, Option.map_some, known]
    rfl
  have traits : (table.withGivenNumbers field kind given).toIndex.traits field = entry.traits := by
    simp only [toIndex, found]
  simp only [Index.facet, opened]
  exact ⟨_, reader, rfl, rfl, (congrArg Traits.kind traits).trans same, rfl⟩

variable {settings : Settings} {mode : Mode} {facet : Facet} {reader : Reader Int64}

theorem numbersOf_withGivenNumbers
    (opened : (table.withGivenNumbers field kind given).toIndex.facet settings field mode = .ok facet)
    (same : facet.traits.kind = kind) (numbers : ∀ x ∈ given.all, x.isNaN = false) (item : Item)
    (y : Float) :
    y ∈ facet.numbersOf ((table.withGivenNumbers field kind given).answers field) item ↔
      y ∈ (table.numbersFor given item).map kind.converted := by
  have row : facet.rowOf item = if item.id < table.documents then some item.id else none := by
    rw [Index.rowOf_of_facet opened]
    cases given <;> rfl
  simp only [Facet.numbersOf, numbersFor, row, same, answers_withGivenNumbers]
  by_cases known : item.id < table.documents
  · obtain ⟨values, reading, read⟩ := GivenNumbers.exists_readAs kind numbers item.id
    simp only [known, if_true, ← Reading.values_ofWords, reading, read.mem_iff]
  · simp only [known, if_false, List.map_nil]

/-- Nothing of a row is left out. -/
theorem reasonsAt_withGivenNumbers
    (opened : (table.withGivenNumbers field kind given).toIndex.facet settings field mode = .ok facet)
    (numeric : facet.source = .numeric reader) (same : facet.traits.kind = kind)
    (numbers : ∀ x ∈ given.all, x.isNaN = false) (n : Nat) {history : List RowId} {row : RowId}
    (forward : ∀ earlier ∈ history, earlier ≤ row) : facet.reasonsAt n history row = [] := by
  obtain ⟨steady, opening⟩ := facet_answersBy opened
  have atOpening := opening n
  simp only [Facet.AnswersBy, Facet.opens, Facet.reasonsAt, numeric, same] at steady atOpening ⊢
  obtain ⟨cursor, here, _⟩ := exists_of_map_ok atOpening
  obtain ⟨values, reading, _⟩ := GivenNumbers.exists_readAs kind numbers row
  rw [steady.answer_eq here forward, answers_withGivenNumbers, reading]

/-- A call reports the hits without a row, and of the others nothing but its start and its end. -/
theorem reason_of_withGivenNumbers
    (opened : (table.withGivenNumbers field kind given).toIndex.facet settings field mode = .ok facet)
    (numeric : facet.source = .numeric reader) (same : facet.traits.kind = kind)
    (numbers : ∀ x ∈ given.all, x.isNaN = false) {memory : FacetMemory} {call : Call}
    {reason : SkipReason}
    (reported : .skipped field reason ∈ (facet.perform memory call).trace.events) :
    reason = .unknownItem := by
  have present : facet.source ≠ .absent := by
    rw [numeric]
    exact FacetSource.noConfusion
  obtain ⟨n, trace, visited, matched, swept, run, _⟩ := Facet.perform_runs present memory call
  have silent := swept.events_eq_nil numeric fun n _ visit =>
    reasonsAt_withGivenNumbers opened numeric same numbers n fun _ => Plan.row_le_of_mem_before
  rw [run, Trace.events_around, Trace.events_append, silent, List.append_nil, Plan.trace,
    Trace.events_ofSkips] at reported
  simp only [List.mem_cons, List.mem_append, List.mem_map, List.not_mem_nil, or_false,
    reduceCtorEq, false_or, Event.skipped.injEq] at reported
  obtain ⟨_, ⟨_, _, rfl⟩, _, rfl⟩ := reported
  rfl

/-- Counting exactly ranks the converted numbers of the documents. -/
theorem count_withGivenNumbers
    (opened : (table.withGivenNumbers field kind given).toIndex.facet settings field .exact = .ok facet)
    (numeric : facet.source = .numeric reader) (same : facet.traits.kind = kind)
    (exact : facet.mode = .exact) (numbers : ∀ x ∈ given.all, x.isNaN = false)
    (memory : FacetMemory) (hits : Hits) :
    let documents := hits.map fun hit => (table.numbersFor given hit.item).map kind.converted
    ∃ values : List Float, values.Pairwise Precedes ∧
      (∀ y, y ∈ values ↔ ∃ document ∈ documents, y ∈ document) ∧
      (facet.count memory hits).result =
        .ok (facet.histogram (Bucket.ofValues values documents)) := by
  intro documents
  obtain ⟨steady, opening⟩ := facet_answersBy opened
  have held (hit : Hit) := numbersOf_withGivenNumbers opened same numbers hit.item
  have counted := Facet.count_exact numeric exact memory hits
  rw [Facet.documents_heard numeric steady (opening _), opening] at counted
  dsimp only at counted
  rw [Bucket.ofValues_congr _ held] at counted
  refine ⟨_, RankTable.values_pairwise _, fun y => ?_, counted⟩
  simp only [RankTable.mem_values, List.mem_flatten, documents, List.mem_map,
    exists_exists_and_eq_and, held]

/-- A column of numbers gives back what it was built from. Every cursor reads for a row the numbers given
for it, converted once: doubles as they are, singles to the nearest single, integers to their whole
part; sets come out ascending and without repetition, and rows beyond the end have nothing. No call
reports a number as malformed, and counting exactly ranks the distinct converted numbers of the
documents. -/
theorem given_numbers_come_back (table : TableIndex) (field : String) (kind : NumberKind)
    (given : GivenNumbers) (numbers : ∀ x ∈ given.all, x.isNaN = false) (settings : Settings)
    (mode : Mode) :
    (∀ x ∈ given.all, kind.Converts x (kind.converted x)) ∧
    ∃ facet reader,
      (table.withGivenNumbers field kind given).toIndex.facet settings field mode = .ok facet ∧
      facet.source = .numeric reader ∧
      (∀ n, ∃ cursor, reader.openCursor n = .ok cursor ∧
        ∀ history row, (∀ earlier ∈ history, earlier ≤ row) →
          ∃ values, Reading.ofWords facet.traits.kind (cursor history row) = ⟨values, []⟩ ∧
            given.ReadAs kind row values ∧ (given.length ≤ row → values = [])) ∧
      (∀ memory call reason,
        .skipped field reason ∈ (facet.perform memory call).trace.events → reason = .unknownItem) ∧
      (mode = .exact → ∀ memory hits,
        let documents := hits.map fun hit => (table.numbersFor given hit.item).map kind.converted
        ∃ values : List Float, values.Pairwise Precedes ∧
          (∀ y, y ∈ values ↔ ∃ document ∈ documents, y ∈ document) ∧
          (facet.count memory hits).result =
            .ok (facet.histogram (Bucket.ofValues values documents))) := by
  obtain ⟨facet, reader, opened, numeric, same, asked⟩ :=
    exists_facet_withGivenNumbers table field kind given settings mode
  refine ⟨fun x listed => kind.converts_converted (numbers x listed), facet, reader, opened, numeric,
    fun n => ?_, fun memory call reason => reason_of_withGivenNumbers opened numeric same numbers,
    fun exact memory hits => ?_⟩
  · obtain ⟨steady, opening⟩ := facet_answersBy opened
    have atOpening := opening n
    simp only [Facet.AnswersBy, Facet.opens, numeric] at steady atOpening
    obtain ⟨cursor, here, _⟩ := exists_of_map_ok atOpening
    refine ⟨cursor, here, fun history row forward => ?_⟩
    obtain ⟨values, reading, read⟩ := GivenNumbers.exists_readAs kind numbers row
    rw [steady n cursor here history row forward, answers_withGivenNumbers, same]
    exact ⟨values, reading, read, read.eq_nil⟩
  · subst exact
    exact count_withGivenNumbers opened numeric same asked numbers memory hits

/-- Sizes that are whole when they are read, and the zeros become one. -/
theorem given_numbers_come_back_sizes :
    let given := GivenNumbers.sets [[2.5, -0.0, -1.5], [], [0.5]]
    (∀ x ∈ given.all, x.isNaN = false) ∧ ∃ facet reader,
      ((TableIndex.new 3).withGivenNumbers "size" .integer given).toIndex.facet .default "size" .exact =
        .ok facet ∧ facet.source = .numeric reader ∧
      ∃ cursor, reader.openCursor 0 = .ok cursor ∧
        ∃ values, Reading.ofWords facet.traits.kind (cursor [] 0) = ⟨values, []⟩ ∧
          given.ReadAs .integer 0 values := by
  intro given
  have numbers : ∀ x ∈ given.all, x.isNaN = false := by decide +kernel
  obtain ⟨-, facet, reader, opened, numeric, cursors, -⟩ :=
    given_numbers_come_back (.new 3) "size" .integer given numbers .default .exact
  obtain ⟨cursor, here, rows⟩ := cursors 0
  obtain ⟨values, reading, read, -⟩ := rows [] 0 (by simp)
  exact ⟨numbers, facet, reader, opened, numeric, cursor, here, values, reading, read⟩

end TableIndex

end Facets
