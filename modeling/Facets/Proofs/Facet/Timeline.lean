import Facets.Proofs.Expansions
import Facets.Proofs.Facet.Agreement
import Facets.Proofs.Facet.Composition
import Facets.Proofs.Index.Terms
import Facets.Proofs.Text.Split

/-!
Event fields of tables. A hit with a group has the buckets of the tags that the group's text joins,
and a hit without one those of its document's terms; where tags and terms are the same, so are the
buckets.
-/

namespace Facets

namespace TableIndex

/-- A field of a table with the given sets of terms and the given composite texts of groups. -/
structure HasEvents (table : TableIndex) (field : String) (rows : List (List String))
    (composites : List String) : Prop where
  column : ((table.field? field).bind (·.column)) = some (GivenTerms.sets rows).column
  groups : ((table.field? field).bind (·.groups)) = some (Ascending.ofList composites)
  event : (table.toIndex.traits field).event = true

/-- Terms and groups may be given in either order. -/
theorem hasEvents_of_given (table : TableIndex) (field : String) (rows : List (List String))
    (composites : List String) :
    ((table.withTermSets field rows).withGroups field composites).HasEvents field rows composites ∧
      ((table.withGroups field composites).withTermSets field rows).HasEvents field rows
        composites := by
  constructor <;> constructor <;>
    simp [withTermSets, withGroups, alter, field?, toIndex, GivenTerms.column, GivenTerms.dictionary]

variable {table : TableIndex} {field : String} {rows : List (List String)}
  {composites : List String} {settings : Settings} {mode : Mode} {facet : Facet}

theorem termAt_of_groupOrdinal? (events : table.HasEvents field rows composites) {composite : String}
    {group : Ordinal} (named : table.groupOrdinal? field composite = some group) :
    (Dictionary.ofTerms (Ascending.ofList composites)).termAt group = .ok composite := by
  obtain ⟨entry, found, groups⟩ := Option.bind_eq_some_iff.mp events.groups
  simp only [groupOrdinal?, found, groups, Option.bind_eq_bind, Option.bind_some] at named
  obtain ⟨within, here, _⟩ := List.idxOf?_eq_some_iff.mp named
  simp only [Dictionary.ofTerms, List.getElem?_eq_getElem within, here]

/-- A facet of events reads the given terms and expands the given groups. -/
theorem source_of_hasEvents (events : table.HasEvents field rows composites)
    (opened : table.toIndex.facet settings field mode = .ok facet) :
    ∃ column style labels, facet.source = .enumerated column style labels
        (some ⟨field, .ofTerms (Ascending.ofList composites),
          .ofTerms (GivenTerms.sets rows).dictionary, settings.eventSeparator⟩) ∧
      column.size = (GivenTerms.sets rows).dictionary.length := by
  have found := Index.source_of_facet opened
  have column : table.toIndex.column field =
      .ok (some (toColumn (GivenTerms.sets rows).column)) := by
    simp only [toIndex, events.column, Option.map_some]
  have groups : table.toIndex.groups field =
      .ok (some (.ofTerms (Ascending.ofList composites))) := by
    simp only [toIndex, events.groups, Option.map_some]
  have source : table.toIndex.source settings field = .ok _ :=
    Index.source_of_events column events.event rfl rfl groups rfl
  exact ⟨_, _, _, Except.ok.inj (found.symm.trans source), rfl⟩

end TableIndex

namespace Facet

section Enumerated

variable {facet : Facet} {column : TermColumn} {style : LabelStyle} {labels : Dictionary}
  {expander : Option Expander} (enumerated : facet.source = .enumerated column style labels expander)
  (rows : RowAnswers)

include enumerated

/-- The buckets of terms do not depend on a scale or on the other hits. -/
theorem bucketsAmong_of_enumerated (scale : LinearScale) (hits : Hits) :
    facet.bucketsAmong rows scale hits = facet.ownBuckets rows .fresh := by
  funext item
  simp only [ownBuckets, bucketsAmong, bucketsOf, enumerated]

/-- Result sets whose hits have the same buckets one by one have the same histogram. -/
theorem rowHistogram_congr_of_enumerated {hits others : Hits}
    (same : hits.map (fun hit => facet.ownBuckets rows .fresh hit.item) =
      others.map fun hit => facet.ownBuckets rows .fresh hit.item) :
    facet.rowHistogram rows hits = facet.rowHistogram rows others := by
  have labelled : facet.describes (facet.rowFit rows hits) (facet.rowValues rows hits) =
      facet.describes (facet.rowFit rows others) (facet.rowValues rows others) := by
    funext ordinal
    simp only [describes, enumerated]
  simp only [rowHistogram, bucketsAmong_of_enumerated enumerated, same, labelled]

end Enumerated

variable {table : TableIndex} {field : String} {rows : List (List String)}
  {composites : List String} {settings : Settings} {mode : Mode} {facet : Facet}

section Events

variable (events : table.HasEvents field rows composites)
  (opened : table.toIndex.facet settings field mode = .ok facet)

include events opened

/-- A hit without a group has the buckets of its document's terms. -/
theorem mem_ownBuckets_of_plain {item : Item} (plain : item.group = none) {ordinal : Ordinal} :
    ordinal ∈ facet.ownBuckets (table.answers field) .fresh item ↔
      ∃ term ∈ table.listed (.sets rows) item,
        (GivenTerms.sets rows).dictionary[ordinal]? = some term := by
  obtain ⟨column, style, labels, source, size⟩ := TableIndex.source_of_hasEvents events opened
  have rowOf : facet.rowOf item = if item.id < table.documents then some item.id else none := by
    rw [Index.rowOf_of_facet opened]
    rfl
  have answers : table.answers field = (GivenTerms.sets rows).column.answers := by
    rw [TableIndex.answers, events.column]
  simp only [ownBuckets, bucketsAmong, bucketsOf, source, plain, ordinalsOf, rowOf, size, answers,
    TableIndex.listed]
  by_cases known : item.id < table.documents
  · simp only [known, if_true, GivenTerms.mem_ordinalsWithin]
  · simp only [known, if_false, Finset.notMem_empty, List.not_mem_nil, false_and, exists_false]

/-- A hit with a group has the buckets of the tags that the group's text joins. -/
theorem mem_ownBuckets_of_grouped (apart : settings.eventSeparator ≠ "") {tags : List String}
    (free : ∀ tag ∈ tags, ∀ c ∈ tag.toList, c ∉ settings.eventSeparator.toList) {item : Item}
    {group : Ordinal} (grouped : item.group = some group)
    (named : table.groupOrdinal? field (settings.eventSeparator.intercalate tags) = some group)
    {ordinal : Ordinal} :
    ordinal ∈ facet.ownBuckets (table.answers field) .fresh item ↔
      ∃ tag ∈ tags, tag ≠ "" ∧ (GivenTerms.sets rows).dictionary[ordinal]? = some tag := by
  obtain ⟨column, style, labels, source, size⟩ := TableIndex.source_of_hasEvents events opened
  have text := TableIndex.termAt_of_groupOrdinal? events named
  simp only [ownBuckets, bucketsAmong, bucketsOf, source, grouped, Expander.ordinalsWithin]
  have yields := Expander.expandAnew_yields ⟨field, .ofTerms (Ascending.ofList composites),
    .ofTerms (GivenTerms.sets rows).dictionary, settings.eventSeparator⟩ group
  generalize Expander.expandAnew _ group = answered at yields ⊢
  -- the group is known and lookups in a table do not fail, so the group can be expanded
  cases yields with
  | unknown none => cases text.symm.trans none
  | failed _ _ _ failure => cases failure
  | found same _ _ members =>
    cases text.symm.trans same
    simp only [Text.tags_intercalate apart free, Dictionary.ofTerms, List.mem_filter,
      decide_eq_true_eq, Except.ok.injEq, GivenTerms.idxOf?_eq_some_iff] at members
    simp only [List.mem_toFinset, List.mem_filter, members, decide_eq_true_eq, and_assoc, size]
    constructor
    · rintro ⟨listed, _⟩
      exact listed
    · rintro ⟨tag, member, filled, stands⟩
      exact ⟨⟨tag, member, filled, stands⟩, (List.getElem?_eq_some_iff.mp stands).1⟩

/-- Counts and narrowings of events go by the buckets that each hit has by itself. -/
theorem results_of_events (calls : List Call) (hits : Hits) :
    (facet.count (facet.after calls) hits).result =
        .ok (facet.rowHistogram (table.answers field) hits) ∧
      (∀ ordinal, (facet.rowHistogram (table.answers field) hits).count ordinal =
        hits.countP fun hit => ordinal ∈ facet.ownBuckets (table.answers field) .fresh hit.item) ∧
      ∀ ordinals, (facet.narrow (facet.after calls) hits ordinals).result =
        .ok (hits.within (facet.ownBuckets (table.answers field) .fresh) ordinals) := by
  obtain ⟨_, _, _, source, _⟩ := TableIndex.source_of_hasEvents events opened
  obtain ⟨steady, opening⟩ := TableIndex.facet_answersBy opened
  refine ⟨count_result_of_opening steady opening (facet.faithful_after calls) hits, ?_, ?_⟩
  · intro ordinal
    rw [count_rowHistogram, bucketsAmong_of_enumerated source]
  · intro ordinals
    rw [narrow_result_after steady opening, bucketsAmong_of_enumerated source]

end Events

/-- Counting and narrowing treat a hit with a group as they treat a hit whose document lists the tags
of the group: those that the group's text joins, without the empty ones and those that the dictionary
lacks. Hits without a group go by the terms of their own documents. -/
theorem groups_agree_with_documents (events : table.HasEvents field rows composites)
    (opened : table.toIndex.facet settings field mode = .ok facet)
    (apart : settings.eventSeparator ≠ "") (calls : List Call) :
    let dictionary := (GivenTerms.sets rows).dictionary
    let buckets := facet.ownBuckets (table.answers field) .fresh
    let memory := facet.after calls
    (∀ hits, ∃ histogram, (facet.count memory hits).result = .ok histogram ∧
      ∀ ordinal, histogram.count ordinal = hits.countP fun hit => ordinal ∈ buckets hit.item) ∧
    (∀ hits ordinals, (facet.narrow memory hits ordinals).result =
      .ok (hits.filter fun hit => ∃ ordinal ∈ ordinals, ordinal ∈ buckets hit.item)) ∧
    (∀ item : Item, item.group = none → ∀ ordinal, ordinal ∈ buckets item ↔
      ∃ term ∈ table.listed (.sets rows) item, dictionary[ordinal]? = some term) ∧
    ∀ (tags : List String) (event : Item) (group : Ordinal),
      (∀ tag ∈ tags, ∀ c ∈ tag.toList, c ∉ settings.eventSeparator.toList) →
      event.group = some group →
      table.groupOrdinal? field (settings.eventSeparator.intercalate tags) = some group →
      (∀ ordinal, ordinal ∈ buckets event ↔
        ∃ tag ∈ tags, tag ≠ "" ∧ dictionary[ordinal]? = some tag) ∧
      ∀ plain : Item, plain.group = none →
        (∀ term, term ∈ table.listed (.sets rows) plain ↔
          term ∈ tags ∧ term ≠ "" ∧ term ∈ dictionary) →
        ∀ (earlier later : Hits) score,
          (facet.count memory (earlier ++ ⟨event, score⟩ :: later)).result =
            (facet.count memory (earlier ++ ⟨plain, score⟩ :: later)).result ∧
          ∀ ordinals, ∃ (front back : Hits) (chosen : Bool),
            (facet.narrow memory (earlier ++ ⟨event, score⟩ :: later) ordinals).result =
              .ok (front ++ (if chosen then [⟨event, score⟩] else []) ++ back) ∧
            (facet.narrow memory (earlier ++ ⟨plain, score⟩ :: later) ordinals).result =
              .ok (front ++ (if chosen then [⟨plain, score⟩] else []) ++ back) := by
  intro dictionary buckets memory
  obtain ⟨_, _, _, source, _⟩ := TableIndex.source_of_hasEvents events opened
  have results := results_of_events events opened calls
  refine ⟨fun hits => ⟨_, (results hits).1, (results hits).2.1⟩, fun hits => (results hits).2.2,
    fun item plain ordinal => mem_ownBuckets_of_plain events opened plain, ?_⟩
  intro tags event group free grouped named
  have ofTags : ∀ ordinal, ordinal ∈ buckets event ↔
      ∃ tag ∈ tags, tag ≠ "" ∧ dictionary[ordinal]? = some tag :=
    fun _ => mem_ownBuckets_of_grouped events opened apart free grouped named
  refine ⟨ofTags, fun plain ungrouped listed earlier later score => ?_⟩
  -- both sides stand for the tags that the dictionary knows
  have same : buckets event = buckets plain := by
    ext ordinal
    rw [ofTags, mem_ownBuckets_of_plain events opened ungrouped]
    constructor
    · rintro ⟨tag, member, filled, stands⟩
      exact ⟨tag, (listed tag).mpr ⟨member, filled, List.mem_of_getElem? stands⟩, stands⟩
    · rintro ⟨term, own, stands⟩
      obtain ⟨member, filled, _⟩ := (listed term).mp own
      exact ⟨term, member, filled, stands⟩
  refine ⟨?_, fun ordinals => ?_⟩
  · rw [(results _).1, (results _).1]
    refine congrArg Except.ok (rowHistogram_congr_of_enumerated source _ ?_)
    simp only [List.map_append, List.map_cons]
    rw [show facet.ownBuckets (table.answers field) .fresh event = _ from same]
  · refine ⟨earlier.within buckets ordinals, later.within buckets ordinals,
      decide (∃ ordinal ∈ ordinals, ordinal ∈ buckets plain), ?_, ?_⟩
    · rw [(results _).2.2, Hits.within_among,
        show facet.ownBuckets (table.answers field) .fresh event = _ from same]
    · rw [(results _).2.2, Hits.within_among]

/-- A group's text with an empty tag, a tag twice and one that is in no document. -/
theorem groups_agree_with_documents_market :
    let rows := [["red", "blue", "red"], [], ["green"]]
    let composites := ["green", "blue::::white::red::blue"]
    let table := ((TableIndex.new 3).withTermSets "colour" rows).withGroups "colour" composites
    let settings := { Settings.default with eventSeparator := "::" }
    let others : Hits := [⟨⟨0, 2, none⟩, 1⟩]
    ∃ facet, table.toIndex.facet settings "colour" .exact = .ok facet ∧
      (facet.count .fresh (others ++ ⟨⟨0, 7, some 0⟩, 2⟩ :: others)).result =
        (facet.count .fresh (others ++ ⟨⟨0, 0, none⟩, 2⟩ :: others)).result ∧
      (∀ ordinal, ordinal ∈ facet.ownBuckets (table.answers "colour") .fresh ⟨0, 7, some 0⟩ ↔
        ∃ tag ∈ ["blue", "", "white", "red", "blue"], tag ≠ "" ∧
          (GivenTerms.sets rows).dictionary[ordinal]? = some tag) := by
  intro rows composites table settings others
  have opened : table.toIndex.facet settings "colour" .exact = .ok _ := rfl
  have events : table.HasEvents "colour" rows composites :=
    (TableIndex.hasEvents_of_given (.new 3) "colour" rows composites).1
  have free : ∀ tag ∈ ["blue", "", "white", "red", "blue"], ∀ c ∈ tag.toList, c ∉ "::".toList := by
    simp
  have named : table.groupOrdinal? "colour"
      ("::".intercalate ["blue", "", "white", "red", "blue"]) = some 0 := by
    decide +kernel
  have agree := (groups_agree_with_documents events opened (by decide) []).2.2.2 _ ⟨0, 7, some 0⟩ 0
    free rfl named
  refine ⟨_, opened, (agree.2 ⟨0, 0, none⟩ rfl ?_ others others 2).1, agree.1⟩
  have terms : (GivenTerms.sets rows).dictionary = ["blue", "green", "red"] := by decide +kernel
  intro term
  rw [terms, show table.listed (.sets rows) ⟨0, 0, none⟩ = ["red", "blue", "red"] from rfl]
  simp only [List.mem_cons, List.not_mem_nil, or_false]
  grind

end Facet

end Facets
