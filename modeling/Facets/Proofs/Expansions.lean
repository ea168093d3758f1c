import Facets.Proofs.Ascending
import Facets.Proofs.Expansion

/-!
Runs of expansions. An expander that remembers texts answers each group as if it remembered nothing:
what is remembered after some groups are the texts that were expanded without failure, each once, and
it shows only in the lookups of tags that are saved.
-/

namespace Facets.Expander

/-- What expanding a group means: a failure of the group's lookup or, tag by tag, the first failure of
a tag's lookup, and else the ordinals of the tags that the dictionary knows, ascending. -/
inductive Yields (expander : Expander) (group : Ordinal) : Except SourceError (List Ordinal) → Prop
  | unknown {error} : expander.groups.termAt group = .error error →
      Yields expander group (.error error)
  | failed {composite earlier tag later error} : expander.groups.termAt group = .ok composite →
      Text.tags expander.separator composite = earlier ++ tag :: later →
      (∀ tag ∈ earlier, ∃ found, expander.terms.find tag = .ok found) →
      expander.terms.find tag = .error error → Yields expander group (.error error)
  | found {composite ordinals} : expander.groups.termAt group = .ok composite →
      (∀ tag ∈ Text.tags expander.separator composite,
        ∃ found, expander.terms.find tag = .ok found) →
      ordinals.Pairwise (· < ·) →
      (∀ ordinal, ordinal ∈ ordinals ↔ ∃ tag ∈ Text.tags expander.separator composite,
        expander.terms.find tag = .ok (some ordinal)) →
      Yields expander group (.ok ordinals)

/-- The text of a group, if the group is known and its text can be expanded. -/
def expandable? (expander : Expander) (group : Ordinal) : Option String :=
  match expander.groups.termAt group with
  | .ok composite => if (expander.expandText composite).1.isOk then some composite else none
  | .error _ => none

/-- The composite texts among groups that can be expanded. -/
def expandedTexts (expander : Expander) (groups : List Ordinal) : Finset String :=
  (groups.filterMap expander.expandable?).toFinset

/-- What is remembered after groups have been expanded one after another. -/
def rememberedAfter (expander : Expander) (expansions : Expansions) (groups : List Ordinal) :
    Expansions :=
  groups.foldl (fun remembered group => (expander.expand remembered group).expansions) expansions

/-- Expansions of the given texts, one of each. -/
structure Remembers (expansions : Expansions) (texts : Finset String) : Prop where
  distinct : (expansions.map Prod.fst).Nodup
  texts : ∀ text, text ∈ expansions.map Prod.fst ↔ text ∈ texts

variable {expander : Expander} {expansions : Expansions} {group : Ordinal}

theorem findTags_cons {tag : String} {found : Option Ordinal}
    (known : expander.terms.find tag = .ok found) (rest : List String) :
    (expander.findTags (tag :: rest)).1 = (expander.findTags rest).1.map (found.toList ++ ·) := by
  rw [findTags, known]
  cases found with
  | some ordinal => rfl
  | none => cases (expander.findTags rest).1 <;> rfl

theorem findTags_cases (expander : Expander) (tags : List String) :
    (∃ error earlier tag later, (expander.findTags tags).1 = .error error ∧
      tags = earlier ++ tag :: later ∧
      (∀ tag ∈ earlier, ∃ found, expander.terms.find tag = .ok found) ∧
      expander.terms.find tag = .error error) ∨
    (∃ ordinals, (expander.findTags tags).1 = .ok ordinals ∧
      (∀ tag ∈ tags, ∃ found, expander.terms.find tag = .ok found) ∧
      ∀ ordinal, ordinal ∈ ordinals ↔
        ∃ tag ∈ tags, expander.terms.find tag = .ok (some ordinal)) := by
  induction tags with
  | nil => exact Or.inr ⟨[], rfl, by simp, by simp⟩
  | cons tag rest ih =>
    cases known : expander.terms.find tag with
    | error error =>
      exact Or.inl ⟨error, [], tag, rest, by rw [findTags, known], rfl, by simp, known⟩
    | ok found =>
      rw [findTags_cons known]
      rcases ih with ⟨error, earlier, lost, later, failed, rfl, before, atLost⟩ |
        ⟨ordinals, answered, all, members⟩
      · refine Or.inl ⟨error, tag :: earlier, lost, later, by rw [failed]; rfl, rfl, ?_, atLost⟩
        exact List.forall_mem_cons.mpr ⟨⟨found, known⟩, before⟩
      · refine Or.inr ⟨found.toList ++ ordinals, by rw [answered]; rfl,
          List.forall_mem_cons.mpr ⟨⟨found, known⟩, all⟩, ?_⟩
        intro ordinal
        simp only [List.mem_append, Option.mem_toList, members, List.exists_mem_cons_iff, known,
          Except.ok.injEq]

/-- Expanding anew answers what a group means. -/
theorem expandAnew_yields (expander : Expander) (group : Ordinal) :
    expander.Yields group (expander.expandAnew group) := by
  unfold expandAnew
  cases atGroup : expander.groups.termAt group with
  | error error => exact .unknown atGroup
  | ok composite =>
    simp only [Except.bind, expandText]
    rcases expander.findTags_cases (Text.tags expander.separator composite) with
      ⟨error, earlier, tag, later, failed, tags, before, atTag⟩ | ⟨ordinals, answered, all, members⟩
    · rw [failed]
      exact .failed atGroup tags before atTag
    · rw [answered]
      refine .found atGroup all (Ascending.ofList_pairwise ordinals) fun ordinal => ?_
      rw [Ascending.mem_ofList, members]

theorem expandable?_of_ok {composite : String}
    (atGroup : expander.groups.termAt group = .ok composite) {ordinals : List Ordinal}
    (expanded : (expander.expandText composite).1 = .ok ordinals) :
    expander.expandable? group = some composite := by
  simp only [expandable?, atGroup, expanded]
  rfl

theorem expandable?_of_error {composite : String}
    (atGroup : expander.groups.termAt group = .ok composite) {error : SourceError}
    (failed : (expander.expandText composite).1 = .error error) :
    expander.expandable? group = none := by
  simp only [expandable?, atGroup, failed]
  rfl

theorem mem_expandedTexts {groups : List Ordinal} {text : String} :
    text ∈ expander.expandedTexts groups ↔
      ∃ group ∈ groups, expander.expandable? group = some text := by
  simp [expandedTexts]

theorem mem_expandedTexts_concat {groups : List Ordinal} {text : String} :
    text ∈ expander.expandedTexts (groups ++ [group]) ↔
      text ∈ expander.expandedTexts groups ∨ expander.expandable? group = some text := by
  simp [mem_expandedTexts, or_and_right, exists_or]

theorem mem_texts_of_lookup {composite : String} {ordinals : List Ordinal}
    (found : expansions.lookup composite = some ordinals) : composite ∈ expansions.map Prod.fst := by
  obtain ⟨before, after, rfl, _⟩ := List.lookup_eq_some_iff.mp found
  simp

theorem notMem_texts_of_lookup {composite : String} (missing : expansions.lookup composite = none) :
    composite ∉ expansions.map Prod.fst := by
  intro member
  obtain ⟨entry, listed, rfl⟩ := List.mem_map.mp member
  simpa using List.lookup_eq_none_iff.mp missing entry listed

/-- A text that fails to expand is never among those that were. -/
theorem notMem_expandedTexts_of_error {composite : String} {error : SourceError}
    (failed : (expander.expandText composite).1 = .error error) (groups : List Ordinal) :
    composite ∉ expander.expandedTexts groups := by
  intro member
  obtain ⟨group, _, expanded⟩ := mem_expandedTexts.mp member
  unfold expandable? at expanded
  split at expanded
  · obtain ⟨ok, same⟩ := Option.ite_none_right_eq_some.mp expanded
    cases same
    rw [failed] at ok
    cases ok
  · cases expanded

namespace Remembers

variable {texts : Finset String} {groups : List Ordinal}

theorem length_eq (remembers : Remembers expansions texts) : expansions.length = texts.card := by
  have same : (expansions.map Prod.fst).toFinset = texts := by
    ext text
    rw [List.mem_toFinset, remembers.texts]
  rw [← same, List.toFinset_card_of_nodup remembers.distinct, List.length_map]

/-- One more group adds its text to what is remembered, if it can be expanded. -/
theorem expand (remembers : Remembers expansions (expander.expandedTexts groups))
    (faithful : expander.Faithful expansions) (group : Ordinal) :
    Remembers (expander.expand expansions group).expansions
      (expander.expandedTexts (groups ++ [group])) := by
  -- a group that cannot be expanded adds to neither side
  have unchanged (none : expander.expandable? group = none) :
      Remembers expansions (expander.expandedTexts (groups ++ [group])) := by
    refine ⟨remembers.distinct, fun text => ?_⟩
    rw [remembers.texts, mem_expandedTexts_concat, none]
    simp
  have run := expander.expand_expands expansions group
  generalize expander.expand expansions group = expanded at run ⊢
  cases run with
  | unknown atGroup => exact unchanged (by simp only [expandable?, atGroup])
  | failed atGroup _ expanded =>
    exact unchanged (expandable?_of_error atGroup (congrArg Prod.fst expanded))
  | @remembered composite ordinals atGroup found =>
    refine ⟨remembers.distinct, fun text => ?_⟩
    rw [remembers.texts, mem_expandedTexts_concat, expandable?_of_ok atGroup (faithful _ _ found)]
    refine ⟨Or.inl, fun either => either.elim id ?_⟩
    rintro ⟨rfl⟩
    exact (remembers.texts composite).mp (mem_texts_of_lookup found)
  | @added composite ordinals trace atGroup missing expanded =>
    refine ⟨List.nodup_cons.mpr ⟨notMem_texts_of_lookup missing, remembers.distinct⟩, fun text => ?_⟩
    rw [List.map_cons, List.mem_cons, remembers.texts, mem_expandedTexts_concat,
      expandable?_of_ok atGroup (congrArg Prod.fst expanded), Option.some.injEq, or_comm, eq_comm]

theorem trace_of_mem (remembers : Remembers expansions texts) {composite : String}
    (atGroup : expander.groups.termAt group = .ok composite) (known : composite ∈ texts) :
    (expander.expand expansions group).trace = [.event (.cacheProbed true)] := by
  have listed := (remembers.texts composite).mpr known
  cases found : expansions.lookup composite with
  | none => exact absurd listed (notMem_texts_of_lookup found)
  | some ordinals => simp only [Expander.expand, atGroup, found]

theorem trace_of_notMem (remembers : Remembers expansions texts) {composite : String}
    (atGroup : expander.groups.termAt group = .ok composite) (fresh : composite ∉ texts) :
    (expander.expand expansions group).trace =
      .event (.cacheProbed false) :: (expander.expandText composite).2 := by
  cases found : expansions.lookup composite with
  | some ordinals =>
    exact absurd ((remembers.texts composite).mp (mem_texts_of_lookup found)) fresh
  | none =>
    simp only [Expander.expand, atGroup, found]
    rcases expander.expandText composite with ⟨_ | _, _⟩ <;> rfl

end Remembers

theorem rememberedAfter_concat (groups : List Ordinal) (group : Ordinal) :
    expander.rememberedAfter expansions (groups ++ [group]) =
      (expander.expand (expander.rememberedAfter expansions groups) group).expansions := by
  simp only [rememberedAfter, List.foldl_append, List.foldl_cons, List.foldl_nil]

/-- What is remembered after some groups is right, and is of the texts among them that can be
expanded. -/
theorem remembers_rememberedAfter (expander : Expander) (groups : List Ordinal) :
    expander.Faithful (expander.rememberedAfter [] groups) ∧
      Remembers (expander.rememberedAfter [] groups) (expander.expandedTexts groups) := by
  induction groups using List.reverseRecOn with
  | nil => exact ⟨faithful_nil, List.nodup_nil, fun text => by simp [rememberedAfter, expandedTexts]⟩
  | append_singleton earlier group ih =>
    obtain ⟨faithful, remembers⟩ := ih
    rw [rememberedAfter_concat]
    exact ⟨faithful.expand group, remembers.expand faithful group⟩

/-- The `i`-th call of a run expands its group with what is remembered after the groups before. -/
theorem getElem?_expandEach (groups : List Ordinal) (i : Nat) :
    (expander.expandEach expansions groups)[i]? =
      groups[i]?.map (expander.expand (expander.rememberedAfter expansions (groups.take i))) := by
  induction groups generalizing expansions i with
  | nil => rfl
  | cons group rest ih =>
    cases i with
    | zero => rfl
    | succ i => exact ih i

/-- How often a trace says that a text was looked for among those remembered. -/
def probes (trace : Trace) : Nat :=
  trace.events.count (.cacheProbed true) + trace.events.count (.cacheProbed false)

theorem probes_append (first second : Trace) :
    probes (first ++ second) = probes first + probes second := by
  simp only [probes, Trace.events_append, List.count_append]
  omega

theorem probes_expandText (expander : Expander) (composite : String) :
    probes (expander.expandText composite).2 = 0 := by
  have quiet (hit : Bool) :
      (expander.expandText composite).2.events.count (.cacheProbed hit) = 0 := by
    refine List.count_eq_zero.mpr fun member => ?_
    cases event_of_mem_expandText member
  rw [probes, quiet, quiet]

/-- Every call that knows its group looks once for the group's text. -/
theorem probes_expand (expander : Expander) (expansions : Expansions) (group : Ordinal) :
    probes (expander.expand expansions group).trace =
      if (expander.groups.termAt group).isOk then 1 else 0 := by
  have missed {composite result trace} (expanded : expander.expandText composite = (result, trace)) :
      probes (.event (.cacheProbed false) :: trace) = 1 := by
    have quiet := expander.probes_expandText composite
    rw [expanded] at quiet
    rw [← List.singleton_append, probes_append, quiet]
    rfl
  have run := expander.expand_expands expansions group
  generalize expander.expand expansions group = expanded at run ⊢
  cases run with
  | unknown none => rw [none]; rfl
  | remembered same _ => rw [same]; rfl
  | added same _ expanded => rw [same, missed expanded]; rfl
  | failed same _ expanded => rw [same, missed expanded]; rfl

theorem probes_expandEach (expander : Expander) (expansions : Expansions) (groups : List Ordinal) :
    probes ((expander.expandEach expansions groups).flatMap (·.trace)) =
      groups.countP fun group => (expander.groups.termAt group).isOk := by
  induction groups generalizing expansions with
  | nil => rfl
  | cons group rest ih =>
    rw [expandEach, List.flatMap_cons, probes_append, probes_expand, ih, List.countP_cons,
      Nat.add_comm]

theorem results_expandEach (faithful : expander.Faithful expansions) (groups : List Ordinal) :
    (expander.expandEach expansions groups).map (·.result) = groups.map expander.expandAnew := by
  induction groups generalizing expansions with
  | nil => rfl
  | cons group rest ih =>
    rw [expandEach, List.map_cons, List.map_cons, faithful.expand_result, ih (faithful.expand group)]

/-- What a call in a run does after the groups before it: it answers what its group means, remembers
as many texts as have been expanded by then, and looks up tags only if the group's text is not among
those before. A call that fails leaves nothing behind, so its text is looked up again by the next. -/
structure Follows (expander : Expander) (earlier : List Ordinal) (group : Ordinal)
    (expanded : Expanded) : Prop where
  answers : expander.Yields group expanded.result
  remembers : expanded.expansions.length = (expander.expandedTexts (earlier ++ [group])).card
  forgets : ∀ error, expanded.result = .error error →
    expanded.expansions = expander.rememberedAfter [] earlier
  unknown : ∀ error, expander.groups.termAt group = .error error → expanded.trace = []
  known : ∀ composite, expander.groups.termAt group = .ok composite →
    composite ∈ expander.expandedTexts earlier → expanded.trace = [.event (.cacheProbed true)]
  fresh : ∀ composite, expander.groups.termAt group = .ok composite →
    composite ∉ expander.expandedTexts earlier →
    expanded.trace = .event (.cacheProbed false) :: (expander.expandText composite).2
  retries : ∀ composite error, expander.groups.termAt group = .ok composite →
    (expander.expandText composite).1 = .error error →
    expanded.trace = .event (.cacheProbed false) :: (expander.expandText composite).2

theorem expand_follows (expander : Expander) (earlier : List Ordinal) (group : Ordinal) :
    expander.Follows earlier group
      (expander.expand (expander.rememberedAfter [] earlier) group) := by
  obtain ⟨faithful, remembers⟩ := expander.remembers_rememberedAfter earlier
  refine
    { answers := ?_
      remembers := (remembers.expand faithful group).length_eq
      forgets := fun _ failed => (expander.expand_expands _ group).expansions_of_failed failed
      unknown := ?_
      known := fun _ atGroup => remembers.trace_of_mem atGroup
      fresh := fun _ atGroup => remembers.trace_of_notMem atGroup
      retries := fun _ _ atGroup failed =>
        remembers.trace_of_notMem atGroup (notMem_expandedTexts_of_error failed earlier) }
  · rw [faithful.expand_result]
    exact expander.expandAnew_yields group
  · intro error none
    rw [Expander.expand, none]

/-- Whatever the groups and their order, each is answered as if nothing were remembered, and the
text of each that is known is looked for once. -/
theorem expansions_answer_as_anew (expander : Expander) (groups : List Ordinal) :
    let run := expander.expandEach [] groups
    run.map (·.result) = groups.map expander.expandAnew ∧
    (∀ i group, groups[i]? = some group →
      ∃ expanded, run[i]? = some expanded ∧ expander.Follows (groups.take i) group expanded) ∧
    probes (run.flatMap (·.trace)) =
      groups.countP fun group => (expander.groups.termAt group).isOk := by
  refine ⟨results_expandEach faithful_nil groups, fun i group here => ?_,
    expander.probes_expandEach [] groups⟩
  refine ⟨_, ?_, expander.expand_follows (groups.take i) group⟩
  rw [getElem?_expandEach, here, Option.map_some]

end Facets.Expander
