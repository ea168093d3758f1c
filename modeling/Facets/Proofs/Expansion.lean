import Facets.Reading
import Mathlib

namespace Facets.Expander

/-- What a group expands to when nothing is remembered. -/
def expandAnew (expander : Expander) (group : Ordinal) : Except SourceError (List Ordinal) :=
  (expander.groups.termAt group).bind fun composite => (expander.expandText composite).1

/-- Every remembered text still expands to what is remembered of it. -/
def Faithful (expander : Expander) (expansions : Expansions) : Prop :=
  ∀ composite ordinals, expansions.lookup composite = some ordinals →
    (expander.expandText composite).1 = .ok ordinals

variable {expander : Expander} {expansions : Expansions}

theorem faithful_nil : expander.Faithful [] := by
  intro composite ordinals found
  simp at found

theorem Faithful.cons (faithful : expander.Faithful expansions) {composite : String}
    {ordinals : List Ordinal} (expanded : (expander.expandText composite).1 = .ok ordinals) :
    expander.Faithful ((composite, ordinals) :: expansions) := by
  intro text found atText
  rw [List.lookup_cons] at atText
  split at atText
  · rename_i same
    cases beq_iff_eq.mp same
    cases atText
    exact expanded
  · exact faithful text found atText

/-- All that an expansion can do: fail with the group's text, answer what it remembers of the text,
or expand the text and then remember a success and nothing else. -/
inductive Expands (expander : Expander) (expansions : Expansions) (group : Ordinal) :
    Expanded → Prop
  | unknown {error} : expander.groups.termAt group = .error error →
      Expands expander expansions group ⟨.error error, expansions, []⟩
  | remembered {composite ordinals} : expander.groups.termAt group = .ok composite →
      expansions.lookup composite = some ordinals →
      Expands expander expansions group ⟨.ok ordinals, expansions, [.event (.cacheProbed true)]⟩
  | added {composite ordinals trace} : expander.groups.termAt group = .ok composite →
      expansions.lookup composite = none →
      expander.expandText composite = (.ok ordinals, trace) →
      Expands expander expansions group
        ⟨.ok ordinals, (composite, ordinals) :: expansions, .event (.cacheProbed false) :: trace⟩
  | failed {composite error trace} : expander.groups.termAt group = .ok composite →
      expansions.lookup composite = none →
      expander.expandText composite = (.error error, trace) →
      Expands expander expansions group
        ⟨.error error, expansions, .event (.cacheProbed false) :: trace⟩

theorem expand_expands (expander : Expander) (expansions : Expansions) (group : Ordinal) :
    expander.Expands expansions group (expander.expand expansions group) := by
  unfold expand
  cases atGroup : expander.groups.termAt group with
  | error error => exact .unknown atGroup
  | ok composite =>
    cases found : expansions.lookup composite with
    | some ordinals => simpa only [found] using .remembered atGroup found
    | none =>
      cases expanded : expander.expandText composite with
      | mk result trace =>
        cases result with
        | ok ordinals => simpa only [found, expanded] using .added atGroup found expanded
        | error error => simpa only [found, expanded] using .failed atGroup found expanded

theorem Expands.result_eq {group : Ordinal} {expanded : Expanded}
    (run : expander.Expands expansions group expanded) (faithful : expander.Faithful expansions) :
    expanded.result = expander.expandAnew group := by
  unfold expandAnew
  cases run with
  | unknown atGroup => rw [atGroup]; rfl
  | remembered atGroup found => rw [atGroup]; exact (faithful _ _ found).symm
  | added atGroup _ expanded => rw [atGroup]; exact (congrArg Prod.fst expanded).symm
  | failed atGroup _ expanded => rw [atGroup]; exact (congrArg Prod.fst expanded).symm

theorem Expands.faithful {group : Ordinal} {expanded : Expanded}
    (run : expander.Expands expansions group expanded) (faithful : expander.Faithful expansions) :
    expander.Faithful expanded.expansions := by
  cases run with
  | unknown => exact faithful
  | remembered => exact faithful
  | added _ _ expanded => exact faithful.cons (congrArg Prod.fst expanded)
  | failed => exact faithful

/-- A failed expansion leaves nothing behind. -/
theorem Expands.expansions_of_failed {group : Ordinal} {expanded : Expanded} {error : SourceError}
    (run : expander.Expands expansions group expanded) (failure : expanded.result = .error error) :
    expanded.expansions = expansions := by
  cases run with
  | unknown => rfl
  | remembered => cases failure
  | added => cases failure
  | failed => rfl

theorem Faithful.expand_result (faithful : expander.Faithful expansions) (group : Ordinal) :
    (expander.expand expansions group).result = expander.expandAnew group :=
  (expander.expand_expands expansions group).result_eq faithful

theorem Faithful.expand (faithful : expander.Faithful expansions) (group : Ordinal) :
    expander.Faithful (expander.expand expansions group).expansions :=
  (expander.expand_expands expansions group).faithful faithful

section Events

variable {event : Event}

/-- Of the tags of a group only those are reported that the dictionary lacks. -/
theorem event_of_mem_findTags {tags : List String}
    (member : event ∈ (expander.findTags tags).2.events) :
    event = .skipped expander.field .unknownTag := by
  induction tags with
  | nil => cases member
  | cons tag rest ih =>
    unfold findTags at member
    split at member
    · cases member
    · exact ih member
    · rcases List.mem_cons.mp member with same | later
      · exact same
      · exact ih later

theorem event_of_mem_expandText {composite : String}
    (member : event ∈ (expander.expandText composite).2.events) :
    event = .skipped expander.field .unknownTag :=
  event_of_mem_findTags member

theorem event_of_mem_expand {group : Ordinal}
    (member : event ∈ (expander.expand expansions group).trace.events) :
    event = .skipped expander.field .unknownTag ∨ ∃ hit, event = .cacheProbed hit := by
  have run := expander.expand_expands expansions group
  generalize expander.expand expansions group = expanded at run member
  cases run with
  | unknown => cases member
  | remembered => exact Or.inr ⟨true, List.mem_singleton.mp member⟩
  | added _ _ expanded =>
    rcases List.mem_cons.mp member with rfl | later
    · exact Or.inr ⟨false, rfl⟩
    · exact Or.inl (event_of_mem_expandText (by rwa [expanded]))
  | failed _ _ expanded =>
    rcases List.mem_cons.mp member with rfl | later
    · exact Or.inr ⟨false, rfl⟩
    · exact Or.inl (event_of_mem_expandText (by rwa [expanded]))

end Events

/-- What a pass takes from a group. -/
def reading (expander : Expander) (size : Nat) (group : Ordinal) : Reading Ordinal :=
  match expander.expandAnew group with
  | .ok ordinals => .inSpace size ordinals
  | .error _ => .skip .unreadable

@[simp]
theorem length_scan (expander : Expander) (size : Nat) (expansions : Expansions)
    (groups : List (Nat × Ordinal)) :
    (expander.scan size expansions groups).scan.length = groups.length := by
  induction groups generalizing expansions with
  | nil => rfl
  | cons first rest ih => simp only [scan, List.length_cons, ih]

/-- What is remembered never shows in a reading. -/
theorem Faithful.scan_scan (faithful : expander.Faithful expansions) (size : Nat)
    (groups : List (Nat × Ordinal)) :
    (expander.scan size expansions groups).scan =
      groups.map fun (position, group) => (position, expander.reading size group) := by
  induction groups generalizing expansions with
  | nil => rfl
  | cons first rest ih =>
    obtain ⟨position, group⟩ := first
    simp only [scan, List.map_cons, ih (faithful.expand group), faithful.expand_result]
    rfl

theorem Faithful.scan (faithful : expander.Faithful expansions) (size : Nat)
    (groups : List (Nat × Ordinal)) :
    expander.Faithful (expander.scan size expansions groups).expansions := by
  induction groups generalizing expansions with
  | nil => exact faithful
  | cons first rest ih => exact ih (faithful.expand first.2)

end Facets.Expander
