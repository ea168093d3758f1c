import Facets.Proofs.Facet.Grouping
import Facets.Proofs.Facet.Reports
import Facets.Proofs.Requests

/-!
All histograms of one facet over time. Histograms are counted, asked and copied in any order, and the
dictionary of their labels may answer differently from step to step. A label is looked up when it is
first needed, and again after a failure, until it resolves; from then on its text is kept.
-/

namespace Facets

/-- The histograms of a facet that were counted or copied so far, each under its number, and what the
facet remembers. -/
structure Gallery where
  memory : FacetMemory
  histograms : List Histogram

inductive Use where
  | count (hits : Hits)
  | ask (number : Nat) (request : Request)
  | copy (number : Nat)

/-- A use of the histograms, and what the dictionary of their labels says at that time. -/
structure Step where
  use : Use
  dictionary : Dictionary

namespace Gallery

def fresh : Gallery := ⟨.fresh, []⟩

/-- The text of a label, if it was looked up. A label is named by the number of its histogram and the
ordinal of its bucket. -/
def text? (gallery : Gallery) (number : Nat) (ordinal : Ordinal) : Option String :=
  gallery.histograms[number]?.bind (·.text? ordinal)

/-- Uses the histograms of a facet: what has become of them, and the events on the way. Histograms that
are not there are neither asked nor copied. -/
def act (facet : Facet) (gallery : Gallery) (step : Step) : Gallery × List Event :=
  match step.use with
  | .count hits =>
    let pass := facet.count gallery.memory hits
    (⟨pass.memory, gallery.histograms ++ pass.result.toOption.toList⟩, pass.trace.events)
  | .ask number request =>
    match gallery.histograms[number]? with
    | some histogram =>
      let outcome := request.perform step.dictionary histogram
      ({ gallery with histograms := gallery.histograms.set number outcome.after }, outcome.events)
    | none => (gallery, [])
  | .copy number =>
    ({ gallery with histograms := gallery.histograms ++ gallery.histograms[number]?.toList }, [])

/-- The labels of one histogram that were looked up between two states. -/
def newlyAt (before after : Gallery) (number : Nat) : List (Nat × Ordinal) :=
  match before.histograms[number]?, after.histograms[number]? with
  | some histogram, some later => (histogram.newly later).map (number, ·)
  | _, _ => []

/-- The labels that were looked up between two states. -/
def newly (before after : Gallery) : List (Nat × Ordinal) :=
  (List.range before.histograms.length).flatMap (before.newlyAt after)

end Gallery

/-- What has become of the histograms, the labels that were resolved on the way, and the events. -/
structure Course where
  gallery : Gallery
  resolved : List (Nat × Ordinal)
  events : List Event

/-- Takes one step after the other. -/
def Gallery.run (facet : Facet) (gallery : Gallery) : List Step → Course
  | [] => ⟨gallery, [], []⟩
  | step :: rest =>
    let next := gallery.act facet step
    let later := next.1.run facet rest
    ⟨later.gallery, gallery.newly next.1 ++ later.resolved, next.2 ++ later.events⟩

section Counting

variable {facet : Facet} {memory : FacetMemory} {hits : Hits}

theorem Facet.Swept.labelResolved_notMem {plan : Plan} {n : Nat} {trace : Trace}
    (swept : facet.Swept memory plan n trace) : .labelResolved ∉ trace.events := by
  induction swept with
  | start => exact List.not_mem_nil
  | next _ _ ih =>
    intro member
    simp only [Trace.events_append, Trace.events_ofSkips, List.append_assoc, List.mem_append,
      List.mem_map, reduceCtorEq, and_false, exists_false, or_false] at member
    rcases member with earlier | ofGroup
    · exact ih earlier
    · unfold Facet.groupTrace at ofGroup
      split at ofGroup
      · rcases Expander.isReport_of_mem_scan ofGroup with ⟨_, _, same⟩ | ⟨_, same⟩ <;> cases same
      · cases ofGroup

/-- Counting looks up no label. -/
theorem Facet.labelResolved_notMem_count (facet : Facet) (memory : FacetMemory) (hits : Hits) :
    .labelResolved ∉ (facet.count memory hits).trace.events := by
  by_cases absent : facet.source = .absent
  · simp [Facet.count, absent, Trace.events]
  · obtain ⟨_, trace, _, _, swept, reported, _⟩ := perform_runs absent memory (.count hits)
    have counted : (facet.count memory hits).trace = _ := reported
    rw [counted, Trace.events_around, Plan.trace, Trace.events_append, Trace.events_ofSkips]
    simp [swept.labelResolved_notMem]

end Counting

namespace Gallery

variable {facet : Facet} {gallery : Gallery} {step : Step} {number : Nat} {ordinal : Ordinal}

/-- Every histogram has distinct ordinals, so that a number and an ordinal name one label. -/
def Sound (gallery : Gallery) : Prop := ∀ histogram ∈ gallery.histograms, histogram.Distinct

/-- A step either appends histograms and looks up no label, or makes a request of one histogram and
leaves the others alone. -/
theorem act_cases (facet : Facet) (gallery : Gallery) (step : Step) :
    (∃ born, (gallery.act facet step).1.histograms = gallery.histograms ++ born ∧
      (gallery.Sound → ∀ histogram ∈ born, histogram.Distinct) ∧
      .labelResolved ∉ (gallery.act facet step).2) ∨
    ∃ (number : Nat) (request : Request) (histogram : Histogram) (reached rest : List Bucket),
      gallery.histograms[number]? = some histogram ∧
      request.Progress step.dictionary histogram reached rest
        (request.perform step.dictionary histogram) ∧
      (gallery.act facet step).1.histograms = gallery.histograms.set number
        (request.perform step.dictionary histogram).after ∧
      (gallery.act facet step).2 = (request.perform step.dictionary histogram).events := by
  obtain ⟨use, dictionary⟩ := step
  cases use with
  | count hits =>
    refine Or.inl ⟨_, rfl, fun _ histogram member => ?_, facet.labelResolved_notMem_count _ _⟩
    cases counted : (facet.count gallery.memory hits).result with
    | error error =>
      rw [counted] at member
      cases member
    | ok first =>
      rw [counted] at member
      obtain rfl := List.mem_singleton.mp member
      exact (Facet.unread_of_counted counted).1
  | ask number request =>
    cases there : gallery.histograms[number]? with
    | none =>
      refine Or.inl ⟨[], ?_, fun _ => List.forall_mem_nil _, ?_⟩ <;> simp [act, there]
    | some histogram =>
      obtain ⟨reached, rest, progress⟩ := request.progress dictionary histogram
      exact Or.inr ⟨number, request, histogram, reached, rest, there, progress, by simp [act, there],
        by simp [act, there]⟩
  | copy number =>
    refine Or.inl ⟨_, rfl, fun sound histogram member => ?_, List.not_mem_nil⟩
    exact sound histogram (List.mem_of_getElem? (Option.mem_toList.mp member))

theorem Sound.act (sound : gallery.Sound) : (gallery.act facet step).1.Sound := by
  intro histogram member
  rcases act_cases facet gallery step with
    ⟨born, appended, distinct, _⟩ | ⟨number, request, first, reached, rest, there, progress, changed, _⟩
  · rw [appended, List.mem_append] at member
    exact member.elim (sound histogram) (distinct sound histogram)
  · rw [changed] at member
    rcases List.mem_or_eq_of_mem_set member with old | rfl
    · exact sound histogram old
    · exact progress.distinct (sound first (List.mem_of_getElem? there))

theorem Sound.run (sound : gallery.Sound) (steps : List Step) :
    (gallery.run facet steps).gallery.Sound := by
  induction steps generalizing gallery with
  | nil => exact sound
  | cons step rest ih => exact ih sound.act

/-- A text that was looked up is kept by every step. -/
theorem Sound.text?_act (sound : gallery.Sound) (facet : Facet) (step : Step) {text : String}
    (known : gallery.text? number ordinal = some text) :
    (gallery.act facet step).1.text? number ordinal = some text := by
  obtain ⟨histogram, there, looked⟩ := Option.bind_eq_some_iff.mp known
  have inside := (List.getElem?_eq_some_iff.mp there).1
  rcases act_cases facet gallery step with
    ⟨born, appended, _⟩ | ⟨asked, request, first, reached, rest, atNumber, progress, changed, _⟩
  · rw [text?, appended, List.getElem?_append_left inside, there, Option.bind_some, looked]
  · rw [text?, changed, List.getElem?_set]
    split
    · rename_i same
      subst same
      rw [there] at atNumber
      cases atNumber
      rw [if_pos inside, Option.bind_some]
      exact progress.text?_kept (sound histogram (List.mem_of_getElem? there)) looked
    · rw [there, Option.bind_some, looked]

theorem Sound.text?_run (sound : gallery.Sound) {text : String}
    (known : gallery.text? number ordinal = some text) (steps : List Step) :
    (gallery.run facet steps).gallery.text? number ordinal = some text := by
  induction steps generalizing gallery with
  | nil => exact known
  | cons step rest ih => exact ih sound.act (sound.text?_act facet step known)

theorem mem_newlyAt {before after : Gallery} {place : Nat} :
    (number, ordinal) ∈ before.newlyAt after place ↔
      place = number ∧ number < before.histograms.length ∧ before.text? number ordinal = none ∧
        (after.text? number ordinal).isSome = true := by
  unfold newlyAt text?
  constructor
  · intro member
    split at member
    · rename_i histogram later there thereLater
      obtain ⟨_, listed, same⟩ := List.mem_map.mp member
      cases same
      obtain ⟨unknown, known⟩ := Histogram.mem_newly.mp listed
      rw [there, thereLater]
      exact ⟨rfl, (List.getElem?_eq_some_iff.mp there).1, unknown, known⟩
    · cases member
  · rintro ⟨rfl, inside, unknown, known⟩
    obtain ⟨text, found⟩ := Option.isSome_iff_exists.mp known
    obtain ⟨later, thereLater, looked⟩ := Option.bind_eq_some_iff.mp found
    have there := List.getElem?_eq_getElem inside
    rw [there, Option.bind_some] at unknown
    rw [there, thereLater]
    exact List.mem_map_of_mem (Histogram.mem_newly.mpr ⟨unknown, by rw [looked]; rfl⟩)

theorem mem_newly {before after : Gallery} : (number, ordinal) ∈ before.newly after ↔
    number < before.histograms.length ∧ before.text? number ordinal = none ∧
      (after.text? number ordinal).isSome = true := by
  simp only [newly, List.mem_flatMap, List.mem_range, mem_newlyAt]
  exact ⟨fun ⟨_, _, _, found⟩ => found, fun found => ⟨number, found.1, rfl, found⟩⟩

theorem newly_nodup (before after : Gallery) : (before.newly after).Nodup := by
  refine List.nodup_flatMap.mpr ⟨fun place _ => ?_, List.nodup_range.imp fun {first second} apart => ?_⟩
  · unfold newlyAt
    split
    · exact ((Ascending.ofList_nodup _).filter _).map fun _ _ same => (Prod.mk.inj same).2
    · exact List.nodup_nil
  · refine List.disjoint_left.mpr fun label here there => apart ?_
    exact (mem_newlyAt.mp here).1.trans (mem_newlyAt.mp there).1.symm

/-- Where only one histogram is changed, only its labels are newly looked up. -/
theorem newly_eq_newlyAt {before after : Gallery} (inside : number < before.histograms.length)
    (others : ∀ place, place ≠ number → after.histograms[place]? = before.histograms[place]?) :
    before.newly after = before.newlyAt after number := by
  have silent {places : List Nat} (apart : ∀ place ∈ places, place ≠ number) :
      places.flatMap (before.newlyAt after) = [] := by
    refine List.flatMap_eq_nil_iff.mpr fun place member => ?_
    rw [newlyAt, others place (apart place member)]
    cases before.histograms[place]? with
    | none => rfl
    | some histogram => exact congrArg (List.map (place, ·)) histogram.newly_self
  obtain ⟨below, above, places⟩ := List.append_of_mem (List.mem_range.mpr inside)
  have once := List.nodup_range (n := before.histograms.length)
  rw [places] at once
  obtain ⟨_, later, apart⟩ := List.nodup_append.mp once
  rw [newly, places, List.flatMap_append, List.flatMap_cons,
    silent fun place member => apart place member number List.mem_cons_self,
    silent fun place member same => (List.nodup_cons.mp later).1 (same ▸ member), List.nil_append,
    List.append_nil]

/-- A step reports as many labels as it resolves. -/
theorem Sound.count_act (sound : gallery.Sound) :
    (gallery.act facet step).2.count .labelResolved =
      (gallery.newly (gallery.act facet step).1).length := by
  rcases act_cases facet gallery step with ⟨born, appended, _, silent⟩ |
    ⟨number, request, first, reached, rest, there, progress, changed, reported⟩
  · have nothing : gallery.newly (gallery.act facet step).1 = [] := by
      refine List.eq_nil_iff_forall_not_mem.mpr fun label member => ?_
      obtain ⟨inside, unknown, known⟩ := mem_newly.mp member
      rw [text?, appended, List.getElem?_append_left inside] at known
      rw [text?] at unknown
      rw [unknown] at known
      cases known
    rw [nothing, List.count_eq_zero.mpr silent, List.length_nil]
  · have inside := (List.getElem?_eq_some_iff.mp there).1
    have others (place : Nat) (apart : place ≠ number) :
        (gallery.act facet step).1.histograms[place]? = gallery.histograms[place]? := by
      rw [changed, List.getElem?_set_ne apart.symm]
    have atNumber : (gallery.act facet step).1.histograms[number]? =
        some (request.perform step.dictionary first).after := by
      rw [changed, List.getElem?_set_self inside]
    rw [newly_eq_newlyAt inside others, newlyAt, there, atNumber, List.length_map,
      progress.length_newly (sound first (List.mem_of_getElem? there)), reported, progress.events_eq,
      reports, List.count_replicate_self, List.length_replicate]

section Run

variable (sound : gallery.Sound) (steps : List Step)

include sound

/-- A label that is resolved on the way had no text at the start. -/
theorem Sound.isNone_of_mem_resolved
    (member : (number, ordinal) ∈ (gallery.run facet steps).resolved) :
    gallery.text? number ordinal = none := by
  induction steps generalizing gallery with
  | nil => cases member
  | cons step rest ih =>
    rcases List.mem_append.mp member with now | later
    · exact (mem_newly.mp now).2.1
    · -- A text at the start would have been kept, and the label not resolved later.
      refine Option.eq_none_iff_forall_ne_some.mpr fun text known => ?_
      have still := sound.text?_act facet step known
      rw [ih sound.act later] at still
      cases still

/-- No label is resolved twice. -/
theorem Sound.resolved_nodup : (gallery.run facet steps).resolved.Nodup := by
  induction steps generalizing gallery with
  | nil => exact List.nodup_nil
  | cons step rest ih =>
    refine List.nodup_append.mpr ⟨newly_nodup _ _, ih sound.act, fun label now other later same => ?_⟩
    obtain ⟨_, _, known⟩ := mem_newly.mp now
    rw [same, sound.act.isNone_of_mem_resolved rest later] at known
    cases known

theorem Sound.count_run : (gallery.run facet steps).events.count .labelResolved =
    (gallery.run facet steps).resolved.length := by
  induction steps generalizing gallery with
  | nil => rfl
  | cons step rest ih =>
    rw [Gallery.run, List.count_append, List.length_append, sound.count_act, ih sound.act]

/-- A label has its text at the end if it had it at the start or was resolved on the way. -/
theorem Sound.isSome_text?_run (inside : number < gallery.histograms.length) :
    ((gallery.run facet steps).gallery.text? number ordinal).isSome = true ↔
      (gallery.text? number ordinal).isSome = true ∨
        (number, ordinal) ∈ (gallery.run facet steps).resolved := by
  induction steps generalizing gallery with
  | nil => simp [Gallery.run]
  | cons step rest ih =>
    have longer : gallery.histograms.length ≤ (gallery.act facet step).1.histograms.length := by
      rcases act_cases facet gallery step with ⟨born, appended, _⟩ | ⟨_, _, _, _, _, _, _, changed, _⟩
      · rw [appended, List.length_append]
        omega
      · rw [changed, List.length_set]
    rw [Gallery.run, ih sound.act (by omega), List.mem_append, mem_newly]
    cases before : gallery.text? number ordinal with
    | none => simp [inside]
    | some text => simp [sound.text?_act facet step before]

end Run

theorem sound_fresh : fresh.Sound := List.forall_mem_nil _

/-- Whatever is done with the histograms of a facet, counting looks up no label and copying takes over
what was looked up. A request changes one histogram, up to the first label it needs that does not
resolve, and asks a dictionary only for labels that were not looked up. The text of a label is kept
from then on; every label is resolved once at most, and as many are reported as are resolved. -/
theorem labels_resolve_once {past : List Step}
    (reached : (fresh.run facet past).gallery = gallery) (step : Step) (future : List Step) :
    (∀ histogram ∈ gallery.histograms, histogram.Distinct) ∧
    (∀ hits, step.use = .count hits → .labelResolved ∉ (gallery.act facet step).2 ∧
      ∃ counted, (gallery.act facet step).1.histograms = gallery.histograms ++ counted ∧
        ∀ histogram ∈ counted, ∀ bucket ∈ histogram.buckets, bucket.text? = none) ∧
    (∀ number, step.use = .copy number → (gallery.act facet step).2 = [] ∧
      (gallery.act facet step).1.histograms =
        gallery.histograms ++ gallery.histograms[number]?.toList) ∧
    (∀ number request histogram, step.use = .ask number request →
      gallery.histograms[number]? = some histogram →
        (gallery.act facet step).1.histograms =
          gallery.histograms.set number (request.perform step.dictionary histogram).after ∧
        (gallery.act facet step).2 = (request.perform step.dictionary histogram).events ∧
        (∃ reached rest, request.Progress step.dictionary histogram reached rest
          (request.perform step.dictionary histogram)) ∧
        ∀ other, histogram.Agree other step.dictionary →
          request.perform other histogram = request.perform step.dictionary histogram) ∧
    (∀ number ordinal text, gallery.text? number ordinal = some text →
      (gallery.run facet future).gallery.text? number ordinal = some text) ∧
    (gallery.run facet future).resolved.Nodup ∧
    (gallery.run facet future).events.count .labelResolved =
      (gallery.run facet future).resolved.length ∧
    ∀ number ordinal, number < gallery.histograms.length →
      (((gallery.run facet future).gallery.text? number ordinal).isSome = true ↔
        (gallery.text? number ordinal).isSome = true ∨
          (number, ordinal) ∈ (gallery.run facet future).resolved) := by
  have sound : gallery.Sound := reached ▸ sound_fresh.run past
  obtain ⟨use, dictionary⟩ := step
  refine ⟨sound, ?_, ?_, ?_, fun number ordinal text known => sound.text?_run known future,
    sound.resolved_nodup future, sound.count_run future,
    fun number ordinal => sound.isSome_text?_run future⟩
  · rintro hits rfl
    refine ⟨facet.labelResolved_notMem_count _ _, _, rfl, fun histogram member => ?_⟩
    cases counted : (facet.count gallery.memory hits).result with
    | error error =>
      rw [counted] at member
      cases member
    | ok first =>
      rw [counted] at member
      obtain rfl := List.mem_singleton.mp member
      exact (Facet.unread_of_counted counted).2
  · rintro number rfl
    exact ⟨rfl, rfl⟩
  · rintro number request histogram rfl there
    exact ⟨by simp [act, there], by simp [act, there], request.progress dictionary histogram,
      fun other agree => Request.perform_congr agree request⟩

/-- A colour that was looked up keeps its name. -/
theorem labels_resolve_once_market :
    let given := GivenTerms.sets [["red", "blue", "red"], [], ["green"], ["blue", "white"]]
    let table := (TableIndex.new 3).withGiven "colour" given
    ∃ facet : Facet, table.toIndex.facet .default "colour" .linear = .ok facet ∧
      ∀ gallery, gallery = (fresh.run facet [⟨.count TableIndex.marketHits, facet.dictionary⟩,
          ⟨.ask 0 (.resolve 0), facet.dictionary⟩]).gallery →
        gallery.text? 0 0 = some "blue" ∧
          ∀ future, (gallery.run facet future).gallery.text? 0 0 = some "blue" := by
  intro given table
  refine ⟨_, rfl, fun gallery reached => ?_⟩
  have known : gallery.text? 0 0 = some "blue" := by
    subst reached
    decide +kernel
  exact ⟨known, fun future =>
    (labels_resolve_once reached.symm ⟨.copy 0, .empty⟩ future).2.2.2.2.1 0 0 "blue" known⟩

end Gallery

end Facets
