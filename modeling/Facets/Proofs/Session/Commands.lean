import Facets.Proofs.Activity.Listening
import Facets.Session.Run

/-!
Commands that run no others.
-/

namespace Facets

/-- A command that runs no others and does not ask for the counters or reset them. -/
def Command.IsPlain : Command → Prop
  | .under _ _ | .report _ | .reset => False
  | _ => True

/-- An answer that neither contains others nor shows the counters. -/
def Answer.IsPlain : Answer → Prop
  | .listened _ _ | .report _ => False
  | _ => True

namespace Session

/-- The events of an attempt on a histogram. -/
def reportedBy {α : Type} (session : Session) (name : String)
    (act : Dictionary → Histogram → Attempt Histogram α) : List Event :=
  match session.histograms.lookup name with
  | some kept => (act kept.dictionary kept.histogram).events
  | none => []

/-- The events of a command that runs no others. -/
def reported (session : Session) : Command → List Event
  | .count name hits =>
    match session.facets.lookup name, session.hits hits with
    | some (facet, memory), .ok hits => (facet.count memory hits).trace.events
    | _, _ => []
  | .narrow name hits ordinals _ =>
    match session.facets.lookup name, session.hits hits with
    | some (facet, memory), .ok hits =>
      (facet.narrow memory hits (session.ordinals ordinals)).trace.events
    | _, _ => []
  | .render name => session.reportedBy name Histogram.renderAll
  | .renderWith name format =>
    session.reportedBy name fun dictionary => Histogram.renderValues dictionary format
  | .sort name => session.reportedBy name Histogram.sortByMoney
  | .label name ordinal =>
    match session.histograms.lookup name with
    | some kept =>
      match kept.histogram.bucket? ordinal with
      | some { descriptor := .label label, .. } => (label.probe kept.dictionary).2.2
      | _ => []
    | none => []
  | _ => []

variable {session : Session}

/-- What is done with a session does not depend on its recorder, and leaves some events there. -/
structure Acts (act : Session → Answer × Session) (session : Session) (events : List Event) :
    Prop where
  apart : ∀ recorder listeners, act { session with recorder, listeners } =
    ((act session).1,
      { (act session).2 with recorder := recorder.recordAll events, listeners })
  plain : (act session).1.IsPlain

theorem Acts.recorder {act : Session → Answer × Session} {events : List Event}
    (acts : Acts act session events) :
    (act session).2.recorder = session.recorder.recordAll events :=
  congrArg (·.2.recorder) (acts.apart session.recorder session.listeners)

theorem Acts.listeners {act : Session → Answer × Session} {events : List Event}
    (acts : Acts act session events) : (act session).2.listeners = session.listeners :=
  congrArg (·.2.listeners) (acts.apart session.recorder session.listeners)

theorem Acts.of_eq {act same : Session → Answer × Session} {events : List Event}
    (acts : Acts act session events)
    (eq : ∀ recorder listeners,
      same { session with recorder, listeners } = act { session with recorder, listeners }) :
    Acts same session events := by
  have here : same session = act session := eq session.recorder session.listeners
  constructor
  · intro recorder listeners
    rw [eq, here]
    exact acts.apart recorder listeners
  · rw [here]
    exact acts.plain

theorem acts_answer {answer : Answer} (plain : answer.IsPlain) :
    Acts (fun session => (answer, session)) session [] :=
  ⟨fun _ _ => rfl, plain⟩

theorem acts_withFacet {name : String} {act : Session → Facet → FacetMemory → Answer × Session}
    {events : List Event} (absent : session.facets.lookup name = none → events = [])
    (present : ∀ facet memory, session.facets.lookup name = some (facet, memory) →
      Acts (fun session => act session facet memory) session events) :
    Acts (fun session => session.withFacet name (act session)) session events := by
  cases found : session.facets.lookup name with
  | none =>
    cases absent found
    have acts : Acts (fun session => (Answer.noFacet, session)) session [] := acts_answer trivial
    exact acts.of_eq fun _ _ => by simp only [withFacet, found]
  | some entry =>
    exact (present entry.1 entry.2 found).of_eq fun _ _ => by simp only [withFacet, found]

theorem acts_withHistogram {name : String} {act : Session → KeptHistogram → Answer × Session}
    {events : List Event} (absent : session.histograms.lookup name = none → events = [])
    (present : ∀ kept, session.histograms.lookup name = some kept →
      Acts (fun session => act session kept) session events) :
    Acts (fun session => session.withHistogram name (act session)) session events := by
  cases found : session.histograms.lookup name with
  | none =>
    cases absent found
    have acts : Acts (fun session => (Answer.noHistogram, session)) session [] := acts_answer trivial
    exact acts.of_eq fun _ _ => by simp only [withHistogram, found]
  | some kept =>
    exact (present kept found).of_eq fun _ _ => by simp only [withHistogram, found]

theorem acts_bind (place : Workplace) (name field : String) (mode : Option Mode) :
    Acts (fun session => session.bind place name field mode) session [] := by
  constructor
  · intro recorder listeners
    simp only [bind]
    cases place.index.facet place.settings field (mode.getD place.settings.defaultMode) <;> rfl
  · simp only [bind]
    cases place.index.facet place.settings field (mode.getD place.settings.defaultMode) <;> trivial

theorem hits_apart (session : Session) (source : HitSource) (recorder : Recorder)
    (listeners : Nat) : { session with recorder, listeners }.hits source = session.hits source := by
  cases source <;> rfl

theorem ordinals_apart (session : Session) (source : OrdinalSource) (recorder : Recorder)
    (listeners : Nat) :
    { session with recorder, listeners }.ordinals source = session.ordinals source := by
  cases source <;> rfl

theorem acts_count (name : String) (source : HitSource) :
    Acts (fun session => session.count name source) session
      (session.reported (.count name source)) := by
  refine acts_withFacet (fun absent => by simp only [reported, absent]) fun facet memory found => ?_
  simp only [reported, found]
  cases given : session.hits source with
  | error failure =>
    have acts : Acts (fun session => (Answer.failed failure, session)) session [] :=
      acts_answer trivial
    exact acts.of_eq fun _ _ => by simp only [hits_apart, given]
  | ok hits =>
    constructor
    · intro recorder listeners
      simp only [hits_apart, given]
      cases (facet.count memory hits).result <;> rfl
    · simp only [given]
      cases (facet.count memory hits).result <;> trivial

theorem acts_narrow (name : String) (source : HitSource) (ordinals : OrdinalSource)
    (save : Option String) :
    Acts (fun session => session.narrow name source ordinals save) session
      (session.reported (.narrow name source ordinals save)) := by
  refine acts_withFacet (fun absent => by simp only [reported, absent]) fun facet memory found => ?_
  simp only [reported, found]
  cases given : session.hits source with
  | error failure =>
    have acts : Acts (fun session => (Answer.failed failure, session)) session [] :=
      acts_answer trivial
    exact acts.of_eq fun _ _ => by simp only [hits_apart, given]
  | ok hits =>
    constructor
    · intro recorder listeners
      simp only [hits_apart, ordinals_apart, given]
      cases (facet.narrow memory hits (session.ordinals ordinals)).result <;> cases save <;> rfl
    · simp only [given]
      cases (facet.narrow memory hits (session.ordinals ordinals)).result <;> trivial

theorem acts_attempt {α : Type} (name : String)
    (act : Dictionary → Histogram → Attempt Histogram α) (answer : Histogram → α → Answer)
    (plain : ∀ histogram value, (answer histogram value).IsPlain) :
    Acts (fun session => session.attempt name act answer) session
      (session.reportedBy name act) := by
  refine acts_withHistogram (fun absent => by simp only [reportedBy, absent]) fun kept found => ?_
  simp only [reportedBy, found]
  constructor <;> cases (act kept.dictionary kept.histogram).result
  · exact fun _ _ => rfl
  · exact fun _ _ => rfl
  · trivial
  · exact plain _ _

theorem acts_withLabel {name : String} {ordinal : Ordinal}
    {act : Session → KeptHistogram → Label → Answer × Session}
    (present : ∀ kept label, Acts (fun session => act session kept label) session []) :
    Acts (fun session => session.withLabel name ordinal (act session)) session [] := by
  refine acts_withHistogram (fun _ => rfl) fun kept _ => ?_
  split
  · exact acts_answer trivial
  · exact present kept _
  · exact acts_answer trivial

theorem acts_label (name : String) (ordinal : Ordinal) :
    Acts (fun session => session.label name ordinal) session
      (session.reported (.label name ordinal)) := by
  refine acts_withHistogram (fun absent => by simp only [reported, absent]) fun kept found => ?_
  simp only [reported, found]
  rcases kept.histogram.bucket? ordinal with _ | ⟨_, descriptor, _⟩
  · exact acts_answer trivial
  · cases descriptor with
    | label label => exact ⟨fun _ _ => rfl, trivial⟩
    | _ => exact acts_answer trivial

theorem events_soughtBy (queries : List DictionaryQuery) : (soughtBy queries).events = [] := by
  rw [Trace.events, soughtBy, List.filterMap_filterMap, List.filterMap_eq_nil_iff]
  intro query _
  cases query <;> rfl

theorem acts_ask (dictionary : Except SourceError (Option Dictionary))
    (queries : List DictionaryQuery) :
    Acts (fun session => session.ask dictionary queries) session [] := by
  match dictionary with
  | .error error => exact acts_answer trivial
  | .ok none => exact acts_answer trivial
  | .ok (some dictionary) =>
    constructor
    · intro recorder listeners
      simp only [ask, note, events_soughtBy]
    · trivial

theorem acts_askTerms (place : Workplace) (field : String) (queries : List DictionaryQuery) :
    Acts (fun session => askTerms place session field queries) session [] := by
  simp only [askTerms]
  split
  · exact acts_answer trivial
  · exact acts_answer trivial
  · exact acts_ask _ queries

theorem read_isPlain (place : Workplace) (field : String) (rows : List RowId) :
    (read place field rows).IsPlain := by
  rw [read]
  split
  · trivial
  · trivial
  · split <;> trivial

theorem tables_isPlain (place : Workplace) (session : Session) (field : String)
    (terms composites : List String) : (tables place session field terms composites).IsPlain := by
  rw [tables]
  split <;> trivial

/-- Who listens makes no difference to a command that runs no others. -/
theorem acts_run (place : Workplace) (session : Session) {command : Command}
    (plain : command.IsPlain) :
    Acts (fun session => run place session command) session (session.reported command) := by
  cases command with
  | bind name field mode => exact acts_bind place name field mode
  | facet name => exact acts_withFacet (fun _ => rfl) fun _ _ _ => acts_answer trivial
  | count name hits => exact acts_count name hits
  | narrow name hits ordinals save => exact acts_narrow name hits ordinals save
  | describe name => exact acts_withFacet (fun _ => rfl) fun _ _ _ => acts_answer trivial
  | render name => exact acts_attempt name _ (fun _ texts => .texts texts) fun _ _ => trivial
  | renderWith name format =>
    exact acts_attempt name (fun dictionary => Histogram.renderValues dictionary format)
      (fun _ texts => .texts texts) fun _ _ => trivial
  | counts name ordinals => exact acts_withHistogram (fun _ => rfl) fun _ _ => acts_answer trivial
  | label name ordinal => exact acts_label name ordinal
  | describeLabel name ordinal => exact acts_withLabel fun _ _ => acts_answer trivial
  | sort name =>
    exact acts_attempt name _ (fun histogram _ => .histogram histogram) fun _ _ => trivial
  | histogram name => exact acts_withHistogram (fun _ => rfl) fun _ _ => acts_answer trivial
  | copy name newName =>
    exact acts_withHistogram (fun _ => rfl) fun _ _ => ⟨fun _ _ => rfl, trivial⟩
  | drain name => exact acts_withHistogram (fun _ => rfl) fun _ _ => ⟨fun _ _ => rfl, trivial⟩
  | under listener commands => exact plain.elim
  | report since => exact plain.elim
  | reset => exact plain.elim
  | settings => exact acts_answer trivial
  | traits field => exact acts_answer trivial
  | rowsOf items => exact acts_answer trivial
  | read field rows => exact acts_answer (read_isPlain place field rows)
  | terms field queries => exact acts_askTerms place field queries
  | groups field queries => exact acts_ask _ queries
  | tables field terms composites =>
    exact ⟨fun _ _ => rfl, tables_isPlain place session field terms composites⟩

end Session

end Facets
