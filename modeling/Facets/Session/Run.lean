import Facets.Facet.Describe
import Facets.Index.Table
import Facets.Session.Command

/-!
Running commands. A command that fails answers its failure and the session goes on. Histograms
outlive the facet that produced them, with the dictionary of its labels.
-/

namespace Facets

/-- What a session works on: an index, the tables behind it if it has any, the settings, and the time
at which it runs. -/
structure Workplace where
  index : Index
  tables : Option TableIndex
  settings : Settings
  now : Nat

structure KeptHistogram where
  histogram : Histogram
  dictionary : Dictionary

structure Session where
  facets : List (String × Facet × FacetMemory)
  histograms : List (String × KeptHistogram)
  saved : List (String × Hits)
  recorder : Recorder
  /-- How many terms have been looked for in dictionaries. -/
  soughtTerms : Nat
  /-- The first number that no listener has. -/
  listeners : Nat

namespace Session

def new (now : Nat) : Session := ⟨[], [], [], .new now, 0, 0⟩

/-- Keeps a value under a name in place of the one before. -/
def put {α : Type} (name : String) (value : α) (entries : List (String × α)) : List (String × α) :=
  (name, value) :: entries.filter fun entry => entry.1 != name

def remove {α : Type} (name : String) (entries : List (String × α)) : List (String × α) :=
  entries.filter fun entry => entry.1 != name

def note (session : Session) (trace : Trace) : Session :=
  { session with
    recorder := session.recorder.recordAll trace.events
    soughtTerms := session.soughtTerms + trace.terms.length }

def noteEvents (session : Session) (events : List Event) : Session :=
  { session with recorder := session.recorder.recordAll events }

def keepHistogram (session : Session) (name : String) (kept : KeptHistogram) : Session :=
  { session with histograms := put name kept session.histograms }

def keepFacet (session : Session) (name : String) (facet : Facet) (memory : FacetMemory) :
    Session :=
  { session with facets := put name (facet, memory) session.facets }

/-- The result set a command names. One that was never saved is empty. -/
def hits (session : Session) : HitSource → Except Failure Hits
  | .items items => .ok (Hits.ofItems items)
  | .scored items scores => Hits.ofParallel items scores
  | .saved name => .ok ((session.saved.lookup name).getD [])

/-- The ordinals a command names. A histogram that is not there has none. -/
def ordinals (session : Session) : OrdinalSource → List Ordinal
  | .given ordinals => ordinals
  | .ofHistogram name =>
    match session.histograms.lookup name with
    | some kept => kept.histogram.ordinals
    | none => []

def view (facet : Facet) (memory : FacetMemory) : FacetView where
  field := facet.field
  mode := facet.mode
  traits := facet.traits
  shape := facet.shape?
  isEvent := facet.isEvent
  scale := memory.scale
  format := facet.format

/-- Drops the facet of a name and opens another one. -/
def bind (place : Workplace) (session : Session) (name field : String) (mode : Option Mode) :
    Answer × Session :=
  let session := { session with facets := remove name session.facets }
  match place.index.facet place.settings field (mode.getD place.settings.defaultMode) with
  | .error error => (.failed error.failure, session)
  | .ok facet => (.facet (view facet .fresh), session.keepFacet name facet .fresh)

def withFacet (session : Session) (name : String)
    (act : Facet → FacetMemory → Answer × Session) : Answer × Session :=
  match session.facets.lookup name with
  | some (facet, memory) => act facet memory
  | none => (.noFacet, session)

def withHistogram (session : Session) (name : String)
    (act : KeptHistogram → Answer × Session) : Answer × Session :=
  match session.histograms.lookup name with
  | some kept => act kept
  | none => (.noHistogram, session)

def count (session : Session) (name : String) (source : HitSource) : Answer × Session :=
  session.withFacet name fun facet memory =>
    match session.hits source with
    | .error failure => (.failed failure, session)
    | .ok hits =>
      let pass := facet.count memory hits
      let session := (session.keepFacet name facet pass.memory).note pass.trace
      match pass.result with
      | .error error => (.failed error.failure, session)
      | .ok histogram =>
        (.counted histogram pass.memory.scale,
          session.keepHistogram name ⟨histogram, facet.dictionary⟩)

def narrow (session : Session) (name : String) (source : HitSource) (ordinals : OrdinalSource)
    (save : Option String) : Answer × Session :=
  session.withFacet name fun facet memory =>
    match session.hits source with
    | .error failure => (.failed failure, session)
    | .ok hits =>
      let pass := facet.narrow memory hits (session.ordinals ordinals)
      let session := (session.keepFacet name facet pass.memory).note pass.trace
      match pass.result with
      | .error error => (.failed error.failure, session)
      | .ok selected =>
        let session := match save with
          | some saveName => { session with saved := put saveName selected session.saved }
          | none => session
        (.narrowed selected pass.memory.scale, session)

/-- Makes an attempt on a histogram and keeps what has become of it. -/
def attempt {α : Type} (session : Session) (name : String)
    (act : Dictionary → Histogram → Attempt Histogram α) (answer : Histogram → α → Answer) :
    Answer × Session :=
  session.withHistogram name fun kept =>
    let attempt := act kept.dictionary kept.histogram
    let session := (session.keepHistogram name { kept with histogram := attempt.after }).noteEvents
      attempt.events
    match attempt.result with
    | .ok value => (answer attempt.after value, session)
    | .error error => (.failed error.failure, session)

/-- The buckets of a histogram with the label of one of them replaced. -/
def replaceLabel (ordinal : Ordinal) (label : Label) : List Bucket → List Bucket
  | [] => []
  | bucket :: rest =>
    if bucket.ordinal == ordinal then { bucket with descriptor := .label label } :: rest
    else bucket :: replaceLabel ordinal label rest

/-- Does something with the label of a bucket, if the bucket is there and has one. -/
def withLabel (session : Session) (name : String) (ordinal : Ordinal)
    (act : KeptHistogram → Label → Answer × Session) : Answer × Session :=
  session.withHistogram name fun kept =>
    match kept.histogram.bucket? ordinal with
    | none => (.done, session)
    | some { descriptor := .label label, .. } => act kept label
    | some _ => (.notALabel, session)

def label (session : Session) (name : String) (ordinal : Ordinal) : Answer × Session :=
  session.withLabel name ordinal fun kept label =>
    let (view, after, events) := label.probe kept.dictionary
    let histogram := { kept.histogram with
      buckets := replaceLabel ordinal after kept.histogram.buckets }
    (.label view, (session.keepHistogram name { kept with histogram }).noteEvents events)

def readRows (column : Column) (rows : List RowId) : Except SourceError (List RowView) :=
  match column with
  | .numeric (.single cursor) => (cursor 0).map fun cursor => (cursor.readAll rows).map fun
    | .ok value => .word value
    | .error complaint => .complaint complaint
  | .numeric (.set cursor) => (cursor 0).map fun cursor => (cursor.readAll rows).map fun
    | ⟨values, none⟩ => .words values
    | ⟨_, some complaint⟩ => .complaint complaint
  | .enumerated ⟨_, _, .single cursor⟩ => (cursor 0).map fun cursor => (cursor.readAll rows).map fun
    | .ok value => .ordinal value
    | .error complaint => .complaint complaint
  | .enumerated ⟨_, _, .set cursor⟩ => (cursor 0).map fun cursor => (cursor.readAll rows).map fun
    | ⟨values, none⟩ => .ordinals values
    | ⟨_, some complaint⟩ => .complaint complaint

def read (place : Workplace) (field : String) (rows : List RowId) : Answer :=
  match place.index.column field with
  | .error error => .failed error.failure
  | .ok none => .done
  | .ok (some column) =>
    match readRows column rows with
    | .error error => .failed error.failure
    | .ok views => .column column.shape column.size? views

def DictionaryQuery.answer (dictionary : Dictionary) : DictionaryQuery → DictionaryView
  | .termAt ordinal =>
    match dictionary.termAt ordinal with
    | .ok text => .term text
    | .error error => .complaint error
  | .find term =>
    match dictionary.find term with
    | .ok ordinal => .ordinal ordinal
    | .error error => .complaint error
  | .size => .size dictionary.size

def soughtBy (queries : List DictionaryQuery) : Trace :=
  queries.filterMap fun
    | .find term => some (.sought term)
    | _ => none

/-- Asks a dictionary, if there is one and it opens. -/
def ask (session : Session) (dictionary : Except SourceError (Option Dictionary))
    (queries : List DictionaryQuery) : Answer × Session :=
  match dictionary with
  | .error error => (.sourceFailed error, session)
  | .ok none => (.done, session)
  | .ok (some dictionary) =>
    (.dictionary (queries.map (DictionaryQuery.answer dictionary)), session.note (soughtBy queries))

def askTerms (place : Workplace) (session : Session) (field : String)
    (queries : List DictionaryQuery) : Answer × Session :=
  match place.index.column field with
  | .error error => (.failed error.failure, session)
  | .ok none => (.done, session)
  | .ok (some column) => session.ask (column.dictionary? 0) queries

def tables (place : Workplace) (session : Session) (field : String)
    (terms composites : List String) : Answer :=
  match place.tables with
  | none => .done
  | some table => .tables table.documents session.soughtTerms
      (terms.map (table.termOrdinal? field)) (composites.map (table.groupOrdinal? field))

/-- The number of a listener, which is the next one for a new listener. -/
def numberOf (session : Session) (listener : Option Listener) : Listener :=
  listener.getD session.listeners

/-- Gives the turn to a listener. -/
def enter (session : Session) (listener : Listener) : Session :=
  { session with
    listeners := max session.listeners (listener + 1)
    recorder := session.recorder.giveTurn (some listener) }

mutual

/-- Runs a command. What is done under a listener always comes to its end here, and the turn goes back to
the listener before it; that it also goes back where a scope is left by unwinding has no counterpart, as
no command unwinds. -/
def run (place : Workplace) (session : Session) : Command → Answer × Session
  | .bind name field mode => session.bind place name field mode
  | .facet name => session.withFacet name fun facet memory => (.facet (view facet memory), session)
  | .count name hits => session.count name hits
  | .narrow name hits ordinals save => session.narrow name hits ordinals save
  | .describe name =>
    session.withFacet name fun facet memory => (.text (facet.describe memory), session)
  | .render name => session.attempt name Histogram.renderAll fun _ texts => .texts texts
  | .renderWith name format =>
    session.attempt name (fun dictionary => Histogram.renderValues dictionary format)
      fun _ texts => .texts texts
  | .counts name ordinals => session.withHistogram name fun kept =>
    (.numbers (ordinals.map fun ordinal => (kept.histogram.bucket? ordinal).map (·.count)), session)
  | .label name ordinal => session.label name ordinal
  | .describeLabel name ordinal =>
    session.withLabel name ordinal fun _ label => (.text label.describe, session)
  | .sort name => session.attempt name Histogram.sortByMoney fun histogram _ => .histogram histogram
  | .histogram name => session.withHistogram name fun kept => (.histogram kept.histogram, session)
  | .copy name newName => session.withHistogram name fun kept =>
    (.done, session.keepHistogram newName kept)
  | .drain name => session.withHistogram name fun kept =>
    (.drained (kept.histogram.buckets.map fun bucket => (bucket.ordinal, bucket.count)),
      { session with histograms := remove name session.histograms })
  | .under listener commands =>
    let listener := session.numberOf listener
    let before := session.recorder.turn
    let (answers, after) := runAll place (session.enter listener) commands
    (.listened answers (after.recorder.heardBy listener),
      { after with recorder := after.recorder.giveTurn before })
  | .report since => (.report (session.recorder.counters.report since), session)
  | .reset => (.done, { session with recorder := session.recorder.reset place.now })
  | .settings => (.settings place.settings, session)
  | .traits field => (.traits (place.index.traits field), session)
  | .rowsOf items => (.numbers (items.map place.index.rowOf), session)
  | .read field rows => (read place field rows, session)
  | .terms field queries => askTerms place session field queries
  | .groups field queries => session.ask (place.index.groups field) queries
  | .tables field terms composites => (tables place session field terms composites, session)

def runAll (place : Workplace) (session : Session) : List Command → List Answer × Session
  | [] => ([], session)
  | command :: rest =>
    let (answer, session) := run place session command
    let (answers, session) := runAll place session rest
    (answer :: answers, session)

end

def answers (place : Workplace) (commands : List Command) : List Answer :=
  (runAll place (new place.now) commands).1

end Session

end Facets
