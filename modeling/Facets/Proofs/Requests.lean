import Facets.Proofs.Sorting
import Facets.Session.Run

/-!
Requests of a histogram that may need labels: the texts of all buckets or of one, the label of one, or
an order by amounts. A request asks for the labels it needs in the order of the buckets. It ends at the
first that does not resolve, and its answer is read off the labels as they are kept.
-/

namespace Facets

inductive Request where
  | renderAll
  | renderValue (ordinal : Ordinal) (format : NumberFormat)
  | resolve (ordinal : Ordinal)
  | sortByMoney

/-- Makes an attempt on the bucket of an ordinal, if it is there, and leaves the others alone. -/
def Histogram.attemptAt (ordinal : Ordinal) (attempt : Bucket → Attempt Bucket (Option String))
    (histogram : Histogram) : Attempt Histogram (List String) :=
  ((Attempt.each (fun bucket =>
    if bucket.ordinal == ordinal then attempt bucket else .succeed bucket none)
      histogram.buckets).map fun texts => texts.filterMap id).mapAfter
    fun buckets => { histogram with buckets }

/-- The text of a bucket without its count, if its label, where it has one, was looked up. -/
def Bucket.shown? (format : NumberFormat) (bucket : Bucket) : Option String :=
  match bucket.descriptor with
  | .range start stop => some (rangeText format start stop)
  | .value x => some (format.number x)
  | .label label => label.resolved

/-- The text of a bucket with its count, if its label, where it has one, was looked up. -/
def Bucket.shownCounted? (format : NumberFormat) (bucket : Bucket) : Option String :=
  (bucket.shown? format).map fun text => text ++ " (" ++ toString bucket.count ++ ")"

namespace Request

/-- Makes a request. The answer is the texts that were asked for. -/
def perform (dictionary : Dictionary) (histogram : Histogram) :
    Request → Attempt Histogram (List String)
  | renderAll => histogram.renderAll dictionary
  | renderValue ordinal format =>
    histogram.attemptAt ordinal fun bucket => (bucket.renderValue dictionary format).map some
  | resolve ordinal => histogram.attemptAt ordinal (Bucket.ask dictionary)
  | sortByMoney => (histogram.sortByMoney dictionary).map fun _ => []

/-- Whether a request needs the label of a bucket, if it has one. -/
def needs : Request → Bucket → Bool
  | renderAll, _ => true
  | renderValue ordinal _, bucket | resolve ordinal, bucket => bucket.ordinal == ordinal
  | sortByMoney, bucket => bucket.isMoney

/-- The texts that a request answers when the labels it needs are known. -/
def shown (histogram : Histogram) : Request → List String
  | renderAll => histogram.buckets.filterMap (Bucket.shownCounted? histogram.format)
  | renderValue ordinal format =>
    histogram.buckets.filterMap fun bucket =>
      if bucket.ordinal == ordinal then bucket.shown? format else none
  | resolve ordinal =>
    histogram.buckets.filterMap fun bucket => if bucket.ordinal == ordinal then bucket.text? else none
  | sortByMoney => []

/-- How far a request comes: it asks the buckets it reaches for their labels, as far as it needs them,
and changes nothing else but their order, and that only if it is to sort them and reaches all. -/
structure Progress (request : Request) (dictionary : Dictionary) (histogram : Histogram)
    (reached rest : List Bucket) (outcome : Attempt Histogram (List String)) : Prop where
  split : histogram.buckets = reached ++ rest
  clear : Clear dictionary request.needs reached
  after_eq : outcome.after = { histogram with buckets := outcome.after.buckets }
  perm : outcome.after.buckets.Perm (reached.map (Bucket.askedIf request.needs dictionary) ++ rest)
  still : request ≠ .sortByMoney ∨ rest ≠ [] →
    outcome.after.buckets = reached.map (Bucket.askedIf request.needs dictionary) ++ rest
  events_eq : outcome.events = reports dictionary request.needs reached
  stops : rest = [] ∧ outcome.result = .ok (request.shown outcome.after) ∨
    ∃ bucket later error, rest = bucket :: later ∧ request.needs bucket = true ∧
      bucket.refusal? dictionary = some error ∧ outcome.result = .error error

end Request

namespace Bucket

variable {dictionary : Dictionary} {bucket : Bucket}

/-- The text of a bucket is that of its label, if it has one. -/
theorem renderValue_eq (dictionary : Dictionary) (format : NumberFormat) (bucket : Bucket) :
    bucket.renderValue dictionary format = (bucket.ask dictionary).map fun text =>
      (text.or (bucket.shown? format)).getD "" := by
  obtain ⟨ordinal, descriptor, count⟩ := bucket
  cases descriptor with
  | range | value => rfl
  | label label =>
    simp only [renderValue, ask, Attempt.map, Attempt.mapAfter]
    cases (label.resolve dictionary).result <;> rfl

theorem asks_renderValue (dictionary : Dictionary) (format : NumberFormat) :
    Asks dictionary (fun _ => true) (Bucket.renderValue dictionary format) :=
  (asks_ask dictionary).map _ (renderValue_eq dictionary format)

theorem asks_render (dictionary : Dictionary) (format : NumberFormat) :
    Asks dictionary (fun _ => true) (Bucket.render dictionary format) :=
  (asks_renderValue dictionary format).map _ fun _ => rfl

theorem shown?_asked_of_label? (labelled : bucket.label?.isSome = true) (format : NumberFormat) :
    (bucket.asked dictionary).shown? format = (bucket.asked dictionary).text? := by
  obtain ⟨ordinal, descriptor, count⟩ := bucket
  cases descriptor with
  | range | value => cases labelled
  | label label => rfl

/-- The text that is answered is the one that is kept. -/
theorem shown?_of_renderValue {format : NumberFormat} {text : String}
    (answer : (bucket.renderValue dictionary format).result = .ok text) :
    (bucket.asked dictionary).shown? format = some text := by
  rw [renderValue_eq] at answer
  obtain ⟨found, asked, rfl⟩ := exists_of_map_ok answer
  have kept := text?_of_ask asked
  obtain ⟨ordinal, descriptor, count⟩ := bucket
  cases descriptor with
  | range | value =>
    cases asked
    rfl
  | label label =>
    rw [shown?_asked_of_label? rfl, kept]
    simp only [ask, Label.resolve_eq, Attempt.map, Attempt.mapAfter] at asked
    obtain ⟨text, _, rfl⟩ := exists_of_map_ok asked
    rfl

theorem shownCounted?_of_render {format : NumberFormat} {text : String}
    (answer : (bucket.render dictionary format).result = .ok text) :
    (bucket.asked dictionary).shownCounted? format = some text := by
  obtain ⟨value, rendered, rfl⟩ := exists_of_map_ok answer
  rw [shownCounted?, shown?_of_renderValue rendered, count_asked, Option.map_some]

theorem ask_congr {other : Dictionary}
    (agree : ∀ label, bucket.label? = some label → label.resolved = none →
      other.label label.ordinal = dictionary.label label.ordinal) :
    bucket.ask other = bucket.ask dictionary := by
  obtain ⟨ordinal, descriptor, count⟩ := bucket
  cases descriptor with
  | range | value => rfl
  | label label =>
    have same : label.text other = label.text dictionary := by
      unfold Label.text
      split
      · rfl
      · exact agree label rfl ‹_›
    have resolves : label.resolve other = label.resolve dictionary := by
      rw [Label.resolve_eq, Label.resolve_eq, Label.asked, Label.asked, Label.resolvesAnew,
        Label.resolvesAnew, same]
    simp only [ask, resolves]

/-- A label that needs to be asked has its text afterwards, but not before, if it is looked up anew. -/
theorem isSome_text?_askedIf (needs : Bucket → Bool) :
    (bucket.text?.isNone && (bucket.askedIf needs dictionary).text?.isSome) =
      (needs bucket && bucket.resolvesAnew dictionary) := by
  unfold askedIf
  cases needs bucket with
  | false =>
    rw [if_neg Bool.false_ne_true, Bool.false_and]
    cases bucket.text? <;> rfl
  | true =>
    rw [if_pos rfl, text?_asked, text?, resolvesAnew, Bool.true_and]
    cases bucket.label? with
    | none => rfl
    | some label =>
      simp only [Option.bind_some, Option.any_some, Label.resolvesAnew, Label.isResolved]
      cases label.resolved <;> cases label.text dictionary <;> rfl

end Bucket

theorem Attempt.each_congr {σ α : Type} {attempt other : σ → Attempt σ α} {xs : List σ}
    (same : ∀ x ∈ xs, attempt x = other x) : each attempt xs = each other xs := by
  induction xs with
  | nil => rfl
  | cons x rest ih =>
    obtain ⟨here, later⟩ := List.forall_mem_cons.mp same
    simp only [each, here, ih later]

namespace Histogram

/-- The text of the label of an ordinal's bucket, if it was looked up. -/
def text? (histogram : Histogram) (ordinal : Ordinal) : Option String :=
  (histogram.bucket? ordinal).bind Bucket.text?

/-- The ordinals whose labels were looked up between two states of a histogram. -/
def newly (before after : Histogram) : List Ordinal :=
  after.ordinals.filter fun ordinal =>
    (before.text? ordinal).isNone && (after.text? ordinal).isSome

/-- Two dictionaries say the same of those labels of a histogram that were not looked up. -/
def Agree (histogram : Histogram) (first second : Dictionary) : Prop :=
  ∀ bucket ∈ histogram.buckets, ∀ label, bucket.label? = some label → label.resolved = none →
    first.label label.ordinal = second.label label.ordinal

theorem attemptAt_congr {histogram : Histogram} (ordinal : Ordinal)
    {attempt other : Bucket → Attempt Bucket (Option String)}
    (same : ∀ bucket ∈ histogram.buckets, attempt bucket = other bucket) :
    histogram.attemptAt ordinal attempt = histogram.attemptAt ordinal other := by
  rw [attemptAt, attemptAt, Attempt.each_congr fun bucket member => ?_]
  rw [same bucket member]

theorem mem_newly {before after : Histogram} {ordinal : Ordinal} :
    ordinal ∈ before.newly after ↔
      before.text? ordinal = none ∧ (after.text? ordinal).isSome = true := by
  rw [newly, List.mem_filter, Bool.and_eq_true, Option.isNone_iff_eq_none]
  refine and_iff_right_of_imp fun ⟨_, known⟩ => ?_
  obtain ⟨text, found⟩ := Option.isSome_iff_exists.mp known
  obtain ⟨bucket, here, _⟩ := Option.bind_eq_some_iff.mp found
  have same : bucket.ordinal = ordinal := by simpa using List.find?_some here
  exact Ascending.mem_ofList.mpr (List.mem_map.mpr ⟨bucket, List.mem_of_find?_eq_some here, same⟩)

theorem newly_self (histogram : Histogram) : histogram.newly histogram = [] :=
  List.eq_nil_iff_forall_not_mem.mpr fun ordinal member => by
    obtain ⟨unknown, known⟩ := mem_newly.mp member
    rw [unknown] at known
    cases known

theorem Distinct.text?_eq {histogram : Histogram} (distinct : histogram.Distinct) {bucket : Bucket}
    (member : bucket ∈ histogram.buckets) : histogram.text? bucket.ordinal = bucket.text? := by
  rw [text?, distinct.bucket?_eq_some_iff.mpr ⟨member, rfl⟩, Option.bind_some]

end Histogram

namespace Request

variable {dictionary : Dictionary} {histogram : Histogram} {request : Request}

/-- A request that is made bucket by bucket comes as far as the attempt on the buckets does. -/
theorem progress_of_each {α : Type} {attempt : Bucket → Attempt Bucket α} {answer : α → Option String}
    {shows : Bucket → Option String} (asks : Asks dictionary request.needs attempt)
    (performs : request.perform dictionary histogram =
      ((Attempt.each attempt histogram.buckets).map fun values => values.filterMap answer).mapAfter
        fun buckets => { histogram with buckets })
    (reads : ∀ bucket value, (attempt bucket).result = .ok value →
      answer value = shows (attempt bucket).after)
    (shown : ∀ buckets, request.shown { histogram with buckets } = buckets.filterMap shows) :
    ∃ reached rest, request.Progress dictionary histogram reached rest
      (request.perform dictionary histogram) := by
  obtain ⟨reached, rest, split, goes⟩ := asks.reaches histogram.buckets
  rw [performs]
  refine ⟨reached, rest, split, goes.clear, rfl, .of_eq goes.after_eq, fun _ => goes.after_eq,
    goes.events_eq, ?_⟩
  rcases goes.stops with ⟨ended, values, through⟩ | ⟨bucket, later, error, ended, needed, refused, failed⟩
  · refine Or.inl ⟨ended, ?_⟩
    have kept := congrArg (List.filterMap id) (Attempt.each_values reads through)
    rw [List.filterMap_map, List.filterMap_map] at kept
    simp only [Attempt.map, Attempt.mapAfter, through, shown]
    exact congrArg Except.ok kept
  · refine Or.inr ⟨bucket, later, error, ended, needed, refused, ?_⟩
    simp only [Attempt.map, Attempt.mapAfter, failed]
    rfl

theorem progress_attemptAt {ordinal : Ordinal} {attempt : Bucket → Attempt Bucket (Option String)}
    {shows : Bucket → Option String} (asks : Asks dictionary (fun _ => true) attempt)
    (needs : request.needs = fun bucket => bucket.ordinal == ordinal)
    (performs : request.perform dictionary histogram = histogram.attemptAt ordinal attempt)
    (reads : ∀ bucket text, (attempt bucket).result = .ok text →
      text = shows (bucket.asked dictionary))
    (shown : ∀ buckets, request.shown { histogram with buckets } =
      buckets.filterMap fun bucket => if bucket.ordinal == ordinal then shows bucket else none) :
    ∃ reached rest, request.Progress dictionary histogram reached rest
      (request.perform dictionary histogram) := by
  have chosen := asks.only (fun bucket => bucket.ordinal == ordinal) none
  simp only [Bool.and_true, ← needs] at chosen
  refine progress_of_each chosen performs (fun bucket text answer => ?_) shown
  rw [chosen.after_eq, Bucket.ordinal_askedIf, Bucket.askedIf, needs]
  cases here : bucket.ordinal == ordinal with
  | false =>
    rw [here] at answer
    exact (Except.ok.inj answer).symm
  | true =>
    rw [here] at answer
    simp only [here, if_true]
    exact reads bucket text answer

theorem progress_sortByMoney (dictionary : Dictionary) (histogram : Histogram) :
    ∃ reached rest, Progress .sortByMoney dictionary histogram reached rest
      (perform dictionary histogram .sortByMoney) := by
  rcases clear_or_refused dictionary Bucket.isMoney histogram.buckets with
    clear | ⟨reached, bucket, rest, error, split, clear, needed, refused⟩
  · have sorted := Histogram.sortByMoney_of_clear clear
    refine ⟨histogram.buckets, [], (List.append_nil _).symm, clear, ?_, ?_, ?_, ?_, Or.inl ⟨rfl, ?_⟩⟩ <;>
      simp only [perform, sorted, Attempt.map]
    · rw [List.append_nil]
      exact List.mergeSort_perm _ _
    · intro other
      rcases other with other | other <;> exact absurd rfl other
    · rfl
    · rfl
  · have stopped := Histogram.sortByMoney_of_refused split clear needed refused
    refine ⟨reached, bucket :: rest, split, clear, ?_, ?_, fun _ => ?_, ?_,
      Or.inr ⟨bucket, rest, error, rfl, needed, refused, ?_⟩⟩ <;>
      simp only [perform, stopped, Attempt.map]
    · exact .refl _
    · rfl
    · rfl
    · rfl

/-- Every request asks for the labels it needs until one of them does not resolve. -/
theorem progress (request : Request) (dictionary : Dictionary) (histogram : Histogram) :
    ∃ reached rest, request.Progress dictionary histogram reached rest
      (request.perform dictionary histogram) := by
  cases request with
  | renderAll =>
    refine @progress_of_each _ _ renderAll _ _ some (Bucket.shownCounted? histogram.format)
      (Bucket.asks_render dictionary histogram.format) ?_ (fun bucket text answer => ?_) fun _ => rfl
    · simp only [perform, Histogram.renderAll, Attempt.map, Attempt.mapAfter, List.filterMap_some]
      cases (Attempt.each (Bucket.render dictionary histogram.format) histogram.buckets).result <;> rfl
    · rw [(Bucket.asks_render dictionary histogram.format).after_eq]
      exact (Bucket.shownCounted?_of_render answer).symm
  | renderValue ordinal format =>
    refine progress_attemptAt ((Bucket.asks_renderValue dictionary format).map (fun _ => some)
      fun _ => rfl) rfl rfl (fun bucket text answer => ?_) fun _ => rfl
    obtain ⟨value, rendered, rfl⟩ := exists_of_map_ok answer
    exact (Bucket.shown?_of_renderValue rendered).symm
  | resolve ordinal =>
    exact progress_attemptAt (asks_ask dictionary) rfl rfl
      (fun _ _ answer => (Bucket.text?_of_ask answer).symm) fun _ => rfl
  | sortByMoney => exact progress_sortByMoney dictionary histogram

/-- What was looked up is not looked up again: a request does not depend on what a dictionary says of
it. -/
theorem perform_congr {other : Dictionary} (agree : histogram.Agree other dictionary)
    (request : Request) : request.perform other histogram = request.perform dictionary histogram := by
  have asks (bucket : Bucket) (member : bucket ∈ histogram.buckets) :
      bucket.ask other = bucket.ask dictionary := Bucket.ask_congr (agree bucket member)
  have renders (format : NumberFormat) (bucket : Bucket) (member : bucket ∈ histogram.buckets) :
      bucket.renderValue other format = bucket.renderValue dictionary format := by
    rw [Bucket.renderValue_eq, Bucket.renderValue_eq, asks bucket member]
  cases request with
  | renderAll =>
    rw [perform, perform, Histogram.renderAll, Histogram.renderAll,
      Attempt.each_congr fun bucket member => ?_]
    rw [Bucket.render, Bucket.render, renders _ bucket member]
  | renderValue ordinal format =>
    exact Histogram.attemptAt_congr ordinal fun bucket member => by rw [renders _ bucket member]
  | resolve ordinal => exact Histogram.attemptAt_congr ordinal asks
  | sortByMoney =>
    rw [perform, perform, Histogram.sortByMoney, Histogram.sortByMoney,
      Attempt.each_congr fun bucket member => ?_]
    rw [Bucket.amount?_eq, Bucket.amount?_eq, asks bucket member]

namespace Progress

variable {reached rest : List Bucket} {outcome : Attempt Histogram (List String)}
  (progress : request.Progress dictionary histogram reached rest outcome)

include progress

theorem ordinals_perm :
    (outcome.after.buckets.map (·.ordinal)).Perm (histogram.buckets.map (·.ordinal)) := by
  refine (progress.perm.map _).trans (List.Perm.of_eq ?_)
  rw [progress.split, List.map_append, List.map_append, List.map_map]
  congr 1
  exact List.map_congr_left fun _ _ => Bucket.ordinal_askedIf

theorem distinct (distinct : histogram.Distinct) : outcome.after.Distinct :=
  distinct.congr progress.ordinals_perm

variable (distinct : histogram.Distinct) {bucket : Bucket}

include distinct

/-- A bucket that is reached has the text that its label answered, if the request needs it. -/
theorem text?_of_reached (member : bucket ∈ reached) :
    outcome.after.text? bucket.ordinal = (bucket.askedIf request.needs dictionary).text? := by
  have inside : bucket.askedIf request.needs dictionary ∈ outcome.after.buckets :=
    progress.perm.mem_iff.mpr (List.mem_append_left _ (List.mem_map_of_mem member))
  rw [← (progress.distinct distinct).text?_eq inside, Bucket.ordinal_askedIf]

/-- A bucket that is not reached is left as it was. -/
theorem text?_of_rest (member : bucket ∈ rest) :
    outcome.after.text? bucket.ordinal = bucket.text? :=
  (progress.distinct distinct).text?_eq (progress.perm.mem_iff.mpr (List.mem_append_right _ member))

/-- A text that was looked up is kept. -/
theorem text?_kept {ordinal : Ordinal} {text : String} (known : histogram.text? ordinal = some text) :
    outcome.after.text? ordinal = some text := by
  obtain ⟨bucket, found, looked⟩ := Option.bind_eq_some_iff.mp known
  obtain ⟨member, rfl⟩ := distinct.bucket?_eq_some_iff.mp found
  rw [progress.split, List.mem_append] at member
  rcases member with here | later
  · rw [progress.text?_of_reached distinct here, Bucket.text?_askedIf_of_some looked]
  · rw [progress.text?_of_rest distinct later, looked]

/-- A request reports as many labels as it resolves. -/
theorem length_newly : (histogram.newly outcome.after).length = outcome.events.length := by
  have perm : outcome.after.ordinals.Perm (histogram.buckets.map (·.ordinal)) :=
    (Ascending.ofList_perm (progress.distinct distinct)).trans progress.ordinals_perm
  have ofBucket (bucket : Bucket) (member : bucket ∈ histogram.buckets) :
      histogram.text? bucket.ordinal = bucket.text? := distinct.text?_eq member
  rw [progress.split] at ofBucket
  rw [Histogram.newly, ← List.countP_eq_length_filter, perm.countP_eq, List.countP_map, progress.split,
    List.countP_append, progress.events_eq, reports, List.length_replicate]
  -- A bucket counts if it was asked and answered anew; those that were not reached are as they were.
  have later : rest.countP ((fun ordinal => (histogram.text? ordinal).isNone &&
      (outcome.after.text? ordinal).isSome) ∘ (·.ordinal)) = 0 := by
    refine List.countP_eq_zero.mpr fun bucket member => ?_
    simp only [Function.comp_apply, ofBucket bucket (List.mem_append_right _ member),
      progress.text?_of_rest distinct member]
    cases bucket.text? <;> simp
  rw [later, Nat.add_zero]
  refine List.countP_congr fun bucket member => ?_
  simp only [Function.comp_apply, ofBucket bucket (List.mem_append_left _ member),
    progress.text?_of_reached distinct member, Bucket.isSome_text?_askedIf]

end Progress

end Request

/-- A label that is asked for its amount and then for its text is left as by the second question
alone. -/
theorem Label.probe_leaves (dictionary : Dictionary) (label : Label) :
    (label.probe dictionary).2 =
      ((label.resolve dictionary).after, (label.resolve dictionary).events) := by
  obtain ⟨ordinal, style, resolved⟩ := label
  cases resolved with
  | some text => cases style <;> rfl
  | none =>
    cases style with
    | plain | category => rfl
    | money =>
      cases found : dictionary.label ordinal <;>
        simp [Label.probe, Label.amount?, Label.resolve, Dictionary.resolve, Attempt.map,
          Attempt.succeed, found]

section Single

variable {bucket : Bucket} {before later : List Bucket}
  (apart : ∀ other ∈ before ++ later, other.ordinal ≠ bucket.ordinal)

include apart

/-- An attempt on the bucket of an ordinal leaves the other buckets where they are. -/
theorem Histogram.attemptAt_eq (histogram : Histogram)
    (split : histogram.buckets = before ++ bucket :: later)
    (attempt : Bucket → Attempt Bucket (Option String)) :
    (histogram.attemptAt bucket.ordinal attempt).after =
        { histogram with buckets := before ++ (attempt bucket).after :: later } ∧
      (histogram.attemptAt bucket.ordinal attempt).events = (attempt bucket).events := by
  let guarded (other : Bucket) : Attempt Bucket (Option String) :=
    if other.ordinal == bucket.ordinal then attempt other else .succeed other none
  have spared {others : List Bucket} (apart : ∀ other ∈ others, other.ordinal ≠ bucket.ordinal)
      (rest : List Bucket) : (Attempt.each guarded (others ++ rest)).after =
          others ++ (Attempt.each guarded rest).after ∧
        (Attempt.each guarded (others ++ rest)).events = (Attempt.each guarded rest).events := by
    induction others with
    | nil => exact ⟨rfl, rfl⟩
    | cons other others ih =>
      obtain ⟨here, later⟩ := List.forall_mem_cons.mp apart
      have still : guarded other = .succeed other none := if_neg (by simpa using here)
      obtain ⟨after, events⟩ := ih later
      simp only [List.cons_append, Attempt.each, still, Attempt.succeed, after, events, List.nil_append,
        and_self]
  obtain ⟨first, last⟩ := List.forall_mem_append.mp apart
  obtain ⟨after, events⟩ := spared first (bucket :: later)
  obtain ⟨afterLater, eventsLater⟩ := spared last []
  have here : guarded bucket = attempt bucket := if_pos (by simp)
  rw [List.append_nil] at afterLater eventsLater
  have this : (Attempt.each guarded (bucket :: later)).after = (attempt bucket).after :: later ∧
      (Attempt.each guarded (bucket :: later)).events = (attempt bucket).events := by
    simp only [Attempt.each, here]
    cases (attempt bucket).result with
    | error error => exact ⟨rfl, rfl⟩
    | ok value => simp [afterLater, eventsLater, Attempt.each]
  simp only [attemptAt, Attempt.mapAfter, Attempt.map, split]
  exact ⟨congrArg (fun buckets => { histogram with buckets }) (after.trans (by rw [this.1])),
    events.trans this.2⟩

theorem Session.replaceLabel_eq (label : Label) :
    replaceLabel bucket.ordinal label (before ++ bucket :: later) =
      before ++ { bucket with descriptor := .label label } :: later := by
  induction before with
  | nil => exact if_pos (by simp)
  | cons other before ih =>
    obtain ⟨here, rest⟩ := List.forall_mem_cons.mp apart
    rw [List.cons_append, replaceLabel, if_neg (by simpa using here), ih rest, List.cons_append]

end Single

/-- The command for a label does to a histogram what the request for it does. -/
theorem Session.label_resolves {session : Session} {name : String} {ordinal : Ordinal}
    {kept : KeptHistogram} {bucket : Bucket} {label : Label}
    (there : session.histograms.lookup name = some kept) (distinct : kept.histogram.Distinct)
    (atOrdinal : kept.histogram.bucket? ordinal = some bucket)
    (labelled : bucket.descriptor = .label label) :
    let outcome := (Request.resolve ordinal).perform kept.dictionary kept.histogram
    (session.label name ordinal).2 =
      (session.keepHistogram name { kept with histogram := outcome.after }).noteEvents
        outcome.events := by
  intro outcome
  obtain ⟨here, before, later, split, _⟩ := List.find?_eq_some_iff_append.mp atOrdinal
  obtain rfl := eq_of_beq here
  have apart : ∀ other ∈ before ++ later, other.ordinal ≠ bucket.ordinal := by
    rw [Histogram.Distinct, split, (List.perm_middle.map _).nodup_iff, List.map_cons] at distinct
    exact fun other member same =>
      (List.nodup_cons.mp distinct).1 (List.mem_map.mpr ⟨other, member, same⟩)
  obtain ⟨after, events⟩ :=
    Histogram.attemptAt_eq apart kept.histogram split (Bucket.ask kept.dictionary)
  have left := congrArg Prod.fst (label.probe_leaves kept.dictionary)
  have reported := congrArg Prod.snd (label.probe_leaves kept.dictionary)
  have replaced := replaceLabel_eq apart (label.resolve kept.dictionary).after
  rw [← split] at replaced
  obtain ⟨ordinal, descriptor, count⟩ := bucket
  cases labelled
  simp only [Session.label, withLabel, withHistogram, there, atOrdinal, left, reported, replaced,
    outcome, Request.perform, after, events]
  rfl

end Facets
