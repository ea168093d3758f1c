import Facets.Histogram
import Facets.Proofs.Except
import Mathlib

/-!
What asking for labels does. Whatever is asked of the buckets of a list in turn, some of them need
their labels: those that are reached have them looked up unless they were before, and the first one
that does not resolve ends the attempt, with nothing changed from there on.
-/

namespace Facets

namespace Label

/-- The text of a label if it was looked up, else what a dictionary says of it. -/
def text (dictionary : Dictionary) (label : Label) : Except LabelError String :=
  match label.resolved with
  | some text => .ok text
  | none => dictionary.label label.ordinal

/-- A label that was asked for its text. -/
def asked (dictionary : Dictionary) (label : Label) : Label :=
  { label with resolved := (label.text dictionary).toOption }

/-- Whether a label is looked up, and found, when it is asked for its text. -/
def resolvesAnew (dictionary : Dictionary) (label : Label) : Bool :=
  !label.isResolved && (label.text dictionary).isOk

theorem resolve_eq (dictionary : Dictionary) (label : Label) :
    label.resolve dictionary = ⟨label.text dictionary, label.asked dictionary,
      if label.resolvesAnew dictionary then [.labelResolved] else []⟩ := by
  obtain ⟨ordinal, style, resolved⟩ := label
  cases resolved with
  | some text => rfl
  | none =>
    cases found : dictionary.label ordinal <;>
      simp only [resolve, Dictionary.resolve, asked, resolvesAnew, text, found] <;> rfl

variable {dictionary : Dictionary} {label : Label}

theorem text_of_resolved {text : String} (resolved : label.resolved = some text) :
    label.text dictionary = .ok text := by
  rw [Label.text, resolved]

theorem asked_of_resolved {text : String} (resolved : label.resolved = some text) :
    label.asked dictionary = label := by
  rw [asked, text_of_resolved resolved]
  cases label
  cases resolved
  rfl

theorem asked_of_text_eq_error {error : LabelError} (failure : label.text dictionary = .error error) :
    label.asked dictionary = label := by
  obtain ⟨ordinal, style, resolved⟩ := label
  cases resolved with
  | some text => cases failure
  | none =>
    rw [asked, failure]
    rfl

end Label

namespace Bucket

def label? (bucket : Bucket) : Option Label :=
  match bucket.descriptor with
  | .label label => some label
  | _ => none

/-- The text of a bucket's label, if it was looked up. -/
def text? (bucket : Bucket) : Option String := bucket.label?.bind (·.resolved)

/-- A bucket whose label, if it has one, was asked for its text. -/
def asked (dictionary : Dictionary) (bucket : Bucket) : Bucket :=
  match bucket.descriptor with
  | .label label => { bucket with descriptor := .label (label.asked dictionary) }
  | _ => bucket

/-- Why a bucket's label does not resolve. -/
def refusal? (dictionary : Dictionary) (bucket : Bucket) : Option LabelError :=
  bucket.label?.bind fun label =>
    match label.text dictionary with
    | .ok _ => none
    | .error error => some error

def resolvesAnew (dictionary : Dictionary) (bucket : Bucket) : Bool :=
  bucket.label?.any (·.resolvesAnew dictionary)

/-- Asks a bucket for the text of its label, if it has one. -/
def ask (dictionary : Dictionary) (bucket : Bucket) : Attempt Bucket (Option String) :=
  match bucket.descriptor with
  | .label label => ((label.resolve dictionary).map some).mapAfter fun label =>
    { bucket with descriptor := .label label }
  | _ => .succeed bucket none

/-- A bucket that was asked for its label if it is one of those that need it. -/
def askedIf (needs : Bucket → Bool) (dictionary : Dictionary) (bucket : Bucket) : Bucket :=
  if needs bucket then bucket.asked dictionary else bucket

variable {dictionary : Dictionary} {bucket : Bucket} {needs : Bucket → Bool}

@[simp]
theorem ordinal_asked : (bucket.asked dictionary).ordinal = bucket.ordinal := by
  unfold asked
  split <;> rfl

@[simp]
theorem count_asked : (bucket.asked dictionary).count = bucket.count := by
  unfold asked
  split <;> rfl

@[simp]
theorem ordinal_askedIf : (bucket.askedIf needs dictionary).ordinal = bucket.ordinal := by
  unfold askedIf
  split
  · exact ordinal_asked
  · rfl

@[simp]
theorem count_askedIf : (bucket.askedIf needs dictionary).count = bucket.count := by
  unfold askedIf
  split
  · exact count_asked
  · rfl

/-- Asking changes a bucket in nothing but the text of its label. -/
theorem label?_asked : (bucket.asked dictionary).label? = bucket.label?.map (·.asked dictionary) := by
  obtain ⟨ordinal, descriptor, count⟩ := bucket
  cases descriptor <;> rfl

theorem text?_asked : (bucket.asked dictionary).text? =
    bucket.label?.bind fun label => (label.text dictionary).toOption := by
  rw [text?, label?_asked]
  cases bucket.label? <;> rfl

/-- The text that a bucket answers is the one it keeps. -/
theorem text?_of_ask {text : Option String} (answer : (bucket.ask dictionary).result = .ok text) :
    (bucket.asked dictionary).text? = text := by
  obtain ⟨ordinal, descriptor, count⟩ := bucket
  cases descriptor with
  | range | value =>
    cases answer
    rfl
  | label label =>
    simp only [ask, Label.resolve_eq, Attempt.map, Attempt.mapAfter] at answer
    obtain ⟨found, looked, rfl⟩ := exists_of_map_ok answer
    simp only [text?_asked, label?, Option.bind_some, looked]
    rfl

theorem exists_label_of_text? (known : bucket.text?.isSome = true) :
    ∃ label text, bucket.label? = some label ∧ label.resolved = some text := by
  obtain ⟨text, looked⟩ := Option.isSome_iff_exists.mp known
  obtain ⟨label, labelled, resolved⟩ := Option.bind_eq_some_iff.mp looked
  exact ⟨label, text, labelled, resolved⟩

/-- A bucket whose text is known is not changed, not refused and not looked up. -/
theorem asked_of_known (known : bucket.text?.isSome = true) : bucket.asked dictionary = bucket := by
  obtain ⟨label, text, labelled, resolved⟩ := exists_label_of_text? known
  obtain ⟨ordinal, descriptor, count⟩ := bucket
  cases descriptor with
  | range | value => cases labelled
  | label own =>
    cases labelled
    simp only [asked, Label.asked_of_resolved resolved]

theorem refusal?_of_known (known : bucket.text?.isSome = true) : bucket.refusal? dictionary = none := by
  obtain ⟨label, text, labelled, resolved⟩ := exists_label_of_text? known
  rw [refusal?, labelled, Option.bind_some, Label.text_of_resolved resolved]

theorem resolvesAnew_of_known (known : bucket.text?.isSome = true) :
    bucket.resolvesAnew dictionary = false := by
  obtain ⟨label, text, labelled, resolved⟩ := exists_label_of_text? known
  rw [resolvesAnew, labelled, Option.any_some, Label.resolvesAnew, Label.isResolved, resolved]
  rfl

theorem askedIf_of_known (known : needs bucket = true → bucket.text?.isSome = true) :
    bucket.askedIf needs dictionary = bucket := by
  unfold askedIf
  split
  case isTrue needed => exact asked_of_known (known needed)
  case isFalse => rfl

/-- A bucket whose label is refused is left as it was. -/
theorem asked_of_refused {error : LabelError} (refused : bucket.refusal? dictionary = some error) :
    bucket.asked dictionary = bucket ∧ bucket.resolvesAnew dictionary = false := by
  obtain ⟨label, labelled, refusal⟩ := Option.bind_eq_some_iff.mp refused
  have failed : label.text dictionary = .error error := by
    split at refusal <;> cases refusal
    assumption
  obtain ⟨ordinal, descriptor, count⟩ := bucket
  cases descriptor with
  | range | value => cases labelled
  | label own =>
    cases labelled
    refine ⟨by simp only [asked, Label.asked_of_text_eq_error failed], ?_⟩
    simp [resolvesAnew, label?, Label.resolvesAnew, failed, Except.isOk, Except.toBool]

/-- A label that is not refused has its text once it was asked. -/
theorem isSome_text?_asked (labelled : bucket.label?.isSome = true)
    (clear : bucket.refusal? dictionary = none) : (bucket.asked dictionary).text?.isSome = true := by
  obtain ⟨label, here⟩ := Option.isSome_iff_exists.mp labelled
  simp only [refusal?, here, Option.bind_some] at clear
  rw [text?_asked, here, Option.bind_some]
  split at clear
  case h_1 text found => rw [found]; rfl
  case h_2 => cases clear

/-- A text that was looked up stays as it is. -/
theorem text?_askedIf_of_some {text : String} (known : bucket.text? = some text) :
    (bucket.askedIf needs dictionary).text? = some text := by
  rw [askedIf_of_known fun _ => by rw [known]; rfl, known]

end Bucket

/-- The labels that are needed of some buckets all resolve. -/
def Clear (dictionary : Dictionary) (needs : Bucket → Bool) (buckets : List Bucket) : Prop :=
  ∀ bucket ∈ buckets, needs bucket = true → bucket.refusal? dictionary = none

instance {dictionary : Dictionary} {needs : Bucket → Bool} {buckets : List Bucket} :
    Decidable (Clear dictionary needs buckets) :=
  inferInstanceAs (Decidable (∀ bucket ∈ buckets, _ → _))

/-- The reports on some buckets' labels, one for each that is needed and looked up with success. -/
def reports (dictionary : Dictionary) (needs : Bucket → Bool) (buckets : List Bucket) : List Event :=
  .replicate (buckets.countP fun bucket => needs bucket && bucket.resolvesAnew dictionary)
    .labelResolved

/-- An attempt on buckets that asks some of them for their labels, fails if these do not resolve, and
leaves the other buckets alone. -/
structure Asks {α : Type} (dictionary : Dictionary) (needs : Bucket → Bool)
    (attempt : Bucket → Attempt Bucket α) : Prop where
  after_eq (bucket : Bucket) : (attempt bucket).after = bucket.askedIf needs dictionary
  events_eq (bucket : Bucket) : (attempt bucket).events =
    if needs bucket && bucket.resolvesAnew dictionary then [.labelResolved] else []
  error_iff (bucket : Bucket) (error : LabelError) : (attempt bucket).result = .error error ↔
    needs bucket = true ∧ bucket.refusal? dictionary = some error

theorem asks_ask (dictionary : Dictionary) :
    Asks dictionary (fun _ => true) (Bucket.ask dictionary) where
  after_eq bucket := by
    unfold Bucket.ask Bucket.askedIf Bucket.asked
    cases bucket.descriptor with
    | label label => simp only [Label.resolve_eq, Attempt.map, Attempt.mapAfter, if_true]
    | range | value => rfl
  events_eq bucket := by
    unfold Bucket.ask Bucket.resolvesAnew Bucket.label?
    cases bucket.descriptor with
    | label label =>
      simp only [Label.resolve_eq, Attempt.map, Attempt.mapAfter, Bool.true_and, Option.any_some]
    | range | value => rfl
  error_iff bucket error := by
    unfold Bucket.ask Bucket.refusal? Bucket.label?
    cases bucket.descriptor with
    | label label =>
      simp only [Label.resolve_eq, Attempt.map, Attempt.mapAfter, true_and, Option.bind_some]
      cases label.text dictionary <;> simp [Except.map]
    | range | value => simp [Attempt.succeed]

/-- How far an attempt on buckets comes: to the end, or to the first bucket that needs its label and
whose label does not resolve. -/
structure Reaches {α : Type} (dictionary : Dictionary) (needs : Bucket → Bool)
    (reached rest : List Bucket) (outcome : Attempt (List Bucket) α) : Prop where
  clear : Clear dictionary needs reached
  after_eq : outcome.after = reached.map (Bucket.askedIf needs dictionary) ++ rest
  events_eq : outcome.events = reports dictionary needs reached
  stops : rest = [] ∧ (∃ values, outcome.result = .ok values) ∨
    ∃ bucket later error, rest = bucket :: later ∧ needs bucket = true ∧
      bucket.refusal? dictionary = some error ∧ outcome.result = .error error

/-- Either no label that is needed is refused, or there is a first one. -/
theorem clear_or_refused (dictionary : Dictionary) (needs : Bucket → Bool) (buckets : List Bucket) :
    Clear dictionary needs buckets ∨
      ∃ reached bucket rest error, buckets = reached ++ bucket :: rest ∧
        Clear dictionary needs reached ∧ needs bucket = true ∧
        bucket.refusal? dictionary = some error := by
  induction buckets with
  | nil => exact Or.inl (List.forall_mem_nil _)
  | cons bucket buckets ih =>
    by_cases here : needs bucket = true → bucket.refusal? dictionary = none
    · rcases ih with clear | ⟨reached, stop, rest, error, rfl, clear, needed, refused⟩
      · exact Or.inl (List.forall_mem_cons.mpr ⟨here, clear⟩)
      · exact Or.inr ⟨bucket :: reached, stop, rest, error, rfl,
          List.forall_mem_cons.mpr ⟨here, clear⟩, needed, refused⟩
    · obtain ⟨needed, refused⟩ := Classical.not_imp.mp here
      obtain ⟨error, refused⟩ := Option.ne_none_iff_exists'.mp refused
      exact Or.inr ⟨[], bucket, buckets, error, rfl, List.forall_mem_nil _, needed, refused⟩

namespace Asks

variable {α : Type} {dictionary : Dictionary} {needs : Bucket → Bool}
  {attempt : Bucket → Attempt Bucket α}

/-- What is made of the answer asks for nothing more. -/
theorem map {β : Type} {other : Bucket → Attempt Bucket β} (asks : Asks dictionary needs attempt)
    (answer : Bucket → α → β) (same : ∀ bucket, other bucket = (attempt bucket).map (answer bucket)) :
    Asks dictionary needs other where
  after_eq bucket := by rw [same, ← asks.after_eq]; rfl
  events_eq bucket := by rw [same, ← asks.events_eq]; rfl
  error_iff bucket error := by
    rw [same, ← asks.error_iff]
    show (attempt bucket).result.map _ = _ ↔ _
    constructor
    · exact eq_error_of_map_error
    · intro failure
      rw [failure]
      rfl

/-- An attempt on some buckets, which leaves the others alone. -/
theorem only (asks : Asks dictionary needs attempt) (chosen : Bucket → Bool) (value : α) :
    Asks dictionary (fun bucket => chosen bucket && needs bucket) fun bucket =>
      if chosen bucket then attempt bucket else .succeed bucket value where
  after_eq bucket := by
    cases choice : chosen bucket with
    | false => simp [Bucket.askedIf, choice, Attempt.succeed]
    | true => simp only [if_true, asks.after_eq, Bucket.askedIf, choice, Bool.true_and]
  events_eq bucket := by
    cases choice : chosen bucket with
    | false => simp [Attempt.succeed]
    | true => simp only [if_true, asks.events_eq, Bool.true_and]
  error_iff bucket error := by
    cases choice : chosen bucket with
    | false => simp [Attempt.succeed]
    | true => simp only [if_true, asks.error_iff, Bool.true_and]

theorem still (asks : Asks dictionary needs attempt) {bucket : Bucket} {error : LabelError}
    (failure : (attempt bucket).result = .error error) :
    (attempt bucket).after = bucket ∧ (attempt bucket).events = [] := by
  obtain ⟨needed, refused⟩ := (asks.error_iff bucket error).mp failure
  obtain ⟨same, silent⟩ := Bucket.asked_of_refused refused
  rw [asks.after_eq, asks.events_eq, Bucket.askedIf, if_pos needed, same, silent, Bool.and_false]
  exact ⟨rfl, rfl⟩

/-- An attempt passes the buckets that need no label or whose label resolves. -/
theorem each_append (asks : Asks dictionary needs attempt) {reached : List Bucket}
    (clear : Clear dictionary needs reached) (rest : List Bucket) :
    ∃ values, Attempt.each attempt (reached ++ rest) =
      ⟨(Attempt.each attempt rest).result.map (values ++ ·),
        reached.map (Bucket.askedIf needs dictionary) ++ (Attempt.each attempt rest).after,
        reports dictionary needs reached ++ (Attempt.each attempt rest).events⟩ := by
  -- The rest is not touched by the induction, so that it may go on or stop at its first bucket.
  induction reached with
  | nil =>
    refine ⟨[], ?_⟩
    cases others : Attempt.each attempt rest with
    | mk result after events => cases result <;> simp [others, reports, Except.map]
  | cons bucket reached ih =>
    obtain ⟨here, later⟩ := List.forall_mem_cons.mp clear
    obtain ⟨values, others⟩ := ih later
    cases first : (attempt bucket).result with
    | error error =>
      obtain ⟨needed, refused⟩ := (asks.error_iff bucket error).mp first
      rw [here needed] at refused
      cases refused
    | ok value =>
      refine ⟨value :: values, ?_⟩
      simp only [List.cons_append, Attempt.each, first, others, asks.after_eq, asks.events_eq, reports,
        List.map_cons, List.countP_cons]
      congr 1
      · cases (Attempt.each attempt rest).result <;> rfl
      · split <;> simp [List.replicate_succ]

theorem each_of_clear (asks : Asks dictionary needs attempt) {buckets : List Bucket}
    (clear : Clear dictionary needs buckets) : ∃ values, Attempt.each attempt buckets =
      ⟨.ok values, buckets.map (Bucket.askedIf needs dictionary),
        reports dictionary needs buckets⟩ := by
  obtain ⟨values, through⟩ := asks.each_append clear []
  refine ⟨values, ?_⟩
  rw [List.append_nil] at through
  rw [through]
  simp [Attempt.each, Except.map]

theorem each_of_refused (asks : Asks dictionary needs attempt) {reached : List Bucket}
    {bucket : Bucket} {error : LabelError}
    (clear : Clear dictionary needs reached)
    (needed : needs bucket = true) (refused : bucket.refusal? dictionary = some error)
    (rest : List Bucket) :
    Attempt.each attempt (reached ++ bucket :: rest) =
      ⟨.error error, reached.map (Bucket.askedIf needs dictionary) ++ bucket :: rest,
        reports dictionary needs reached⟩ := by
  have failure := (asks.error_iff bucket error).mpr ⟨needed, refused⟩
  obtain ⟨same, silent⟩ := asks.still failure
  obtain ⟨values, through⟩ := asks.each_append clear (bucket :: rest)
  rw [through]
  simp [Attempt.each, failure, same, silent, Except.map]

theorem reaches (asks : Asks dictionary needs attempt) (buckets : List Bucket) :
    ∃ reached rest, buckets = reached ++ rest ∧
      Reaches dictionary needs reached rest (Attempt.each attempt buckets) := by
  rcases clear_or_refused dictionary needs buckets with
    clear | ⟨reached, bucket, rest, error, rfl, clear, needed, refused⟩
  · obtain ⟨values, through⟩ := asks.each_of_clear clear
    refine ⟨buckets, [], (List.append_nil _).symm, clear, ?_, ?_, Or.inl ⟨rfl, values, ?_⟩⟩ <;>
      simp only [through, List.append_nil]
  · have stopped := asks.each_of_refused clear needed refused rest
    refine ⟨reached, bucket :: rest, rfl, clear, ?_, ?_,
      Or.inr ⟨bucket, rest, error, rfl, needed, refused, ?_⟩⟩ <;> rw [stopped]

end Asks

/-- Where each answer is what a list element shows after the attempt, so are the answers of all. -/
theorem Attempt.each_values {σ α β : Type} {attempt : σ → Attempt σ α} {shown : α → β} {shows : σ → β}
    (reads : ∀ x value, (attempt x).result = .ok value → shown value = shows (attempt x).after)
    {xs : List σ} {values : List α} (answered : (each attempt xs).result = .ok values) :
    values.map shown = (each attempt xs).after.map shows := by
  induction xs generalizing values with
  | nil =>
    cases answered
    rfl
  | cons x rest ih =>
    cases first : (attempt x).result with
    | error error => simp only [each, first, reduceCtorEq] at answered
    | ok value =>
      simp only [each, first] at answered ⊢
      obtain ⟨others, later, rfl⟩ := exists_of_map_ok answered
      rw [List.map_cons, List.map_cons, reads x value first, ih later]

end Facets
