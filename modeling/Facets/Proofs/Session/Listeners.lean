import Facets.Proofs.Session.Commands

/-!
Listeners around commands. What commands answer and what becomes of a session does not depend on who
listens, and nothing that happens is lost or heard twice.
-/

namespace Facets

mutual

/-- The commands that are run, without the listeners around them and without reports. -/
def Command.plain : Command → List Command
  | .under _ commands => Command.plainAll commands
  | .report _ => []
  | command => [command]

def Command.plainAll : List Command → List Command
  | [] => []
  | command :: rest => command.plain ++ Command.plainAll rest

end

mutual

/-- The answers of the commands that are run, without what listeners have heard and without reports. -/
def Answer.plain : Answer → List Answer
  | .listened answers _ => Answer.plainAll answers
  | .report _ => []
  | answer => [answer]

def Answer.plainAll : List Answer → List Answer
  | [] => []
  | answer :: rest => answer.plain ++ Answer.plainAll rest

end

theorem Command.plain_of_isPlain {command : Command} (plain : command.IsPlain) :
    command.plain = [command] := by
  cases command <;> first | rfl | exact plain.elim

theorem Answer.plain_of_isPlain {answer : Answer} (plain : answer.IsPlain) :
    answer.plain = [answer] := by
  cases answer <;> first | rfl | exact plain.elim

/-- Induction on commands and on the commands that these run. -/
theorem Command.induction {motive : List Command → Prop} (nil : motive [])
    (simple : ∀ command rest, command.IsPlain → motive rest → motive (command :: rest))
    (report : ∀ since rest, motive rest → motive (.report since :: rest))
    (reset : ∀ rest, motive rest → motive (.reset :: rest))
    (under : ∀ listener commands rest, motive commands → motive rest →
      motive (.under listener commands :: rest)) : ∀ commands, motive commands
  | [] => nil
  | command :: rest => by
    have later := Command.induction nil simple report reset under rest
    cases command with
    | under listener commands =>
      exact under listener commands rest
        (Command.induction nil simple report reset under commands) later
    | report since => exact report since rest later
    | reset => exact reset rest later
    | _ => exact simple _ rest trivial later

namespace Session

mutual

/-- What happens when a command is run. -/
def happenings (place : Workplace) (session : Session) : Command → List Happening
  | .under listener commands =>
    let listener := session.numberOf listener
    [.under listener (happeningsAll place (session.enter listener) commands)]
  | .report _ => []
  | .reset => [.reset place.now]
  | command => (session.reported command).map .event

def happeningsAll (place : Workplace) (session : Session) : List Command → List Happening
  | [] => []
  | command :: rest =>
    happenings place session command ++ happeningsAll place (run place session command).2 rest

end

variable {place : Workplace} {session : Session}

theorem happenings_of_isPlain {command : Command} (plain : command.IsPlain) :
    happenings place session command = (session.reported command).map .event := by
  cases command <;> first | rfl | exact plain.elim

theorem runAll_append (commands later : List Command) :
    runAll place session (commands ++ later) =
      let (answers, after) := runAll place session commands
      let (laterAnswers, after) := runAll place after later
      (answers ++ laterAnswers, after) := by
  induction commands generalizing session with
  | nil => rfl
  | cons command rest ih => simp only [List.cons_append, runAll, ih]

theorem recorder_runAll (place : Workplace) (session : Session) (commands : List Command) :
    (runAll place session commands).2.recorder =
      session.recorder.followAll (happeningsAll place session commands) := by
  induction commands using Command.induction generalizing session with
  | nil => rfl
  | simple command rest plain ih =>
    have here := (acts_run place session plain).recorder
    rw [happeningsAll, Recorder.followAll_append, happenings_of_isPlain plain,
      Recorder.followAll_events, ← here]
    exact ih _
  | report since rest ih => exact ih session
  | reset rest ih => exact ih _
  | under listener commands rest inside ih =>
    have here : (run place session (.under listener commands)).2.recorder =
        session.recorder.followAll (happenings place session (.under listener commands)) :=
      congrArg (fun recorder => recorder.giveTurn session.recorder.turn) (inside _)
    rw [happeningsAll, Recorder.followAll_append, ← here]
    exact ih _

/-- What has become of a recorder after commands is what has become of it by all that has happened. -/
theorem recorder_eq (place : Workplace) (session : Session) (commands : List Command) :
    (runAll place session commands).2.recorder = session.recorder.reading
      (Happening.logAll session.recorder.turn.toList (happeningsAll place session commands)) := by
  rw [recorder_runAll, Recorder.followAll_eq _ _ Option.head?_toList]

/-- With any recorder, commands give these answers and leave this session, and report what a log holds
to whoever has the turn. -/
def Alone (place : Workplace) (session : Session) (commands : List Command) (answers : List Answer)
    (after : Session) (log : List Entry) : Prop :=
  ∀ recorder listeners, runAll place { session with recorder, listeners } commands =
    (answers,
      { after with
        recorder := recorder.reading (log.map (Entry.within recorder.turn.toList))
        listeners })

theorem alone_nil : Alone place session [] [] session [] := by
  intro recorder listeners
  simp only [runAll, List.map_nil, Recorder.reading_nil]

theorem Alone.append {commands later : List Command} {answers laterAnswers : List Answer}
    {between after : Session} {log laterLog : List Entry}
    (first : Alone place session commands answers between log)
    (second : Alone place between later laterAnswers after laterLog) :
    Alone place session (commands ++ later) (answers ++ laterAnswers) after (log ++ laterLog) := by
  intro recorder listeners
  have next := second (recorder.reading (log.map (Entry.within recorder.turn.toList))) listeners
  rw [runAll_append, first, List.map_append, Recorder.reading_append]
  simp only [next]
  rfl

theorem alone_of_isPlain {command : Command} (plain : command.IsPlain) (around : List Listener) :
    Alone place session command.plain (run place session command).1.plain
      (run place session command).2
      (Happening.logAll around (happenings place session command)) := by
  have acts := acts_run place session plain
  intro recorder listeners
  have here := acts.apart recorder listeners
  rw [Recorder.recordAll_eq] at here
  rw [Command.plain_of_isPlain plain, Answer.plain_of_isPlain acts.plain, happenings_of_isPlain plain,
    Happening.logAll_events, List.map_map]
  simp only [runAll, here]
  rfl

theorem alone_runAll (place : Workplace) (session : Session) (around : List Listener)
    (commands : List Command) :
    Alone place session (Command.plainAll commands) (Answer.plainAll (runAll place session commands).1)
      (runAll place session commands).2
      (Happening.logAll around (happeningsAll place session commands)) := by
  induction commands using Command.induction generalizing session around with
  | nil => exact alone_nil
  | simple command rest plain ih =>
    rw [happeningsAll, Happening.logAll_append]
    exact (alone_of_isPlain plain around).append (ih _ around)
  | report since rest ih => exact ih session around
  | reset rest ih =>
    have here : Alone place session [.reset] [.done] (run place session .reset).2
        [.reset place.now] := fun recorder listeners => by
      rw [List.map_singleton, Entry.within, ← Recorder.reset_eq]
      rfl
    exact here.append (ih _ around)
  | under listener commands rest inside ih =>
    have here : Alone place session (Command.plainAll commands)
        (run place session (.under listener commands)).1.plain
        (run place session (.under listener commands)).2
        (Happening.logAll around (happenings place session (.under listener commands))) := by
      rw [happenings, Happening.logAll, Happening.logAll, List.append_nil, Happening.log]
      exact inside (session.enter (session.numberOf listener)) (session.numberOf listener :: around)
    rw [happeningsAll, Happening.logAll_append]
    exact here.append (ih _ around)

/-- Nobody has a number that a new listener is still to be given. -/
structure Numbered (session : Session) : Prop where
  turn : ∀ listener ∈ session.recorder.turn, listener < session.listeners
  heard : ∀ entry ∈ session.recorder.heard, entry.1 < session.listeners

theorem numbered_new (now : Nat) : (new now).Numbered where
  turn := fun _ turn => nomatch turn
  heard := fun _ heard => nomatch heard

theorem listeners_le (place : Workplace) (session : Session) (commands : List Command) :
    session.listeners ≤ (runAll place session commands).2.listeners := by
  induction commands using Command.induction generalizing session with
  | nil => exact le_rfl
  | simple command rest plain ih =>
    exact (acts_run place session plain).listeners.ge.trans (ih _)
  | report since rest ih => exact ih session
  | reset rest ih => exact ih { session with recorder := session.recorder.reset place.now }
  | under listener commands rest inside ih =>
    have entered := inside (session.enter (session.numberOf listener))
    have later := ih (run place session (.under listener commands)).2
    exact (Nat.le_max_left _ _).trans (entered.trans later)

theorem Numbered.run_plain {command : Command} (numbered : session.Numbered)
    (plain : command.IsPlain) : (run place session command).2.Numbered := by
  have acts := acts_run place session plain
  constructor <;> rw [acts.recorder, acts.listeners, Recorder.recordAll_eq]
  · exact numbered.turn
  · intro entry heard
    rcases List.mem_append.mp heard with before | now
    · exact numbered.heard entry before
    · refine numbered.turn entry.1 ?_
      rw [List.filterMap_map, List.mem_filterMap] at now
      obtain ⟨event, -, here⟩ := now
      rw [Function.comp_apply, Entry.heard?_event, Option.head?_toList, Option.map_eq_some_iff] at here
      obtain ⟨listener, turn, rfl⟩ := here
      exact turn

theorem Numbered.enter (numbered : session.Numbered) (listener : Listener) :
    (session.enter listener).Numbered where
  turn := fun _ turn => by cases turn; exact Nat.le_max_right _ _
  heard := fun entry heard => (numbered.heard entry heard).trans_le (Nat.le_max_left _ _)

theorem Numbered.runAll (numbered : session.Numbered) (commands : List Command) :
    (runAll place session commands).2.Numbered := by
  induction commands using Command.induction generalizing session with
  | nil => exact numbered
  | simple command rest plain ih => exact ih (numbered.run_plain plain)
  | report since rest ih => exact ih numbered
  | reset rest ih => exact ih ⟨numbered.turn, numbered.heard⟩
  | under listener commands rest inside ih =>
    have within := inside (numbered.enter (session.numberOf listener))
    refine ih ⟨fun owner turn => ?_, within.heard⟩
    have entered := listeners_le place (session.enter (session.numberOf listener)) commands
    exact (numbered.turn owner turn).trans_le ((Nat.le_max_left _ _).trans entered)

/-- Whatever was run before, a new listener has heard what happened while it was the innermost one and
nothing else. -/
theorem listen_eq (place : Workplace) (now : Nat) (earlier commands : List Command) :
    let session := (runAll place (new now) earlier).2
    let inside := session.enter session.listeners
    let log := Happening.logAll [session.listeners] (happeningsAll place inside commands)
    (run place session (.listen commands)).1 =
      .listened (runAll place inside commands).1
        (((log.filterMap Entry.heard?).filter (·.1 == session.listeners)).map (·.2)) := by
  intro session inside log
  have numbered : session.Numbered := (numbered_new now).runAll earlier
  have unheard : session.recorder.heard.filter (·.1 == session.listeners) = [] := by
    rw [List.filter_eq_nil_iff]
    intro entry heard
    simpa using (numbered.heard entry heard).ne
  have read := recorder_eq place inside commands
  simp only [Command.listen, run, numberOf, Option.getD_none, Recorder.heardBy]
  rw [read, Recorder.reading, List.filter_append]
  change Answer.listened _ ((session.recorder.heard.filter _ ++ _).map _) = _
  rw [unheard]
  rfl

/-- Any number of listeners may be around a command, the same listener more than once. What happens is
heard by the innermost of them, and what happens outside of all of them is counted: nothing is lost and
nothing is heard or counted twice. Afterwards the turn is with whoever had it before, and the answers
are those of the commands without the listeners. -/
theorem listeners_hear_innermost (place : Workplace) (session : Session) (commands : List Command) :
    (∀ (recorder : Recorder) (happenings : List Happening),
      recorder.followAll happenings =
        recorder.reading (Happening.logAll recorder.turn.toList happenings)) ∧
    let (answers, after) := runAll place session commands
    let log := Happening.logAll session.recorder.turn.toList (happeningsAll place session commands)
    let counters := log.foldl Counters.note session.recorder.counters
    after.recorder.turn = session.recorder.turn ∧
    after.recorder.heard = session.recorder.heard ++ log.filterMap Entry.heard? ∧
    (∀ since, run place after (.report since) = (.report (counters.report since), after)) ∧
    ∀ recorder listeners,
      runAll place { session with recorder, listeners } (Command.plainAll commands) =
        (Answer.plainAll answers,
          { after with
            recorder := recorder.reading (log.map (Entry.within recorder.turn.toList))
            listeners }) := by
  have read := recorder_eq place session commands
  refine ⟨fun recorder happenings => recorder.followAll_eq _ Option.head?_toList happenings,
    (congrArg Recorder.turn read :), (congrArg Recorder.heard read :), fun since => ?_,
    alone_runAll place session _ commands⟩
  rw [run, read]
  rfl

end Session

end Facets
