import RocmCli.Support.Runs
import Mathlib.Data.List.Infix

namespace RocmCli
namespace Dashboard
namespace Jobs

open Runs

/-!
# Background jobs

The reducer registers a job under an id that callers choose, and a task runs
its process and posts events that name the id.  Every start of an id is a run
of its own, with its own task and its own cancel flag.
-/

/-- Maximum streamed output lines retained per job. -/
def jobOutputRingCap : Nat := 1000

inductive JobStatus where
  | running
  | done (code : Int)
  | failed (message : String)
  | cancelled
  deriving DecidableEq, Repr

/-- What a task posts about its job. -/
inductive JobEvent where
  | line (line : String)
  | done (code : Int)
  | failed (message : String)
  deriving DecidableEq, Repr

/-- What the reducer keeps of a job.  `run` stands for the cancel flag that the
job shares with its task. -/
structure JobState where
  cmd : String
  args : List String
  status : JobStatus
  output : List String
  run : Nat
  deriving DecidableEq, Repr

def JobState.isTerminal (job : JobState) : Bool :=
  match job.status with
  | .running => false
  | .done _ | .failed _ | .cancelled => true

/-- Where `run_job` is.  The process is there from the spawn on until it is
reaped or killed. -/
inductive TaskPhase where
  | starting
  | loopHead (outOpen errOpen : Bool)
  | selecting (outOpen errOpen : Bool)
  | ended
  deriving DecidableEq, Repr

/-- One run of a job: its task, its cancel flag, all it has posted, and what of
that is still to be delivered. -/
structure Run (Id : Type) where
  id : Id
  phase : TaskPhase
  cancel : Bool
  sent : List JobEvent
  outbox : List JobEvent
  deriving DecidableEq, Repr

/-- What a task meets at its next turn. -/
inductive Happening where
  | spawnFailed (error : String)
  | outLine (line : String)
  | outEnd
  | errLine (line : String)
  | errEnd
  | exited (code : Option Int)
  | waitFailed (error : String)
  | idle
  deriving DecidableEq, Repr

inductive Action (Id : Type) where
  | startJob (id : Id) (cmd : String) (args : List String)
  | cancelJob (id : Id)
  | turn (run : Nat) (happening : Happening)
  | deliver (run : Nat)
  deriving DecidableEq, Repr

structure System (Id : Type) where
  jobs : Id -> Option JobState
  runs : Nat -> Option (Run Id)
  started : Nat

/-! ## The task of a run -/

section Task

variable {Id : Type}

/-- Keep only the final visible segment of a redrawn progress line. -/
def lastCrSegment (line : String) : String :=
  String.ofList (line.toList.reverse.takeWhile (· ≠ '\r')).reverse

def Run.post (run : Run Id) (event : JobEvent) : Run Id :=
  { run with sent := run.sent ++ [event], outbox := run.outbox ++ [event] }

def Run.goTo (run : Run Id) (phase : TaskPhase) : Run Id := { run with phase := phase }

def Run.emit (run : Run Id) (line : String) : Run Id := run.post (.line (lastCrSegment line))

/-- One turn of `run_job`: the spawn, the check of the cancel flag, or the
branch of the `select!` that is ready. -/
def Run.turn (run : Run Id) (happening : Happening) : Run Id :=
  match run.phase, happening with
  | .starting, .spawnFailed error => (run.post (.failed ("spawn failed: " ++ error))).goTo .ended
  | .starting, _ => run.goTo (.loopHead true true)
  | .loopHead outOpen errOpen, _ =>
      if run.cancel then run.goTo .ended else run.goTo (.selecting outOpen errOpen)
  | .selecting true errOpen, .outLine line => (run.emit line).goTo (.loopHead true errOpen)
  | .selecting true errOpen, .outEnd => run.goTo (.loopHead false errOpen)
  | .selecting outOpen true, .errLine line => (run.emit line).goTo (.loopHead outOpen true)
  | .selecting outOpen true, .errEnd => run.goTo (.loopHead outOpen false)
  | .selecting false false, .exited code => (run.post (.done (code.getD (-1)))).goTo .ended
  | .selecting false false, .waitFailed error =>
      (run.post (.failed ("wait failed: " ++ error))).goTo .ended
  | .selecting outOpen errOpen, _ => run.goTo (.loopHead outOpen errOpen)
  | .ended, _ => run

/-- The process of a run is there. -/
def Run.isLive (run : Run Id) : Bool :=
  match run.phase with
  | .loopHead _ _ | .selecting _ _ => true
  | .starting | .ended => false

end Task

/-! ## The reducer -/

section Reducer

variable {Id : Type} [DecidableEq Id]

/-- Add a line to the output ring. -/
def pushLine (output : List String) (line : String) : List String :=
  let output := output ++ [line]
  output.drop (output.length - jobOutputRingCap)

def JobState.receive (job : JobState) : JobEvent -> JobState
  | .line line => { job with output := pushLine job.output line }
  | .done code => { job with status := .done code }
  | .failed message => { job with status := .failed message }

/-- Events for a job that is terminal change nothing. -/
def JobState.apply (job : JobState) (event : JobEvent) : JobState :=
  if job.isTerminal then job else job.receive event

def System.setJob (system : System Id) (id : Id) (job : JobState) : System Id :=
  { system with jobs := Function.update system.jobs id (some job) }

def System.setRun (system : System Id) (number : Nat) (run : Run Id) : System Id :=
  { system with runs := Function.update system.runs number (some run) }

def System.applyEvent (system : System Id) (id : Id) (event : JobEvent) : System Id :=
  match system.jobs id with
  | some job => system.setJob id (job.apply event)
  | none => system

/-- A job that is running is left alone; another one starts a new run. -/
def System.startJob (system : System Id) (id : Id) (cmd : String) (args : List String) : System Id :=
  if (system.jobs id).any fun job => !job.isTerminal then system
  else
    { (system.setJob id ⟨cmd, args, .running, [], system.started⟩).setRun system.started
        ⟨id, .starting, false, [], []⟩ with
      started := system.started + 1 }

def System.cancelRun (system : System Id) (number : Nat) : System Id :=
  match system.runs number with
  | some run => system.setRun number { run with cancel := true }
  | none => system

/-- Signal the task, and reflect the cancel at once. -/
def System.cancelJob (system : System Id) (id : Id) : System Id :=
  match system.jobs id with
  | some job =>
      if job.isTerminal then system
      else (system.cancelRun job.run).setJob id { job with status := .cancelled }
  | none => system

def System.turn (system : System Id) (number : Nat) (happening : Happening) : System Id :=
  match system.runs number with
  | some run => system.setRun number (run.turn happening)
  | none => system

/-- Take the next event that a run posted and apply it. -/
def System.deliver (system : System Id) (number : Nat) : System Id :=
  match system.runs number with
  | some run =>
      match run.outbox with
      | event :: outbox =>
          (system.setRun number { run with outbox := outbox }).applyEvent run.id event
      | [] => system
  | none => system

def System.empty : System Id := ⟨fun _ => none, fun _ => none, 0⟩

def System.step (system : System Id) : Action Id -> System Id
  | .startJob id cmd args => system.startJob id cmd args
  | .cancelJob id => system.cancelJob id
  | .turn run happening => system.turn run happening
  | .deliver run => system.deliver run

/-! ## What a job shows -/

def linesOf (events : List JobEvent) : List String :=
  events.filterMap fun event => match event with
    | .line line => some line
    | .done _ | .failed _ => none

def JobEvent.isTerminal : JobEvent -> Bool
  | .line _ => false
  | .done _ | .failed _ => true

/-- The last lines that a ring holds. -/
@[irreducible]
def lastLines (lines : List String) : List String := lines.drop (lines.length - jobOutputRingCap)

/-- A job shows its own run. -/
structure ShowsOwn (job : JobState) (run : Run Id) : Prop where
  output : exists shown, shown <+: linesOf run.sent ∧ job.output = lastLines shown
  done : forall code, job.status = .done code -> .done code ∈ run.sent
  failed : forall message, job.status = .failed message -> .failed message ∈ run.sent
  running : job.status = .running -> run.phase ≠ .ended ∨
    exists event, event ∈ run.outbox ∧ event.isTerminal = true

/-- How often the task of a run gets a turn. -/
def turnsOf (number : Nat) (actions : List (Action Id)) : Nat :=
  actions.countP fun action => match action with
    | .turn run _ => run == number
    | .startJob _ _ _ | .cancelJob _ | .deliver _ => false

/-- Every job shows its current run, a live run that was not cancelled is the
current one of its job and shown running, and the process of a cancelled run is
gone after two more turns of its task, whatever happens in between. -/
structure OwnRecords (system : System Id) : Prop where
  shows : forall id job, system.jobs id = some job ->
    exists run, system.runs job.run = some run ∧ run.id = id ∧ ShowsOwn job run
  reachable : forall number run, system.runs number = some run -> run.isLive = true ->
    run.cancel = false ->
    exists job, system.jobs run.id = some job ∧ job.run = number ∧ job.status = .running
  killed : forall number run, system.runs number = some run -> run.cancel = true ->
    forall more, 2 ≤ turnsOf number more -> exists later,
      (finalState System.step system more).runs number = some later ∧ later.isLive = false
  latest : forall id job, system.jobs id = some job -> forall number run,
    system.runs number = some run -> run.id = id -> number ≤ job.run

/-- A run that posts nothing more, with everything it posted delivered. -/
def Run.quiet (run : Run Id) : Bool :=
  run.outbox.isEmpty && match run.phase with
    | .ended => true
    | .loopHead _ _ => run.cancel
    | .starting | .selecting _ _ => false

/-- An id is started again only when its earlier runs are quiet. -/
def startsQuietly (system : System Id) : Action Id -> Prop
  | .startJob id _ _ => (forall job, system.jobs id = some job -> job.isTerminal = true) ->
      forall number run, system.runs number = some run -> run.id = id -> run.quiet = true
  | .cancelJob _ | .turn _ _ | .deliver _ => True

end Reducer

/-! ## Turns of a task -/

section Turns

variable {Id : Type} {run : Run Id}

/-- What every turn keeps of a run. -/
structure TurnOf (run later : Run Id) : Prop where
  id : later.id = run.id
  cancel : later.cancel = run.cancel
  posted : exists more, later.sent = run.sent ++ more ∧ later.outbox = run.outbox ++ more ∧
    ((forall event, event ∈ more -> event.isTerminal = false) ∨ later.phase = .ended)
  ends : later.phase = .ended -> run.phase = .ended ∨ run.cancel = true ∨
    exists event, event ∈ later.outbox ∧ event.isTerminal = true

theorem turnOf_goTo (phase : TaskPhase)
    (ends : phase = .ended -> run.phase = .ended ∨ run.cancel = true) :
    TurnOf run (run.goTo phase) :=
  ⟨rfl, rfl, ⟨[], (List.append_nil _).symm, (List.append_nil _).symm,
    Or.inl fun _ member => absurd member List.not_mem_nil⟩,
    fun isEnded => (ends isEnded).imp_right Or.inl⟩

theorem turnOf_emit (line : String) (outOpen errOpen : Bool) :
    TurnOf run ((run.emit line).goTo (.loopHead outOpen errOpen)) :=
  ⟨rfl, rfl, ⟨[.line (lastCrSegment line)], rfl, rfl,
    Or.inl fun _ member => by rw [List.mem_singleton.mp member]; rfl⟩, nofun⟩

theorem turnOf_finish (event : JobEvent) (terminal : event.isTerminal = true) :
    TurnOf run ((run.post event).goTo .ended) :=
  ⟨rfl, rfl, ⟨[event], rfl, rfl, Or.inr rfl⟩, fun _ =>
    Or.inr (Or.inr ⟨event, List.mem_append_right _ (List.mem_singleton_self event), terminal⟩)⟩

theorem turnOf_turn (happening : Happening) : TurnOf run (run.turn happening) := by
  unfold Run.turn
  split
  next => exact turnOf_finish _ rfl
  next => exact turnOf_goTo _ nofun
  next =>
    split
    next cancelled => exact turnOf_goTo _ fun _ => Or.inr cancelled
    next => exact turnOf_goTo _ nofun
  next => exact turnOf_emit _ _ _
  next => exact turnOf_goTo _ nofun
  next => exact turnOf_emit _ _ _
  next => exact turnOf_goTo _ nofun
  next => exact turnOf_finish _ rfl
  next => exact turnOf_finish _ rfl
  next => exact turnOf_goTo _ nofun
  next _ isEnded =>
    exact ⟨rfl, rfl, ⟨[], (List.append_nil _).symm, (List.append_nil _).symm,
      Or.inl fun _ member => absurd member List.not_mem_nil⟩, fun _ => Or.inl isEnded⟩

/-- How many turns a cancelled run still takes. -/
def TaskPhase.turnsLeft : TaskPhase -> Nat
  | .starting | .selecting _ _ => 2
  | .loopHead _ _ => 1
  | .ended => 0

theorem turnsLeft_turn (cancelled : run.cancel = true) (happening : Happening) :
    (run.turn happening).phase.turnsLeft ≤ run.phase.turnsLeft - 1 := by
  unfold Run.turn
  split
  next isPhase => simp [Run.goTo, TaskPhase.turnsLeft]
  next isPhase _ => simp [Run.goTo, TaskPhase.turnsLeft, isPhase]
  next => simp [cancelled, Run.goTo, TaskPhase.turnsLeft]
  all_goals simp_all [Run.goTo, TaskPhase.turnsLeft]

theorem turnsLeft_le (phase : TaskPhase) : phase.turnsLeft ≤ 2 := by
  cases phase <;> simp [TaskPhase.turnsLeft]

theorem isLive_of_turnsLeft (none : run.phase.turnsLeft = 0) : run.isLive = false := by
  unfold Run.isLive
  cases isPhase : run.phase <;> rw [isPhase] at none <;> first | rfl | exact (nomatch none)

/-- What is known of a run by itself. -/
structure RunSound (run : Run Id) : Prop where
  outbox : exists delivered, run.sent = delivered ++ run.outbox
  terminal : forall event, event ∈ run.sent -> event.isTerminal = true -> run.phase = .ended
  ended : run.phase = .ended -> run.cancel = true ∨
    exists event, event ∈ run.sent ∧ event.isTerminal = true

theorem turn_ended (isEnded : run.phase = .ended) (happening : Happening) :
    run.turn happening = run := by
  unfold Run.turn
  rw [isEnded]

theorem runSound_turn (sound : RunSound run) (happening : Happening) :
    RunSound (run.turn happening) := by
  have turned : TurnOf run (run.turn happening) := turnOf_turn happening
  rcases turned.posted with ⟨more, sent, outbox, kinds⟩
  by_cases wasEnded : run.phase = .ended
  · rw [turn_ended wasEnded]
    exact sound
  have outboxSplit : exists delivered, (run.turn happening).sent =
      delivered ++ (run.turn happening).outbox := by
    rcases sound.outbox with ⟨delivered, split⟩
    refine ⟨delivered, ?_⟩
    rw [sent, outbox, split, List.append_assoc]
  constructor
  case outbox => exact outboxSplit
  case terminal =>
    intro event member isTerminal
    rw [sent] at member
    rcases List.mem_append.mp member with earlier | added
    · exact absurd (sound.terminal event earlier isTerminal) wasEnded
    · rcases kinds with onlyLines | isEnded
      · rw [onlyLines event added] at isTerminal
        exact (nomatch isTerminal)
      · exact isEnded
  case ended =>
    intro isEnded
    rcases turned.ends isEnded with before | cancelled | ⟨event, member, isTerminal⟩
    · exact absurd before wasEnded
    · left
      rw [turned.cancel]
      exact cancelled
    · right
      rcases outboxSplit with ⟨delivered, split⟩
      refine ⟨event, ?_, isTerminal⟩
      rw [split]
      exact List.mem_append_right delivered member

theorem quiet_iff : run.quiet = true ↔ run.outbox = [] ∧
    (run.phase = .ended ∨ (exists outOpen errOpen, run.phase = .loopHead outOpen errOpen) ∧
      run.cancel = true) := by
  unfold Run.quiet
  rw [Bool.and_eq_true_iff, List.isEmpty_iff]
  cases isPhase : run.phase <;> simp

/-- A quiet run stays quiet. -/
theorem quiet_turn (quiet : run.quiet = true) (happening : Happening) :
    (run.turn happening).quiet = true := by
  rcases quiet_iff.mp quiet with ⟨empty, isEnded | ⟨⟨outOpen, errOpen, atHead⟩, cancelled⟩⟩
  · rw [turn_ended isEnded]
    exact quiet
  · apply quiet_iff.mpr
    unfold Run.turn
    rw [atHead]
    dsimp only
    rw [if_pos cancelled]
    exact ⟨empty, Or.inl rfl⟩

end Turns

/-! ## A job and its run -/

section Records

variable {Id : Type} {run later : Run Id} {job : JobState}

/-- A job against its current run. -/
structure JobSound (job : JobState) (run : Run Id) : Prop where
  output : exists shown, shown <+: linesOf run.sent ∧ job.output = lastLines shown
  done : forall code, job.status = .done code -> .done code ∈ run.sent
  failed : forall message, job.status = .failed message -> .failed message ∈ run.sent
  running : job.status = .running -> run.cancel = false ∧
    exists delivered, run.sent = delivered ++ run.outbox ∧
      (forall event, event ∈ delivered -> event.isTerminal = false) ∧
      job.output = lastLines (linesOf delivered)
  cancelled : job.status = .cancelled -> run.cancel = true

theorem linesOf_append (first second : List JobEvent) :
    linesOf (first ++ second) = linesOf first ++ linesOf second :=
  List.filterMap_append

theorem jobSound_turn (sound : JobSound job run) (happening : Happening) :
    JobSound job (run.turn happening) := by
  have turned : TurnOf run (run.turn happening) := turnOf_turn happening
  rcases turned.posted with ⟨more, sent, outbox, _⟩
  constructor
  case output =>
    rcases sound.output with ⟨shown, front, isOutput⟩
    refine ⟨shown, ?_, isOutput⟩
    rw [sent, linesOf_append]
    exact front.trans (List.prefix_append _ _)
  case done =>
    intro code isDone
    rw [sent]
    exact List.mem_append_left more (sound.done code isDone)
  case failed =>
    intro message isFailed
    rw [sent]
    exact List.mem_append_left more (sound.failed message isFailed)
  case running =>
    intro isRunning
    rcases sound.running isRunning with ⟨notCancelled, delivered, split, onlyLines, isOutput⟩
    rw [turned.cancel]
    refine ⟨notCancelled, delivered, ?_, onlyLines, isOutput⟩
    rw [sent, outbox, split, List.append_assoc]
  case cancelled =>
    rw [turned.cancel]
    exact sound.cancelled

theorem lastLines_nil : lastLines [] = [] := by
  unfold lastLines
  exact List.drop_nil

theorem pushLine_lastLines (lines : List String) (line : String) :
    pushLine (lastLines lines) line = lastLines (lines ++ [line]) := by
  unfold pushLine lastLines
  dsimp only
  generalize jobOutputRingCap = cap
  have shorter : lines.length - cap ≤ lines.length := Nat.sub_le _ _
  rw [← List.drop_append_of_le_length shorter, List.drop_drop, List.length_drop,
    List.length_append, List.length_singleton]
  congr 1
  omega

/-- The next posted event is applied to the job of its own run. -/
theorem jobSound_deliver {event : JobEvent} {outbox : List JobEvent} (sound : JobSound job run)
    (next : run.outbox = event :: outbox) :
    JobSound (job.apply event) { run with outbox := outbox } := by
  unfold JobState.apply
  rcases terminal : job.isTerminal with _ | _
  · have isRunning : job.status = .running := by
      unfold JobState.isTerminal at terminal
      split at terminal <;> first | assumption | exact (nomatch terminal)
    rcases sound.running isRunning with ⟨notCancelled, delivered, split, onlyLines, isOutput⟩
    rw [if_neg Bool.false_ne_true]
    have posted : event ∈ run.sent := by
      rw [split, next]
      exact List.mem_append_right delivered List.mem_cons_self
    have newSplit : run.sent = (delivered ++ [event]) ++ outbox := by
      rw [split, next, List.append_assoc]
      rfl
    have isFront : linesOf (delivered ++ [event]) <+: linesOf run.sent := by
      rw [newSplit, linesOf_append (delivered ++ [event])]
      exact List.prefix_append _ _
    have oldFront : linesOf delivered <+: linesOf run.sent := by
      rw [split, linesOf_append]
      exact List.prefix_append _ _
    cases event with
    | line line =>
        have pushed : pushLine job.output line =
            lastLines (linesOf (delivered ++ [JobEvent.line line])) := by
          rw [isOutput, pushLine_lastLines, linesOf_append]
          rfl
        change JobSound { job with output := pushLine job.output line } _
        rw [pushed]
        refine ⟨⟨_, isFront, rfl⟩, ?_, ?_, ?_, ?_⟩
        · intro code isDone
          exact sound.done code isDone
        · intro message isFailed
          exact sound.failed message isFailed
        · intro _
          refine ⟨notCancelled, _, newSplit, ?_, rfl⟩
          intro other member
          rcases List.mem_append.mp member with earlier | isLast
          · exact onlyLines other earlier
          · rw [List.mem_singleton.mp isLast]
            rfl
        · intro isCancelled
          exact sound.cancelled isCancelled
    | done code =>
        refine ⟨⟨_, oldFront, isOutput⟩, ?_, fun _ => nofun, nofun, nofun⟩
        intro other isDone
        rw [← JobStatus.done.inj isDone]
        exact posted
    | failed message =>
        refine ⟨⟨_, oldFront, isOutput⟩, fun _ => nofun, ?_, nofun, nofun⟩
        intro other isFailed
        rw [← JobStatus.failed.inj isFailed]
        exact posted
  · rw [if_pos rfl]
    refine ⟨sound.output, sound.done, sound.failed, ?_, sound.cancelled⟩
    intro isRunning
    unfold JobState.isTerminal at terminal
    rw [isRunning] at terminal
    exact (nomatch terminal)

theorem showsOwn_of_jobSound (runSound : RunSound run) (sound : JobSound job run) :
    ShowsOwn job run := by
  refine ⟨sound.output, sound.done, sound.failed, ?_⟩
  intro isRunning
  rcases sound.running isRunning with ⟨notCancelled, delivered, split, onlyLines, _⟩
  by_cases isEnded : run.phase = .ended
  · right
    rcases runSound.ended isEnded with cancelled | ⟨event, member, terminal⟩
    · rw [notCancelled] at cancelled
      exact (nomatch cancelled)
    · refine ⟨event, ?_, terminal⟩
      rw [split] at member
      rcases List.mem_append.mp member with earlier | waiting
      · rw [onlyLines event earlier] at terminal
        exact (nomatch terminal)
      · exact waiting
  · exact Or.inl isEnded

end Records

/-! ## The whole system -/

section Whole

variable {Id : Type} [DecidableEq Id] {system : System Id}

structure Sound (system : System Id) : Prop where
  runs : forall number run, system.runs number = some run -> number < system.started ∧
    RunSound run ∧ exists job, system.jobs run.id = some job ∧ number ≤ job.run
  jobs : forall id job, system.jobs id = some job ->
    exists run, system.runs job.run = some run ∧ run.id = id ∧ JobSound job run
  quiet : forall number run job, system.runs number = some run ->
    system.jobs run.id = some job -> number ≠ job.run -> run.quiet = true

omit [DecidableEq Id] in
theorem sound_empty : Sound (System.empty : System Id) :=
  ⟨nofun, nofun,
    nofun⟩

omit [DecidableEq Id] in
/-- An earlier run changes, and is still quiet. -/
theorem sound_setRun {number : Nat} {run later : Run Id} {job : JobState} (sound : Sound system)
    (stands : system.runs number = some run) (hasJob : system.jobs run.id = some job)
    (earlier : number ≠ job.run) (sameId : later.id = run.id) (isSound : RunSound later)
    (quiet : later.quiet = true) : Sound (system.setRun number later) := by
  have lookup : forall other, (system.setRun number later).runs other =
      if other = number then some later else system.runs other := by
    intro other
    unfold System.setRun
    exact Function.update_apply system.runs number (some later) other
  constructor
  case runs =>
    intro other found isFound
    rw [lookup] at isFound
    by_cases same : other = number
    · rw [if_pos same] at isFound
      rw [← Option.some.inj isFound, same, sameId]
      exact ⟨(sound.runs number run stands).1, isSound, (sound.runs number run stands).2.2⟩
    · rw [if_neg same] at isFound
      exact sound.runs other found isFound
  case jobs =>
    intro id found isFound
    rcases sound.jobs id found isFound with ⟨current, isCurrent, itsId, itsSound⟩
    refine ⟨current, ?_, itsId, itsSound⟩
    have different : found.run ≠ number := by
      intro same
      change system.jobs id = some found at isFound
      rw [same, stands] at isCurrent
      rw [← Option.some.inj isCurrent] at itsId
      rw [itsId, isFound] at hasJob
      exact earlier (same.symm.trans (congrArg JobState.run (Option.some.inj hasJob)))
    rw [lookup, if_neg different]
    exact isCurrent
  case quiet =>
    intro other found itsJob isFound isJob notCurrent
    rw [lookup] at isFound
    by_cases same : other = number
    · rw [if_pos same] at isFound
      rw [← Option.some.inj isFound]
      exact quiet
    · rw [if_neg same] at isFound
      exact sound.quiet other found itsJob isFound isJob notCurrent

/-- The current run of a job changes, and the job with it. -/
theorem sound_replace {number : Nat} {run later : Run Id} {job updated : JobState}
    (sound : Sound system) (stands : system.runs number = some run)
    (hasJob : system.jobs run.id = some job) (current : job.run = number)
    (sameId : later.id = run.id) (sameRun : updated.run = number) (isSound : RunSound later)
    (jobSound : JobSound updated later) :
    Sound ((system.setRun number later).setJob run.id updated) := by
  have lookupRun : forall other, ((system.setRun number later).setJob run.id updated).runs other =
      if other = number then some later else system.runs other := by
    intro other
    exact Function.update_apply system.runs number (some later) other
  have lookupJob : forall id, ((system.setRun number later).setJob run.id updated).jobs id =
      if id = run.id then some updated else system.jobs id := by
    intro id
    exact Function.update_apply system.jobs run.id (some updated) id
  constructor
  case runs =>
    intro other found isFound
    have known : other < system.started ∧ RunSound found ∧
        exists job, system.jobs found.id = some job ∧ other ≤ job.run := by
      rw [lookupRun] at isFound
      by_cases same : other = number
      · rw [if_pos same] at isFound
        rw [← Option.some.inj isFound, same, sameId]
        exact ⟨(sound.runs number run stands).1, isSound, (sound.runs number run stands).2.2⟩
      · rw [if_neg same] at isFound
        exact sound.runs other found isFound
    rcases known with ⟨early, itsSound, itsJob, isJob, notLater⟩
    refine ⟨early, itsSound, ?_⟩
    rw [lookupJob]
    by_cases same : found.id = run.id
    · rw [same, hasJob] at isJob
      rw [← Option.some.inj isJob, current, ← sameRun] at notLater
      exact ⟨updated, if_pos same, notLater⟩
    · exact ⟨itsJob, (if_neg same).trans isJob, notLater⟩
  case jobs =>
    intro id found isFound
    rw [lookupJob] at isFound
    by_cases same : id = run.id
    · rw [if_pos same] at isFound
      rw [← Option.some.inj isFound, lookupRun, if_pos sameRun, same]
      exact ⟨later, rfl, sameId, jobSound⟩
    · rw [if_neg same] at isFound
      rcases sound.jobs id found isFound with ⟨itsRun, isCurrent, itsId, itsSound⟩
      have different : found.run ≠ number := by
        intro isNumber
        rw [isNumber, stands] at isCurrent
        exact same (itsId.symm.trans (congrArg Run.id (Option.some.inj isCurrent).symm))
      rw [lookupRun, if_neg different]
      exact ⟨itsRun, isCurrent, itsId, itsSound⟩
  case quiet =>
    intro other found itsJob isFound isJob notCurrent
    rw [lookupRun] at isFound
    rw [lookupJob] at isJob
    by_cases same : other = number
    · rw [if_pos same] at isFound
      rw [← Option.some.inj isFound, sameId, if_pos rfl] at isJob
      rw [← Option.some.inj isJob, sameRun] at notCurrent
      exact absurd same notCurrent
    · rw [if_neg same] at isFound
      by_cases sameJob : found.id = run.id
      · apply sound.quiet other found job isFound (by rw [sameJob]; exact hasJob)
        rw [current]
        exact same
      · rw [if_neg sameJob] at isJob
        exact sound.quiet other found itsJob isFound isJob notCurrent

theorem setJob_same {id : Id} {job : JobState} (stands : system.jobs id = some job) :
    system.setJob id job = system := by
  unfold System.setJob
  rw [← stands, Function.update_eq_self]

theorem sound_turn (sound : Sound system) (number : Nat) (happening : Happening) :
    Sound (system.turn number happening) := by
  unfold System.turn
  split
  next run stands =>
    have turned : TurnOf run (run.turn happening) := turnOf_turn happening
    rcases sound.runs number run stands with ⟨_, runSound, job, hasJob, _⟩
    have isSound := runSound_turn runSound happening
    by_cases current : job.run = number
    · rcases sound.jobs run.id job hasJob with ⟨itsRun, isCurrent, _, jobSound⟩
      rw [current, stands] at isCurrent
      rw [← Option.some.inj isCurrent] at jobSound
      have replaced := sound_replace sound stands hasJob current turned.id current isSound
        (jobSound_turn jobSound happening)
      have unchanged : (system.setRun number (run.turn happening)).setJob run.id job =
          system.setRun number (run.turn happening) := setJob_same hasJob
      rw [unchanged] at replaced
      exact replaced
    · have quiet := sound.quiet number run job stands hasJob (Ne.symm current)
      exact sound_setRun sound stands hasJob (Ne.symm current) turned.id isSound
        (quiet_turn quiet happening)
  next => exact sound

theorem sound_deliver (sound : Sound system) (number : Nat) : Sound (system.deliver number) := by
  unfold System.deliver
  split
  next run stands =>
    split
    next event outbox next =>
      rcases sound.runs number run stands with ⟨_, runSound, job, hasJob, _⟩
      have current : job.run = number := by
        by_contra earlier
        have quiet := sound.quiet number run job stands hasJob (Ne.symm earlier)
        have empty := (quiet_iff.mp quiet).1
        rw [next] at empty
        exact (nomatch empty)
      rcases sound.jobs run.id job hasJob with ⟨itsRun, isCurrent, _, jobSound⟩
      rw [current, stands] at isCurrent
      rw [← Option.some.inj isCurrent] at jobSound
      have applied : (system.setRun number { run with outbox := outbox }).applyEvent run.id event =
          (system.setRun number { run with outbox := outbox }).setJob run.id (job.apply event) := by
        unfold System.applyEvent
        rw [show (system.setRun number { run with outbox := outbox }).jobs run.id = some job
          from hasJob]
      have popped : RunSound { run with outbox := outbox } := by
        rcases runSound.outbox with ⟨delivered, split⟩
        refine ⟨⟨delivered ++ [event], ?_⟩, runSound.terminal, runSound.ended⟩
        rw [split, next, List.append_assoc]
        rfl
      have sameRun : (job.apply event).run = number := by
        unfold JobState.apply
        split
        · exact current
        · cases event <;> simp only [JobState.receive, current]
      have delivered : JobSound (job.apply event) { run with outbox := outbox } :=
        jobSound_deliver jobSound next
      rw [applied]
      exact sound_replace sound stands hasJob current rfl sameRun popped delivered
    next => exact sound
  next => exact sound

theorem sound_cancelJob (sound : Sound system) (id : Id) : Sound (system.cancelJob id) := by
  unfold System.cancelJob
  split
  next job hasJob =>
    split
    next => exact sound
    next =>
      rcases sound.jobs id job hasJob with ⟨run, isCurrent, itsId, jobSound⟩
      rcases sound.runs job.run run isCurrent with ⟨_, runSound, _⟩
      have cancelled : system.cancelRun job.run = system.setRun job.run { run with cancel := true } := by
        unfold System.cancelRun
        rw [isCurrent]
      rw [cancelled, ← itsId]
      rw [← itsId] at hasJob
      have flagged : RunSound { run with cancel := true } :=
        ⟨runSound.outbox, runSound.terminal, fun _ => Or.inl rfl⟩
      have shown : JobSound { job with status := .cancelled } { run with cancel := true } :=
        ⟨jobSound.output, (fun _ => nofun), (fun _ => nofun), nofun, fun _ => rfl⟩
      exact sound_replace sound isCurrent hasJob rfl rfl rfl flagged shown
  next => exact sound

theorem sound_startJob (sound : Sound system) {id : Id} {cmd : String} {args : List String}
    (quietly : startsQuietly system (.startJob id cmd args)) :
    Sound (system.startJob id cmd args) := by
  unfold System.startJob
  split
  next => exact sound
  next accepted =>
    have earlier : forall number run, system.runs number = some run -> run.id = id ->
        run.quiet = true := by
      apply quietly
      intro job hasJob
      rw [hasJob] at accepted
      simpa using accepted
    have fresh : RunSound (⟨id, .starting, false, [], []⟩ : Run Id) :=
      ⟨⟨[], rfl⟩, fun _ member => absurd member List.not_mem_nil, nofun⟩
    have shown : JobSound ⟨cmd, args, .running, [], system.started⟩
        (⟨id, .starting, false, [], []⟩ : Run Id) := by
      constructor
      case output =>
        refine ⟨[], List.nil_prefix, ?_⟩
        rw [lastLines_nil]
      case done => exact fun _ => nofun
      case failed => exact fun _ => nofun
      case running =>
        refine fun _ => ⟨rfl, [], rfl, fun _ member => absurd member List.not_mem_nil, ?_⟩
        exact lastLines_nil.symm
      case cancelled => exact nofun
    constructor
    case runs =>
      intro number run stands
      have stands' := stands
      change Function.update system.runs system.started _ number = some run at stands'
      change number < system.started + 1 ∧ RunSound run ∧ exists job,
        Function.update system.jobs id _ run.id = some job ∧ number ≤ job.run
      rw [Function.update_apply] at stands' ⊢
      by_cases isNew : number = system.started
      · rw [if_pos isNew] at stands'
        rw [← Option.some.inj stands', isNew]
        exact ⟨Nat.lt_succ_self _, fresh, _, if_pos rfl, Nat.le_refl _⟩
      · rw [if_neg isNew] at stands'
        rcases sound.runs number run stands' with ⟨early, runSound, job, hasJob, notLater⟩
        refine ⟨Nat.lt_succ_of_lt early, runSound, ?_⟩
        by_cases sameId : run.id = id
        · exact ⟨_, if_pos sameId, Nat.le_of_lt early⟩
        · exact ⟨job, (if_neg sameId).trans hasJob, notLater⟩
    case jobs =>
      intro other job hasJob
      have hasJob' := hasJob
      change Function.update system.jobs id _ other = some job at hasJob'
      change exists run, Function.update system.runs system.started _ job.run = some run ∧
        run.id = other ∧ JobSound job run
      rw [Function.update_apply] at hasJob' ⊢
      by_cases isThis : other = id
      · rw [if_pos isThis] at hasJob'
        rw [← Option.some.inj hasJob', isThis]
        exact ⟨_, if_pos rfl, rfl, shown⟩
      · rw [if_neg isThis] at hasJob'
        rcases sound.jobs other job hasJob' with ⟨run, isCurrent, itsId, jobSound⟩
        have old := (sound.runs job.run run isCurrent).1
        exact ⟨run, (if_neg (Nat.ne_of_lt old)).trans isCurrent, itsId, jobSound⟩
    case quiet =>
      intro number run job stands hasJob notCurrent
      have stands' := stands
      have hasJob' := hasJob
      change Function.update system.runs system.started _ number = some run at stands'
      change Function.update system.jobs id _ run.id = some job at hasJob'
      rw [Function.update_apply] at stands' hasJob'
      by_cases isNew : number = system.started
      · rw [if_pos isNew] at stands'
        rw [← Option.some.inj stands', if_pos rfl] at hasJob'
        rw [← Option.some.inj hasJob'] at notCurrent
        exact absurd isNew notCurrent
      · rw [if_neg isNew] at stands'
        by_cases sameId : run.id = id
        · exact earlier number run stands' sameId
        · rw [if_neg sameId] at hasJob'
          exact sound.quiet number run job stands' hasJob' notCurrent

theorem sound_step {action : Action Id} (sound : Sound system)
    (quietly : startsQuietly system action) : Sound (system.step action) := by
  cases action with
  | startJob id cmd args => exact sound_startJob sound quietly
  | cancelJob id => exact sound_cancelJob sound id
  | turn run happening => exact sound_turn sound run happening
  | deliver run => exact sound_deliver sound run

/-! ## Cancelled runs -/

/-- Runs are numbered below what was started. -/
def Numbered (system : System Id) : Prop :=
  forall number run, system.runs number = some run -> number < system.started

/-- A cancelled run is there, with at most so many turns left. -/
structure WindsDown (system : System Id) (number turns : Nat) : Prop where
  numbered : Numbered system
  within : exists run, system.runs number = some run ∧ run.cancel = true ∧
    run.phase.turnsLeft ≤ turns

section WindsDown

variable {number turns after : Nat} (winds : WindsDown system number turns)

include winds

omit [DecidableEq Id] in
theorem WindsDown.setRun {other : Nat} {old new : Run Id} (isOld : system.runs other = some old)
    (same : other = number -> old.cancel = true -> old.phase.turnsLeft ≤ turns ->
      new.cancel = true ∧ new.phase.turnsLeft ≤ after)
    (different : other ≠ number -> turns ≤ after) :
    WindsDown (system.setRun other new) number after := by
  have lookup : forall index, (system.setRun other new).runs index =
      if index = other then some new else system.runs index :=
    Function.update_apply system.runs other (some new)
  rcases winds.within with ⟨run, stands, cancelled, left⟩
  constructor
  · intro index found isFound
    rw [lookup] at isFound
    by_cases isOther : index = other
    · rw [isOther]
      exact winds.numbered other old isOld
    · rw [if_neg isOther] at isFound
      exact winds.numbered index found isFound
  · rw [lookup]
    by_cases isThis : number = other
    · rw [isThis, isOld] at stands
      rw [← Option.some.inj stands] at cancelled left
      exact ⟨new, if_pos isThis, same isThis.symm cancelled left⟩
    · exact ⟨run, (if_neg isThis).trans stands, cancelled,
        Nat.le_trans left (different (Ne.symm isThis))⟩

theorem WindsDown.startJob (id : Id) (cmd : String) (args : List String) :
    WindsDown (system.startJob id cmd args) number turns := by
  unfold System.startJob
  split
  next => exact winds
  next =>
    rcases winds.within with ⟨run, stands, cancelled, left⟩
    have old : number ≠ system.started := Nat.ne_of_lt (winds.numbered number run stands)
    constructor
    · intro index found isFound
      change Function.update system.runs system.started _ index = some found at isFound
      change index < system.started + 1
      rw [Function.update_apply] at isFound
      by_cases isNew : index = system.started
      · rw [isNew]
        exact Nat.lt_succ_self _
      · rw [if_neg isNew] at isFound
        exact Nat.lt_succ_of_lt (winds.numbered index found isFound)
    · refine ⟨run, ?_, cancelled, left⟩
      change Function.update system.runs system.started _ number = some run
      rw [Function.update_of_ne old]
      exact stands

theorem WindsDown.cancelJob (id : Id) : WindsDown (system.cancelJob id) number turns := by
  unfold System.cancelJob
  split
  next job hasJob =>
    split
    next => exact winds
    next =>
      unfold System.cancelRun
      split
      next current isCurrent =>
        have cancels := @WindsDown.setRun _ _ _ _ turns winds job.run current
          { current with cancel := true } isCurrent (fun _ _ left => ⟨rfl, left⟩)
          (fun _ => Nat.le_refl _)
        exact ⟨cancels.numbered, cancels.within⟩
      next => exact ⟨winds.numbered, winds.within⟩
  next => exact winds

omit [DecidableEq Id] in
theorem WindsDown.turn (other : Nat) (happening : Happening) :
    WindsDown (system.turn other happening) number
      (turns - turnsOf number [(.turn other happening : Action Id)]) := by
  have once : turnsOf number [(.turn other happening : Action Id)] =
      if other = number then 1 else 0 := by
    by_cases same : other = number <;> simp [turnsOf, same]
  rw [once]
  unfold System.turn
  split
  next found isFound =>
    refine winds.setRun isFound (fun same cancelled left => ?_) fun different => ?_
    · rw [if_pos same, (turnOf_turn happening).cancel]
      exact ⟨cancelled,
        Nat.le_trans (turnsLeft_turn cancelled happening) (Nat.sub_le_sub_right left 1)⟩
    · rw [if_neg different, Nat.sub_zero]
  next nothing =>
    rcases winds.within with ⟨run, stands, _⟩
    have different : other ≠ number := by
      intro same
      rw [same, stands] at nothing
      cases nothing
    rw [if_neg different]
    exact winds

theorem WindsDown.deliver (other : Nat) : WindsDown (system.deliver other) number turns := by
  unfold System.deliver
  split
  next found isFound =>
    split
    next event outbox next =>
      have popped := @WindsDown.setRun _ _ _ _ turns winds other found
        { found with outbox := outbox } isFound (fun _ cancelled left => ⟨cancelled, left⟩)
        (fun _ => Nat.le_refl _)
      unfold System.applyEvent
      split
      next => exact ⟨popped.numbered, popped.within⟩
      next => exact popped
    next => exact winds
  next => exact winds

theorem WindsDown.step (action : Action Id) :
    WindsDown (system.step action) number (turns - turnsOf number [action]) := by
  cases action with
  | startJob id cmd args => exact winds.startJob id cmd args
  | cancelJob id => exact winds.cancelJob id
  | turn other happening => exact winds.turn other happening
  | deliver other => exact winds.deliver other

end WindsDown

theorem WindsDown.after {number turns : Nat} (winds : WindsDown system number turns)
    (more : List (Action Id)) :
    WindsDown (finalState System.step system more) number (turns - turnsOf number more) := by
  induction more generalizing system turns with
  | nil => exact winds
  | cons action rest ih =>
      have split : turnsOf number (action :: rest) = turnsOf number [action] + turnsOf number rest := by
        have apart : action :: rest = [action] ++ rest := rfl
        unfold turnsOf
        rw [apart, List.countP_append]
      rw [split, Nat.sub_add_eq]
      exact ih (winds.step action)

/-! ## The records of a system -/

theorem Sound.ownRecords (sound : Sound system) : OwnRecords system := by
  constructor
  case shows =>
    intro id job hasJob
    rcases sound.jobs id job hasJob with ⟨run, isCurrent, itsId, jobSound⟩
    exact ⟨run, isCurrent, itsId,
      showsOwn_of_jobSound (sound.runs job.run run isCurrent).2.1 jobSound⟩
  case reachable =>
    intro number run stands live notCancelled
    rcases sound.runs number run stands with ⟨_, runSound, job, hasJob, _⟩
    have notEnded : run.phase ≠ .ended := by
      intro isEnded
      unfold Run.isLive at live
      rw [isEnded] at live
      exact (nomatch live)
    have current : job.run = number := by
      by_contra earlier
      have quiet := sound.quiet number run job stands hasJob (Ne.symm earlier)
      rcases (quiet_iff.mp quiet).2 with isEnded | ⟨_, cancelled⟩
      · exact notEnded isEnded
      · rw [notCancelled] at cancelled
        exact (nomatch cancelled)
    refine ⟨job, hasJob, current, ?_⟩
    rcases sound.jobs run.id job hasJob with ⟨itsRun, isCurrent, _, jobSound⟩
    rw [current, stands] at isCurrent
    rw [← Option.some.inj isCurrent] at jobSound
    cases status : job.status with
    | running => rfl
    | done code => exact absurd (runSound.terminal _ (jobSound.done code status) rfl) notEnded
    | failed message =>
        exact absurd (runSound.terminal _ (jobSound.failed message status) rfl) notEnded
    | cancelled =>
        have cancelled := jobSound.cancelled status
        rw [notCancelled] at cancelled
        exact (nomatch cancelled)
  case killed =>
    intro number run stands cancelled more twice
    have numbered : Numbered system := fun other found isFound => (sound.runs other found isFound).1
    have winds : WindsDown system number 2 :=
      ⟨numbered, run, stands, cancelled, turnsLeft_le run.phase⟩
    rcases (winds.after more).within with ⟨later, isLater, _, left⟩
    exact ⟨later, isLater, isLive_of_turnsLeft (by omega)⟩
  case latest =>
    intro id job hasJob number run stands itsId
    rcases sound.runs number run stands with ⟨_, _, other, isOther, notLater⟩
    rw [itsId, hasJob] at isOther
    rw [Option.some.inj isOther]
    exact notLater

/-- In every run of the system in which an id is started again only when its
earlier runs are quiet, a job's record belongs to its own run. -/
theorem records_own {actions : List (Action Id)}
    (quietly : Guarded System.step startsQuietly System.empty actions) :
    OwnRecords (finalState System.step (System.empty : System Id) actions) := by
  have sound : Sound (finalState System.step (System.empty : System Id) actions) :=
    invariant_of_step (fun _ _ holds allowed => sound_step holds allowed) sound_empty quietly
  exact sound.ownRecords

end Whole

/-! ## An id that is used again -/

/-- A job that is cancelled and started again when its process is gone. -/
theorem restarted_after_teardown : OwnRecords (finalState System.step (System.empty : System Nat)
    [.startJob 1 "serve" [], .cancelJob 1, .turn 0 .idle, .turn 0 .idle, .startJob 1 "serve" []]) := by
  have quietly : Guarded System.step startsQuietly (System.empty : System Nat)
      [.startJob 1 "serve" [], .cancelJob 1, .turn 0 .idle, .turn 0 .idle,
        .startJob 1 "serve" []] := by
    refine ⟨fun _ number run stands => (nomatch stands), trivial, trivial, trivial, ?_, trivial⟩
    intro _ number run stands _
    cases number with
    | zero =>
        have ended : run = ⟨1, .ended, true, [], []⟩ := (Option.some.inj stands).symm
        rw [ended]
        rfl
    | succ number => exact (nomatch stands)
  exact records_own quietly

/-- A line that the first run of an id posted before it was cancelled is shown
by the second. -/
theorem late_line_shown : ¬ OwnRecords (finalState System.step (System.empty : System Nat)
    [.startJob 1 "serve" [], .turn 0 .idle, .turn 0 .idle, .turn 0 (.outLine "old"),
      .cancelJob 1, .startJob 1 "serve" [], .deliver 0]) := by
  intro own
  have hasJob : (finalState System.step (System.empty : System Nat)
      [.startJob 1 "serve" [], .turn 0 .idle, .turn 0 .idle, .turn 0 (.outLine "old"),
        .cancelJob 1, .startJob 1 "serve" [], .deliver 0]).jobs 1 =
      some ⟨"serve", [], .running, ["old"], 1⟩ := by decide
  have hasRun : (finalState System.step (System.empty : System Nat)
      [.startJob 1 "serve" [], .turn 0 .idle, .turn 0 .idle, .turn 0 (.outLine "old"),
        .cancelJob 1, .startJob 1 "serve" [], .deliver 0]).runs 1 =
      some ⟨1, .starting, false, [], []⟩ := by decide
  rcases own.shows 1 _ hasJob with ⟨run, isCurrent, _, shows⟩
  change _ = some run at isCurrent
  rw [hasRun] at isCurrent
  rcases shows.output with ⟨shown, front, isOutput⟩
  rw [← Option.some.inj isCurrent] at front
  rw [List.prefix_nil.mp front, lastLines_nil] at isOutput
  exact (nomatch isOutput)

end Jobs
end Dashboard
end RocmCli
