import RocmCli.Support.Runs
import Mathlib.Data.List.Infix

namespace RocmCli
namespace Dashboard
namespace ClientHistory

open Runs

/-!
# History of a subscribing client

The runner pushes what it produces to a ring and then broadcasts it.  A client
has its own queue of the channel from the time it is accepted.  When it
subscribes it is first given what the rings hold, and then what comes out of
its queue.
-/

/-- Snapshot history kept for late-joining clients. -/
def ringCap : Nat := 30

/-- Benchmark-row history kept for late-joining clients. -/
def benchRingCap : Nat := 200

/-- Push to a ring, which drops its oldest item when it is full. -/
def pushRing (cap : Nat) (ring : List Item) (item : Item) : List Item :=
  (if ring.length = cap then ring.drop 1 else ring) ++ [item]

inductive Event (Snapshot Row : Type) where
  | snapshot (snapshot : Snapshot)
  | benchmarkRowsAppended (rows : List Row)
  | other
  deriving DecidableEq, Repr

/-- Where the runner is in its cycle. -/
inductive RunnerPhase (Snapshot Row : Type) where
  | cycle
  | snapshotPushed (snapshot : Snapshot)
  | snapshotSent
  | rowsPushed (rows : List Row)
  deriving DecidableEq, Repr

/-- Where the task of the client is. -/
inductive ClientPhase (Snapshot : Type) where
  | absent
  | waiting
  | replaying (backlog : List Snapshot)
  | streaming
  deriving DecidableEq, Repr

/-- The runner, the rings, one client and its queue.  `snapshots` and `rows`
are all that was produced, and `joinedAt` and `joinedRowsAt` how much of it when
the client was given the rings. -/
structure Feed (Snapshot Row : Type) where
  runner : RunnerPhase Snapshot Row
  ring : List Snapshot
  benchRing : List Row
  snapshots : List Snapshot
  rows : List Row
  client : ClientPhase Snapshot
  queue : List (Event Snapshot Row)
  written : List (Event Snapshot Row)
  joinedAt : Nat
  joinedRowsAt : Nat
  deriving DecidableEq, Repr

inductive Action (Snapshot Row : Type) where
  | pushSnapshot (snapshot : Snapshot)
  | drainRows (rows : List Row)
  | send
  | sendOther
  | accept
  | subscribe
  | replay
  | receive
  deriving DecidableEq, Repr

variable {Snapshot Row : Type}

namespace Feed

def start : Feed Snapshot Row where
  runner := .cycle
  ring := []
  benchRing := []
  snapshots := []
  rows := []
  client := .absent
  queue := []
  written := []
  joinedAt := 0
  joinedRowsAt := 0

/-- A broadcast reaches a client that was accepted. -/
def broadcast (feed : Feed Snapshot Row) (event : Event Snapshot Row) : Feed Snapshot Row :=
  match feed.client with
  | .absent => feed
  | .waiting | .replaying _ | .streaming => { feed with queue := feed.queue ++ [event] }

def pushSnapshot (feed : Feed Snapshot Row) (snapshot : Snapshot) : Feed Snapshot Row :=
  match feed.runner with
  | .cycle =>
      { feed with
        runner := .snapshotPushed snapshot
        ring := pushRing ringCap feed.ring snapshot
        snapshots := feed.snapshots ++ [snapshot] }
  | .snapshotPushed _ | .snapshotSent | .rowsPushed _ => feed

/-- Rows that landed since the last tick; nothing is sent when there are none. -/
def drainRows (feed : Feed Snapshot Row) (rows : List Row) : Feed Snapshot Row :=
  match feed.runner with
  | .snapshotSent =>
      if rows.isEmpty then { feed with runner := .cycle }
      else
        { feed with
          runner := .rowsPushed rows
          benchRing := rows.foldl (pushRing benchRingCap) feed.benchRing
          rows := feed.rows ++ rows }
  | .cycle | .snapshotPushed _ | .rowsPushed _ => feed

def send (feed : Feed Snapshot Row) : Feed Snapshot Row :=
  match feed.runner with
  | .snapshotPushed snapshot => { feed with runner := .snapshotSent }.broadcast (.snapshot snapshot)
  | .rowsPushed rows => { feed with runner := .cycle }.broadcast (.benchmarkRowsAppended rows)
  | .cycle | .snapshotSent => feed

/-- The client asks for events, and the snapshots in the ring are to be written
first. -/
def subscribe (feed : Feed Snapshot Row) : Feed Snapshot Row :=
  match feed.client with
  | .waiting =>
      { feed with client := .replaying feed.ring, joinedAt := feed.snapshots.length }
  | .absent | .replaying _ | .streaming => feed

/-- Write the next snapshot of the backlog, or after the last one all rows. -/
def replay (feed : Feed Snapshot Row) : Feed Snapshot Row :=
  match feed.client with
  | .replaying (snapshot :: backlog) =>
      { feed with
        client := .replaying backlog
        written := feed.written ++ [Event.snapshot snapshot] }
  | .replaying [] =>
      { feed with
        client := .streaming
        joinedRowsAt := feed.rows.length
        written := if feed.benchRing.isEmpty then feed.written
          else feed.written ++ [Event.benchmarkRowsAppended feed.benchRing] }
  | .absent | .waiting | .streaming => feed

/-- Take the next event of the queue: it is written once the client has
subscribed, and dropped before. -/
def receive (feed : Feed Snapshot Row) : Feed Snapshot Row :=
  match feed.client, feed.queue with
  | .waiting, _ :: queue => { feed with queue := queue }
  | .streaming, event :: queue => { feed with queue := queue, written := feed.written ++ [event] }
  | .waiting, [] | .streaming, [] | .absent, _ | .replaying _, _ => feed

def accept (feed : Feed Snapshot Row) : Feed Snapshot Row :=
  match feed.client with
  | .absent => { feed with client := .waiting }
  | .waiting | .replaying _ | .streaming => feed

def step (feed : Feed Snapshot Row) : Action Snapshot Row -> Feed Snapshot Row
  | .pushSnapshot snapshot => feed.pushSnapshot snapshot
  | .drainRows rows => feed.drainRows rows
  | .send => feed.send
  | .sendOther => feed.broadcast .other
  | .accept => feed.accept
  | .subscribe => feed.subscribe
  | .replay => feed.replay
  | .receive => feed.receive

end Feed

/-! ## What the client sees -/

def snapshotsOf (events : List (Event Snapshot Row)) : List Snapshot :=
  events.filterMap fun event => match event with
    | .snapshot snapshot => some snapshot
    | .benchmarkRowsAppended _ | .other => none

def rowsOf (events : List (Event Snapshot Row)) : List Row :=
  events.flatMap fun event => match event with
    | .benchmarkRowsAppended rows => rows
    | .snapshot _ | .other => []

/-- A contiguous run of what was produced, which starts among the last `cap`
items of the first `joined`. -/
def IsRun (cap joined : Nat) (produced seen : List Item) : Prop :=
  exists front back, produced = front ++ seen ++ back ∧
    front.length ≤ joined ∧ joined ≤ front.length + cap

/-- The snapshots and the rows that were written are such runs. -/
structure SeesOnce (feed : Feed Snapshot Row) : Prop where
  snapshots : IsRun ringCap feed.joinedAt feed.snapshots (snapshotsOf feed.written)
  rows : IsRun benchRingCap feed.joinedRowsAt feed.rows (rowsOf feed.written)

/-- The client is given a ring when nothing that the ring holds is still to
come out of its queue. -/
def joinsCleanly (feed : Feed Snapshot Row) : Action Snapshot Row -> Prop
  | .subscribe => (forall snapshot, feed.runner ≠ .snapshotPushed snapshot) ∧
      snapshotsOf feed.queue = []
  | .replay => feed.client = .replaying [] ->
      (forall rows, feed.runner ≠ .rowsPushed rows) ∧ rowsOf feed.queue = []
  | .pushSnapshot _ | .drainRows _ | .send | .sendOther | .accept | .receive => True

/-! ## Rings -/

section Rings

variable {Item : Type} {cap : Nat}

/-- A ring holds the last items of what was pushed. -/
def Holds (cap : Nat) (ring produced : List Item) : Prop :=
  exists front, produced = front ++ ring ∧ ring.length ≤ cap ∧ (front = [] ∨ ring.length = cap)

theorem holds_nil : Holds cap ([] : List Item) [] := ⟨[], rfl, Nat.zero_le cap, Or.inl rfl⟩

theorem holds_push {ring produced : List Item} (positive : 0 < cap) (holds : Holds cap ring produced)
    (item : Item) : Holds cap (pushRing cap ring item) (produced ++ [item]) := by
  rcases holds with ⟨front, isProduced, bounded, full⟩
  unfold pushRing
  by_cases isFull : ring.length = cap
  · rw [if_pos isFull]
    cases ring with
    | nil =>
        rw [← isFull] at positive
        exact absurd positive (Nat.lt_irrefl 0)
    | cons oldest rest =>
        have size : (rest ++ [item]).length = cap := by
          rw [← isFull, List.length_append]
          rfl
        refine ⟨front ++ [oldest], ?_, size.le, Or.inr size⟩
        rw [isProduced]
        simp
  · rw [if_neg isFull]
    refine ⟨front, ?_, ?_, Or.inl (full.resolve_right isFull)⟩
    · rw [isProduced, List.append_assoc]
    · rw [List.length_append, List.length_singleton]
      omega

theorem holds_foldl {ring produced : List Item} (positive : 0 < cap)
    (holds : Holds cap ring produced) (items : List Item) :
    Holds cap (items.foldl (pushRing cap) ring) (produced ++ items) := by
  induction items generalizing ring produced with
  | nil =>
      rw [List.append_nil]
      exact holds
  | cons item rest ih =>
      have later := ih (holds_push positive holds item)
      rw [List.append_assoc] at later
      exact later

end Rings

/-! ## The invariant -/

section Invariant

variable {Item : Type} {cap joined : Nat} {produced seen coming : List Item}

/-- What was seen is followed, in what was produced, by what is still to come. -/
def Follows (cap joined : Nat) (produced seen coming : List Item) : Prop :=
  exists front, produced = front ++ seen ++ coming ∧ front.length ≤ joined ∧
    joined ≤ front.length + cap

theorem Follows.isRun (follows : Follows cap joined produced seen coming) :
    IsRun cap joined produced seen := by
  rcases follows with ⟨front, isProduced, bounds⟩
  exact ⟨front, coming, isProduced, bounds⟩

theorem isRun_nil : IsRun cap 0 produced [] :=
  ⟨[], produced, rfl, Nat.le_refl 0, Nat.zero_le _⟩

theorem Follows.produce (follows : Follows cap joined produced seen coming) (items : List Item) :
    Follows cap joined (produced ++ items) seen (coming ++ items) := by
  rcases follows with ⟨front, isProduced, bounds⟩
  refine ⟨front, ?_, bounds⟩
  rw [isProduced, List.append_assoc]

theorem Follows.see {items : List Item}
    (follows : Follows cap joined produced seen (items ++ coming)) :
    Follows cap joined produced (seen ++ items) coming := by
  rcases follows with ⟨front, isProduced, bounds⟩
  refine ⟨front, ?_, bounds⟩
  rw [isProduced]
  simp only [List.append_assoc]

/-- Being given a ring, when nothing it holds is still to come. -/
theorem follows_of_holds {ring : List Item} (holds : Holds cap ring produced) :
    Follows cap produced.length produced [] ring := by
  rcases holds with ⟨front, isProduced, bounded, full⟩
  refine ⟨front, ?_, ?_, ?_⟩
  · rw [isProduced, List.append_nil]
  · rw [isProduced, List.length_append]
    exact Nat.le_add_right _ _
  · rw [isProduced, List.length_append]
    exact Nat.add_le_add_left bounded _

/-- What the runner has pushed and not yet sent. -/
def unsentSnapshots : RunnerPhase Snapshot Row -> List Snapshot
  | .snapshotPushed snapshot => [snapshot]
  | .cycle | .snapshotSent | .rowsPushed _ => []

def unsentRows : RunnerPhase Snapshot Row -> List Row
  | .rowsPushed rows => rows
  | .cycle | .snapshotPushed _ | .snapshotSent => []

variable {feed : Feed Snapshot Row}

def SnapshotsFollow (feed : Feed Snapshot Row) : Prop :=
  match feed.client with
  | .absent | .waiting => feed.written = [] ∧ feed.joinedAt = 0
  | .replaying backlog => Follows ringCap feed.joinedAt feed.snapshots (snapshotsOf feed.written)
      (backlog ++ (snapshotsOf feed.queue ++ unsentSnapshots feed.runner))
  | .streaming => Follows ringCap feed.joinedAt feed.snapshots (snapshotsOf feed.written)
      (snapshotsOf feed.queue ++ unsentSnapshots feed.runner)

def RowsFollow (feed : Feed Snapshot Row) : Prop :=
  match feed.client with
  | .absent | .waiting | .replaying _ => rowsOf feed.written = [] ∧ feed.joinedRowsAt = 0
  | .streaming => Follows benchRingCap feed.joinedRowsAt feed.rows (rowsOf feed.written)
      (rowsOf feed.queue ++ unsentRows feed.runner)

structure Sound (feed : Feed Snapshot Row) : Prop where
  ring : Holds ringCap feed.ring feed.snapshots
  benchRing : Holds benchRingCap feed.benchRing feed.rows
  snapshots : SnapshotsFollow feed
  rows : RowsFollow feed

theorem sound_start : Sound (Feed.start : Feed Snapshot Row) :=
  ⟨holds_nil, holds_nil, ⟨rfl, rfl⟩, ⟨rfl, rfl⟩⟩

theorem Sound.seesOnce (sound : Sound feed) : SeesOnce feed := by
  rcases sound with ⟨_, _, snapshots, rows⟩
  unfold SnapshotsFollow at snapshots
  unfold RowsFollow at rows
  constructor
  · split at snapshots
    next =>
      rw [snapshots.1, snapshots.2]
      exact isRun_nil
    next =>
      rw [snapshots.1, snapshots.2]
      exact isRun_nil
    next => exact snapshots.isRun
    next => exact snapshots.isRun
  · split at rows
    next =>
      rw [rows.1, rows.2]
      exact isRun_nil
    next =>
      rw [rows.1, rows.2]
      exact isRun_nil
    next =>
      rw [rows.1, rows.2]
      exact isRun_nil
    next => exact rows.isRun

/-! ## One step -/

theorem snapshotsOf_append (first second : List (Event Snapshot Row)) :
    snapshotsOf (first ++ second) = snapshotsOf first ++ snapshotsOf second :=
  List.filterMap_append

theorem rowsOf_append (first second : List (Event Snapshot Row)) :
    rowsOf (first ++ second) = rowsOf first ++ rowsOf second :=
  List.flatMap_append

theorem sound_pushSnapshot (sound : Sound feed) (snapshot : Snapshot) :
    Sound (feed.pushSnapshot snapshot) := by
  rcases feed with ⟨runner, ring, benchRing, snapshots, rows, client, queue, written, at1, at2⟩
  rcases sound with ⟨holds, holdsRows, snapshotsFollow, rowsFollow⟩
  cases runner with
  | cycle =>
      refine ⟨holds_push (by decide) holds snapshot, holdsRows, ?_, ?_⟩
      · cases client with
        | absent => exact snapshotsFollow
        | waiting => exact snapshotsFollow
        | replaying backlog =>
            have more := Follows.produce snapshotsFollow [snapshot]
            simpa only [SnapshotsFollow, Feed.pushSnapshot, unsentSnapshots, List.append_nil,
              List.append_assoc] using more
        | streaming =>
            have more := Follows.produce snapshotsFollow [snapshot]
            simpa only [SnapshotsFollow, Feed.pushSnapshot, unsentSnapshots, List.append_nil,
              List.append_assoc] using more
      · cases client <;> exact rowsFollow
  | snapshotPushed _ => exact ⟨holds, holdsRows, snapshotsFollow, rowsFollow⟩
  | snapshotSent => exact ⟨holds, holdsRows, snapshotsFollow, rowsFollow⟩
  | rowsPushed _ => exact ⟨holds, holdsRows, snapshotsFollow, rowsFollow⟩

theorem sound_drainRows (sound : Sound feed) (drained : List Row) :
    Sound (feed.drainRows drained) := by
  rcases feed with ⟨runner, ring, benchRing, snapshots, rows, client, queue, written, at1, at2⟩
  rcases sound with ⟨holds, holdsRows, snapshotsFollow, rowsFollow⟩
  cases runner with
  | snapshotSent =>
      dsimp only [Feed.drainRows]
      split
      next => exact ⟨holds, holdsRows, snapshotsFollow, rowsFollow⟩
      next =>
        refine ⟨holds, holds_foldl (by decide) holdsRows drained, ?_, ?_⟩
        · cases client <;> exact snapshotsFollow
        · cases client with
          | absent => exact rowsFollow
          | waiting => exact rowsFollow
          | replaying backlog => exact rowsFollow
          | streaming =>
              have more := Follows.produce rowsFollow drained
              simpa only [RowsFollow, unsentRows, List.append_nil, List.append_assoc] using more
  | cycle => exact ⟨holds, holdsRows, snapshotsFollow, rowsFollow⟩
  | snapshotPushed _ => exact ⟨holds, holdsRows, snapshotsFollow, rowsFollow⟩
  | rowsPushed _ => exact ⟨holds, holdsRows, snapshotsFollow, rowsFollow⟩

/-- An event that brings what was pushed to the queue of the client. -/
theorem sound_broadcast (sound : Sound feed) (event : Event Snapshot Row)
    (runner : RunnerPhase Snapshot Row)
    (snapshots : unsentSnapshots feed.runner = snapshotsOf [event] ++ unsentSnapshots runner)
    (rows : unsentRows feed.runner = rowsOf [event] ++ unsentRows runner) :
    Sound ({ feed with runner := runner }.broadcast event) := by
  rcases feed with ⟨old, ring, benchRing, produced, rowList, client, queue, written, at1, at2⟩
  rcases sound with ⟨holds, holdsRows, snapshotsFollow, rowsFollow⟩
  dsimp only at snapshots rows
  cases client with
  | absent => exact ⟨holds, holdsRows, snapshotsFollow, rowsFollow⟩
  | waiting => exact ⟨holds, holdsRows, snapshotsFollow, rowsFollow⟩
  | replaying backlog =>
      refine ⟨holds, holdsRows, ?_, rowsFollow⟩
      dsimp only [SnapshotsFollow, Feed.broadcast] at snapshotsFollow ⊢
      rw [snapshotsOf_append, List.append_assoc (snapshotsOf queue), ← snapshots]
      exact snapshotsFollow
  | streaming =>
      refine ⟨holds, holdsRows, ?_, ?_⟩
      · dsimp only [SnapshotsFollow, Feed.broadcast] at snapshotsFollow ⊢
        rw [snapshotsOf_append, List.append_assoc, ← snapshots]
        exact snapshotsFollow
      · dsimp only [RowsFollow, Feed.broadcast] at rowsFollow ⊢
        rw [rowsOf_append, List.append_assoc, ← rows]
        exact rowsFollow

theorem sound_send (sound : Sound feed) : Sound feed.send := by
  unfold Feed.send
  split
  next snapshot isPushed =>
    apply sound_broadcast sound
    · rw [isPushed]
      rfl
    · rw [isPushed]
      rfl
  next rows isPushed =>
    apply sound_broadcast sound
    · rw [isPushed]
      rfl
    · rw [isPushed]
      simp [unsentRows, rowsOf]
  all_goals exact sound

theorem sound_accept (sound : Sound feed) : Sound feed.accept := by
  unfold Feed.accept
  split
  next isAbsent =>
    rcases sound with ⟨holds, holdsRows, snapshotsFollow, rowsFollow⟩
    unfold SnapshotsFollow at snapshotsFollow
    unfold RowsFollow at rowsFollow
    rw [isAbsent] at snapshotsFollow rowsFollow
    exact ⟨holds, holdsRows, snapshotsFollow, rowsFollow⟩
  all_goals exact sound

theorem sound_subscribe (sound : Sound feed)
    (clean : joinsCleanly feed (.subscribe : Action Snapshot Row)) : Sound feed.subscribe := by
  unfold Feed.subscribe
  split
  next isWaiting =>
    rcases sound with ⟨holds, holdsRows, snapshotsFollow, rowsFollow⟩
    unfold SnapshotsFollow at snapshotsFollow
    unfold RowsFollow at rowsFollow
    rw [isWaiting] at snapshotsFollow rowsFollow
    refine ⟨holds, holdsRows, ?_, rowsFollow⟩
    have sent : unsentSnapshots feed.runner = [] := by
      unfold unsentSnapshots
      split
      next snapshot isPushed => exact absurd isPushed (clean.1 snapshot)
      all_goals rfl
    have joined := follows_of_holds holds
    dsimp only [SnapshotsFollow]
    rw [snapshotsFollow.1, clean.2, sent, List.append_nil, List.append_nil]
    exact joined
  all_goals exact sound

theorem sound_replay (sound : Sound feed)
    (clean : joinsCleanly feed (.replay : Action Snapshot Row)) : Sound feed.replay := by
  unfold Feed.replay
  split
  next snapshot backlog isReplaying =>
    rcases sound with ⟨holds, holdsRows, snapshotsFollow, rowsFollow⟩
    unfold SnapshotsFollow at snapshotsFollow
    unfold RowsFollow at rowsFollow
    rw [isReplaying] at snapshotsFollow rowsFollow
    refine ⟨holds, holdsRows, ?_, ?_⟩
    · dsimp only [SnapshotsFollow]
      rw [snapshotsOf_append]
      have next : Follows ringCap feed.joinedAt feed.snapshots (snapshotsOf feed.written)
          ([snapshot] ++ (backlog ++ (snapshotsOf feed.queue ++ unsentSnapshots feed.runner))) :=
        snapshotsFollow
      exact next.see
    · dsimp only [RowsFollow]
      rw [rowsOf_append, rowsFollow.1]
      exact ⟨rfl, rowsFollow.2⟩
  next isReplaying =>
    rcases sound with ⟨holds, holdsRows, snapshotsFollow, rowsFollow⟩
    unfold SnapshotsFollow at snapshotsFollow
    unfold RowsFollow at rowsFollow
    rw [isReplaying] at snapshotsFollow rowsFollow
    rcases clean isReplaying with ⟨noRows, emptyQueue⟩
    have sent : unsentRows feed.runner = [] := by
      unfold unsentRows
      split
      next rows isPushed => exact absurd isPushed (noRows rows)
      all_goals rfl
    have joined := (follows_of_holds holdsRows)
    refine ⟨holds, holdsRows, ?_, ?_⟩
    · dsimp only [SnapshotsFollow] at snapshotsFollow ⊢
      split
      next => exact snapshotsFollow
      next =>
        rw [snapshotsOf_append]
        exact (List.append_nil (snapshotsOf feed.written)).symm ▸ snapshotsFollow
    · dsimp only [RowsFollow]
      rw [emptyQueue, sent]
      split
      next isEmpty =>
        rw [rowsFollow.1]
        rw [List.isEmpty_iff.mp isEmpty] at joined
        exact joined
      next =>
        rw [rowsOf_append, rowsFollow.1]
        have whole : Follows benchRingCap feed.rows.length feed.rows [] (feed.benchRing ++ []) := by
          rw [List.append_nil]
          exact joined
        simpa [rowsOf] using whole.see
  all_goals exact sound

theorem sound_receive (sound : Sound feed) : Sound feed.receive := by
  unfold Feed.receive
  split
  next event queue isWaiting isQueue =>
    rcases sound with ⟨holds, holdsRows, snapshotsFollow, rowsFollow⟩
    unfold SnapshotsFollow at snapshotsFollow
    unfold RowsFollow at rowsFollow
    rw [isWaiting] at snapshotsFollow rowsFollow
    refine ⟨holds, holdsRows, ?_, ?_⟩
    · dsimp only [SnapshotsFollow]
      rw [isWaiting]
      exact snapshotsFollow
    · dsimp only [RowsFollow]
      rw [isWaiting]
      exact rowsFollow
  next event queue isStreaming isQueue =>
    rcases sound with ⟨holds, holdsRows, snapshotsFollow, rowsFollow⟩
    unfold SnapshotsFollow at snapshotsFollow
    unfold RowsFollow at rowsFollow
    rw [isStreaming, isQueue] at snapshotsFollow rowsFollow
    have snapshots : snapshotsOf (event :: queue) = snapshotsOf [event] ++ snapshotsOf queue :=
      snapshotsOf_append [event] queue
    have rows : rowsOf (event :: queue) = rowsOf [event] ++ rowsOf queue :=
      rowsOf_append [event] queue
    refine ⟨holds, holdsRows, ?_, ?_⟩
    · dsimp only [SnapshotsFollow] at snapshotsFollow ⊢
      rw [snapshots, List.append_assoc] at snapshotsFollow
      rw [isStreaming, snapshotsOf_append]
      exact snapshotsFollow.see
    · dsimp only [RowsFollow] at rowsFollow ⊢
      rw [rows, List.append_assoc] at rowsFollow
      rw [isStreaming, rowsOf_append]
      exact rowsFollow.see
  all_goals exact sound

theorem sound_step {action : Action Snapshot Row} (sound : Sound feed)
    (clean : joinsCleanly feed action) : Sound (feed.step action) := by
  cases action with
  | pushSnapshot snapshot => exact sound_pushSnapshot sound snapshot
  | drainRows rows => exact sound_drainRows sound rows
  | send => exact sound_send sound
  | sendOther => exact sound_broadcast sound .other feed.runner rfl rfl
  | accept => exact sound_accept sound
  | subscribe => exact sound_subscribe sound clean
  | replay => exact sound_replay sound clean
  | receive => exact sound_receive sound

/-- A client that joins cleanly sees each snapshot and each row once, in order,
from the rings on. -/
theorem history_seen_once {actions : List (Action Snapshot Row)}
    (clean : Guarded Feed.step joinsCleanly Feed.start actions) :
    SeesOnce (finalState Feed.step (Feed.start : Feed Snapshot Row) actions) := by
  have sound : Sound (finalState Feed.step (Feed.start : Feed Snapshot Row) actions) :=
    invariant_of_step (fun _ _ holds allowed => sound_step holds allowed) sound_start clean
  exact sound.seesOnce

end Invariant

/-! ## A client whose queue holds what the ring holds -/

theorem history_of_five : SeesOnce (finalState Feed.step (Feed.start : Feed Nat Nat)
    [.accept, .pushSnapshot 7, .send, .receive, .drainRows [1], .send, .receive, .subscribe,
      .replay, .replay, .pushSnapshot 8, .send, .receive]) := by
  have noSnapshot : forall snapshot : Nat,
      (RunnerPhase.cycle : RunnerPhase Nat Nat) ≠ .snapshotPushed snapshot := fun _ => nofun
  have noRows : forall rows : List Nat,
      (RunnerPhase.cycle : RunnerPhase Nat Nat) ≠ .rowsPushed rows := fun _ => nofun
  exact history_seen_once ⟨trivial, trivial, trivial, trivial, trivial, trivial, trivial,
    ⟨noSnapshot, rfl⟩, fun _ => ⟨noRows, rfl⟩, fun _ => ⟨noRows, rfl⟩, trivial, trivial, trivial,
    trivial⟩

theorem IsRun.length_le {Item : Type} {cap joined : Nat} {produced seen : List Item}
    (isRun : IsRun cap joined produced seen) : seen.length ≤ produced.length := by
  rcases isRun with ⟨front, back, isProduced, _⟩
  rw [isProduced, List.length_append, List.length_append]
  omega

/-- A snapshot that was broadcast before the client subscribed is written from
the ring and again from the queue. -/
theorem snapshot_seen_twice : ¬ SeesOnce (finalState Feed.step (Feed.start : Feed Nat Nat)
    [.accept, .pushSnapshot 7, .send, .subscribe, .replay, .replay, .receive]) := by
  intro seesOnce
  have fewer : [7, 7].length ≤ [7].length := seesOnce.snapshots.length_le
  exact absurd fewer (by decide)

end ClientHistory
end Dashboard
end RocmCli
