import RocmCli.Support.Runs
import Mathlib

namespace RocmCli
namespace Dashboard.Replay

open RocmCli.Runs

/-!
# Scrubbing a recording

The replay task walks a recording with one cursor, which its pacing loop, its
forward bursts and its rewinds all move.  A step here is what happens between
two emissions: the pause before the next entry runs out, or a control arrives.
What the receiver holds since the last rewind is the recording up to the cursor
after every step.
-/

/-! ## The task -/

/-- One line of a recording. -/
structure PersistedEntry (Event : Type) where
  tsUs : Nat
  event : Event

/-- What the task sends to the dashboard. -/
inductive ClientMsg (Event : Type) where
  | connected (host daemonVersion : String)
  | event (event : Event)
  | replayPosition (elapsedS totalS : Nat)
  | replaySeek

/-- The scrubber commands. -/
inductive ReplayControl where
  | pause
  | resume
  | setSpeed (speed : ℚ)
  | jump (deltaS : Int)

/-- The state of the task between two emissions. -/
structure Playhead (Event : Type) where
  paused : Bool
  speed : ℚ
  cursor : Nat
  /-- Whether somebody still receives the messages. -/
  receiver : Bool
  /-- Whether the task waits for controls still. -/
  controlled : Bool
  sent : List (ClientMsg Event)

variable {Event : Type}

def u64Max : Nat := 2 ^ 64 - 1

def saturatingAdd (left right : Nat) : Nat := min (left + right) u64Max

def saturatingMul (left right : Nat) : Nat := min (left * right) u64Max

/-- A recording that holds an entry, as the task reads it. -/
structure Recording (Event : Type) where
  entries : List (PersistedEntry Event)
  some_entry : entries ≠ []
  in_range : forall entry, entry ∈ entries -> entry.tsUs ≤ u64Max

namespace Recording

variable (recording : Recording Event)

def firstTsUs : Nat := (recording.entries.head recording.some_entry).tsUs

def lastTsUs : Nat := (recording.entries.getLast recording.some_entry).tsUs

def totalS : Nat := (recording.lastTsUs - recording.firstTsUs) / 1000000

end Recording

/-- Send one message; a receiver that is gone gets nothing. -/
def Playhead.send (playhead : Playhead Event) (message : ClientMsg Event) : Playhead Event :=
  if playhead.receiver then { playhead with sent := playhead.sent ++ [message] } else playhead

/-- Send an entry and the position after it. -/
def emitAt (recording : Recording Event) (playhead : Playhead Event)
    (entry : PersistedEntry Event) : Playhead Event :=
  (playhead.send (.event entry.event)).send
    (.replayPosition ((entry.tsUs - recording.firstTsUs) / 1000000) recording.totalS)

/-- Emit entries and move the cursor along as long as they pass a test; a burst
that nobody receives is left at once. -/
def burstOver (recording : Recording Event) (passes : Nat -> Bool) :
    List (PersistedEntry Event) -> Playhead Event -> Playhead Event
  | [], playhead => playhead
  | entry :: rest, playhead =>
      if passes entry.tsUs && playhead.receiver then
        burstOver recording passes rest
          { emitAt recording playhead entry with cursor := playhead.cursor + 1 }
      else playhead

/-- The burst from the cursor on. -/
def burst (recording : Recording Event) (passes : Nat -> Bool) (playhead : Playhead Event) :
    Playhead Event :=
  burstOver recording passes (recording.entries.drop playhead.cursor) playhead

/-- The timestamp a jump aims at. -/
def targetTsUs (recording : Recording Event) (nowTs : Nat) (deltaS : Int) : Nat :=
  min
    (if 0 ≤ deltaS then saturatingAdd nowTs (saturatingMul deltaS.toNat 1000000)
    else max (nowTs - (-deltaS).toNat * 1000000 % 2 ^ 64) recording.firstTsUs)
    recording.lastTsUs

/-- The timestamp of the entry at the cursor, or of the last entry. -/
def nowTsUs (recording : Recording Event) (cursor : Nat) : Nat :=
  match recording.entries[min cursor (recording.entries.length - 1)]? with
  | some entry => entry.tsUs
  | none => 0

def doJump (recording : Recording Event) (deltaS : Int) (playhead : Playhead Event) :
    Playhead Event :=
  let nowTs := nowTsUs recording playhead.cursor
  let target := targetTsUs recording nowTs deltaS
  if nowTs ≤ target then burst recording (fun ts => ts < target) playhead
  else burst recording (fun ts => ts ≤ target) { playhead.send .replaySeek with cursor := 0 }

/-- Apply a control; the flag says that the cursor was moved by a jump. -/
def handleControl (recording : Recording Event) (playhead : Playhead Event) :
    ReplayControl -> Playhead Event × Bool
  | .pause => ({ playhead with paused := true }, false)
  | .resume => ({ playhead with paused := false }, false)
  | .setSpeed speed => ({ playhead with speed := max (1 / 4) (min speed 8) }, false)
  | .jump deltaS => (doJump recording deltaS playhead, true)

/-- Emit the entry at the cursor and move on, as the outer loop ends a round. -/
def emitNext (recording : Recording Event) (playhead : Playhead Event) : Playhead Event :=
  match recording.entries[playhead.cursor]? with
  | some entry => { emitAt recording playhead entry with cursor := playhead.cursor + 1 }
  | none => playhead

/-! ## Its steps -/

/-- What can happen between two emissions. -/
inductive Action where
  /-- The pause before the next entry runs out. -/
  | elapsed
  | control (control : ReplayControl)
  /-- The controls' sender goes away. -/
  | controlsClosed
  /-- The messages' receiver goes away. -/
  | receiverGone

def step (recording : Recording Event) (playhead : Playhead Event) : Action -> Playhead Event
  | .elapsed =>
      if playhead.controlled && !playhead.paused then emitNext recording playhead else playhead
  | .control control =>
      if playhead.controlled && decide (playhead.cursor < recording.entries.length) then
        match handleControl recording playhead control with
        | (moved, true) => emitNext recording moved
        | (changed, false) => changed
      else playhead
  | .controlsClosed => { playhead with controlled := false }
  | .receiverGone => { playhead with receiver := false }

/-- The task after its first emission. -/
def start (recording : Recording Event) (host daemonVersion : String) : Playhead Event :=
  emitNext recording
    { paused := false, speed := 1, cursor := 0, receiver := true, controlled := true
      sent := [.connected host daemonVersion] }

/-! ## What the receiver holds -/

/-- The events held since the last rewind, after one more message. -/
def hear (events : List Event) : ClientMsg Event -> List Event
  | .connected _ _ => events
  | .event event => events ++ [event]
  | .replayPosition _ _ => events
  | .replaySeek => []

/-- The events of a log since the last rewind in it. -/
def sinceSeek (log : List (ClientMsg Event)) : List Event := log.foldl hear []

/-- The events of the recording up to a place. -/
def Recording.upTo (recording : Recording Event) (place : Nat) : List Event :=
  (recording.entries.take place).map PersistedEntry.event

section

variable {recording : Recording Event} {playhead : Playhead Event}

theorem sinceSeek_append (log : List (ClientMsg Event)) (message : ClientMsg Event) :
    sinceSeek (log ++ [message]) = hear (sinceSeek log) message := by
  rw [sinceSeek, List.foldl_append]
  rfl

variable {entry : PersistedEntry Event}

theorem upTo_succ {place : Nat} (there : recording.entries[place]? = some entry) :
    recording.upTo (place + 1) = recording.upTo place ++ [entry.event] := by
  rw [Recording.upTo, List.take_add_one, there, List.map_append]
  rfl

@[simp] theorem send_receiver (message : ClientMsg Event) :
    (playhead.send message).receiver = playhead.receiver := by
  unfold Playhead.send
  split <;> rfl

@[simp] theorem send_paused (message : ClientMsg Event) :
    (playhead.send message).paused = playhead.paused := by
  unfold Playhead.send
  split <;> rfl

@[simp] theorem send_controlled (message : ClientMsg Event) :
    (playhead.send message).controlled = playhead.controlled := by
  unfold Playhead.send
  split <;> rfl

theorem send_sent (message : ClientMsg Event) (listens : playhead.receiver = true) :
    (playhead.send message).sent = playhead.sent ++ [message] := by
  rw [Playhead.send, if_pos listens]

theorem emitAt_sent (entry : PersistedEntry Event) (listens : playhead.receiver = true) :
    sinceSeek (emitAt recording playhead entry).sent =
      sinceSeek playhead.sent ++ [entry.event] := by
  rw [emitAt, send_sent _ (by rw [send_receiver, listens]), send_sent _ listens, sinceSeek_append,
    sinceSeek_append]
  rfl

/-! ## The cursor and the receiver agree -/

/-- The receiver, as long as it is there, holds the recording up to the cursor. -/
structure InStep (recording : Recording Event) (playhead : Playhead Event) : Prop where
  within : playhead.cursor ≤ recording.entries.length
  held : playhead.receiver = true ->
    sinceSeek playhead.sent = recording.upTo playhead.cursor

/-- Emitting the entry at the cursor and moving on keeps them in step. -/
theorem InStep.emit (inStep : InStep recording playhead)
    (there : recording.entries[playhead.cursor]? = some entry) :
    InStep recording { emitAt recording playhead entry with cursor := playhead.cursor + 1 } where
  within := (List.getElem?_eq_some_iff.mp there).1
  held := by
    intro listens
    have received : playhead.receiver = true := by simpa [emitAt] using listens
    rw [upTo_succ there, ← inStep.held received]
    exact emitAt_sent entry received

theorem InStep.emitNext (inStep : InStep recording playhead) :
    InStep recording (emitNext recording playhead) := by
  unfold Replay.emitNext
  cases there : recording.entries[playhead.cursor]? with
  | none => exact inStep
  | some entry => exact inStep.emit there

theorem InStep.burstOver {rest : List (PersistedEntry Event)} (passes : Nat -> Bool)
    (inStep : InStep recording playhead)
    (ahead : rest = recording.entries.drop playhead.cursor) :
    InStep recording (burstOver recording passes rest playhead) := by
  induction rest generalizing playhead with
  | nil => exact inStep
  | cons entry rest ih =>
      unfold Replay.burstOver
      by_cases goes : (passes entry.tsUs && playhead.receiver) = true
      · rw [if_pos goes]
        have there : recording.entries[playhead.cursor]? = some entry := by
          have first := congrArg (fun list => list[0]?) ahead
          simpa using first.symm
        apply ih (inStep.emit there)
        have next := congrArg List.tail ahead
        simpa using next
      · rw [if_neg goes]
        exact inStep

/-- A rewind starts both afresh. -/
theorem inStep_rewound :
    InStep recording { playhead.send .replaySeek with cursor := 0 } where
  within := Nat.zero_le _
  held := by
    intro listens
    have received : playhead.receiver = true := by simpa using listens
    show sinceSeek (playhead.send .replaySeek).sent = _
    rw [send_sent _ received, sinceSeek_append]
    rfl

theorem InStep.doJump (inStep : InStep recording playhead) (deltaS : Int) :
    InStep recording (doJump recording deltaS playhead) := by
  unfold Replay.doJump
  dsimp only
  split
  · exact inStep.burstOver _ rfl
  · exact inStep_rewound.burstOver _ rfl

/-- Every step keeps the cursor and the receiver in step. -/
theorem InStep.step (inStep : InStep recording playhead) (action : Action) :
    InStep recording (step recording playhead action) := by
  cases action with
  | elapsed =>
      dsimp only [Replay.step]
      split
      · exact inStep.emitNext
      · exact inStep
  | control control =>
      dsimp only [Replay.step]
      split
      · cases control with
        | pause => exact ⟨inStep.within, inStep.held⟩
        | resume => exact ⟨inStep.within, inStep.held⟩
        | setSpeed speed => exact ⟨inStep.within, inStep.held⟩
        | jump deltaS => exact (inStep.doJump deltaS).emitNext
      · exact inStep
  | controlsClosed => exact ⟨inStep.within, inStep.held⟩
  | receiverGone =>
      refine ⟨inStep.within, fun listens => ?_⟩
      cases listens

theorem inStep_start (host daemonVersion : String) :
    InStep recording (start recording host daemonVersion) := by
  apply InStep.emitNext
  exact ⟨Nat.zero_le _, fun _ => rfl⟩

theorem inStep_run (recording : Recording Event) (host daemonVersion : String) (actions : List Action) :
    InStep recording
      (finalState (step recording) (start recording host daemonVersion) actions) := by
  have preserved (playhead : Playhead Event) (action : Action)
      (inStep : InStep recording playhead) : InStep recording (step recording playhead action) :=
    inStep.step action
  exact invariant_of_every_step preserved (inStep_start host daemonVersion) actions

/-! ## Where a jump leaves the cursor -/

/-- Where a burst stops: everything it passes passes the test, the entry it
stops at does not. -/
structure Settled (recording : Recording Event) (passes : Nat -> Bool) (origin place : Nat) :
    Prop where
  onward : origin ≤ place
  passed : forall k entry, origin ≤ k -> k < place -> recording.entries[k]? = some entry ->
    passes entry.tsUs = true
  stopped : forall entry, recording.entries[place]? = some entry -> passes entry.tsUs = false

theorem burstOver_settled {rest : List (PersistedEntry Event)} (passes : Nat -> Bool)
    (received : playhead.receiver = true)
    (ahead : rest = recording.entries.drop playhead.cursor) :
    Settled recording passes playhead.cursor (burstOver recording passes rest playhead).cursor := by
  induction rest generalizing playhead with
  | nil =>
      refine ⟨Nat.le_refl _, fun k entry after before => absurd before (Nat.not_lt.mpr after), ?_⟩
      intro entry there
      have beyond := List.drop_eq_nil_iff.mp ahead.symm
      rw [burstOver, List.getElem?_eq_none beyond] at there
      cases there
  | cons first rest ih =>
      have there : recording.entries[playhead.cursor]? = some first := by
        have head := congrArg (fun list => list[0]?) ahead
        simpa using head.symm
      unfold Replay.burstOver
      cases goes : passes first.tsUs with
      | true =>
          rw [if_pos (by rw [received]; rfl)]
          have next : rest = recording.entries.drop (playhead.cursor + 1) := by
            have tail := congrArg List.tail ahead
            simpa using tail
          have later := @ih
            { emitAt recording playhead first with cursor := playhead.cursor + 1 }
            (by simpa [emitAt] using received) next
          refine ⟨Nat.le_of_succ_le later.onward, ?_, later.stopped⟩
          intro k entry after before found
          rcases Nat.eq_or_lt_of_le after with rfl | above
          · rw [there, Option.some_inj] at found
            rw [← found]
            exact goes
          · exact later.passed k entry above before found
      | false =>
          rw [if_neg (by simp)]
          refine ⟨Nat.le_refl _, fun k entry after before => absurd before (Nat.not_lt.mpr after), ?_⟩
          intro entry found
          rw [there, Option.some_inj] at found
          rw [← found]
          exact goes

theorem burst_settled (recording : Recording Event) (passes : Nat -> Bool) (received : playhead.receiver = true) :
    Settled recording passes playhead.cursor (burst recording passes playhead).cursor :=
  burstOver_settled passes received rfl

/-- The timestamps never decrease along the recording. -/
def Recording.Sorted (recording : Recording Event) : Prop :=
  recording.entries.Pairwise fun earlier later => earlier.tsUs ≤ later.tsUs

theorem Recording.Sorted.le (sorted : recording.Sorted) {k later : Nat}
    {other : PersistedEntry Event} (order : k ≤ later) (there : recording.entries[k]? = some entry)
    (found : recording.entries[later]? = some other) : entry.tsUs ≤ other.tsUs := by
  rcases Nat.eq_or_lt_of_le order with rfl | before
  · rw [there, Option.some_inj] at found
    rw [found]
  · rcases List.getElem?_eq_some_iff.mp there with ⟨_, rfl⟩
    rcases List.getElem?_eq_some_iff.mp found with ⟨inside, rfl⟩
    exact List.pairwise_iff_getElem.mp sorted k later _ inside before

theorem last_there (recording : Recording Event) : exists entry,
    recording.entries[recording.entries.length - 1]? = some entry ∧
      entry.tsUs = recording.lastTsUs := by
  refine ⟨recording.entries.getLast recording.some_entry, ?_, rfl⟩
  rw [← List.getLast?_eq_getElem?]
  exact List.getLast?_eq_some_getLast recording.some_entry

theorem nowTsUs_eq {place : Nat} (there : recording.entries[place]? = some entry) :
    nowTsUs recording place = entry.tsUs := by
  have inside := (List.getElem?_eq_some_iff.mp there).1
  have index : min place (recording.entries.length - 1) = place := by omega
  rw [nowTsUs, index, there]

theorem lastTsUs_le (recording : Recording Event) : recording.lastTsUs ≤ u64Max :=
  recording.in_range _ (List.getLast_mem recording.some_entry)

/-- Where a jump forward aims; no addition saturates below the last timestamp. -/
theorem targetTsUs_forward {now deltaS : Nat} (bounded : deltaS ≤ 10 ^ 12) :
    targetTsUs recording now deltaS = min (now + deltaS * 1000000) recording.lastTsUs := by
  have last := lastTsUs_le recording
  have product : saturatingMul (deltaS : Int).toNat 1000000 = deltaS * 1000000 := by
    rw [saturatingMul, Int.toNat_natCast, u64Max]
    omega
  rw [targetTsUs, if_pos (Int.natCast_nonneg deltaS), product, saturatingAdd]
  omega

/-- Where a jump backward aims; no product wraps. -/
theorem targetTsUs_backward {now back : Nat} (positive : 0 < back) (bounded : back ≤ 10 ^ 12) :
    targetTsUs recording now (-(back : Int)) =
      min (max (now - back * 1000000) recording.firstTsUs) recording.lastTsUs := by
  have negative : ¬ 0 ≤ -(back : Int) := by omega
  have product : (- -(back : Int)).toNat * 1000000 % 2 ^ 64 = back * 1000000 := by
    rw [Int.neg_neg, Int.toNat_natCast]
    omega
  rw [targetTsUs, if_neg negative, product]

variable {now : PersistedEntry Event}

section

variable (sorted : recording.Sorted) (received : playhead.receiver = true)
  (there : recording.entries[playhead.cursor]? = some now)
include sorted received there

/-- In a sorted recording a jump forward leaves the cursor at the first entry,
from where it was on, that is not before the target. -/
theorem doJump_forward {deltaS : Nat} (bounded : deltaS ≤ 10 ^ 12) :
    exists entry,
      recording.entries[(doJump recording deltaS playhead).cursor]? = some entry ∧
      playhead.cursor ≤ (doJump recording deltaS playhead).cursor ∧
      min (now.tsUs + deltaS * 1000000) recording.lastTsUs ≤ entry.tsUs ∧
      forall k other, playhead.cursor ≤ k -> k < (doJump recording deltaS playhead).cursor ->
        recording.entries[k]? = some other ->
        other.tsUs < min (now.tsUs + deltaS * 1000000) recording.lastTsUs := by
  rcases last_there recording with ⟨final, isLast, lastTs⟩
  have inside := (List.getElem?_eq_some_iff.mp there).1
  have ordered : now.tsUs ≤ final.tsUs := sorted.le (by omega) there isLast
  have jump : doJump recording deltaS playhead =
      burst recording (fun ts => ts < min (now.tsUs + deltaS * 1000000) recording.lastTsUs)
        playhead := by
    rw [doJump, nowTsUs_eq there, targetTsUs_forward bounded]
    exact if_pos (by omega)
  have settled := burst_settled recording
    (fun ts => ts < min (now.tsUs + deltaS * 1000000) recording.lastTsUs) received
  rw [← jump] at settled
  generalize (doJump recording deltaS playhead).cursor = place at settled
  have within : place < recording.entries.length := by
    by_contra beyond
    have passed := settled.passed _ final (by omega) (by omega) isLast
    have before := of_decide_eq_true passed
    omega
  refine ⟨recording.entries[place], List.getElem?_eq_getElem within, settled.onward, ?_, ?_⟩
  · have stopped := settled.stopped _ (List.getElem?_eq_getElem within)
    have after := of_decide_eq_false stopped
    omega
  · intro k other after before found
    exact of_decide_eq_true (settled.passed k other after before found)

/-- In a sorted recording a jump backward leaves the cursor at the first entry
after the target, when there is anything to go back to. -/
theorem doJump_backward {back : Nat} (positive : 0 < back) (bounded : back ≤ 10 ^ 12)
    (later : recording.firstTsUs < now.tsUs) :
    exists entry,
      recording.entries[(doJump recording (-(back : Int)) playhead).cursor]? = some entry ∧
      max (now.tsUs - back * 1000000) recording.firstTsUs < entry.tsUs ∧
      forall k other, k < (doJump recording (-(back : Int)) playhead).cursor ->
        recording.entries[k]? = some other ->
        other.tsUs ≤ max (now.tsUs - back * 1000000) recording.firstTsUs := by
  rcases last_there recording with ⟨final, isLast, lastTs⟩
  have inside := (List.getElem?_eq_some_iff.mp there).1
  have ordered : now.tsUs ≤ final.tsUs := sorted.le (by omega) there isLast
  have target : targetTsUs recording now.tsUs (-(back : Int)) =
      max (now.tsUs - back * 1000000) recording.firstTsUs := by
    rw [targetTsUs_backward positive bounded]
    omega
  have jump : doJump recording (-(back : Int)) playhead =
      burst recording (fun ts => ts ≤ max (now.tsUs - back * 1000000) recording.firstTsUs)
        { playhead.send .replaySeek with cursor := 0 } := by
    rw [doJump, nowTsUs_eq there, target]
    exact if_neg (by omega)
  have settled := burst_settled recording
    (fun ts => ts ≤ max (now.tsUs - back * 1000000) recording.firstTsUs)
    (show ({ playhead.send .replaySeek with cursor := 0 } : Playhead Event).receiver = true by
      simpa using received)
  rw [← jump] at settled
  generalize (doJump recording (-(back : Int)) playhead).cursor = place at settled
  have within : place < recording.entries.length := by
    by_contra beyond
    have passed := settled.passed _ now (Nat.zero_le _) (by omega) there
    have before := of_decide_eq_true passed
    omega
  refine ⟨recording.entries[place], List.getElem?_eq_getElem within, ?_, ?_⟩
  · have stopped := settled.stopped _ (List.getElem?_eq_getElem within)
    have after := of_decide_eq_false stopped
    omega
  · intro k other before found
    exact of_decide_eq_true (settled.passed k other (Nat.zero_le _) before found)

end

/-- At the first timestamp there is nothing to go back to, and a jump backward
changes nothing. -/
theorem doJump_at_first (sorted : recording.Sorted)
    (there : recording.entries[playhead.cursor]? = some now) {back : Nat} (positive : 0 < back)
    (bounded : back ≤ 10 ^ 12) (first : now.tsUs = recording.firstTsUs) :
    doJump recording (-(back : Int)) playhead = playhead := by
  rcases last_there recording with ⟨final, isLast, lastTs⟩
  have inside := (List.getElem?_eq_some_iff.mp there).1
  have ordered : now.tsUs ≤ final.tsUs := sorted.le (by omega) there isLast
  have target : targetTsUs recording now.tsUs (-(back : Int)) = now.tsUs := by
    rw [targetTsUs_backward positive bounded]
    omega
  have ahead : recording.entries.drop playhead.cursor =
      now :: recording.entries.drop (playhead.cursor + 1) := by
    rw [List.drop_eq_getElem_cons inside]
    rw [List.getElem?_eq_getElem inside, Option.some_inj] at there
    rw [there]
  rw [doJump, nowTsUs_eq there, target, if_pos (Nat.le_refl _), burst, ahead, burstOver,
    if_neg (by simp)]

/-! ## Playing to the end -/

/-- What the receiver gets for one entry. -/
def Recording.messages (recording : Recording Event) (entry : PersistedEntry Event) :
    List (ClientMsg Event) :=
  [.event entry.event,
    .replayPosition ((entry.tsUs - recording.firstTsUs) / 1000000) recording.totalS]

/-- A replay that is not paused and hears no more controls sends the whole rest
of the recording, and nothing after it. -/
theorem elapsed_run (received : playhead.receiver = true)
    (controlled : playhead.controlled = true) (playing : playhead.paused = false) (rounds : Nat) :
    (finalState (step recording) playhead (List.replicate rounds .elapsed)).sent =
      playhead.sent ++
        ((recording.entries.drop playhead.cursor).take rounds).flatMap recording.messages := by
  induction rounds generalizing playhead with
  | zero => simp [finalState]
  | succ rounds ih =>
      rw [List.replicate_succ, finalState, List.foldl_cons, ← finalState]
      have goes : step recording playhead .elapsed = emitNext recording playhead := by
        dsimp only [step]
        rw [controlled, playing]
        rfl
      rw [goes]
      cases there : recording.entries[playhead.cursor]? with
      | none =>
          have finished : recording.entries.drop playhead.cursor = [] :=
            List.drop_eq_nil_of_le (List.getElem?_eq_none_iff.mp there)
          have same : emitNext recording playhead = playhead := by rw [emitNext, there]
          rw [same, ih received controlled playing, finished]
          simp
      | some entry =>
          have emitted : emitNext recording playhead =
              { emitAt recording playhead entry with cursor := playhead.cursor + 1 } := by
            rw [emitNext, there]
          have inside := (List.getElem?_eq_some_iff.mp there).1
          rw [List.getElem?_eq_getElem inside, Option.some_inj] at there
          rw [emitted, ih (by simpa [emitAt] using received)
            (by simpa [emitAt] using controlled) (by simpa [emitAt] using playing),
            List.drop_eq_getElem_cons inside, there, List.take_succ_cons, List.flatMap_cons,
            ← List.append_assoc]
          refine congrArg (· ++ _) ?_
          show (emitAt recording playhead entry).sent = _
          rw [emitAt, send_sent _ (by rw [send_receiver, received]), send_sent _ received,
            List.append_assoc]
          rfl

end

/-- Scrubbing reproduces the recording.  After any steps the receiver holds the
recording up to the cursor since the last rewind; from there, in a sorted
recording, a jump forward leaves the cursor at the first entry from it on that
is not before the target, and a jump backward at the first entry after the
target, or where it was when nothing lies before; and a replay left alone sends
the whole rest once. -/
theorem scrubbing (recording : Recording Event) (host daemonVersion : String)
    (actions : List Action) (playhead : Playhead Event)
    (reached : playhead =
      finalState (step recording) (start recording host daemonVersion) actions)
    (received : playhead.receiver = true) :
    sinceSeek playhead.sent = recording.upTo playhead.cursor ∧
      (recording.Sorted -> forall now, recording.entries[playhead.cursor]? = some now ->
        forall amount : Nat, amount ≤ 10 ^ 12 ->
          (exists entry place,
            place = (doJump recording (amount : Int) playhead).cursor ∧
            recording.entries[place]? = some entry ∧ playhead.cursor ≤ place ∧
            min (now.tsUs + amount * 1000000) recording.lastTsUs ≤ entry.tsUs ∧
            forall k other, playhead.cursor ≤ k -> k < place ->
              recording.entries[k]? = some other ->
              other.tsUs < min (now.tsUs + amount * 1000000) recording.lastTsUs) ∧
          (0 < amount -> recording.firstTsUs < now.tsUs -> exists entry place,
            place = (doJump recording (-(amount : Int)) playhead).cursor ∧
            recording.entries[place]? = some entry ∧
            max (now.tsUs - amount * 1000000) recording.firstTsUs < entry.tsUs ∧
            forall k other, k < place -> recording.entries[k]? = some other ->
              other.tsUs ≤ max (now.tsUs - amount * 1000000) recording.firstTsUs) ∧
          (0 < amount -> now.tsUs = recording.firstTsUs ->
            doJump recording (-(amount : Int)) playhead = playhead)) ∧
      (playhead.controlled = true -> playhead.paused = false ->
        forall rounds, recording.entries.length - playhead.cursor ≤ rounds ->
          (finalState (step recording) playhead (List.replicate rounds .elapsed)).sent =
            playhead.sent ++
              (recording.entries.drop playhead.cursor).flatMap recording.messages) := by
  refine ⟨?_, ?_, ?_⟩
  · have inStep := inStep_run recording host daemonVersion actions
    rw [← reached] at inStep
    exact inStep.held received
  · intro sorted now there amount bounded
    refine ⟨?_, ?_, ?_⟩
    · rcases doJump_forward sorted received there bounded with
        ⟨entry, found, onward, after, before⟩
      exact ⟨entry, _, rfl, found, onward, after, before⟩
    · intro positive later
      rcases doJump_backward sorted received there positive bounded later with
        ⟨entry, found, after, before⟩
      exact ⟨entry, _, rfl, found, after, before⟩
    · intro positive first
      exact doJump_at_first sorted there positive bounded first
  · intro controlled playing rounds enough
    have all : (recording.entries.drop playhead.cursor).take rounds =
        recording.entries.drop playhead.cursor := by
      apply List.take_of_length_le
      rw [List.length_drop]
      exact enough
    rw [elapsed_run received controlled playing rounds, all]

/-! ## Entries that share a timestamp -/

def tied : Recording Nat where
  entries := [⟨0, 10⟩, ⟨5, 11⟩, ⟨5, 12⟩]
  some_entry := by decide
  in_range := by decide

def tiedAtFirst : Recording Nat where
  entries := [⟨0, 10⟩, ⟨0, 11⟩, ⟨5, 12⟩]
  some_entry := by decide
  in_range := by decide

/-- A jump back from the second entry of a tie. -/
def rewound : Playhead Nat :=
  finalState (step tied) (start tied "replay:tied" "replay/v1")
    [.elapsed, .control (.jump (-5)), .elapsed]

theorem scrubbing_rewound :
    sinceSeek rewound.sent = tied.upTo rewound.cursor ∧ rewound.cursor = 3 ∧
      rewound.sent[5]? = some .replaySeek :=
  ⟨(scrubbing tied "replay:tied" "replay/v1" [.elapsed, .control (.jump (-5)), .elapsed] rewound rfl
    (by decide)).1, by decide, rfl⟩

/-- A jump forward onto a timestamp that an entry before the cursor has too
does not go back to that entry, and a jump backward from an entry that shares
the first timestamp does not go on to the first entry after it. -/
theorem ties_keep_the_cursor :
    tied.Sorted ∧ tiedAtFirst.Sorted ∧
      (doJump tied 0
        (finalState (step tied) (start tied "replay:tied" "replay/v1") [.elapsed])).cursor = 2 ∧
      tied.entries[1]?.map PersistedEntry.tsUs = some (min (5 + 0 * 1000000) tied.lastTsUs) ∧
      (doJump tiedAtFirst (-5) (start tiedAtFirst "replay:tied" "replay/v1")).cursor = 1 ∧
      tiedAtFirst.entries[1]?.map PersistedEntry.tsUs =
        some (max (0 - 5 * 1000000) tiedAtFirst.firstTsUs) := by
  refine ⟨?_, ?_, by decide, by decide, by decide, by decide⟩
  · show tied.entries.Pairwise _
    simp [tied]
  · show tiedAtFirst.entries.Pairwise _
    simp [tiedAtFirst]

end Dashboard.Replay
end RocmCli
