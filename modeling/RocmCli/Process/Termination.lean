import RocmCli.Process.Lifecycle

namespace RocmCli
namespace Lifecycle

open Programs

/-!
# What a termination says of the processes it signalled

A wait accounts for what was captured, and a signal goes to whatever holds its
PID when it is sent.  Where every signal finds a process that its caller can
account for, an outcome is true of everything that was signalled.
-/

/-! ## Truth -/

/-- Outcomes of calls that signal nothing. -/
def TerminationOutcome.silent : TerminationOutcome -> Bool
  | .alreadyGone | .identityMismatch | .unverified => true
  | .graceful | .forced | .timedOut => false

/-- Outcomes that say that everything signalled has exited. -/
def TerminationOutcome.confirms : TerminationOutcome -> Bool
  | .graceful | .forced => true
  | .alreadyGone | .identityMismatch | .unverified | .timedOut => false

namespace World

/-- What is sent directly to a PID, to kill it, goes to the process captured
under it. -/
def Direct (world : World) (entry : Sent) : Prop :=
  entry.walked = false -> entry.signal = .kill ->
    (exists identity, identity ∈ world.captured entry.caller ∧ identity.pid = entry.pid) ∧
      forall identity, identity ∈ world.captured entry.caller -> identity.pid = entry.pid ->
        identity.startTicks = some entry.start

theorem Direct.transfer {world after : World} {entry : Sent} (direct : world.Direct entry)
    (same : after.captured entry.caller = world.captured entry.caller) : after.Direct entry := by
  unfold Direct
  rw [same]
  exact direct

/-- Every outcome is true, and no direct kill has hit another process. -/
structure Truthful (world : World) : Prop where
  confirmed : forall who outcome, world.outcome who = some outcome -> outcome.confirms = true ->
    forall entry, entry ∈ world.sentBy who -> world.Exited entry.pid entry.start
  silent : forall who outcome, world.outcome who = some outcome -> outcome.silent = true ->
    world.sentBy who = []
  direct : forall entry, entry ∈ world.sent -> world.Direct entry

end World

/-! ## Conditions -/

/-- A signal of a walk finds an exited process, one that may not be signalled or
one that was captured; a direct one finds a process that already held the PID
when the caller last read a start time. -/
def World.Accounts (world : World) (who pid : Nat) (walked : Bool) : Prop :=
  forall process, world.table pid = some process ->
    if walked = true then
      process.exited = true ∨ process.owned = false ∨ world.Names who pid process.start
    else process.start < world.looked who

instance (world : World) (who pid start : Nat) : Decidable (world.Names who pid start) :=
  inferInstanceAs (Decidable (exists identity, identity ∈ world.captured who ∧ _))

instance (world : World) (who pid : Nat) (walked : Bool) :
    Decidable (world.Accounts who pid walked) :=
  match holds : world.table pid with
  | none => .isTrue fun _ isProcess => nomatch holds.symm.trans isProcess
  | some process =>
      decidable_of_iff
        (if walked = true then
          process.exited = true ∨ process.owned = false ∨ world.Names who pid process.start
        else process.start < world.looked who)
        ⟨fun accounts other isOther => by
          cases holds.symm.trans isOther
          exact accounts, fun accounts => accounts process holds⟩

/-- Every signal finds a process its caller can account for. -/
def accountable : Conditions machine where
  allowed world who op :=
    match op with
    | .kill pid _ walked => World.Accounts world who pid walked
    | _ => True
  mayStart _ _ _ := True
  mayHappen _ _ := True

instance (world : World) (who : Nat) (op : Op) : Decidable (accountable.allowed world who op) :=
  match op with
  | .kill pid _ walked => inferInstanceAs (Decidable (World.Accounts world who pid walked))
  | .signalZero _ | .readStat _ | .startTicks _ | .capture _ | .readDir | .now | .sleep _
  | .finish _ => .isTrue trivial

instance (state : machine.State) (action : machine.Action) :
    Decidable (accountable.Obeys state action) :=
  @Conditions.decidableObeys _ _ machine accountable
    (fun (world : World) who op => inferInstanceAs (Decidable (accountable.allowed world who op)))
    (fun _ _ _ => .isTrue trivial) (fun _ _ => .isTrue trivial) state action

/-! ## Later worlds -/

/-- A process of a later table that is older than the earlier one was in it. -/
structure World.Aged (world now : World) : Prop where
  clock : world.clock ≤ now.clock
  earlier : forall pid process, now.table pid = some process -> process.start < world.clock ->
    exists before, world.table pid = some before ∧ before.start = process.start ∧
      (before.exited = true -> process.exited = true)

theorem World.Aged.refl (world : World) : world.Aged world :=
  ⟨Nat.le_refl _, fun _ process holds _ => ⟨process, holds, rfl, id⟩⟩

variable {first second third : World}

theorem World.Aged.trans (one : first.Aged second) (two : second.Aged third) :
    first.Aged third := by
  refine ⟨Nat.le_trans one.clock two.clock, ?_⟩
  intro pid process holds older
  rcases two.earlier pid process holds (Nat.lt_of_lt_of_le older one.clock) with
    ⟨middle, heldThen, sameStart, staysExited⟩
  rcases one.earlier pid middle heldThen (sameStart ▸ older) with
    ⟨before, heldBefore, sameBefore, exitedBefore⟩
  exact ⟨before, heldBefore, sameBefore.trans sameStart,
    fun exited => staysExited (exitedBefore exited)⟩

variable {now world : World}

/-- A world with the table of another. -/
theorem World.Aged.still (table : now.table = world.table)
    (clock : now.clock = world.clock) : world.Aged now := by
  refine ⟨Nat.le_of_eq clock.symm, fun pid process holds _ => ⟨process, ?_, rfl, id⟩⟩
  rw [← table]
  exact holds

variable {pid : Nat}

theorem World.Exited.later {start : Nat} (exited : world.Exited pid start)
    (aged : world.Aged now) : now.Exited pid start := by
  refine ⟨Nat.lt_of_lt_of_le exited.1 aged.clock, ?_⟩
  intro process holds isStart
  rcases aged.earlier pid process holds (isStart ▸ exited.1) with
    ⟨before, heldBefore, sameStart, staysExited⟩
  exact staysExited (exited.2 before heldBefore (sameStart.trans isStart))

/-- A later world in which a caller has sent, captured and concluded nothing
more. -/
structure World.Same (who : Nat) (world now : World) : Prop extends world.Aged now where
  sent : now.sentBy who = world.sentBy who
  captured : now.captured who = world.captured who
  outcome : now.outcome who = world.outcome who

theorem World.Same.refl (who : Nat) (world : World) : World.Same who world world :=
  ⟨.refl world, rfl, rfl, rfl⟩

theorem World.Same.trans {who : Nat} (one : World.Same who first second)
    (two : World.Same who second third) :
    World.Same who first third :=
  ⟨one.toAged.trans two.toAged, two.sent.trans one.sent, two.captured.trans one.captured,
    two.outcome.trans one.outcome⟩

/-- What a caller may rely on between its own operations. -/
structure World.Later (who : Nat) (world now : World) : Prop extends World.Same who world now where
  looked : now.looked who = world.looked who

/-! ## The contract -/

/-- What holds of every world, besides the truth. -/
structure World.Consistent (world : World) : Prop extends world.Truthful where
  started : forall pid process, world.table pid = some process -> process.start < world.clock
  pids : forall pid process, world.table pid = some process -> 0 < pid ∧ pid < 2 ^ 31
  sentBefore : forall entry, entry ∈ world.sent -> entry.start < world.clock
  lookedBefore : forall who, world.looked who ≤ world.clock

def terminationContract : Contract machine where
  toConditions := accountable
  invariant := World.Consistent
  rely := World.Later
  rely_refl who world := ⟨.refl who world, rfl⟩
  rely_trans _ _ _ _ one two := ⟨one.toSame.trans two.toSame, two.looked.trans one.looked⟩

namespace World

variable {world after : World}

/-- Where only the table and the clock have moved on, nothing becomes untrue. -/
theorem Consistent.aged (consistent : world.Consistent) (aged : world.Aged after)
    (sent : after.sent = world.sent) (captured : after.captured = world.captured)
    (outcome : after.outcome = world.outcome)
    (looked : forall who, after.looked who ≤ after.clock)
    (started : forall pid process, after.table pid = some process -> process.start < after.clock)
    (pids : forall pid process, after.table pid = some process -> 0 < pid ∧ pid < 2 ^ 31) :
    after.Consistent where
  confirmed := by
    intro who concluded isOutcome confirms entry listed
    rw [outcome] at isOutcome
    unfold sentBy at listed
    rw [sent] at listed
    exact (consistent.confirmed who concluded isOutcome confirms entry listed).later aged
  silent := by
    intro who concluded isOutcome isSilent
    rw [outcome] at isOutcome
    unfold sentBy
    rw [sent]
    exact consistent.silent who concluded isOutcome isSilent
  direct := by
    intro entry listed
    rw [sent] at listed
    unfold Direct
    rw [captured]
    exact consistent.direct entry listed
  started := started
  pids := pids
  sentBefore := by
    intro entry listed
    rw [sent] at listed
    exact Nat.lt_of_lt_of_le (consistent.sentBefore entry listed) aged.clock
  lookedBefore := looked

theorem sentBy_congr {who : Nat} (sent : after.sent = world.sent) :
    after.sentBy who = world.sentBy who := by
  unfold sentBy
  rw [sent]

/-- A table that has only moved on. -/
structure Moved (world after : World) : Prop extends world.Aged after where
  sent : after.sent = world.sent
  captured : after.captured = world.captured
  outcome : after.outcome = world.outcome
  looked : after.looked = world.looked
  started : forall pid process, after.table pid = some process -> process.start < after.clock
  pids : forall pid process, after.table pid = some process -> 0 < pid ∧ pid < 2 ^ 31

theorem Moved.consistent (moved : world.Moved after) (consistent : world.Consistent) :
    after.Consistent := by
  refine consistent.aged moved.toAged moved.sent moved.captured moved.outcome ?_ moved.started
    moved.pids
  intro who
  rw [moved.looked]
  exact Nat.le_trans (consistent.lookedBefore who) moved.clock

theorem Moved.later (moved : world.Moved after) (who : Nat) : World.Later who world after where
  toAged := moved.toAged
  sent := sentBy_congr moved.sent
  captured := congrFun moved.captured who
  outcome := congrFun moved.outcome who
  looked := congrFun moved.looked who

/-- An event moves the table on. -/
theorem happens_moved {event : Event} (consistent : world.Consistent)
    (happened : world.happens event = some after) : world.Moved after := by
  cases event with
  | fork parent pid owned =>
      dsimp only [happens] at happened
      split at happened
      next can =>
        cases happened
        have others {other : Nat} {process : Process}
            (holds : Function.update world.table pid
              (some ⟨world.clock, parent, false, owned⟩) other = some process) :
            (other = pid ∧ process.start = world.clock) ∨ world.table other = some process := by
          by_cases same : other = pid
          · subst same
            rw [Function.update_self] at holds
            cases holds
            exact .inl ⟨rfl, rfl⟩
          · rw [Function.update_of_ne same] at holds
            exact .inr holds
        refine ⟨⟨Nat.le_succ _, ?_⟩, rfl, rfl, rfl, rfl, ?_, ?_⟩
        · intro other process holds older
          rcases others holds with ⟨_, isStart⟩ | before
          · exact absurd older (Nat.not_lt.mpr (Nat.le_of_eq isStart.symm))
          · exact ⟨process, before, rfl, id⟩
        · intro other process holds
          rcases others holds with ⟨_, isStart⟩ | before
          · exact Nat.lt_succ_of_le (Nat.le_of_eq isStart)
          · exact Nat.lt_succ_of_lt (consistent.started other process before)
        · intro other process holds
          rcases others holds with ⟨same, _⟩ | before
          · rw [same]
            exact ⟨can.1, can.2.1⟩
          · exact consistent.pids other process before
      next cannot => cases happened
  | exit pid heir =>
      dsimp only [happens] at happened
      split at happened
      next => cases happened
      next process held =>
        cases happened
        have others {other : Nat} {process : Process}
            (holds : ((world.table other).map fun process =>
              if other = pid then { process with exited := true }
              else if process.parent = pid then { process with parent := heir }
              else process) = some process) :
            exists before, world.table other = some before ∧ before.start = process.start ∧
              (before.exited = true -> process.exited = true) := by
          rcases Option.map_eq_some_iff.mp holds with ⟨before, heldBefore, rfl⟩
          refine ⟨before, heldBefore, ?_, ?_⟩
          · split
            · rfl
            · split
              · rfl
              · rfl
          · intro exited
            split
            · rfl
            · split
              · exact exited
              · exact exited
        refine ⟨⟨Nat.le_refl _, fun other process holds _ => others holds⟩, rfl, rfl, rfl, rfl,
          ?_, ?_⟩
        · intro other process holds
          rcases others holds with ⟨before, heldBefore, sameStart, _⟩
          exact sameStart ▸ consistent.started other before heldBefore
        · intro other process holds
          rcases others holds with ⟨before, heldBefore, _, _⟩
          exact consistent.pids other before heldBefore
  | reap pid =>
      dsimp only [happens] at happened
      split at happened
      next reapable =>
        cases happened
        have others {other : Nat} {process : Process}
            (holds : Function.update world.table pid none other = some process) :
            world.table other = some process := by
          by_cases same : other = pid
          · subst same
            rw [Function.update_self] at holds
            cases holds
          · rwa [Function.update_of_ne same] at holds
        refine ⟨⟨Nat.le_refl _, fun other process holds _ => ⟨process, others holds, rfl, id⟩⟩,
          rfl, rfl, rfl, rfl, ?_, ?_⟩
        · intro other process holds
          exact consistent.started other process (others holds)
        · intro other process holds
          exact consistent.pids other process (others holds)
      next => cases happened

end World

/-! ## What a call stands on -/

/-- An operation that only looks, or lets time pass. -/
def Op.quiet : Op -> Bool
  | .signalZero _ | .readStat _ | .startTicks _ | .readDir | .now | .sleep _ => true
  | .capture _ | .kill _ _ _ | .finish _ => false

namespace World

variable {world after : World} {who : Nat}

/-- A quiet operation changes at most the time and when its caller last looked. -/
theorem perform_quiet_eq {choice : Choice} {op : Op} {answer : Answer op} (isQuiet : op.quiet = true)
    (performed : world.perform who choice op = some (answer, after)) :
    exists looked time, after = { world with looked := looked, time := time } ∧
      (forall other, other ≠ who -> looked other = world.looked other) ∧
      (looked who = world.looked who ∨ looked who = world.clock) := by
  cases op with
  | startTicks pid =>
      cases performed
      exact ⟨_, _, rfl, fun other apart => Function.update_of_ne apart _ _,
        .inr (Function.update_self _ _ _)⟩
  | signalZero _ | readStat _ | readDir | now | sleep _ =>
      cases performed
      exact ⟨_, _, rfl, fun _ _ => rfl, .inl rfl⟩
  | capture _ | kill _ _ _ | finish _ => cases isQuiet

theorem perform_quiet {choice : Choice} {op : Op} {answer : Answer op} (isQuiet : op.quiet = true)
    (consistent : world.Consistent)
    (performed : world.perform who choice op = some (answer, after)) :
    after.Consistent ∧ terminationContract.Spares who world after ∧ World.Same who world after := by
  rcases perform_quiet_eq isQuiet performed with ⟨looked, time, rfl, others, mine⟩
  have same (anyone : Nat) :
      World.Same anyone world { world with looked := looked, time := time } :=
    ⟨.still rfl rfl, rfl, rfl, rfl⟩
  refine ⟨?_, fun other apart => ⟨same other, others other apart⟩, same who⟩
  refine consistent.aged (same who).toAged rfl rfl rfl ?_ consistent.started consistent.pids
  intro anyone
  show looked anyone ≤ world.clock
  by_cases isWho : anyone = who
  · subst isWho
    rcases mine with kept | now
    · rw [kept]
      exact consistent.lookedBefore anyone
    · exact Nat.le_of_eq now
  · rw [others anyone isWho]
    exact consistent.lookedBefore anyone

end World

/-! ## Looking -/

/-- A consistent world that a caller has come to by looking only. -/
structure World.Onward (who : Nat) (world now : World) : Prop extends World.Same who world now where
  consistent : now.Consistent

theorem World.Onward.trans {who : Nat} (one : World.Onward who first second)
    (two : World.Onward who second third) :
    World.Onward who first third :=
  ⟨one.toSame.trans two.toSame, two.consistent⟩

theorem World.Consistent.onward (consistent : world.Consistent) (who : Nat) :
    World.Onward who world world :=
  ⟨.refl who world, consistent⟩

section Looking

variable {who : Nat} {R S : Type}

/-- A program that keeps to the contract, and to an assertion at its end. -/
abbrev Does (who : Nat) (post : R -> World -> Prop) (world : World) (program : Run R) : Prop :=
  terminationContract.Keeps who post world program

/-- One quiet operation: the rest goes on from a later world. -/
theorem Does.looking {post : R -> World -> Prop} {op : Op}
    {rest : Answer op -> Run R} (isQuiet : op.quiet = true)
    (keeps : forall (now : World) choice answer after, World.Onward who world now ->
      now.perform who choice op = some (answer, after) -> World.Onward who world after ->
      Does who post after (rest answer)) :
    Does who post world (perform op >>= rest) := by
  refine Contract.Keeps.performing ?_
  intro now choice answer after relied consistent _ performed
  rcases World.perform_quiet isQuiet consistent performed with ⟨still, spared, same⟩
  exact ⟨still, spared, keeps now choice answer after ⟨relied.toSame, consistent⟩ performed
    ⟨relied.toSame.trans same, still⟩⟩

theorem Does.returning {post : R -> World -> Prop} {result : R}
    (holds : post result world) : Does who post world (pure result : Run R) :=
  holds

end Looking

/-- Processes with this identity, started before the time, have exited. -/
def World.Settled (world : World) (time : Nat) (id : ProcessIdentity) : Prop :=
  forall start, start < time -> (id.startTicks = none ∨ id.startTicks = some start) ->
    world.Exited id.pid start

variable {id : ProcessIdentity}

variable {time : Nat}

theorem World.Settled.later (settled : world.Settled time id)
    (aged : world.Aged now) : now.Settled time id :=
  fun start before isStart => (settled start before isStart).later aged

/-- What has held the PID since before its caller last looked started then. -/
def World.Seen (world : World) (who pid start : Nat) : Prop :=
  world.looked who ≤ world.clock ∧ forall process, world.table pid = some process ->
    process.start < world.looked who -> process.start = start

theorem World.Seen.later {who start : Nat} (seen : world.Seen who pid start)
    (later : World.Later who world now) :
    now.Seen who pid start := by
  unfold World.Seen
  rw [later.looked]
  refine ⟨Nat.le_trans seen.1 later.clock, ?_⟩
  intro process holds older
  rcases later.earlier pid process holds (Nat.lt_of_lt_of_le older seen.1) with
    ⟨before, heldBefore, sameStart, _⟩
  rw [← sameStart] at older ⊢
  exact seen.2 before heldBefore older

section Looking

variable {who : Nat}

/-- Where nobody holds the PID, whoever did has exited. -/
theorem World.settled_of_free (past : time ≤ world.clock)
    (free : world.table id.pid = none) : world.Settled time id :=
  fun _ before _ => ⟨Nat.lt_of_lt_of_le before past, fun _ holds => nomatch free.symm.trans holds⟩

theorem processIsRunning_does (consistent : world.Consistent)
    (id : ProcessIdentity) :
    Does who (fun running ending => World.Onward who world ending ∧
      (running = false -> ending.Settled world.clock id)) world (processIsRunning id.pid) := by
  unfold processIsRunning
  split
  next never =>
    refine Does.returning ⟨consistent.onward who, fun _ => ?_⟩
    refine World.settled_of_free (Nat.le_refl _) ?_
    cases holds : world.table id.pid with
    | none => rfl
    | some process =>
        have range := consistent.pids id.pid process holds
        omega
  next possible =>
    refine @Does.looking _ who Bool _ (.signalZero id.pid) pure rfl ?_
    intro now choice answer after onward performed further
    cases performed
    refine Does.returning ⟨further, fun free => ?_⟩
    have none : now.table id.pid = none :=
      Option.isNone_iff_eq_none.mp (Option.isSome_eq_false_iff.mp free)
    exact World.settled_of_free onward.clock none

/-- A process that is read as exited has. -/
theorem World.settled_of_exited {choice : Choice} (past : time ≤ world.clock)
    (exited : (world.stat choice id.pid).any (·.exited) = true) :
    world.Settled time id := by
  intro start before _
  refine ⟨Nat.lt_of_lt_of_le before past, ?_⟩
  intro process holds _
  unfold World.stat at exited
  split at exited
  · rw [holds] at exited
    exact exited
  · cases exited

/-- What is read of a PID is read of the process that holds it. -/
theorem World.stat_of_holds {choice : Choice} {process : Process}
    {read : Process -> R} {value : R} (reads : (world.stat choice pid).map read = some value)
    (holds : world.table pid = some process) : read process = value := by
  unfold World.stat at reads
  split at reads
  · rw [holds] at reads
    exact Option.some.inj reads
  · cases reads

/-- A PID that is read with another start time is no longer the identity's. -/
theorem World.settled_of_recycled {expected actual : Nat} {choice : Choice}
    (past : time ≤ world.clock) (expects : id.startTicks = some expected)
    (reads : (world.stat choice id.pid).map (·.start) = some actual) (differs : expected ≠ actual) :
    world.Settled time id := by
  intro start before isStart
  refine ⟨Nat.lt_of_lt_of_le before past, ?_⟩
  intro process holds sameStart
  rw [expects] at isStart
  have isExpected : expected = start := isStart.elim nofun Option.some.inj
  have isActual := World.stat_of_holds reads holds
  exact absurd (isExpected.trans (sameStart.symm.trans isActual)) differs

/-- The state of an identity says whether what held its PID before has exited,
and a match that it is still there. -/
theorem identityState_does (consistent : world.Consistent) (id : ProcessIdentity) :
    Does who (fun state ending => World.Onward who world ending ∧
      (state.isExited = true -> ending.Settled world.clock id) ∧
      (state = .isMatch -> forall start, id.startTicks = some start ->
        ending.Seen who id.pid start)) world (identityState id) := by
  unfold identityState
  refine Contract.Keeps.andThen (processIsRunning_does consistent id) ?_
  rintro running first ⟨onward, settled⟩
  cases running with
  | false => exact Does.returning ⟨onward, fun _ => settled rfl, nofun⟩
  | true =>
      refine Contract.Keeps.bind ?_
      unfold processHasExited
      refine Does.looking rfl ?_
      intro now choice answer after toNow performed toAfter
      cases performed
      refine Does.returning ?_
      split
      next exited =>
        refine Does.returning ⟨onward.trans toAfter, fun _ => ?_, nofun⟩
        exact World.settled_of_exited (onward.trans toNow).clock exited
      next alive =>
        refine Does.looking rfl ?_
        intro later choice answer ending toLater performed toEnding
        cases performed
        refine Does.returning ⟨(onward.trans toAfter).trans toEnding, ?_, ?_⟩
        · intro isExited
          split at isExited
          next expected actual expects reads =>
            split at isExited
            next same => cases isExited
            next differs =>
              have settled := World.settled_of_recycled
                ((onward.trans toAfter).trans toLater).clock expects reads differs
              exact settled.later (.still rfl rfl)
          next => cases isExited
          next => cases isExited
        · intro isMatch start expects
          rw [expects] at isMatch
          refine ⟨Nat.le_of_eq (Function.update_self _ _ _), ?_⟩
          intro process holds _
          split at isMatch
          next expected actual isExpected reads =>
            split at isMatch
            next same =>
              cases isExpected
              exact (World.stat_of_holds reads holds).trans same.symm
            next differs => cases isMatch
          next => cases isMatch
          next _ impossible => cases impossible

theorem allExited_does (consistent : world.Consistent)
    (members : List ProcessIdentity) :
    Does who (fun exited ending => World.Onward who world ending ∧
      (exited = true -> forall member, member ∈ members -> ending.Settled world.clock member))
      world (allExited members) := by
  induction members generalizing world with
  | nil => exact Does.returning ⟨consistent.onward who, fun _ _ => nofun⟩
  | cons member rest ih =>
      unfold allExited
      refine Contract.Keeps.andThen (identityState_does consistent member) ?_
      rintro state middle ⟨onward, settled, _⟩
      split
      next exited =>
        refine Contract.Keeps.mono (ih onward.consistent) ?_
        rintro others ending ⟨further, settledRest⟩
        refine ⟨onward.trans further, fun all other listed => ?_⟩
        rcases List.mem_cons.mp listed with isMember | inRest
        · rw [isMember]
          exact (settled exited).later further.toAged
        · intro start before isStart
          exact settledRest all other inRest start (Nat.lt_of_lt_of_le before onward.clock) isStart
      next => exact Does.returning ⟨onward, nofun⟩

theorem pollExits_does (consistent : world.Consistent)
    (members : List ProcessIdentity) (deadline rounds : Nat) :
    Does who (fun exited ending => World.Onward who world ending ∧
      (exited = true -> forall member, member ∈ members -> ending.Settled world.clock member))
      world (pollExits members deadline rounds) := by
  induction rounds generalizing world with
  | zero => exact Does.returning ⟨consistent.onward who, nofun⟩
  | succ rounds ih =>
      unfold pollExits
      refine Contract.Keeps.andThen (allExited_does consistent members) ?_
      rintro exited middle ⟨onward, settled⟩
      cases exited with
      | true => exact Does.returning ⟨onward, settled⟩
      | false =>
          refine Does.looking rfl ?_
          intro _ _ time after _ _ toAfter
          split
          next expired => exact Does.returning ⟨onward.trans toAfter, nofun⟩
          next early =>
            refine Does.looking rfl ?_
            intro _ _ _ later _ _ toLater
            have reached := (onward.trans toAfter).trans toLater
            refine Contract.Keeps.mono (ih reached.consistent) ?_
            rintro all ending ⟨further, settledLater⟩
            refine ⟨reached.trans further, fun exited member listed start before isStart => ?_⟩
            exact settledLater exited member listed start
              (Nat.lt_of_lt_of_le before reached.clock) isStart

/-- A wait that succeeds has seen every member gone. -/
theorem waitForAllExit_does (members : List ProcessIdentity) (grace : Nat) :
    Does who (fun exited ending => World.Onward who world ending ∧
      (exited = true -> forall member, member ∈ members -> ending.Settled world.clock member))
      world (waitForAllExit members grace) := by
  unfold waitForAllExit
  refine Does.looking rfl ?_
  intro _ _ time after _ _ toAfter
  refine Contract.Keeps.mono (pollExits_does toAfter.consistent members _ _) ?_
  rintro all ending ⟨further, settled⟩
  refine ⟨toAfter.trans further, fun exited member listed start before isStart => ?_⟩
  exact settled exited member listed start (Nat.lt_of_lt_of_le before toAfter.clock) isStart

/-- What each program of a loop keeps, the loop keeps. -/
theorem forEach_does {A B : Type} {action : A -> Run B} {kept : World -> Prop} (items : List A)
    (each : forall item, item ∈ items -> forall world, kept world ->
      Does who (fun _ ending => kept ending) world (action item))
    (holds : kept world) :
    Does who (fun _ ending => kept ending) world (forEach action items) := by
  induction items generalizing world with
  | nil => exact Does.returning holds
  | cons item rest ih =>
      unfold forEach
      refine Contract.Keeps.andThen (each item List.mem_cons_self world holds) ?_
      intro done middle holds
      refine Contract.Keeps.andThen (ih (fun other inRest => each other (.tail _ inRest)) holds) ?_
      exact fun more ending holds => Does.returning holds

theorem collectProcessTree_does (root : Nat) :
    Does who (fun pids ending => World.Onward who world ending ∧ pids.Nodup) world
      (collectProcessTree root) := by
  unfold collectProcessTree
  refine Does.looking rfl ?_
  intro _ _ pids after _ _ toAfter
  have each (pid : Nat) (_ : pid ∈ pids) (now : World) (reached : World.Onward who world now) :
      Does who (fun _ ending => World.Onward who world ending) now (readWithParent pid) := by
    unfold readWithParent readParentPid
    refine Contract.Keeps.bind ?_
    refine Does.looking rfl ?_
    intro _ _ stat later _ _ toLater
    exact Does.returning (Does.returning (reached.trans toLater))
  refine Contract.Keeps.andThen (forEach_does pids each toAfter) ?_
  intro children ending reached
  exact Does.returning ⟨reached, StackWalk.walk_nodup root _⟩

end Looking

/-! ## Capturing -/

/-- A call that has captured these and signalled nothing. -/
structure World.Begun (who : Nat) (members : List ProcessIdentity) (world : World) : Prop where
  consistent : world.Consistent
  undecided : world.outcome who = none
  captured : world.captured who = members
  sent : world.sentBy who = []

theorem World.Begun.onward {who : Nat} {members : List ProcessIdentity}
    (begun : world.Begun who members) (onward : World.Onward who world now) :
    now.Begun who members :=
  ⟨onward.consistent, onward.outcome.trans begun.undecided, onward.captured.trans begun.captured,
    onward.sent.trans begun.sent⟩

section Capturing

variable {who : Nat}

theorem capture_does {members : List ProcessIdentity} (pid : Nat)
    (begun : world.Begun who members) :
    Does who (fun identity ending => identity.pid = pid ∧
      ending.Begun who (members ++ [identity])) world (capture pid) := by
  unfold capture
  refine Contract.Keeps.performing ?_
  intro (now : World) choice answer after relied consistent _ performed
  have held := begun.onward ⟨relied.toSame, consistent⟩
  cases performed
  have isEntry {entry : Sent} (listed : entry ∈ now.sent) : entry.caller ≠ who := by
    intro isWho
    have mine : entry ∈ now.sentBy who := List.mem_filter.mpr ⟨listed, decide_eq_true isWho⟩
    rw [held.sent] at mine
    cases mine
  have still : World.Consistent { now with
      captured := Function.update now.captured who
        (now.captured who ++ [⟨pid, (now.stat choice pid).map (·.start)⟩]) } := by
    refine ⟨⟨consistent.confirmed, consistent.silent, ?_⟩, consistent.started, consistent.pids,
      consistent.sentBefore, consistent.lookedBefore⟩
    intro entry listed
    exact (consistent.direct entry listed).transfer (Function.update_of_ne (isEntry listed) _ _)
  refine ⟨still, ?_, ?_⟩
  · intro other apart
    exact ⟨⟨.still rfl rfl, rfl, Function.update_of_ne apart _ _, rfl⟩, rfl⟩
  · refine Does.returning ⟨rfl, still, held.undecided, ?_, held.sent⟩
    rw [← held.captured]
    exact Function.update_self _ _ _

theorem captureAll_does {members : List ProcessIdentity} (pids : List Nat)
    (begun : world.Begun who members) :
    Does who (fun captured ending => captured.map (·.pid) = pids ∧
      ending.Begun who (members ++ captured)) world (forEach capture pids) := by
  induction pids generalizing world members with
  | nil => exact Does.returning ⟨rfl, by rwa [List.append_nil]⟩
  | cons pid rest ih =>
      unfold forEach
      refine Contract.Keeps.andThen (capture_does pid begun) ?_
      rintro identity middle ⟨isPid, begun⟩
      refine Contract.Keeps.andThen (ih begun) ?_
      rintro more ending ⟨arePids, begun⟩
      rw [List.append_assoc] at begun
      refine Does.returning ⟨?_, begun⟩
      rw [List.map_cons, isPid, arePids]

/-- The snapshot is everything the walk found, once. -/
theorem captureMembers_does (id : ProcessIdentity) (begun : world.Begun who []) :
    Does who (fun members ending => (members.map (·.pid)).Nodup ∧ ending.Begun who members) world
      (captureMembers id true) := by
  unfold captureMembers
  rw [if_pos rfl]
  refine Contract.Keeps.andThen (collectProcessTree_does id.pid) ?_
  rintro pids middle ⟨onward, distinct⟩
  refine Contract.Keeps.mono (captureAll_does pids (begun.onward onward)) ?_
  rintro captured ending ⟨arePids, begun⟩
  rw [List.nil_append] at begun
  exact ⟨arePids ▸ distinct, begun⟩

end Capturing

/-! ## Signalling -/

/-- A call that can account for everything it has signalled. -/
structure World.Course (who : Nat) (members : List ProcessIdentity) (world : World) : Prop where
  consistent : world.Consistent
  undecided : world.outcome who = none
  captured : world.captured who = members
  accounted : forall entry, entry ∈ world.sentBy who ->
    world.Exited entry.pid entry.start ∨ world.Names who entry.pid entry.start

theorem World.Begun.course {who : Nat} {members : List ProcessIdentity}
    (begun : world.Begun who members) : world.Course who members :=
  ⟨begun.consistent, begun.undecided, begun.captured, fun _ listed => by
    rw [begun.sent] at listed
    cases listed⟩

theorem World.Course.onward {who : Nat} {members : List ProcessIdentity}
    (course : world.Course who members) (onward : World.Onward who world now) :
    now.Course who members where
  consistent := onward.consistent
  undecided := onward.outcome.trans course.undecided
  captured := onward.captured.trans course.captured
  accounted := by
    intro entry listed
    rw [onward.sent] at listed
    unfold World.Names
    rw [onward.captured]
    exact (course.accounted entry listed).imp (·.later onward.toAged) id

section Signalling

variable {who : Nat} {members : List ProcessIdentity}

/-- A direct signal goes to a member that the call has just seen. -/
def World.Aimed (world : World) (who : Nat) (members : List ProcessIdentity) (pid : Nat)
    (walked : Bool) : Prop :=
  walked = false -> exists member start, member ∈ members ∧ member.pid = pid ∧
    member.startTicks = some start ∧ world.Seen who pid start

theorem sentBy_append_of_ne {entry : Sent} {other : Nat}
    (apart : other ≠ entry.caller) :
    { world with sent := world.sent ++ [entry] }.sentBy other = world.sentBy other := by
  unfold World.sentBy
  dsimp only
  rw [List.filter_append, List.filter_cons, if_neg (by simpa using apart.symm), List.filter_nil,
    List.append_nil]

/-- A captured PID has one start time. -/
theorem startTicks_unique (distinct : (members.map (·.pid)).Nodup) {one other : ProcessIdentity}
    (isOne : one ∈ members) (isOther : other ∈ members) (same : one.pid = other.pid) :
    one = other :=
  List.inj_on_of_nodup_map distinct isOne isOther same

/-- The world after a signal was sent. -/
def World.sending (world : World) (entry : Sent) : World :=
  { world with sent := world.sent ++ [entry] }

theorem sentBy_sending {entry : Sent} :
    (world.sending entry).sentBy entry.caller = world.sentBy entry.caller ++ [entry] := by
  unfold World.sending World.sentBy
  dsimp only
  rw [List.filter_append, List.filter_cons, if_pos (by simp), List.filter_nil]

/-- A signal to a process that the call accounts for leaves everything true. -/
theorem sending_course {entry : Sent} (course : world.Course entry.caller members)
    (before : entry.start < world.clock) (direct : world.Direct entry)
    (accounted : world.Exited entry.pid entry.start ∨
      world.Names entry.caller entry.pid entry.start) :
    (world.sending entry).Course entry.caller members where
  undecided := course.undecided
  captured := course.captured
  accounted := by
    intro other listed
    rw [sentBy_sending] at listed
    rcases List.mem_append.mp listed with old | new
    · exact course.accounted other old
    · rw [List.mem_singleton.mp new]
      exact accounted
  consistent := by
    have others {who : Nat} {outcome : TerminationOutcome}
        (isOutcome : world.outcome who = some outcome) :
        (world.sending entry).sentBy who = world.sentBy who := by
      refine sentBy_append_of_ne fun isCaller => ?_
      rw [isCaller, course.undecided] at isOutcome
      cases isOutcome
    have all {property : Sent -> Prop} (old : forall other, other ∈ world.sent -> property other)
        (new : property entry) (other : Sent) (listed : other ∈ (world.sending entry).sent) :
        property other := by
      rcases List.mem_append.mp listed with isOld | isNew
      · exact old other isOld
      · rw [List.mem_singleton.mp isNew]
        exact new
    refine ⟨⟨?_, ?_, ?_⟩, course.consistent.started, course.consistent.pids, ?_,
      course.consistent.lookedBefore⟩
    · intro who outcome isOutcome confirms other listed
      rw [others isOutcome] at listed
      exact course.consistent.confirmed who outcome isOutcome confirms other listed
    · intro who outcome isOutcome isSilent
      rw [others isOutcome]
      exact course.consistent.silent who outcome isOutcome isSilent
    · exact all (fun other listed => (course.consistent.direct other listed).transfer rfl)
        (direct.transfer rfl)
    · exact all course.consistent.sentBefore before

theorem kill_does {signal : Signal} {walked : Bool}
    (distinct : (members.map (·.pid)).Nodup) (course : world.Course who members)
    (aimed : world.Aimed who members pid walked) :
    Does who (fun _ ending => ending.Course who members) world
      (perform (.kill pid signal walked)) := by
  intro (now : World) choice answer after relied consistent allowed performed
  have held := course.onward ⟨relied.toSame, consistent⟩
  have spares : terminationContract.Spares who now now := fun _ _ => ⟨.refl _ now, rfl⟩
  have sends : now.perform who choice (.kill pid signal walked) = some (answer, after) := performed
  dsimp only [World.perform] at sends
  split at sends
  next free =>
    cases sends
    exact ⟨consistent, spares, held⟩
  next process holds =>
    split at sends
    next owned =>
      cases sends
      have accounts := allowed process holds
      have before := consistent.started pid process holds
      have isMember : walked = false -> exists member, member ∈ members ∧ member.pid = pid ∧
          member.startTicks = some process.start := by
        intro isDirect
        rcases aimed isDirect with ⟨member, start, isMember, isPid, isStart, seen⟩
        rw [if_neg (by rw [isDirect]; exact Bool.false_ne_true)] at accounts
        have same := (seen.later relied).2 process holds accounts
        exact ⟨member, isMember, isPid, same ▸ isStart⟩
      have direct : now.Direct ⟨who, pid, process.start, signal, walked⟩ := by
        intro isDirect _
        rcases isMember isDirect with ⟨member, listed, isPid, isStart⟩
        rw [← held.captured] at listed distinct
        refine ⟨⟨member, listed, isPid⟩, fun other isOther samePid => ?_⟩
        rw [← startTicks_unique distinct listed isOther (isPid.trans samePid.symm)]
        exact isStart
      have accounted : now.Exited pid process.start ∨ now.Names who pid process.start := by
        cases walked with
        | true =>
            rw [if_pos rfl] at accounts
            rcases accounts with exited | foreign | names
            · refine .inl ⟨before, fun other isOther _ => ?_⟩
              cases holds.symm.trans isOther
              exact exited
            · cases foreign.symm.trans owned
            · exact .inr names
        | false =>
            rcases isMember rfl with ⟨member, listed, isPid, isStart⟩
            rw [← held.captured] at listed
            exact .inr ⟨member, listed, isPid, .inr isStart⟩
      have course := @sending_course now members ⟨who, pid, process.start, signal, walked⟩ held
        before direct accounted
      refine ⟨course.consistent, ?_, course⟩
      intro other apart
      exact ⟨⟨.still rfl rfl, sentBy_append_of_ne apart, rfl, rfl⟩, rfl⟩
    next foreign =>
      cases sends
      exact ⟨consistent, spares, held⟩

theorem signalTree_does (root : Nat) (signal : Signal)
    (distinct : (members.map (·.pid)).Nodup) (course : world.Course who members) :
    Does who (fun _ ending => ending.Course who members) world (sendSignal root signal true) := by
  unfold sendSignal signalProcessScope
  rw [if_pos rfl]
  refine Contract.Keeps.andThen (collectProcessTree_does root) ?_
  rintro targets middle ⟨onward, _⟩
  refine Contract.Keeps.andThen (forEach_does targets ?_ (course.onward onward)) ?_
  · exact fun target _ world course => kill_does distinct course nofun
  · exact fun delivered ending course => Does.returning course

theorem signalOne_does (signal : Signal) (distinct : (members.map (·.pid)).Nodup)
    (course : world.Course who members) (aimed : world.Aimed who members pid false) :
    Does who (fun _ ending => ending.Course who members) world (sendSignal pid signal false) := by
  unfold sendSignal signalProcessScope
  rw [if_neg Bool.false_ne_true]
  have sent : Does who (fun _ ending => World.Course who members ending) world
      (forEach (fun target => perform (.kill target signal false)) [pid]) := by
    refine Contract.Keeps.andThen (kill_does distinct course aimed) ?_
    exact fun delivered ending course => Does.returning course
  refine Contract.Keeps.bind (Does.returning ?_)
  exact Contract.Keeps.andThen sent fun delivered ending course => Does.returning course

theorem killSurvivor_does (root : Nat) {member : ProcessIdentity}
    (isMember : member ∈ members) (distinct : (members.map (·.pid)).Nodup)
    (course : world.Course who members) :
    Does who (fun _ ending => ending.Course who members) world (killSurvivor root member) := by
  unfold killSurvivor
  split
  next => exact Does.returning course
  next other =>
    refine Contract.Keeps.andThen (identityState_does course.consistent member) ?_
    rintro state middle ⟨onward, _, seen⟩
    split
    next isMatch =>
      have known : exists start, member.startTicks = some start :=
        Option.ne_none_iff_exists'.mp fun unknown => other (.inr unknown)
      rcases known with ⟨start, isStart⟩
      have aimed : World.Aimed middle who members member.pid false := fun _ =>
        ⟨member, start, isMember, rfl, isStart, seen isMatch start isStart⟩
      refine Contract.Keeps.andThen (signalOne_does .kill distinct (course.onward onward) aimed) ?_
      exact fun delivered ending course => Does.returning course
    next => exact Does.returning (course.onward onward)

/-! ## The call -/

/-- A conclusion that the call can stand by. -/
structure World.Concluded (who : Nat) (outcome : TerminationOutcome) (world : World) : Prop where
  consistent : world.Consistent
  undecided : world.outcome who = none
  confirmed : outcome.confirms = true -> forall entry, entry ∈ world.sentBy who ->
    world.Exited entry.pid entry.start
  silent : outcome.silent = true -> world.sentBy who = []

variable {outcome : TerminationOutcome}

theorem World.Concluded.later (concluded : world.Concluded who outcome)
    (same : World.Same who world now) (consistent : now.Consistent) :
    now.Concluded who outcome where
  consistent := consistent
  undecided := same.outcome.trans concluded.undecided
  confirmed := by
    intro confirms entry listed
    rw [same.sent] at listed
    exact (concluded.confirmed confirms entry listed).later same.toAged
  silent := fun isSilent => same.sent.trans (concluded.silent isSilent)

theorem World.Course.timedOut (course : world.Course who members) :
    world.Concluded who .timedOut :=
  ⟨course.consistent, course.undecided, nofun, nofun⟩

/-- Where everything captured has exited, so has everything signalled. -/
theorem World.Course.concluded {world ending : World} (course : world.Course who members)
    (onward : World.Onward who world ending)
    (settled : forall member, member ∈ members -> ending.Settled world.clock member)
    (isLoud : outcome.silent = false) : ending.Concluded who outcome := by
  have later := course.onward onward
  refine ⟨later.consistent, later.undecided, fun _ entry listed => ?_, fun isSilent => ?_⟩
  · rw [onward.sent] at listed
    rcases course.accounted entry listed with exited | ⟨identity, isCaptured, isPid, isStart⟩
    · exact exited.later onward.toAged
    · rw [course.captured] at isCaptured
      have inSent : entry ∈ world.sent := (List.mem_filter.mp listed).1
      rw [← isPid]
      exact settled identity isCaptured entry.start (course.consistent.sentBefore entry inSent)
        isStart
  · cases isLoud.symm.trans isSilent

theorem escalate_does (id : ProcessIdentity) (grace : Nat)
    (distinct : (members.map (·.pid)).Nodup) (course : world.Course who members) :
    Does who (fun outcome ending => ending.Concluded who outcome) world
      (escalate id members true grace) := by
  have wait {now : World} (course : now.Course who members) :
      Does who (fun outcome ending => World.Concluded who outcome ending) now (do
        let _ ← forEach (killSurvivor id.pid) members
        if ← waitForAllExit members grace then return .forced else return .timedOut) := by
    refine Contract.Keeps.andThen (forEach_does members (fun member listed now course =>
      killSurvivor_does id.pid listed distinct course) course) ?_
    intro killed middle course
    refine Contract.Keeps.andThen (waitForAllExit_does members grace) ?_
    rintro exited waited ⟨onward, settled⟩
    split
    next all => exact Does.returning (course.concluded onward (settled all) rfl)
    next some => exact Does.returning (course.onward onward).timedOut
  unfold escalate
  refine Contract.Keeps.andThen (identityState_does course.consistent id) ?_
  rintro state middle ⟨onward, _, _⟩
  split
  next isMatch =>
    refine Contract.Keeps.andThen (signalTree_does id.pid .kill distinct (course.onward onward)) ?_
    exact fun delivered ending course => wait course
  next => exact wait (course.onward onward)

theorem terminateMatching_does (id : ProcessIdentity) (grace : Nat) (force : Bool)
    (begun : world.Begun who []) :
    Does who (fun outcome ending => ending.Concluded who outcome) world
      (terminateMatching id .tree grace force) := by
  unfold terminateMatching
  refine Contract.Keeps.andThen (captureMembers_does id begun) ?_
  rintro members middle ⟨distinct, begun⟩
  refine Contract.Keeps.andThen (signalTree_does id.pid .term distinct begun.course) ?_
  intro delivered signalled course
  refine Contract.Keeps.andThen (waitForAllExit_does members grace) ?_
  rintro exited waited ⟨onward, settled⟩
  split
  next all => exact Does.returning (course.concluded onward (settled all) rfl)
  next some =>
    split
    next gentle => exact Does.returning (course.onward onward).timedOut
    next forced => exact escalate_does id grace distinct (course.onward onward)

theorem terminateVerified_does (id : ProcessIdentity) (grace : Nat) (force : Bool)
    (begun : world.Begun who []) :
    Does who (fun outcome ending => ending.Concluded who outcome) world
      (terminateVerified id .tree grace force) := by
  unfold terminateVerified
  refine Contract.Keeps.andThen (identityState_does begun.consistent id) ?_
  rintro state middle ⟨onward, _, _⟩
  have still := begun.onward onward
  have untouched (outcome : TerminationOutcome) (quiet : outcome.confirms = false) :
      World.Concluded who outcome middle :=
    ⟨still.consistent, still.undecided, fun confirms => (nomatch quiet.symm.trans confirms),
      fun _ => still.sent⟩
  cases state with
  | gone => exact Does.returning (untouched .alreadyGone rfl)
  | recycled => exact Does.returning (untouched .identityMismatch rfl)
  | indeterminate => exact Does.returning (untouched .unverified rfl)
  | isMatch => exact terminateMatching_does id grace force still

theorem finish_does (concluded : world.Concluded who outcome) :
    Does who (fun _ _ => True) world (perform (.finish outcome)) := by
  intro (now : World) choice answer after relied consistent _ performed
  have held := concluded.later relied.toSame consistent
  cases performed
  have others {other : Nat} (apart : other ≠ who) :
      Function.update now.outcome who (some outcome) other = now.outcome other :=
    Function.update_of_ne apart _ _
  have mine {found : TerminationOutcome}
      (isFound : Function.update now.outcome who (some outcome) who = some found) :
      found = outcome := by
    rw [Function.update_self] at isFound
    exact (Option.some.inj isFound).symm
  refine ⟨⟨⟨?_, ?_, fun entry listed => (consistent.direct entry listed).transfer rfl⟩,
    consistent.started, consistent.pids, consistent.sentBefore, consistent.lookedBefore⟩, ?_, trivial⟩
  · intro other found isFound confirms entry listed
    by_cases same : other = who
    · subst same
      rw [mine isFound] at confirms
      exact held.confirmed confirms entry listed
    · exact consistent.confirmed other found ((others same).symm.trans isFound) confirms entry listed
  · intro other found isFound isSilent
    by_cases same : other = who
    · subst same
      rw [mine isFound] at isSilent
      exact held.silent isSilent
    · exact consistent.silent other found ((others same).symm.trans isFound) isSilent
  · exact fun other apart => ⟨⟨.still rfl rfl, rfl, rfl, others apart⟩, rfl⟩

end Signalling

theorem terminationContract_sound : terminationContract.Sound where
  starts := by
    intro (world : World) who command after consistent _ begins
    change world.begins who = some after at begins
    unfold World.begins at begins
    split at begins
    next fresh =>
      cases begins
      refine ⟨consistent, fun _ _ => ⟨.refl _ world, rfl⟩, ?_⟩
      have begun : world.Begun who [] := ⟨consistent, fresh.1, fresh.2.1, fresh.2.2⟩
      exact Contract.Keeps.andThen (terminateVerified_does _ _ _ begun) fun _ _ => finish_does
    next => cases begins
  happens := by
    intro (world : World) event after consistent _ happened
    have moved := World.happens_moved consistent happened
    exact ⟨moved.consistent consistent, moved.later⟩

/-- Nobody has called yet. -/
structure World.Initial (world : World) : Prop where
  sent : world.sent = []
  captured : forall who, world.captured who = []
  outcome : forall who, world.outcome who = none
  looked : forall who, world.looked who = 0
  started : forall pid process, world.table pid = some process -> process.start < world.clock
  pids : forall pid process, world.table pid = some process -> 0 < pid ∧ pid < 2 ^ 31

theorem World.Initial.consistent (initial : world.Initial) :
    world.Consistent where
  confirmed := fun who _ isOutcome => nomatch (initial.outcome who).symm.trans isOutcome
  silent := fun who _ isOutcome => nomatch (initial.outcome who).symm.trans isOutcome
  direct := fun entry listed => by
    rw [initial.sent] at listed
    cases listed
  started := initial.started
  pids := initial.pids
  sentBefore := fun entry listed => by
    rw [initial.sent] at listed
    cases listed
  lookedBefore := fun who => by
    rw [initial.looked]
    exact Nat.zero_le _

/-- Where every signal finds a process its caller can account for, the outcomes
of every run are true and no direct kill hits a stranger. -/
theorem termination_truthful (world : World) (initial : world.Initial)
    (actions : List machine.Action)
    (accounted : Runs.Guarded machine.step accountable.Obeys (machine.idle world) actions) :
    World.Truthful (machine.worldAfter world actions) :=
  (terminationContract_sound.invariant_worldAfter initial.consistent accounted).toTruthful

/-! ## A child that is not accounted for -/

/-- A service under the first process. -/
def oneService : World where
  table pid :=
    if pid = 1 then some ⟨0, 0, false, false⟩
    else if pid = 100 then some ⟨5, 1, false, true⟩
    else none
  clock := 6
  time := 0
  sent := []
  captured _ := []
  looked _ := 0
  outcome _ := none

theorem oneService_initial : oneService.Initial := by
  refine ⟨rfl, fun _ => rfl, fun _ => rfl, fun _ => rfl, ?_, ?_⟩
  all_goals
    intro pid process holds
    change (if pid = 1 then some ⟨0, 0, false, false⟩
      else if pid = 100 then some ⟨5, 1, false, true⟩ else none) = some process at holds
    split at holds
    next isFirst =>
      cases holds
      subst isFirst
      decide
    next =>
      split at holds
      next isService =>
        cases holds
        subst isService
        decide
      next => cases holds

/-- The caller's next operations, with the directory as it is listed. -/
def looks (count : Nat) (listed : List Nat) : List machine.Action :=
  List.replicate count (.act 0 (⟨true, listed, 0⟩ : Choice))

/-- A call up to its snapshot. -/
def snapshotRun : List machine.Action :=
  .start 0 (⟨100, 5, 0, false⟩ : Command) :: looks 7 [1, 100]

/-- A child is captured with the service.  After the grace period the service
has exited, and its child is killed directly. -/
def forcedRun : List machine.Action :=
  ([.happen (Event.fork 100 101 true), .start 0 (⟨100, 5, 0, true⟩ : Command)] :
      List machine.Action) ++
    looks 15 [1, 100, 101] ++ ([.happen (Event.exit 100 1)] : List machine.Action) ++
    looks 13 [] ++ ([.happen (Event.exit 101 1)] : List machine.Action) ++ looks 6 []

theorem termination_truthful_forced :
    oneService.Initial ∧ World.Truthful (machine.worldAfter oneService forcedRun) ∧
      World.outcome (machine.worldAfter oneService forcedRun) 0 = some .forced ∧
      (⟨0, 101, 6, .kill, false⟩ : Sent) ∈
        World.sentBy (machine.worldAfter oneService forcedRun) 0 :=
  ⟨oneService_initial, termination_truthful oneService oneService_initial forcedRun
    (by decide +kernel), by decide +kernel, by decide +kernel⟩

/-- The service forks after the snapshot; its child is signalled, and stays. -/
def forkedRun : List machine.Action :=
  snapshotRun ++ ([.happen (Event.fork 100 101 true)] : List machine.Action) ++
    looks 6 [1, 100, 101] ++ ([.happen (Event.exit 100 1)] : List machine.Action) ++ looks 4 []

theorem forked_child_survives :
    ¬ forall (world : World), world.Initial -> forall actions : List machine.Action,
      World.Truthful (machine.worldAfter world actions) := by
  intro truthful
  have said : World.outcome (machine.worldAfter oneService forkedRun) 0 = some .graceful := by
    decide +kernel
  have signalled : (⟨0, 101, 6, .term, true⟩ : Sent) ∈
      World.sentBy (machine.worldAfter oneService forkedRun) 0 := by
    decide +kernel
  have lives : World.table (machine.worldAfter oneService forkedRun) 101 =
      some ⟨6, 1, false, true⟩ := by
    decide +kernel
  have exited := (truthful oneService oneService_initial forkedRun).confirmed 0 .graceful said rfl
    ⟨0, 101, 6, .term, true⟩ signalled
  cases exited.2 ⟨6, 1, false, true⟩ lives rfl

end Lifecycle
end RocmCli
