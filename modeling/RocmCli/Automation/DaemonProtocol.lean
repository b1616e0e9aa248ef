import RocmCli.Automation.Daemon

namespace RocmCli
namespace Automation

/-!
# What the lock, the claim and the runtime state say

The lock makes the holder of it the only one who decides.  A command that is
about to spawn has seen that no daemon is left, which the claim vouches for
while a daemon starts and the runtime state afterwards.
-/

def CommandPhase.holdsLock : CommandPhase -> Bool
  | .readState | .readClaim | .spawn | .writeClaim _ | .unlock => true
  | _ => false

def DaemonPhase.holdsLock : DaemonPhase -> Bool
  | .confirming | .releasing | .publishingStop | .unlocking => true
  | _ => false

/-- The daemon is named as running by the runtime state. -/
def DaemonPhase.named : DaemonPhase -> Bool
  | .looping _ | .evaluating _ | .confirming | .releasing | .publishingStop => true
  | _ => false

/-- The daemon has not decided to exit, or has not made it known. -/
def DaemonPhase.present (phase : DaemonPhase) : Bool :=
  phase.undecided || phase.holdsLock

/-- What the lock and the claim say of the daemons. -/
structure Protocol (world : World) : Prop where
  commandsHold : forall command kind phase, world.commands command = some (kind, phase) ->
    phase.holdsLock = true -> world.lock = some (.command command)
  daemonsHold : forall daemon, (world.daemons daemon).holdsLock = true ->
    world.lock = some (.daemon daemon)
  unborn : forall daemon, world.spawned ≤ daemon -> world.daemons daemon = .unborn
  one : forall first second, (world.daemons first).present = true ->
    (world.daemons second).present = true -> first = second
  claimNames : forall claim, world.claim = some claim ->
    (world.daemons claim.daemonPid).undecided = true ∨
      world.daemons claim.daemonPid = .releasing
  claimFollows : forall claim since, world.claim = some claim ->
    world.daemons claim.daemonPid = .starting since -> since ≤ claim.spawnedAtMs
  startsInTime : forall daemon since, world.daemons daemon = .starting since ->
    since ≤ world.now ∧ world.now - since < autostartClaimTtlMs
  claimed : forall daemon, (world.daemons daemon).undecided = true ->
    (exists at', world.claim = some ⟨daemon, at'⟩) ∨
      exists command kind, world.commands command = some (kind, .writeClaim daemon)
  writing : forall command kind daemon,
    world.commands command = some (kind, .writeClaim daemon) ->
      (world.daemons daemon).undecided = true
  spawning : forall command kind, world.commands command = some (kind, .spawn) ->
    forall daemon, (world.daemons daemon).undecided = false

/-- The runtime state names a daemon as running from its first write to its
last, or to its last look at the config. -/
structure Published (world : World) : Prop where
  published : forall daemon, (world.daemons daemon).serving = true ->
    world.runtimeState = some ⟨true, daemon⟩
  stateNames : forall daemon, world.runtimeState = some ⟨true, daemon⟩ ->
    (world.daemons daemon).named = true

theorem protocol_initial (config : AutomationsConfig) : Protocol (initial config) where
  commandsHold := nofun
  daemonsHold := nofun
  unborn := fun _ _ => rfl
  one := nofun
  claimNames := nofun
  claimFollows := nofun
  startsInTime := nofun
  claimed := nofun
  writing := nofun
  spawning := nofun

theorem published_initial (config : AutomationsConfig) : Published (initial config) where
  published := nofun
  stateNames := nofun

/-! ## What one field's change keeps -/

variable {world : World} {command : CommandId}

/-- A command goes on to another phase. -/
theorem protocol_setCommand (protocol : Protocol world) (kind : CommandKind) {phase : CommandPhase}
    (claimDone : forall old daemon, world.commands command = some (old, .writeClaim daemon) ->
      exists at', world.claim = some ⟨daemon, at'⟩)
    (holds : phase.holdsLock = true -> world.lock = some (.command command))
    (noClaim : forall daemon, phase ≠ .writeClaim daemon)
    (clear : phase = .spawn -> forall daemon, (world.daemons daemon).undecided = false) :
    Protocol (world.setCommand command kind phase) := by
  have look : forall other, (world.setCommand command kind phase).commands other =
      if other = command then some (kind, phase) else world.commands other := fun other =>
    Function.update_apply ..
  refine { protocol with commandsHold := ?_, claimed := ?_, writing := ?_, spawning := ?_ }
  · intro other kind' phase' found
    rw [look] at found
    split at found
    · next same =>
        cases found
        rw [same]
        exact holds
    · exact protocol.commandsHold other kind' phase' found
  · intro daemon undecided
    rcases protocol.claimed daemon undecided with named | ⟨writer, kind', writes⟩
    · exact Or.inl named
    · by_cases same : writer = command
      · exact Or.inl (claimDone kind' daemon (same ▸ writes))
      · refine Or.inr ⟨writer, kind', ?_⟩
        rw [look, if_neg same]
        exact writes
  · intro other kind' daemon found
    rw [look] at found
    split at found
    · cases found
      exact absurd rfl (noClaim daemon)
    · exact protocol.writing other kind' daemon found
  · intro other kind' found
    rw [look] at found
    split at found
    · cases found
      exact clear rfl
    · exact protocol.spawning other kind' found

/-- The lock is taken when it is free. -/
theorem protocol_takeLock (protocol : Protocol world) (free : world.lock = none)
    (holder : LockHolder) : Protocol { world with lock := some holder } := by
  refine { protocol with commandsHold := ?_, daemonsHold := ?_ }
  · intro command kind phase found holds
    exact nomatch free.symm.trans (protocol.commandsHold command kind phase found holds)
  · intro daemon holds
    exact nomatch free.symm.trans (protocol.daemonsHold daemon holds)

/-- The lock is released by the one who held it. -/
theorem protocol_releaseLock (protocol : Protocol world)
    (commandsDone : forall command kind phase, world.commands command = some (kind, phase) ->
      phase.holdsLock = false)
    (daemonsDone : forall daemon, (world.daemons daemon).holdsLock = false) :
    Protocol { world with lock := none } := by
  refine { protocol with commandsHold := ?_, daemonsHold := ?_ }
  · intro command kind phase found holds
    exact absurd holds (Bool.eq_false_iff.mp (commandsDone command kind phase found))
  · intro daemon holds
    exact absurd holds (Bool.eq_false_iff.mp (daemonsDone daemon))

variable {daemon : ProcessId} {phase : DaemonPhase}

/-- A daemon goes on to another phase, and one that decides to exit holds the
lock. -/
theorem protocol_setDaemon (protocol : Protocol world) (born : world.daemons daemon ≠ .unborn)
    (begun : phase.isStarting = false)
    (stays : phase.present = true -> (world.daemons daemon).present = true)
    (decides : phase.undecided = true -> (world.daemons daemon).undecided = true)
    (holds : phase.holdsLock = true -> world.lock = some (.daemon daemon))
    (claims : forall claim, world.claim = some claim -> claim.daemonPid = daemon ->
      phase.undecided = true ∨ phase = .releasing)
    (locked : phase.undecided = false -> (world.daemons daemon).undecided = true ->
      world.lock = some (.daemon daemon)) :
    Protocol (world.setDaemon daemon phase) := by
  have look : forall other, (world.setDaemon daemon phase).daemons other =
      if other = daemon then phase else world.daemons other := fun other =>
    Function.update_apply ..
  refine { protocol with
    daemonsHold := ?_, unborn := ?_, one := ?_, claimNames := ?_, claimFollows := ?_
    startsInTime := ?_, claimed := ?_, writing := ?_, spawning := ?_ }
  · intro other
    rw [look]
    split
    · next same => exact same ▸ holds
    · exact protocol.daemonsHold other
  · intro other late
    rw [look, if_neg]
    · exact protocol.unborn other late
    · rintro rfl
      exact born (protocol.unborn other late)
  · have wasPresent : forall other, ((world.setDaemon daemon phase).daemons other).present = true ->
        (world.daemons other).present = true := by
      intro other
      rw [look]
      split
      · next same => exact same ▸ stays
      · exact id
    intro first second firstPresent secondPresent
    exact protocol.one first second (wasPresent first firstPresent)
      (wasPresent second secondPresent)
  · intro claim isClaim
    rw [look]
    split
    · next same => exact claims claim isClaim same
    · exact protocol.claimNames claim isClaim
  · intro claim since isClaim
    rw [look]
    split
    · intro starts
      rw [starts] at begun
      exact nomatch begun
    · exact protocol.claimFollows claim since isClaim
  · intro other since
    rw [look]
    split
    · intro starts
      rw [starts] at begun
      exact nomatch begun
    · exact protocol.startsInTime other since
  · intro other
    rw [look]
    split
    · next same => exact fun undecided => protocol.claimed other (same ▸ decides undecided)
    · exact protocol.claimed other
  · intro command kind other writes
    have wasUndecided := protocol.writing command kind other writes
    rw [look]
    split
    · next same =>
        rw [same] at wasUndecided
        by_cases still : phase.undecided = true
        · exact still
        · have byDaemon := locked (Bool.eq_false_iff.mpr still) wasUndecided
          have byCommand := protocol.commandsHold command kind _ writes rfl
          exact nomatch byDaemon.symm.trans byCommand
    · exact wasUndecided
  · intro command kind spawns other
    have noneLeft := protocol.spawning command kind spawns
    rw [look]
    split
    · exact Bool.eq_false_iff.mpr fun undecided =>
        Bool.eq_false_iff.mp (noneLeft daemon) (decides undecided)
    · exact noneLeft other

variable {kind : CommandKind}

/-- A daemon is started by a command that has seen none left. -/
theorem protocol_spawn {next : World} (protocol : Protocol world)
    (spawns : world.commands command = some (kind, .spawn))
    (isNext : next = ({ world with spawned := world.spawned + 1 }.setDaemon world.spawned
      (.starting world.now)).setCommand command kind (.writeClaim world.spawned)) :
    Protocol next := by
  have locked := protocol.commandsHold command kind .spawn spawns rfl
  have noneLeft := protocol.spawning command kind spawns
  have noneHolds : forall daemon, (world.daemons daemon).holdsLock = false := fun daemon =>
    Bool.eq_false_iff.mpr fun holds => nomatch locked.symm.trans (protocol.daemonsHold daemon holds)
  have others : forall daemon, (world.daemons daemon).present = false := fun daemon => by
    rw [DaemonPhase.present, noneLeft, noneHolds, Bool.or_false]
  have unclaimed : world.claim = none := by
    cases isClaim : world.claim with
    | none => rfl
    | some claim =>
        rcases protocol.claimNames claim isClaim with undecided | releases
        · exact absurd undecided (Bool.eq_false_iff.mp (noneLeft _))
        · have holds := noneHolds claim.daemonPid
          rw [releases] at holds
          exact nomatch holds
  have own : forall other kind' phase, world.commands other = some (kind', phase) ->
      phase.holdsLock = true -> other = command := by
    intro other kind' phase found holds
    have byOther := protocol.commandsHold other kind' phase found holds
    exact (LockHolder.command.inj (Option.some.inj (locked.symm.trans byOther))).symm
  have lookDaemon : forall other, next.daemons other =
      if other = world.spawned then .starting world.now else world.daemons other := fun other =>
    (congrArg (fun world : World => world.daemons other) isNext).trans
      (Function.update_apply ..)
  have lookCommand : forall other, next.commands other =
      if other = command then some (kind, .writeClaim world.spawned)
      else world.commands other := fun other =>
    (congrArg (fun world : World => world.commands other) isNext).trans
      (Function.update_apply ..)
  have sameLock : next.lock = world.lock := by rw [isNext]; rfl
  have sameClaim : next.claim = none := (congrArg World.claim isNext).trans unclaimed
  have sameNow : next.now = world.now := by rw [isNext]; rfl
  have oneMore : next.spawned = world.spawned + 1 := congrArg World.spawned isNext
  refine ⟨?_, ?_, ?_, ?_, ?_, ?_, ?_, ?_, ?_, ?_⟩
  · intro other kind' phase found holds
    rw [lookCommand] at found
    rw [sameLock]
    split at found
    · next same => exact same ▸ locked
    · exact protocol.commandsHold other kind' phase found holds
  · intro other holds
    rw [lookDaemon] at holds
    split at holds
    · exact nomatch holds
    · exact absurd holds (Bool.eq_false_iff.mp (noneHolds other))
  · intro other late
    rw [oneMore] at late
    rw [lookDaemon, if_neg (Nat.ne_of_gt late)]
    exact protocol.unborn other (Nat.le_of_succ_le late)
  · have isNew : forall other, (next.daemons other).present = true -> other = world.spawned := by
      intro other present
      rw [lookDaemon] at present
      split at present
      · next same => exact same
      · exact absurd present (Bool.eq_false_iff.mp (others other))
    intro first second firstPresent secondPresent
    exact (isNew first firstPresent).trans (isNew second secondPresent).symm
  · intro claim isClaim
    exact nomatch sameClaim.symm.trans isClaim
  · intro claim since isClaim
    exact nomatch sameClaim.symm.trans isClaim
  · intro other since starts
    rw [sameNow]
    rw [lookDaemon] at starts
    split at starts
    · cases starts
      exact ⟨Nat.le_refl _, by rw [Nat.sub_self]; decide⟩
    · exact protocol.startsInTime other since starts
  · intro other undecided
    rw [lookDaemon] at undecided
    split at undecided
    · next same =>
        refine Or.inr ⟨command, kind, ?_⟩
        rw [lookCommand, if_pos rfl, same]
    · exact absurd undecided (Bool.eq_false_iff.mp (noneLeft other))
  · intro other kind' daemon writes
    rw [lookCommand] at writes
    split at writes
    · cases writes
      rw [lookDaemon, if_pos rfl]
      rfl
    · next apart => exact absurd (own other kind' _ writes rfl) apart
  · intro other kind' again
    rw [lookCommand] at again
    split at again
    · cases again
    · next apart => exact absurd (own other kind' _ again rfl) apart

/-- The claim of the daemon just started is written. -/
theorem protocol_writeClaim (protocol : Protocol world)
    (writes : world.commands command = some (kind, .writeClaim daemon)) :
    Protocol { world with claim := some ⟨daemon, world.now⟩ } := by
  have undecided := protocol.writing command kind daemon writes
  have present : forall other, (world.daemons other).undecided = true ->
      (world.daemons other).present = true := fun other isUndecided => by
    rw [DaemonPhase.present, isUndecided, Bool.true_or]
  refine { protocol with claimNames := ?_, claimFollows := ?_, claimed := ?_ }
  · intro claim isClaim
    cases isClaim
    exact Or.inl undecided
  · intro claim since isClaim starts
    cases isClaim
    exact (protocol.startsInTime daemon since starts).1
  · intro other isUndecided
    have same := protocol.one other daemon (present other isUndecided) (present daemon undecided)
    exact Or.inl ⟨world.now, by rw [same]⟩

/-- A daemon that has decided to exit drops its own claim. -/
theorem protocol_releaseClaim (protocol : Protocol world)
    (releases : world.daemons daemon = .releasing) :
    Protocol (releaseOwnAutostartClaim world daemon) := by
  have noneLeft : forall other, (world.daemons other).undecided = false := by
    intro other
    refine Bool.eq_false_iff.mpr fun undecided => ?_
    have present : (world.daemons other).present = true := by
      rw [DaemonPhase.present, undecided, Bool.true_or]
    have same := protocol.one other daemon present (by rw [releases]; rfl)
    rw [same, releases] at undecided
    exact nomatch undecided
  unfold releaseOwnAutostartClaim
  split
  · exact { protocol with
      claimNames := nofun
      claimFollows := nofun
      claimed := fun other undecided => absurd undecided (Bool.eq_false_iff.mp (noneLeft other)) }
  · exact protocol

theorem releaseClaim_unclaimed (world : World) (daemon : ProcessId) :
    forall claim, (releaseOwnAutostartClaim world daemon).claim = some claim ->
      claim.daemonPid ≠ daemon := by
  intro claim isClaim same
  unfold releaseOwnAutostartClaim at isClaim
  split at isClaim
  · exact nomatch isClaim
  · next notOwn =>
      apply notOwn
      rw [isClaim]
      exact beq_iff_eq.mpr same

/-! ## Steps of a command -/

section

variable (protocol : Protocol world)
include protocol

theorem protocol_begin (command : CommandId) (kind : CommandKind) :
    Protocol (begin world command kind) := by
  unfold begin
  split
  · exact protocol
  · next absent =>
      have claimDone : forall old daemon,
          world.commands command = some (old, .writeClaim daemon) ->
            exists at', world.claim = some ⟨daemon, at'⟩ := fun old daemon writes =>
        nomatch absent.symm.trans writes
      split
      · exact protocol_setCommand protocol .serve claimDone nofun nofun nofun
      · exact protocol_setCommand protocol kind claimDone nofun nofun nofun

theorem protocol_saveConfig (saves : world.commands command = some (kind, .saveConfig)) :
    Protocol (saveConfig world command kind) := by
  have claimDone : forall old daemon, world.commands command = some (old, .writeClaim daemon) ->
      exists at', world.claim = some ⟨daemon, at'⟩ := fun old daemon writes =>
    nomatch saves.symm.trans writes
  unfold saveConfig
  cases kind with
  | enable watcher mode =>
      dsimp only
      split
      · exact protocol_setCommand protocol _ claimDone nofun nofun nofun
      · next spec _ =>
          have saved : Protocol { world with
              config := world.config.enable spec mode
              standing := Function.update world.standing command true } := { protocol with }
          exact protocol_setCommand saved _ claimDone nofun nofun nofun
  | disable watcher =>
      dsimp only
      split
      · exact protocol_setCommand protocol _ claimDone nofun nofun nofun
      · next spec _ =>
          have saved : Protocol { world with
              config := world.config.disable spec
              standing := standingAfterDisable world watcher } := { protocol with }
          exact protocol_setCommand saved _ claimDone nofun nofun nofun
  | serve => exact protocol

/-- A command that reads the claim in time and finds no spawn in flight leaves
no daemon out. -/
theorem noneLeft_of_notInFlight (reads : world.commands command = some (kind, .readClaim))
    (inTime : ReadsClaimInTime world (.advance command))
    (notInFlight : ¬ world.autostartSpawnInFlight = true) (daemon : ProcessId) :
    (world.daemons daemon).undecided = false := by
  have locked := protocol.commandsHold command kind .readClaim reads rfl
  refine Bool.eq_false_iff.mpr fun undecided => notInFlight ?_
  have alive : world.processIsRunning daemon = true := by
    unfold World.processIsRunning
    cases phase : world.daemons daemon with
    | unborn | gone =>
        rw [phase] at undecided
        exact nomatch undecided
    | _ => rfl
  rcases protocol.claimed daemon undecided with ⟨at', isClaim⟩ | ⟨writer, kind', writes⟩
  · have believed : world.now - at' < autostartClaimTtlMs := by
      by_cases serving : (world.daemons daemon).serving = true
      · exact inTime kind ⟨daemon, at'⟩ reads isClaim serving
      · rw [DaemonPhase.undecided, Bool.eq_false_iff.mpr serving, Bool.or_false] at undecided
        cases phase : world.daemons daemon with
        | starting since =>
            have follows := protocol.claimFollows ⟨daemon, at'⟩ since isClaim phase
            have young := (protocol.startsInTime daemon since phase).2
            exact Nat.lt_of_le_of_lt (Nat.sub_le_sub_left follows world.now) young
        | _ =>
            rw [phase] at undecided
            exact nomatch undecided
    unfold World.autostartSpawnInFlight
    rw [isClaim]
    exact Bool.and_eq_true_iff.mpr ⟨decide_eq_true believed, alive⟩
  · have byWriter := protocol.commandsHold writer kind' _ writes rfl
    obtain rfl := LockHolder.command.inj (Option.some.inj (locked.symm.trans byWriter))
    exact nomatch reads.symm.trans writes

theorem protocol_advance (command : CommandId)
    (inTime : ReadsClaimInTime world (.advance command)) :
    Protocol (advance world command) := by
  unfold advance
  cases found : world.commands command with
  | none => exact protocol
  | some entry =>
      rcases entry with ⟨kind, phase⟩
      have claimDone : (forall daemon, phase ≠ .writeClaim daemon) -> forall old daemon,
          world.commands command = some (old, .writeClaim daemon) ->
            exists at', world.claim = some ⟨daemon, at'⟩ := by
        intro other old daemon writes
        cases found.symm.trans writes
        exact absurd rfl (other daemon)
      have locked : phase.holdsLock = true -> world.lock = some (.command command) :=
        protocol.commandsHold command kind phase found
      cases phase with
      | saveConfig => exact protocol_saveConfig protocol found
      | readConfig =>
          refine protocol_setCommand protocol kind (claimDone nofun) ?_ ?_ ?_
          all_goals split <;> exact nofun
      | awaitLock =>
          dsimp only
          split
          · next free =>
              exact protocol_setCommand (protocol_takeLock protocol free _) kind
                (claimDone nofun) (fun _ => rfl) nofun nofun
          · exact protocol
      | readState =>
          refine protocol_setCommand protocol kind (claimDone nofun) ?_ ?_ ?_
          · exact fun _ => locked rfl
          all_goals split <;> exact nofun
      | readClaim =>
          refine protocol_setCommand protocol kind (claimDone nofun) (fun _ => locked rfl) ?_ ?_
          · split <;> exact nofun
          · intro spawns
            split at spawns
            · exact nomatch spawns
            · next notInFlight => exact noneLeft_of_notInFlight protocol found inTime notInFlight
      | spawn => exact protocol_spawn protocol found rfl
      | writeClaim daemon =>
          refine protocol_setCommand (protocol_writeClaim protocol found) kind ?_
            (fun _ => locked rfl) nofun nofun
          intro old other writes
          cases found.symm.trans writes
          exact ⟨world.now, rfl⟩
      | unlock =>
          have moved : Protocol (world.setCommand command kind .returned) :=
            protocol_setCommand protocol kind (claimDone nofun) nofun nofun nofun
          refine protocol_releaseLock moved ?_ ?_
          · intro other kind' phase' isOther
            refine Bool.eq_false_iff.mpr fun holds => ?_
            have byOther := moved.commandsHold other kind' phase' isOther holds
            obtain rfl := LockHolder.command.inj (Option.some.inj ((locked rfl).symm.trans byOther))
            cases (Function.update_self _ _ world.commands).symm.trans isOther
            exact nomatch holds
          · intro daemon
            exact Bool.eq_false_iff.mpr fun holds =>
              nomatch (locked rfl).symm.trans (protocol.daemonsHold daemon holds)
      | returned | unknownWatcher => exact protocol

/-! ## Steps of a daemon -/

theorem protocol_publish (daemon : ProcessId) (running : Bool) :
    Protocol (publish world daemon running) :=
  { protocol with }

/-- A daemon with the lock that goes on without it. -/
theorem protocol_daemonUnlocks (holds : (world.daemons daemon).holdsLock = true)
    (phase : DaemonPhase) (noLonger : phase.holdsLock = false)
    (moved : Protocol (world.setDaemon daemon phase)) :
    Protocol ({ world with lock := none }.setDaemon daemon phase) := by
  have locked := protocol.daemonsHold daemon holds
  have released : Protocol { world.setDaemon daemon phase with lock := none } := by
    refine protocol_releaseLock moved ?_ ?_
    · intro command kind other found
      exact Bool.eq_false_iff.mpr fun commandHolds =>
        nomatch locked.symm.trans (protocol.commandsHold command kind other found commandHolds)
    · intro other
      refine Bool.eq_false_iff.mpr fun otherHolds => ?_
      have byOther := moved.daemonsHold other otherHolds
      obtain rfl := LockHolder.daemon.inj (Option.some.inj (locked.symm.trans byOther))
      have own : (world.setDaemon daemon phase).daemons daemon = phase := Function.update_self ..
      rw [own, noLonger] at otherHolds
      exact nomatch otherHolds
  exact released

/-- A daemon that stays undecided goes on to another phase. -/
theorem protocol_staysUndecided {old : DaemonPhase} (was : world.daemons daemon = old)
    (wasUndecided : old.undecided = true) (begun : phase.isStarting = false)
    (undecided : phase.undecided = true)
    (holds : phase.holdsLock = true -> world.lock = some (.daemon daemon)) :
    Protocol (world.setDaemon daemon phase) := by
  refine protocol_setDaemon protocol ?_ begun ?_ ?_ holds ?_ ?_
  · intro unborn
    rw [← was, unborn] at wasUndecided
    exact nomatch wasUndecided
  · intro _
    rw [was, DaemonPhase.present, wasUndecided, Bool.true_or]
  · exact fun _ => was ▸ wasUndecided
  · exact fun _ _ _ => Or.inl undecided
  · exact fun decided => absurd undecided (Bool.eq_false_iff.mp decided)

theorem protocol_daemonStep (daemon : ProcessId) (event : DaemonEvent) :
    Protocol (daemonStep world daemon event) := by
  have locked := protocol.daemonsHold daemon
  have noClaim : (world.daemons daemon).undecided = false ->
      world.daemons daemon ≠ .releasing -> forall claim, world.claim = some claim ->
        claim.daemonPid ≠ daemon := by
    rintro decided staying claim isClaim rfl
    rcases protocol.claimNames claim isClaim with undecided | releases
    · exact Bool.eq_false_iff.mp decided undecided
    · exact staying releases
  unfold daemonStep
  split
  · next since phase =>
      exact protocol_staysUndecided (protocol_publish protocol daemon true) phase rfl rfl rfl nofun
  · exact protocol_publish protocol daemon true
  · next attempt phase =>
      exact protocol_staysUndecided (protocol_publish protocol daemon true) phase rfl rfl rfl nofun
  · next attempt phase =>
      split
      all_goals exact protocol_staysUndecided protocol phase rfl rfl rfl nofun
  · next attempt phase => exact protocol_staysUndecided protocol phase rfl rfl rfl nofun
  · next phase => exact protocol_staysUndecided protocol phase rfl rfl rfl nofun
  · next phase =>
      split
      · next free =>
          exact protocol_staysUndecided (protocol_takeLock protocol free (.daemon daemon)) phase
            rfl rfl rfl (fun _ => rfl)
      · exact protocol
  · next phase =>
      have holds : (world.daemons daemon).holdsLock = true := congrArg DaemonPhase.holdsLock phase
      split
      · exact protocol_daemonUnlocks protocol holds (.looping false) rfl
          (protocol_staysUndecided protocol phase rfl rfl rfl nofun)
      · refine protocol_setDaemon protocol ?_ rfl ?_ nofun (fun _ => locked holds) ?_
          (fun _ _ => locked holds)
        · exact fun unborn => nomatch phase.symm.trans unborn
        · exact fun _ => congrArg DaemonPhase.present phase
        · exact fun _ _ _ => Or.inr rfl
  · next phase =>
      have holds : (world.daemons daemon).holdsLock = true := congrArg DaemonPhase.holdsLock phase
      have released : (releaseOwnAutostartClaim world daemon).daemons daemon = .releasing := by
        unfold releaseOwnAutostartClaim
        split <;> exact phase
      have stillLocked : (releaseOwnAutostartClaim world daemon).lock = some (.daemon daemon) := by
        unfold releaseOwnAutostartClaim
        split <;> exact locked holds
      refine protocol_setDaemon (protocol_releaseClaim protocol phase) ?_ rfl ?_ nofun
        (fun _ => stillLocked) ?_ (fun _ _ => stillLocked)
      · exact fun unborn => nomatch released.symm.trans unborn
      · exact fun _ => congrArg DaemonPhase.present released
      · exact fun claim isClaim same =>
          absurd same (releaseClaim_unclaimed world daemon claim isClaim)
  · next phase =>
      have holds : (world.daemons daemon).holdsLock = true := congrArg DaemonPhase.holdsLock phase
      have unclaimed := noClaim (congrArg DaemonPhase.undecided phase)
        (fun releases => nomatch phase.symm.trans releases)
      refine protocol_setDaemon (protocol_publish protocol daemon false) ?_ rfl ?_ nofun
        (fun _ => locked holds) ?_ (fun _ _ => locked holds)
      · exact fun unborn => nomatch phase.symm.trans unborn
      · exact fun _ => congrArg DaemonPhase.present phase
      · exact fun claim isClaim same => absurd same (unclaimed claim isClaim)
  · next phase =>
      have holds : (world.daemons daemon).holdsLock = true := congrArg DaemonPhase.holdsLock phase
      have unclaimed := noClaim (congrArg DaemonPhase.undecided phase)
        (fun releases => nomatch phase.symm.trans releases)
      refine protocol_daemonUnlocks protocol holds .ending rfl ?_
      refine protocol_setDaemon protocol ?_ rfl nofun nofun nofun ?_ (fun _ _ => locked holds)
      · exact fun unborn => nomatch phase.symm.trans unborn
      · exact fun claim isClaim same => absurd same (unclaimed claim isClaim)
  · next phase =>
      have unclaimed := noClaim (congrArg DaemonPhase.undecided phase)
        (fun releases => nomatch phase.symm.trans releases)
      refine protocol_setDaemon protocol ?_ rfl nofun nofun nofun ?_ ?_
      · exact fun unborn => nomatch phase.symm.trans unborn
      · exact fun claim isClaim same => absurd same (unclaimed claim isClaim)
      · exact fun _ undecided =>
          nomatch (congrArg DaemonPhase.undecided phase).symm.trans undecided
  · exact protocol

theorem protocol_step (action : Action) (started : StartsInTime world action)
    (inTime : ReadsClaimInTime world action) :
    Protocol (step world action) := by
  cases action with
  | begin command kind => exact protocol_begin protocol command kind
  | advance command => exact protocol_advance protocol command inTime
  | daemon daemon event => exact protocol_daemonStep protocol daemon event
  | pass ms =>
      refine { protocol with startsInTime := ?_ }
      intro daemon since starts
      exact ⟨Nat.le_add_right_of_le (protocol.startsInTime daemon since starts).1,
        started daemon since starts⟩

end

/-! ## The runtime state -/

/-- A daemon goes on without a write. -/
theorem published_setDaemon (published : Published world) {old : DaemonPhase}
    (was : world.daemons daemon = old) (serves : phase.serving = true -> old.serving = true)
    (stays : old.named = true -> phase.named = true) :
    Published (world.setDaemon daemon phase) := by
  have look : forall other, (world.setDaemon daemon phase).daemons other =
      if other = daemon then phase else world.daemons other := fun other =>
    Function.update_apply ..
  refine ⟨?_, ?_⟩
  · intro other serving
    rw [look] at serving
    split at serving
    · next same => exact published.published other (by rw [same, was]; exact serves serving)
    · exact published.published other serving
  · intro other isState
    have named := published.stateNames other isState
    rw [look]
    split
    · next same =>
        rw [same, was] at named
        exact stays named
    · exact named

/-- A daemon writes the runtime state and goes on. -/
theorem published_publish (protocol : Protocol world) {running : Bool}
    (present : (world.daemons daemon).present = true)
    (serves : phase.serving = true -> running = true)
    (named : running = true -> phase.named = true) :
    Published ((publish world daemon running).setDaemon daemon phase) := by
  have look : forall other, ((publish world daemon running).setDaemon daemon phase).daemons other =
      if other = daemon then phase else world.daemons other := fun other =>
    Function.update_apply ..
  refine ⟨?_, ?_⟩
  · intro other serving
    rw [look] at serving
    split at serving
    · next same =>
        rw [same, ← serves serving]
        rfl
    · next apart =>
        have otherPresent : (world.daemons other).present = true := by
          rw [DaemonPhase.present, DaemonPhase.undecided, serving, Bool.or_true, Bool.true_or]
        exact absurd (protocol.one other daemon otherPresent present) apart
  · intro other isState
    cases isState
    rw [look, if_pos rfl]
    exact named rfl

section

variable (protocol : Protocol world) (published : Published world)
include protocol published

theorem published_advance (command : CommandId) : Published (advance world command) := by
  unfold advance
  cases found : world.commands command with
  | none => exact published
  | some entry =>
      rcases entry with ⟨kind, phase⟩
      cases phase with
      | saveConfig =>
          cases kind with
          | serve => exact published
          | _ =>
              dsimp only [saveConfig]
              split <;> exact { published with }
      | spawn =>
          have unborn := protocol.unborn world.spawned (Nat.le_refl _)
          have counted : Published { world with spawned := world.spawned + 1 } :=
            { published with }
          have started : Published ({ world with spawned := world.spawned + 1 }.setDaemon
              world.spawned (.starting world.now)) :=
            published_setDaemon counted unborn nofun nofun
          exact { started with }
      | awaitLock =>
          dsimp only
          split
          · exact { published with }
          · exact published
      | _ => exact { published with }

theorem published_daemonStep (daemon : ProcessId) (event : DaemonEvent) :
    Published (daemonStep world daemon event) := by
  unfold daemonStep
  split
  · next phase =>
      exact published_publish protocol (congrArg DaemonPhase.present phase) (fun _ => rfl)
        (fun _ => rfl)
  · next phase =>
      have already := published.published daemon (congrArg DaemonPhase.serving phase)
      have same : publish world daemon true = world := by
        unfold publish
        rw [← already]
      rw [same]
      exact published
  · next phase =>
      exact published_publish protocol (congrArg DaemonPhase.present phase) (fun _ => rfl)
        (fun _ => rfl)
  · next phase =>
      split
      all_goals exact published_setDaemon published phase (fun _ => rfl) (fun _ => rfl)
  · next phase => exact published_setDaemon published phase (fun _ => rfl) (fun _ => rfl)
  · next phase => exact published_setDaemon published phase (fun _ => rfl) (fun _ => rfl)
  · next phase =>
      split
      · next free =>
          have taken : Published { world with lock := some (.daemon daemon) } :=
            { published with }
          exact published_setDaemon taken phase (fun _ => rfl) (fun _ => rfl)
      · exact published
  · next phase =>
      split
      · have released : Published { world with lock := none } := { published with }
        exact published_setDaemon released phase (fun _ => rfl) (fun _ => rfl)
      · exact published_setDaemon published phase nofun (fun _ => rfl)
  · next phase =>
      have released : Published (releaseOwnAutostartClaim world daemon) := by
        unfold releaseOwnAutostartClaim
        split <;> exact { published with }
      have still : (releaseOwnAutostartClaim world daemon).daemons daemon = .releasing := by
        unfold releaseOwnAutostartClaim
        split <;> exact phase
      exact published_setDaemon released still nofun (fun _ => rfl)
  · next phase => exact published_publish protocol (congrArg DaemonPhase.present phase) nofun nofun
  · next phase =>
      have released : Published { world with lock := none } := { published with }
      exact published_setDaemon released phase nofun nofun
  · next phase => exact published_setDaemon published phase nofun nofun
  · exact published

theorem published_step (action : Action) : Published (step world action) := by
  cases action with
  | begin command kind =>
      dsimp only [step, begin]
      split
      · exact published
      · split <;> exact { published with }
  | advance command => exact published_advance protocol published command
  | daemon daemon event => exact published_daemonStep protocol published daemon event
  | pass ms => exact { published with }

end

end Automation
end RocmCli
