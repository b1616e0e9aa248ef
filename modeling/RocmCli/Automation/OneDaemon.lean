import RocmCli.Automation.DaemonProtocol

namespace RocmCli
namespace Automation

open Runs (finalState Guarded)

/-!
# One daemon for the enabled watchers

A daemon that has decided to exit has seen, under the lock, that no watcher is
enabled, and an enable that is through has seen, under the lock, a daemon that
has not decided.

Between a command's look at the runtime state and its look at the claim a
daemon can publish itself.  A claim that is no longer believed by then names
a daemon that the command does not know to be running, and a second one is
started: `ReadsClaimInTime` is what keeps that from happening.
-/

/-! ## Who decides to exit -/

/-- A step of one daemon leaves the others. -/
theorem daemonStep_other (world : World) (daemon : ProcessId) (event : DaemonEvent)
    {other : ProcessId} (apart : other ≠ daemon) :
    (daemonStep world daemon event).daemons other = world.daemons other := by
  have kept : forall (between : World) (phase : DaemonPhase),
      between.daemons = world.daemons ->
        (between.setDaemon daemon phase).daemons other = world.daemons other := by
    intro between phase same
    rw [← same]
    exact Function.update_of_ne apart ..
  have released : (releaseOwnAutostartClaim world daemon).daemons = world.daemons := by
    unfold releaseOwnAutostartClaim
    split <;> rfl
  unfold daemonStep
  split
  case h_2 => rfl
  case h_7 =>
    split
    · exact kept _ _ rfl
    · rfl
  case h_8 => split <;> exact kept _ _ rfl
  case h_9 => exact kept _ _ released
  case h_13 => rfl
  all_goals exact kept _ _ rfl

variable {world : World}

/-- A step of a daemon keeps it undecided, unless it reads under the lock that
no watcher is enabled. -/
theorem daemonStep_undecided {daemon : ProcessId} (event : DaemonEvent)
    (undecided : (world.daemons daemon).undecided = true)
    (decides : ((daemonStep world daemon event).daemons daemon).undecided = false) :
    world.daemons daemon = .confirming ∧ world.config.automationDaemonEnabled = false := by
  have moved : forall (between : World) (phase : DaemonPhase),
      (between.setDaemon daemon phase).daemons daemon = phase := fun _ _ =>
    Function.update_self ..
  have unchanged : ¬ (world.daemons daemon).undecided = false := fun decided =>
    Bool.eq_false_iff.mp decided undecided
  unfold daemonStep at decides
  split at decides
  case h_2 => exact absurd decides unchanged
  case h_4 =>
    rw [moved] at decides
    split at decides <;> exact nomatch decides
  case h_7 =>
    split at decides
    · rw [moved] at decides
      exact nomatch decides
    · exact absurd decides unchanged
  case h_8 phase =>
    split at decides
    · rw [moved] at decides
      exact nomatch decides
    · next unneeded => exact ⟨phase, Bool.eq_false_iff.mpr unneeded⟩
  case h_9 phase =>
    rw [phase] at undecided
    exact nomatch undecided
  case h_10 phase =>
    rw [phase] at undecided
    exact nomatch undecided
  case h_11 phase =>
    rw [phase] at undecided
    exact nomatch undecided
  case h_12 phase =>
    rw [phase] at undecided
    exact nomatch undecided
  case h_13 => exact absurd decides unchanged
  all_goals
    rw [moved] at decides
    exact nomatch decides

/-- A daemon decides to exit under the lock, when the config it reads there has
no watcher enabled. -/
theorem decides_unneeded (protocol : Protocol world) (action : Action) {daemon : ProcessId}
    (undecided : (world.daemons daemon).undecided = true)
    (decides : ((step world action).daemons daemon).undecided = false) :
    world.lock = some (.daemon daemon) ∧ world.config.automationDaemonEnabled = false := by
  have unchanged : (step world action).daemons daemon = world.daemons daemon -> False :=
    fun same => Bool.eq_false_iff.mp decides ((congrArg DaemonPhase.undecided same).trans undecided)
  cases action with
  | begin command kind =>
      refine (unchanged ?_).elim
      dsimp only [step, begin]
      split
      · rfl
      · split <;> rfl
  | advance command =>
      refine (unchanged ?_).elim
      dsimp only [step, advance]
      split
      · rfl
      · next kind phase found =>
          cases phase with
          | saveConfig =>
              cases kind with
              | serve => rfl
              | _ =>
                  dsimp only [saveConfig]
                  split <;> rfl
          | awaitLock =>
              dsimp only
              split <;> rfl
          | spawn =>
              refine Function.update_of_ne ?_ ..
              rintro rfl
              rw [protocol.unborn _ (Nat.le_refl _)] at undecided
              exact nomatch undecided
          | _ => rfl
  | daemon other event =>
      by_cases same : daemon = other
      · obtain rfl := same
        rcases daemonStep_undecided event undecided decides with ⟨confirms, unneeded⟩
        exact ⟨protocol.daemonsHold daemon (congrArg DaemonPhase.holdsLock confirms), unneeded⟩
      · exact (unchanged (daemonStep_other world other event same)).elim
  | pass ms => exact (unchanged rfl).elim

/-! ## Standing enables -/

/-- The command has nothing left to do for the daemon. -/
def CommandPhase.settled : CommandPhase -> Bool
  | .unlock | .returned => true
  | _ => false

/-- The watcher of a standing enable is enabled, and when the enable is through
there is a daemon. -/
structure Standing (world : World) : Prop where
  enabled : forall command, world.standing command = true -> exists watcher mode phase,
    world.commands command = some (.enable watcher mode, phase) ∧ world.config.Enabled watcher
  served : forall command kind phase, world.commands command = some (kind, phase) ->
    phase.settled = true -> world.standing command = true ->
      exists daemon, (world.daemons daemon).undecided = true

theorem standing_initial (config : AutomationsConfig) : Standing (initial config) where
  enabled := nofun
  served := nofun

variable {command : CommandId}

theorem Standing.needed (standing : Standing world) (stands : world.standing command = true) :
    world.config.automationDaemonEnabled = true := by
  rcases standing.enabled command stands with ⟨watcher, mode, phase, found, enabled⟩
  exact automationDaemonEnabled_of_enabled enabled

/-- A command goes on; one that has nothing left to do has seen a daemon. -/
theorem standing_goesOn {next : World} (standing : Standing world) {kind : CommandKind}
    {old phase : CommandPhase} (found : world.commands command = some (kind, old))
    (isNext : next.commands = Function.update world.commands command (some (kind, phase)))
    (sameConfig : next.config = world.config) (sameStanding : next.standing = world.standing)
    (stays : forall daemon, (world.daemons daemon).undecided = true ->
      (next.daemons daemon).undecided = true)
    (settles : phase.settled = true -> world.standing command = true ->
      exists daemon, (world.daemons daemon).undecided = true) : Standing next := by
  have look : forall other, next.commands other =
      if other = command then some (kind, phase) else world.commands other := fun other =>
    (congrFun isNext other).trans (Function.update_apply ..)
  refine ⟨?_, ?_⟩
  · intro other stands
    rw [sameStanding] at stands
    rcases standing.enabled other stands with ⟨watcher, mode, otherPhase, isEnable, enabled⟩
    rw [look, sameConfig]
    split
    · next same =>
        rw [same] at isEnable
        cases found.symm.trans isEnable
        exact ⟨watcher, mode, phase, rfl, enabled⟩
    · exact ⟨watcher, mode, otherPhase, isEnable, enabled⟩
  · intro other kind' phase' isOther settled stands
    rw [sameStanding] at stands
    have before : exists daemon, (world.daemons daemon).undecided = true := by
      rw [look] at isOther
      split at isOther
      · next same =>
          cases isOther
          exact settles settled (same ▸ stands)
      · exact standing.served other kind' phase' isOther settled stands
    rcases before with ⟨daemon, undecided⟩
    exact ⟨daemon, stays daemon undecided⟩

theorem standing_saveConfig (standing : Standing world) {kind : CommandKind}
    (saves : world.commands command = some (kind, .saveConfig)) :
    Standing (saveConfig world command kind) := by
  unfold saveConfig
  cases kind with
  | enable watcher mode =>
      dsimp only
      split
      · exact standing_goesOn standing saves rfl rfl rfl (fun _ => id) nofun
      · next spec known =>
          refine ⟨?_, ?_⟩
          · intro other stands
            by_cases same : other = command
            · refine ⟨watcher, mode, .readConfig, ?_, ?_⟩
              · rw [same]
                exact Function.update_self ..
              · rw [← builtinWatcher_id known]
                exact enabled_enable world.config spec mode
            · have stood : world.standing other = true :=
                (Function.update_of_ne same ..).symm.trans stands
              rcases standing.enabled other stood with
                ⟨others, otherMode, phase, isEnable, enabled⟩
              exact ⟨others, otherMode, phase, (Function.update_of_ne same ..).trans isEnable,
                enabled.enable spec mode⟩
          · intro other kind' phase isOther settled stands
            by_cases same : other = command
            · rw [same] at isOther
              cases (Function.update_self _ _ world.commands).symm.trans isOther
              exact nomatch settled
            · have stood : world.standing other = true :=
                (Function.update_of_ne same ..).symm.trans stands
              exact standing.served other kind' phase
                ((Function.update_of_ne same ..).symm.trans isOther) settled stood
  | disable watcher =>
      dsimp only
      split
      · exact standing_goesOn standing saves rfl rfl rfl (fun _ => id) nofun
      · next spec known =>
          have stood : forall other, standingAfterDisable world watcher other = true ->
              other ≠ command ∧ world.standing other = true ∧
                forall enabled mode phase,
                  world.commands other = some (.enable enabled mode, phase) ->
                    enabled ≠ watcher := by
            intro other stands
            unfold standingAfterDisable at stands
            split at stands
            · next enabled mode phase found =>
                rw [Bool.and_eq_true, Bool.not_eq_true'] at stands
                refine ⟨?_, stands.1, ?_⟩
                · rintro rfl
                  exact nomatch saves.symm.trans found
                · intro enabled' mode' phase' found'
                  cases found.symm.trans found'
                  exact ne_of_beq_false stands.2
            · next notEnable =>
                rcases standing.enabled other stands with ⟨enabled, mode, phase, found, _⟩
                exact absurd found (notEnable enabled mode phase)
          refine ⟨?_, ?_⟩
          · intro other stands
            rcases stood other stands with ⟨apart, stoodBefore, apartWatcher⟩
            rcases standing.enabled other stoodBefore with
              ⟨enabled, mode, phase, isEnable, isEnabled⟩
            refine ⟨enabled, mode, phase, (Function.update_of_ne apart ..).trans isEnable, ?_⟩
            refine isEnabled.disable ?_
            rw [builtinWatcher_id known]
            exact apartWatcher enabled mode phase isEnable
          · intro other kind' phase isOther settled stands
            rcases stood other stands with ⟨apart, stoodBefore, _⟩
            exact standing.served other kind' phase
              ((Function.update_of_ne apart ..).symm.trans isOther) settled stoodBefore
  | serve => exact standing

/-- Under a command's lock, a daemon that the runtime state shows running has
not decided to exit. -/
theorem undecided_of_running (protocol : Protocol world) (published : Published world)
    (locked : world.lock = some (.command command))
    (running : world.backgroundHelperAlreadyRunning = true) :
    exists daemon, (world.daemons daemon).undecided = true := by
  unfold World.backgroundHelperAlreadyRunning at running
  split at running
  · next state isState =>
      rcases state with ⟨flagged, daemon⟩
      obtain ⟨rfl, _⟩ : flagged = true ∧ _ := Bool.and_eq_true_iff.mp running
      refine ⟨daemon, ?_⟩
      have named := published.stateNames daemon isState
      have noLock : ¬ (world.daemons daemon).holdsLock = true := fun holds =>
        nomatch locked.symm.trans (protocol.daemonsHold daemon holds)
      cases phase : world.daemons daemon with
      | looping | evaluating | confirming | starting => rfl
      | releasing | publishingStop =>
          rw [phase] at noLock
          exact absurd rfl noLock
      | _ =>
          rw [phase] at named
          exact nomatch named
  · exact nomatch running

/-- Under a command's lock, a claim that is believed names a daemon that has
not decided to exit. -/
theorem undecided_of_inFlight (protocol : Protocol world)
    (locked : world.lock = some (.command command))
    (inFlight : world.autostartSpawnInFlight = true) :
    exists daemon, (world.daemons daemon).undecided = true := by
  unfold World.autostartSpawnInFlight at inFlight
  split at inFlight
  · next claim isClaim =>
      rcases protocol.claimNames claim isClaim with undecided | releases
      · exact ⟨claim.daemonPid, undecided⟩
      · have holds := protocol.daemonsHold claim.daemonPid (by rw [releases]; rfl)
        exact nomatch locked.symm.trans holds
  · exact nomatch inFlight

theorem standing_advance (protocol : Protocol world) (published : Published world)
    (standing : Standing world) (command : CommandId) :
    Standing (advance world command) := by
  unfold advance
  cases found : world.commands command with
  | none => exact standing
  | some entry =>
      rcases entry with ⟨kind, phase⟩
      have locked : phase.holdsLock = true -> world.lock = some (.command command) :=
        protocol.commandsHold command kind phase found
      cases phase with
      | saveConfig => exact standing_saveConfig standing found
      | readConfig =>
          refine standing_goesOn standing found rfl rfl rfl (fun _ => id) ?_
          intro settled stands
          rw [if_pos (standing.needed stands)] at settled
          exact nomatch settled
      | awaitLock =>
          dsimp only
          split
          · exact standing_goesOn standing found rfl rfl rfl (fun _ => id) nofun
          · exact standing
      | readState =>
          refine standing_goesOn standing found rfl rfl rfl (fun _ => id) ?_
          intro settled _
          split at settled
          · next running => exact undecided_of_running protocol published (locked rfl) running
          · exact nomatch settled
      | readClaim =>
          refine standing_goesOn standing found rfl rfl rfl (fun _ => id) ?_
          intro settled _
          split at settled
          · next inFlight => exact undecided_of_inFlight protocol (locked rfl) inFlight
          · exact nomatch settled
      | spawn =>
          refine standing_goesOn standing found rfl rfl rfl ?_ nofun
          intro daemon undecided
          exact absurd undecided
            (Bool.eq_false_iff.mp (protocol.spawning command kind found daemon))
      | writeClaim daemon =>
          refine standing_goesOn standing found rfl rfl rfl (fun _ => id) ?_
          exact fun _ _ => ⟨daemon, protocol.writing command kind daemon found⟩
      | unlock =>
          refine standing_goesOn standing found rfl rfl rfl (fun _ => id) ?_
          exact fun _ stands => standing.served command kind .unlock found rfl stands
      | returned | unknownWatcher => exact standing

theorem standing_begin (standing : Standing world) (command : CommandId) (kind : CommandKind) :
    Standing (begin world command kind) := by
  have starts : forall (kind' : CommandKind) (phase : CommandPhase), phase.settled = false ->
      world.commands command = none -> Standing (world.setCommand command kind' phase) := by
    intro kind' phase unsettled absent
    refine ⟨?_, ?_⟩
    · intro other stands
      rcases standing.enabled other stands with ⟨watcher, mode, old, isEnable, enabled⟩
      have apart : other ≠ command := by
        rintro rfl
        exact nomatch absent.symm.trans isEnable
      exact ⟨watcher, mode, old, (Function.update_of_ne apart ..).trans isEnable, enabled⟩
    · intro other kind'' old isOther settled stands
      by_cases same : other = command
      · rw [same] at isOther
        cases (Function.update_self _ _ world.commands).symm.trans isOther
        exact absurd settled (Bool.eq_false_iff.mp unsettled)
      · exact standing.served other kind'' old
          ((Function.update_of_ne same ..).symm.trans isOther) settled stands
  unfold begin
  split
  · exact standing
  · next absent =>
      split
      · exact starts .serve .readConfig rfl absent
      · exact starts kind .saveConfig rfl absent

theorem daemonStep_sameCommands (world : World) (daemon : ProcessId) (event : DaemonEvent) :
    (daemonStep world daemon event).commands = world.commands ∧
      (daemonStep world daemon event).config = world.config ∧
        (daemonStep world daemon event).standing = world.standing := by
  unfold daemonStep
  split
  case h_7 => split <;> exact ⟨rfl, rfl, rfl⟩
  case h_8 => split <;> exact ⟨rfl, rfl, rfl⟩
  case h_9 =>
    unfold releaseOwnAutostartClaim
    split <;> exact ⟨rfl, rfl, rfl⟩
  all_goals exact ⟨rfl, rfl, rfl⟩

theorem standing_daemonStep (protocol : Protocol world) (standing : Standing world)
    (daemon : ProcessId) (event : DaemonEvent) :
    Standing (daemonStep world daemon event) := by
  rcases daemonStep_sameCommands world daemon event with ⟨sameCommands, sameConfig, sameStanding⟩
  refine ⟨?_, ?_⟩
  · intro command stands
    rw [sameStanding] at stands
    rw [sameCommands, sameConfig]
    exact standing.enabled command stands
  · intro command kind phase found settled stands
    rw [sameCommands] at found
    rw [sameStanding] at stands
    rcases standing.served command kind phase found settled stands with ⟨serving, undecided⟩
    refine ⟨serving, ?_⟩
    by_cases decides : ((daemonStep world daemon event).daemons serving).undecided = true
    · exact decides
    · have unneeded := decides_unneeded protocol (.daemon daemon event) undecided
        (Bool.eq_false_iff.mpr decides)
      exact nomatch unneeded.2.symm.trans (standing.needed stands)

theorem standing_step (protocol : Protocol world) (published : Published world)
    (standing : Standing world) (action : Action) : Standing (step world action) := by
  cases action with
  | begin command kind => exact standing_begin standing command kind
  | advance command => exact standing_advance protocol published standing command
  | daemon daemon event => exact standing_daemonStep protocol standing daemon event
  | pass ms => exact { standing with }

/-! ## Runs -/

theorem alive_of_undecided {phase : DaemonPhase} (undecided : phase.undecided = true) :
    phase.alive = true := by
  cases phase with
  | unborn | gone => exact nomatch undecided
  | _ => rfl

/-- At most one daemon has not decided to exit, an enable that is through and
stands has one, and none decides to exit over a config with a watcher enabled. -/
structure OneServingDaemon (world : World) : Prop where
  atMostOne : forall first second, (world.daemons first).undecided = true ->
    (world.daemons second).undecided = true -> first = second
  served : forall command watcher mode,
    world.commands command = some (.enable watcher mode, .returned) ->
      world.standing command = true -> exists daemon, (world.daemons daemon).alive = true ∧
        (world.daemons daemon).undecided = true
  decides : forall action daemon, (world.daemons daemon).undecided = true ->
    ((step world action).daemons daemon).undecided = false ->
      world.lock = some (.daemon daemon) ∧ world.config.automationDaemonEnabled = false

/-- What holds along every run whose claims are read in time. -/
structure Orderly (world : World) : Prop where
  protocol : Protocol world
  published : Published world
  standing : Standing world

theorem orderly_step (world : World) (action : Action) (orderly : Orderly world)
    (assumed : StartsInTime world action ∧ ReadsClaimInTime world action) :
    Orderly (step world action) where
  protocol := protocol_step orderly.protocol action assumed.1 assumed.2
  published := published_step orderly.protocol orderly.published action
  standing := standing_step orderly.protocol orderly.published orderly.standing action

theorem Orderly.oneServingDaemon (orderly : Orderly world) : OneServingDaemon world := by
  have present : forall daemon, (world.daemons daemon).undecided = true ->
      (world.daemons daemon).present = true := fun daemon undecided => by
    rw [DaemonPhase.present, undecided, Bool.true_or]
  refine ⟨?_, ?_, ?_⟩
  · intro first second firstUndecided secondUndecided
    exact orderly.protocol.one first second (present first firstUndecided)
      (present second secondUndecided)
  · intro command watcher mode returned stands
    rcases orderly.standing.served command _ .returned returned rfl stands with
      ⟨daemon, undecided⟩
    exact ⟨daemon, alive_of_undecided undecided, undecided⟩
  · intro action daemon undecided decides
    exact decides_unneeded orderly.protocol action undecided decides

/-- An enabled watcher has its daemon, and only one, in every run in which each
claim that names a serving daemon is read within its lifetime. -/
theorem watcher_has_one_daemon (config : AutomationsConfig) {actions : List Action}
    (assumed : Guarded step
      (fun world action => StartsInTime world action ∧ ReadsClaimInTime world action)
      (initial config) actions) :
    OneServingDaemon (finalState step (initial config) actions) :=
  (Runs.invariant_of_step orderly_step
    ⟨protocol_initial config, published_initial config, standing_initial config⟩
    assumed).oneServingDaemon

/-- An enable, a serve that reads the runtime state while the daemon starts,
and the claim half a minute later. -/
def slowServe : List Action :=
  Action.begin 0 (.enable "server-recover" none) :: List.replicate 8 (Action.advance 0) ++
    [Action.begin 1 .serve, .advance 1, .advance 1, .advance 1, .daemon 0 .proceed, .pass 30000,
      .advance 1, .advance 1]

theorem slow_serve_starts_second :
    ¬ forall (config : AutomationsConfig) (actions : List Action),
      Guarded step StartsInTime (initial config) actions ->
        OneServingDaemon (finalState step (initial config) actions) := by
  intro always
  have inTime : Guarded step StartsInTime (initial ⟨false, []⟩) slowServe := by
    refine ⟨trivial, trivial, trivial, trivial, trivial, trivial, trivial, trivial, trivial,
      trivial, trivial, trivial, trivial, trivial, ?_, trivial, trivial, trivial⟩
    intro daemon since starts
    cases daemon with
    | zero => exact nomatch starts
    | succ other => exact nomatch starts
  have two := (always ⟨false, []⟩ slowServe inTime).atMostOne 0 1 (by decide) (by decide)
  exact nomatch two

/-- A serve reads the runtime state while the daemon of an enable starts, and
its claim when the daemon has published itself. -/
def promptServe : List Action :=
  Action.begin 0 (.enable "server-recover" none) :: List.replicate 8 (Action.advance 0) ++
    [Action.begin 1 .serve, .advance 1, .advance 1, .advance 1, .daemon 0 .proceed, .pass 20000,
      .advance 1, .advance 1]

theorem prompt_serve_keeps_one :
    OneServingDaemon (finalState step (initial ⟨false, []⟩) promptServe) := by
  refine watcher_has_one_daemon ⟨false, []⟩ ⟨⟨trivial, trivial⟩, ?_⟩
  have other : forall {world : World} {command : CommandId},
      (world.commands command).map Prod.snd ≠ some .readClaim ->
        StartsInTime world (.advance command) ∧ ReadsClaimInTime world (.advance command) :=
    fun apart => ⟨trivial, fun kind _ reads => absurd (congrArg (Option.map Prod.snd) reads) apart⟩
  refine ⟨other (by decide), other (by decide), other (by decide), other (by decide), ?_,
    other (by decide), other (by decide), other (by decide), ⟨trivial, trivial⟩,
    other (by decide), other (by decide), other (by decide), ⟨trivial, trivial⟩, ?_, ?_,
    other (by decide), trivial⟩
  · exact ⟨trivial, nofun⟩
  · refine ⟨?_, trivial⟩
    intro daemon since starts
    cases daemon with
    | zero => exact nomatch starts
    | succ other => exact nomatch starts
  · refine ⟨trivial, fun _ claim _ isClaim _ => ?_⟩
    cases isClaim
    decide

end Automation
end RocmCli
