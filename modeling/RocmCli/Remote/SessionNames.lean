import RocmCli.Remote.Commands
import RocmCli.Support.Runs

namespace RocmCli
namespace Remote

open Runs (finalState Guarded)

/-!
# A session name belongs to one run

The name is taken by creating the key in one operation, and is given back by
two deletions after a series of remote calls.  A `serve` looks at the record
long before it takes the name, and a `stop` deletes by name what it read long
before.

As long as a name is taken only while no record is filed under it, and a
`stop` acts only while the record that it read is filed, a name belongs to one
run at a time, through every interleaving.
-/

/-! ## What a run has in hand -/

/-- A serve has created its key and is not done yet. -/
def ServePhase.Holding : ServePhase -> Prop
  | .storeKey | .listBefore | .start _ | .discover _ | .publish _ _ | .stageRecord _
  | .renameRecord _ | .unwindEndpoint _ _ | .unwindModel _ _ _ | .clearKey _ => True
  | .lookForRecord | .lookForKey | .lookAgain | .prepare | .claim | .ended _ => False

/-- The record a stop read, and the number of sessions started by then. -/
def StopPhase.reads : StopPhase -> Option (SessionRecord × Nat)
  | .withdraw _ record startedBefore | .stopModel record startedBefore _
  | .clearKey record startedBefore | .removeRecord record startedBefore =>
      some (record, startedBefore)
  | .resolve | .ended _ => none

/-- A run is a serve that has come to its end. -/
def World.Finished (world : World) (run : RunId) : Prop :=
  exists request result, world.runs run = .serve request (.ended result)

/-! ## What a step may do -/

/-- One step leaves alone what other runs filed. -/
structure Respects (peer : Peer) (world : World) (action : Action) : Prop where
  /-- A key goes away by the run that created it, or by a stop that was
  resolved to its session. -/
  keys : forall run outcome session holder, action = .advance run outcome ->
    world.keys session = some holder -> (step peer world action).keys session ≠ some holder ->
      holder = run ∨
        exists force phase record startedBefore, world.runs run = .stop force phase ∧
          phase.reads = some (record, startedBefore) ∧ record.sessionId = session ∧
          record.createdBy = holder
  /-- A record goes away by a stop that read this very record. -/
  records : forall run outcome session record, action = .advance run outcome ->
    world.records session = some record ->
    (step peer world action).records session ≠ some record ->
      exists force phase startedBefore, world.runs run = .stop force phase ∧
        phase.reads = some (record, startedBefore)
  /-- No two serves are between their claim and their end under one name. -/
  oneHolder : forall left right leftRequest rightRequest leftPhase rightPhase,
    world.runs left = .serve leftRequest leftPhase -> leftPhase.Holding ->
    world.runs right = .serve rightRequest rightPhase -> rightPhase.Holding ->
    leftRequest.sessionId = rightRequest.sessionId -> left = right
  /-- A stop removes a record, a key or a forward only while no session has
  been started under the name since it read the record. -/
  noneSince : forall run outcome force phase record startedBefore,
    action = .advance run outcome -> world.runs run = .stop force phase ->
    phase.reads = some (record, startedBefore) ->
    ((step peer world action).keys ≠ world.keys ∨
      (step peer world action).records ≠ world.records ∨
      exists peerHost, ((step peer world action).machines peerHost).config ≠
        (world.machines peerHost).config) ->
      world.started record.sessionId = startedBefore

/-- A name is taken while no record is filed under it, and a stop withdraws
and deletes while the record that it read is filed. -/
def StillStands (world : World) : Action -> Prop
  | .advance run _ =>
    match world.runs run with
    | .serve request .claim => world.records request.sessionId = none
    | .stop _ (.withdraw .act record _) | .stop _ (.clearKey record _)
    | .stop _ (.removeRecord record _) => world.records record.sessionId = some record
    | _ => True
  | .beginServe _ _ | .beginStop _ _ | .beginAttach _ => True

/-! ## The invariant -/

structure Names (world : World) : Prop where
  /-- A record is filed under its own name. -/
  filed : forall session record, world.records session = some record ->
    record.sessionId = session
  /-- Who holds a name has its key on disk, and no record is there. -/
  held : forall run request phase, world.runs run = .serve request phase -> phase.Holding ->
    world.keys request.sessionId = some run ∧ world.records request.sessionId = none
  /-- The key beside a record is the one of its session. -/
  keyed : forall session record holder, world.records session = some record ->
    world.keys session = some holder -> holder = record.createdBy
  /-- What is recorded is not being served any more. -/
  finished : forall session record, world.records session = some record ->
    world.Finished record.createdBy
  /-- Under the name of a record that is still filed, nothing was started since
  it was read. -/
  read : forall run force phase record startedBefore, world.runs run = .stop force phase ->
    phase.reads = some (record, startedBefore) ->
      world.Finished record.createdBy ∧
        (world.records record.sessionId = some record ->
          world.started record.sessionId = startedBefore)

variable {peer : Peer}

theorem names_initial (machines : Line -> RemoteMachine) : Names (initial machines) where
  filed := nofun
  held := nofun
  keyed := nofun
  finished := nofun
  read := nofun

/-! ## Steps that touch no file -/

/-- The files and the runs are as they were. -/
structure SameFiles (world next : World) : Prop where
  keys : next.keys = world.keys
  records : next.records = world.records
  runs : next.runs = world.runs
  started : next.started = world.started

theorem SameFiles.refl (world : World) : SameFiles world world := ⟨rfl, rfl, rfl, rfl⟩

theorem sameFiles_setMachine (world : World) (peerHost : Line) (machine : RemoteMachine) :
    SameFiles world (world.setMachine peerHost machine) := ⟨rfl, rfl, rfl, rfl⟩

theorem sameFiles_setConfig (world : World) (peerHost : Line) (config : ServeConfig) :
    SameFiles world (world.setConfig peerHost config) := ⟨rfl, rfl, rfl, rfl⟩

variable {next : World}

/-- A run that goes on without touching a file keeps every name where it is,
if it takes nothing in hand that it did not have or that is not filed. -/
theorem names_of_sameFiles {world : World} (names : Names world) (same : SameFiles world next)
    (run : RunId) (state : RunState)
    (serves : forall request phase, state = .serve request phase -> phase.Holding ->
      exists before, world.runs run = .serve request before ∧ before.Holding)
    (stops : forall force phase record startedBefore, state = .stop force phase ->
      phase.reads = some (record, startedBefore) ->
      (exists before, world.runs run = .stop force before ∧
          before.reads = some (record, startedBefore)) ∨
        (world.records record.sessionId = some record ∧
          world.started record.sessionId = startedBefore))
    (ends : forall request result, world.runs run = .serve request (.ended result) ->
      state = .serve request (.ended result)) :
    Names (next.setRun run state) := by
  have finishes : forall other, world.Finished other -> (next.setRun run state).Finished other := by
    intro other done
    rcases done with ⟨request, result, done⟩
    refine ⟨request, result, ?_⟩
    by_cases own : other = run
    · rw [own] at done ⊢
      exact (Function.update_self ..).trans (ends request result done)
    · exact (Function.update_of_ne own ..).trans ((congrFun same.runs other).trans done)
  refine ⟨?_, ?_, ?_, ?_, ?_⟩
  · intro session record filed
    exact names.filed session record ((congrFun same.records session).symm.trans filed)
  · intro other request phase serving holding
    have before : exists phase, world.runs other = .serve request phase ∧ phase.Holding := by
      by_cases own : other = run
      · rw [own] at serving ⊢
        exact serves request phase ((Function.update_self ..).symm.trans serving) holding
      · have kept := (Function.update_of_ne own ..).symm.trans serving
        exact ⟨phase, (congrFun same.runs other).symm.trans kept, holding⟩
    rcases before with ⟨phaseBefore, serving, holding⟩
    have held := names.held other request phaseBefore serving holding
    exact ⟨(congrFun same.keys _).trans held.1, (congrFun same.records _).trans held.2⟩
  · intro session record holder filed keyed
    exact names.keyed session record holder ((congrFun same.records session).symm.trans filed)
      ((congrFun same.keys session).symm.trans keyed)
  · intro session record filed
    exact finishes _ (names.finished session record
      ((congrFun same.records session).symm.trans filed))
  · intro other force phase record startedBefore stopping reads
    have same' : (next.setRun run state).started = world.started := same.started
    have filedSame : (next.setRun run state).records = world.records := same.records
    rw [same', filedSame]
    by_cases own : other = run
    · rw [own] at stopping
      rcases stops force phase record startedBefore
          ((Function.update_self ..).symm.trans stopping) reads with ⟨before, was, had⟩ | fresh
      · have read := names.read run force before record startedBefore was had
        exact ⟨finishes _ read.1, read.2⟩
      · exact ⟨finishes _ (names.finished _ record fresh.1), fun _ => fresh.2⟩
    · have kept := (Function.update_of_ne own ..).symm.trans stopping
      have read := names.read other force phase record startedBefore
        ((congrFun same.runs other).symm.trans kept) reads
      exact ⟨finishes _ read.1, read.2⟩

/-- What another run is doing, it did before a run went on to another state. -/
theorem other_of_setRun {world : World} (sameRuns : next.runs = world.runs) {run other : RunId}
    {state found : RunState} (isFound : (next.setRun run state).runs other = found)
    (differs : state ≠ found) : other ≠ run ∧ world.runs other = found := by
  have apart : other ≠ run := by
    intro own
    rw [own] at isFound
    exact differs ((Function.update_self ..).symm.trans isFound)
  exact ⟨apart, (congrFun sameRuns other).symm.trans
    ((Function.update_of_ne apart ..).symm.trans isFound)⟩

/-- A run that is still at work changes nothing about those that are done. -/
theorem finished_setRun {world : World} (sameRuns : next.runs = world.runs) {run : RunId}
    (unfinished : ¬ world.Finished run) (state : RunState) {other : RunId}
    (done : world.Finished other) : (next.setRun run state).Finished other := by
  have apart : other ≠ run := fun own => unfinished (own ▸ done)
  rcases done with ⟨otherRequest, result, done⟩
  exact ⟨otherRequest, result,
    (Function.update_of_ne apart ..).trans ((congrFun sameRuns other).trans done)⟩

variable {phase : ServePhase}

theorem unfinished_of_serving {world : World} {run : RunId} {request : ServeRequest}
    (serving : world.runs run = .serve request phase)
    (unended : forall result, phase ≠ .ended result) : ¬ world.Finished run := by
  rintro ⟨otherRequest, result, done⟩
  cases serving.symm.trans done
  exact unended result rfl

/-! ## The steps of a serve -/

section Serve

variable {world : World} (names : Names world) (run : RunId) (request : ServeRequest)

include names

/-- A serve goes on without touching a file. -/
theorem names_serve {after : ServePhase} (same : SameFiles world next)
    (serving : world.runs run = .serve request phase) (unfinished : forall result,
      phase ≠ .ended result) (holds : after.Holding -> phase.Holding) :
    Names (next.setRun run (.serve request after)) := by
  apply names_of_sameFiles names same run
  · intro other reached isAfter holding
    cases isAfter
    exact ⟨phase, serving, holds holding⟩
  · intro force reached record startedBefore impossible
    cases impossible
  · intro other result done
    cases serving.symm.trans done
    exact absurd rfl (unfinished result)

/-- The name is taken while neither a key nor a record is there. -/
theorem names_claim (serving : world.runs run = .serve request .claim)
    (free : world.keys request.sessionId = none)
    (unfiled : world.records request.sessionId = none) :
    Names (((world.setKey request.sessionId (some run)).countStart request.sessionId).setRun run
      (.serve request .storeKey)) := by
  have finishes : forall other, world.Finished other ->
      (((world.setKey request.sessionId (some run)).countStart request.sessionId).setRun run
        (.serve request .storeKey)).Finished other := fun _ =>
    finished_setRun rfl (unfinished_of_serving serving nofun) _
  refine ⟨fun session record => names.filed session record, ?_, ?_, ?_, ?_⟩
  · intro other otherRequest phase otherServing holding
    by_cases own : other = run
    · rw [own] at otherServing ⊢
      cases (Function.update_self ..).symm.trans otherServing
      exact ⟨Function.update_self .., unfiled⟩
    · have held := names.held other otherRequest phase
        ((Function.update_of_ne own ..).symm.trans otherServing) holding
      have apart : otherRequest.sessionId ≠ request.sessionId := by
        intro sameName
        rw [sameName, free] at held
        cases held.1
      exact ⟨(Function.update_of_ne apart ..).trans held.1, held.2⟩
  · intro session record holder filed keyed
    have apart : session ≠ request.sessionId := by
      intro sameName
      rw [sameName] at filed
      cases unfiled.symm.trans filed
    exact names.keyed session record holder filed
      ((Function.update_of_ne apart ..).symm.trans keyed)
  · intro session record filed
    exact finishes _ (names.finished session record filed)
  · intro other force phase record startedBefore stopping reads
    have was := (@other_of_setRun world _ rfl _ _ _ _ stopping nofun).2
    have read := names.read other force phase record startedBefore was reads
    refine ⟨finishes _ read.1, fun filed => ?_⟩
    have sameRecord : world.records record.sessionId = some record := filed
    have elsewhere : record.sessionId ≠ request.sessionId := by
      intro sameName
      rw [sameName] at sameRecord
      cases unfiled.symm.trans sameRecord
    exact (Function.update_of_ne elsewhere ..).trans (read.2 sameRecord)

/-- A serve that clears its key had it, and is done. -/
theorem names_giveUp {failure : Failure}
    (serving : world.runs run = .serve request (.clearKey failure))
    (result : Except CommandError Unit) :
    Names ((world.setKey request.sessionId none).setRun run (.serve request (.ended result))) := by
  have finishes : forall other, world.Finished other ->
      ((world.setKey request.sessionId none).setRun run
        (.serve request (.ended result))).Finished other := fun _ =>
    finished_setRun rfl (unfinished_of_serving serving nofun) _
  refine ⟨fun session record => names.filed session record, ?_, ?_, ?_, ?_⟩
  · intro other otherRequest phase otherServing holding
    rcases @other_of_setRun world _ rfl _ _ _ _ otherServing
      (fun isEnded => by cases isEnded; exact holding) with ⟨apart, was⟩
    have held := names.held other otherRequest phase was holding
    have own := names.held run request _ serving trivial
    have elsewhere : otherRequest.sessionId ≠ request.sessionId := by
      intro sameName
      rw [sameName, own.1] at held
      exact apart (Option.some.inj held.1).symm
    exact ⟨(Function.update_of_ne elsewhere ..).trans held.1, held.2⟩
  · intro session record holder filed keyed
    by_cases sameName : session = request.sessionId
    · rw [sameName] at keyed
      cases (Function.update_self ..).symm.trans keyed
    · exact names.keyed session record holder filed
        ((Function.update_of_ne sameName ..).symm.trans keyed)
  · intro session record filed
    exact finishes _ (names.finished session record filed)
  · intro other force phase record startedBefore stopping reads
    have was := (@other_of_setRun world _ rfl _ _ _ _ stopping nofun).2
    have read := names.read other force phase record startedBefore was reads
    exact ⟨finishes _ read.1, read.2⟩

/-- A serve files its record beside its own key. -/
theorem names_file {service : Line}
    (serving : world.runs run = .serve request (.renameRecord service)) :
    Names ((world.setRecord request.sessionId (some (request.record run service))).setRun run
      (.serve request (.ended (.ok ())))) := by
  have own := names.held run request _ serving trivial
  have finishes : forall other, world.Finished other ->
      ((world.setRecord request.sessionId (some (request.record run service))).setRun run
        (.serve request (.ended (.ok ())))).Finished other := fun _ =>
    finished_setRun rfl (unfinished_of_serving serving nofun) _
  have finishedNow : ((world.setRecord request.sessionId
      (some (request.record run service))).setRun run
        (.serve request (.ended (.ok ())))).Finished run :=
    ⟨request, .ok (), Function.update_self ..⟩
  refine ⟨?_, ?_, ?_, ?_, ?_⟩
  · intro session record filed
    by_cases sameName : session = request.sessionId
    · rw [sameName] at filed ⊢
      cases (Function.update_self ..).symm.trans filed
      rfl
    · exact names.filed session record ((Function.update_of_ne sameName ..).symm.trans filed)
  · intro other otherRequest phase otherServing holding
    rcases @other_of_setRun world _ rfl _ _ _ _ otherServing
      (fun isEnded => by cases isEnded; exact holding) with ⟨apart, was⟩
    have held := names.held other otherRequest phase was holding
    have elsewhere : otherRequest.sessionId ≠ request.sessionId := by
      intro sameName
      rw [sameName, own.1] at held
      exact apart (Option.some.inj held.1).symm
    exact ⟨held.1, (Function.update_of_ne elsewhere ..).trans held.2⟩
  · intro session record holder filed keyed
    by_cases sameName : session = request.sessionId
    · rw [sameName] at filed keyed
      cases (Function.update_self ..).symm.trans filed
      exact (Option.some.inj (own.1.symm.trans keyed)).symm
    · exact names.keyed session record holder
        ((Function.update_of_ne sameName ..).symm.trans filed) keyed
  · intro session record filed
    by_cases sameName : session = request.sessionId
    · rw [sameName] at filed
      cases (Function.update_self ..).symm.trans filed
      exact finishedNow
    · exact finishes _ (names.finished session record
        ((Function.update_of_ne sameName ..).symm.trans filed))
  · intro other force phase record startedBefore stopping reads
    have was := (@other_of_setRun world _ rfl _ _ _ _ stopping nofun).2
    have read := names.read other force phase record startedBefore was reads
    refine ⟨finishes _ read.1, fun filed => ?_⟩
    by_cases sameName : record.sessionId = request.sessionId
    · -- The record that was read is older than the one being filed.
      rw [sameName] at filed
      have placed : Function.update world.records request.sessionId
          (some (request.record run service)) request.sessionId = some record := filed
      rw [Function.update_self] at placed
      have isNew := Option.some.inj placed
      rcases read.1 with ⟨otherRequest, result, done⟩
      rw [← isNew] at done
      cases serving.symm.trans done
    · exact read.2 ((Function.update_of_ne sameName ..).symm.trans filed)

theorem names_serveStep (outcome : Outcome) (serving : world.runs run = .serve request phase)
    (stands : StillStands world (.advance run outcome)) :
    Names ((serveStep peer world run request outcome phase).1.setRun run
      (.serve request (serveStep peer world run request outcome phase).2)) := by
  have same := SameFiles.refl world
  cases phase with
  | lookForRecord | lookForKey | lookAgain | prepare =>
      refine names_serve names run request same serving nofun ?_
      dsimp only [serveStep]
      split <;> exact id
  | claim =>
      have unfiled : world.records request.sessionId = none := by
        dsimp only [StillStands] at stands
        rw [serving] at stands
        exact stands
      dsimp only [serveStep]
      split
      · exact names_serve names run request same serving nofun id
      · next free =>
          split
          · exact names_claim names run request serving
              (Option.not_isSome_iff_eq_none.mp free) unfiled
          · exact names_serve names run request same serving nofun id
  | storeKey | listBefore | discover _ | stageRecord _ =>
      exact names_serve names run request same serving nofun fun _ => trivial
  | start _ | unwindModel _ _ _ =>
      refine names_serve names run request ?_ serving nofun fun _ => trivial
      dsimp only [serveStep]
      split
      · exact sameFiles_setMachine ..
      · exact same
  | publish _ _ | unwindEndpoint _ _ =>
      exact names_serve names run request (sameFiles_setConfig ..) serving
        nofun fun _ => trivial
  | renameRecord service =>
      dsimp only [serveStep]
      split
      · exact names_file names run request serving
      · exact names_serve names run request same serving nofun fun _ => trivial
  | clearKey failure =>
      dsimp only [serveStep]
      split
      · exact names_giveUp names run request serving _
      · exact names_serve names run request same serving nofun fun _ => trivial
  | ended result =>
      apply names_of_sameFiles names same run
      · intro other phase isSame holding
        cases isSame
        exact absurd holding id
      · intro force phase record startedBefore impossible
        cases impossible
      · intro other before done
        cases serving.symm.trans done
        rfl

end Serve

/-! ## The steps of a stop -/

section Stop

variable {world : World} (names : Names world) (run : RunId) (force : Bool)

include names

/-- A stop goes on without touching a file, with the record it read. -/
theorem names_stop {phase after : StopPhase} (same : SameFiles world next)
    (stopping : world.runs run = .stop force phase)
    (reads : forall record startedBefore, after.reads = some (record, startedBefore) ->
      phase.reads = some (record, startedBefore) ∨
        (world.records record.sessionId = some record ∧
          world.started record.sessionId = startedBefore)) :
    Names (next.setRun run (.stop force after)) := by
  apply names_of_sameFiles names same run
  · intro request phase impossible
    cases impossible
  · intro otherForce reached record startedBefore isAfter had
    cases isAfter
    rcases reads record startedBefore had with before | fresh
    · exact Or.inl ⟨phase, stopping, before⟩
    · exact Or.inr fresh
  · intro request result done
    cases stopping.symm.trans done

/-- While its record is filed, a stop has the name to itself: it gives back a
key or the record, and nobody holds the name. -/
theorem names_delete {phase after : StopPhase} {record : SessionRecord}
    (stopping : world.runs run = .stop force phase)
    (stands : world.records record.sessionId = some record)
    (reads : forall other otherStarted, after.reads = some (other, otherStarted) ->
      phase.reads = some (other, otherStarted))
    (keys : forall session, next.keys session = world.keys session ∨
      session = record.sessionId ∧ next.keys session = none)
    (records : forall session, next.records session = world.records session ∨
      session = record.sessionId ∧ next.records session = none) (sameRuns : next.runs = world.runs)
    (sameStarted : next.started = world.started) :
    Names (next.setRun run (.stop force after)) := by
  have finishes : forall other, world.Finished other ->
      (next.setRun run (.stop force after)).Finished other := fun _ =>
    finished_setRun sameRuns (fun ⟨_, _, done⟩ => nomatch stopping.symm.trans done) _
  have stillFiled : forall session filed, next.records session = some filed ->
      world.records session = some filed := by
    intro session filed still
    rcases records session with same | ⟨_, gone⟩
    · exact same.symm.trans still
    · cases gone.symm.trans still
  refine ⟨?_, ?_, ?_, ?_, ?_⟩
  · intro session filed still
    exact names.filed session filed (stillFiled session filed still)
  · intro other request otherPhase serving holding
    have was := (other_of_setRun sameRuns serving nofun).2
    have held := names.held other request otherPhase was holding
    have elsewhere : request.sessionId ≠ record.sessionId := by
      intro sameName
      rw [sameName, stands] at held
      cases held.2
    refine ⟨?_, ?_⟩
    · rcases keys request.sessionId with same | ⟨here, _⟩
      · exact same.trans held.1
      · exact absurd here elsewhere
    · rcases records request.sessionId with same | ⟨here, _⟩
      · exact same.trans held.2
      · exact absurd here elsewhere
  · intro session filed holder still keyed
    rcases keys session with same | ⟨_, gone⟩
    · exact names.keyed session filed holder (stillFiled session filed still)
        (same.symm.trans keyed)
    · cases gone.symm.trans keyed
  · intro session filed still
    exact finishes _ (names.finished session filed (stillFiled session filed still))
  · intro other otherForce otherPhase filed otherStarted otherStopping otherReads
    have read : world.Finished filed.createdBy ∧
        (world.records filed.sessionId = some filed ->
          world.started filed.sessionId = otherStarted) := by
      by_cases own : other = run
      · rw [own] at otherStopping
        cases (Function.update_self ..).symm.trans otherStopping
        exact names.read run force phase filed otherStarted stopping
          (reads filed otherStarted otherReads)
      · have was := (Function.update_of_ne own ..).symm.trans otherStopping
        exact names.read other otherForce otherPhase filed otherStarted
          ((congrFun sameRuns other).symm.trans was) otherReads
    refine ⟨finishes _ read.1, fun still => ?_⟩
    exact (congrFun sameStarted _).trans (read.2 (stillFiled _ _ still))

theorem names_stopStep {phase : StopPhase} (outcome : Outcome)
    (stopping : world.runs run = .stop force phase)
    (stands : StillStands world (.advance run outcome)) :
    Names ((stopStep peer world force outcome phase).1.setRun run
      (.stop force (stopStep peer world force outcome phase).2)) := by
  have same := SameFiles.refl world
  cases phase with
  | resolve =>
      refine names_stop names run force same stopping fun record startedBefore reads => Or.inr ?_
      dsimp only [stopStep] at reads
      split at reads
      · cases reads
      · next found filed =>
          cases reads
          have ownName := names.filed _ _ filed
          rw [ownName]
          exact ⟨filed, rfl⟩
  | withdraw stage record startedBefore =>
      refine names_stop names run force (sameFiles_setConfig ..) stopping
        fun other otherStarted reads => Or.inl ?_
      dsimp only [stopStep] at reads
      split at reads <;> exact reads
  | stopModel record startedBefore withdrawn =>
      refine names_stop names run force ?_ stopping fun other otherStarted reads => Or.inl ?_
      · dsimp only [stopStep]
        split
        · exact sameFiles_setMachine ..
        · exact same
      · dsimp only [stopStep] at reads
        split at reads
        · exact reads
        · split at reads
          · cases reads
          · split at reads
            · exact reads
            · cases reads
  | clearKey record startedBefore =>
      have filed : world.records record.sessionId = some record := by
        dsimp only [StillStands] at stands
        rw [stopping] at stands
        exact stands
      dsimp only [stopStep]
      split
      · have keys : forall session, (world.setKey record.sessionId none).keys session =
            world.keys session ∨
              session = record.sessionId ∧
                (world.setKey record.sessionId none).keys session = none := by
          intro session
          by_cases here : session = record.sessionId
          · rw [here]
            exact Or.inr ⟨rfl, Function.update_self ..⟩
          · exact Or.inl (Function.update_of_ne here ..)
        have reads : forall other otherStarted,
            (StopPhase.removeRecord record startedBefore).reads = some (other, otherStarted) ->
              (StopPhase.clearKey record startedBefore).reads = some (other, otherStarted) :=
          fun _ _ reads => reads
        exact names_delete names run force stopping filed reads keys (fun _ => Or.inl rfl) rfl rfl
      · exact names_stop names run force same stopping fun _ _ reads => Or.inl reads
  | removeRecord record startedBefore =>
      have filed : world.records record.sessionId = some record := by
        dsimp only [StillStands] at stands
        rw [stopping] at stands
        exact stands
      dsimp only [stopStep]
      split
      · have records : forall session, (world.setRecord record.sessionId none).records session =
            world.records session ∨
              session = record.sessionId ∧
                (world.setRecord record.sessionId none).records session = none := by
          intro session
          by_cases here : session = record.sessionId
          · rw [here]
            exact Or.inr ⟨rfl, Function.update_self ..⟩
          · exact Or.inl (Function.update_of_ne here ..)
        have reads : forall other otherStarted,
            (StopPhase.ended (.ok ())).reads = some (other, otherStarted) ->
              (StopPhase.removeRecord record startedBefore).reads = some (other, otherStarted) :=
          nofun
        exact names_delete names run force stopping filed reads (fun _ => Or.inl rfl) records
          rfl rfl
      · exact names_stop names run force same stopping nofun
  | ended result =>
      exact names_stop names run force same stopping fun _ _ reads => Or.inl reads

end Stop

/-! ## Steps and runs -/

theorem names_begin {world : World} (names : Names world) {run : RunId}
    (idle : world.runs run = .idle) {state : RunState}
    (fresh : (exists request, state = .serve request .lookForRecord) ∨
      (exists force, state = .stop force .resolve) ∨ state = .attach .resolve) :
    Names (world.setRun run state) := by
  apply names_of_sameFiles names (SameFiles.refl world) run
  · intro request phase serving holding
    rcases fresh with ⟨other, rfl⟩ | ⟨force, rfl⟩ | rfl
    · cases serving
      exact absurd holding id
    · cases serving
    · cases serving
  · intro force phase record startedBefore stopping reads
    rcases fresh with ⟨other, rfl⟩ | ⟨otherForce, rfl⟩ | rfl
    · cases stopping
    · cases stopping
      cases reads
    · cases stopping
  · intro request result done
    cases idle.symm.trans done

theorem attach_files (world : World) (run : RunId) (outcome : Outcome) (phase : AttachPhase) :
    SameFiles world (attachStep peer world run outcome phase).1 := by
  cases phase with
  | publish stage record => exact sameFiles_setConfig ..
  | _ => exact SameFiles.refl world

theorem names_step (world : World) (action : Action) (names : Names world)
    (stands : StillStands world action) : Names (step peer world action) := by
  cases action with
  | beginServe run request =>
      dsimp only [step]
      split
      · next idle => exact names_begin names idle (Or.inl ⟨request, rfl⟩)
      · exact names
  | beginStop run force =>
      dsimp only [step]
      split
      · next idle => exact names_begin names idle (Or.inr (Or.inl ⟨force, rfl⟩))
      · exact names
  | beginAttach run =>
      dsimp only [step]
      split
      · next idle => exact names_begin names idle (Or.inr (Or.inr rfl))
      · exact names
  | advance run outcome =>
      dsimp only [step]
      split
      · exact names
      · next request phase serving =>
          exact names_serveStep names run request outcome serving stands
      · next force phase stopping =>
          exact names_stopStep names run force outcome stopping stands
      · next phase attaching =>
          apply names_of_sameFiles names (attach_files ..) run
          · intro request phase impossible
            cases impossible
          · intro force phase record startedBefore impossible
            cases impossible
          · intro request result done
            cases attaching.symm.trans done

/-! ## What a serve and a stop do to the files -/

variable {session : SessionId}

/-- A serve changes keys by claiming a free name or by clearing its own. -/
theorem serve_keys {world : World} (names : Names world) {run : RunId} {request : ServeRequest}
    (serving : world.runs run = .serve request phase) (outcome : Outcome) {holder : RunId}
    (keyed : world.keys session = some holder)
    (changed : (serveStep peer world run request outcome phase).1.keys session ≠ some holder) :
    holder = run := by
  cases phase with
  | claim =>
      dsimp only [serveStep] at changed
      split at changed
      · exact absurd keyed changed
      · next free =>
          split at changed
          · by_cases here : session = request.sessionId
            · rw [here] at keyed
              rw [keyed] at free
              exact absurd rfl free
            · exact absurd ((Function.update_of_ne here ..).trans keyed) changed
          · exact absurd keyed changed
  | clearKey failure =>
      dsimp only [serveStep] at changed
      split at changed
      · by_cases here : session = request.sessionId
        · have own := names.held run request _ serving trivial
          rw [here] at keyed
          exact Option.some.inj (keyed.symm.trans own.1)
        · exact absurd ((Function.update_of_ne here ..).trans keyed) changed
      · exact absurd keyed changed
  | start before | unwindModel service failure leftovers =>
      dsimp only [serveStep] at changed
      split at changed <;> exact absurd keyed changed
  | renameRecord service =>
      dsimp only [serveStep] at changed
      split at changed <;> exact absurd keyed changed
  | _ => exact absurd keyed changed

/-- A serve writes its record where none is. -/
theorem serve_records {world : World} (names : Names world) {run : RunId} {request : ServeRequest}
    (serving : world.runs run = .serve request phase) (outcome : Outcome) {record : SessionRecord}
    (filed : world.records session = some record) :
    (serveStep peer world run request outcome phase).1.records session = some record := by
  cases phase with
  | renameRecord service =>
      dsimp only [serveStep]
      split
      · have own := names.held run request _ serving trivial
        have apart : session ≠ request.sessionId := by
          intro here
          rw [here, own.2] at filed
          cases filed
        exact (Function.update_of_ne apart ..).trans filed
      · exact filed
  | claim =>
      dsimp only [serveStep]
      split
      · exact filed
      · split <;> exact filed
  | clearKey failure =>
      dsimp only [serveStep]
      split <;> exact filed
  | start before | unwindModel service failure leftovers =>
      dsimp only [serveStep]
      split <;> exact filed
  | _ => exact filed

/-- A stop that changes anything for good acts on the record it read. -/
theorem stop_acts {world : World} {run : RunId} {force : Bool} {phase : StopPhase}
    (stopping : world.runs run = .stop force phase) {outcome : Outcome}
    (stands : StillStands world (.advance run outcome)) {record : SessionRecord}
    {startedBefore : Nat} (reads : phase.reads = some (record, startedBefore))
    (changed : (stopStep peer world force outcome phase).1.keys ≠ world.keys ∨
      (stopStep peer world force outcome phase).1.records ≠ world.records ∨
      exists peerHost, ((stopStep peer world force outcome phase).1.machines peerHost).config ≠
        (world.machines peerHost).config) :
    world.records record.sessionId = some record := by
  have sameConfig : forall peerHost machine, machine.config = (world.machines peerHost).config ->
      forall other, ((world.setMachine peerHost machine).machines other).config =
        (world.machines other).config := by
    intro peerHost machine same other
    by_cases here : other = peerHost
    · rw [here]
      exact (congrArg RemoteMachine.config (Function.update_self ..)).trans same
    · exact congrArg RemoteMachine.config (Function.update_of_ne here ..)
  dsimp only [StillStands] at stands
  rw [stopping] at stands
  cases phase with
  | withdraw stage other otherStarted =>
      cases reads
      cases stage with
      | act => exact stands
      | check | confirm =>
          exfalso
          rcases changed with keys | records | ⟨peerHost, config⟩
          · exact keys rfl
          · exact records rfl
          · exact config (sameConfig record.peerHost _ rfl peerHost)
  | stopModel other otherStarted withdrawn =>
      exfalso
      dsimp only [stopStep] at changed
      split at changed
      · rcases changed with keys | records | ⟨peerHost, config⟩
        · exact keys rfl
        · exact records rfl
        · exact config (sameConfig other.peerHost
            (peer.stopService (world.machines other.peerHost) other.remoteServiceId)
            (peer.stopService_config ..) peerHost)
      · rcases changed with keys | records | ⟨peerHost, config⟩
        · exact keys rfl
        · exact records rfl
        · exact config rfl
  | clearKey other otherStarted | removeRecord other otherStarted =>
      cases reads
      exact stands
  | resolve | ended result => cases reads

/-- A stop deletes nothing but what is filed under the name it read. -/
theorem stop_deletes {world : World} {force : Bool} {phase : StopPhase} {outcome : Outcome}
    (changed : (stopStep peer world force outcome phase).1.keys session ≠ world.keys session ∨
      (stopStep peer world force outcome phase).1.records session ≠ world.records session) :
    exists record startedBefore, phase.reads = some (record, startedBefore) ∧
      record.sessionId = session := by
  cases phase with
  | clearKey record startedBefore =>
      refine ⟨record, startedBefore, rfl, ?_⟩
      dsimp only [stopStep] at changed
      split at changed
      · by_contra apart
        exact changed.elim (· (Function.update_of_ne (Ne.symm apart) ..)) (· rfl)
      · exact (changed.elim (· rfl) (· rfl)).elim
  | removeRecord record startedBefore =>
      refine ⟨record, startedBefore, rfl, ?_⟩
      dsimp only [stopStep] at changed
      split at changed
      · by_contra apart
        exact changed.elim (· rfl) (· (Function.update_of_ne (Ne.symm apart) ..))
      · exact (changed.elim (· rfl) (· rfl)).elim
  | stopModel record startedBefore withdrawn =>
      dsimp only [stopStep] at changed
      split at changed <;> exact (changed.elim (· rfl) (· rfl)).elim
  | _ => exact (changed.elim (· rfl) (· rfl)).elim

theorem respects_step {world : World} (names : Names world) {action : Action}
    (stands : StillStands world action) : Respects peer world action where
  keys := by
    rintro run outcome session holder rfl keyed changed
    dsimp only [step] at changed
    split at changed
    · exact absurd keyed changed
    · next request phase serving => exact Or.inl (serve_keys names serving outcome keyed changed)
    · next force phase stopping =>
        have moved : (stopStep peer world force outcome phase).1.keys session ≠
            world.keys session := by
          rw [keyed]
          exact changed
        rcases stop_deletes (Or.inl moved) with ⟨record, startedBefore, reads, here⟩
        have filed := stop_acts stopping stands reads
          (Or.inl fun same => moved (congrFun same session))
        rw [here] at filed
        exact Or.inr ⟨force, phase, record, startedBefore, stopping, reads, here,
          (names.keyed session record holder filed keyed).symm⟩
    · exact absurd ((congrFun (attach_files ..).keys session).trans keyed) changed
  records := by
    rintro run outcome session record rfl filed changed
    dsimp only [step] at changed
    split at changed
    · exact absurd filed changed
    · next request phase serving =>
        exact absurd (serve_records names serving outcome filed) changed
    · next force phase stopping =>
        have moved : (stopStep peer world force outcome phase).1.records session ≠
            world.records session := by
          rw [filed]
          exact changed
        rcases stop_deletes (Or.inr moved) with ⟨other, startedBefore, reads, here⟩
        have stillFiled := stop_acts stopping stands reads
          (Or.inr (Or.inl fun same => moved (congrFun same session)))
        rw [here, filed] at stillFiled
        cases stillFiled
        exact ⟨force, phase, startedBefore, stopping, reads⟩
    · exact absurd ((congrFun (attach_files ..).records session).trans filed) changed
  oneHolder := by
    intro left right leftRequest rightRequest leftPhase rightPhase leftServing leftHolding
      rightServing rightHolding sameName
    have leftHeld := names.held left leftRequest leftPhase leftServing leftHolding
    have rightHeld := names.held right rightRequest rightPhase rightServing rightHolding
    rw [sameName] at leftHeld
    exact Option.some.inj (leftHeld.1.symm.trans rightHeld.1)
  noneSince := by
    rintro run outcome force phase record startedBefore rfl stopping reads changed
    dsimp only [step] at changed
    rw [stopping] at changed
    have filed := stop_acts stopping stands reads changed
    exact (names.read run force phase record startedBefore stopping reads).2 filed

/-- A session name belongs to one run.  In every interleaving of serves, stops
and attaches in which a name is taken only while no record is filed under it,
and a stop withdraws and deletes only while the record it read is filed, every
step leaves alone what other runs filed. -/
theorem name_belongs_to_one_run (peer : Peer) (machines : Line -> RemoteMachine)
    (actions : List Action) (standing : Guarded (step peer) StillStands (initial machines) actions)
    (before : List Action) (action : Action) (after : List Action)
    (split : actions = before ++ action :: after) :
    Respects peer (finalState (step peer) (initial machines) before) action := by
  rw [split, Runs.guarded_append] at standing
  have names : Names (finalState (step peer) (initial machines) before) :=
    Runs.invariant_of_step names_step (names_initial machines) standing.1
  exact respects_step names standing.2.1

/-! ## A serve and two stops -/

/-- Declaring a forward replaces whatever holds the port, and a service that is
live on a port is reused. -/
def samplePeer : Peer where
  declare config tailnetPort remotePort run :=
    { config with tcp :=
        (tailnetPort, ⟨some (forwardTarget remotePort), false, false, none, some run⟩) ::
          config.tcp.filter fun entry => entry.1 != tailnetPort }
  turnOff config tailnetPort :=
    { config with tcp := config.tcp.filter fun entry => entry.1 != tailnetPort }
  startModel machine port run chosen :=
    if (liveServiceIdsOnPort machine.services port).isEmpty then
      { machine with
        services := machine.services ++ [⟨chosen.1, port, chosen.2, true, some run⟩] }
    else machine
  stopService machine serviceId :=
    { machine with services := machine.services.map fun service =>
        if service.serviceId = serviceId then { service with live := false } else service }
  stopService_config _ _ := rfl

def quietMachine : RemoteMachine := ⟨⟨[], [], [], []⟩, []⟩

def sampleServe : ServeRequest := ⟨"gpu".toList, "gpu.ts.net".toList, 11434, 8000⟩

/-- Every call and every file operation works. -/
def worked : Outcome := ⟨.answered, true, sampleServe.sessionId, ("svc".toList, 1)⟩

/-- One serve, from its first look to its record. -/
def servedAlone : List Action :=
  .beginServe 0 sampleServe :: List.replicate 13 (.advance 0 worked)

def stoppedAlone : List Action := .beginStop 1 false :: List.replicate 6 (.advance 1 worked)

theorem alone_stands :
    Guarded (step samplePeer) StillStands (initial fun _ => quietMachine)
      (servedAlone ++ stoppedAlone ++ Action.advance 1 worked :: []) :=
  ⟨trivial, trivial, trivial, trivial, rfl, trivial, trivial, trivial, trivial, trivial, trivial,
    trivial, trivial, trivial, trivial, trivial, trivial, rfl, trivial, trivial, rfl, rfl, trivial⟩

theorem alone_respects :
    Respects samplePeer
      (finalState (step samplePeer) (initial fun _ => quietMachine) (servedAlone ++ stoppedAlone))
      (.advance 1 worked) :=
  name_belongs_to_one_run samplePeer (fun _ => quietMachine) _ alone_stands _ _ _ rfl

/-- A second stop reads the record before the first one is done, and goes on
when another serve has taken the name. -/
def crossing : List Action :=
  servedAlone ++
    [Action.beginStop 1 false, .advance 1 worked, .beginStop 2 false, .advance 2 worked] ++
    List.replicate 6 (Action.advance 1 worked) ++
    List.replicate 2 (Action.advance 2 worked) ++
    Action.beginServe 3 sampleServe :: List.replicate 4 (Action.advance 3 worked)

/-- The second stop deletes the key that the other serve created. -/
theorem second_stop_fails :
    ¬ forall (peer : Peer) (machines : Line -> RemoteMachine) (actions before : List Action)
      (action : Action) (after : List Action), actions = before ++ action :: after ->
        Respects peer (finalState (step peer) (initial machines) before) action := by
  intro holds
  have respects := holds samplePeer (fun _ => quietMachine)
    (crossing ++ [Action.advance 2 worked]) crossing (.advance 2 worked) [] rfl
  have stopping : (finalState (step samplePeer) (initial fun _ => quietMachine) crossing).runs 2 =
      .stop false (.clearKey (sampleServe.record 0 "svc".toList) 1) := rfl
  have keyed : (finalState (step samplePeer) (initial fun _ => quietMachine) crossing).keys
      sampleServe.sessionId = some 3 := rfl
  have gone : (step samplePeer
      (finalState (step samplePeer) (initial fun _ => quietMachine) crossing)
      (.advance 2 worked)).keys sampleServe.sessionId = none := rfl
  have changed : (step samplePeer
      (finalState (step samplePeer) (initial fun _ => quietMachine) crossing)
      (.advance 2 worked)).keys sampleServe.sessionId ≠ some 3 := by
    rw [gone]
    exact nofun
  rcases respects.keys 2 worked sampleServe.sessionId 3 rfl keyed changed with
    own | ⟨force, phase, record, startedBefore, stopped, reads, _, created⟩
  · exact absurd own (by decide)
  · cases stopping.symm.trans stopped
    cases reads
    exact absurd created (by decide)

end Remote
end RocmCli
