import RocmCli.Automation.Modes

namespace RocmCli
namespace Automation

/-!
# Services that wait for recovery

A due tick of the server-recover watcher takes the newest service in need that is not
in its back-off.  The back-off of a service is over when the next tick is due, so the
newest service is taken at every tick and the others wait.
-/

/-! ## Ticks -/

/-- What a due tick finds when it scans and when it handles the event, when it is done,
and what a restart, failed or not, makes of a record. -/
structure Tick where
  scan : View
  handle : View
  finished : Nat
  restarted : ManagedServiceRecord -> ManagedServiceRecord

/-- Each record in the file of its name. -/
def filesOf (records : List ManagedServiceRecord) : List ManifestFile :=
  records.map fun record => ⟨record.serviceId ++ ".json", some record⟩

def seen (view : View) (records : List ManagedServiceRecord) : View :=
  { view with services := filesOf records }

def changeRecord (serviceId : String) (change : ManagedServiceRecord -> ManagedServiceRecord)
    (records : List ManagedServiceRecord) : List ManagedServiceRecord :=
  records.map fun record => if record.serviceId = serviceId then change record else record

/-- What an effect of the watcher makes of the records. -/
def applyEffect (restarted : ManagedServiceRecord -> ManagedServiceRecord)
    (records : List ManagedServiceRecord) : Effect -> List ManagedServiceRecord
  | .restart record => changeRecord record.serviceId restarted records
  | .stampRestart serviceId now =>
      changeRecord serviceId (fun record => { record with lastRestartUnixMs := some now }) records
  | _ => records

/-- The service that is observed, proposed, refused or restarted. -/
def handledService (effects : List Effect) : Option String :=
  effects.findSome? fun effect =>
    match effect with
    | .event record =>
        if record.action = "ignore_nonrecoverable_service" then none else record.serviceId
    | _ => none

def recoveryLog (mode : WatcherMode) (records : List ManagedServiceRecord) (tick : Tick) : Log :=
  match serverRecoverEvent (seen tick.scan records) with
  | [] => ⟨[], []⟩
  | event :: _ =>
      match handleServerRecoverEvent (seen tick.handle records) mode event ⟨[], []⟩ with
      | .ok log => log
      | .error _ => ⟨[], []⟩

/-- The records behind a tick. -/
def tickRecords (mode : WatcherMode) (records : List ManagedServiceRecord) (tick : Tick) :
    List ManagedServiceRecord :=
  (recoveryLog mode records tick).effects.foldl (applyEffect tick.restarted) records

/-- The services that the ticks handle. -/
def handledServices (mode : WatcherMode) : List ManagedServiceRecord -> List Tick ->
    List (Option String)
  | _, [] => []
  | records, tick :: rest =>
      handledService (recoveryLog mode records tick).effects ::
        handledServices mode (tickRecords mode records tick) rest

/-! ## What is assumed and what is promised -/

/-- Why a service needs recovery, whatever its back-off. -/
def recoveryNeed (view : View) (record : ManagedServiceRecord) : Option String :=
  match manifestServiceRecoveryReason record view.now with
  | some reason => some reason
  | none =>
    if ["ready", "running"].contains record.status then
      match view.healthcheck record.engine record.serviceId with
      | .error _ => endpointServiceRecoveryReason view record
      | .ok status =>
          if healthcheckResponseRecoverable status then some ("healthcheck_status_" ++ status)
          else endpointServiceRecoveryReason view record
    else none

/-- A managed service without a stop request needs recovery when it is scanned, and
for the same kind of reason when it is handled. -/
def Needs (tick : Tick) (record : ManagedServiceRecord) : Prop :=
  record.mode = "managed" ∧ stopRequested record = false ∧
    exists reason, recoveryNeed tick.scan record = some reason ∧
      forall event, event.kind = serviceRecoveryEventKind reason ->
        serviceRecordMatchesRecoveryEvent tick.handle record event = true

/-- Every service needs recovery at every tick. -/
def NeedPersists (mode : WatcherMode) : List ManagedServiceRecord -> List Tick -> Prop
  | _, [] => True
  | records, tick :: rest =>
      (forall record, record ∈ records -> Needs tick record) ∧
        NeedPersists mode (tickRecords mode records tick) rest

/-- The clock does not go back, and a restart keeps what names a record. -/
structure Tick.Orderly (tick : Tick) : Prop where
  scanned : tick.scan.now ≤ tick.handle.now
  handled : tick.handle.now ≤ tick.finished
  named : forall record, (tick.restarted record).serviceId = record.serviceId
  created : forall record, (tick.restarted record).createdAtUnixMs = record.createdAtUnixMs
  stamped : forall record last, (tick.restarted record).lastRestartUnixMs = some last ->
    record.lastRestartUnixMs = some last ∨ last ≤ tick.finished

/-- The ticks are at least the back-off apart. -/
def Spaced : List Tick -> Prop
  | [] => True
  | [tick] => tick.Orderly
  | tick :: next :: rest =>
      tick.Orderly ∧ tick.finished + serverRecoverBackoffMs ≤ next.scan.now ∧ Spaced (next :: rest)

/-- The files of the services are named by their ids, and no restart is in the future. -/
structure Recorded (records : List ManagedServiceRecord) (now : Nat) : Prop where
  apart : (records.map ManagedServiceRecord.serviceId).Nodup
  valid : forall serviceId, serviceId ∈ records.map ManagedServiceRecord.serviceId ->
    ToolPolicy.validateServiceId serviceId = .ok ()
  past : forall record, record ∈ records -> forall last, record.lastRestartUnixMs = some last ->
    last ≤ now

/-- Between two ticks that handle the same service, every other one is handled. -/
def Rotates (services : List String) (handled : List (Option String)) : Prop :=
  forall (first second : Nat) (service : String), first < second -> handled[first]? = some (some service) ->
    handled[second]? = some (some service) -> forall other, other ∈ services -> other ≠ service ->
      exists between, first < between ∧ between < second ∧ handled[between]? = some (some other)

def newestFirst (records : List ManagedServiceRecord) : List ManagedServiceRecord :=
  records.mergeSort fun left right => decide (right.createdAtUnixMs ≤ left.createdAtUnixMs)

/-- The newest service is in its back-off when the first tick scans. -/
def NewestWaits (records : List ManagedServiceRecord) (ticks : List Tick) : Prop :=
  exists newest tick, (newestFirst records).head? = some newest ∧ ticks.head? = some tick ∧
    inBackoff newest tick.scan.now = true

/-! ## Loading -/

variable {serviceId : String}

theorem validated_ne_empty (valid : ToolPolicy.validateServiceId serviceId = .ok ()) :
    serviceId ≠ "" := by
  rintro rfl
  exact absurd valid (by decide)

variable {records : List ManagedServiceRecord} {now : Nat}

theorem loadManagedServices_seen (recorded : Recorded records now) (view : View) :
    loadManagedServices (seen view records) = newestFirst records := by
  have all : (filesOf records).filter (fun file => hasJsonExtension file.name) = filesOf records := by
    refine List.filter_eq_self.mpr fun file listed => ?_
    rcases List.mem_map.mp listed with ⟨record, isRecord, rfl⟩
    have named := validated_ne_empty (recorded.valid _ (List.mem_map_of_mem isRecord))
    have long : record.serviceId ++ ".json" ≠ ".json" := by
      intro same
      exact named (String.toList_injective (by
        simpa [String.toList_append] using congrArg String.toList same))
    simp [hasJsonExtension, long, String.toList_append]
  have parsed : (filesOf records).filterMap ManifestFile.record = records := by
    simp [filesOf, List.filterMap_map]
  rw [loadManagedServices, seen]
  dsimp only
  rw [all, parsed, newestFirst]

variable {record : ManagedServiceRecord}

theorem loadServiceRecord_seen (recorded : Recorded records now) (view : View)
    (listed : record ∈ records) :
    loadServiceRecord (seen view records) record.serviceId = .ok record := by
  have found : (filesOf records).find? (fun file => file.name == record.serviceId ++ ".json") =
      some ⟨record.serviceId ++ ".json", some record⟩ := by
    have apart := recorded.apart
    clear recorded
    induction records with
    | nil => exact nomatch listed
    | cons first rest ih =>
        rcases List.nodup_cons.mp apart with ⟨fresh, others⟩
        rcases List.mem_cons.mp listed with rfl | behind
        · simp [filesOf]
        · have other : first.serviceId ≠ record.serviceId := fun same =>
            fresh (same ▸ List.mem_map_of_mem behind)
          have different : first.serviceId ++ ".json" ≠ record.serviceId ++ ".json" := by
            intro same
            exact other (String.toList_injective (by
              simpa [String.toList_append] using congrArg String.toList same))
          rw [filesOf, List.map_cons, List.find?_cons_of_neg (by simpa using different)]
          exact ih behind others
  rw [loadServiceRecord, recorded.valid _ (List.mem_map_of_mem listed)]
  dsimp only [seen]
  rw [found]
  simp

/-! ## What the handler does -/

variable {mode : WatcherMode} {tick : Tick}

/-- Whatever the mode, a service out of its back-off is handled, and what is stamped is
stamped with the time of the handler. -/
theorem handler_handles (view : View) (event : AutomationTriggerEvent)
    (ready : inBackoff record view.now = false) (log : Log)
    (quiet : handledService log.effects = none) :
    handledService (handleServerRecoverEventWithRecord view mode event record log).effects =
      some record.serviceId := by
  unfold handledService at quiet ⊢
  unfold handleServerRecoverEventWithRecord
  cases watcherPolicyAction mode with
  | observe => simp [recordEvent, Log.add, List.findSome?_append, quiet]
  | queueProposal =>
      dsimp only
      split <;> simp [recordEvent, queueProposal, queueProposalWithArguments, Log.add,
        List.findSome?_append, quiet]
  | runContained =>
      dsimp only
      rw [if_neg (by simp [ready])]
      split
      · simp [recordEvent, Log.add, List.findSome?_append, quiet]
      · split <;> simp [recordEvent, Log.add, List.findSome?_append, quiet]

theorem handler_stamps (view : View) (event : AutomationTriggerEvent)
    (record : ManagedServiceRecord) (log : Log)
    (unstamped : forall serviceId time, Effect.stampRestart serviceId time ∉ log.effects)
    {time : Nat} (listed : Effect.stampRestart serviceId time ∈
      (handleServerRecoverEventWithRecord view mode event record log).effects) :
    time = view.now := by
  unfold handleServerRecoverEventWithRecord at listed
  cases mode_ : watcherPolicyAction mode with
  | observe => simp [mode_, recordEvent, Log.add, unstamped] at listed
  | queueProposal =>
      simp only [mode_] at listed
      split at listed <;> simp [recordEvent, queueProposal, queueProposalWithArguments, Log.add,
        unstamped] at listed
  | runContained =>
      simp only [mode_] at listed
      split at listed
      · exact absurd listed (unstamped serviceId time)
      · split at listed
        · simp [recordEvent, Log.add, unstamped] at listed
        · split at listed
          · simpa [recordEvent, Log.add, unstamped, and_assoc] using (by
              simpa [recordEvent, Log.add, unstamped] using listed :
                serviceId = record.serviceId ∧ time = view.now).2
          · simp [recordEvent, Log.add, unstamped] at listed

theorem recoveryLog_stamps {time : Nat}
    (listed : Effect.stampRestart serviceId time ∈ (recoveryLog mode records tick).effects) :
    time = tick.handle.now := by
  unfold recoveryLog at listed
  split at listed
  · exact nomatch listed
  · next event _ _ =>
      have asked : forall record serviceId time,
          Effect.stampRestart serviceId time ∉ (askEngine record event ⟨[], []⟩).effects := by
        intro record serviceId time
        unfold askEngine
        split <;> simp [Log.add]
      split at listed
      · next log handled =>
          unfold handleServerRecoverEvent at handled
          cases named : event.serviceId with
          | none =>
              rw [named] at handled
              exact nomatch handled
          | some target =>
              rw [named] at handled
              cases loaded : loadServiceRecord (seen tick.handle records) target with
              | error error =>
                  simp only [loaded] at handled
                  exact nomatch handled
              | ok record =>
                  simp only [loaded] at handled
                  change (if _ then _ else _) = _ at handled
                  split at handled
                  · rcases Except.ok.inj handled with rfl
                    exact handler_stamps _ _ _ _ (asked record) listed
                  · rcases Except.ok.inj handled with rfl
                    simp [recordEvent, Log.add, asked] at listed
      · exact nomatch listed

/-! ## What a tick leaves of the records -/

def keyOf (record : ManagedServiceRecord) : String × Nat :=
  (record.serviceId, record.createdAtUnixMs)

theorem map_keys (records : List ManagedServiceRecord) :
    (records.map keyOf).map Prod.fst = records.map ManagedServiceRecord.serviceId := by
  rw [List.map_map]
  rfl

theorem changeRecord_keys {change : ManagedServiceRecord -> ManagedServiceRecord}
    (keeps : forall record, keyOf (change record) = keyOf record)
    (records : List ManagedServiceRecord) :
    (changeRecord serviceId change records).map keyOf = records.map keyOf := by
  rw [changeRecord, List.map_map]
  refine List.map_congr_left fun record _ => ?_
  rw [Function.comp_apply]
  split
  · exact keeps record
  · rfl

def Past (records : List ManagedServiceRecord) (now : Nat) : Prop :=
  forall record, record ∈ records -> forall last, record.lastRestartUnixMs = some last -> last ≤ now

theorem changeRecord_past {change : ManagedServiceRecord -> ManagedServiceRecord}
    (stamped : forall record last, (change record).lastRestartUnixMs = some last ->
      record.lastRestartUnixMs = some last ∨ last ≤ now) (past : Past records now) :
    Past (changeRecord serviceId change records) now := by
  intro record listed last isLast
  rcases List.mem_map.mp listed with ⟨before, isBefore, rfl⟩
  split at isLast
  · exact (stamped before last isLast).elim (past before isBefore last) id
  · exact past before isBefore last isLast

theorem applyEffects_keep (orderly : tick.Orderly) {effects : List Effect}
    (stamps : forall serviceId time, Effect.stampRestart serviceId time ∈ effects ->
      time ≤ tick.finished) (past : Past records tick.finished) :
    (effects.foldl (applyEffect tick.restarted) records).map keyOf = records.map keyOf ∧
      Past (effects.foldl (applyEffect tick.restarted) records) tick.finished := by
  induction effects generalizing records with
  | nil => exact ⟨rfl, past⟩
  | cons effect rest ih =>
      have later : forall serviceId time, Effect.stampRestart serviceId time ∈ rest ->
          time ≤ tick.finished := fun _ _ listed => stamps _ _ (.tail _ listed)
      have one : (applyEffect tick.restarted records effect).map keyOf = records.map keyOf ∧
          Past (applyEffect tick.restarted records effect) tick.finished := by
        cases effect with
        | restart record =>
            exact ⟨changeRecord_keys (fun record =>
              Prod.ext (orderly.named record) (orderly.created record)) records,
              changeRecord_past orderly.stamped past⟩
        | stampRestart serviceId time =>
            refine ⟨@changeRecord_keys serviceId (fun record =>
              { record with lastRestartUnixMs := some time }) (fun _ => rfl) records,
              changeRecord_past ?_ past⟩
            exact fun _ last isLast => .inr (Option.some.inj isLast ▸ stamps _ _ List.mem_cons_self)
        | _ => exact ⟨rfl, past⟩
      rcases ih later one.2 with ⟨keys, stays⟩
      exact ⟨keys.trans one.1, stays⟩

theorem Recorded.longer (recorded : Recorded records now) {later : Nat} (le : now ≤ later) :
    Recorded records later :=
  ⟨recorded.apart, recorded.valid, fun record listed last isLast =>
    (recorded.past record listed last isLast).trans le⟩

theorem tickRecords_keep (mode : WatcherMode) (recorded : Recorded records now)
    (orderly : tick.Orderly) (le : now ≤ tick.scan.now) :
    (tickRecords mode records tick).map keyOf = records.map keyOf ∧
      Recorded (tickRecords mode records tick) tick.finished := by
  have past := (recorded.longer (le.trans (orderly.scanned.trans orderly.handled))).past
  rcases applyEffects_keep orderly (fun serviceId time listed =>
    (recoveryLog_stamps listed).le.trans orderly.handled) past with ⟨keys, stays⟩
  have ids : (tickRecords mode records tick).map ManagedServiceRecord.serviceId =
      records.map ManagedServiceRecord.serviceId := by
    rw [← map_keys, tickRecords, keys, map_keys]
  exact ⟨keys, by rw [ids]; exact recorded.apart, by rw [ids]; exact recorded.valid, stays⟩

theorem newestFirst_ids {before after : List ManagedServiceRecord}
    (keys : after.map keyOf = before.map keyOf) :
    (newestFirst after).map ManagedServiceRecord.serviceId =
      (newestFirst before).map ManagedServiceRecord.serviceId := by
  have sorted : forall records, (newestFirst records).map keyOf =
      (records.map keyOf).mergeSort fun left right => decide (right.2 ≤ left.2) := fun records =>
    List.map_mergeSort fun _ _ _ _ => rfl
  rw [← map_keys, sorted, keys, ← sorted, map_keys]

/-! ## Which service a tick handles -/

theorem recoverable_eq {view : View} (managed : record.mode = "managed")
    (noStop : stopRequested record = false) (records : List ManagedServiceRecord) :
    recoverable (seen view records) record =
      if inBackoff record view.now then none else recoveryNeed view record := by
  rw [recoverable, if_neg (by simp [managed, noStop])]
  rfl

theorem findSome?_eq_find? {α β : Type} {found : α -> Option β} {test : α -> Bool} {pick : α -> β}
    (list : List α) (agrees : forall item, item ∈ list ->
      found item = if test item then some (pick item) else none) :
    list.findSome? found = (list.find? test).map pick := by
  induction list with
  | nil => rfl
  | cons item rest ih =>
      have others := ih fun other listed => agrees other (.tail _ listed)
      have here := agrees item List.mem_cons_self
      cases passes : test item with
      | true => simp [here, passes]
      | false => simp [here, passes, others]

theorem inBackoff_later {before after : Nat} (ready : inBackoff record before = false)
    (le : before ≤ after) :
    inBackoff record after = false := by
  unfold inBackoff at ready ⊢
  cases stamp : record.lastRestartUnixMs with
  | none => rfl
  | some last =>
      rw [stamp] at ready
      simp only [Option.any_some, decide_eq_false_iff_not, Nat.not_lt] at ready ⊢
      omega

/-- A tick handles the newest service that is not in its back-off. -/
theorem recoveryLog_handled (mode : WatcherMode) (recorded : Recorded records now)
    (orderly : tick.Orderly) (needs : forall record, record ∈ records -> Needs tick record) :
    handledService (recoveryLog mode records tick).effects =
      ((newestFirst records).find? fun record => !inBackoff record tick.scan.now).map
        ManagedServiceRecord.serviceId := by
  have scanned : findRecoverableService (seen tick.scan records) =
      ((newestFirst records).find? fun record => !inBackoff record tick.scan.now).map fun record =>
        (record, (recoveryNeed tick.scan record).getD "") := by
    rw [findRecoverableService, loadManagedServices_seen recorded]
    refine findSome?_eq_find? _ fun record listed => ?_
    rcases needs record (List.mem_mergeSort.mp listed) with ⟨managed, noStop, reason, isReason, _⟩
    rw [recoverable_eq managed noStop, isReason]
    cases inBackoff record tick.scan.now <;> rfl
  unfold recoveryLog serverRecoverEvent
  rw [scanned]
  cases isFound : (newestFirst records).find? fun record => !inBackoff record tick.scan.now with
  | none => rfl
  | some record =>
      have listed : record ∈ records := List.mem_mergeSort.mp (List.mem_of_find?_eq_some isFound)
      have ready : inBackoff record tick.scan.now = false := by
        simpa using List.find?_some isFound
      rcases needs record listed with ⟨_, _, reason, isReason, matched⟩
      dsimp only [Option.map_some]
      unfold handleServerRecoverEvent
      dsimp only
      rw [loadServiceRecord_seen recorded _ listed, isReason]
      have stays := matched
        { atUnixMs := (seen tick.scan records).now
          kind := serviceRecoveryEventKind reason
          source := "managed_service"
          watcherHint := some "server-recover"
          serviceId := some record.serviceId
          reason := some reason
          payload := .object [("engine", .string record.engine), ("status", .string record.status),
            ("endpoint", .string record.endpointUrl), ("recovery_reason", .string reason)] } rfl
      simp only [Option.getD_some]
      change handledService (match (if serviceRecordMatchesRecoveryEvent tick.handle record _ = true
        then Except.ok _ else Except.ok _ : Except ErrorChain Log) with
          | .ok log => log
          | .error _ => ⟨[], []⟩).effects = _
      rw [if_pos stays]
      refine handler_handles _ _ (inBackoff_later ready orderly.scanned) _ ?_
      unfold askEngine
      split <;> rfl

/-! ## Whole runs -/

/-- Every back-off is over when the next tick is due. -/
theorem ready_after (recorded : Recorded records now) {later : Nat}
    (le : now + serverRecoverBackoffMs ≤ later) (listed : record ∈ records) :
    inBackoff record later = false := by
  unfold inBackoff
  cases stamp : record.lastRestartUnixMs with
  | none => rfl
  | some last =>
      have past := recorded.past record listed last stamp
      simp only [Option.any_some, decide_eq_false_iff_not, Nat.not_lt]
      omega

/-- Once the back-offs are over, every tick handles the newest service. -/
theorem handledServices_settled (mode : WatcherMode) {ticks : List Tick} (spaced : Spaced ticks)
    (recorded : Recorded records now) (needs : NeedPersists mode records ticks)
    (due : forall tick, ticks.head? = some tick -> now + serverRecoverBackoffMs ≤ tick.scan.now) :
    handledServices mode records ticks =
      List.replicate ticks.length (((newestFirst records).map ManagedServiceRecord.serviceId).head?) := by
  induction ticks generalizing records now with
  | nil => rfl
  | cons tick rest ih =>
      have orderly : tick.Orderly := by
        cases rest with
        | nil => exact spaced
        | cons next others => exact spaced.1
      have isDue := due tick rfl
      rcases tickRecords_keep mode recorded orderly (by omega) with ⟨keys, kept⟩
      have here := recoveryLog_handled mode recorded orderly needs.1
      have all : (newestFirst records).find? (fun record => !inBackoff record tick.scan.now) =
          (newestFirst records).head? := by
        cases sorted : newestFirst records with
        | nil => rfl
        | cons newest others =>
            have listed : newest ∈ records := List.mem_mergeSort.mp
              (show newest ∈ newestFirst records from sorted ▸ List.mem_cons_self)
            simp [ready_after recorded isDue listed]
      have behind : handledServices mode (tickRecords mode records tick) rest = List.replicate
          rest.length (((newestFirst records).map ManagedServiceRecord.serviceId).head?) := by
        rw [← newestFirst_ids keys]
        cases rest with
        | nil => rfl
        | cons next others =>
            exact ih spaced.2.2 kept needs.2 fun other isNext =>
              Option.some.inj isNext ▸ spaced.2.1
      rw [handledServices, here, all, behind, List.head?_map]
      rfl

/-- A first tick, and the newest service at all the others. -/
theorem handledServices_cons (mode : WatcherMode) {ticks : List Tick} (spaced : Spaced (tick :: ticks))
    (recorded : Recorded records now) (le : now ≤ tick.scan.now)
    (needs : NeedPersists mode records (tick :: ticks)) :
    handledServices mode records (tick :: ticks) =
      ((newestFirst records).find? fun record => !inBackoff record tick.scan.now).map
          ManagedServiceRecord.serviceId ::
        List.replicate ticks.length
          (((newestFirst records).map ManagedServiceRecord.serviceId).head?) := by
  have orderly : tick.Orderly := by
    cases ticks with
    | nil => exact spaced
    | cons next others => exact spaced.1
  rcases tickRecords_keep mode recorded orderly le with ⟨keys, kept⟩
  rw [handledServices, recoveryLog_handled mode recorded orderly needs.1, ← newestFirst_ids keys]
  congr 1
  cases ticks with
  | nil => rfl
  | cons next others =>
      exact handledServices_settled mode spaced.2.2 kept needs.2 fun other isNext =>
        Option.some.inj isNext ▸ spaced.2.1

theorem ids_perm (records : List ManagedServiceRecord) :
    ((newestFirst records).map ManagedServiceRecord.serviceId).Perm
      (records.map ManagedServiceRecord.serviceId) := (List.mergeSort_perm ..).map _

/-- Taking turns, where one service is handled again and again. -/
theorem rotates_cons_iff {newest : String} {others : List String} (nodup : (newest :: others).Nodup)
    {first : Option String} (known : forall service, first = some service -> service ∈ newest :: others)
    (count : Nat) :
    Rotates (newest :: others) (first :: List.replicate count (some newest)) ↔
      others = [] ∨ count = 0 ∨ count = 1 ∧ first ≠ some newest := by
  have later : forall index service, (first :: List.replicate count (some newest))[index + 1]? =
      some (some service) -> index < count ∧ service = newest := by
    intro index service found
    rw [List.getElem?_cons_succ, List.getElem?_replicate] at found
    split at found
    · next inside => exact ⟨inside, (Option.some.inj (Option.some.inj found)).symm⟩
    · exact nomatch found
  have again : forall index, index < count ->
      (first :: List.replicate count (some newest))[index + 1]? = some (some newest) := by
    intro index inside
    rw [List.getElem?_cons_succ, List.getElem?_replicate, if_pos inside]
  constructor
  · intro rotates
    by_contra none_
    simp only [not_or, not_and, not_not] at none_
    rcases none_ with ⟨some_, ticked, second⟩
    rcases List.exists_mem_of_ne_nil _ some_ with ⟨other, listed⟩
    have different : other ≠ newest := fun same => (List.nodup_cons.mp nodup).1 (same ▸ listed)
    by_cases twice : count = 1
    · rcases rotates 0 1 newest (by omega) (congrArg some (second twice)) (again 0 (by omega)) other
        (.tail _ listed) different with ⟨between, after, before, _⟩
      omega
    · rcases rotates 1 2 newest (by omega) (again 0 (by omega)) (again 1 (by omega)) other
        (.tail _ listed) different with ⟨between, after, before, _⟩
      omega
  · intro few start finish service ordered isStart isFinish other listed different
    cases finish with
    | zero => omega
    | succ finish =>
        rcases later finish service isFinish with ⟨inside, rfl⟩
        rcases few with alone | rfl | ⟨rfl, notFirst⟩
        · rw [alone] at listed
          exact absurd (List.mem_singleton.mp listed) different
        · omega
        · have zero : start = 0 := by omega
          subst zero
          exact absurd (Option.some.inj isStart) notFirst

/-- While the needs persist, the services take turns just when there is nothing to take
turns about: one service, one tick, or two ticks of which the first passes over the
newest service. -/
theorem recovery_rotates_iff (mode : WatcherMode) (records : List ManagedServiceRecord)
    (ticks : List Tick) {now : Nat} (recorded : Recorded records now) (spaced : Spaced ticks)
    (begins : forall tick, ticks.head? = some tick -> now ≤ tick.scan.now)
    (needs : NeedPersists mode records ticks) :
    Rotates (records.map ManagedServiceRecord.serviceId) (handledServices mode records ticks) ↔
      records.length ≤ 1 ∨ ticks.length ≤ 1 ∨ ticks.length = 2 ∧ NewestWaits records ticks := by
  have perm := ids_perm records
  have nodup := perm.nodup_iff.mpr recorded.apart
  cases ticks with
  | nil => exact ⟨fun _ => .inr (.inl (Nat.zero_le _)), nofun⟩
  | cons tick rest =>
      rw [handledServices_cons mode spaced recorded (begins tick rfl) needs]
      cases sorted : newestFirst records with
      | nil =>
          have empty : records.length = 0 := by
            rw [← List.length_mergeSort, ← newestFirst, sorted]
            rfl
          rw [sorted] at perm
          refine ⟨fun _ => .inl (by omega), fun _ _ _ _ _ _ _ other listed => ?_⟩
          exact nomatch perm.mem_iff.mpr listed
      | cons newest others =>
          have services : forall handled, Rotates (records.map ManagedServiceRecord.serviceId) handled ↔
              Rotates ((newest :: others).map ManagedServiceRecord.serviceId) handled := by
            intro handled
            unfold Rotates
            simp only [← sorted, perm.mem_iff]
          have long : records.length = others.length + 1 := by
            rw [← List.length_mergeSort, ← newestFirst, sorted, List.length_cons]
          rw [sorted] at nodup
          have waits : NewestWaits records (tick :: rest) ↔
              (((newest :: others).find? fun record => !inBackoff record tick.scan.now).map
                ManagedServiceRecord.serviceId) ≠ some newest.serviceId := by
            unfold NewestWaits
            rw [sorted]
            cases busy : inBackoff newest tick.scan.now with
            | false => simp [busy]
            | true =>
                refine ⟨fun _ found => ?_, fun _ => ⟨newest, tick, rfl, rfl, busy⟩⟩
                rw [List.find?_cons_of_neg (by simp [busy])] at found
                rcases Option.map_eq_some_iff.mp found with ⟨record, isFound, same⟩
                exact (List.nodup_cons.mp nodup).1
                  (same ▸ List.mem_map_of_mem (List.mem_of_find?_eq_some isFound))
          have known : forall service, ((newest :: others).find? fun record =>
              !inBackoff record tick.scan.now).map ManagedServiceRecord.serviceId = some service ->
                service ∈ (newest :: others).map ManagedServiceRecord.serviceId := by
            intro service found
            rcases Option.map_eq_some_iff.mp found with ⟨record, isFound, rfl⟩
            exact List.mem_map_of_mem (List.mem_of_find?_eq_some isFound)
          rw [services, List.map_cons, List.head?_cons, rotates_cons_iff nodup known, waits,
            List.map_eq_nil_iff, List.length_cons, long]
          have single : others = [] ↔ others.length + 1 ≤ 1 := by
            rw [← List.length_eq_zero_iff]
            omega
          rw [single]
          constructor <;> rintro (alone | few | ⟨two, notFirst⟩)
          · exact .inl alone
          · exact .inr (.inl (by omega))
          · exact .inr (.inr ⟨by omega, notFirst⟩)
          · exact .inl alone
          · exact .inr (.inl (by omega))
          · exact .inr (.inr ⟨by omega, notFirst⟩)

/-! ## Services that have failed -/

/-- A managed service that has failed, without a stop request. -/
def Failed (record : ManagedServiceRecord) : Prop :=
  record.mode = "managed" ∧ record.stopRequestedUnixMs = none ∧ record.status = "failed"

theorem Failed.needs (failed : Failed record) (tick : Tick) : Needs tick record := by
  rcases failed with ⟨managed, noStop, status⟩
  have reason : forall time, manifestServiceRecoveryReason record time =
      some "manifest_status_failed" := fun time => by
    simp [manifestServiceRecoveryReason, status]
  refine ⟨managed, by simp [stopRequested, noStop], _, by rw [recoveryNeed, reason], ?_⟩
  intro event kind
  have manifest : event.kind = "service.manifest_recoverable" := kind.trans (by decide)
  simp [serviceRecordMatchesRecoveryEvent, stopRequested, noStop, manifest, reason]

/-- Where no restart changes anything, failed services stay in need. -/
theorem failed_persists (mode : WatcherMode) {ticks : List Tick}
    (futile : forall tick, tick ∈ ticks -> forall record, Failed record -> Failed (tick.restarted record))
    (failed : forall record, record ∈ records -> Failed record) : NeedPersists mode records ticks := by
  induction ticks generalizing records with
  | nil => trivial
  | cons tick rest ih =>
      refine ⟨fun record listed => (failed record listed).needs tick,
        ih (fun other listed => futile other (.tail _ listed)) ?_⟩
      have change : forall (serviceId : String) (change : ManagedServiceRecord -> ManagedServiceRecord)
          (records : List ManagedServiceRecord), (forall record, Failed record -> Failed (change record)) ->
          (forall record, record ∈ records -> Failed record) ->
          forall record, record ∈ changeRecord serviceId change records -> Failed record := by
        intro serviceId change records keeps failed record listed
        rcases List.mem_map.mp listed with ⟨before, isBefore, rfl⟩
        split
        · exact keeps before (failed before isBefore)
        · exact failed before isBefore
      unfold tickRecords
      generalize (recoveryLog mode records tick).effects = effects
      induction effects generalizing records with
      | nil => exact failed
      | cons effect others next =>
          refine next ?_
          cases effect with
          | restart record => exact change _ _ _ (futile tick List.mem_cons_self) failed
          | stampRestart serviceId time => exact change _ _ _ (fun _ same => same) failed
          | _ => exact failed

def failedServer (serviceId : String) (createdAtUnixMs : Nat) : ManagedServiceRecord :=
  { runningServer with serviceId, status := "failed", createdAtUnixMs }

def twoFailed : List ManagedServiceRecord := [failedServer "svc-new" 2, failedServer "svc-old" 1]

/-- A tick on an empty machine, on which a restart changes nothing. -/
def tickAt (now : Nat) : Tick :=
  ⟨{ emptyMachine with now }, { emptyMachine with now }, now, id⟩

theorem tickAt_orderly (now : Nat) : (tickAt now).Orderly :=
  ⟨le_rfl, le_rfl, fun _ => rfl, fun _ => rfl, fun _ _ same => .inl same⟩

theorem twoFailed_recorded : Recorded twoFailed 0 where
  apart := by decide
  valid serviceId listed := by
    rcases List.mem_pair.mp listed with rfl | rfl <;> decide
  past record listed last isLast := by
    rcases List.mem_pair.mp listed with rfl | rfl <;> exact nomatch isLast

theorem twoFailed_persists (mode : WatcherMode) (times : List Nat) :
    NeedPersists mode twoFailed (times.map tickAt) := by
  refine failed_persists mode (fun tick listed record failed => ?_) fun record listed => ?_
  · rcases List.mem_map.mp listed with ⟨time, _, rfl⟩
    exact failed
  · rcases List.mem_pair.mp listed with rfl | rfl <;> exact ⟨rfl, rfl, rfl⟩

theorem twoTicks_spaced : Spaced [tickAt 100000, tickAt 200000] :=
  ⟨tickAt_orderly _, by decide, tickAt_orderly _⟩

theorem recovery_rotates_iff_twoFailed :
    Rotates (twoFailed.map ManagedServiceRecord.serviceId)
        (handledServices .contained twoFailed [tickAt 100000, tickAt 200000]) ↔
      twoFailed.length ≤ 1 ∨ [tickAt 100000, tickAt 200000].length ≤ 1 ∨
        [tickAt 100000, tickAt 200000].length = 2 ∧
          NewestWaits twoFailed [tickAt 100000, tickAt 200000] :=
  recovery_rotates_iff .contained twoFailed [tickAt 100000, tickAt 200000] twoFailed_recorded
    twoTicks_spaced (fun _ isFirst => Option.some.inj isFirst ▸ Nat.zero_le _)
    (twoFailed_persists .contained [100000, 200000])

/-- The older of two failed services is never reached. -/
theorem older_service_starves :
    NeedPersists .contained twoFailed [tickAt 100000, tickAt 200000] ∧
      ¬ Rotates (twoFailed.map ManagedServiceRecord.serviceId)
        (handledServices .contained twoFailed [tickAt 100000, tickAt 200000]) := by
  refine ⟨twoFailed_persists .contained [100000, 200000], fun rotates => ?_⟩
  have sorted : newestFirst twoFailed = twoFailed :=
    List.mergeSort_of_pairwise (by decide)
  rw [handledServices_cons .contained twoTicks_spaced twoFailed_recorded (Nat.zero_le _)
    (twoFailed_persists .contained [100000, 200000]), sorted] at rotates
  rcases rotates 0 1 "svc-new" (by omega) rfl rfl "svc-old" (by decide) (by decide) with
    ⟨between, after, before, _⟩
  omega

end Automation
end RocmCli
