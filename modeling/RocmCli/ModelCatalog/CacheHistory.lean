import RocmCli.Download.Verified
import RocmCli.ModelCatalog.Prefetch

namespace RocmCli
namespace ModelCatalog

open Text Crash Crash.Program

/-!
# What a cached artifact is

Over any history of calls, finished or stopped on the way, a marker stands only
next to bytes of the size and the digest it records.  They are those of the
record the artifact was downloaded under: a marker is found by the names of the
model and the artifact alone, so a later record of the same names finds it too.
-/

/-! ## Files on the way -/

/-- The files agree wherever nothing is being written. -/
def Agrees (start files : Files) : Prop := forall path, ¬ Unfinished path -> files path = start path

theorem Agrees.refl (files : Files) : Agrees files files := fun _ _ => rfl

theorem Agrees.putUnfinished {start files : Files} (agrees : Agrees start files) {path : FilePath}
    (unfinished : Unfinished path) (content : Content) : Agrees start (files.put path content) := by
  intro other finished
  have apart : other ≠ path := fun same => finished (same ▸ unfinished)
  exact (Function.update_of_ne apart _ files).trans (agrees other finished)

theorem Agrees.removeUnfinished {start files : Files} (agrees : Agrees start files)
    {path : FilePath} (unfinished : Unfinished path) : Agrees start (files.remove path) := by
  intro other finished
  have apart : other ≠ path := fun same => finished (same ▸ unfinished)
  exact (Function.update_of_ne apart _ files).trans (agrees other finished)

theorem Agrees.put {start files : Files} (agrees : Agrees start files) (path : FilePath)
    (content : Content) : Agrees (start.put path content) (files.put path content) := by
  intro other finished
  by_cases here : other = path
  · rw [here]
    exact (Function.update_self path _ files).trans (Function.update_self path _ start).symm
  · exact (Function.update_of_ne here _ files).trans
      ((agrees other finished).trans (Function.update_of_ne here _ start).symm)

/-- A program that leaves the finished files may run before one that changes them. -/
theorem keeps_before {program : Program Files} {start : Files}
    (keeps : Keeps (Agrees start) (Agrees start) (Agrees start) program) (changed : Files) :
    Keeps (Agrees start) (fun files => Agrees start files ∨ Agrees changed files) (Agrees start)
      program :=
  keeps.consequence (fun _ agrees => agrees) (fun _ agrees => Or.inl agrees) (fun _ agrees => agrees)

/-! ## Markers -/

/-- A marker that tells the truth about the bytes next to it, and about what
they were checked against. -/
structure Vouches (digest : Bytes -> String) (files : Files) (model artifactId : String)
    (marker : Marker) : Prop where
  forModel : marker.model = model
  forArtifact : marker.artifact.artifactId = artifactId
  size : marker.artifact.sizeBytes = some marker.sizeBytes
  sha256 : exists expected, validSha256 marker.artifact = some expected ∧
    eqIgnoreAsciiCase marker.sha256 expected = true
  bytes : exists bytes,
    files (artifactBytesPathForMarker (modelArtifactCacheMarkerPath model artifactId)) =
      some (.bytes bytes) ∧ bytes.length = marker.sizeBytes ∧ digest bytes = marker.sha256

/-- The marker that a call writes for what it has downloaded. -/
def Call.Writes (digest : Bytes -> String) (call : Call) (marker : Marker) : Prop :=
  exists plan outcome, prefetchPlan call.artifact call.policy = .ok plan ∧
    (call.download digest plan).outcome = .ok outcome ∧ marker = call.marker plan outcome

/-- One of the calls, which stand in order, wrote the marker. -/
def Written (digest : Bytes -> String) (calls : List Call) (marker : Marker) : Prop :=
  exists earlier writer later, calls = earlier ++ writer :: later ∧ writer.Writes digest marker

/-- Every marker was written by a call, and tells the truth. -/
def Sound (digest : Bytes -> String) (calls : List Call) (files : Files) : Prop :=
  forall model artifactId content,
    files (modelArtifactCacheMarkerPath model artifactId) = some content ->
    exists marker, content = .marker marker ∧ Vouches digest files model artifactId marker ∧
      Written digest calls marker

variable {digest : Bytes -> String} {calls : List Call}

theorem sound_empty : Sound digest [] Files.empty := nofun

/-- One more call takes no marker away. -/
theorem Sound.later {files : Files} (sound : Sound digest calls files) (call : Call) :
    Sound digest (calls ++ [call]) files := by
  intro model artifactId content found
  rcases sound model artifactId content found with
    ⟨marker, isMarker, vouches, earlier, writer, later, whole, writes⟩
  refine ⟨marker, isMarker, vouches, earlier, writer, later ++ [call], ?_, writes⟩
  rw [whole, List.append_assoc, List.cons_append]

variable {model artifactId : String} {marker : Marker}

theorem Vouches.of_bytes {files other : Files}
    (vouches : Vouches digest files model artifactId marker)
    (same : other (artifactBytesPathForMarker (modelArtifactCacheMarkerPath model artifactId)) =
      files (artifactBytesPathForMarker (modelArtifactCacheMarkerPath model artifactId))) :
    Vouches digest other model artifactId marker :=
  ⟨vouches.forModel, vouches.forArtifact, vouches.size, vouches.sha256, same ▸ vouches.bytes⟩

theorem Sound.of_agrees {start files : Files} (sound : Sound digest calls start)
    (agrees : Agrees start files) : Sound digest calls files := by
  intro model artifactId content found
  rw [agrees _ (markerPath_finished model artifactId)] at found
  rcases sound model artifactId content found with ⟨marker, isMarker, vouches, written⟩
  exact ⟨marker, isMarker, vouches.of_bytes (agrees _ (bytesPath_finished model artifactId)),
    written⟩

/-- Bytes without a marker may be replaced. -/
theorem Sound.putBytes {files : Files} (sound : Sound digest calls files)
    (unmarked : files (modelArtifactCacheMarkerPath model artifactId) = none) (bytes : Bytes) :
    Sound digest calls (files.put
      (artifactBytesPathForMarker (modelArtifactCacheMarkerPath model artifactId))
      (.bytes bytes)) := by
  intro other otherId content found
  have marked : files (modelArtifactCacheMarkerPath other otherId) = some content :=
    (Function.update_of_ne (markerPath_ne_bytesPath other otherId model artifactId) _ files).symm.trans
      found
  rcases sound other otherId content marked with ⟨marker, isMarker, vouches, written⟩
  have apart : artifactBytesPathForMarker (modelArtifactCacheMarkerPath other otherId) ≠
      artifactBytesPathForMarker (modelArtifactCacheMarkerPath model artifactId) := by
    intro same
    rcases bytesPath_injective same with ⟨sameModel, sameId⟩
    rw [sameModel, sameId, unmarked] at marked
    cases marked
  exact ⟨marker, isMarker, vouches.of_bytes (Function.update_of_ne apart _ files), written⟩

/-- A marker may be put next to the bytes it tells the truth about. -/
theorem Sound.putMarker {files : Files} (sound : Sound digest calls files)
    (vouches : Vouches digest files model artifactId marker)
    (written : Written digest calls marker) :
    Sound digest calls
      (files.put (modelArtifactCacheMarkerPath model artifactId) (.marker marker)) := by
  intro other otherId content found
  have bytesKept : (files.put (modelArtifactCacheMarkerPath model artifactId) (.marker marker))
      (artifactBytesPathForMarker (modelArtifactCacheMarkerPath other otherId)) =
      files (artifactBytesPathForMarker (modelArtifactCacheMarkerPath other otherId)) :=
    Function.update_of_ne (markerPath_ne_bytesPath model artifactId other otherId).symm _ files
  by_cases here : modelArtifactCacheMarkerPath other otherId =
      modelArtifactCacheMarkerPath model artifactId
  · rcases markerPath_injective here with ⟨rfl, rfl⟩
    have isMarker := Option.some.inj ((Function.update_self _ _ files).symm.trans found)
    exact ⟨marker, isMarker.symm, vouches.of_bytes bytesKept, written⟩
  · have marked := (Function.update_of_ne here _ files).symm.trans found
    rcases sound other otherId content marked with ⟨kept, isKept, keptVouches, keptWritten⟩
    exact ⟨kept, isKept, keptVouches.of_bytes bytesKept, keptWritten⟩

/-! ## One call -/

namespace Call

variable (digest) (call : Call)

/-- The partial download was never longer than its length can be told. -/
def Storable : Prop := forall plan, prefetchPlan call.artifact call.policy = .ok plan ->
  Download.Countable (call.download digest plan).partSizes

def downloaded (plan : PrefetchPlan) : Bytes :=
  (call.download digest plan).files.destination.getD []

/-- The files once the bytes are in place. -/
def withBytes (plan : PrefetchPlan) (start : Files) : Files :=
  start.put call.bytesPath (.bytes (call.downloaded digest plan))

/-- The files once the marker is in place too. -/
def withMarker (plan : PrefetchPlan) (outcome : Download.DownloadOutcome) (start : Files) : Files :=
  (call.withBytes digest plan start).put call.markerPath (.marker (call.marker plan outcome))

theorem partialPath_isUnfinished : Unfinished call.partialPath :=
  partialPath_unfinished call.model call.artifact.artifactId call.pid

theorem tempPath_isUnfinished (attempt : Nat) : Unfinished (call.tempPath attempt) := by
  have digits (number : Nat) : '.' ∉ (toString number).toList := by
    rw [show (toString number).toList = Nat.toDigits 10 number from String.toList_ofList]
    exact Text.not_mem_toDigits rfl number
  have noDot : '.' ∉ call.tempSuffix attempt := by
    unfold tempSuffix
    simp only [List.mem_append, List.mem_cons, not_or]
    exact ⟨digits call.pid, by decide, digits call.now, by decide, digits attempt⟩
  exact tempPath_unfinished call.model call.artifact.artifactId noDot

variable {start : Files}

theorem discardPartial_agrees :
    Keeps (Agrees start) (Agrees start) (Agrees start) call.discardPartial :=
  keeps_step (fun _ agrees => agrees.removeUnfinished call.partialPath_isUnfinished)
    (fun _ agrees => agrees.removeUnfinished call.partialPath_isUnfinished)

theorem transfer_agrees : Keeps (Agrees start) (Agrees start) (Agrees start)
    (forEach (fun bytes => step (·.put call.partialPath (.bytes bytes))) call.transferring) := by
  apply keeps_forEach fun _ => Agrees start
  intro _ bytes _ _
  exact keeps_step (fun _ agrees => agrees.putUnfinished call.partialPath_isUnfinished _)
    (fun _ agrees => agrees.putUnfinished call.partialPath_isUnfinished _)

variable {plan : PrefetchPlan}

/-- A download that fails leaves everything that was finished. -/
theorem downloadSteps_failed {error : ErrorChain}
    (failed : (call.download digest plan).outcome = .error error) :
    Keeps (Agrees start) (Agrees start) (Agrees start) (call.downloadSteps digest plan) := by
  unfold downloadSteps
  cases call.io.createParent with
  | some error => exact keeps_skip fun _ agrees => agrees
  | none =>
    rw [failed]
    exact keeps_seq call.discardPartial_agrees
      (keeps_seq call.transfer_agrees call.discardPartial_agrees)

variable {outcome : Download.DownloadOutcome}

theorem createParent_of_ok (success : (call.download digest plan).outcome = .ok outcome) :
    call.io.createParent = none := by
  cases folder : call.io.createParent with
  | none => rfl
  | some error =>
    unfold download Download.downloadFileStreamingWithProgress at success
    rw [folder] at success
    cases success

/-- One that succeeds puts the bytes in place at its last step. -/
theorem downloadSteps_succeeded (success : (call.download digest plan).outcome = .ok outcome) :
    Keeps (Agrees start)
      (fun files => Agrees start files ∨ Agrees (call.withBytes digest plan start) files)
      (Agrees (call.withBytes digest plan start)) (call.downloadSteps digest plan) := by
  unfold downloadSteps
  rw [call.createParent_of_ok digest success, success]
  have published (files : Files) (agrees : Agrees start files) :
      Agrees (call.withBytes digest plan start) ((files.remove call.partialPath).put call.bytesPath
        (.bytes (call.downloaded digest plan))) :=
    (agrees.removeUnfinished call.partialPath_isUnfinished).put call.bytesPath _
  exact keeps_seq (keeps_before call.discardPartial_agrees _)
    (keeps_seq (keeps_before call.transfer_agrees _)
      (keeps_step (fun files agrees => Or.inr (published files agrees)) published))

theorem reserveTemp_agrees (attempt : Nat) :
    Keeps (Agrees start) (Agrees start) (Agrees start) (call.reserveTemp attempt) :=
  keeps_step (fun _ agrees => agrees.putUnfinished (call.tempPath_isUnfinished attempt) _)
    (fun _ agrees => agrees.putUnfinished (call.tempPath_isUnfinished attempt) _)

theorem fillTemp_agrees (attempt : Nat) (marker : Marker) :
    Keeps (Agrees start) (Agrees start) (Agrees start)
      (step (·.put (call.tempPath attempt) (.marker marker))) :=
  keeps_step (fun _ agrees => agrees.putUnfinished (call.tempPath_isUnfinished attempt) _)
    (fun _ agrees => agrees.putUnfinished (call.tempPath_isUnfinished attempt) _)

theorem discardTemp_agrees (attempt : Nat) :
    Keeps (Agrees start) (Agrees start) (Agrees start) (call.discardTemp attempt) :=
  keeps_step (fun _ agrees => agrees.removeUnfinished (call.tempPath_isUnfinished attempt))
    (fun _ agrees => agrees.removeUnfinished (call.tempPath_isUnfinished attempt))

/-- Writing the marker puts it in place at its last step, or not at all. -/
theorem writeMarker_course (marker : Marker) :
    Keeps (Agrees start)
      (fun files => Agrees start files ∨
        Agrees (start.put call.markerPath (.marker marker)) files)
      (fun files => match call.markerWrite.error with
        | some _ => Agrees start files
        | none => Agrees (start.put call.markerPath (.marker marker)) files)
      (call.writeMarker marker) := by
  unfold writeMarker
  cases call.markerWrite with
  | notReserved error => exact keeps_skip fun _ agrees => agrees
  | notWritten attempt error =>
      exact keeps_before (keeps_seq (call.reserveTemp_agrees attempt) (call.discardTemp_agrees attempt)) _
  | notPublished attempt error =>
      exact keeps_before (keeps_seq (call.reserveTemp_agrees attempt)
        (keeps_seq (call.fillTemp_agrees attempt marker) (call.discardTemp_agrees attempt))) _
  | done attempt =>
      have published (files : Files) (agrees : Agrees start files) :
          Agrees (start.put call.markerPath (.marker marker))
            ((files.remove (call.tempPath attempt)).put call.markerPath (.marker marker)) :=
        (agrees.removeUnfinished (call.tempPath_isUnfinished attempt)).put call.markerPath _
      exact keeps_seq (keeps_before (call.reserveTemp_agrees attempt) _)
        (keeps_seq (keeps_before (call.fillTemp_agrees attempt marker) _)
          (keeps_step (fun files agrees => Or.inr (published files agrees)) published))

/-- What a planned call does: nothing, or the bytes and then the marker. -/
theorem prefetchSteps_course (success : (call.download digest plan).outcome = .ok outcome) :
    Keeps (Agrees start)
      (fun files => Agrees start files ∨ Agrees (call.withBytes digest plan start) files ∨
        Agrees (call.withMarker digest plan outcome start) files)
      (fun files => match call.markerWrite.error with
        | some _ => Agrees (call.withBytes digest plan start) files
        | none => Agrees (call.withMarker digest plan outcome start) files)
      (call.prefetchSteps digest plan) := by
  unfold prefetchSteps
  rw [success]
  exact keeps_seq
    ((call.downloadSteps_succeeded digest success).consequence (fun _ agrees => agrees)
      (fun _ passed => passed.imp_right Or.inl) (fun _ agrees => agrees))
    ((call.writeMarker_course _).consequence (fun _ agrees => agrees)
      (fun _ passed => Or.inr passed) (fun _ ended => ended))

/-- What the marker of a successful download records. -/
theorem vouches_withBytes (planned : prefetchPlan call.artifact call.policy = .ok plan)
    (storable : call.Storable digest) (success : (call.download digest plan).outcome = .ok outcome)
    (start : Files) :
    Vouches digest (call.withBytes digest plan start) call.model call.artifact.artifactId
      (call.marker plan outcome) := by
  have names := prefetchPlan_names planned
  rcases Download.download_verified call.io ⟨none, none⟩ success (storable plan planned) with
    ⟨bytes, landed, completed⟩
  refine ⟨rfl, rfl, names.1, ⟨plan.expectedSha256, names.2, ?_⟩, bytes, ?_, ?_, ?_⟩
  · have verified := completed.verified plan.expectedSha256 rfl
    rw [← completed.sha256] at verified
    exact verified
  · have isDownloaded : call.downloaded digest plan = bytes :=
      congrArg (Option.getD · []) landed
    unfold withBytes
    rw [isDownloaded]
    exact Function.update_self _ _ start
  · exact completed.length plan.sizeBytes rfl
  · exact completed.sha256.symm

/-- A call that does anything has found no marker and made a plan. -/
theorem steps_shape (files : Files) : call.steps digest files = [] ∨
    (files call.markerPath = none ∧ exists plan,
      prefetchPlan call.artifact call.policy = .ok plan ∧
      call.steps digest files = call.prefetchSteps digest plan files) := by
  unfold steps
  by_cases idle : (!call.policy.allowArtifactDownload || (files call.markerPath).isSome) = true
  · rw [if_pos idle]
    exact Or.inl rfl
  · rw [if_neg idle]
    cases planned : prefetchPlan call.artifact call.policy with
    | error message => exact Or.inl rfl
    | ok plan =>
      have unmarked : files call.markerPath = none := by
        cases marked : files call.markerPath with
        | none => rfl
        | some content => simp [marked] at idle
      exact Or.inr ⟨unmarked, plan, rfl, rfl⟩

/-- No call leaves a marker that lies, however far it gets. -/
theorem steps_sound (storable : call.Storable digest) {files : Files}
    (before : Sound digest calls files) :
    forall state, state ∈ call.steps digest files -> Sound digest (calls ++ [call]) state := by
  intro state member
  have sound := before.later call
  rcases call.steps_shape digest files with idle | ⟨unmarked, plan, planned, same⟩
  · rw [idle] at member
    exact absurd member List.not_mem_nil
  · rw [same] at member
    cases result : (call.download digest plan).outcome with
    | error error =>
      unfold prefetchSteps at member
      rw [result] at member
      have course : Keeps (Agrees files) (Agrees files) (Agrees files)
          (call.downloadSteps digest plan) := call.downloadSteps_failed digest result
      exact sound.of_agrees (course.passes files (Agrees.refl files) state member)
    | ok outcome =>
      have withBytes : Sound digest (calls ++ [call]) (call.withBytes digest plan files) :=
        sound.putBytes unmarked _
      have withMarker : Sound digest (calls ++ [call])
          (call.withMarker digest plan outcome files) :=
        withBytes.putMarker (call.vouches_withBytes digest planned storable result files)
          ⟨calls, call, [], rfl, plan, outcome, planned, result, rfl⟩
      rcases (call.prefetchSteps_course digest result).passes files (Agrees.refl files) state
        member with early | landed | marked
      · exact sound.of_agrees early
      · exact withBytes.of_agrees landed
      · exact withMarker.of_agrees marked

end Call

/-! ## Histories -/

/-- A call, and the number of file steps it is stopped after, if it is. -/
structure Run where
  call : Call
  stop : Option Nat

def Run.files (digest : Bytes -> String) (run : Run) (start : Files) : Files :=
  match run.stop with
  | none => (run.call.steps digest).last start
  | some steps => (run.call.steps digest).stoppedAfter steps start

/-- The files a history of calls leaves. -/
def after (digest : Bytes -> String) (history : List Run) : Files :=
  history.foldl (fun files run => run.files digest files) Files.empty

theorem Run.files_sound {run : Run} (storable : run.call.Storable digest) {start : Files}
    (sound : Sound digest calls start) :
    Sound digest (calls ++ [run.call]) (run.files digest start) := by
  have passes := run.call.steps_sound digest storable sound
  unfold Run.files
  cases run.stop with
  | none =>
    rcases last_mem_or_nil (run.call.steps digest) start with member | same
    · exact passes _ member
    · dsimp only
      rw [same]
      exact sound.later run.call
  | some steps =>
    rcases stoppedAfter_mem (run.call.steps digest) steps start with same | member
    · dsimp only
      rw [same]
      exact sound.later run.call
    · exact passes _ member

theorem after_sound (history : List Run)
    (storable : forall run, run ∈ history -> run.call.Storable digest) :
    Sound digest (history.map Run.call) (after digest history) := by
  induction history using List.reverseRecOn with
  | nil => exact sound_empty
  | append_singleton history run ih =>
      rw [after, List.foldl_append, List.map_append]
      refine Run.files_sound (storable run (List.mem_append_right _ List.mem_cons_self)) ?_
      exact ih fun earlier member => storable earlier (List.mem_append_left _ member)

/-- A call changes neither a marker nor the bytes of an artifact, at any of its
steps. -/
def Call.ChangesNothing (digest : Bytes -> String) (call : Call) (files : Files) : Prop :=
  forall state, state ∈ call.steps digest files -> forall model artifactId,
    state (modelArtifactCacheMarkerPath model artifactId) =
      files (modelArtifactCacheMarkerPath model artifactId) ∧
    state (artifactBytesPathForMarker (modelArtifactCacheMarkerPath model artifactId)) =
      files (artifactBytesPathForMarker (modelArtifactCacheMarkerPath model artifactId))

/-- Every one of the calls gave the artifact of this call the size and the digest
it has here. -/
def Call.SameRecord (call : Call) (calls : List Call) : Prop :=
  forall other, other ∈ calls -> other.model = call.model ->
    other.artifact.artifactId = call.artifact.artifactId ->
    other.artifact.sizeBytes = call.artifact.sizeBytes ∧
      validSha256 other.artifact = validSha256 call.artifact

/-- The bytes next to the marker are those the record of the call names. -/
def Call.HasOwnBytes (digest : Bytes -> String) (call : Call) (files : Files) : Prop :=
  exists bytes expected, files call.bytesPath = some (.bytes bytes) ∧
    call.artifact.sizeBytes = some bytes.length ∧ validSha256 call.artifact = some expected ∧
    eqIgnoreAsciiCase (digest bytes) expected = true

/-- What the answers of a call are worth, in the files that earlier calls left. -/
structure Call.Truthful (digest : Bytes -> String) (calls : List Call) (call : Call)
    (files : Files) : Prop where
  prefetched : forall value, call.answer digest files = .ok value -> value.status = "prefetched" ->
    exists marker, (call.steps digest).last files call.markerPath = some (.marker marker) ∧
      marker.artifact = call.artifact ∧
      Vouches digest ((call.steps digest).last files) call.model call.artifact.artifactId marker
  cached : forall value, call.answer digest files = .ok value -> value.status = "cached" ->
    call.steps digest files = [] ∧
    exists marker, files call.markerPath = some (.marker marker) ∧
      Vouches digest files call.model call.artifact.artifactId marker ∧
      exists earlier writer later, calls = earlier ++ writer :: later ∧
        writer.Writes digest marker ∧
        (call.SameRecord (writer :: later) -> call.HasOwnBytes digest files)
  refused : forall value, call.answer digest files = .ok value ->
    value.status = "blocked" ∨ value.status = "source_policy_required" ->
    call.steps digest files = []
  failed : forall plan error, prefetchPlan call.artifact call.policy = .ok plan ->
    (call.download digest plan).outcome = .error error -> call.ChangesNothing digest files

namespace Call

variable {call : Call} {files : Files}

/-- The four ways a call goes, with the status of the answer. -/
inductive Course (digest : Bytes -> String) (call : Call) (files : Files) : Prop where
  | unapproved (value : PrefetchValue) (answered : call.answer digest files = .ok value)
      (status : value.status = "source_policy_required") (idle : call.steps digest files = [])
  | found (value : PrefetchValue) (answered : call.answer digest files = .ok value)
      (status : value.status = "cached") (idle : call.steps digest files = [])
      (marked : (files call.markerPath).isSome)
  | refused (value : PrefetchValue) (answered : call.answer digest files = .ok value)
      (status : value.status = "blocked") (idle : call.steps digest files = [])
  | planned (plan : PrefetchPlan) (isPlan : prefetchPlan call.artifact call.policy = .ok plan)
      (answered : call.answer digest files =
        call.prefetchAnswer digest plan ((call.steps digest).last files))
      (taken : call.steps digest files = call.prefetchSteps digest plan files)

theorem course (digest : Bytes -> String) (call : Call) (files : Files) :
    call.Course digest files := by
  cases approved : call.policy.allowArtifactDownload with
  | false =>
    refine .unapproved _ (if_pos (by rw [approved]; rfl)) rfl ?_
    exact if_pos (by rw [approved]; rfl)
  | true =>
    have goesOn : ¬ (!call.policy.allowArtifactDownload) = true := by
      rw [approved]
      decide
    cases marked : (files call.markerPath).isSome with
    | true =>
      refine .found _ ((if_neg goesOn).trans (if_pos marked)) rfl ?_ marked
      exact if_pos (by rw [marked, Bool.or_true])
    | false =>
      have unmarked : ¬ (files call.markerPath).isSome = true := by
        rw [marked]
        decide
      have active : ¬ (!call.policy.allowArtifactDownload || (files call.markerPath).isSome) = true := by
        rw [approved, marked]
        decide
      cases planned : prefetchPlan call.artifact call.policy with
      | error message =>
        refine .refused (call.unchanged files "blocked" message) ?_ rfl ?_
        · unfold answer
          rw [if_neg goesOn, if_neg unmarked, planned]
        · unfold steps
          rw [if_neg active, planned]
      | ok plan =>
        refine .planned plan planned ?_ ?_
        · unfold answer
          rw [if_neg goesOn, if_neg unmarked, planned]
        · unfold steps
          rw [if_neg active, planned]

variable {value : PrefetchValue}

theorem prefetchAnswer_ok {digest : Bytes -> String} {plan : PrefetchPlan}
    (answered : call.prefetchAnswer digest plan files = .ok value) :
    value.status = "prefetched" ∧
      (exists outcome, (call.download digest plan).outcome = .ok outcome) ∧
      call.markerWrite.error = none := by
  unfold prefetchAnswer at answered
  cases result : (call.download digest plan).outcome with
  | error error => rw [result] at answered; cases answered
  | ok outcome =>
    rw [result] at answered
    cases written : call.markerWrite.error with
    | some error => rw [written] at answered; cases answered
    | none =>
      rw [written] at answered
      cases answered
      exact ⟨rfl, ⟨outcome, rfl⟩, rfl⟩

/-- A status that is not among the statuses of answers without a download comes
of one. -/
theorem prefetchAnswer_status {digest : Bytes -> String} {plan : PrefetchPlan} {status : String}
    (answered : call.prefetchAnswer digest plan files = .ok value)
    (hasStatus : value.status = status) (other : status ≠ "prefetched") : False :=
  other (hasStatus.symm.trans (prefetchAnswer_ok answered).1)

/-- A planned call that answers has put the marker in place. -/
theorem prefetchSteps_marked {plan : PrefetchPlan}
    (planned : prefetchPlan call.artifact call.policy = .ok plan) (storable : call.Storable digest)
    (answered : call.prefetchAnswer digest plan ((call.prefetchSteps digest plan).last files) =
      .ok value) :
    exists marker, (call.prefetchSteps digest plan).last files call.markerPath =
        some (.marker marker) ∧ marker.artifact = call.artifact ∧
      Vouches digest ((call.prefetchSteps digest plan).last files) call.model
        call.artifact.artifactId marker := by
  rcases prefetchAnswer_ok answered with ⟨_, ⟨outcome, success⟩, written⟩
  have ended := (call.prefetchSteps_course digest success).ends files (Agrees.refl files)
  rw [written] at ended
  have vouches := call.vouches_withBytes digest planned storable success files
  refine ⟨call.marker plan outcome, ?_, rfl, ?_⟩
  · have atMarker := ended call.markerPath
      (markerPath_finished call.model call.artifact.artifactId)
    exact atMarker.trans (Function.update_self call.markerPath _ _)
  · have atBytes := ended call.bytesPath (bytesPath_finished call.model call.artifact.artifactId)
    have apart : call.bytesPath ≠ call.markerPath :=
      (markerPath_ne_bytesPath call.model call.artifact.artifactId call.model
        call.artifact.artifactId).symm
    have kept : call.withMarker digest plan outcome files call.bytesPath =
        call.withBytes digest plan files call.bytesPath := by
      unfold withMarker Files.put
      rw [Function.update_of_ne apart]
    exact vouches.of_bytes (atBytes.trans kept)

/-- Where the call that wrote the marker had a record of the same size and digest,
the bytes are those of this call's record. -/
theorem hasOwnBytes {writer : Call} {later : List Call}
    (vouches : Vouches digest files call.model call.artifact.artifactId marker)
    (writes : writer.Writes digest marker) (same : call.SameRecord (writer :: later)) :
    call.HasOwnBytes digest files := by
  rcases writes with ⟨plan, outcome, _, _, rfl⟩
  rcases same writer List.mem_cons_self vouches.forModel vouches.forArtifact with
    ⟨sameSize, sameSha256⟩
  rcases vouches.bytes with ⟨bytes, there, length, isDigest⟩
  rcases vouches.sha256 with ⟨expected, isExpected, agrees⟩
  refine ⟨bytes, expected, there, ?_, sameSha256 ▸ isExpected, isDigest ▸ agrees⟩
  rw [← sameSize, length]
  exact vouches.size

/-- What a call answers is true of files whose markers tell the truth. -/
theorem truthful (sound : Sound digest calls files) (storable : call.Storable digest) :
    call.Truthful digest calls files := by
  constructor
  · intro value answered status
    cases call.course digest files with
    | unapproved other otherAnswered otherStatus _
    | found other otherAnswered otherStatus _ _
    | refused other otherAnswered otherStatus _ =>
        have same := Except.ok.inj (answered.symm.trans otherAnswered)
        rw [same, otherStatus] at status
        exact absurd status (by decide)
    | planned plan isPlan otherAnswered taken =>
        have same : (call.steps digest).last files = (call.prefetchSteps digest plan).last files :=
          congrArg (List.getLastD · files) taken
        rw [otherAnswered, same] at answered
        rw [same]
        exact prefetchSteps_marked isPlan storable answered
  · intro value answered status
    cases call.course digest files with
    | unapproved other otherAnswered otherStatus _
    | refused other otherAnswered otherStatus _ =>
        have same := Except.ok.inj (answered.symm.trans otherAnswered)
        rw [same, otherStatus] at status
        exact absurd status (by decide)
    | found _ _ _ idle marked =>
        rcases Option.isSome_iff_exists.mp marked with ⟨content, isContent⟩
        rcases sound call.model call.artifact.artifactId content isContent with
          ⟨marker, isMarker, vouches, earlier, writer, later, whole, writes⟩
        exact ⟨idle, marker, isMarker ▸ isContent, vouches, earlier, writer, later, whole, writes,
          hasOwnBytes vouches writes⟩
    | planned plan isPlan otherAnswered _ =>
        rw [otherAnswered] at answered
        exact (prefetchAnswer_status answered status (by decide)).elim
  · intro value answered status
    cases call.course digest files with
    | unapproved _ _ _ idle | found _ _ _ idle _ | refused _ _ _ idle => exact idle
    | planned plan isPlan otherAnswered _ =>
        rw [otherAnswered] at answered
        rcases status with isBlocked | isUnapproved
        · exact (prefetchAnswer_status answered isBlocked (by decide)).elim
        · exact (prefetchAnswer_status answered isUnapproved (by decide)).elim
  · intro plan error isPlan failed state member model artifactId
    cases call.course digest files with
    | unapproved _ _ _ idle | found _ _ _ idle _ | refused _ _ _ idle =>
        rw [idle] at member
        exact absurd member List.not_mem_nil
    | planned other isOther _ taken =>
        have same : other = plan := Except.ok.inj (isOther.symm.trans isPlan)
        rw [taken, same] at member
        unfold prefetchSteps at member
        rw [failed] at member
        have course : Keeps (Agrees files) (Agrees files) (Agrees files)
            (call.downloadSteps digest plan) := call.downloadSteps_failed digest failed
        have agrees := course.passes files (Agrees.refl files) state member
        exact ⟨agrees _ (markerPath_finished model artifactId),
          agrees _ (bytesPath_finished model artifactId)⟩

end Call

/-- Over any history, an artifact that a call has downloaded is the one its
record names, and one it finds is the one that the record of an earlier call
named, which downloaded it. -/
theorem cache_vouches (digest : Bytes -> String) (history : List Run)
    (storable : forall run, run ∈ history -> run.call.Storable digest) (call : Call)
    (callStorable : call.Storable digest) :
    call.Truthful digest (history.map Run.call) (after digest history) ∧
      forall model artifactId otherModel otherId,
        modelArtifactCacheMarkerPath model artifactId ≠
            artifactBytesPathForMarker (modelArtifactCacheMarkerPath otherModel otherId) ∧
          (modelArtifactCacheMarkerPath model artifactId =
              modelArtifactCacheMarkerPath otherModel otherId ∨
            artifactBytesPathForMarker (modelArtifactCacheMarkerPath model artifactId) =
              artifactBytesPathForMarker (modelArtifactCacheMarkerPath otherModel otherId) ->
            model = otherModel ∧ artifactId = otherId) := by
  refine ⟨Call.truthful (after_sound history storable) callStorable, ?_⟩
  intro model artifactId otherModel otherId
  refine ⟨markerPath_ne_bytesPath model artifactId otherModel otherId, ?_⟩
  rintro (sameMarker | sameBytes)
  · exact markerPath_injective sameMarker
  · exact bytesPath_injective sameBytes

/-! ## A record that was replaced -/

/-- SHA-256 on what the calls below transfer. -/
def sampleDigest (bytes : Bytes) : String :=
  if bytes = [97, 98] then "fb8e20fc2e4c3f248c60c39bd652f3c1347298bb977b8b4d5903b85055620603"
  else if bytes = [97, 98, 99] then
    "ba7816bf8f01cfea414140de5dae2223b00361a396177a9cb410ff61f20015ad"
  else ""

def sampleRecord (sha256 : String) (size : Nat) : ModelRecipeArtifactRecord where
  artifactId := "weights"
  kind := "url"
  uri := "https://models.example/weights"
  sha256 := some sha256
  sizeBytes := some size
  gated := none
  sourcePolicy := none

/-- A call under a record, with a server that sends two bytes. -/
def sampleCall (record : ModelRecipeArtifactRecord) : Call where
  artifactRef := "weights"
  model := "tiny"
  artifact := record
  policy := ⟨true, none, false, none⟩
  pid := 7
  now := 0
  io := ⟨none, fun _ => .response ⟨200, some "2", none, [[97, 98]], .closed⟩,
    fun _ => .allDone, none⟩
  transferring := [[97], [97, 98]]
  markerWrite := .done 0

def firstRecord : ModelRecipeArtifactRecord :=
  sampleRecord "fb8e20fc2e4c3f248c60c39bd652f3c1347298bb977b8b4d5903b85055620603" 2

def laterRecord : ModelRecipeArtifactRecord :=
  sampleRecord "ba7816bf8f01cfea414140de5dae2223b00361a396177a9cb410ff61f20015ad" 3

/-- The bytes of the first record are cached under the later one. -/
theorem replaced_record_cached :
    validSha256 laterRecord =
        some "ba7816bf8f01cfea414140de5dae2223b00361a396177a9cb410ff61f20015ad" ∧
      laterRecord.sizeBytes = some 3 ∧
      ((sampleCall laterRecord).answer sampleDigest
          (after sampleDigest [⟨sampleCall firstRecord, none⟩])).toOption.map
        PrefetchValue.status = some "cached" ∧
      after sampleDigest [⟨sampleCall firstRecord, none⟩] (sampleCall laterRecord).bytesPath =
        some (.bytes [97, 98]) := by
  decide +kernel

theorem Call.storable_of_plan {call : Call} {plan : PrefetchPlan}
    (planned : prefetchPlan call.artifact call.policy = .ok plan)
    (countable : Download.Countable (call.download digest plan).partSizes) :
    call.Storable digest := by
  intro other isOther
  rw [Except.ok.inj (isOther.symm.trans planned)]
  exact countable

theorem firstRecord_storable : (sampleCall firstRecord).Storable sampleDigest := by
  have valid : validSha256 firstRecord =
      some "fb8e20fc2e4c3f248c60c39bd652f3c1347298bb977b8b4d5903b85055620603" := by decide +kernel
  have declared : declaredSourcePolicyBlockMessage firstRecord = none := by decide +kernel
  have kind : kindBlockMessage firstRecord = none := by decide +kernel
  have source : sourcePolicyOf firstRecord ⟨true, none, false, none⟩ =
      .ok ("explicit_allow_artifact_download", none) := by decide +kernel
  have planned : prefetchPlan firstRecord ⟨true, none, false, none⟩ =
      .ok ⟨"explicit_allow_artifact_download", none,
        "fb8e20fc2e4c3f248c60c39bd652f3c1347298bb977b8b4d5903b85055620603", 2, 2⟩ := by
    rw [prefetchPlan, declared, kind, source, valid]
    rfl
  refine Call.storable_of_plan planned ?_
  unfold Download.Countable
  decide +kernel

/-- The first call downloads its artifact, and the second finds it. -/
theorem cache_vouches_again :
    (sampleCall firstRecord).Truthful sampleDigest [] (after sampleDigest []) ∧
      (sampleCall firstRecord).Truthful sampleDigest [sampleCall firstRecord]
        (after sampleDigest [⟨sampleCall firstRecord, none⟩]) := by
  refine ⟨(cache_vouches sampleDigest [] ?_ _ firstRecord_storable).1,
    (cache_vouches sampleDigest [⟨sampleCall firstRecord, none⟩] ?_ _ firstRecord_storable).1⟩
  · intro run member
    exact absurd member List.not_mem_nil
  · intro run member
    rw [List.mem_singleton.mp member]
    exact firstRecord_storable

end ModelCatalog
end RocmCli
