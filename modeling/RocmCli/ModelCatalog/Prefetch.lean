import RocmCli.Download.Streaming
import RocmCli.ModelCatalog.CacheMarker
import RocmCli.ModelCatalog.SourcePolicy
import RocmCli.Support.CrashSteps

namespace RocmCli
namespace ModelCatalog

open Text Crash Crash.Program

/-!
# Prefetching an artifact

The marker alone says that an artifact is cached.  Where there is none, the
bytes are downloaded next to where it will stand and put in place, and only then
is the marker written, with the size and the digest they were checked against.
A call may be stopped between any two of its steps.
-/

abbrev Bytes := JsonlStore.Bytes

/-- The document a marker holds. -/
structure Marker where
  artifactRef : String
  model : String
  artifact : ModelRecipeArtifactRecord
  bytesPath : FilePath
  sizeBytes : Nat
  sha256 : String
  prefetchedAt : Nat
  sourcePolicy : String
  deriving DecidableEq, Repr

inductive Content where
  | bytes (bytes : Bytes)
  | marker (marker : Marker)
  deriving DecidableEq, Repr

/-- The files of the artifacts folder. -/
abbrev Files := FilePath -> Option Content

def Files.empty : Files := fun _ => none

def Files.put (files : Files) (path : FilePath) (content : Content) : Files :=
  Function.update files path (some content)

def Files.remove (files : Files) (path : FilePath) : Files := Function.update files path none

/-! ## Calls -/

/-- How writing a marker beside itself and putting it in place goes, and at
which attempt a temporary file is reserved. -/
inductive MarkerWrite where
  | notReserved (error : ErrorChain)
  | notWritten (attempt : Nat) (error : ErrorChain)
  | notPublished (attempt : Nat) (error : ErrorChain)
  | done (attempt : Nat)

/-- A call, what the servers and the file system answer it, and what its partial
download holds while it is transferred. -/
structure Call where
  artifactRef : String
  model : String
  artifact : ModelRecipeArtifactRecord
  policy : SandboxToolPolicy
  pid : Nat
  now : Nat
  io : Download.DownloadIo
  transferring : List Bytes
  markerWrite : MarkerWrite

namespace Call

variable (digest : Bytes -> String) (call : Call)

def markerPath : FilePath := modelArtifactCacheMarkerPath call.model call.artifact.artifactId

def bytesPath : FilePath := artifactBytesPathForMarker call.markerPath

def partialPath : FilePath := partialDownloadPath call.pid call.bytesPath

def render (path : FilePath) : String := String.ofList (['/'].intercalate path)

def request (plan : PrefetchPlan) : Download.DownloadRequest where
  url := call.artifact.uri
  partialPath := render call.partialPath
  destinationPath := render call.bytesPath
  maxBytes := some plan.maxBytes
  expectedLen := some plan.sizeBytes
  expectedSha256 := some plan.expectedSha256

/-- The download of the bytes; what is at its destination before is of no
concern to it. -/
def download (plan : PrefetchPlan) : Download.DownloadResult :=
  Download.downloadFileStreamingWithProgress digest (call.request plan) call.io ⟨none, none⟩

def marker (plan : PrefetchPlan) (outcome : Download.DownloadOutcome) : Marker where
  artifactRef := call.artifactRef
  model := call.model
  artifact := call.artifact
  bytesPath := call.bytesPath
  sizeBytes := plan.sizeBytes
  sha256 := outcome.sha256
  prefetchedAt := call.now
  sourcePolicy := plan.sourcePolicy

/-! ## Steps -/

/-- Put the completed download in place of its destination. -/
def publishBytes (bytes : Bytes) : Program Files :=
  step fun files => (files.remove call.partialPath).put call.bytesPath (.bytes bytes)

def discardPartial : Program Files := step (·.remove call.partialPath)

def downloadSteps (plan : PrefetchPlan) : Program Files :=
  match call.io.createParent with
  | some _ => skip
  | none =>
      seq call.discardPartial
        (seq (forEach (fun bytes => step (·.put call.partialPath (.bytes bytes)))
            call.transferring)
          (match (call.download digest plan).outcome with
          | .error _ => call.discardPartial
          | .ok _ => call.publishBytes ((call.download digest plan).files.destination.getD [])))

/-- What the temporary file of an attempt is told apart by. -/
def tempSuffix (attempt : Nat) : Name :=
  (toString call.pid).toList ++ '-' :: ((toString call.now).toList ++
    '-' :: (toString attempt).toList)

def tempPath (attempt : Nat) : FilePath :=
  tempSiblingPath (call.tempSuffix attempt) call.markerPath

def reserveTemp (attempt : Nat) : Program Files :=
  step (·.put (call.tempPath attempt) (.bytes []))

def discardTemp (attempt : Nat) : Program Files := step (·.remove (call.tempPath attempt))

def writeMarker (marker : Marker) : Program Files :=
  match call.markerWrite with
  | .notReserved _ => skip
  | .notWritten attempt _ => seq (call.reserveTemp attempt) (call.discardTemp attempt)
  | .notPublished attempt _ =>
      seq (call.reserveTemp attempt)
        (seq (step (·.put (call.tempPath attempt) (.marker marker))) (call.discardTemp attempt))
  | .done attempt =>
      seq (call.reserveTemp attempt)
        (seq (step (·.put (call.tempPath attempt) (.marker marker)))
          (step fun files =>
            (files.remove (call.tempPath attempt)).put call.markerPath (.marker marker)))

/-- What a planned call does with the files. -/
def prefetchSteps (plan : PrefetchPlan) : Program Files :=
  match (call.download digest plan).outcome with
  | .error _ => call.downloadSteps digest plan
  | .ok outcome => seq (call.downloadSteps digest plan) (call.writeMarker (call.marker plan outcome))

def steps : Program Files := fun files =>
  if !call.policy.allowArtifactDownload || (files call.markerPath).isSome then []
  else
    match prefetchPlan call.artifact call.policy with
    | .error _ => []
    | .ok plan => call.prefetchSteps digest plan files

end Call

/-! ## Answers -/

structure ModelArtifactCacheStatus where
  artifactId : String
  status : String
  markerPath : FilePath
  reason : String
  deriving DecidableEq, Repr

def modelArtifactCacheStatus (files : Files) (modelRef : String)
    (artifact : ModelRecipeArtifactRecord) : ModelArtifactCacheStatus :=
  let markerPath := modelArtifactCacheMarkerPath modelRef artifact.artifactId
  if (files markerPath).isSome then
    ⟨artifact.artifactId, "metadata_present", markerPath,
      "rocm-cli artifact cache marker exists; artifact bytes are still engine/source specific"⟩
  else
    ⟨artifact.artifactId, "missing", markerPath,
      "no rocm-cli artifact cache marker; prefetch requires an approved source policy"⟩

/-- What was downloaded. -/
structure Prefetched where
  bytesPath : FilePath
  sizeBytes : Nat
  sha256 : String
  sourcePolicy : String
  deriving DecidableEq, Repr

structure PrefetchValue where
  artifactRef : String
  model : String
  artifact : ModelRecipeArtifactRecord
  cache : ModelArtifactCacheStatus
  status : String
  mutating : Bool
  networkUsed : Bool
  prefetched : Option Prefetched
  message : String
  deriving DecidableEq, Repr

def MarkerWrite.error : MarkerWrite -> Option ErrorChain
  | .notReserved error | .notWritten _ error | .notPublished _ error => some error
  | .done _ => none

namespace Call

variable (digest : Bytes -> String) (call : Call)

/-- An answer without a download. -/
def unchanged (files : Files) (status message : String) : PrefetchValue where
  artifactRef := call.artifactRef
  model := call.model
  artifact := call.artifact
  cache := modelArtifactCacheStatus files call.model call.artifact
  status := status
  mutating := false
  networkUsed := false
  prefetched := none
  message := message

/-- What a planned call answers, from the files it ends with. -/
def prefetchAnswer (plan : PrefetchPlan) (after : Files) : Except ErrorChain PrefetchValue :=
  match (call.download digest plan).outcome with
  | .error error =>
      .error (error.context ("failed to prefetch artifact `" ++ call.artifactRef ++ "`"))
  | .ok outcome =>
    match call.markerWrite.error with
    | some error => .error error
    | none => .ok {
        artifactRef := call.artifactRef
        model := call.model
        artifact := call.artifact
        cache := modelArtifactCacheStatus after call.model call.artifact
        status := "prefetched"
        mutating := true
        networkUsed := true
        prefetched := some ⟨call.bytesPath, plan.sizeBytes, outcome.sha256, plan.sourcePolicy⟩
        message := "artifact downloaded and verified with recipe sha256" }

def answer (files : Files) : Except ErrorChain PrefetchValue :=
  if !call.policy.allowArtifactDownload then
    .ok (call.unchanged files "source_policy_required"
      ("artifact prefetch requires an approved source policy before network access; no " ++
        "artifact bytes were downloaded"))
  else if (files call.markerPath).isSome then
    .ok (call.unchanged files "cached"
      "artifact cache marker already exists; no network request was made")
  else
    match prefetchPlan call.artifact call.policy with
    | .error message => .ok (call.unchanged files "blocked" message)
    | .ok plan => call.prefetchAnswer digest plan ((call.steps digest).last files)

end Call

end ModelCatalog
end RocmCli
