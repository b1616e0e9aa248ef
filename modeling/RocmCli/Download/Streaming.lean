import RocmCli.Download.Attempt

namespace RocmCli
namespace Download

open JsonlStore
open Text

/-!
# A download over its attempts

The `.part` file is shared by up to three attempts.  What makes resuming safe
is one invariant: between attempts it holds a prefix of the artifact, no longer
than the size limit.  An attempt keeps that invariant unless a server answers a
request that named no range with a slice from the middle.  That answer is taken
for the whole artifact, since the offset is only checked when a range was asked
for; the last section shows what comes of it.
-/

/-- An attempt sends no range unless there is something to continue.  This is
what a `206` answer to such a request has to satisfy. -/
def startsWhereAsked (part : Option Bytes) : Reply -> Bool
  | .response response =>
      !(response.status == 206 && (part.getD []).isEmpty) ||
        contentRangeStart response == some 0
  | _ => true

/-! ## The whole download -/

/-- The two files a download touches. -/
structure Files where
  destination : Option Bytes
  part : Option Bytes
  deriving DecidableEq, Repr

/-- The answers to a whole download: one reply, and the local file system's
answers, for each attempt. -/
structure DownloadIo where
  createParent : Option ErrorChain
  replies : (attempt : Nat) -> Reply
  localIo : (attempt : Nat) -> LocalIo
  rename : Option String

structure DownloadResult where
  outcome : Except ErrorChain DownloadOutcome
  files : Files
  reports : List (Nat × Option Nat)
  partSizes : List Nat

def downloadMaxAttempts : Nat := 3

/-- Reports as the caller sees them: never below the highest so far. -/
def monotonicProgress : (highWater : Nat) -> List (Nat × Option Nat) ->
    List (Nat × Option Nat)
  | _, [] => []
  | highWater, (written, total) :: rest =>
      (max highWater written, total) :: monotonicProgress (max highWater written) rest

/-- The attempts from number `attempt` on, with `left` more retries allowed.
Returns the last attempt, with the reports and `.part` sizes of all of them. -/
def downloadAttempts (digest : Bytes -> String) (request : DownloadRequest)
    (io : DownloadIo) : (left : Nat) -> (attempt : Nat) -> Option Bytes -> AttemptResult
  | 0, attempt, part =>
      downloadAttempt digest request (io.localIo attempt) (io.replies attempt) part
  | left + 1, attempt, part =>
      let result :=
        downloadAttempt digest request (io.localIo attempt) (io.replies attempt) part
      match result.outcome with
      | .ok _ => result
      | .error error =>
          if error.retryable then
            let later := downloadAttempts digest request io left (attempt + 1) result.part
            { later with
              reports := result.reports ++ later.reports
              partSizes := result.partSizes ++ later.partSizes }
          else result

/-- Stream to the destination, retrying transient failures and resuming where
the server allows it. -/
def downloadFileStreamingWithProgress (digest : Bytes -> String) (request : DownloadRequest)
    (io : DownloadIo) (files : Files) : DownloadResult :=
  match io.createParent with
  | some error => ⟨.error error, files, [], []⟩
  | none =>
      let last := downloadAttempts digest request io (downloadMaxAttempts - 1) 1 none
      let reports := monotonicProgress 0 last.reports
      let discarded : Files := { files with part := none }
      match last.outcome with
      | .error error => ⟨.error error.error, discarded, reports, last.partSizes⟩
      | .ok outcome =>
        match io.rename with
        | some error =>
            ⟨.error ((ErrorChain.ofMessage error).context
              (s!"failed to move the completed download into {request.destinationPath}")),
              discarded, reports, last.partSizes⟩
        | none => ⟨.ok outcome, ⟨last.part, none⟩, reports, last.partSizes⟩

/-! ## Servers that hold the artifact -/

/-- What is to be downloaded.  Its length is a file length. -/
structure Artifact where
  bytes : Bytes
  fits : bytes.length ≤ maxU64

/-- The reply comes from a server that holds the artifact: a failure, the whole
from its start, or a slice from any offset, with the headers to match and any
part of the body before the transfer ends. -/
def Serves (artifact : Artifact) : Reply -> Prop
  | .transport _ => True
  | .errorStatus _ => True
  | .response response =>
      (response.status = 200 ∧ headerU64 response.contentLength = some artifact.bytes.length ∧
        response.chunks.flatten <+: artifact.bytes) ∨
      (response.status = 206 ∧ exists start, start ≤ artifact.bytes.length ∧
        contentRangeStart response = some start ∧
        headerU64 response.contentLength = some (artifact.bytes.length - start) ∧
        response.chunks.flatten <+: artifact.bytes.drop start)

/-- What the `.part` file may hold. -/
structure PartSound (artifact : Artifact) (request : DownloadRequest) (part : Bytes) : Prop where
  isPrefix : part <+: artifact.bytes
  small : forall maxBytes, request.maxBytes = some maxBytes -> part.length ≤ maxBytes

/-- Every length the file had was within the limit. -/
def SizesSound (request : DownloadRequest) (sizes : List Nat) : Prop :=
  forall maxBytes, request.maxBytes = some maxBytes ->
    forall size, size ∈ sizes -> size ≤ maxBytes

structure AttemptSound (digest : Bytes -> String) (artifact : Artifact)
    (request : DownloadRequest) (result : AttemptResult) : Prop where
  part : PartSound artifact request (result.part.getD [])
  sizes : SizesSound request result.partSizes
  whole : forall outcome, result.outcome = .ok outcome ->
    result.part = some artifact.bytes ∧
      outcome = ⟨artifact.bytes.length, digest artifact.bytes⟩

variable {digest : Bytes -> String} {artifact : Artifact} {request : DownloadRequest}

theorem partSound_nil (artifact : Artifact) (request : DownloadRequest) :
    PartSound artifact request [] :=
  ⟨List.nil_prefix, fun _ _ => Nat.zero_le _⟩

theorem sizesSound_append {early late : List Nat} (first : SizesSound request early)
    (second : SizesSound request late) : SizesSound request (early ++ late) := by
  intro maxBytes limit size member
  rcases List.mem_append.mp member with early | late
  · exact first maxBytes limit size early
  · exact second maxBytes limit size late

theorem sizesSound_concat {sizes : List Nat} (sound : SizesSound request sizes) {part : Bytes}
    (partSound : PartSound artifact request part) :
    SizesSound request (sizes ++ [part.length]) := by
  apply sizesSound_append sound
  intro maxBytes limit size member
  rw [List.mem_singleton.mp member]
  exact partSound.small maxBytes limit

/-- An attempt that failed before it read a body. -/
theorem attemptSound_refused (digest : Bytes -> String) (part : Option Bytes)
    (sound : PartSound artifact request (part.getD [])) (error : DownloadAttemptError) :
    AttemptSound digest artifact request ⟨.error error, part, [], []⟩ where
  part := sound
  sizes := nofun
  whole := nofun

/-! ## The read loop -/

/-- The transfer's counter and hash agree with what is on disk, which is sound. -/
structure TransferSound (artifact : Artifact) (request : DownloadRequest)
    (transfer : Transfer) : Prop where
  part : PartSound artifact request transfer.part
  sizes : SizesSound request transfer.partSizes

structure TransferCounted (transfer : Transfer) : Prop where
  written : transfer.written = transfer.part.length
  hashed : transfer.hashed = transfer.part

theorem saturatingAdd_eq {left right : Nat} (fits : left + right ≤ maxU64) :
    saturatingAdd left right = left + right :=
  Nat.min_eq_left fits

theorem copyBody_sound (reportedTotal : Option Nat) (io : LocalIo) (bodyEnd : BodyEnd)
    (chunks : List Bytes) (chunk : Nat) (transfer : Transfer)
    (sound : TransferSound artifact request transfer) (counted : TransferCounted transfer)
    (rest : transfer.part ++ chunks.flatten <+: artifact.bytes) :
    TransferSound artifact request
        (copyBody request reportedTotal io bodyEnd chunks chunk transfer).2 ∧
      ((copyBody request reportedTotal io bodyEnd chunks chunk transfer).1 = .ok () ->
        TransferCounted
          (copyBody request reportedTotal io bodyEnd chunks chunk transfer).2) := by
  induction chunks generalizing chunk transfer with
  | nil =>
      cases bodyEnd with
      | closed => exact ⟨sound, fun _ => counted⟩
      | failed error => exact ⟨sound, nofun⟩
  | cons bytes others ih =>
      rw [List.flatten_cons, ← List.append_assoc] at rest
      have grown : transfer.part ++ bytes <+: artifact.bytes :=
        (List.prefix_append _ _).trans rest
      have length : saturatingAdd transfer.written bytes.length =
          (transfer.part ++ bytes).length := by
        have fits := grown.length_le.trans artifact.fits
        rw [List.length_append] at fits ⊢
        rw [counted.written, saturatingAdd_eq fits]
      rw [copyBody]
      split
      next => exact ⟨sound, fun _ => counted⟩
      next =>
        dsimp only
        split
        next => exact ⟨⟨sound.part, sound.sizes⟩, nofun⟩
        next within =>
          have limit : forall maxBytes, request.maxBytes = some maxBytes ->
              (transfer.part ++ bytes).length ≤ maxBytes := by
            intro maxBytes isLimit
            rw [isLimit, length] at within
            simpa using within
          split
          next landed error _ =>
            have cut : transfer.part ++ bytes.take landed <+: transfer.part ++ bytes :=
              (List.prefix_append_right_inj transfer.part).mpr (List.take_prefix _ _)
            have part : PartSound artifact request (transfer.part ++ bytes.take landed) :=
              ⟨cut.trans grown, fun maxBytes isLimit =>
                cut.length_le.trans (limit maxBytes isLimit)⟩
            exact ⟨⟨part, sizesSound_concat sound.sizes part⟩,
              nofun⟩
          next =>
            have part : PartSound artifact request (transfer.part ++ bytes) := ⟨grown, limit⟩
            exact ih _ _ ⟨part, sizesSound_concat sound.sizes part⟩
              ⟨length, by rw [counted.hashed]⟩ rest

/-- A body that continues the file within the artifact ends in a sound attempt. -/
theorem receiveBody_sound (digest : Bytes -> String) (reportedTotal : Option Nat) (io : LocalIo)
    (response : Response) {existing : Bytes} (sound : PartSound artifact request existing)
    (rest : existing ++ response.chunks.flatten <+: artifact.bytes) :
    AttemptSound digest artifact request
      (receiveBody digest request (some artifact.bytes.length) reportedTotal io response
        existing) := by
  have start : SizesSound request ([] ++ [existing.length]) :=
    sizesSound_concat (fun _ _ _ member => absurd member List.not_mem_nil) sound
  have copied := copyBody_sound reportedTotal io response.bodyEnd response.chunks 0
    ⟨existing.length, existing, existing, [(existing.length, reportedTotal)],
      [existing.length]⟩ ⟨sound, start⟩ ⟨rfl, rfl⟩ rest
  unfold receiveBody
  dsimp only
  split
  next error transfer answer =>
    rw [answer] at copied
    exact ⟨copied.1.part, copied.1.sizes, nofun⟩
  next transfer answer =>
    rw [answer] at copied
    have counted := copied.2 rfl
    split
    next => exact ⟨copied.1.part, copied.1.sizes, nofun⟩
    next =>
      unfold checkTransfer
      split
      next => exact ⟨copied.1.part, copied.1.sizes, nofun⟩
      next complete =>
        have lengths : transfer.part.length = artifact.bytes.length := by
          rw [← counted.written]
          simpa using complete
        have whole : transfer.part = artifact.bytes :=
          copied.1.part.isPrefix.eq_of_length lengths
        split
        next => exact ⟨copied.1.part, copied.1.sizes, nofun⟩
        next =>
          dsimp only
          split
          next =>
            exact ⟨partSound_nil artifact request, copied.1.sizes,
              nofun⟩
          next =>
            refine ⟨copied.1.part, copied.1.sizes, ?_⟩
            rintro outcome ⟨⟩
            rw [counted.hashed, counted.written, whole]
            exact ⟨rfl, rfl⟩

/-! ## One attempt, then all of them -/

theorem acceptResponse_sound (digest : Bytes -> String) (io : LocalIo) (response : Response)
    {part : Option Bytes} (sound : PartSound artifact request (part.getD []))
    (serves : Serves artifact (.response response))
    (asked : startsWhereAsked part (.response response) = true)
    (continues : response.status = 206 -> 0 < (part.getD []).length ->
      contentRangeStart response = some (part.getD []).length) :
    AttemptSound digest artifact request
      (acceptResponse digest request io response part) := by
  obtain ⟨existing, existingEq⟩ : exists existing, existing =
      if response.status == 206 && decide (0 < (part.getD []).length) then part.getD []
      else [] := ⟨_, rfl⟩
  -- The total is the artifact's length, and the body continues what is kept.
  have shape : (headerU64 response.contentLength).map (fun len => saturatingAdd len
        (if response.status == 206 && decide (0 < (part.getD []).length)
          then (part.getD []).length else 0)) = some artifact.bytes.length ∧
      PartSound artifact request existing ∧
      existing ++ response.chunks.flatten <+: artifact.bytes := by
    rcases serves with ⟨status, length, body⟩ | ⟨status, start, inside, range, length, body⟩
    · have fresh : existing = [] := by simp [existingEq, status]
      rw [fresh, List.nil_append, length, status]
      exact ⟨congrArg some (saturatingAdd_eq artifact.fits), partSound_nil _ _, body⟩
    · by_cases nothing : (part.getD []).length = 0
      · have empty : part.getD [] = [] := List.eq_nil_of_length_eq_zero nothing
        have fresh : existing = [] := by simp [existingEq, empty]
        have fromZero : start = 0 := by
          rw [startsWhereAsked, status, empty, range] at asked
          simpa using asked
        rw [fresh, List.nil_append, length, status, nothing, fromZero]
        rw [fromZero] at body
        exact ⟨congrArg some (saturatingAdd_eq artifact.fits), partSound_nil _ _, body⟩
      · have positive : 0 < (part.getD []).length := Nat.pos_of_ne_zero nothing
        have resumed : existing = part.getD [] := by simp [existingEq, status, positive]
        have atEnd : start = (part.getD []).length :=
          Option.some.inj (range.symm.trans (continues status positive))
        have front : part.getD [] = artifact.bytes.take start := by
          rw [atEnd]
          exact List.prefix_iff_eq_take.mp sound.isPrefix
        have total : artifact.bytes.length - start + start = artifact.bytes.length :=
          Nat.sub_add_cancel inside
        refine ⟨?_, resumed ▸ sound, ?_⟩
        · rw [length, status, ← atEnd, if_pos (by simpa [atEnd] using positive), Option.map_some,
            saturatingAdd_eq (by rw [total]; exact artifact.fits), total]
        · rw [resumed, front]
          have joined := (List.prefix_append_right_inj (artifact.bytes.take start)).mpr body
          rwa [List.take_append_drop] at joined
  rcases shape with ⟨total, kept, body⟩
  have received := receiveBody_sound digest (some artifact.bytes.length) io response kept body
  have refused := fun error => attemptSound_refused digest part sound (permanent error)
  unfold acceptResponse
  dsimp only
  rw [total, ← existingEq, Option.some_or]
  dsimp only
  split
  · exact refused _
  · split
    · exact refused _
    · split
      · split <;> exact refused _
      · exact received

theorem downloadAttempt_sound (digest : Bytes -> String) (io : LocalIo) (reply : Reply)
    {part : Option Bytes} (sound : PartSound artifact request (part.getD []))
    (serves : Serves artifact reply) (asked : startsWhereAsked part reply = true) :
    AttemptSound digest artifact request (downloadAttempt digest request io reply part) := by
  unfold downloadAttempt
  cases reply with
  | transport error => exact attemptSound_refused digest part sound _
  | errorStatus status => exact attemptSound_refused digest part sound _
  | response response =>
      dsimp only
      split
      next => exact attemptSound_refused digest part sound _
      next =>
        split
        next =>
          exact attemptSound_refused digest none (partSound_nil artifact request) _
        next notMisplaced =>
          apply acceptResponse_sound digest io response sound serves asked
          intro status positive
          simpa [status, positive] using notMisplaced

/-- Every attempt the download makes meets the condition, at the `.part` file
it finds. -/
def AttemptsMeet (digest : Bytes -> String) (request : DownloadRequest) (io : DownloadIo)
    (condition : Option Bytes -> Reply -> Prop) :
    (left : Nat) -> (attempt : Nat) -> Option Bytes -> Prop
  | 0, attempt, part => condition part (io.replies attempt)
  | left + 1, attempt, part =>
      condition part (io.replies attempt) ∧
        let result :=
          downloadAttempt digest request (io.localIo attempt) (io.replies attempt) part
        forall error, result.outcome = .error error -> error.retryable = true ->
          AttemptsMeet digest request io condition left (attempt + 1) result.part

theorem downloadAttempts_sound (digest : Bytes -> String) (io : DownloadIo)
    (serves : forall attempt, Serves artifact (io.replies attempt)) (left attempt : Nat)
    (part : Option Bytes) (sound : PartSound artifact request (part.getD []))
    (asked : AttemptsMeet digest request io
      (fun part reply => startsWhereAsked part reply = true) left attempt part) :
    AttemptSound digest artifact request
      (downloadAttempts digest request io left attempt part) := by
  induction left generalizing attempt part with
  | zero => exact downloadAttempt_sound digest _ _ sound (serves attempt) asked
  | succ left ih =>
      have first := downloadAttempt_sound digest (io.localIo attempt) (io.replies attempt) sound
        (serves attempt) asked.1
      rw [downloadAttempts]
      dsimp only
      split
      next => exact first
      next error failed =>
        split
        next retryable =>
          have later := ih (attempt + 1) _ first.part
            (asked.2 error failed retryable)
          exact ⟨later.part, sizesSound_append first.sizes later.sizes, later.whole⟩
        next => exact first

/-! ## Progress -/

theorem monotonicProgress_above (highWater : Nat) (reports : List (Nat × Option Nat)) :
    forall count, count ∈ (monotonicProgress highWater reports).map Prod.fst ->
      highWater ≤ count := by
  induction reports generalizing highWater with
  | nil => exact nofun
  | cons report rest ih =>
      intro count member
      rw [monotonicProgress, List.map_cons] at member
      rcases List.mem_cons.mp member with here | later
      · rw [here]
        exact Nat.le_max_left _ _
      · exact (Nat.le_max_left _ _).trans (ih _ count later)

/-- The byte counts a caller sees never decrease. -/
theorem monotonicProgress_sorted (highWater : Nat) (reports : List (Nat × Option Nat)) :
    ((monotonicProgress highWater reports).map Prod.fst).Pairwise (fun early late => early ≤ late) := by
  induction reports generalizing highWater with
  | nil => exact List.Pairwise.nil
  | cons report rest ih =>
      rw [monotonicProgress, List.map_cons]
      exact List.Pairwise.cons (monotonicProgress_above _ rest) (ih _)

/-! ## The whole call -/

/-- What a download promises about an artifact. -/
structure KeepsIntegrity (digest : Bytes -> String) (artifact : Artifact)
    (request : DownloadRequest) (before : Files) (result : DownloadResult) : Prop where
  ok : forall outcome, result.outcome = .ok outcome ->
    result.files.destination = some artifact.bytes ∧
      outcome.bytesWritten = artifact.bytes.length ∧ outcome.sha256 = digest artifact.bytes
  failed : forall error, result.outcome = .error error ->
    result.files.destination = before.destination
  partGone : result.files.part = none
  bounded : SizesSound request result.partSizes
  monotone : (result.reports.map Prod.fst).Pairwise (fun early late => early ≤ late)

theorem download_keepsIntegrity (digest : Bytes -> String) (artifact : Artifact)
    (request : DownloadRequest) (io : DownloadIo) (files : Files)
    (folder : io.createParent = none)
    (serves : forall attempt, Serves artifact (io.replies attempt))
    (asked : AttemptsMeet digest request io
      (fun part reply => startsWhereAsked part reply = true) (downloadMaxAttempts - 1) 1 none) :
    KeepsIntegrity digest artifact request files
      (downloadFileStreamingWithProgress digest request io files) := by
  have attempts := downloadAttempts_sound digest io serves (downloadMaxAttempts - 1) 1 none
    (partSound_nil artifact request) asked
  have sorted := monotonicProgress_sorted 0
    (downloadAttempts digest request io (downloadMaxAttempts - 1) 1 none).reports
  unfold downloadFileStreamingWithProgress
  rw [folder]
  dsimp only
  split
  next error _ =>
    exact ⟨nofun, fun _ _ => rfl, rfl, attempts.sizes, sorted⟩
  next outcome success =>
    rcases attempts.whole outcome success with ⟨whole, counted⟩
    split
    next =>
      exact ⟨nofun, fun _ _ => rfl, rfl, attempts.sizes, sorted⟩
    next =>
      refine ⟨?_, nofun, rfl, attempts.sizes, sorted⟩
      rintro result ⟨⟩
      rw [counted]
      exact ⟨whole, rfl, rfl⟩

/-! ## A slice taken for the whole -/

/-- The reply is a whole slice of the artifact from past its start, and nothing
the caller knows or the local system does stands in its way. -/
structure AdoptsSlice (artifact : Artifact) (request : DownloadRequest) (io : LocalIo)
    (response : Response) (start : Nat) : Prop where
  status : response.status = 206
  past : 0 < start
  inside : start ≤ artifact.bytes.length
  range : contentRangeStart response = some start
  length : headerU64 response.contentLength = some (artifact.bytes.length - start)
  body : response.chunks.flatten = artifact.bytes.drop start
  nonempty : forall chunk, chunk ∈ response.chunks -> chunk ≠ []
  closed : response.bodyEnd = .closed
  noLength : request.expectedLen = none
  noDigest : request.expectedSha256 = none
  small : forall maxBytes, request.maxBytes = some maxBytes ->
    artifact.bytes.length - start ≤ maxBytes
  noFaults : io = LocalIo.allDone

/-- Without faults, and within the limit, the read loop takes the whole body. -/
theorem copyBody_complete (request : DownloadRequest) (reportedTotal : Option Nat) (chunks : List Bytes) (chunk : Nat)
    (transfer : Transfer) (counted : TransferCounted transfer)
    (nonempty : forall bytes, bytes ∈ chunks -> bytes ≠ [])
    (fits : (transfer.part ++ chunks.flatten).length ≤ maxU64)
    (small : forall maxBytes, request.maxBytes = some maxBytes ->
      (transfer.part ++ chunks.flatten).length ≤ maxBytes) :
    (copyBody request reportedTotal .allDone .closed chunks chunk transfer).1 = .ok () ∧
      TransferCounted (copyBody request reportedTotal .allDone .closed chunks chunk transfer).2 ∧
      (copyBody request reportedTotal .allDone .closed chunks chunk transfer).2.part =
        transfer.part ++ chunks.flatten := by
  induction chunks generalizing chunk transfer with
  | nil => exact ⟨rfl, counted, by simp [copyBody]⟩
  | cons bytes others ih =>
      rw [List.flatten_cons, ← List.append_assoc] at fits small
      have length : saturatingAdd transfer.written bytes.length =
          (transfer.part ++ bytes).length := by
        rw [List.length_append] at fits
        have within : (transfer.part ++ bytes).length ≤ maxU64 :=
          (Nat.le_add_right _ _).trans fits
        rw [List.length_append] at within ⊢
        rw [counted.written, saturatingAdd_eq within]
      have notEmpty : ¬ bytes.isEmpty = true := by
        simpa using nonempty bytes List.mem_cons_self
      have notOver : ¬ request.maxBytes.any (fun maxBytes =>
          decide (maxBytes < saturatingAdd transfer.written bytes.length)) = true := by
        cases limit : request.maxBytes with
        | none => simp
        | some maxBytes =>
            have bound := small maxBytes limit
            rw [List.length_append] at bound
            rw [length]
            simpa using (Nat.le_add_right _ _).trans bound
      rw [copyBody, if_neg notEmpty]
      dsimp only [LocalIo.allDone]
      rw [if_neg notOver, List.flatten_cons, ← List.append_assoc]
      exact ih _ _ ⟨length, by rw [counted.hashed]⟩
        (fun other member => nonempty other (List.mem_cons_of_mem bytes member)) fits small

/-- Asked for the whole, sent a slice: the slice becomes the download. -/
theorem downloadAttempt_adopts (digest : Bytes -> String) {io : LocalIo} {response : Response}
    {start : Nat} (adopts : AdoptsSlice artifact request io response start) :
    (downloadAttempt digest request io (.response response) none).outcome =
        .ok ⟨artifact.bytes.length - start, digest (artifact.bytes.drop start)⟩ ∧
      (downloadAttempt digest request io (.response response) none).part =
        some (artifact.bytes.drop start) := by
  have fits : artifact.bytes.length - start ≤ maxU64 := (Nat.sub_le _ _).trans artifact.fits
  have copied := copyBody_complete request (some (artifact.bytes.length - start))
    response.chunks 0 ⟨0, [], [], [(0, some (artifact.bytes.length - start))], [0]⟩ ⟨rfl, rfl⟩
    adopts.nonempty (by simpa [adopts.body] using fits)
    (by simpa [adopts.body] using adopts.small)
  rcases result : copyBody request (some (artifact.bytes.length - start)) .allDone .closed
    response.chunks 0 ⟨0, [], [], [(0, some (artifact.bytes.length - start))], [0]⟩ with
    ⟨outcome, transfer⟩
  rw [result] at copied
  rcases copied with ⟨rfl, counted, part⟩
  have slice : transfer.part = artifact.bytes.drop start := by
    rw [part, adopts.body, List.nil_append]
  have written : transfer.written = artifact.bytes.length - start := by
    rw [counted.written, slice, List.length_drop]
  have hashed : transfer.hashed = artifact.bytes.drop start := counted.hashed.trans slice
  have notOver : ¬ request.maxBytes.any (fun maxBytes =>
      decide (maxBytes < artifact.bytes.length - start)) = true := by
    cases limit : request.maxBytes with
    | none => simp
    | some maxBytes => simpa using adopts.small maxBytes limit
  have total : saturatingAdd (artifact.bytes.length - start) 0 =
      artifact.bytes.length - start := saturatingAdd_eq fits
  have received : (receiveBody digest request (some (artifact.bytes.length - start))
      (some (artifact.bytes.length - start)) .allDone response []) =
        ⟨.ok ⟨artifact.bytes.length - start, digest (artifact.bytes.drop start)⟩,
          some (artifact.bytes.drop start), transfer.reports, transfer.partSizes⟩ := by
    unfold receiveBody
    dsimp only [List.length_nil]
    rw [adopts.closed, result]
    simp [LocalIo.allDone, checkTransfer, written, adopts.noLength, adopts.noDigest, slice,
      hashed]
  have accepted : acceptResponse digest request .allDone response none =
      receiveBody digest request (some (artifact.bytes.length - start))
        (some (artifact.bytes.length - start)) .allDone response [] := by
    unfold acceptResponse
    simp only [Option.getD_none, List.length_nil, Nat.lt_irrefl, decide_false, Bool.and_false,
      Bool.false_eq_true, if_false, adopts.length, Option.map_some, total, Option.some_or,
      if_neg notOver, LocalIo.allDone]
  rw [adopts.noFaults, downloadAttempt]
  simp only [adopts.status, Option.getD_none, List.length_nil, Nat.lt_irrefl, decide_false,
    Bool.and_false, Bool.false_and, Bool.false_eq_true, if_false, accepted, received]
  exact ⟨by simp, by simp⟩

theorem download_adopts (digest : Bytes -> String) {io : DownloadIo} (files : Files)
    {response : Response} {start : Nat} (folder : io.createParent = none)
    (published : io.rename = none) (first : io.replies 1 = .response response)
    (adopts : AdoptsSlice artifact request (io.localIo 1) response start) :
    ¬ KeepsIntegrity digest artifact request files
      (downloadFileStreamingWithProgress digest request io files) := by
  intro kept
  rcases downloadAttempt_adopts digest adopts with ⟨success, slice⟩
  rw [← first] at success slice
  have only : downloadAttempts digest request io (downloadMaxAttempts - 1) 1 none =
      downloadAttempt digest request (io.localIo 1) (io.replies 1) none := by
    rw [downloadMaxAttempts, downloadAttempts]
    dsimp only
    rw [success]
  have outcome : (downloadFileStreamingWithProgress digest request io files).outcome =
      .ok ⟨artifact.bytes.length - start, digest (artifact.bytes.drop start)⟩ := by
    unfold downloadFileStreamingWithProgress
    rw [folder]
    dsimp only
    rw [only, success, published]
  have counted := (kept.ok _ outcome).2.1
  have past := adopts.past
  have inside := adopts.inside
  dsimp only at counted
  omega

/-- A download keeps its promises in every run in which a request that named no
range was answered from the start.  It does not when the first answer is a
whole slice from past the start and the caller brought no length and no digest
to check it against. -/
theorem download_integrity (digest : Bytes -> String) (artifact : Artifact)
    (request : DownloadRequest) :
    (forall io files, io.createParent = none ->
      (forall attempt, Serves artifact (io.replies attempt)) ->
      AttemptsMeet digest request io (fun part reply => startsWhereAsked part reply = true)
        (downloadMaxAttempts - 1) 1 none ->
      KeepsIntegrity digest artifact request files
        (downloadFileStreamingWithProgress digest request io files)) ∧
    (forall io files response start, io.createParent = none -> io.rename = none ->
      io.replies 1 = .response response ->
      AdoptsSlice artifact request (io.localIo 1) response start ->
      ¬ KeepsIntegrity digest artifact request files
        (downloadFileStreamingWithProgress digest request io files)) :=
  ⟨fun io files folder serves asked =>
      download_keepsIntegrity digest artifact request io files folder serves asked,
    fun _ files _ _ folder published first adopts =>
      download_adopts digest files folder published first adopts⟩

/-! ## Two bytes -/

def twoBytes : Artifact := ⟨[0x61, 0x62], by decide⟩

def plainRequest : DownloadRequest :=
  ⟨"http://host/a.bin", "a.bin.part-7", "a.bin", none, none, none⟩

/-- The first reply breaks off after a byte, the second continues from there. -/
def resumedIo : DownloadIo where
  createParent := none
  replies
    | 1 => .response ⟨200, some "2", none, [[0x61]], .failed "connection reset"⟩
    | _ => .response ⟨206, some "1", some "bytes 1-1/2", [[0x62]], .closed⟩
  localIo := fun _ => .allDone
  rename := none

theorem download_integrity_resumed :
    KeepsIntegrity (fun _ => "") twoBytes plainRequest ⟨none, some [0x63]⟩
      (downloadFileStreamingWithProgress (fun _ => "") plainRequest resumedIo
        ⟨none, some [0x63]⟩) := by
  refine (download_integrity (fun _ => "") twoBytes plainRequest).1 resumedIo _ rfl ?_ ?_
  · intro attempt
    match attempt with
    | 1 => exact Or.inl (by decide)
    | 0 | _ + 2 => exact Or.inr ⟨rfl, 1, by decide⟩
  · refine ⟨rfl, fun _ _ _ => ⟨by decide, fun _ _ _ => ?_⟩⟩
    show startsWhereAsked _ _ = true
    decide

/-- The first reply is the slice from the second byte on, though no range was
asked for. -/
def slicedIo : DownloadIo where
  createParent := none
  replies := fun _ => .response ⟨206, some "1", some "bytes 1-1/2", [[0x62]], .closed⟩
  localIo := fun _ => .allDone
  rename := none

theorem slicedIo_adopts : AdoptsSlice twoBytes plainRequest .allDone
    ⟨206, some "1", some "bytes 1-1/2", [[0x62]], .closed⟩ 1 where
  status := rfl
  past := by decide
  inside := by decide
  range := by decide
  length := by decide
  body := rfl
  nonempty := by decide
  closed := rfl
  noLength := rfl
  noDigest := rfl
  small := nofun
  noFaults := rfl

/-- The second byte alone is published as the artifact. -/
theorem download_publishes_a_slice :
    (forall attempt, Serves twoBytes (slicedIo.replies attempt)) ∧
      ¬ KeepsIntegrity (fun _ => "") twoBytes plainRequest ⟨none, none⟩
        (downloadFileStreamingWithProgress (fun _ => "") plainRequest slicedIo ⟨none, none⟩) :=
  ⟨fun _ => Or.inr ⟨rfl, 1, by decide⟩,
    download_adopts _ _ rfl rfl rfl slicedIo_adopts⟩

end Download
end RocmCli
