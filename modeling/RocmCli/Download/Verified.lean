import RocmCli.Download.Streaming

namespace RocmCli
namespace Download

open JsonlStore
open Text

/-!
# What a completed download holds

Whatever the server answers, a download that succeeds with a size and a digest
to expect has left bytes of that size and digest.  The counter of bytes is
taken to be right because no file is longer than the counter can say.
-/

variable {digest : Bytes -> String} {request : DownloadRequest}

/-- No file was longer than its length can be told. -/
def Countable (sizes : List Nat) : Prop := forall size, size ∈ sizes -> size ≤ maxU64

/-- What success says about the `.part` file. -/
structure Completed (digest : Bytes -> String) (request : DownloadRequest)
    (outcome : DownloadOutcome) (bytes : Bytes) : Prop where
  sha256 : outcome.sha256 = digest bytes
  length : forall expected, request.expectedLen = some expected -> bytes.length = expected
  verified : forall expected, request.expectedSha256 = some expected ->
    eqIgnoreAsciiCase (digest bytes) expected = true

def AttemptVerified (digest : Bytes -> String) (request : DownloadRequest)
    (result : AttemptResult) : Prop :=
  forall outcome, result.outcome = .ok outcome -> Countable result.partSizes ->
    exists bytes, result.part = some bytes ∧ Completed digest request outcome bytes

theorem attemptVerified_failed (error : DownloadAttemptError) (part : Option Bytes)
    (reports : List (Nat × Option Nat)) (sizes : List Nat) :
    AttemptVerified digest request ⟨.error error, part, reports, sizes⟩ :=
  nofun

theorem copyBody_sizes (reportedTotal : Option Nat) (io : LocalIo) (bodyEnd : BodyEnd)
    (chunks : List Bytes) (chunk : Nat) (transfer : Transfer) :
    transfer.partSizes <+:
      (copyBody request reportedTotal io bodyEnd chunks chunk transfer).2.partSizes := by
  induction chunks generalizing chunk transfer with
  | nil => cases bodyEnd <;> exact List.prefix_rfl
  | cons bytes rest ih =>
      rw [copyBody]
      split
      next => exact List.prefix_rfl
      next =>
        dsimp only
        split
        next => exact List.prefix_rfl
        next =>
          split
          next => exact List.prefix_append _ _
          next =>
            refine List.IsPrefix.trans ?_ (ih (chunk + 1) _)
            exact List.prefix_append _ _

/-- The counter and the hash keep up with the file. -/
theorem copyBody_counted (reportedTotal : Option Nat) (io : LocalIo) (bodyEnd : BodyEnd)
    (chunks : List Bytes) (chunk : Nat) (transfer : Transfer) (counted : TransferCounted transfer)
    (countable : Countable
      (copyBody request reportedTotal io bodyEnd chunks chunk transfer).2.partSizes)
    (finished : (copyBody request reportedTotal io bodyEnd chunks chunk transfer).1 = .ok ()) :
    TransferCounted (copyBody request reportedTotal io bodyEnd chunks chunk transfer).2 := by
  induction chunks generalizing chunk transfer with
  | nil =>
      cases bodyEnd with
      | closed => exact counted
      | failed error => cases finished
  | cons bytes rest ih =>
      rw [copyBody] at countable finished ⊢
      by_cases ended : bytes.isEmpty = true
      · rw [if_pos ended]
        exact counted
      · rw [if_neg ended] at countable finished ⊢
        dsimp only at countable finished ⊢
        split at finished
        next => cases finished
        next within =>
          rw [if_neg within] at countable ⊢
          cases wrote : io.write chunk with
          | some failure => rw [wrote] at finished; cases finished
          | none =>
            rw [wrote] at countable finished
            dsimp only at countable finished
            have fits : (transfer.part ++ bytes).length ≤ maxU64 := by
              apply countable
              refine (copyBody_sizes reportedTotal io bodyEnd rest (chunk + 1) _).subset ?_
              exact List.mem_append_right _ (List.mem_singleton.mpr rfl)
            refine ih (chunk + 1) _ ⟨?_, ?_⟩ countable finished
            · rw [List.length_append] at fits ⊢
              rw [counted.written, saturatingAdd_eq fits]
            · rw [counted.hashed]

theorem checkTransfer_verified (totalLen : Option Nat) {transfer : Transfer}
    (counted : TransferCounted transfer) {outcome : DownloadOutcome}
    (passed : (checkTransfer digest request totalLen transfer).1 = .ok outcome) :
    exists bytes, (checkTransfer digest request totalLen transfer).2 = some bytes ∧
      Completed digest request outcome bytes := by
  unfold checkTransfer at passed ⊢
  split at passed
  next => cases passed
  next complete =>
    rw [if_neg complete]
    split at passed
    next => cases passed
    next sized =>
      rw [if_neg sized]
      dsimp only at passed ⊢
      split at passed
      next => cases passed
      next matching =>
        rw [if_neg matching]
        cases passed
        rw [counted.hashed] at matching ⊢
        refine ⟨transfer.part, rfl, rfl, ?_, ?_⟩
        · intro expected isExpected
          rw [isExpected, counted.written] at sized
          simpa using sized
        · intro expected isExpected
          rw [isExpected] at matching
          simpa using matching

theorem receiveBody_verified (totalLen reportedTotal : Option Nat) (io : LocalIo)
    (response : Response) (existing : Bytes) :
    AttemptVerified digest request
      (receiveBody digest request totalLen reportedTotal io response existing) := by
  intro outcome success countable
  unfold receiveBody at success countable ⊢
  dsimp only at success countable ⊢
  have counted := @copyBody_counted request reportedTotal io response.bodyEnd
    response.chunks 0 ⟨existing.length, existing, existing, [(existing.length, reportedTotal)],
      [existing.length]⟩ ⟨rfl, rfl⟩
  rcases copied : copyBody request reportedTotal io response.bodyEnd response.chunks 0
    ⟨existing.length, existing, existing, [(existing.length, reportedTotal)],
      [existing.length]⟩ with ⟨answer, transfer⟩
  rw [copied] at success countable counted
  cases answer with
  | error error => cases success
  | ok _ =>
    cases synced : io.sync with
    | some error => rw [synced] at success; cases success
    | none =>
      rw [synced] at success countable
      exact checkTransfer_verified totalLen (counted countable rfl) success

theorem acceptResponse_verified (io : LocalIo) (response : Response) (part : Option Bytes) :
    AttemptVerified digest request (acceptResponse digest request io response part) := by
  unfold acceptResponse
  dsimp only
  split
  next =>
    split
    next => split <;> exact attemptVerified_failed _ _ _ _
    next => exact receiveBody_verified _ _ io response _
  next =>
    split
    next => exact attemptVerified_failed _ _ _ _
    next =>
      split
      next => exact attemptVerified_failed _ _ _ _
      next =>
        split
        next => split <;> exact attemptVerified_failed _ _ _ _
        next => exact receiveBody_verified _ _ io response _

theorem downloadAttempt_verified (io : LocalIo) (reply : Reply) (part : Option Bytes) :
    AttemptVerified digest request (downloadAttempt digest request io reply part) := by
  unfold downloadAttempt
  cases reply with
  | transport error => exact attemptVerified_failed _ _ _ _
  | errorStatus status => exact attemptVerified_failed _ _ _ _
  | response response =>
      dsimp only
      split
      next => exact attemptVerified_failed _ _ _ _
      next =>
        split
        next => exact attemptVerified_failed _ _ _ _
        next => exact acceptResponse_verified io response part

theorem downloadAttempts_verified (io : DownloadIo) (left attempt : Nat) (part : Option Bytes) :
    AttemptVerified digest request (downloadAttempts digest request io left attempt part) := by
  induction left generalizing attempt part with
  | zero => exact downloadAttempt_verified _ _ part
  | succ left ih =>
      have first := @downloadAttempt_verified digest request (io.localIo attempt)
        (io.replies attempt) part
      rw [downloadAttempts]
      dsimp only
      split
      next => exact first
      next =>
        split
        next =>
          intro outcome success countable
          have later := ih (attempt + 1)
            (downloadAttempt digest request (io.localIo attempt) (io.replies attempt) part).part
          exact later outcome success fun size member =>
            countable size (List.mem_append_right _ member)
        next => exact first

/-- A download that succeeds leaves what was expected at its destination. -/
theorem download_verified (io : DownloadIo) (files : Files) {outcome : DownloadOutcome}
    (success : (downloadFileStreamingWithProgress digest request io files).outcome = .ok outcome)
    (countable : Countable (downloadFileStreamingWithProgress digest request io files).partSizes) :
    exists bytes,
      (downloadFileStreamingWithProgress digest request io files).files.destination = some bytes ∧
      Completed digest request outcome bytes := by
  have attempts := @downloadAttempts_verified digest request io (downloadMaxAttempts - 1) 1 none
  unfold downloadFileStreamingWithProgress at success countable ⊢
  cases folder : io.createParent with
  | some error => rw [folder] at success; cases success
  | none =>
    rw [folder] at success countable
    dsimp only at success countable ⊢
    cases last : (downloadAttempts digest request io (downloadMaxAttempts - 1) 1 none).outcome with
    | error error => rw [last] at success; cases success
    | ok found =>
      rw [last] at success countable
      cases renamed : io.rename with
      | some error => rw [renamed] at success; cases success
      | none =>
        rw [renamed] at success countable
        cases success
        exact attempts outcome last countable

end Download
end RocmCli
