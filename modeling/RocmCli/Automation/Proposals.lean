import RocmCli.Support.Text
import RocmCli.JsonlStore.Reading
import RocmCli.JsonlStore.Writers

namespace RocmCli
namespace Automation

open JsonlStore

/-!
# The proposals store

Proposals are appended as they are queued and reviewed by rewriting the whole
store.  Records from before proposals had ids get one derived from their line
number when they are read, and are written back with it by the first rewrite.
A rewrite also compacts: all but the most recently reviewed proposals go.

The JSON value of a proposal's arguments is never looked into, so its type is
a parameter.
-/

structure AutomationProposalRecord (V : Type u) where
  atUnixMs : Nat
  proposalId : String
  watcherId : String
  action : String
  title : String
  message : String
  status : String
  serviceId : Option String
  tool : Option String
  arguments : V
  reviewedAtUnixMs : Option Nat
  deriving DecidableEq

variable {V : Type u}

/-- Reviewed proposals kept by a compaction. -/
def reviewedProposalsRetained : Nat := 200

/-- A proposal is reviewed once its status is anything but pending. -/
def AutomationProposalRecord.reviewed (proposal : AutomationProposalRecord V) : Bool :=
  proposal.status != "pending"

def normalizeProposalIdentity (proposal : AutomationProposalRecord V) (index : Nat) :
    AutomationProposalRecord V :=
  if proposal.proposalId = "" then
    { proposal with proposalId := s!"legacy-{proposal.atUnixMs}-{index}" }
  else proposal

/-- An id from the watcher's name and the clock. -/
def generateProposalId (watcherId : String) (nanos : Nat) : String :=
  let normalized := Text.trimMatches (fun character => character == '-')
    (watcherId.map (fun character =>
      if character.isAlphanum || character == '-' then character else '-'))
  let start := if normalized = "" then "proposal" else normalized
  s!"{start}-{nanos}"

/-- The proposal as it is queued: with an id. -/
def withProposalId (proposal : AutomationProposalRecord V) (nanos : Nat) :
    AutomationProposalRecord V :=
  if proposal.proposalId = "" then
    { proposal with proposalId := generateProposalId proposal.watcherId nanos }
  else proposal

/-- Queue a proposal.  `ensure` is the failure to create the store's folder. -/
def appendAutomationProposal (serde : SerdeJson (AutomationProposalRecord V)) (path : String)
    (ensure : Option ErrorChain) (proposal : AutomationProposalRecord V) (nanos : Nat)
    (io : AppendIo) (store : Store UInt8) : AppendResult :=
  match ensure with
  | some error => ⟨.error (.failed error), [], store⟩
  | none => appendJsonlRecord serde path (withProposalId proposal nanos) none io store

def loadAutomationProposals (serde : SerdeJson (AutomationProposalRecord V)) (path : String)
    (read : Option String) (store : Store UInt8) :
    Except ErrorChain (List (AutomationProposalRecord V)) :=
  match store.named 0 with
  | none => .ok []
  | some file =>
    match read with
    | some error => .error ((ErrorChain.ofMessage error).context s!"failed to read {path}")
    | none =>
      match parseJsonlRecords serde path "proposal record" (store.content file) with
      | .error error => .error error
      | .ok records =>
          .ok (records.map (fun entry => normalizeProposalIdentity entry.2 entry.1))

/-! ## Compaction -/

/-- What a reviewed proposal is ordered by: whether it was just reviewed, when
it was reviewed, and where it stands. -/
abbrev ReviewKey := Bool × Nat × Nat

/-- The lexicographic order, `false` before `true`. -/
def reviewKeyLe (left right : ReviewKey) : Bool :=
  (!left.1 && right.1) || (left.1 == right.1 &&
    (decide (left.2.1 < right.2.1) || (left.2.1 == right.2.1 && decide (left.2.2 ≤ right.2.2))))

def reviewKey (justReviewed : String) (proposal : AutomationProposalRecord V) (index : Nat) :
    ReviewKey :=
  (proposal.proposalId == justReviewed, proposal.reviewedAtUnixMs.getD 0, index)

def reviewedKeys (justReviewed : String) (proposals : List (AutomationProposalRecord V)) :
    List ReviewKey :=
  (proposals.zipIdx.filter (fun entry => entry.1.reviewed)).map
    (fun entry => reviewKey justReviewed entry.1 entry.2)

/-- The positions a compaction removes: none unless there are more reviewed
proposals than `keep`. -/
def droppedPositions (keep : Nat) (justReviewed : String)
    (proposals : List (AutomationProposalRecord V)) : List Nat :=
  let reviewed := reviewedKeys justReviewed proposals
  let excess := reviewed.length - keep
  ((reviewed.mergeSort reviewKeyLe).take excess).map (fun key => key.2.2)

/-- Keep what does not stand at a dropped position, counting from `index`. -/
def retainFrom {A : Type v} (dropped : List Nat) : (index : Nat) -> List A -> List A
  | _, [] => []
  | index, item :: rest =>
      if dropped.contains index then retainFrom dropped (index + 1) rest
      else item :: retainFrom dropped (index + 1) rest

/-- Drop all but the `keep` most recently reviewed proposals. -/
def compactReviewedProposals (keep : Nat) (justReviewed : String)
    (proposals : List (AutomationProposalRecord V)) : List (AutomationProposalRecord V) :=
  retainFrom (droppedPositions keep justReviewed proposals) 0 proposals

/-! ## Reviewing -/

/-- The system's answers to one status update. -/
structure UpdateIo where
  ensure : Option ErrorChain
  acquire : Option ErrorChain
  read : Option String
  replace : EffectAnswer

def reviewedAs (status : String) (now : Nat) (proposal : AutomationProposalRecord V) :
    AutomationProposalRecord V :=
  { proposal with
    status := status
    reviewedAtUnixMs := if status != "pending" then some now else proposal.reviewedAtUnixMs }

/-- Set the status of the first proposal with this id; also returns it. -/
def setProposalStatus (proposalId status : String) (now : Nat) :
    List (AutomationProposalRecord V) ->
      Option (AutomationProposalRecord V × List (AutomationProposalRecord V))
  | [] => none
  | proposal :: rest =>
      if proposal.proposalId = proposalId then
        let updated := reviewedAs status now proposal
        some (updated, updated :: rest)
      else
        match setProposalStatus proposalId status now rest with
        | none => none
        | some (updated, others) => some (updated, proposal :: others)

/-- Replace the whole store. -/
def writeAutomationProposals (serde : SerdeJson (AutomationProposalRecord V))
    (answer : EffectAnswer) (proposals : List (AutomationProposalRecord V))
    (store : Store UInt8) : Except Stop Unit × Store UInt8 :=
  let text := completeLines serde proposals
  match answer with
  | .done => (.ok (), store.install text)
  | .failed error => (.error (.failed (ErrorChain.ofMessage error)), store)
  | .died happened => (.error .died, if happened then store.install text else store)

/-- Set one proposal's status by rewriting the store. -/
def updateAutomationProposalStatus (serde : SerdeJson (AutomationProposalRecord V))
    (path proposalId status : String) (now : Nat) (io : UpdateIo) (store : Store UInt8) :
    Except Stop (AutomationProposalRecord V) × Store UInt8 :=
  match Text.requireNonempty proposalId "proposal_id" with
  | .error error => (.error (.failed error), store)
  | .ok () =>
  match Text.requireNonempty status "status" with
  | .error error => (.error (.failed error), store)
  | .ok () =>
  match io.ensure with
  | some error => (.error (.failed error), store)
  | none =>
  match io.acquire with
  | some error => (.error (.failed error), store)
  | none =>
  match loadAutomationProposals serde path io.read store with
  | .error error => (.error (.failed error), store)
  | .ok proposals =>
  match setProposalStatus proposalId status now proposals with
  | none =>
      (.error (.failed (ErrorChain.ofMessage s!"automation proposal `{proposalId}` not found")),
        store)
  | some (updated, proposals) =>
      let kept := compactReviewedProposals reviewedProposalsRetained proposalId proposals
      match writeAutomationProposals serde io.replace kept store with
      | (.ok (), written) => (.ok updated, written)
      | (.error stop, written) => (.error stop, written)

/-! ## Reading back -/

theorem normalizeProposalIdentity_id (proposal : AutomationProposalRecord V) (index : Nat) :
    (normalizeProposalIdentity proposal index).proposalId ≠ "" := by
  unfold normalizeProposalIdentity
  split
  next => simp
  next named => exact named

theorem normalizeProposalIdentity_of_named {proposal : AutomationProposalRecord V}
    (named : proposal.proposalId ≠ "") (index : Nat) :
    normalizeProposalIdentity proposal index = proposal := by
  rw [normalizeProposalIdentity, if_neg named]

theorem withProposalId_id (proposal : AutomationProposalRecord V) (nanos : Nat) :
    (withProposalId proposal nanos).proposalId ≠ "" := by
  unfold withProposalId
  split
  next => simp [generateProposalId]
  next named => exact named

variable {serde : SerdeJson (AutomationProposalRecord V)} {store : Store UInt8}
  {proposals : List (AutomationProposalRecord V)}

variable {path : String}

/-- Loading reads the live file; a missing file holds no proposals. -/
theorem loadAutomationProposals_ok :
    loadAutomationProposals serde path none store = .ok proposals ↔
      exists records, parseJsonlRecords serde path "proposal record" store.live = .ok records ∧
        proposals = records.map (fun entry => normalizeProposalIdentity entry.2 entry.1) := by
  unfold loadAutomationProposals Store.live
  cases store.named 0 with
  | none =>
      have empty : parseJsonlRecords serde path "proposal record" [] = .ok [] := rfl
      simp [empty, eq_comm]
  | some file =>
      cases parsed : parseJsonlRecords serde path "proposal record" (store.content file) with
      | error error => simp [parsed]
      | ok records => simp [parsed, eq_comm]

/-- A read that fails reports nothing; one that succeeds does not depend on the
answers. -/
theorem loadAutomationProposals_answer {read : Option String}
    (ok : loadAutomationProposals serde path read store = .ok proposals) :
    loadAutomationProposals serde path none store = .ok proposals := by
  cases read with
  | none => exact ok
  | some error =>
      unfold loadAutomationProposals at ok ⊢
      cases named : store.named 0 with
      | none => rwa [named] at ok
      | some file =>
          rw [named] at ok
          cases ok

theorem loaded_named (loaded : loadAutomationProposals serde path none store = .ok proposals) :
    forall proposal, proposal ∈ proposals -> proposal.proposalId ≠ "" := by
  rcases loadAutomationProposals_ok.mp loaded with ⟨records, -, rfl⟩
  intro proposal member
  rcases List.mem_map.mp member with ⟨entry, -, rfl⟩
  exact normalizeProposalIdentity_id entry.2 entry.1

/-- Queuing a proposal adds it at the end of what is read. -/
theorem load_after_append (lawful : serde.Lawful)
    (loaded : loadAutomationProposals serde path none store = .ok proposals)
    (proposal : AutomationProposalRecord V) (nanos : Nat) :
    loadAutomationProposals serde path none
      (appendAutomationProposal serde path none proposal nanos AppendIo.allDone store).store =
        .ok (proposals ++ [withProposalId proposal nanos]) := by
  rcases loadAutomationProposals_ok.mp loaded with ⟨records, parsed, rfl⟩
  have appended := appendJsonlRecord_allDone serde path
    (withProposalId proposal nanos) store
  rcases parseJsonlRecords_append lawful path "proposal record" parsed
    (withProposalId proposal nanos) with ⟨index, reparsed⟩
  rw [← appended.2] at reparsed
  refine loadAutomationProposals_ok.mpr ⟨_, reparsed, ?_⟩
  rw [List.map_append, List.map_singleton,
    normalizeProposalIdentity_of_named (withProposalId_id proposal nanos)]

/-- A rewritten store reads back as what was written. -/
theorem load_after_write (lawful : serde.Lawful) (path : String) (store : Store UInt8)
    (named : forall proposal, proposal ∈ proposals -> proposal.proposalId ≠ "") :
    loadAutomationProposals serde path none (store.install (completeLines serde proposals)) =
      .ok proposals := by
  refine loadAutomationProposals_ok.mpr ⟨proposals.mapIdx Prod.mk, ?_, ?_⟩
  · rw [Store.live_install]
    exact parseJsonlRecords_shape lawful path "proposal record" (.clean proposals)
  · apply List.ext_getElem?
    intro position
    cases found : proposals[position]? with
    | none => simp [found]
    | some proposal =>
        have member := List.mem_of_getElem? found
        simp [found, normalizeProposalIdentity_of_named (named proposal member)]

end Automation
end RocmCli
