import RocmCli.Support.Runs
import RocmCli.Automation.Retention

namespace RocmCli
namespace Automation

open JsonlStore
open Runs

/-!
# Proposals over a run

Any number of processes queue and review proposals, one call at a time under
the store's lock.  To say that a proposal keeps its id, a run carries a ghost
tag for each proposal in the store, in file order: queuing issues a new tag,
and a rewrite removes the tags of the proposals it drops.  Nothing the program
computes depends on the tags.

The one assumption on calls is that a queued proposal does not bring an id that
is already in the store.
-/

variable {V : Type u}

/-- The store, the tags of its proposals, and the next tag to issue. -/
structure ProposalLog where
  store : Store UInt8
  tags : List Nat
  next : Nat

/-- One call.  A `refused` call failed before it did anything. -/
inductive ProposalCall (V : Type u) where
  | append (proposal : AutomationProposalRecord V) (nanos : Nat)
      (refused : Option ErrorChain)
  | update (proposalId status : String) (now : Nat) (io : UpdateIo)

section Calls

variable (serde : SerdeJson (AutomationProposalRecord V)) (path : String)

/-- What every reader finds: each proposal with its tag. -/
def readings (log : ProposalLog) : List (Nat × AutomationProposalRecord V) :=
  match loadAutomationProposals serde path none log.store with
  | .ok proposals => log.tags.zip proposals
  | .error _ => []

/-- The tags left by an update, which are those of the proposals it wrote back
when it replaced the store. -/
def tagsAfterUpdate (log : ProposalLog) (proposalId status : String) (now : Nat)
    (after : Store UInt8) : List Nat :=
  if after.named 0 = log.store.named 0 then log.tags
  else
    match loadAutomationProposals serde path none log.store with
    | .error _ => log.tags
    | .ok proposals =>
      match setProposalStatus proposalId status now proposals with
      | none => log.tags
      | some (_, reviewed) =>
          retainFrom (droppedPositions reviewedProposalsRetained proposalId reviewed) 0 log.tags

def applyCall (log : ProposalLog) : ProposalCall V -> ProposalLog
  | .append proposal nanos refused =>
      let result := appendAutomationProposal serde path refused proposal nanos
        AppendIo.allDone log.store
      match refused with
      | none => ⟨result.store, log.tags ++ [log.next], log.next + 1⟩
      | some _ => { log with store := result.store }
  | .update proposalId status now io =>
      let after := (updateAutomationProposalStatus serde path proposalId status now io
        log.store).2
      ⟨after, tagsAfterUpdate serde path log proposalId status now after, log.next⟩

/-- A queued proposal's id is not in the store yet. -/
def FreshId (log : ProposalLog) : ProposalCall V -> Prop
  | .append proposal nanos _ => forall entry, entry ∈ readings serde path log ->
      entry.2.proposalId ≠ (withProposalId proposal nanos).proposalId
  | .update _ _ _ _ => True

/-- What holds between calls. -/
structure Consistent (log : ProposalLog) (proposals : List (AutomationProposalRecord V)) :
    Prop where
  wellNamed : log.store.WellNamed
  loaded : loadAutomationProposals serde path none log.store = .ok proposals
  lengths : log.tags.length = proposals.length
  distinctIds : (proposals.map AutomationProposalRecord.proposalId).Nodup
  distinctTags : log.tags.Nodup
  issued : forall tag, tag ∈ log.tags -> tag < log.next

end Calls

/-- Every proposal read later was either queued in between, or read before
under the same id. -/
def SameIds (next : Nat) (before after : List (Nat × AutomationProposalRecord V)) : Prop :=
  forall entry, entry ∈ after -> entry.1 < next ->
    exists earlier, earlier ∈ before ∧ earlier.1 = entry.1 ∧
      earlier.2.proposalId = entry.2.proposalId

/-- What a successful update leaves of `reviewed`, the proposals with the new
status set. -/
structure ReviewKeeps (proposalId : String) (updated : AutomationProposalRecord V)
    (reviewed after : List (Nat × AutomationProposalRecord V)) : Prop where
  order : List.Sublist after reviewed
  bounded : after.countP (fun entry => entry.2.reviewed) ≤ reviewedProposalsRetained
  updated : exists tag, (tag, updated) ∈ after ∧ updated.proposalId = proposalId
  oldest : forall (position : Nat) (removed : Nat × AutomationProposalRecord V),
    reviewed[position]? = some removed -> removed ∉ after ->
      removed.2.reviewed = true ∧
        forall (other : Nat) (kept : Nat × AutomationProposalRecord V),
          reviewed[other]? = some kept -> kept ∈ after -> kept.2.reviewed = true ->
            reviewKeyLe (reviewKey proposalId kept.2 other)
              (reviewKey proposalId removed.2 position) = false

/-- Set the status of the proposals with this id, in a reading. -/
def reviewReadings (proposalId status : String) (now : Nat)
    (entries : List (Nat × AutomationProposalRecord V)) :
    List (Nat × AutomationProposalRecord V) :=
  entries.map (fun entry =>
    if entry.2.proposalId = proposalId then (entry.1, reviewedAs status now entry.2) else entry)

/-- What one call may do to what readers find. -/
structure CallKeeps (serde : SerdeJson (AutomationProposalRecord V)) (path : String)
    (log : ProposalLog) (call : ProposalCall V) : Prop where
  ids : SameIds log.next (readings serde path log) (readings serde path (applyCall serde path log call))
  pending : forall entry, entry ∈ readings serde path log -> entry.2.status = "pending" ->
    exists later, later ∈ readings serde path (applyCall serde path log call) ∧
      later.1 = entry.1
  reviewed : forall proposalId status now io updated,
    call = .update proposalId status now io ->
    (updateAutomationProposalStatus serde path proposalId status now io log.store).1 =
        .ok updated ->
      ReviewKeeps proposalId updated
        (reviewReadings proposalId status now (readings serde path log))
        (readings serde path (applyCall serde path log call))
  unknown : forall proposalId status now io, call = .update proposalId status now io ->
    (forall entry, entry ∈ readings serde path log -> entry.2.proposalId ≠ proposalId) ->
      (exists stop, (updateAutomationProposalStatus serde path proposalId status now io
        log.store).1 = .error stop) ∧
        (applyCall serde path log call).store = log.store

/-! ## Setting a status -/

theorem setProposalStatus_none {proposalId status : String} {now : Nat}
    {proposals : List (AutomationProposalRecord V)} :
    setProposalStatus proposalId status now proposals = none ↔
      forall proposal, proposal ∈ proposals -> proposal.proposalId ≠ proposalId := by
  induction proposals with
  | nil => simp [setProposalStatus]
  | cons proposal rest ih =>
      rw [setProposalStatus]
      by_cases isIt : proposal.proposalId = proposalId
      · simp [isIt]
      · rw [if_neg isIt]
        cases later : setProposalStatus proposalId status now rest with
        | none => simpa [isIt] using ih.mp later
        | some found =>
            have present : ¬ forall proposal, proposal ∈ rest ->
                proposal.proposalId ≠ proposalId := by
              intro absent
              rw [ih.mpr absent] at later
              cases later
            simpa [isIt] using present

/-- With distinct ids, setting the first proposal's status sets it exactly
where the id is. -/
theorem setProposalStatus_some {proposalId status : String} {now : Nat}
    {proposals reviewed : List (AutomationProposalRecord V)}
    {updated : AutomationProposalRecord V}
    (distinct : (proposals.map AutomationProposalRecord.proposalId).Nodup)
    (set : setProposalStatus proposalId status now proposals = some (updated, reviewed)) :
    reviewed = proposals.map (fun proposal =>
        if proposal.proposalId = proposalId then reviewedAs status now proposal else proposal) ∧
      updated ∈ reviewed ∧ updated.proposalId = proposalId := by
  induction proposals generalizing reviewed with
  | nil => cases set
  | cons proposal rest ih =>
      rw [List.map_cons, List.nodup_cons] at distinct
      rw [setProposalStatus] at set
      by_cases isIt : proposal.proposalId = proposalId
      · rw [if_pos isIt] at set
        cases set
        refine ⟨?_, List.mem_cons_self, isIt⟩
        rw [List.map_cons, if_pos isIt]
        congr 1
        rw [List.map_congr_left (g := id), List.map_id]
        intro other member
        rw [if_neg]
        · rfl
        · intro twin
          apply distinct.1
          rw [isIt, ← twin]
          exact List.mem_map_of_mem member
      · rw [if_neg isIt] at set
        cases later : setProposalStatus proposalId status now rest with
        | none =>
            rw [later] at set
            cases set
        | some found =>
            rcases found with ⟨record, others⟩
            rw [later] at set
            cases set
            have spec := ih distinct.2 later
            refine ⟨?_, List.mem_cons_of_mem proposal spec.2.1, spec.2.2⟩
            rw [List.map_cons, if_neg isIt, spec.1]

theorem reviewedAs_id (proposalId status : String) (now : Nat)
    (proposal : AutomationProposalRecord V) :
    (if proposal.proposalId = proposalId then reviewedAs status now proposal
      else proposal).proposalId = proposal.proposalId := by
  split <;> rfl

theorem reviewReadings_zip (proposalId status : String) (now : Nat) (tags : List Nat)
    (proposals : List (AutomationProposalRecord V)) :
    reviewReadings proposalId status now (tags.zip proposals) =
      tags.zip (proposals.map (fun proposal =>
        if proposal.proposalId = proposalId then reviewedAs status now proposal
        else proposal)) := by
  rw [reviewReadings, List.zip_map_right]
  apply List.map_congr_left
  rintro ⟨tag, proposal⟩ -
  dsimp only [Prod.map]
  split <;> rfl

/-! ## What an update can do -/

/-- An update either leaves the store alone and fails, or replaces it by the
compacted proposals; then it succeeded or the process died right after. -/
theorem updateAutomationProposalStatus_cases (serde : SerdeJson (AutomationProposalRecord V))
    (path proposalId status : String) (now : Nat) (io : UpdateIo) (store : Store UInt8) :
    let result := updateAutomationProposalStatus serde path proposalId status now io store
    ((exists stop, result.1 = .error stop) ∧ result.2 = store) ∨
      exists proposals updated reviewed,
        loadAutomationProposals serde path none store = .ok proposals ∧
          setProposalStatus proposalId status now proposals = some (updated, reviewed) ∧
          result.2 = store.install (completeLines serde
            (compactReviewedProposals reviewedProposalsRetained proposalId reviewed)) ∧
          (result.1 = .ok updated ∨ exists stop, result.1 = .error stop) := by
  unfold updateAutomationProposalStatus
  cases Text.requireNonempty proposalId "proposal_id" with
  | error error => exact Or.inl ⟨⟨_, rfl⟩, rfl⟩
  | ok named =>
  cases Text.requireNonempty status "status" with
  | error error => exact Or.inl ⟨⟨_, rfl⟩, rfl⟩
  | ok stated =>
  cases io.ensure with
  | some error => exact Or.inl ⟨⟨_, rfl⟩, rfl⟩
  | none =>
  cases io.acquire with
  | some error => exact Or.inl ⟨⟨_, rfl⟩, rfl⟩
  | none =>
  cases loaded : loadAutomationProposals serde path io.read store with
  | error error => exact Or.inl ⟨⟨_, rfl⟩, rfl⟩
  | ok proposals =>
  dsimp only
  cases set : setProposalStatus proposalId status now proposals with
  | none => exact Or.inl ⟨⟨_, rfl⟩, rfl⟩
  | some found =>
  rcases found with ⟨updated, reviewed⟩
  have readable := loadAutomationProposals_answer loaded
  dsimp only [writeAutomationProposals]
  cases io.replace with
  | done => exact Or.inr ⟨proposals, updated, reviewed, readable, set, rfl, Or.inl rfl⟩
  | failed error => exact Or.inl ⟨⟨_, rfl⟩, rfl⟩
  | died happened =>
      cases happened with
      | false => exact Or.inl ⟨⟨_, rfl⟩, rfl⟩
      | true => exact Or.inr ⟨proposals, updated, reviewed, readable, set, rfl, Or.inr ⟨_, rfl⟩⟩

/-! ## One call -/

section Step

variable {serde : SerdeJson (AutomationProposalRecord V)} {path : String} {log : ProposalLog}
  {proposals : List (AutomationProposalRecord V)}

theorem readings_eq (consistent : Consistent serde path log proposals) :
    readings serde path log = log.tags.zip proposals := by
  rw [readings, consistent.loaded]

theorem Consistent.tags_unique (consistent : Consistent serde path log proposals)
    {first second : Nat × AutomationProposalRecord V}
    (firstMember : first ∈ readings serde path log)
    (secondMember : second ∈ readings serde path log) (same : first.1 = second.1) :
    first = second := by
  rw [readings_eq consistent] at firstMember secondMember
  rcases List.mem_iff_getElem?.mp firstMember with ⟨left, leftFound⟩
  rcases List.mem_iff_getElem?.mp secondMember with ⟨right, rightFound⟩
  rw [List.getElem?_zip_eq_some] at leftFound rightFound
  have position : left = right := by
    rcases List.getElem?_eq_some_iff.mp leftFound.1 with ⟨inside, -⟩
    apply (List.getElem?_inj inside consistent.distinctTags).mp
    rw [leftFound.1, rightFound.1, same]
  subst position
  have sameProposal := Option.some.inj (leftFound.2.symm.trans rightFound.2)
  exact Prod.ext same sameProposal

/-- Every proposal that is read has a tag. -/
theorem Consistent.tagged (consistent : Consistent serde path log proposals)
    {proposal : AutomationProposalRecord V} (member : proposal ∈ proposals) :
    exists tag, (tag, proposal) ∈ readings serde path log := by
  have projected : (log.tags.zip proposals).map Prod.snd = proposals :=
    List.map_snd_zip (Nat.le_of_eq consistent.lengths.symm)
  rw [← projected] at member
  rcases List.mem_map.mp member with ⟨entry, entryMember, rfl⟩
  exact ⟨entry.1, by rwa [readings_eq consistent]⟩

/-- Queuing a proposal adds a reading with a new tag. -/
theorem append_consistent (lawful : serde.Lawful) (consistent : Consistent serde path log proposals)
    (proposal : AutomationProposalRecord V) (nanos : Nat)
    (fresh : FreshId serde path log (.append proposal nanos none)) :
    Consistent serde path (applyCall serde path log (.append proposal nanos none))
      (proposals ++ [withProposalId proposal nanos]) where
  wellNamed := appendJsonlRecord_wellNamed serde path _ AppendIo.allDone consistent.wellNamed
  loaded := load_after_append lawful consistent.loaded proposal nanos
  lengths := by simp [applyCall, consistent.lengths]
  distinctIds := by
    rw [List.map_append, List.map_singleton, List.nodup_append]
    refine ⟨consistent.distinctIds, List.nodup_singleton _, ?_⟩
    intro id member other last same
    rw [List.mem_singleton] at last
    rcases List.mem_map.mp member with ⟨earlier, earlierMember, rfl⟩
    rcases consistent.tagged earlierMember with ⟨tag, tagged⟩
    exact fresh _ tagged (same.trans last)
  distinctTags := by
    refine List.nodup_append.mpr ⟨consistent.distinctTags, List.nodup_singleton _, ?_⟩
    intro tag member other last same
    rw [List.mem_singleton] at last
    exact Nat.lt_irrefl _ (last ▸ same ▸ consistent.issued tag member)
  issued := by
    intro tag member
    rcases List.mem_append.mp member with old | new
    · exact Nat.lt_succ_of_lt (consistent.issued tag old)
    · rw [List.mem_singleton.mp new]
      exact Nat.lt_succ_self _

theorem readings_append (lawful : serde.Lawful) (consistent : Consistent serde path log proposals)
    (proposal : AutomationProposalRecord V) (nanos : Nat) :
    readings serde path (applyCall serde path log (.append proposal nanos none)) =
      readings serde path log ++ [(log.next, withProposalId proposal nanos)] := by
  have loaded := load_after_append lawful consistent.loaded proposal nanos
  rw [readings_eq consistent, readings, applyCall]
  dsimp only
  rw [loaded]
  exact List.zip_append consistent.lengths

/-- A refused call, and an update that left the store alone, change nothing. -/
theorem applyCall_refused (serde : SerdeJson (AutomationProposalRecord V)) (path : String)
    (log : ProposalLog) (proposal : AutomationProposalRecord V) (nanos : Nat)
    (error : ErrorChain) :
    applyCall serde path log (.append proposal nanos (some error)) = log := rfl

theorem applyCall_untouched {proposalId status : String} {now : Nat} {io : UpdateIo}
    (same : (updateAutomationProposalStatus serde path proposalId status now io
      log.store).2 = log.store) :
    applyCall serde path log (.update proposalId status now io) = log := by
  rw [applyCall, same, tagsAfterUpdate, if_pos rfl]

variable {proposalId status : String} {now : Nat} {io : UpdateIo}
  {updated : AutomationProposalRecord V} {reviewed : List (AutomationProposalRecord V)}

/-- The log after a rewrite of the store with the reviewed proposals. -/
def ProposalLog.rewritten (serde : SerdeJson (AutomationProposalRecord V)) (log : ProposalLog)
    (proposalId : String) (reviewed : List (AutomationProposalRecord V)) : ProposalLog where
  store := log.store.install (completeLines serde
    (compactReviewedProposals reviewedProposalsRetained proposalId reviewed))
  tags := retainFrom (droppedPositions reviewedProposalsRetained proposalId reviewed) 0 log.tags
  next := log.next

theorem position_of_id {items : List (AutomationProposalRecord V)}
    (distinct : (items.map AutomationProposalRecord.proposalId).Nodup)
    {first second : Nat} {left right : AutomationProposalRecord V}
    (leftFound : items[first]? = some left) (rightFound : items[second]? = some right)
    (same : left.proposalId = right.proposalId) : first = second := by
  rcases List.getElem?_eq_some_iff.mp leftFound with ⟨inside, -⟩
  apply (List.getElem?_inj (by rwa [List.length_map]) distinct).mp
  rw [List.getElem?_map, List.getElem?_map, leftFound, rightFound]
  exact congrArg some same

section Rewritten

variable (consistent : Consistent serde path log proposals)
  (set : setProposalStatus proposalId status now proposals = some (updated, reviewed))
include consistent set

/-- An update that replaced the store keeps the tags of what it wrote back. -/
theorem applyCall_replaced
    (replaced : (updateAutomationProposalStatus serde path proposalId status now io
      log.store).2 = log.store.install (completeLines serde
        (compactReviewedProposals reviewedProposalsRetained proposalId reviewed))) :
    applyCall serde path log (.update proposalId status now io) =
      log.rewritten serde proposalId reviewed := by
  have newFile : (log.store.install (completeLines serde
      (compactReviewedProposals reviewedProposalsRetained proposalId reviewed))).named 0 ≠
        log.store.named 0 := by
    intro same
    rw [Store.install_named, if_pos rfl] at same
    exact Nat.lt_irrefl _ (consistent.wellNamed.created 0 _ same.symm)
  rw [applyCall, replaced, tagsAfterUpdate, if_neg newFile, consistent.loaded]
  dsimp only
  rw [set]
  rfl

theorem reviewed_ids :
    reviewed.map AutomationProposalRecord.proposalId =
      proposals.map AutomationProposalRecord.proposalId := by
  rw [(setProposalStatus_some consistent.distinctIds set).1, List.map_map]
  apply List.map_congr_left
  intro proposal _
  exact reviewedAs_id proposalId status now proposal

theorem reviewed_lengths : log.tags.length = reviewed.length := by
  have sameLength := congrArg List.length (reviewed_ids consistent set)
  rw [List.length_map, List.length_map] at sameLength
  rw [consistent.lengths, sameLength]

theorem update_consistent (lawful : serde.Lawful) :
    Consistent serde path (log.rewritten serde proposalId reviewed)
      (compactReviewedProposals reviewedProposalsRetained proposalId reviewed) := by
  have ids := reviewed_ids consistent set
  have kept := retainFrom_sublist
    (droppedPositions reviewedProposalsRetained proposalId reviewed) 0 reviewed
  have tagsKept := retainFrom_sublist
    (droppedPositions reviewedProposalsRetained proposalId reviewed) 0 log.tags
  constructor
  · exact Store.wellNamed_install consistent.wellNamed _
  · apply load_after_write lawful
    intro proposal member
    have idMember : proposal.proposalId ∈ proposals.map AutomationProposalRecord.proposalId := by
      rw [← ids]
      exact List.mem_map_of_mem (kept.subset member)
    rcases List.mem_map.mp idMember with ⟨original, originalMember, same⟩
    rw [← same]
    exact loaded_named consistent.loaded original originalMember
  · exact retainFrom_length _ 0 (reviewed_lengths consistent set)
  · have distinct := consistent.distinctIds
    rw [← ids] at distinct
    exact distinct.sublist (kept.map _)
  · exact consistent.distinctTags.sublist tagsKept
  · intro tag member
    exact consistent.issued tag (tagsKept.subset member)

/-- After a rewrite, readers find the reviewed reading at the positions that
were kept. -/
theorem readings_update (lawful : serde.Lawful) :
    readings serde path (log.rewritten serde proposalId reviewed) =
      retainFrom (droppedPositions reviewedProposalsRetained proposalId reviewed) 0
        (reviewReadings proposalId status now (readings serde path log)) := by
  rw [readings_eq (update_consistent consistent set lawful), readings_eq consistent,
    reviewReadings_zip, ← (setProposalStatus_some consistent.distinctIds set).1,
    retainFrom_zip _ 0 (reviewed_lengths consistent set)]
  rfl

/-- A proposal with the reviewed id is never dropped, and neither is one that
is still pending. -/
theorem kept_position {position : Nat} {proposal : AutomationProposalRecord V}
    (found : reviewed[position]? = some proposal)
    (stays : proposal.proposalId = proposalId ∨ proposal.reviewed = false) :
    position ∉ droppedPositions reviewedProposalsRetained proposalId reviewed := by
  have distinct := consistent.distinctIds
  rw [← reviewed_ids consistent set] at distinct
  rcases stays with isIt | pending
  · apply justReviewed_kept (by decide) found isIt
    intro other twin twinFound twinId
    exact position_of_id distinct twinFound found (twinId.trans isIt.symm)
  · intro dropped
    rcases droppedPositions_reviewed dropped with ⟨other, otherFound, isReviewed⟩
    rw [Option.some.inj (found.symm.trans otherFound), isReviewed] at pending
    cases pending

theorem reviewReadings_getElem? (position : Nat) (entry : Nat × AutomationProposalRecord V) :
    (reviewReadings proposalId status now (readings serde path log))[position]? = some entry ↔
      log.tags[position]? = some entry.1 ∧ reviewed[position]? = some entry.2 := by
  rw [readings_eq consistent, reviewReadings_zip,
    ← (setProposalStatus_some consistent.distinctIds set).1]
  exact List.getElem?_zip_eq_some

theorem reviewKeeps_update :
    ReviewKeeps proposalId updated
      (reviewReadings proposalId status now (readings serde path log))
      (retainFrom (droppedPositions reviewedProposalsRetained proposalId reviewed) 0
        (reviewReadings proposalId status now (readings serde path log))) := by
  have spec := setProposalStatus_some consistent.distinctIds set
  have lookup := reviewReadings_getElem? consistent set
  have lengths := reviewed_lengths consistent set
  constructor
  · exact retainFrom_sublist _ 0 _
  · have bounded := countP_compact reviewedProposalsRetained proposalId reviewed
    rw [readings_eq consistent, reviewReadings_zip, ← spec.1, retainFrom_zip _ 0 lengths]
    have projected := List.map_snd_zip (Nat.le_of_eq (retainFrom_length
      (droppedPositions reviewedProposalsRetained proposalId reviewed) 0 lengths).symm)
    rw [compactReviewedProposals, ← projected, List.countP_map] at bounded
    exact bounded
  · rcases List.mem_iff_getElem?.mp spec.2.1 with ⟨position, found⟩
    have tagFound : exists tag, log.tags[position]? = some tag := by
      rcases List.getElem?_eq_some_iff.mp found with ⟨inside, -⟩
      exact ⟨_, List.getElem?_eq_getElem (lengths ▸ inside)⟩
    rcases tagFound with ⟨tag, tagFound⟩
    refine ⟨tag, ?_, spec.2.2⟩
    apply mem_retainFrom.mpr
    refine ⟨position, (lookup position (tag, updated)).mpr ⟨tagFound, found⟩, ?_⟩
    rw [Nat.zero_add]
    exact kept_position consistent set found (Or.inl spec.2.2)
  · intro position removed found gone
    have dropped : position ∈ droppedPositions reviewedProposalsRetained proposalId reviewed := by
      by_contra stays
      exact gone (mem_retainFrom.mpr ⟨position, found, by rwa [Nat.zero_add]⟩)
    have removedFound := ((lookup position removed).mp found).2
    rcases droppedPositions_reviewed dropped with ⟨same, sameFound, isReviewed⟩
    refine ⟨Option.some.inj (removedFound.symm.trans sameFound) ▸ isReviewed, ?_⟩
    intro other kept keptFound keptMember keptReviewed
    rcases mem_retainFrom.mp keptMember with ⟨place, placeFound, notDropped⟩
    have keptTag := ((lookup other kept).mp keptFound).1
    have placeTag := ((lookup place kept).mp placeFound).1
    have samePlace : other = place := by
      rcases List.getElem?_eq_some_iff.mp keptTag with ⟨inside, -⟩
      exact (List.getElem?_inj inside consistent.distinctTags).mp (keptTag.trans placeTag.symm)
    rw [Nat.zero_add, ← samePlace] at notDropped
    exact droppedPositions_oldest dropped removedFound notDropped
      ((lookup other kept).mp keptFound).2 keptReviewed

end Rewritten

theorem sameIds_refl (next : Nat) (entries : List (Nat × AutomationProposalRecord V)) :
    SameIds next entries entries :=
  fun entry member _ => ⟨entry, member, rfl, rfl⟩

/-- An update, whatever it meets. -/
theorem update_keeps (lawful : serde.Lawful)
    (consistent : Consistent serde path log proposals) (proposalId status : String) (now : Nat)
    (io : UpdateIo) :
    CallKeeps serde path log (.update proposalId status now io) ∧
      exists after, Consistent serde path
        (applyCall serde path log (.update proposalId status now io)) after := by
  rcases updateAutomationProposalStatus_cases serde path proposalId status now io log.store with
    ⟨⟨stop, failed⟩, untouched⟩ | ⟨loadedProposals, updated, reviewed, loaded, set, replaced, outcome⟩
  · have same := applyCall_untouched untouched
    refine ⟨⟨?_, ?_, ?_, ?_⟩, proposals, by rwa [same]⟩
    · rw [same]
      exact sameIds_refl _ _
    · intro entry member _
      rw [same]
      exact ⟨entry, member, rfl⟩
    · rintro _ _ _ _ updated ⟨⟩ success
      rw [failed] at success
      cases success
    · rintro _ _ _ _ ⟨⟩ -
      exact ⟨⟨stop, failed⟩, by rw [same]⟩
  · obtain rfl : loadedProposals = proposals :=
      Except.ok.inj (loaded.symm.trans consistent.loaded)
    have step := applyCall_replaced consistent set replaced
    have found := readings_update consistent set lawful
    have lookup := reviewReadings_getElem? consistent set
    have spec := setProposalStatus_some consistent.distinctIds set
    rw [← step] at found
    refine ⟨⟨?_, ?_, ?_, ?_⟩, _, step ▸ update_consistent consistent set lawful⟩
    · intro entry member _
      rw [found] at member
      have inReviewed := (retainFrom_sublist _ 0 _).subset member
      rcases List.mem_map.mp inReviewed with ⟨earlier, earlierMember, rfl⟩
      refine ⟨earlier, earlierMember, ?_⟩
      split <;> exact ⟨rfl, rfl⟩
    · intro entry member isPending
      rw [readings_eq consistent] at member
      rcases List.mem_iff_getElem?.mp member with ⟨position, entryFound⟩
      rw [List.getElem?_zip_eq_some] at entryFound
      obtain ⟨later, laterEq⟩ : exists later, later =
          if entry.2.proposalId = proposalId then reviewedAs status now entry.2 else entry.2 :=
        ⟨_, rfl⟩
      have reviewedFound : reviewed[position]? = some later := by
        rw [spec.1, List.getElem?_map, entryFound.2, laterEq]
        rfl
      refine ⟨(entry.1, later), ?_, rfl⟩
      rw [found]
      apply mem_retainFrom.mpr
      refine ⟨position, (lookup position (entry.1, later)).mpr ⟨entryFound.1, reviewedFound⟩, ?_⟩
      rw [Nat.zero_add]
      apply kept_position consistent set reviewedFound
      by_cases isIt : entry.2.proposalId = proposalId
      · rw [laterEq, if_pos isIt]
        exact Or.inl isIt
      · rw [laterEq, if_neg isIt]
        exact Or.inr (by simp [AutomationProposalRecord.reviewed, isPending])
    · rintro _ _ _ _ result ⟨⟩ success
      have sameResult : result = updated := by
        rcases outcome with ok | ⟨stop, died⟩
        · exact Except.ok.inj (success.symm.trans ok)
        · rw [died] at success
          cases success
      rw [found, sameResult]
      exact reviewKeeps_update consistent set
    · rintro _ _ _ _ ⟨⟩ absent
      have nowhere : setProposalStatus proposalId status now loadedProposals = none := by
        apply setProposalStatus_none.mpr
        intro proposal member
        rcases consistent.tagged member with ⟨tag, tagged⟩
        exact absent _ tagged
      rw [nowhere] at set
      cases set

theorem append_keeps (lawful : serde.Lawful) (consistent : Consistent serde path log proposals)
    (proposal : AutomationProposalRecord V) (nanos : Nat) (refused : Option ErrorChain)
    (fresh : FreshId serde path log (.append proposal nanos refused)) :
    CallKeeps serde path log (.append proposal nanos refused) ∧
      exists after, Consistent serde path
        (applyCall serde path log (.append proposal nanos refused)) after := by
  cases refused with
  | some error =>
      rw [applyCall_refused]
      refine ⟨⟨?_, ?_, ?_, ?_⟩, proposals, consistent⟩
      · exact sameIds_refl _ _
      · intro entry member _
        exact ⟨entry, member, rfl⟩
      · rintro _ _ _ _ _ ⟨⟩
      · rintro _ _ _ _ ⟨⟩
  | none =>
      have found := readings_append lawful consistent proposal nanos
      refine ⟨⟨?_, ?_, ?_, ?_⟩, _, append_consistent lawful consistent proposal nanos fresh⟩
      · intro entry member old
        rw [found] at member
        rcases List.mem_append.mp member with earlier | new
        · exact ⟨entry, earlier, rfl, rfl⟩
        · rw [List.mem_singleton.mp new] at old
          exact absurd old (Nat.lt_irrefl _)
      · intro entry member _
        rw [found]
        exact ⟨entry, List.mem_append_left _ member, rfl⟩
      · rintro _ _ _ _ _ ⟨⟩
      · rintro _ _ _ _ ⟨⟩

/-- One call, from any consistent state. -/
theorem applyCall_keeps (lawful : serde.Lawful)
    (consistent : Consistent serde path log proposals) (call : ProposalCall V)
    (fresh : FreshId serde path log call) :
    CallKeeps serde path log call ∧
      exists after, Consistent serde path (applyCall serde path log call) after := by
  cases call with
  | append proposal nanos refused =>
      exact append_keeps lawful consistent proposal nanos refused fresh
  | update proposalId status now io =>
      exact update_keeps lawful consistent proposalId status now io

end Step

/-! ## Runs of calls -/

/-- The store as found, its proposals tagged by their position. -/
def ProposalLog.start (store : Store UInt8) (count : Nat) : ProposalLog :=
  ⟨store, List.range count, count⟩

theorem start_consistent {serde : SerdeJson (AutomationProposalRecord V)} {path : String}
    {store : Store UInt8} {proposals : List (AutomationProposalRecord V)}
    (wellNamed : store.WellNamed)
    (loaded : loadAutomationProposals serde path none store = .ok proposals)
    (distinct : (proposals.map AutomationProposalRecord.proposalId).Nodup) :
    Consistent serde path (.start store proposals.length) proposals where
  wellNamed := wellNamed
  loaded := loaded
  lengths := List.length_range
  distinctIds := distinct
  distinctTags := List.nodup_range
  issued := fun _ member => List.mem_range.mp member

/-- Between two states of a run, no proposal changed its id. -/
structure SameIdsBetween (serde : SerdeJson (AutomationProposalRecord V)) (path : String)
    (before after : ProposalLog) : Prop where
  next : before.next ≤ after.next
  ids : SameIds before.next (readings serde path before) (readings serde path after)

theorem sameIdsBetween_trans {serde : SerdeJson (AutomationProposalRecord V)} {path : String}
    {first second third : ProposalLog} (early : SameIdsBetween serde path first second)
    (late : SameIdsBetween serde path second third) : SameIdsBetween serde path first third where
  next := early.next.trans late.next
  ids := by
    intro entry member old
    rcases late.ids entry member (Nat.lt_of_lt_of_le old early.next) with
      ⟨middle, middleMember, sameTag, sameId⟩
    rcases early.ids middle middleMember (sameTag ▸ old) with
      ⟨earlier, earlierMember, sameTag', sameId'⟩
    exact ⟨earlier, earlierMember, sameTag'.trans sameTag, sameId'.trans sameId⟩

theorem applyCall_next (serde : SerdeJson (AutomationProposalRecord V)) (path : String)
    (log : ProposalLog) (call : ProposalCall V) :
    log.next ≤ (applyCall serde path log call).next := by
  cases call with
  | append proposal nanos refused =>
      cases refused with
      | none => exact Nat.le_succ log.next
      | some error => exact Nat.le_refl log.next
  | update proposalId status now io => exact Nat.le_refl log.next

/-- However calls interleave, each keeps what it should, and a proposal is read
under one id for as long as it is in the store. -/
theorem proposals_keep_identity (serde : SerdeJson (AutomationProposalRecord V))
    (lawful : serde.Lawful) (path : String) (store : Store UInt8)
    (proposals : List (AutomationProposalRecord V)) (wellNamed : store.WellNamed)
    (loaded : loadAutomationProposals serde path none store = .ok proposals)
    (distinct : (proposals.map AutomationProposalRecord.proposalId).Nodup)
    (calls : List (ProposalCall V))
    (fresh : Guarded (applyCall serde path) (FreshId serde path)
      (.start store proposals.length) calls) :
    (forall first second third, calls = first ++ second ++ third ->
      forall tag earlier later,
        (tag, earlier) ∈ readings serde path
          (finalState (applyCall serde path) (.start store proposals.length) first) ->
        (tag, later) ∈ readings serde path
          (finalState (applyCall serde path) (.start store proposals.length)
            (first ++ second)) ->
        earlier.proposalId = later.proposalId) ∧
    (forall first call rest, calls = first ++ call :: rest ->
      CallKeeps serde path
        (finalState (applyCall serde path) (.start store proposals.length) first) call) := by
  have start : exists found, Consistent serde path (.start store proposals.length) found :=
    ⟨proposals, start_consistent wellNamed loaded distinct⟩
  have preserved : forall (log : ProposalLog) (call : ProposalCall V),
      (exists found, Consistent serde path log found) -> FreshId serde path log call ->
        exists found, Consistent serde path (applyCall serde path log call) found := by
    rintro log call ⟨found, consistent⟩ isFresh
    exact (applyCall_keeps lawful consistent call isFresh).2
  refine ⟨?_, ?_⟩
  · rintro first second third rfl tag earlier later earlierMember laterMember
    rw [List.append_assoc, guarded_append, guarded_append] at fresh
    have reached := invariant_of_step preserved start fresh.1
    have between : SameIdsBetween serde path
        (finalState (applyCall serde path) (.start store proposals.length) first)
        (finalState (applyCall serde path) (.start store proposals.length)
          (first ++ second)) := by
      rw [finalState_append]
      refine relation_of_step (SameIdsBetween serde path) preserved
        (fun log _ => ⟨Nat.le_refl _, sameIds_refl _ _⟩)
        (fun _ _ _ => sameIdsBetween_trans) ?_ reached fresh.2.1
      rintro log call ⟨found, consistent⟩ isFresh
      exact ⟨applyCall_next serde path log call,
        (applyCall_keeps lawful consistent call isFresh).1.ids⟩
    rcases reached with ⟨found, consistent⟩
    have old : tag < (finalState (applyCall serde path) (.start store proposals.length)
        first).next := by
      apply consistent.issued
      rw [readings_eq consistent] at earlierMember
      exact (List.of_mem_zip earlierMember).1
    rcases between.ids _ laterMember old with ⟨original, originalMember, sameTag, sameId⟩
    have same := consistent.tags_unique earlierMember originalMember sameTag.symm
    rw [← sameId, ← same]
  · rintro first call rest rfl
    rw [guarded_append] at fresh
    rcases invariant_of_step preserved start fresh.1 with ⟨found, consistent⟩
    exact (applyCall_keeps lawful consistent call fresh.2.1).1

/-! ## A run with a concrete JSON library -/

section Sample

def bytesOf (text : String) : Bytes := text.toList.map (fun character => UInt8.ofNat character.toNat)

/-- A library that ends every record with the only closing brace in its text
reads back what it writes. -/
noncomputable def serdeOfBody {T : Type} (body : T -> Bytes) : SerdeJson T where
  toVec record := body record ++ [0x7d]
  fromSlice bytes := open Classical in
    if written : exists record, body record ++ [0x7d] = bytes then .ok written.choose
    else .error "expected value"
  validJson bytes := open Classical in decide (exists record, body record ++ [0x7d] = bytes)

theorem serdeOfBody_lawful {T : Type} {body : T -> Bytes} (injective : Function.Injective body)
    (oneLine : forall record, newline ∉ body record)
    (object : forall record, (body record).head? = some 0x7b)
    (onlyBrace : forall record, 0x7d ∉ body record) : (serdeOfBody body).Lawful where
  oneLine := by
    intro record
    rw [serdeOfBody, List.mem_append, not_or]
    exact ⟨oneLine record, by decide⟩
  roundTrip := by
    intro record
    have written : exists other, body other ++ [0x7d] = body record ++ [0x7d] := ⟨record, rfl⟩
    have same := injective (List.append_cancel_right written.choose_spec)
    simp only [serdeOfBody, dif_pos written, same]
  object := by
    intro record
    simp [serdeOfBody, List.head?_append, object record]
  parsedIsJson := by
    intro bytes record parsed
    simp only [serdeOfBody] at parsed ⊢
    split at parsed
    next written => simpa using written
    next => cases parsed
  cutIsNotJson := by
    intro record cut isPrefix short
    simp only [serdeOfBody, decide_eq_false_iff_not]
    rintro ⟨other, rfl⟩
    rcases List.prefix_concat_iff.mp isPrefix with whole | inside
    · exact short whole
    · exact onlyBrace record (inside.subset (by simp))

def queued : AutomationProposalRecord Unit :=
  ⟨1, "gpu-7", "gpu", "restart", "Restart", "restart svc-1", "pending", none, none, (), none⟩

def approved : AutomationProposalRecord Unit := reviewedAs "approved" 9 queued

instance : Countable (AutomationProposalRecord Unit) := by
  have characters : Countable Char := Function.Injective.countable (f := Char.toNat)
    (Function.LeftInverse.injective Char.ofNat_toNat)
  let fields (record : AutomationProposalRecord Unit) :=
    (record.atUnixMs, record.proposalId.toList, record.watcherId.toList, record.action.toList,
      record.title.toList, record.message.toList, record.status.toList,
      record.serviceId.map String.toList, record.tool.map String.toList,
      record.reviewedAtUnixMs)
  apply Function.Injective.countable (f := fields)
  intro left right same
  cases left
  cases right
  simpa [fields, String.toList_inj, (Option.map_injective (fun _ _ => String.toList_inj.mp)).eq_iff]
    using same

/-- The text of the two sample records, without the closing brace. -/
def sampleText (status reviewedAt : String) : Bytes :=
  0x7b :: 0x22 :: ["at_unix_ms\":1,", "\"proposal_id\":\"gpu-7\",", "\"watcher_id\":\"gpu\",",
    "\"action\":\"restart\",", "\"title\":\"Restart\",", "\"message\":\"restart svc-1\",",
    "\"status\":\"", status, "\",\"service_id\":null,", "\"tool\":null,", "\"arguments\":null,",
    "\"reviewed_at_unix_ms\":", reviewedAt].flatMap bytesOf

/-- The samples as the library writes them; every other record, which the
sample run never writes, as an object told apart by its blanks. -/
noncomputable def sampleBody (record : AutomationProposalRecord Unit) : Bytes :=
  if record = queued then sampleText "pending" "null"
  else if record = approved then sampleText "approved" "9"
  else 0x7b :: List.replicate
    ((Countable.exists_injective_nat (AutomationProposalRecord Unit)).choose record + 1) 0x20

theorem sampleBody_cases (record : AutomationProposalRecord Unit) :
    (record = queued ∧ sampleBody record = sampleText "pending" "null") ∨
      (record = approved ∧ sampleBody record = sampleText "approved" "9") ∨
      sampleBody record = 0x7b :: List.replicate
        ((Countable.exists_injective_nat (AutomationProposalRecord Unit)).choose record + 1)
          0x20 := by
  unfold sampleBody
  split
  next first => exact Or.inl ⟨first, rfl⟩
  next =>
    split
    next second => exact Or.inr (Or.inl ⟨second, rfl⟩)
    next => exact Or.inr (Or.inr rfl)

theorem sampleBody_injective : Function.Injective sampleBody := by
  have textsDiffer : sampleText "pending" "null" ≠ sampleText "approved" "9" := by decide
  have secondByte : forall (count : Nat) (status reviewedAt : String),
      sampleText status reviewedAt ≠ 0x7b :: List.replicate (count + 1) 0x20 := by
    intro count status reviewedAt same
    rw [sampleText, List.replicate_succ] at same
    exact absurd (List.cons.inj (List.cons.inj same).2).1 (by decide)
  intro left right same
  rcases sampleBody_cases left with ⟨leftIs, leftBody⟩ | ⟨leftIs, leftBody⟩ | leftBody <;>
    rcases sampleBody_cases right with ⟨rightIs, rightBody⟩ | ⟨rightIs, rightBody⟩ | rightBody <;>
    rw [leftBody, rightBody] at same
  · rw [leftIs, rightIs]
  · exact absurd same textsDiffer
  · exact absurd same (secondByte _ _ _)
  · exact absurd same.symm textsDiffer
  · rw [leftIs, rightIs]
  · exact absurd same (secondByte _ _ _)
  · exact absurd same.symm (secondByte _ _ _)
  · exact absurd same.symm (secondByte _ _ _)
  · have lengths := congrArg List.length same
    simp only [List.length_cons, List.length_replicate, Nat.add_right_cancel_iff] at lengths
    exact (Countable.exists_injective_nat (AutomationProposalRecord Unit)).choose_spec lengths

theorem sampleSerde_lawful : (serdeOfBody sampleBody).Lawful := by
  apply serdeOfBody_lawful sampleBody_injective
  · intro record
    rcases sampleBody_cases record with ⟨-, body⟩ | ⟨-, body⟩ | body <;> rw [body]
    · decide
    · decide
    · simp [newline, List.mem_replicate]
  · intro record
    rcases sampleBody_cases record with ⟨-, body⟩ | ⟨-, body⟩ | body <;> rw [body]
    · rfl
    · rfl
    · rfl
  · intro record
    rcases sampleBody_cases record with ⟨-, body⟩ | ⟨-, body⟩ | body <;> rw [body]
    · decide
    · decide
    · simp [List.mem_replicate]

/-- Queued into an empty store, then approved. -/
theorem proposals_keep_identity_approved :
    CallKeeps (serdeOfBody sampleBody) "proposals.jsonl"
      (finalState (applyCall (serdeOfBody sampleBody) "proposals.jsonl")
        (.start Store.empty 0) [.append queued 0 none])
      (.update "gpu-7" "approved" 9 ⟨none, none, none, .done⟩) :=
  (proposals_keep_identity (serdeOfBody sampleBody) sampleSerde_lawful "proposals.jsonl"
    Store.empty [] Store.wellNamed_empty rfl List.nodup_nil
    [.append queued 0 none, .update "gpu-7" "approved" 9 ⟨none, none, none, .done⟩]
    ⟨nofun, trivial, trivial⟩).2
      [.append queued 0 none] _ [] rfl

end Sample

end Automation
end RocmCli
