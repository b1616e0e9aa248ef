import RocmCli.Gguf.Header

namespace RocmCli
namespace Gguf

open Scan Text

/-!
# What the parser accepts

The parser accepts the contents whose entries can be absorbed, whose numbers
are plausible and which end within the limit, and nothing else.  The data needs
to hold such a content only up to its last read.
-/

/-! ## The limit -/

theorem readEntry_capped (item : Nat) (metadata : Metadata) :
    Capped maxHeaderBytes (readEntry item metadata) := by
  apply Capped.of_last
  intro key
  apply Capped.of_last
  intro valueType
  apply Capped.of_last
  intro value
  apply capped_within
  intro data position result after accepted
  cases absorbed : metadata.absorb key value with
  | error error =>
      rw [absorbed] at accepted
      cases accepted
  | ok next =>
      rw [absorbed] at accepted
      exact (congrArg Prod.snd (Except.ok.inj accepted)).symm

theorem readTensor_capped (item : Nat) (tensors : Tensors) :
    Capped maxHeaderBytes (readTensor item tensors) := by
  apply Capped.of_last
  intro name
  apply Capped.of_last
  intro dims
  have rest : Capped maxHeaderBytes
      (do
        let elements ← forRange readDim dims 0 1
        let _ggmlType ← Reader.u32
        let offset ← Reader.u64
        Reader.checkSize
        return tensors.add name elements offset) := by
    apply Capped.of_last
    intro elements
    apply Capped.of_last
    intro ggmlType
    apply Capped.of_last
    intro offset
    apply capped_within
    intro data position result after accepted
    exact (congrArg Prod.snd (Except.ok.inj accepted)).symm
  intro data position result after accepted
  dsimp only at accepted
  split at accepted
  next => cases accepted
  next => exact rest data position result after accepted

theorem readParts_capped {data : Bytes} {parts : Preamble × Metadata × Tensors} {after : Nat}
    (accepted : readParts data 0 = .ok (parts, after)) : after ≤ maxHeaderBytes := by
  rcases bind_eq_ok.mp accepted with ⟨preamble, numbersEnd, numbersRead, accepted⟩
  rcases bind_eq_ok.mp accepted with ⟨metadata, entriesEnd, entriesRead, accepted⟩
  rcases bind_eq_ok.mp accepted with ⟨_, still, aligned, accepted⟩
  rcases bind_eq_ok.mp accepted with ⟨tensors, tensorsEnd, tensorsRead, accepted⟩
  have isAfter : tensorsEnd = after := congrArg Prod.snd (Except.ok.inj accepted)
  have isStill : entriesEnd = still := by
    cases decided : usableAlignment metadata with
    | error error =>
        rw [decided] at aligned
        cases aligned
    | ok value =>
        rw [decided] at aligned
        exact congrArg Prod.snd (Except.ok.inj aligned)
  have numbersInside : numbersEnd ≤ maxHeaderBytes := by
    rcases readPreamble_scans.finds data 0 preamble numbersEnd numbersRead with
      ⟨numbers, -, isEnd, -⟩
    have hasLength : (preambleLayout.encode numbers).length = 24 := by
      change (magic ++ (leBytes 4 _ ++ (leBytes 8 _ ++ leBytes 8 _))).length = 24
      simp only [List.length_append, length_leBytes]
      rfl
    rw [isEnd, hasLength]
    decide
  have entriesInside := capped_forRange readEntry_capped numbersInside entriesRead
  rw [isStill] at entriesInside
  have tensorsInside := capped_forRange readTensor_capped entriesInside tensorsRead
  rwa [isAfter] at tensorsInside

/-! ## Acceptance -/

/-- A content the parser accepts, and what its entries say. -/
structure HeaderContent.Accepted {levels : Nat} (content : HeaderContent levels)
    (metadata : Metadata) : Prop where
  reads : content.Reads metadata
  blocks : plausibleBlocks metadata = .ok ()
  size : content.encode.length ≤ maxHeaderBytes

/-- What is left to do at the end of a header. -/
theorem finish_iff {preamble : Preamble} {metadata : Metadata} {tensors : Tensors} {data : Bytes}
    {reached after : Nat} {header : GgufHeader} :
    (do
      let headerEnd ← streamPosition
      plausibleBlocks metadata
      return makeHeader preamble metadata tensors headerEnd : Reader GgufHeader)
      data reached = .ok (header, after) ↔
    plausibleBlocks metadata = .ok () ∧ after = reached ∧
      header = makeHeader preamble metadata tensors reached := by
  cases decided : plausibleBlocks metadata with
  | error error => exact ⟨nofun, fun parts => (nomatch parts.1)⟩
  | ok value =>
      constructor
      · intro accepted
        have same := Except.ok.inj accepted
        exact ⟨rfl, (congrArg Prod.snd same).symm, (congrArg Prod.fst same).symm⟩
      · rintro ⟨-, rfl, rfl⟩
        rfl

theorem parse_iff {data : Bytes} {header : GgufHeader} {after : Nat} :
    parseGgufHeader data 0 = .ok (header, after) ↔
      exists (content : HeaderContent maxArrayDepth) (metadata : Metadata),
        content.Accepted metadata ∧ Holds data 0 content.encode content.skippedEnd ∧
        after = content.encode.length ∧
        header = makeHeader content.preamble metadata
          (content.tensors.foldl Tensors.addRecord Tensors.initial) after := by
  constructor
  · intro accepted
    rcases bind_eq_ok.mp accepted with ⟨⟨preamble, metadata, tensors⟩, reached, read, finished⟩
    rcases finish_iff.mp finished with ⟨blocks, isAfter, isHeader⟩
    have inside := readParts_capped read
    rcases readParts_scans.finds data 0 _ _ read with
      ⟨content, ⟨reads, isPreamble, areTensors⟩, isEnd, holds⟩
    rw [Nat.zero_add] at isEnd
    change reached = content.encode.length at isEnd
    refine ⟨content, metadata, ⟨reads, blocks, isEnd ▸ inside⟩, holds, isAfter.trans isEnd, ?_⟩
    rw [isHeader, isAfter]
    exact congrArg₂ (makeHeader · metadata · reached) isPreamble areTensors
  · rintro ⟨content, metadata, accepted, holds, isAfter, isHeader⟩
    have inside : 0 + content.encode.length ≤ maxHeaderBytes := by
      rw [Nat.zero_add]
      exact accepted.size
    have read := readParts_scans.takes data 0 content (content.preamble, metadata, _)
      ⟨accepted.reads, rfl, rfl⟩ holds inside
    rw [Nat.zero_add] at read
    refine bind_eq_ok.mpr ⟨_, _, read, finish_iff.mpr ⟨accepted.blocks, isAfter, ?_⟩⟩
    rw [isHeader, isAfter]
    rfl

end Gguf
end RocmCli
