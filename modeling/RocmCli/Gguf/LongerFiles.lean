import RocmCli.Gguf.RangedReads
import RocmCli.Gguf.RoundTrip

namespace RocmCli
namespace Gguf

open Scan Text

/-!
# Headers of longer files

What follows a header in a file changes nothing about it, and a remote file has
the header of the content it starts with.
-/

/-- What is accepted is accepted in the same way when the data go on. -/
theorem parse_append {data : Bytes} {header : GgufHeader} {after : Nat}
    (accepted : parseGgufHeader data 0 = .ok (header, after)) (more : Bytes) :
    parseGgufHeader (data ++ more) 0 = .ok (header, after) := by
  rcases parse_iff.mp accepted with ⟨content, metadata, ⟨reads, blocks, size⟩, holds, rfl, rfl⟩
  have fits := (contentLayout maxArrayDepth).unread_le content
  change content.skippedEnd ≤ content.encode.length at fits
  have starts := holds.start.trans (List.prefix_append data more)
  generalize isRead : content.encode.length - content.skippedEnd = read at starts
  have inside := starts.length_le
  rw [List.length_take, Nat.min_eq_left (by omega)] at inside
  -- The end that is passed over becomes what now stands there.
  rcases readParts_scans.free content (content.preamble, metadata, _)
    (window (data ++ more) read content.skippedEnd) ⟨reads, rfl, rfl⟩ size (length_window _ _ _)
    with ⟨other, ⟨otherReads, isPreamble, areTensors⟩, sameEnd, sameEncode⟩
  change other.encode = content.encode.take (content.encode.length - content.skippedEnd) ++ _
    at sameEncode
  have isStart : content.encode.take read = window (data ++ more) 0 read := by
    rw [window_inside (by omega), List.drop_zero]
    have taken := List.prefix_iff_eq_take.mp starts
    rwa [List.length_take, Nat.min_eq_left (by omega)] at taken
  have isWindow : other.encode = window (data ++ more) 0 (read + content.skippedEnd) := by
    rw [window_add, Nat.zero_add, sameEncode, isRead, isStart]
  have sameLength : other.encode.length = content.encode.length := by
    rw [isWindow, length_window]
    omega
  refine parse_iff.mpr ⟨other, metadata, ⟨otherReads, blocks, sameLength ▸ size⟩, ⟨?_, ?_⟩,
    sameLength.symm, ?_⟩
  · rw [sameLength, isWindow]
    congr 1
    omega
  · intro _
    change other.skippedEnd = content.skippedEnd at sameEnd
    omega
  · exact congrArg₂ (makeHeader · metadata · content.encode.length) isPreamble areTensors

/-- A header that ends in an array, which is passed over. -/
def arrayHeader : HeaderContent maxArrayDepth where
  version := 3
  entries :=
    [⟨asciiBytes "general.architecture", .string (asciiBytes "m")⟩,
      ⟨asciiBytes "m.block_count", .scalar .uint8 9⟩,
      ⟨asciiBytes "x", .array (.scalars .float64 [0, 0])⟩]
  tensors := []

theorem arrayHeader_bounded : arrayHeader.Bounded where
  version := Or.inr rfl
  keys := by decide
  names := by decide
  dims := by decide
  shapeKeys := by decide
  alignment := by decide
  blocks := by
    have isNine : arrayHeader.widest "block_count" = some 9 := by decide
    intro blocks isBlocks
    rw [isNine] at isBlocks
    cases isBlocks
    decide
  size := by decide +kernel

/-- The file ends inside the array, and when it goes on there are other elements. -/
theorem parse_append_passedOver :
    parseGgufHeader (arrayHeader.encode.take 121 ++ [7, 7, 7, 7, 7, 7]) 0 =
      .ok (arrayHeader.header, 132) := by
  have holds : Holds (arrayHeader.encode.take 121) 0 arrayHeader.encode
      arrayHeader.skippedEnd := ⟨by decide +kernel, by decide +kernel⟩
  have accepted : parseGgufHeader (arrayHeader.encode.take 121) 0 =
      .ok (arrayHeader.header, 132) :=
    parse_iff_bounded.mpr ⟨arrayHeader, arrayHeader_bounded, ⟨by decide, by decide⟩, holds,
      by decide +kernel, rfl⟩
  exact parse_append accepted _

/-- What a remote parse finds is the header of a bounded content which the file
starts with, and where the file starts with one, its header is found or the
connection fails. -/
def FoundRemotely (file : Bytes) (result : Except ParseError GgufHeader) (after : RangedReader) :
    Prop :=
  (forall header, result = .ok header ->
    exists content : HeaderContent maxArrayDepth, content.Bounded ∧ content.FewEntries ∧
      Holds file 0 content.encode content.skippedEnd ∧ header = content.header ∧
      after.position = content.encode.length) ∧
    forall content : HeaderContent maxArrayDepth, content.Bounded -> content.FewEntries ->
      Holds file 0 content.encode content.skippedEnd ->
      EndsAs (.ok (content.header, content.encode.length)) after result

/-- Whoever serves a file, its header is found as it stands there. -/
theorem remote_header_found (file : Bytes) (fits : file.length ≤ maxU64) (network : Network)
    (serves : ServesFile file network) (url : String) :
    FoundRemotely file (parseGgufHeaderRanged network (RangedReader.new url file.length)).1
      (parseGgufHeaderRanged network (RangedReader.new url file.length)).2 := by
  have ends : EndsAs _ (parseGgufHeaderRanged network (RangedReader.new url file.length)).2
      (parseGgufHeaderRanged network (RangedReader.new url file.length)).1 :=
    runRanged_follows Script.parseGgufHeader (new_follows file url) fits serves rfl
  rw [Script.scan_parseGgufHeader] at ends
  constructor
  · intro header parsed
    rw [parsed] at ends
    rcases parse_iff_bounded.mp ends with ⟨content, bounded, few, holds, reached, described⟩
    exact ⟨content, bounded, few, holds, described, reached⟩
  · intro content bounded few holds
    rwa [← parse_iff_bounded.mpr ⟨content, bounded, few, holds, rfl, rfl⟩]

/-- A file with a header and data, sent whole whatever is asked for. -/
def servedFile : Bytes := arrayHeader.encode ++ [1, 2, 3]

def servedNetwork : Network := fun _ _ _ =>
  .response ⟨206, none, some "bytes 0-134/135", servedFile, none⟩

theorem servedNetwork_serves : ServesFile servedFile servedNetwork := by
  intro requests url range response start came status isStart count inBody inFile
  cases came
  have zero : contentRangeStart ⟨206, none, some "bytes 0-134/135", servedFile, none⟩ = some 0 := by
    decide +kernel
  rw [zero] at isStart
  cases isStart
  rfl

abbrev servedReader : RangedReader := RangedReader.new "https://huggingface.co/x" servedFile.length

/-- A parse that does not fail returns the header that stands there. -/
theorem FoundRemotely.returned {file : Bytes} {result : Except ParseError GgufHeader}
    {after : RangedReader} (found : FoundRemotely file result after)
    {content : HeaderContent maxArrayDepth} (bounded : content.Bounded) (few : content.FewEntries)
    (holds : Holds file 0 content.encode content.skippedEnd)
    (parsed : result.toOption.isSome = true) : result = .ok content.header := by
  have ends := found.2 content bounded few holds
  rcases result with error | header
  · cases parsed
  · rw [(Prod.mk.inj (Except.ok.inj ends)).1]

theorem served_header_found :
    FoundRemotely servedFile (parseGgufHeaderRanged servedNetwork servedReader).1
        (parseGgufHeaderRanged servedNetwork servedReader).2 ∧
      (parseGgufHeaderRanged servedNetwork servedReader).1 = .ok arrayHeader.header := by
  have found := remote_header_found servedFile (by decide +kernel) servedNetwork
    servedNetwork_serves "https://huggingface.co/x"
  have holds : Holds servedFile 0 arrayHeader.encode arrayHeader.skippedEnd :=
    ⟨by decide +kernel, by decide +kernel⟩
  exact ⟨found, found.returned arrayHeader_bounded ⟨by decide, by decide⟩ holds
    (by decide +kernel)⟩

end Gguf
end RocmCli
