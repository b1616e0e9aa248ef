import RocmCli.Gguf.RoundTrip

namespace RocmCli
namespace Gguf

open Scan Text

/-!
# Truncated headers

A header without tensor records can end in a metadata value that is only seeked
past, and nothing is read after it.  The parser then accepts the data without
this end.  Wherever the data do not start like such a header, a header that is
accepted lies in the data, and no shorter part of it is accepted.
-/

/-- A header that is accepted lies in the data and is not accepted when it is
cut short. -/
def RefusesTruncation (data : Bytes) : Prop :=
  forall header after, parseGgufHeader data 0 = .ok (header, after) ->
    after ≤ data.length ∧
      forall cut, cut < after -> forall result, parseGgufHeader (data.take cut) 0 ≠ .ok result

/-- The data start like this header up to the end that is passed over, and
this end is not empty. -/
structure StartsPassingOver (data : Bytes) (content : HeaderContent maxArrayDepth) : Prop where
  bounded : content.Bounded
  few : content.FewEntries
  passesOver : 0 < content.skippedEnd
  starts : content.encode.take (content.encode.length - content.skippedEnd) <+: data

/-- What ends in bytes that are passed over can end in any others. -/
theorem exists_passingOver {content : HeaderContent maxArrayDepth} (bounded : content.Bounded)
    (few : content.FewEntries) {bytes : Bytes} (hasLength : bytes.length = content.skippedEnd) :
    exists other : HeaderContent maxArrayDepth, other.Bounded ∧ other.FewEntries ∧
      other.skippedEnd = content.skippedEnd ∧
      other.encode =
        content.encode.take (content.encode.length - content.skippedEnd) ++ bytes := by
  rcases accepted_iff.mpr ⟨bounded, few⟩ with ⟨metadata, accepted⟩
  rcases readParts_scans.free content (content.preamble, metadata, _) bytes
    ⟨accepted.reads, rfl, rfl⟩ bounded.size hasLength with
    ⟨other, ⟨reads, -, -⟩, sameEnd, sameEncode⟩
  change other.encode = content.encode.take _ ++ bytes at sameEncode
  have sameLength : other.encode.length = content.encode.length := by
    have fits := (contentLayout maxArrayDepth).unread_le content
    change content.skippedEnd ≤ content.encode.length at fits
    rw [sameEncode, List.length_append, List.length_take, hasLength]
    change min (content.encode.length - content.skippedEnd) _ + _ = _
    omega
  have otherAccepted : other.Accepted metadata := ⟨reads, accepted.blocks, sameLength ▸ bounded.size⟩
  rcases accepted_iff.mp ⟨metadata, otherAccepted⟩ with ⟨otherBounded, otherFew⟩
  exact ⟨other, otherBounded, otherFew, sameEnd, sameEncode⟩

/-- The data need not go on after such a start. -/
theorem accepts_start {data : Bytes} {content : HeaderContent maxArrayDepth}
    (passes : StartsPassingOver data content) :
    exists header, parseGgufHeader data 0 = .ok (header, content.encode.length) := by
  have fits := (contentLayout maxArrayDepth).unread_le content
  change content.skippedEnd ≤ content.encode.length at fits
  have starts := passes.starts
  generalize isRead : content.encode.length - content.skippedEnd = read at starts
  have inside : read ≤ data.length := by
    have shorter := starts.length_le
    rw [List.length_take] at shorter
    omega
  rcases exists_passingOver passes.bounded passes.few
    (length_window data read content.skippedEnd) with ⟨other, bounded, few, sameEnd, sameEncode⟩
  have isStart : content.encode.take read = window data 0 read := by
    rw [window_inside (by omega), List.drop_zero]
    have taken := List.prefix_iff_eq_take.mp starts
    rwa [List.length_take, Nat.min_eq_left (by omega)] at taken
  rw [isRead, isStart] at sameEncode
  have isWindow : other.encode = window data 0 (read + content.skippedEnd) := by
    rw [window_add, Nat.zero_add, sameEncode]
  have sameLength : other.encode.length = content.encode.length := by
    rw [isWindow, length_window]
    omega
  have holds : Holds data 0 other.encode other.skippedEnd := by
    refine ⟨?_, fun _ => by omega⟩
    rw [sameLength, isWindow]
    congr 1
    omega
  refine ⟨other.header, ?_⟩
  rw [← sameLength]
  exact parse_iff_bounded.mpr ⟨other, bounded, few, holds, rfl, rfl⟩

theorem encode_pos {levels : Nat} (content : HeaderContent levels) : 0 < content.encode.length := by
  rw [HeaderContent.encode, List.length_append]
  exact Nat.lt_of_lt_of_le (by decide : 0 < magic.length) (Nat.le_add_right _ _)

/-- What is accepted and has no end that is passed over lies in the data. -/
theorem accepted_inside {data : Bytes} (none : ¬ exists content, StartsPassingOver data content)
    {header : GgufHeader} {after : Nat} (accepted : parseGgufHeader data 0 = .ok (header, after)) :
    exists content : HeaderContent maxArrayDepth, content.Bounded ∧ content.FewEntries ∧
      content.skippedEnd = 0 ∧ content.encode = data.take after ∧
      content.encode.length = after ∧ after ≤ data.length := by
  rcases parse_iff_bounded.mp accepted with ⟨content, bounded, few, holds, rfl, -⟩
  have allRead : content.skippedEnd = 0 := by
    by_contra some
    exact none ⟨content, bounded, few, Nat.pos_of_ne_zero some, holds.start⟩
  rw [allRead] at holds
  have inside := holds.inside (encode_pos content)
  rw [Nat.zero_add, Nat.add_zero] at inside
  exact ⟨content, bounded, few, allRead, holds.take.symm, rfl, inside⟩

/-- Truncation is refused exactly where the data do not start like a header
that ends in bytes that are passed over. -/
theorem refusesTruncation_iff (data : Bytes) :
    RefusesTruncation data ↔ ¬ exists content, StartsPassingOver data content := by
  constructor
  · rintro refuses ⟨content, passes⟩
    rcases accepts_start passes with ⟨header, accepted⟩
    have fits := (contentLayout maxArrayDepth).unread_le content
    change content.skippedEnd ≤ content.encode.length at fits
    have some := passes.passesOver
    -- The start on its own is a shorter part that is accepted too.
    have startsCut : content.encode.take (content.encode.length - content.skippedEnd) <+:
        data.take (content.encode.length - content.skippedEnd) := by
      apply List.prefix_take_iff.mpr
      refine ⟨passes.starts, ?_⟩
      rw [List.length_take]
      exact Nat.min_le_left _ _
    have passesCut : StartsPassingOver
        (data.take (content.encode.length - content.skippedEnd)) content :=
      ⟨passes.bounded, passes.few, some, startsCut⟩
    rcases accepts_start passesCut with ⟨cutHeader, cutAccepted⟩
    exact (refuses header _ accepted).2 _ (by omega) _ cutAccepted
  · intro none header after accepted
    rcases accepted_inside none accepted with ⟨content, bounded, few, allRead, isStart, rfl, inside⟩
    refine ⟨inside, ?_⟩
    rintro cut isCut ⟨cutHeader, cutAfter⟩ cutAccepted
    have noneCut : ¬ exists content, StartsPassingOver (data.take cut) content := by
      rintro ⟨other, passes⟩
      exact none ⟨other, passes.bounded, passes.few, passes.passesOver,
        passes.starts.trans (List.take_prefix _ _)⟩
    rcases accepted_inside noneCut cutAccepted with
      ⟨other, otherBounded, otherFew, otherRead, otherStart, rfl, otherInside⟩
    -- The shorter header would also be found in all the data.
    rw [List.length_take] at otherInside
    rw [List.take_take, Nat.min_eq_left (by omega)] at otherStart
    have holds : Holds data 0 other.encode other.skippedEnd := by
      refine ⟨?_, fun _ => by omega⟩
      rw [window_inside (by omega), List.drop_zero]
      exact otherStart
    have again := parse_iff_bounded.mpr ⟨other, otherBounded, otherFew, holds, rfl, rfl⟩
    have same := congrArg Prod.snd (Except.ok.inj (accepted.symm.trans again))
    change content.encode.length = other.encode.length at same
    omega

/-- A header whose only value is an array of a hundred bytes that are not
there. -/
def cutArrayHeader : Bytes :=
  magic ++ leBytes 4 3 ++ leBytes 8 0 ++ leBytes 8 1 ++ leBytes 8 0 ++ leBytes 4 9 ++
    leBytes 4 0 ++ leBytes 8 100

theorem accepts_cut_array : ¬ RefusesTruncation cutArrayHeader := by
  intro refuses
  have isShort : cutArrayHeader.length = 48 := by decide
  have accepted : (parseGgufHeader cutArrayHeader 0).toOption.map Prod.snd = some 148 := by
    decide +kernel
  cases parsed : parseGgufHeader cutArrayHeader 0 with
  | error error =>
      rw [parsed] at accepted
      cases accepted
  | ok result =>
      rw [parsed] at accepted
      have isAfter : result.2 = 148 := Option.some.inj accepted
      have inside := (refuses result.1 result.2 parsed).1
      omega

end Gguf
end RocmCli
