import RocmCli.Gguf.Walk

namespace RocmCli
namespace Gguf

open Scan

/-!
# How far the walk of a header reads

After every entry and every record the walk may be no further than a header may
be long, and neither reads much from there: only the elements of an array of
strings or of arrays are many, and each may pass over as much as a header may
be long.  The elements decide how far is read.
-/

namespace Script

variable {R S : Type} {source : Source} {limit position : Nat}

/-! ## The readers of values -/

theorem u32_bounded (clear : Clear source limit position 4) :
    Bounded source limit u32 position fun _ reached => reached = position + 4 := by
  refine (Bounded.bytes clear).bind fun buf reached isEnd => ?_
  exact .pure isEnd

theorem u64_bounded (clear : Clear source limit position 8) :
    Bounded source limit u64 position fun _ reached => reached = position + 8 := by
  refine (Bounded.bytes clear).bind fun buf reached isEnd => ?_
  exact .pure isEnd

theorem skip_bounded (count : Nat) :
    Bounded source limit (skip count) position fun _ reached =>
      reached = position + count ∧ count ≤ maxHeaderBytes := by
  unfold skip
  split
  next long => exact .fail
  next short => exact Bounded.seekForward.mono fun _ _ isEnd => ⟨isEnd, Nat.not_lt.mp short⟩

theorem checkSize_bounded :
    Bounded source limit checkSize position fun _ reached =>
      reached = position ∧ position ≤ maxHeaderBytes := by
  refine Bounded.streamPosition.bind ?_
  rintro found reached ⟨rfl, rfl⟩
  split
  next far => exact .fail
  next near => exact .pure ⟨rfl, Nat.not_lt.mp near⟩

theorem checkSizeAfter_bounded (item : Nat) :
    Bounded source limit (checkSizeAfter item) position fun _ reached =>
      reached = position ∧
        (item % sizeCheckEvery = sizeCheckEvery - 1 -> position ≤ maxHeaderBytes) := by
  unfold checkSizeAfter
  split
  next due => exact checkSize_bounded.mono fun _ _ both => ⟨both.1, fun _ => both.2⟩
  next early => exact .pure ⟨rfl, fun due => absurd due early⟩

theorem string_bounded {keepUpTo : Nat} (clear : Clear source limit position (8 + keepUpTo)) :
    Bounded source limit (string keepUpTo) position fun text reached =>
      text.isSome = true -> reached ≤ position + (8 + keepUpTo) := by
  refine (u64_bounded (clear.first (Nat.le_add_right _ _))).bind ?_
  rintro len reached rfl
  split
  next long =>
    refine (skip_bounded len).bind fun _ _ _ => ?_
    exact .pure nofun
  next short =>
    refine (Bounded.bytes (clear.part (by omega))).bind fun buf after isEnd => ?_
    refine .pure fun _ => ?_
    omega

variable {width : Nat}

variable {num : Num}

theorem scalar_bounded (clear : Clear source limit position width) :
    Bounded source limit (scalar width num) position fun _ _ => True := by
  refine (Bounded.bytes clear).bind fun buf reached isEnd => ?_
  exact .pure trivial

theorem keptElement_bounded {item : Nat} {values : List Nat × Bool}
    (clear : Clear source limit position width) :
    Bounded source limit (keptElement width num item values) position fun _ reached =>
      reached = position + width := by
  refine (Bounded.bytes clear).bind fun buf reached isEnd => ?_
  split
  · exact .pure isEnd
  · exact .pure isEnd

theorem width_le {valueType : Nat} (isFixed : fixedWidth valueType = some (width, num)) :
    width ≤ 8 := by
  unfold fixedWidth at isFixed
  split at isFixed
  all_goals cases isFixed
  all_goals decide

variable {keep : Bool}

theorem fixedArray_bounded {len : Nat} (narrow : width ≤ 8)
    (clear : keep = true -> Clear source limit position (8 * maxKeptArray)) :
    Bounded source limit (fixedArray width num len keep) position fun _ _ => True := by
  unfold fixedArray
  split
  next kept =>
    rw [Bool.and_eq_true, Bool.and_eq_true] at kept
    rcases kept with ⟨⟨isKept, _⟩, few⟩
    have count : len ≤ maxKeptArray := of_decide_eq_true few
    have allClear := clear isKept
    refine (Bounded.forRange (fun done _ reached => reached = position + done * width)
      (by omega) ?_).bind fun _ _ _ => .pure trivial
    rintro done middle between more _ rfl
    have inside : done * width + width ≤ 8 * maxKeptArray := by
      calc done * width + width = (done + 1) * width := (Nat.succ_mul done width).symm
        _ ≤ maxKeptArray * 8 := Nat.mul_le_mul (by omega) narrow
        _ = 8 * maxKeptArray := Nat.mul_comm _ _
    refine (keptElement_bounded (allClear.part inside)).mono fun _ _ isEnd => ?_
    rw [isEnd, Nat.succ_mul, Nat.add_assoc]
  next passed =>
    split
    · exact .fail
    · exact (skip_bounded _).bind fun _ _ _ => .pure trivial

/-! ## Elements -/

/-- The array at a position, with this many levels left to nest, or an array in
it, has an element at this start that is read for its length: a string's 8
bytes, or an array's type and length, 12. -/
inductive Element (source : Source) : Nat -> Nat -> Nat -> Nat -> Prop where
  | string {levels array len index start : Nat} :
      u32.run source array = .ok (8, array + 4) ->
      u64.run source (array + 4) = .ok (len, array + 12) -> index < len ->
      (Script.forRange skipString index 0 ()).run source (array + 12) = .ok ((), start) ->
      Element source levels array start 8
  | array {levels array len index start : Nat} :
      u32.run source array = .ok (9, array + 4) ->
      u64.run source (array + 4) = .ok (len, array + 12) -> index < len ->
      (Script.forRange (skipArray (Script.array levels false)) index 0 ()).run source
        (array + 12) = .ok ((), start) ->
      Element source (levels + 1) array start 12
  | inner {levels array len index nested start width : Nat} :
      u32.run source array = .ok (9, array + 4) ->
      u64.run source (array + 4) = .ok (len, array + 12) -> index < len ->
      (Script.forRange (skipArray (Script.array levels false)) index 0 ()).run source
        (array + 12) = .ok ((), nested) ->
      Element source levels nested start width ->
      Element source (levels + 1) array start width

variable {nested : Option (Script Value)}

section

variable (head : Clear source limit position 12)
  (kept : keep = true -> Clear source limit (position + 12) (8 * maxKeptArray))
include head kept

/-- What an array reads is its head, what is kept of it, and what its elements
read. -/
theorem arrayOf_bounded
    (strings : forall len index start, u32.run source position = .ok (8, position + 4) ->
      u64.run source (position + 4) = .ok (len, position + 12) -> index < len ->
      (Script.forRange skipString index 0 ()).run source (position + 12) = .ok ((), start) ->
      Clear source limit start 8) (arrays : forall array len index start, nested = some array ->
      u32.run source position = .ok (9, position + 4) ->
      u64.run source (position + 4) = .ok (len, position + 12) -> index < len ->
      (Script.forRange (skipArray array) index 0 ()).run source (position + 12) =
        .ok ((), start) ->
      Bounded source limit array start fun _ _ => True) :
    Bounded source limit (arrayOf nested keep) position fun _ _ => True := by
  refine (u32_bounded (head.first (by omega))).known.bind ?_
  rintro elementType _ ⟨typeRun, rfl⟩
  refine (u64_bounded (head.part (by omega))).known.bind ?_
  rintro len _ ⟨lenRun, isHead⟩
  rw [Nat.add_assoc] at isHead
  subst isHead
  split
  next width num isFixed => exact fixedArray_bounded (width_le isFixed) kept
  next =>
    split
    next isString =>
      subst isString
      refine (Bounded.forRange (fun _ _ _ => True) trivial ?_).bind fun _ _ _ => .pure trivial
      intro done _ between more runs _
      refine (u64_bounded (strings len done between typeRun lenRun more runs)).bind ?_
      intro itemLen _ _
      refine (skip_bounded itemLen).bind fun _ _ _ => ?_
      exact (checkSizeAfter_bounded _).mono fun _ _ _ => trivial
    next =>
      split
      next isArray =>
        subst isArray
        cases nested with
        | none => exact .fail
        | some array =>
            refine (Bounded.forRange (fun _ _ _ => True) trivial ?_).bind fun _ _ _ =>
              .pure trivial
            intro done _ between more runs _
            refine (arrays array len done between rfl typeRun lenRun more runs).bind ?_
            intro _ _ _
            exact (checkSizeAfter_bounded _).mono fun _ _ _ => trivial
      next => exact .fail

/-- An array is read within the limit if its own head is, what is kept of it and
the heads of its elements. -/
theorem array_bounded {levels : Nat}
    (elements : forall start width, Element source levels position start width ->
      Clear source limit start width) :
    Bounded source limit (array levels keep) position fun _ _ => True := by
  induction levels generalizing keep position with
  | zero =>
      refine arrayOf_bounded head kept ?_ nofun
      intro len index start typeRun lenRun more runs
      exact elements start 8 (.string typeRun lenRun more runs)
  | succ levels ih =>
      refine arrayOf_bounded head kept ?_ ?_
      · intro len index start typeRun lenRun more runs
        exact elements start 8 (.string typeRun lenRun more runs)
      · intro array len index start isNested typeRun lenRun more runs
        cases isNested
        refine ih (elements start 12 (.array typeRun lenRun more runs)) nofun ?_
        intro inner width element
        exact elements inner width (.inner typeRun lenRun more runs element)

end

theorem value_bounded {valueType : Nat}
    (clear : Clear source limit position (12 + 8 * maxKeptArray))
    (elements : valueType = 9 -> forall start width,
      Element source maxArrayDepth position start width -> Clear source limit start width) :
    Bounded source limit (value valueType keep) position fun _ _ => True := by
  unfold value
  split
  next width num isFixed =>
    have narrow := width_le isFixed
    exact scalar_bounded (clear.first (by omega))
  next =>
    split
    next =>
      have short : 8 + maxKeptString ≤ 12 + 8 * maxKeptArray := by decide
      exact (string_bounded (clear.first short)).bind fun _ _ _ => .pure trivial
    next =>
      split
      next isArray =>
        exact array_bounded (clear.first (Nat.le_add_right _ _))
          (fun _ => clear.part (Nat.le_refl _)) (elements isArray)
      next => exact .fail

/-! ## Entries and records -/

theorem shortString_bounded {tooLong : String}
    (clear : Clear source limit position (8 + maxKeyLen)) :
    Bounded source limit (shortString tooLong) position fun _ reached =>
      reached ≤ position + (8 + maxKeyLen) := by
  refine (string_bounded clear).bind fun text reached inside => ?_
  cases text with
  | none => exact .fail
  | some text => exact .pure (inside rfl)

/-- The most an entry or a record reads, the elements of its array apart. -/
def entryBytes : Nat := 8 + maxKeyLen + 4 + (12 + 8 * maxKeptArray)

theorem readEntry_bounded {item : Nat} {metadata : Metadata} (near : position + entryBytes ≤ limit)
    (elements : forall key typeAt array start width,
      (shortString "a metadata key is implausibly long").run source position =
        .ok (key, typeAt) ->
      u32.run source typeAt = .ok (9, array) ->
      Element source maxArrayDepth array start width -> Clear source limit start width) :
    Bounded source limit (readEntry item metadata) position fun _ reached =>
      reached ≤ maxHeaderBytes := by
  unfold entryBytes at near
  refine (shortString_bounded (.of_le (by omega))).known.bind ?_
  rintro key typeAt ⟨keyRun, keyEnd⟩
  refine (u32_bounded (.of_le (by omega))).known.bind ?_
  rintro valueType array ⟨typeRun, rfl⟩
  have valueBounded : Bounded source limit (value valueType (isKeptKey key)) (typeAt + 4)
      fun _ _ => True := by
    refine value_bounded (.of_le (by omega)) ?_
    rintro rfl start width element
    exact elements key typeAt _ start width keyRun typeRun element
  refine valueBounded.bind fun found _ _ => ?_
  refine checkSize_bounded.bind ?_
  rintro _ _ ⟨rfl, near⟩
  exact .ofExcept _ fun _ _ => near

theorem readDims_bounded {dims : Nat} (clear : Clear source limit position (8 * dims)) :
    Bounded source limit (forRange readDim dims 0 1) position fun _ reached =>
      reached = position + 8 * dims := by
  refine Bounded.forRange (fun done _ reached => reached = position + 8 * done) rfl ?_
  rintro done middle between more _ rfl
  refine (u64_bounded (clear.part (by omega))).bind fun _ _ isEnd => ?_
  exact .pure (by omega)

theorem readTensor_bounded {item : Nat} {tensors : Tensors} (near : position + entryBytes ≤ limit) :
    Bounded source limit (readTensor item tensors) position fun _ reached =>
      reached ≤ maxHeaderBytes := by
  have room : 8 + maxKeyLen + (4 + 8 * maxTensorDims + 12) ≤ entryBytes := by decide
  refine (shortString_bounded (.of_le (by omega))).bind fun _ named nameEnd => ?_
  refine (u32_bounded (.of_le (by omega))).bind ?_
  rintro dims _ rfl
  split
  next many => exact .fail
  next few =>
    refine (readDims_bounded (.of_le (by omega))).bind ?_
    rintro _ _ rfl
    refine (u32_bounded (.of_le (by omega))).bind ?_
    rintro _ _ rfl
    refine (u64_bounded (.of_le (by omega))).bind ?_
    rintro _ _ rfl
    refine checkSize_bounded.bind ?_
    rintro _ _ ⟨rfl, near⟩
    exact .pure near

theorem readPreamble_bounded (near : position + 24 ≤ limit) :
    Bounded source limit readPreamble position fun _ reached => reached = position + 24 := by
  refine (Bounded.bytes (.of_le (by omega))).bind ?_
  rintro found _ rfl
  split
  · exact .fail
  · refine (u32_bounded (.of_le (by omega))).bind ?_
    rintro version _ rfl
    split
    · exact .fail
    · refine (u64_bounded (.of_le (by omega))).bind ?_
      rintro tensorCount _ rfl
      refine (u64_bounded (.of_le (by omega))).bind ?_
      rintro metadataCount _ rfl
      refine (Bounded.ofExcept (fun _ reached => reached = position + 24)
        fun _ _ => by omega).bind ?_
      rintro _ _ rfl
      refine (Bounded.ofExcept (fun _ reached => reached = position + 24)
        fun _ _ => rfl).bind ?_
      rintro _ _ rfl
      exact .pure rfl

/-! ## The walk -/

/-- The walk of the header comes to an array's element here. -/
inductive Passed (source : Source) (start width : Nat) : Prop where
  | intro {preamble : Preamble} {metadata : Metadata} {key : String}
      {first index entry typeAt array : Nat} :
      readPreamble.run source 0 = .ok (preamble, first) -> index < preamble.metadataCount ->
      (forRange readEntry index 0 Metadata.initial).run source first = .ok (metadata, entry) ->
      (shortString "a metadata key is implausibly long").run source entry = .ok (key, typeAt) ->
      u32.run source typeAt = .ok (9, array) ->
      Element source maxArrayDepth array start width -> Passed source start width

variable {start : Nat}

theorem Element.width_pos {levels array : Nat} (element : Element source levels array start width) :
    0 < width := by
  induction element with
  | string => decide
  | array => decide
  | inner _ _ _ _ _ ih => exact ih

theorem Passed.width_pos (passed : Passed source start width) : 0 < width := by
  rcases passed with ⟨_, _, _, _, _, element⟩
  exact element.width_pos

theorem parseGgufHeader_bounded (far : maxHeaderBytes + entryBytes ≤ limit)
    (elements : forall start width, Passed source start width -> Clear source limit start width) :
    Bounded source limit parseGgufHeader 0 fun _ _ => True := by
  have parts : Bounded source limit readParts 0 fun _ _ => True := by
    have room : 24 ≤ maxHeaderBytes := by decide
    refine (readPreamble_bounded (by omega)).known.bind ?_
    rintro preamble _ ⟨preambleRun, rfl⟩
    refine (Bounded.forRange (fun _ _ reached => reached ≤ maxHeaderBytes) room ?_).bind
      fun metadata entriesEnd near => ?_
    · intro done metadata entry more entriesRun near
      refine readEntry_bounded (by omega) fun key typeAt array start width keyRun typeRun element =>
        elements start width ?_
      exact .intro preambleRun more entriesRun keyRun typeRun element
    · refine (Bounded.ofExcept (fun _ reached => reached ≤ maxHeaderBytes)
        fun _ _ => near).bind fun _ checked near => ?_
      refine (Bounded.forRange (fun _ _ reached => reached ≤ maxHeaderBytes) near ?_).bind
        fun _ _ _ => .pure trivial
      intro done tensors record _ _ near
      exact readTensor_bounded (by omega)
  refine parts.bind fun _ reached _ => ?_
  refine Bounded.streamPosition.bind fun _ _ _ => ?_
  refine (Bounded.ofExcept (fun _ _ => True) fun _ _ => trivial).bind fun _ _ _ => ?_
  exact .pure trivial

/-! ## Every element it comes to is read -/

variable {offset : Nat}

theorem bytes_reads {count : Nat} (after : position ≤ offset) (before : offset < position + count)
    (inside : offset < source.length) :
    (bytes count).readsByte source offset position = true := by
  unfold bytes
  rw [readsByte_readExact, decide_eq_true after, decide_eq_true before, decide_eq_true inside]
  rfl

theorem u64_reads (after : position ≤ offset) (before : offset < position + 8)
    (inside : offset < source.length) : u64.readsByte source offset position = true :=
  readsByte_bind.mpr (.inl (bytes_reads after before inside))

theorem u32_reads (after : position ≤ offset) (before : offset < position + 4)
    (inside : offset < source.length) : u32.readsByte source offset position = true :=
  readsByte_bind.mpr (.inl (bytes_reads after before inside))

/-- A number that is there is run past. -/
theorem u32_run (inside : position + 4 ≤ source.length) :
    exists number, u32.run source position = .ok (number, position + 4) := by
  refine ⟨leNat (source.slice position 4), run_bind_eq_ok.mpr ⟨_, _, ?_, rfl⟩⟩
  unfold bytes
  rw [run_readExact, if_pos (by omega)]
  rfl

theorem arrayHead_reads (after : position ≤ offset) (before : offset < position + 12)
    (inside : offset < source.length) :
    (arrayOf nested keep).readsByte source offset position = true := by
  by_cases early : offset < position + 4
  · exact readsByte_bind.mpr (.inl (u32_reads after early inside))
  · rcases @u32_run source position (by omega) with ⟨number, runs⟩
    refine readsByte_bind.mpr (.inr ⟨number, position + 4, runs, ?_⟩)
    exact readsByte_bind.mpr (.inl (u64_reads (by omega) (by omega) inside))

/-- What an array whose head was read reads of its elements. -/
theorem arrayOf_reads {elementType len : Nat}
    (typeRun : u32.run source position = .ok (elementType, position + 4))
    (lenRun : u64.run source (position + 4) = .ok (len, position + 12))
    (reads : (match fixedWidth elementType with
      | some (width, num) => fixedArray width num len keep
      | none =>
        if elementType = 8 then do
          forRange skipString len 0 ()
          return .skipped
        else if elementType = 9 then
          match nested with
          | none => fail (.malformed "arrays nested too deeply")
          | some array => do
            forRange (skipArray array) len 0 ()
            return .skipped
        else fail (.malformed s!"unknown array element type {elementType}") :
          Script Value).readsByte source offset (position + 12) = true) :
    (arrayOf nested keep).readsByte source offset position = true := by
  refine readsByte_bind.mpr (.inr ⟨elementType, position + 4, typeRun, ?_⟩)
  exact readsByte_bind.mpr (.inr ⟨len, position + 12, lenRun, reads⟩)

theorem array_reads {levels array : Nat} (keep : Bool)
    (element : Element source levels array start width) (after : start ≤ offset)
    (before : offset < start + width) (inside : offset < source.length) :
    (Script.array levels keep).readsByte source offset array = true := by
  induction element generalizing keep with
  | @string levels array len index start typeRun lenRun more runs =>
      have first : (skipString (0 + index) ()).readsByte source offset start = true :=
        readsByte_bind.mpr (.inl (u64_reads after before inside))
      have elements := readsByte_forRange more runs first
      cases levels with
      | zero => exact arrayOf_reads typeRun lenRun (readsByte_bind.mpr (.inl elements))
      | succ levels => exact arrayOf_reads typeRun lenRun (readsByte_bind.mpr (.inl elements))
  | @array levels array len index start typeRun lenRun more runs =>
      have head : (Script.array levels false).readsByte source offset start = true := by
        cases levels with
        | zero => exact arrayHead_reads after before inside
        | succ levels => exact arrayHead_reads after before inside
      have first : (skipArray (Script.array levels false) (0 + index) ()).readsByte source offset
          start = true := readsByte_bind.mpr (.inl head)
      have elements := readsByte_forRange more runs first
      exact arrayOf_reads typeRun lenRun (readsByte_bind.mpr (.inl elements))
  | @inner levels array len index nested start width typeRun lenRun more runs _
      ih =>
      have first : (skipArray (Script.array levels false) (0 + index) ()).readsByte source offset
          nested = true :=
        readsByte_bind.mpr (.inl (ih false after before))
      have elements := readsByte_forRange more runs first
      exact arrayOf_reads typeRun lenRun (readsByte_bind.mpr (.inl elements))

theorem passed_reads (passed : Passed source start width) (after : start ≤ offset)
    (before : offset < start + width) (inside : offset < source.length) :
    parseGgufHeader.readsByte source offset 0 = true := by
  rcases passed with ⟨preambleRun, more, entriesRun, keyRun, typeRun, element⟩
  rename_i preamble metadata key first index entry typeAt array
  have read : (value 9 (isKeptKey key)).readsByte source offset array = true :=
    array_reads (isKeptKey key) element after before inside
  have one : (readEntry (0 + index) metadata).readsByte source offset entry = true := by
    refine readsByte_bind.mpr (.inr ⟨key, typeAt, keyRun, ?_⟩)
    refine readsByte_bind.mpr (.inr ⟨9, array, typeRun, ?_⟩)
    exact readsByte_bind.mpr (.inl read)
  have entries := readsByte_forRange more entriesRun one
  have parts : readParts.readsByte source offset 0 = true := by
    refine readsByte_bind.mpr (.inr ⟨preamble, first, preambleRun, ?_⟩)
    exact readsByte_bind.mpr (.inl entries)
  exact readsByte_bind.mpr (.inl parts)

/-- No byte of a source is read beyond what a header may span and a MiB more
exactly if the elements of its arrays that the walk comes to begin soon enough. -/
theorem header_walk_bounded (source : Source) :
    (forall offset, parseGgufHeader.readsByte source offset 0 = true ->
        offset ≤ maxHeaderBytes + 1024 * 1024) ↔
      forall start width, Passed source start width -> start < source.length ->
        min (start + width) source.length ≤ maxHeaderBytes + 1024 * 1024 + 1 := by
  constructor
  · intro bounded start width passed begins
    have someWidth := passed.width_pos
    have inside : min (start + width) source.length - 1 < source.length := by omega
    have last := bounded (min (start + width) source.length - 1)
      (passed_reads passed (by omega) (by omega) inside)
    omega
  · intro elements offset reads
    have room : maxHeaderBytes + entryBytes ≤ maxHeaderBytes + 1024 * 1024 + 1 := by decide
    refine Nat.le_of_lt_succ ((parseGgufHeader_bounded room ?_).reads offset reads)
    intro start width passed offset after before inside
    have soon := elements start width passed (by omega)
    omega

/-- A header with one array of three strings that claim 64 MiB each, and zeros
after it. -/
def threeLongStrings : Source where
  length := 2 ^ 28
  byte offset :=
    if offset < 49 then
      ([0x47, 0x47, 0x55, 0x46, 3, 0, 0, 0, 0, 0, 0, 0, 0, 0, 0, 0, 1, 0, 0, 0, 0, 0, 0, 0,
        1, 0, 0, 0, 0, 0, 0, 0, 0x6b, 9, 0, 0, 0, 8, 0, 0, 0, 3, 0, 0, 0, 0, 0, 0, 0]
          : Bytes).getD offset 0
    else if offset = 52 ∨ offset = 67108924 then 4
    else 0

/-- The third string's length lies 64 MiB beyond what a header may span. -/
theorem threeLongStrings_read :
    ¬ forall (source : Source) (offset : Nat),
      parseGgufHeader.readsByte source offset 0 = true ->
        offset ≤ maxHeaderBytes + 1024 * 1024 := by
  intro bounded
  have reads : parseGgufHeader.readsByte threeLongStrings 134217793 0 = true := by
    decide
  have near := bounded threeLongStrings 134217793 reads
  revert near
  decide

end Script

end Gguf
end RocmCli
