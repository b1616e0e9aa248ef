import RocmCli.Support.Chunked
import RocmCli.Terminal.Walk

namespace RocmCli
namespace ServiceLog

open Text (fromUtf8Lossy)
open Terminal (stripTerminalControlSequences)

/-!
# Following a log

A log is read from where the last poll left it.  What has no line break behind it
yet is held back, and so is a carriage return at the very end.
-/

abbrev Bytes := List UInt8

def lineFeed : UInt8 := 0x0a

def carriageReturn : UInt8 := 0x0d

structure LogSegment where
  text : String
  redraw : Bool
  deriving DecidableEq, Repr

/-- The file is not part of it: each poll finds the file as it is by then. -/
structure LogTail where
  offset : Nat
  pending : Bytes
  deriving DecidableEq, Repr

def segmentText (bytes : Bytes) : String := stripTerminalControlSequences (fromUtf8Lossy bytes)

def LogTail.atEnd (file : Option Bytes) : LogTail := ⟨(file.map List.length).getD 0, []⟩

/-- The loop over the pending bytes, of which the first list has no line break.
The second result is what stays pending. -/
def scanPending : (held : Bytes) -> Bytes -> List LogSegment × Bytes
  | held, [] => ([], held)
  | held, byte :: rest =>
      if byte = carriageReturn then
        match rest with
        | [] => ([], held ++ [byte])
        | next :: behind =>
            if next = lineFeed then
              let (segments, pending) := scanPending [] behind
              (⟨segmentText held, false⟩ :: segments, pending)
            else
              let (segments, pending) := scanPending [] (next :: behind)
              (⟨segmentText held, true⟩ :: segments, pending)
      else if byte = lineFeed then
        let (segments, pending) := scanPending [] rest
        (⟨segmentText held, false⟩ :: segments, pending)
      else scanPending (held ++ [byte]) rest

/-- A file that cannot be read is no news.  One that became shorter is read from
its start. -/
def LogTail.poll (tail : LogTail) (file : Option Bytes) : List LogSegment × LogTail :=
  match file with
  | none => ([], tail)
  | some contents =>
      let tail := if contents.length < tail.offset then ⟨0, []⟩ else tail
      let fresh := contents.drop tail.offset
      let (segments, pending) := scanPending [] (tail.pending ++ fresh)
      (segments, ⟨tail.offset + fresh.length, pending⟩)

def LogTail.finish (tail : LogTail) : Option LogSegment :=
  let bytes :=
    if tail.pending.getLast? = some carriageReturn then tail.pending.dropLast else tail.pending
  if bytes.isEmpty then none else some ⟨segmentText bytes, false⟩

/-- Polls of a file that has gained a chunk before each. -/
def pollAll (tail : LogTail) (contents : Bytes) : List Bytes -> List LogSegment × LogTail
  | [] => ([], tail)
  | chunk :: chunks =>
      let (segments, tail) := tail.poll (some (contents ++ chunk))
      let (later, tail) := pollAll tail (contents ++ chunk) chunks
      (segments ++ later, tail)

/-- All segments that a follower of the file sees, to its finish. -/
def followed (contents : Bytes) (chunks : List Bytes) : List LogSegment :=
  let (segments, tail) := pollAll (LogTail.atEnd (some contents)) contents chunks
  segments ++ tail.finish.toList

/-! ## The lines of an output -/

inductive LineBreak where
  | lineFeed
  | both
  | redraw
  deriving DecidableEq, Repr

def LineBreak.bytes : LineBreak -> Bytes
  | .lineFeed => [ServiceLog.lineFeed]
  | .both => [carriageReturn, ServiceLog.lineFeed]
  | .redraw => [carriageReturn]

/-- No byte of a line break is among the bytes. -/
def Unbroken (bytes : Bytes) : Prop := lineFeed ∉ bytes ∧ carriageReturn ∉ bytes

/-- The lines of an output, each with its break, and what stands behind the last
break.  A carriage return before a line feed is one break with it, and the one
at the very end breaks nothing. -/
inductive Lines : Bytes -> List (Bytes × LineBreak) -> Bytes -> Prop
  | rest (rest : Bytes) (unbroken : Unbroken rest) : Lines rest [] rest
  | cut (rest : Bytes) (unbroken : Unbroken rest) : Lines (rest ++ [carriageReturn]) [] rest
  | line (body : Bytes) (ending : LineBreak) (output : Bytes) (lines : List (Bytes × LineBreak))
      (rest : Bytes) (unbroken : Unbroken body)
      (lone : ending = .redraw -> exists next behind, output = next :: behind ∧ next ≠ lineFeed)
      (behind : Lines output lines rest) :
      Lines (body ++ (ending.bytes ++ output)) ((body, ending) :: lines) rest

def lineSegment (line : Bytes × LineBreak) : LogSegment :=
  ⟨segmentText line.1, line.2 == .redraw⟩

/-- One segment a line, and one for what has no break behind it. -/
def segmentsOf (lines : List (Bytes × LineBreak)) (rest : Bytes) : List LogSegment :=
  lines.map lineSegment ++ if rest.isEmpty then [] else [⟨segmentText rest, false⟩]

/-! ## The scan -/

theorem Unbroken.append {front back : Bytes} (first : Unbroken front) (second : Unbroken back) :
    Unbroken (front ++ back) := by
  constructor
  · rw [List.mem_append, not_or]
    exact ⟨first.1, second.1⟩
  · rw [List.mem_append, not_or]
    exact ⟨first.2, second.2⟩

theorem unbroken_nil : Unbroken [] := ⟨List.not_mem_nil, List.not_mem_nil⟩

theorem unbroken_singleton {byte : UInt8} (notFeed : byte ≠ lineFeed)
    (notReturn : byte ≠ carriageReturn) : Unbroken [byte] :=
  ⟨fun isIn => notFeed (List.mem_singleton.mp isIn).symm,
    fun isIn => notReturn (List.mem_singleton.mp isIn).symm⟩

/-- Bytes without a break are only held. -/
theorem scanPending_unbroken {bytes : Bytes} (unbroken : Unbroken bytes) (held rest : Bytes) :
    scanPending held (bytes ++ rest) = scanPending (held ++ bytes) rest := by
  induction bytes generalizing held with
  | nil => rw [List.nil_append, List.append_nil]
  | cons byte bytes ih =>
    have notFeed : byte ≠ lineFeed := fun same => unbroken.1 (same ▸ List.mem_cons_self)
    have notReturn : byte ≠ carriageReturn := fun same => unbroken.2 (same ▸ List.mem_cons_self)
    have later : Unbroken bytes :=
      ⟨fun isIn => unbroken.1 (List.mem_cons_of_mem _ isIn),
        fun isIn => unbroken.2 (List.mem_cons_of_mem _ isIn)⟩
    rw [List.cons_append, scanPending.eq_def]
    dsimp only
    rw [if_neg notReturn, if_neg notFeed, ih later, List.append_assoc,
      List.singleton_append]

theorem scanPending_line (held : Bytes) {ending : LineBreak} {output : Bytes}
    (lone : ending = .redraw -> exists next behind, output = next :: behind ∧ next ≠ lineFeed) :
    scanPending held (ending.bytes ++ output) =
      (lineSegment (held, ending) :: (scanPending [] output).1, (scanPending [] output).2) := by
  cases ending with
  | lineFeed =>
    rw [LineBreak.bytes, List.singleton_append, scanPending.eq_def]
    rfl
  | both =>
    rw [LineBreak.bytes, List.cons_append, List.singleton_append, scanPending.eq_def]
    rfl
  | redraw =>
    rcases lone rfl with ⟨next, behind, rfl, notFeed⟩
    rw [LineBreak.bytes, List.singleton_append, scanPending.eq_def]
    dsimp only
    rw [if_pos rfl, if_neg notFeed]
    rfl

/-- The scan finds the lines. -/
theorem Lines.scan {output rest : Bytes} {lines : List (Bytes × LineBreak)}
    (isLines : Lines output lines rest) :
    (scanPending [] output).1 = lines.map lineSegment ∧
      ((scanPending [] output).2 = rest ∨ (scanPending [] output).2 = rest ++ [carriageReturn]) := by
  induction isLines with
  | rest rest unbroken =>
    have scanned := scanPending_unbroken unbroken [] []
    rw [List.append_nil, List.nil_append] at scanned
    rw [scanned, scanPending]
    exact ⟨rfl, .inl rfl⟩
  | cut rest unbroken =>
    rw [scanPending_unbroken unbroken [] [carriageReturn], List.nil_append, scanPending, if_pos rfl]
    exact ⟨rfl, .inr rfl⟩
  | line body ending output lines rest unbroken lone behind ih =>
    rw [scanPending_unbroken unbroken, List.nil_append, scanPending_line body lone]
    exact ⟨congrArg _ ih.1, ih.2⟩

theorem Unbroken.cons {byte : UInt8} {bytes : Bytes} (notFeed : byte ≠ lineFeed)
    (notReturn : byte ≠ carriageReturn) (unbroken : Unbroken bytes) : Unbroken (byte :: bytes) :=
  (unbroken_singleton notFeed notReturn).append unbroken

/-- Every output has lines. -/
theorem exists_lines (output : Bytes) : exists lines rest, Lines output lines rest := by
  induction bound : output.length using Nat.strongRecOn generalizing output with
  | _ length ih =>
    subst bound
    cases output with
    | nil => exact ⟨[], [], .rest [] unbroken_nil⟩
    | cons byte output =>
      have shorter : output.length < (byte :: output).length := Nat.lt_succ_self _
      rcases ih _ shorter output rfl with ⟨lines, rest, isLines⟩
      by_cases isFeed : byte = lineFeed
      · rw [isFeed]
        exact ⟨_, rest, .line [] .lineFeed output lines rest unbroken_nil nofun isLines⟩
      · by_cases isReturn : byte = carriageReturn
        · rw [isReturn]
          cases output with
          | nil => exact ⟨[], [], .cut [] unbroken_nil⟩
          | cons next behind =>
            by_cases pair : next = lineFeed
            · rcases ih _ (Nat.lt_succ_of_lt (Nat.lt_succ_self _)) behind rfl with
                ⟨lines, rest, isLines⟩
              rw [pair]
              exact ⟨_, rest, .line [] .both behind lines rest unbroken_nil nofun isLines⟩
            · exact ⟨_, rest, .line [] .redraw (next :: behind) lines rest unbroken_nil
                (fun _ => ⟨next, behind, rfl, pair⟩) isLines⟩
        · cases isLines with
          | rest rest unbroken => exact ⟨[], _, .rest _ (unbroken.cons isFeed isReturn)⟩
          | cut rest unbroken => exact ⟨[], _, .cut _ (unbroken.cons isFeed isReturn)⟩
          | line body ending output lines rest unbroken lone behind =>
            exact ⟨_, rest, .line (byte :: body) ending output lines rest
              (unbroken.cons isFeed isReturn) lone behind⟩

/-- What is held back goes on with the next bytes. -/
theorem scanPending_resume {held : Bytes} (unbroken : Unbroken held) (front back : Bytes) :
    scanPending held (front ++ back) =
      ((scanPending held front).1 ++ (scanPending [] ((scanPending held front).2 ++ back)).1,
        (scanPending [] ((scanPending held front).2 ++ back)).2) := by
  induction held, front using scanPending.induct with
  | case1 held =>
    have started := scanPending_unbroken unbroken [] back
    rw [List.nil_append] at started
    rw [scanPending, started]
    rfl
  | case2 held =>
    have whole := scanPending_unbroken unbroken [] (carriageReturn :: back)
    have alone : scanPending held [carriageReturn] = ([], held ++ [carriageReturn]) := by
      rw [scanPending, if_pos rfl]
    rw [List.nil_append] at whole
    rw [alone, List.append_assoc, List.singleton_append, whole]
    rfl
  | case3 held behind segments pending _ ih =>
    have whole : scanPending held (carriageReturn :: lineFeed :: (behind ++ back)) = _ :=
      @scanPending_line held .both (behind ++ back) nofun
    have first : scanPending held (carriageReturn :: lineFeed :: behind) = _ :=
      @scanPending_line held .both behind nofun
    rw [List.cons_append, List.cons_append, whole, first, ih unbroken_nil]
    rfl
  | case4 held next behind notFeed segments pending _ ih =>
    have whole : scanPending held (carriageReturn :: (next :: (behind ++ back))) = _ :=
      @scanPending_line held .redraw (next :: (behind ++ back)) fun _ => ⟨next, _, rfl, notFeed⟩
    have first : scanPending held (carriageReturn :: (next :: behind)) = _ :=
      @scanPending_line held .redraw (next :: behind) fun _ => ⟨next, _, rfl, notFeed⟩
    have later := ih unbroken_nil
    rw [List.cons_append] at later
    rw [List.cons_append, List.cons_append, whole, first, later]
    rfl
  | case5 held rest segments pending _ _ ih =>
    have whole : scanPending held (lineFeed :: (rest ++ back)) = _ :=
      @scanPending_line held .lineFeed (rest ++ back) nofun
    have first : scanPending held (lineFeed :: rest) = _ :=
      @scanPending_line held .lineFeed rest nofun
    rw [List.cons_append, whole, first, ih unbroken_nil]
    rfl
  | case6 held byte rest notReturn notFeed ih =>
    have step (more : Bytes) : scanPending held (byte :: more) = scanPending (held ++ [byte]) more :=
      scanPending_unbroken (unbroken_singleton notFeed notReturn) held more
    rw [List.cons_append, step, step]
    exact ih (unbroken.append (unbroken_singleton notFeed notReturn))

def decoder : Chunked.Decoder UInt8 LogSegment where
  decode := scanPending []
  resume := scanPending_resume unbroken_nil

/-! ## Following -/

/-- Polls of a file that only grows feed its new bytes to the scan. -/
theorem pollAll_eq (contents : Bytes) (chunks : List Bytes) (pending : Bytes) :
    pollAll ⟨contents.length, pending⟩ contents chunks =
      ((decoder.feed pending chunks).1,
        ⟨(contents ++ chunks.flatten).length, (decoder.feed pending chunks).2⟩) := by
  induction chunks generalizing contents pending with
  | nil =>
    rw [List.flatten_nil, List.append_nil]
    rfl
  | cons chunk chunks ih =>
    have grown : ¬ (contents ++ chunk).length < contents.length := by
      rw [List.length_append]
      omega
    have polled : LogTail.poll ⟨contents.length, pending⟩ (some (contents ++ chunk)) =
        ((decoder.decode (pending ++ chunk)).1,
          ⟨(contents ++ chunk).length, (decoder.decode (pending ++ chunk)).2⟩) := by
      unfold LogTail.poll
      dsimp only
      rw [if_neg grown, List.drop_left, List.length_append]
      rfl
    rw [pollAll, polled]
    dsimp only
    rw [ih, List.flatten_cons, List.append_assoc]
    rfl

theorem Lines.rest_unbroken {output rest : Bytes} {lines : List (Bytes × LineBreak)}
    (isLines : Lines output lines rest) : Unbroken rest := by
  induction isLines with
  | rest rest unbroken => exact unbroken
  | cut rest unbroken => exact unbroken
  | line body ending output lines rest unbroken lone behind ih =>
    exact ih

/-- The finish shows what has no break behind it, without a carriage return at
the very end. -/
theorem finish_toList {rest pending : Bytes} (unbroken : Unbroken rest)
    (isPending : pending = rest ∨ pending = rest ++ [carriageReturn]) (offset : Nat) :
    (LogTail.finish ⟨offset, pending⟩).toList =
      if rest.isEmpty then [] else [⟨segmentText rest, false⟩] := by
  have bytes : (if pending.getLast? = some carriageReturn then pending.dropLast else pending) = rest := by
    rcases isPending with rfl | rfl
    · refine if_neg fun isLast => unbroken.2 ?_
      exact List.mem_of_getLast? isLast
    · rw [List.getLast?_concat, if_pos rfl, List.dropLast_concat]
  unfold LogTail.finish
  dsimp only
  rw [bytes]
  cases rest <;> rfl

/-- However the output is cut into what the polls find, the follower sees the
segments of the whole: one for each line, and one for what has no break behind
it. -/
theorem followed_eq (contents : Bytes) (chunks : List Bytes) :
    followed contents chunks = followed contents [chunks.flatten] ∧
      (exists lines rest, Lines chunks.flatten lines rest) ∧
        forall lines rest, Lines chunks.flatten lines rest ->
          followed contents chunks = segmentsOf lines rest := by
  have fed (chunks : List Bytes) : decoder.feed [] chunks = scanPending [] chunks.flatten :=
    decoder.feed_eq rfl chunks
  have seen (chunks : List Bytes) : followed contents chunks =
      (scanPending [] chunks.flatten).1 ++
        (LogTail.finish ⟨(contents ++ chunks.flatten).length,
          (scanPending [] chunks.flatten).2⟩).toList := by
    have started : LogTail.atEnd (some contents) = ⟨contents.length, []⟩ := rfl
    rw [followed, started, pollAll_eq, fed]
  constructor
  · rw [seen, seen, List.flatten_singleton]
  · refine ⟨exists_lines chunks.flatten, fun lines rest isLines => ?_⟩
    rcases isLines.scan with ⟨segments, pending⟩
    rw [seen, segments, finish_toList isLines.rest_unbroken pending]
    rfl

end ServiceLog
end RocmCli
