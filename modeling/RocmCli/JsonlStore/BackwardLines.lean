import RocmCli.JsonlStore.Recent

namespace RocmCli
namespace JsonlStore

open Segments

/-!
# The backward scan of a whole file

One call after the other, a scan yields every segment of the file from the last to
the first, each with its offset, and then nothing more.
-/

namespace ReverseLines

/-- The lines of the calls until one yields none, and the scan behind them. -/
def collectLines (path : String) (file : Bytes) (lines : ReverseLines) :
    Except ErrorChain (List (Nat × Bytes)) × ReverseLines :=
  match _next : nextLine path file lines with
  | (.error error, rest) => (.error error, rest)
  | (.ok none, rest) => (.ok [], rest)
  | (.ok (some line), rest) =>
      let behind := collectLines path file rest
      (behind.1.map (line :: ·), behind.2)
termination_by lines.left
decreasing_by exact nextLine_left _next

/-- Segments with one separator between them, each with its offset. -/
def segmentsFrom (start : Nat) : List Bytes -> List (Nat × Bytes)
  | [] => []
  | segment :: rest => (start, segment) :: segmentsFrom (start + segment.length + 1) rest

theorem segmentsFrom_concat (start : Nat) (segments : List Bytes) (last : Bytes) :
    segmentsFrom start (segments ++ [last]) =
      segmentsFrom start segments ++ [(start + (terminated newline segments).length, last)] := by
  induction segments generalizing start with
  | nil => rfl
  | cons segment rest ih =>
      have moved : start + segment.length + 1 + (terminated newline rest).length =
          start + (terminated newline (segment :: rest)).length := by
        simp only [terminated_cons, List.length_append, List.length_cons]
        omega
      rw [List.cons_append, segmentsFrom, ih, moved]
      rfl

variable {path : String} {file : Bytes} {lines : ReverseLines}

/-- The offset of a line is what stands before it, with a line break for each line. -/
theorem nextLine_offset {segments : List Bytes} {last : Bytes}
    (holds : Holds file lines (segments ++ [last])) :
    exists rest, nextLine path file lines =
        (.ok (some ((terminated newline segments).length, last)), rest) ∧
      Holds file rest segments := by
  rcases nextLine_holds path holds with ⟨start, rest, next, restHolds⟩
  rcases holds with ⟨_, impossible⟩ | ⟨open_, inside, split⟩
  · exact absurd impossible (by simp)
  · rcases scan_spec path file lines inside open_ with ⟨scanned, isScanned, _⟩
    have same := next
    rw [nextLine, if_neg (by simp [open_]), isScanned] at same
    have line := Option.some.inj (Except.ok.inj (Prod.mk.inj same).1)
    have offset := (Prod.mk.inj line).1
    have isLast := (Prod.mk.inj line).2
    have joined : List.intercalate [newline] ((lines.remaining file).splitOn newline) =
        lines.remaining file := List.intercalate_splitOn newline
    have ended := intercalate_append_separator newline (segments ++ [last]) (by simp)
    rw [← split, joined, split, terminated_append] at ended
    have parts := congrArg List.length (upToLast_append_lastSegment newline (lines.remaining file))
    have lengths := congrArg List.length ended
    simp only [terminated_cons, terminated_nil, List.length_append, List.length_cons,
      List.length_nil] at lengths
    rw [List.length_append, isLast] at parts
    have starts : start = (terminated newline segments).length := by omega
    exact ⟨rest, starts ▸ next, restHolds⟩

theorem collectLines_holds {segments : List Bytes} (holds : Holds file lines segments) :
    exists final, collectLines path file lines = (.ok (segmentsFrom 0 segments).reverse, final) ∧
      nextLine path file final = (.ok none, final) := by
  induction segments using List.reverseRecOn generalizing lines with
  | nil =>
      have ended := nextLine_holds_nil path holds
      refine ⟨lines, ?_, ended⟩
      rw [collectLines]
      split
      · next next => exact nomatch next.symm.trans ended
      · next next =>
          rw [(Prod.mk.inj (next.symm.trans ended)).2]
          rfl
      · next next => exact nomatch next.symm.trans ended
  | append_singleton segments last ih =>
      rcases nextLine_offset holds with ⟨rest, isNext, restHolds⟩
      rcases ih restHolds with ⟨final, collected, ended⟩
      refine ⟨final, ?_, ended⟩
      rw [collectLines]
      split
      · next next => exact nomatch next.symm.trans isNext
      · next next => exact nomatch next.symm.trans isNext
      · next line behind next =>
          have same := Prod.mk.inj (next.symm.trans isNext)
          rw [same.2, Option.some.inj (Except.ok.inj same.1), collected, segmentsFrom_concat]
          simp [Except.map]

/-- For every content and every chunk size, the calls of a scan yield the segments of
the file in reverse, each with its offset, and every call behind them yields none. -/
theorem reverse_lines_exact (path : String) (file : Bytes) (chunk : Nat) :
    exists final, collectLines path file (new file.length chunk) =
        (.ok (segmentsFrom 0 (file.splitOn newline)).reverse, final) ∧
      nextLine path file final = (.ok none, final) := by
  refine collectLines_holds (.inr ⟨rfl, Nat.le_refl _, ?_⟩)
  simp [remaining, new]

end ReverseLines
end JsonlStore
end RocmCli
