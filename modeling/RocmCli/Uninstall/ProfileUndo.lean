import RocmCli.Uninstall.ProfileBlock

namespace RocmCli
namespace Uninstall

open JsonlStore (Bytes newline isAsciiWhitespace isBlank)
open InclusiveLines
open MarkedBlocks
open Text (asciiBytes)

/-!
# What the removal of the block takes out

It takes out just the blocks that name the folder unless a start marker without
its end stands before one, or two blocks touch below a blank line that is left.
The snippet of the installer comes out without a trace of it where the profile
ended in a newline.
-/

/-! ## The removal -/

/-- Of a profile without a block nothing is removed.  Otherwise the blocks are,
and one blank line directly before each at most.  A second removal finds none. -/
def RemovesOwnBlocks (text : Bytes) (pathExprs : List Bytes) : Prop :=
  (removeProfileBlockBytes text pathExprs = none ↔ ¬ HasBlock (markers pathExprs) (lines text)) ∧
  (HasBlock (markers pathExprs) (lines text) ->
    exists left, Cleared (markers pathExprs) (lines text) left ∧
      removeProfileBlockBytes text pathExprs = some left.flatten) ∧
  forall updated, removeProfileBlockBytes text pathExprs = some updated ->
    removeProfileBlockBytes updated pathExprs = none

variable {text : Bytes} {pathExprs : List Bytes}

/-- What the removal comes to for the lines as the pass goes through them. -/
theorem removeProfileBlockBytes_eq {pieces : List (Piece (markers pathExprs))}
    (swept : Swept (lines text) pieces) :
    removeProfileBlockBytes text pathExprs =
      if pieces.any Piece.isTaken then some (sweep [] pieces).flatten
      else none := by
  unfold removeProfileBlockBytes
  rw [removeLoop_swept swept, Bool.false_or]

theorem any_stretch_iff {pieces : List (Piece (markers pathExprs))} :
    pieces.any Piece.isTaken = true ↔
      exists stretch, Piece.stretch stretch ∈ pieces := by
  rw [List.any_eq_true]
  constructor
  · rintro ⟨piece, isIn, isStretch⟩
    cases piece with
    | item item => cases isStretch
    | stretch stretch => exact ⟨stretch, isIn⟩
  · rintro ⟨stretch, isIn⟩
    exact ⟨_, isIn, rfl⟩

theorem removeProfileBlockBytes_none_iff (text : Bytes) (pathExprs : List Bytes) :
    removeProfileBlockBytes text pathExprs = none ↔
      ¬ exists front, exists stretch : Stretch (markers pathExprs), exists back,
        lines text = front ++ (stretch.items ++ back) := by
  rcases @exists_swept _ (markers pathExprs) (lines text) with ⟨pieces, swept⟩
  rw [removeProfileBlockBytes_eq swept, ← swept.taken_iff, ← any_stretch_iff]
  by_cases taken : pieces.any Piece.isTaken = true
  · rw [if_pos taken]
    exact ⟨nofun, fun never => absurd taken never⟩
  · rw [if_neg taken]
    exact ⟨fun _ => taken, fun _ => rfl⟩

theorem lines_flatten {kept : List Bytes} (isKept : kept.Sublist (lines text)) :
    lines kept.flatten = kept :=
  ((isLines_splitInclusive text).1.sublist isKept).splitInclusive_flatten

/-- A second removal finds nothing, whatever the profile. -/
theorem removeProfileBlockBytes_twice {updated : Bytes}
    (removed : removeProfileBlockBytes text pathExprs = some updated) :
    removeProfileBlockBytes updated pathExprs = none := by
  rcases @exists_swept _ (markers pathExprs) (lines text) with ⟨pieces, swept⟩
  rw [removeProfileBlockBytes_eq swept] at removed
  rcases Option.ite_none_right_eq_some.mp removed with ⟨_, same⟩
  have kept : lines updated = sweep [] pieces := by
    rw [← Option.some.inj same]
    exact lines_flatten (swept.sublist [])
  have nothing : Settled (markers pathExprs) [] (lines text) := fun _ _ _ _ => Nat.zero_le _
  rw [removeProfileBlockBytes_none_iff, kept]
  rintro ⟨front, stretch, back, whole⟩
  have atMost := swept.settled nothing front stretch back (by rw [List.append_nil, whole])
  rw [whole, List.length_append, stretch.items_append, List.length_cons] at atMost
  omega

/-- The removal does what it should exactly if no start marker stands between
another and the end of a block, and no blocks are stacked. -/
theorem removesOwnBlocks_iff (text : Bytes) (pathExprs : List Bytes) :
    RemovesOwnBlocks text pathExprs ↔
      ¬ Straddled (markers pathExprs) (lines text) ∧ ¬ Stacked (markers pathExprs) (lines text) := by
  rcases @exists_swept _ (markers pathExprs) (lines text) with ⟨pieces, swept⟩
  constructor
  · rintro ⟨none_iff, removes, _⟩
    by_cases hasBlock : HasBlock (markers pathExprs) (lines text)
    · rcases removes hasBlock with ⟨left, cleared, same⟩
      rw [removeProfileBlockBytes_eq swept] at same
      have sameBytes := Option.some.inj (Option.ite_none_right_eq_some.mp same).2
      have sameLines : sweep [] pieces = left := by
        rw [← lines_flatten (swept.sublist []), sameBytes, lines_flatten cleared.sublist]
      rw [← sameLines] at cleared
      exact swept.cleared_iff.mp cleared
    · have noStretch := (removeProfileBlockBytes_none_iff text pathExprs).mp (none_iff.mpr hasBlock)
      refine ⟨?_, fun stacked => hasBlock stacked.hasBlock⟩
      rintro ⟨front, stretch, back, _, whole⟩
      exact noStretch ⟨front, stretch, back, whole⟩
  · rintro ⟨notStraddled, notStacked⟩
    have isBlock {front back : List Bytes} {stretch : Stretch (markers pathExprs)}
        (whole : lines text = front ++ (stretch.items ++ back)) : stretch.IsBlock :=
      Bool.eq_false_iff.mpr fun straddles => notStraddled ⟨front, stretch, back, straddles, whole⟩
    refine ⟨?_, ?_, fun _ => removeProfileBlockBytes_twice⟩
    · rw [removeProfileBlockBytes_none_iff, not_iff_not]
      constructor
      · rintro ⟨front, stretch, back, whole⟩
        exact ⟨front, stretch, back, isBlock whole, whole⟩
      · rintro ⟨front, block, back, _, whole⟩
        exact ⟨front, block, back, whole⟩
    · rintro ⟨front, block, back, _, whole⟩
      have taken := any_stretch_iff.mpr (swept.taken_iff.mpr ⟨front, block, back, whole⟩)
      refine ⟨_, swept.cleared_iff.mpr ⟨notStraddled, notStacked⟩, ?_⟩
      rw [removeProfileBlockBytes_eq swept, if_pos taken]

/-! ## The snippet of the installer -/

/-- A profile without a start marker comes back as it was. -/
def RestoresProfile (shellKind : ShellKind) (pathExpr text : Bytes) : Prop :=
  (forall line, line ∈ lines text -> isStart line = false) ->
    forall pathExprs, pathExpr ∈ pathExprs ->
      removeProfileBlockBytes (text ++ pathSnippet shellKind pathExpr) pathExprs = some text

/-- The profile ends in a newline, and the folder's name does not end the block. -/
def Restorable (shellKind : ShellKind) (pathExpr text : Bytes) : Prop :=
  (forall line, line ∈ lines text -> isStart line = false) ->
    Terminated newline text ∧
      forall line, line ∈ lines (snippetBody shellKind pathExpr) -> isEnd line = false

variable {line : Bytes}

theorem end_spec (ends : isEnd line = true) :
    line.head? = some 0x23 ∧ quote ∉ line := by
  rcases trimAsciiEnd_append line with ⟨space, whole, spaces⟩
  rw [isEnd_iff.mp ends] at whole
  rw [whole]
  constructor
  · rfl
  · rw [List.mem_append, not_or]
    exact ⟨by decide, fun isIn => absurd (spaces quote isIn) (by decide)⟩

/-- An end marker in a line that quotes the folder comes from the folder's own
name. -/
theorem end_in_quoting {before escaped after : Bytes} (plainBefore : newline ∉ before)
    (notHash : exists first rest, before = first :: rest ∧ first ≠ 0x23)
    (plainAfter : newline ∉ after) (hasQuote : quote ∈ after)
    (isIn : line ∈ lines (before ++ (escaped ++ (after ++ [newline])))) (ends : isEnd line = true) :
    exists body, line = body ++ [newline] ∧ newline ∉ body ∧ newline :: line <:+: escaped := by
  have spec := end_spec ends
  have notFirst (more : Bytes) : line ≠ before ++ more := by
    rintro rfl
    rcases notHash with ⟨first, rest, rfl, other⟩
    exact other (Option.some.inj spec.1)
  by_cases plain : newline ∈ escaped
  · rcases List.eq_append_cons_of_mem plain with ⟨first, rest, rfl, plainFirst⟩
    rcases exists_last_line newline rest with ⟨middle, last, rfl, terminated, plainLast⟩
    have cut : lines (before ++ (first ++ newline :: (middle ++ last) ++ (after ++ [newline]))) =
        (before ++ first ++ [newline]) :: (lines middle ++ [last ++ after ++ [newline]]) := by
      have regroup : before ++ (first ++ newline :: (middle ++ last) ++ (after ++ [newline])) =
          (before ++ first) ++ newline :: (middle ++ ((last ++ after) ++ newline :: [])) := by
        simp only [List.append_assoc, List.cons_append]
      rw [regroup, lines, splitInclusive_line (by rw [List.mem_append, not_or]; exact ⟨plainBefore, plainFirst⟩),
        splitInclusive_append terminated,
        splitInclusive_line (by rw [List.mem_append, not_or]; exact ⟨plainLast, plainAfter⟩)]
      rfl
    rw [cut] at isIn
    rcases List.mem_cons.mp isIn with isFirst | isIn
    · rw [List.append_assoc] at isFirst
      exact absurd isFirst (notFirst _)
    · rcases List.mem_append.mp isIn with inMiddle | isLast
      · rcases stands_of_mem terminated inMiddle with ⟨front, body, back, isLine, plainBody, isFront, rfl⟩
        refine ⟨body, isLine, plainBody, ?_⟩
        rcases isFront with rfl | ⟨front, rfl⟩
        · exact ⟨first, back ++ last, by simp only [List.append_assoc, List.nil_append, List.cons_append]⟩
        · exact ⟨first ++ newline :: front, back ++ last, by
            simp only [List.append_assoc, List.nil_append, List.cons_append]⟩
      · rw [List.mem_singleton.mp isLast] at spec
        exact absurd (List.mem_append_left _ (List.mem_append_right _ hasQuote)) spec.2
  · have plainLine : newline ∉ before ++ (escaped ++ after) := by
      simp only [List.mem_append, not_or]
      exact ⟨plainBefore, plain, plainAfter⟩
    have regroup : before ++ (escaped ++ (after ++ [newline])) =
        (before ++ (escaped ++ after)) ++ newline :: [] := by
      simp only [List.append_assoc]
    rw [regroup, lines, splitInclusive_line plainLine] at isIn
    have isLine := List.mem_singleton.mp isIn
    rw [List.append_assoc] at isLine
    exact absurd isLine (notFirst _)

variable {shellKind : ShellKind} {pathExpr : Bytes}

/-- An end marker in the body of the snippet comes from the folder's own name. -/
theorem end_in_body (isIn : line ∈ lines (snippetBody shellKind pathExpr))
    (ends : isEnd line = true) :
    exists body, line = body ++ [newline] ∧ newline ∉ body ∧
      newline :: line <:+: escapeForDoubleQuotes pathExpr := by
  have noEnd {text : String} (none : (lines (asciiBytes text)).any isEnd = false) :
      line ∉ lines (asciiBytes text) :=
    fun isLine => List.any_eq_false.mp none line isLine ends
  have terminated (before escaped after : Bytes) :
      Terminated newline (before ++ (escaped ++ (after ++ [newline]))) :=
    .inr ⟨before ++ (escaped ++ after), by simp only [List.append_assoc]⟩
  cases shellKind with
  | posix =>
    have regroup : snippetBody .posix pathExpr = asciiBytes "case \":$PATH:\" in\n" ++
        ((asciiBytes "  *:\"" ++ (escapeForDoubleQuotes pathExpr ++ (asciiBytes "\":*) ;;" ++ [newline]))) ++
          ((asciiBytes "  *) export PATH=\"" ++
            (escapeForDoubleQuotes pathExpr ++ (asciiBytes ":$PATH\" ;;" ++ [newline]))) ++
              asciiBytes "esac\n")) := by
      simp only [List.append_assoc]
      rfl
    have first : Terminated newline (asciiBytes "case \":$PATH:\" in\n") :=
      .inr ⟨asciiBytes "case \":$PATH:\" in", rfl⟩
    rw [regroup, lines, splitInclusive_append first,
      splitInclusive_append (terminated _ _ _), splitInclusive_append (terminated _ _ _)] at isIn
    rcases List.mem_append.mp isIn with inCase | isIn
    · exact absurd inCase (noEnd (by decide))
    · rcases List.mem_append.mp isIn with inPattern | isIn
      · exact end_in_quoting (by decide) ⟨_, _, rfl, by decide⟩ (by decide) (by decide) inPattern ends
      · rcases List.mem_append.mp isIn with inExport | inEsac
        · exact end_in_quoting (by decide) ⟨_, _, rfl, by decide⟩ (by decide) (by decide) inExport ends
        · exact absurd inEsac (noEnd (by decide))
  | fish =>
    have regroup : snippetBody .fish pathExpr =
        (asciiBytes "if not contains -- \"" ++
          (escapeForDoubleQuotes pathExpr ++ (asciiBytes "\" $PATH" ++ [newline]))) ++
          ((asciiBytes "    set -gx PATH \"" ++
            (escapeForDoubleQuotes pathExpr ++ (asciiBytes "\" $PATH" ++ [newline]))) ++
              asciiBytes "end\n") := by
      simp only [List.append_assoc]
      rfl
    rw [regroup, lines, splitInclusive_append (terminated _ _ _),
      splitInclusive_append (terminated _ _ _)] at isIn
    rcases List.mem_append.mp isIn with inIf | isIn
    · exact end_in_quoting (by decide) ⟨_, _, rfl, by decide⟩ (by decide) (by decide) inIf ends
    · rcases List.mem_append.mp isIn with inSet | inEnd
      · exact end_in_quoting (by decide) ⟨_, _, rfl, by decide⟩ (by decide) (by decide) inSet ends
      · exact absurd inEnd (noEnd (by decide))

theorem snippetBody_names (shellKind : ShellKind) (isExpr : pathExpr ∈ pathExprs) :
    namesDir pathExprs (snippetBody shellKind pathExpr) = true := by
  refine namesDir_iff.mpr ⟨pathExpr, isExpr, .inl ?_⟩
  cases shellKind with
  | posix =>
    refine ⟨asciiBytes "case \":$PATH:\" in\n  *:", asciiBytes ":*) ;;\n  *) export PATH=\"" ++
      (escapeForDoubleQuotes pathExpr ++ asciiBytes ":$PATH\" ;;\nesac\n"), ?_⟩
    simp only [quoted, snippetBody, List.append_assoc, List.cons_append]
    rfl
  | fish =>
    refine ⟨asciiBytes "if not contains -- ", asciiBytes " $PATH\n    set -gx PATH \"" ++
      (escapeForDoubleQuotes pathExpr ++ asciiBytes "\" $PATH\nend\n"), ?_⟩
    simp only [quoted, snippetBody, List.append_assoc, List.cons_append]
    rfl

theorem snippetBody_terminated (shellKind : ShellKind) (pathExpr : Bytes) :
    Terminated newline (snippetBody shellKind pathExpr) := by
  refine .inr ?_
  cases shellKind with
  | posix =>
    iterate 7 apply ends_behind
    exact ⟨asciiBytes "esac", rfl⟩
  | fish =>
    iterate 6 apply ends_behind
    exact ⟨asciiBytes "end", rfl⟩

/-! ## A profile with the snippet -/

def startLine : Bytes := profileBlockStart ++ [newline]

def endLine : Bytes := profileBlockEnd ++ [newline]

theorem startLine_spec : isStart startLine = true ∧ isBlank startLine = false := by decide

theorem endLine_spec : isEnd endLine = true := by decide

theorem lines_snippet (shellKind : ShellKind) (pathExpr text : Bytes) :
    lines (text ++ pathSnippet shellKind pathExpr) =
      lines (text ++ [newline]) ++
        startLine :: (lines (snippetBody shellKind pathExpr) ++ [endLine]) := by
  have regroup : text ++ pathSnippet shellKind pathExpr =
      (text ++ [newline]) ++ (profileBlockStart ++ newline ::
        (snippetBody shellKind pathExpr ++ (profileBlockEnd ++ newline :: []))) := by
    simp only [pathSnippet, List.append_assoc, List.singleton_append]
  have plainStart : newline ∉ profileBlockStart := by decide
  have plainEnd : newline ∉ profileBlockEnd := by decide
  rw [regroup, lines, splitInclusive_append (terminated_concat text), splitInclusive_line plainStart,
    splitInclusive_append (snippetBody_terminated shellKind pathExpr), splitInclusive_line plainEnd]
  rfl

/-- The newline in front of the snippet ends the last line of the profile, or is
a line of its own. -/
theorem lines_concat (text : Bytes) :
    exists front last, text = front ++ last ∧ Terminated newline front ∧ newline ∉ last ∧
      lines (text ++ [newline]) = lines front ++ [last ++ [newline]] := by
  rcases exists_last_line newline text with ⟨front, last, rfl, terminated, plain⟩
  refine ⟨front, last, rfl, terminated, plain, ?_⟩
  rw [List.append_assoc, lines, splitInclusive_append terminated, splitInclusive_line plain]
  rfl

theorem no_start_concat (noStart : forall line, line ∈ lines text -> isStart line = false) :
    forall line, line ∈ lines (text ++ [newline]) -> isStart line = false := by
  rcases lines_concat text with ⟨front, last, rfl, terminated, plain, cut⟩
  rw [lines, splitInclusive_append terminated] at noStart
  intro line isIn
  rw [cut] at isIn
  rcases List.mem_append.mp isIn with inFront | isLast
  · exact noStart line (List.mem_append_left _ inFront)
  · rw [List.mem_singleton.mp isLast, isStart, trimAsciiEnd_newline]
    by_cases empty : last = []
    · rw [empty]
      decide
    · refine noStart last (List.mem_append_right _ ?_)
      rw [splitInclusive_last empty plain]
      exact List.mem_cons_self

/-- A folder whose name does not end the block comes out with the block. -/
theorem remove_snippet (noStart : forall line, line ∈ lines text -> isStart line = false)
    (isExpr : pathExpr ∈ pathExprs)
    (endFree : forall line, line ∈ lines (snippetBody shellKind pathExpr) -> isEnd line = false) :
    removeProfileBlockBytes (text ++ pathSnippet shellKind pathExpr) pathExprs =
      some (popBlank (markers pathExprs) (lines (text ++ [newline]))).flatten := by
  have isOwned : (markers pathExprs).owned (lines (snippetBody shellKind pathExpr)) = true := by
    have names := snippetBody_names shellKind isExpr
    rw [← @flatten_splitInclusive _ _ newline (snippetBody shellKind pathExpr)] at names
    exact names
  let block : Stretch (markers pathExprs) :=
    ⟨startLine, lines (snippetBody shellKind pathExpr), endLine, startLine_spec.1, endLine_spec, endFree,
      isOwned⟩
  have swept : Swept (lines (text ++ pathSnippet shellKind pathExpr))
      ((lines (text ++ [newline])).map Piece.item ++ [Piece.stretch block]) := by
    rw [lines_snippet]
    refine Swept.plain_append (no_start_concat noStart) ?_
    have alone := Swept.stretch block [] [] .nil
    rwa [List.append_nil] at alone
  have taken : ((lines (text ++ [newline])).map Piece.item ++ [Piece.stretch block]).any Piece.isTaken = true :=
    any_stretch_iff.mpr ⟨block, List.mem_append_right _ List.mem_cons_self⟩
  rw [removeProfileBlockBytes_eq swept, if_pos taken, sweep_items]
  rfl

theorem exists_first_end {list : List Bytes} (isIn : line ∈ list) (ends : isEnd line = true) :
    exists before closing back, list = before ++ closing :: back ∧
      (forall line, line ∈ before -> isEnd line = false) ∧ isEnd closing = true := by
  induction list with
  | nil => cases isIn
  | cons first list ih =>
    by_cases firstEnds : isEnd first = true
    · exact ⟨[], first, list, rfl, fun _ never => absurd never List.not_mem_nil, firstEnds⟩
    · rcases List.mem_cons.mp isIn with rfl | later
      · exact absurd ends firstEnds
      · rcases ih later with ⟨before, closing, back, rfl, unclosed, closes⟩
        refine ⟨first :: before, closing, back, rfl, ?_, closes⟩
        intro line isLine
        rcases List.mem_cons.mp isLine with rfl | later
        · exact Bool.eq_false_iff.mpr firstEnds
        · exact unclosed line later

/-- What stands before the first end marker cannot name the folder, whose name
holds that marker. -/
theorem not_named_before {closing : Bytes} {before back : List Bytes}
    (cut : lines (snippetBody shellKind pathExpr) = before ++ closing :: back)
    (isIn : closing ∈ lines (snippetBody shellKind pathExpr)) (closes : isEnd closing = true)
    (unclosed : forall line, line ∈ before -> isEnd line = false) :
    ¬ namesDir [pathExpr] before.flatten = true := by
  intro names
  rcases end_in_body isIn closes with ⟨body, rfl, plain, inEscaped⟩
  have escapedIn : escapeForDoubleQuotes pathExpr <:+: before.flatten := by
    rcases namesDir_iff.mp names with ⟨expr, isExpr, isQuoted | isListed⟩
    · rw [List.mem_singleton.mp isExpr] at isQuoted
      exact List.IsInfix.trans ⟨[quote], [quote], rfl⟩ isQuoted
    · rw [List.mem_singleton.mp isExpr] at isListed
      exact List.IsInfix.trans ⟨[quote], [colon], rfl⟩ isListed
  rcases inEscaped.trans escapedIn with ⟨front, rest, whole⟩
  have isLine : body ++ [newline] ∈ lines before.flatten := by
    have stands := @line_mem _ _ newline body (front ++ [newline]) rest (terminated_concat front) plain
    have regroup : front ++ [newline] ++ (body ++ newline :: rest) =
        front ++ newline :: (body ++ [newline]) ++ rest := by
      simp only [List.append_assoc, List.cons_append, List.nil_append]
    rwa [regroup, whole] at stands
  have isPart : before.Sublist (lines (snippetBody shellKind pathExpr)) :=
    cut ▸ List.sublist_append_left _ _
  rw [lines_flatten isPart] at isLine
  have never := unclosed _ isLine
  rw [closes] at never
  cases never

/-- A folder whose name ends the block leaves the start marker in the profile. -/
theorem snippet_stays (noStart : forall line, line ∈ lines text -> isStart line = false)
    (isIn : line ∈ lines (snippetBody shellKind pathExpr)) (ends : isEnd line = true) :
    removeProfileBlockBytes (text ++ pathSnippet shellKind pathExpr) [pathExpr] ≠ some text := by
  rcases exists_first_end isIn ends with ⟨before, closing, back, cut, unclosed, closes⟩
  have closingIn : closing ∈ lines (snippetBody shellKind pathExpr) :=
    cut ▸ List.mem_append_right _ List.mem_cons_self
  have unowned (stretch : Stretch (markers [pathExpr])) (rest : List Bytes) :
      startLine :: (lines (snippetBody shellKind pathExpr) ++ [endLine]) ≠ stretch.items ++ rest := by
    intro whole
    rw [stretch.items_append, cut, List.append_assoc, List.cons_append] at whole
    have sameBody := (@closing_unique _ (markers [pathExpr]) _ _ _ _ _ _ unclosed stretch.unclosed closes
      stretch.isClosing (List.cons.inj whole).2).1
    have names := stretch.isOwned
    rw [← sameBody] at names
    exact not_named_before cut closingIn closes unclosed names
  rcases @exists_swept _ (markers [pathExpr]) (lines (snippetBody shellKind pathExpr) ++ [endLine]) with
    ⟨pieces, behind⟩
  have swept : Swept (lines (text ++ pathSnippet shellKind pathExpr))
      ((lines (text ++ [newline])).map Piece.item ++ Piece.item startLine :: pieces) := by
    rw [lines_snippet]
    exact Swept.plain_append (no_start_concat noStart) (.item startLine _ pieces unowned behind)
  rw [removeProfileBlockBytes_eq swept, sweep_items]
  intro restored
  have same := Option.some.inj (Option.ite_none_right_eq_some.mp restored).2
  rcases @sweep_keeps _ (markers [pathExpr]) startLine startLine_spec.2 (lines (text ++ [newline])) []
    pieces with ⟨more, kept⟩
  rw [sweep, List.nil_append, kept, List.flatten_append, lines, flatten_splitInclusive, List.append_assoc] at same
  exact absurd (List.append_right_eq_self.mp same) (List.cons_ne_nil _ _)

/-- The snippet comes out without a trace exactly if the profile ended in a
newline and the folder's name does not end the block. -/
theorem restoresProfile_iff (shellKind : ShellKind) (pathExpr text : Bytes) :
    RestoresProfile shellKind pathExpr text ↔ Restorable shellKind pathExpr text := by
  constructor
  · intro restores noStart
    have restored := restores noStart [pathExpr] List.mem_cons_self
    have endFree : forall line, line ∈ lines (snippetBody shellKind pathExpr) -> isEnd line = false :=
      fun line isIn => Bool.eq_false_iff.mpr fun ends => snippet_stays noStart isIn ends restored
    refine ⟨?_, endFree⟩
    rw [remove_snippet noStart List.mem_cons_self endFree] at restored
    have same := Option.some.inj restored
    rcases lines_concat text with ⟨front, last, isText, terminated, _, cut⟩
    by_cases blank : isBlank (last ++ [newline]) = true
    · rw [cut, popBlank_concat blank, lines, flatten_splitInclusive, isText] at same
      have isLast : last = [] := List.append_right_eq_self.mp same.symm
      rwa [isText, isLast, List.append_nil]
    · have notBlank : ¬ endsBlank (markers [pathExpr]) (lines (text ++ [newline])) = true := by
        rw [cut, endsBlank_concat]
        exact blank
      rw [popBlank, if_neg notBlank, lines, flatten_splitInclusive] at same
      exact absurd (List.append_right_eq_self.mp same) (List.cons_ne_nil _ _)
  · intro restorable noStart pathExprs isExpr
    rcases restorable noStart with ⟨terminated, endFree⟩
    rw [remove_snippet noStart isExpr endFree]
    have cut : lines (text ++ [newline]) = lines text ++ [[newline]] := by
      rw [lines, splitInclusive_append terminated]
      rfl
    have blank : (markers pathExprs).blank [newline] = true := by
      show isBlank [newline] = true
      decide
    rw [cut, popBlank_concat blank, lines, flatten_splitInclusive]

/-- What the removal is to do, and where it does. -/
theorem undo_iff (shellKind : ShellKind) (pathExpr text : Bytes) (pathExprs : List Bytes) :
    (RemovesOwnBlocks text pathExprs ↔
      ¬ Straddled (markers pathExprs) (lines text) ∧ ¬ Stacked (markers pathExprs) (lines text)) ∧
    (RestoresProfile shellKind pathExpr text ↔ Restorable shellKind pathExpr text) :=
  ⟨removesOwnBlocks_iff text pathExprs, restoresProfile_iff shellKind pathExpr text⟩

/-! ## A start marker without its end -/

def installedExpr : Bytes := asciiBytes "/opt/rocm/bin"

/-- The end of the first block was edited away, and the user's own lines stand
between it and the block of a second install. -/
def unclosedProfile : Bytes :=
  asciiBytes "# >>> rocm-cli path >>>\nalias ll='ls -l'\n" ++ pathSnippet .posix installedExpr

/-- Everything between the two start markers is taken for a body. -/
def unclosedStretch : Stretch (markers [installedExpr]) where
  opening := startLine
  body := (lines unclosedProfile).tail.dropLast
  closing := endLine
  isOpening := startLine_spec.1
  isClosing := endLine_spec
  unclosed line isIn := by
    have none : (lines unclosedProfile).tail.dropLast.any isEnd = false := by decide
    exact Bool.eq_false_iff.mpr (List.any_eq_false.mp none line isIn)
  isOwned := by decide

/-- The alias goes with the block. -/
theorem unclosed_start_takes_alias :
    removeProfileBlockBytes unclosedProfile [installedExpr] = some [] ∧
      ¬ RemovesOwnBlocks unclosedProfile [installedExpr] := by
  refine ⟨by decide, fun removes => ?_⟩
  have notStraddled := ((removesOwnBlocks_iff _ _).mp removes).1
  exact notStraddled ⟨[], unclosedStretch, [], by decide, by decide⟩

end Uninstall
end RocmCli
