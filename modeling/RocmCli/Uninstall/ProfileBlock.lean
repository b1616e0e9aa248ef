import RocmCli.JsonlStore.Lines
import RocmCli.Support.InclusiveLines
import RocmCli.Support.MarkedBlocks
import RocmCli.Support.Text

namespace RocmCli
namespace Uninstall

open JsonlStore (Bytes newline isAsciiWhitespace isBlank)
open InclusiveLines (splitInclusive)
open MarkedBlocks
open Text (asciiBytes)

/-!
# The block in a shell profile

The installer puts its folder on the path by a block between two marker lines in
the shell's profile.  An uninstall takes the block out again, and the blank line
that the installer put in front of it.
-/

def profileBlockStart : Bytes := asciiBytes "# >>> rocm-cli path >>>"

def profileBlockEnd : Bytes := asciiBytes "# <<< rocm-cli path <<<"

def quote : UInt8 := 0x22

def backslash : UInt8 := 0x5c

def colon : UInt8 := 0x3a

def trimAsciiEnd (line : Bytes) : Bytes := line.rdropWhile isAsciiWhitespace

def isStart (line : Bytes) : Bool := trimAsciiEnd line == profileBlockStart

def isEnd (line : Bytes) : Bool := trimAsciiEnd line == profileBlockEnd

/-! ## The folder in a block -/

def escapeForDoubleQuotes (expr : Bytes) : Bytes :=
  expr.flatMap fun byte => if byte = backslash ∨ byte = quote then [backslash, byte] else [byte]

def quoted (expr : Bytes) : Bytes := quote :: (escapeForDoubleQuotes expr ++ [quote])

def listed (expr : Bytes) : Bytes := quote :: (escapeForDoubleQuotes expr ++ [colon])

def needles (pathExprs : List Bytes) : List Bytes :=
  pathExprs.flatMap fun expr => [quoted expr, listed expr]

def contains (haystack needle : Bytes) : Bool := haystack.tails.any needle.isPrefixOf

def namesDir (pathExprs : List Bytes) (body : Bytes) : Bool :=
  (needles pathExprs).any (contains body)

/-! ## Taking the block out -/

def popLastBlank (kept : List Bytes) : List Bytes :=
  if kept.getLast?.any isBlank then kept.dropLast else kept

/-- The loop over the lines.  The number is that of the lines which the index has
gone past already. -/
def removeLoop (pathExprs : List Bytes) :
    List Bytes -> (skipped : Nat) -> (kept : List Bytes) -> (removed : Bool) -> List Bytes × Bool
  | [], _, kept, removed => (kept, removed)
  | _ :: rest, skipped + 1, kept, removed => removeLoop pathExprs rest skipped kept removed
  | line :: rest, 0, kept, removed =>
      if isStart line then
        match rest.findIdx? isEnd with
        | some ending =>
            if namesDir pathExprs (rest.take ending).flatten then
              removeLoop pathExprs rest (ending + 1) (popLastBlank kept) true
            else removeLoop pathExprs rest 0 (kept ++ [line]) removed
        | none => removeLoop pathExprs rest 0 (kept ++ [line]) removed
      else removeLoop pathExprs rest 0 (kept ++ [line]) removed

def lines (text : Bytes) : List Bytes := splitInclusive newline text

def removeProfileBlockBytes (text : Bytes) (pathExprs : List Bytes) : Option Bytes :=
  let (kept, removed) := removeLoop pathExprs (lines text) 0 [] false
  if removed then some kept.flatten else none

/-! ## What the installer appends -/

inductive ShellKind where
  | posix
  | fish
  deriving DecidableEq, Repr

/-- The lines between the markers. -/
def snippetBody (shellKind : ShellKind) (pathExpr : Bytes) : Bytes :=
  let escaped := escapeForDoubleQuotes pathExpr
  match shellKind with
  | .fish =>
      asciiBytes "if not contains -- \"" ++ (escaped ++ (asciiBytes "\" $PATH\n" ++
        (asciiBytes "    set -gx PATH \"" ++ (escaped ++ (asciiBytes "\" $PATH\n" ++
          asciiBytes "end\n")))))
  | .posix =>
      asciiBytes "case \":$PATH:\" in\n" ++
        (asciiBytes "  *:\"" ++ (escaped ++ (asciiBytes "\":*) ;;\n" ++
          (asciiBytes "  *) export PATH=\"" ++ (escaped ++ (asciiBytes ":$PATH\" ;;\n" ++
            asciiBytes "esac\n"))))))

/-- What is appended to the profile.  The expression is itself what `$(...)`
leaves, so neither it nor its escaped form ends in a line feed that the shell
would drop. -/
def pathSnippet (shellKind : ShellKind) (pathExpr : Bytes) : Bytes :=
  newline :: (profileBlockStart ++ newline ::
    (snippetBody shellKind pathExpr ++ (profileBlockEnd ++ [newline])))

/-! ## Lines and their markers -/

theorem trimAsciiEnd_append (line : Bytes) :
    exists space, line = trimAsciiEnd line ++ space ∧
      forall byte, byte ∈ space -> isAsciiWhitespace byte = true :=
  ⟨line.rtakeWhile isAsciiWhitespace, List.rdropWhile_append_rtakeWhile.symm,
    fun _ isIn => List.mem_rtakeWhile_imp isIn⟩

theorem trimAsciiEnd_newline (line : Bytes) : trimAsciiEnd (line ++ [newline]) = trimAsciiEnd line :=
  List.rdropWhile_concat_pos _ _ _ (by decide)

variable {line : Bytes}

theorem trimAsciiEnd_blank (blank : isBlank line = true) : trimAsciiEnd line = [] :=
  List.rdropWhile_eq_nil_iff.mpr (List.all_eq_true.mp blank)

theorem isStart_iff : isStart line = true ↔ trimAsciiEnd line = profileBlockStart :=
  beq_iff_eq

theorem isEnd_iff : isEnd line = true ↔ trimAsciiEnd line = profileBlockEnd :=
  beq_iff_eq

theorem isEnd_of_isStart (start : isStart line = true) : isEnd line = false := by
  rw [isEnd, isStart_iff.mp start]
  decide

theorem marker_of_blank (blank : isBlank line = true) :
    isStart line = false ∧ isEnd line = false := by
  rw [isStart, isEnd, trimAsciiEnd_blank blank]
  decide

theorem contains_iff {haystack needle : Bytes} : contains haystack needle = true ↔ needle <:+: haystack := by
  unfold contains
  rw [List.any_eq_true]
  constructor
  · rintro ⟨tail, isTail, starts⟩
    exact (List.isPrefixOf_iff_prefix.mp starts).isInfix.trans ((List.mem_tails _ _).mp isTail).isInfix
  · rintro ⟨before, after, whole⟩
    refine ⟨needle ++ after, (List.mem_tails _ _).mpr ⟨before, ?_⟩,
      List.isPrefixOf_iff_prefix.mpr ⟨after, rfl⟩⟩
    rw [← List.append_assoc, whole]

theorem namesDir_iff {pathExprs : List Bytes} {body : Bytes} :
    namesDir pathExprs body = true ↔
      exists expr, expr ∈ pathExprs ∧ (quoted expr <:+: body ∨ listed expr <:+: body) := by
  unfold namesDir needles
  rw [List.any_eq_true]
  constructor
  · rintro ⟨needle, isNeedle, isIn⟩
    rcases List.mem_flatMap.mp isNeedle with ⟨expr, isExpr, spelled⟩
    refine ⟨expr, isExpr, ?_⟩
    rcases List.mem_cons.mp spelled with rfl | spelled
    · exact .inl (contains_iff.mp isIn)
    · rw [List.mem_singleton.mp spelled] at isIn
      exact .inr (contains_iff.mp isIn)
  · rintro ⟨expr, isExpr, isIn | isIn⟩
    · exact ⟨quoted expr, List.mem_flatMap.mpr ⟨expr, isExpr, List.mem_cons_self⟩, contains_iff.mpr isIn⟩
    · exact ⟨listed expr, List.mem_flatMap.mpr
        ⟨expr, isExpr, List.mem_cons_of_mem _ List.mem_cons_self⟩, contains_iff.mpr isIn⟩

/-- The marker lines, and whose block is whose. -/
def markers (pathExprs : List Bytes) : Markers Bytes where
  opens := isStart
  closes := isEnd
  blank := isBlank
  owned body := namesDir pathExprs body.flatten
  closes_of_opens _ := isEnd_of_isStart
  plain_of_blank _ := marker_of_blank
  owned_append front body names := by
    rcases namesDir_iff.mp names with ⟨expr, isExpr, isIn⟩
    refine namesDir_iff.mpr ⟨expr, isExpr, ?_⟩
    have behind : body.flatten <:+: (front ++ body).flatten := by
      rw [List.flatten_append]
      exact (List.suffix_append ..).isInfix
    exact isIn.imp (·.trans behind) (·.trans behind)

/-! ## The loop and the pass -/

theorem removeLoop_skip (pathExprs : List Bytes) (lines kept : List Bytes) (skipped : Nat)
    (removed : Bool) : removeLoop pathExprs lines skipped kept removed =
      removeLoop pathExprs (lines.drop skipped) 0 kept removed := by
  induction lines generalizing skipped with
  | nil => cases skipped <;> rfl
  | cons line rest ih =>
    cases skipped with
    | zero => rfl
    | succ skipped => exact ih skipped

/-- The first end marker behind some lines. -/
theorem findIdx_isEnd {rest body back : List Bytes} {closing : Bytes}
    (unclosed : forall line, line ∈ body -> isEnd line = false) (closes : isEnd closing = true)
    (whole : rest = body ++ closing :: back) : rest.findIdx? isEnd = some body.length := by
  rw [whole, List.findIdx?_append, List.findIdx?_eq_none_iff.mpr unclosed, Option.none_or,
    List.findIdx?_cons, if_pos closes, Option.map_some, Nat.zero_add]

theorem findIdx_split {rest : List Bytes} {ending : Nat} (found : rest.findIdx? isEnd = some ending) :
    exists closing back, rest = rest.take ending ++ closing :: back ∧
      (forall line, line ∈ rest.take ending -> isEnd line = false) ∧ isEnd closing = true := by
  rcases List.findIdx?_eq_some_iff_getElem.mp found with ⟨inside, closes, before⟩
  refine ⟨rest[ending], rest.drop (ending + 1), ?_, ?_, closes⟩
  · rw [List.getElem_cons_drop, List.take_append_drop]
  · intro line isIn
    rcases List.mem_take_iff_getElem.mp isIn with ⟨index, early, rfl⟩
    exact Bool.eq_false_iff.mpr (before index (Nat.lt_of_lt_of_le early (Nat.min_le_left _ _)))

/-- The loop is the pass that takes marked blocks out. -/
theorem removeLoop_swept {pathExprs lines : List Bytes} {pieces : List (Piece (markers pathExprs))}
    (swept : Swept lines pieces) (kept : List Bytes) (removed : Bool) :
    removeLoop pathExprs lines 0 kept removed =
      (sweep kept pieces, removed || pieces.any Piece.isTaken) := by
  induction swept generalizing kept removed with
  | nil => rw [List.any_nil, Bool.or_false]; rfl
  | item line rest pieces unowned behind ih =>
    have keeps : removeLoop pathExprs (line :: rest) 0 kept removed =
        removeLoop pathExprs rest 0 (kept ++ [line]) removed := by
      rw [removeLoop]
      by_cases start : isStart line = true
      · rw [if_pos start]
        cases found : rest.findIdx? isEnd with
        | none => rfl
        | some ending =>
          have unnamed : ¬ namesDir pathExprs (rest.take ending).flatten = true := by
            intro names
            rcases findIdx_split found with ⟨closing, back, whole, unclosed, closes⟩
            refine unowned ⟨line, rest.take ending, closing, start, closes, unclosed, names⟩ back ?_
            rw [Stretch.items_append, ← whole]
          exact if_neg unnamed
      · rw [if_neg start]
    rw [keeps, ih, List.any_cons, Piece.isTaken, Bool.false_or, sweep]
  | stretch stretch rest pieces behind ih =>
    have found := findIdx_isEnd stretch.unclosed stretch.isClosing
      (rfl : stretch.body ++ stretch.closing :: rest = _)
    have takes : removeLoop pathExprs (stretch.items ++ rest) 0 kept removed =
        removeLoop pathExprs rest 0 (popBlank (markers pathExprs) kept) true := by
      have names : namesDir pathExprs
          ((stretch.body ++ stretch.closing :: rest).take stretch.body.length).flatten = true := by
        rw [List.take_left]
        exact stretch.isOwned
      have starts : isStart stretch.opening = true := stretch.isOpening
      rw [stretch.items_append, removeLoop, if_pos starts, found]
      dsimp only
      rw [if_pos names, removeLoop_skip, ← List.drop_drop, List.drop_left, List.drop_one, List.tail_cons]
      rfl
    rw [takes, ih, List.any_cons, Piece.isTaken, Bool.true_or, Bool.or_true, sweep]

end Uninstall
end RocmCli
