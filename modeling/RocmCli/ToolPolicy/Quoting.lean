import RocmCli.Support.ShellWords
import RocmCli.Support.Text

namespace RocmCli
namespace ToolPolicy

open ShellWords

/-!
# Quoting a command for a reader

The one-line command an operator approves.  Each argument is quoted so that a
POSIX shell reads it back as one word, and nothing that a terminal acts on is
let through.
-/

/-! ## The quoter and its copy -/

def isInert (character : Char) : Bool :=
  character.isAlphanum || character == '-' || character == '_' || character == '.' ||
    character == '/' || character == ':' || character == '='

/-- Each quote is closed, escaped and opened again. -/
def escapeQuotes (text : List Char) : List Char :=
  text.flatMap fun character => if character = '\'' then "'\\''".toList else [character]

def posixShellQuote (value : String) : String :=
  if !value.toList.isEmpty && value.toList.all isInert then value
  else String.ofList ('\'' :: escapeQuotes value.toList ++ ['\''])

/-- The copy that the dashboard keeps for its previews. -/
def quoteDisplayArg (value : String) : String :=
  let inert := fun character : Char =>
    character.isAlphanum || character == '-' || character == '_' || character == '.' ||
      character == '/' || character == ':' || character == '='
  if !value.toList.isEmpty && value.toList.all inert then value
  else String.ofList ('\'' :: value.toList.flatMap (fun character =>
    if character = '\'' then "'\\''".toList else [character]) ++ ['\''])

def formatStructuredToolCall (tool : String) (args : List String) : String :=
  " ".intercalate (tool :: args.map posixShellQuote)

/-! ## What a terminal acts on -/

/-- The category `Cc`. -/
def isControl (character : Char) : Bool :=
  character.toNat ≤ 0x1f || (0x7f ≤ character.toNat && character.toNat ≤ 0x9f)

/-- The first and last code of each range of format characters. -/
def formatRanges : List (Nat × Nat) :=
  [(0xad, 0xad), (0x600, 0x605), (0x61c, 0x61c), (0x6dd, 0x6dd), (0x70f, 0x70f), (0x890, 0x891),
    (0x8e2, 0x8e2), (0x180e, 0x180e), (0x200b, 0x200f), (0x202a, 0x202e), (0x2060, 0x2064),
    (0x2066, 0x206f), (0xfeff, 0xfeff), (0xfff9, 0xfffb), (0x110bd, 0x110bd), (0x110cd, 0x110cd),
    (0x13430, 0x1343f), (0x1bca0, 0x1bca3), (0x1d173, 0x1d17a), (0xe0001, 0xe0001),
    (0xe0020, 0xe007f)]

def isControlOrFormat (character : Char) : Bool :=
  isControl character ||
    formatRanges.any fun range => range.1 ≤ character.toNat && character.toNat ≤ range.2

def isControlOrLineSeparator (character : Char) : Bool :=
  isControl character || character.toNat == 0x2028 || character.toNat == 0x2029

def isTerminalControl (character : Char) : Bool :=
  isControlOrFormat character || isControlOrLineSeparator character

def hasTerminalControlCharacter (value : String) : Bool := value.toList.any isTerminalControl

/-! ## Reading a quoted argument back -/

theorem inert_of_isInert {character : Char} (inert : isInert character = true) :
    Inert character := by
  have ascii : character.toNat < 128 := by
    unfold isInert Char.isAlphanum Char.isAlpha Char.isUpper Char.isLower Char.isDigit at inert
    simp only [Bool.or_eq_true, Bool.and_eq_true, decide_eq_true_eq, beq_iff_eq] at inert
    have bounds : forall bound : UInt32, character.val ≤ bound -> bound.toNat < 128 ->
        character.toNat < 128 := fun bound below small =>
      Nat.lt_of_le_of_lt (UInt32.le_iff_toNat_le.mp below) small
    rcases inert with (((((letterOrDigit | rfl) | rfl) | rfl) | rfl) | rfl) | rfl
    · rcases letterOrDigit with (upper | lower) | digit
      · exact bounds 'Z'.val upper.2 (by decide)
      · exact bounds 'z'.val lower.2 (by decide)
      · exact bounds '9'.val digit.2 (by decide)
    all_goals decide
  revert inert
  apply Text.forall_toNat_lt (fun character => isInert character = true -> Inert character) _ ascii
  unfold Inert
  decide +kernel

/-- The marks a shell gives to a quoted argument. -/
def quotedMarks (value : String) : List Mark :=
  marked (!(!value.toList.isEmpty && value.toList.all isInert)) value.toList

theorem scan_escapeQuotes {text : List Char} (noNul : '\x00' ∉ text) (rest : List Char) :
    scan .inSingle (escapeQuotes text ++ rest) =
      (scan .inSingle rest).map (pushAll (marked true text)) := by
  induction text with
  | nil => exact Option.map_id.symm ▸ rfl
  | cons character text ih =>
      rw [List.mem_cons, not_or] at noNul
      have later := ih noNul.2
      unfold escapeQuotes at later ⊢
      rw [List.flatMap_cons, List.append_assoc]
      by_cases quote : character = '\''
      · rw [if_pos quote, scan_single_quote, later, Option.map_map, quote]
        rfl
      · rw [if_neg quote, List.singleton_append, scan, if_neg quote, if_neg (Ne.symm noNul.1),
          later, Option.map_map]
        rfl

/-- A quoted argument reads back as one word, whatever follows it. -/
theorem scan_posixShellQuote {value : String} (noNul : '\x00' ∉ value.toList) (rest : List Char) :
    scan .between ((posixShellQuote value).toList ++ rest) =
      (scan .inWord rest).map (pushAll (quotedMarks value)) := by
  unfold posixShellQuote quotedMarks
  by_cases bare : (!value.toList.isEmpty && value.toList.all isInert) = true
  · rw [if_pos bare, bare]
    rw [Bool.and_eq_true, List.all_eq_true, Bool.not_eq_true'] at bare
    cases characters : value.toList with
    | nil =>
        rw [characters] at bare
        exact absurd bare.1 (by decide)
    | cons first others =>
        rw [characters] at bare
        have inert : forall character, character ∈ first :: others -> Inert character :=
          fun character member => inert_of_isInert (bare.2 character member)
        rw [List.cons_append, scan_inert (Or.inl rfl) (inert first List.mem_cons_self),
          scan_inert_word fun character member => inert character (List.mem_cons_of_mem _ member),
          Option.map_map]
        rfl
  · rw [if_neg bare, Bool.eq_false_iff.mpr bare, String.toList_ofList, List.cons_append,
      List.cons_append, scan_open (Or.inl rfl), List.append_assoc, scan_escapeQuotes noNul,
      List.singleton_append, scan_close]
    rfl

/-- The arguments behind the program's word. -/
def argumentText (args : List String) : List Char :=
  args.flatMap fun arg => ' ' :: (posixShellQuote arg).toList

theorem formatStructuredToolCall_toList (tool : String) (args : List String) :
    (formatStructuredToolCall tool args).toList = tool.toList ++ argumentText args := by
  unfold formatStructuredToolCall
  induction args generalizing tool with
  | nil => simp [argumentText]
  | cons arg args ih =>
      have later := ih (posixShellQuote arg)
      rw [List.map_cons, String.intercalate_cons_cons, String.toList_append, String.toList_append,
        later]
      simp [argumentText]

theorem scan_argumentText {args : List String}
    (noNul : forall arg, arg ∈ args -> '\x00' ∉ arg.toList) :
    scan .inWord (argumentText args) = some ([] :: args.map quotedMarks) := by
  induction args with
  | nil => rfl
  | cons arg args ih =>
      have later := ih fun other member => noNul other (List.mem_cons_of_mem _ member)
      have blank : forall rest, scan .inWord (' ' :: rest) = (scan .between rest).map ([] :: ·) := by
        intro rest
        simp [scan, isBlank]
      unfold argumentText at later ⊢
      rw [List.flatMap_cons, List.cons_append, blank,
        scan_posixShellQuote (noNul arg List.mem_cons_self), later, Option.map_some, pushAll_cons,
        List.append_nil]
      rfl

/-- A word that a shell takes as the name of a command and nothing else. -/
def IsCommandWord (tool : String) : Prop :=
  (exists first others, tool.toList = first :: others) ∧
    (forall character, character ∈ tool.toList -> Inert character) ∧
    isAssignment (marked false tool.toList) = false ∧
    isReserved (marked false tool.toList) = false

/-- What is shown splits back into the program's word and the arguments. -/
theorem shellWords_formatStructuredToolCall {tool : String} (command : IsCommandWord tool)
    {args : List String} (noNul : forall arg, arg ∈ args -> '\x00' ∉ arg.toList) :
    shellWords (formatStructuredToolCall tool args).toList =
      some ((tool :: args).map String.toList) := by
  obtain ⟨⟨first, others, split⟩, inert, notAssignment, notReserved⟩ := command
  have read : scan .between (tool.toList ++ argumentText args) =
      some (marked false tool.toList :: args.map quotedMarks) := by
    rw [split] at inert ⊢
    rw [List.cons_append, scan_inert (Or.inl rfl) (inert first List.mem_cons_self),
      scan_inert_word fun character member => inert character (List.mem_cons_of_mem _ member),
      scan_argumentText noNul, Option.map_some, Option.map_some, pushAll_cons, List.append_nil]
    rfl
  have firstPlain : (isAssignment (marked false tool.toList) ||
      isReserved (marked false tool.toList)) = false := by rw [notAssignment, notReserved]; rfl
  have words : (args.map quotedMarks).map (fun word => word.map Prod.fst) =
      args.map String.toList := by
    rw [List.map_map]
    apply List.map_congr_left
    intro arg _
    exact map_fst_marked _ _
  unfold shellWords
  rw [formatStructuredToolCall_toList, read]
  dsimp only
  rw [List.head?_cons, Option.any_some, firstPlain, if_neg Bool.false_ne_true, List.map_cons, words,
    map_fst_marked]
  rfl

theorem rocm_isCommandWord : IsCommandWord "rocm" := by
  refine ⟨⟨'r', "ocm".toList, by decide⟩, ?_, by decide, by decide +kernel⟩
  have every : "rocm".toList.all isInert = true := by decide
  exact fun character member => inert_of_isInert (List.all_eq_true.mp every character member)

/-! ## Nothing for the terminal -/

theorem hasTerminalControlCharacter_posixShellQuote (value : String) :
    hasTerminalControlCharacter (posixShellQuote value) = hasTerminalControlCharacter value := by
  unfold hasTerminalControlCharacter posixShellQuote
  by_cases bare : (!value.toList.isEmpty && value.toList.all isInert) = true
  · rw [if_pos bare]
  · have quote : isTerminalControl '\'' = false := by decide
    have escaped : forall text : List Char,
        (escapeQuotes text).any isTerminalControl = text.any isTerminalControl := by
      intro text
      unfold escapeQuotes
      rw [List.any_flatMap]
      congr 1
      funext character
      by_cases isQuote : character = '\''
      · rw [if_pos isQuote, isQuote]
        decide
      · rw [if_neg isQuote]
        simp
    rw [if_neg bare, String.toList_ofList, List.cons_append, List.any_cons, List.any_append, escaped,
      List.any_cons, List.any_nil, quote, Bool.false_or, Bool.or_false, Bool.or_false]

/-- A command line shows no more control characters than its arguments have. -/
theorem hasTerminalControlCharacter_formatStructuredToolCall {tool : String} {args : List String}
    (toolClean : hasTerminalControlCharacter tool = false)
    (clean : forall arg, arg ∈ args -> hasTerminalControlCharacter arg = false) :
    hasTerminalControlCharacter (formatStructuredToolCall tool args) = false := by
  have argumentsClean : (argumentText args).any isTerminalControl = false := by
    unfold argumentText
    rw [List.any_flatMap, List.any_eq_false]
    intro arg member
    have blank : isTerminalControl ' ' = false := by decide
    have quoted := hasTerminalControlCharacter_posixShellQuote arg
    rw [clean arg member] at quoted
    rw [List.any_cons, blank, Bool.false_or]
    exact Bool.eq_false_iff.mp quoted
  unfold hasTerminalControlCharacter at toolClean ⊢
  rw [formatStructuredToolCall_toList, List.any_append, toolClean, argumentsClean]
  rfl

theorem not_nul_of_clean {value : String} (clean : hasTerminalControlCharacter value = false) :
    '\x00' ∉ value.toList := by
  intro member
  unfold hasTerminalControlCharacter at clean
  have flagged := List.any_eq_false.mp clean '\x00' member
  exact flagged (by decide)

end ToolPolicy
end RocmCli
