import Mathlib.Data.List.TakeWhile

namespace RocmCli
namespace Process

/-!
# The command line of a detached child

Windows hands a child one command line, which the child splits again.  The
quoting decides by counting backslashes, because a backslash is literal except
in a run that ends at a quote.  What is proved is that splitting returns the
arguments that were quoted.

Text is a list of characters.  Both sides compare with single-unit characters
only, so the UTF-16 form the system sees splits at the same places.
-/

/-- Terminates a command line. -/
def nul : Char := '\x00'

/-- The characters that force an argument into quotes. -/
def needsQuotes (character : Char) : Bool :=
  character == ' ' || character == '\t' || character == '\n' || character == '\r' ||
    character == '"'

/-- The loop of the quoting, with the number of backslashes it has read but not
written, through to the closing quote. -/
def quoteFrom : List Char -> (backslashes : Nat) -> List Char
  | [], backslashes => List.replicate (backslashes * 2) '\\' ++ ['"']
  | character :: rest, backslashes =>
      if character = '\\' then quoteFrom rest (backslashes + 1)
      else if character = '"' then
        List.replicate (backslashes * 2 + 1) '\\' ++ '"' :: quoteFrom rest 0
      else List.replicate backslashes '\\' ++ character :: quoteFrom rest 0

def quoteWindowsArg (arg : List Char) : List Char :=
  if !arg.isEmpty && !arg.any needsQuotes then arg
  else '"' :: quoteFrom arg 0

/-- The quoted program and arguments, separated by spaces and terminated. -/
def windowsCommandLine (program : List Char) (args : List (List Char)) : List Char :=
  args.foldl (fun command arg => command ++ ' ' :: quoteWindowsArg arg)
    (quoteWindowsArg program) ++ [nul]

/-! ## The receiving side -/

/-- Where a child is in splitting its command line.  `current` is the argument
it is in, if any, without the backslashes just read. -/
structure ArgvState where
  finished : List (List Char)
  current : Option (List Char)
  backslashes : Nat
  quoted : Bool
  deriving DecidableEq, Repr

namespace ArgvState

def start : ArgvState := ⟨[], none, 0, false⟩

/-- Between two arguments, outside quotes. -/
def between (finished : List (List Char)) : ArgvState := ⟨finished, none, 0, false⟩

/-- The argument in progress with the backslashes just read, which are literal
unless a quote follows. -/
def pending (state : ArgvState) : Option (List Char) :=
  match state.current, state.backslashes with
  | none, 0 => none
  | current, backslashes => some (current.getD [] ++ List.replicate backslashes '\\')

/-- A quote after `2n` backslashes switches quoting, after `2n + 1` it is
literal; either way `n` backslashes remain. -/
def atQuote (state : ArgvState) : ArgvState :=
  let text := state.current.getD [] ++ List.replicate (state.backslashes / 2) '\\'
  if state.backslashes % 2 = 0 then
    { state with current := some text, backslashes := 0, quoted := !state.quoted }
  else { state with current := some (text ++ ['"']), backslashes := 0 }

def atSeparator (state : ArgvState) : ArgvState :=
  between (state.finished ++ state.pending.toList)

def read (state : ArgvState) (character : Char) : ArgvState :=
  if character = '\\' then { state with backslashes := state.backslashes + 1 }
  else if character = '"' then state.atQuote
  else if (character = ' ' ∨ character = '\t') ∧ state.quoted = false then state.atSeparator
  else { state with current := some (state.pending.getD [] ++ [character]), backslashes := 0 }

def arguments (state : ArgvState) : List (List Char) :=
  state.finished ++ state.pending.toList

end ArgvState

/-- Split a command line by the Microsoft rules. -/
def parseWindowsArgv (commandLine : List Char) : List (List Char) :=
  ((commandLine.takeWhile (fun character => character != nul)).foldl
    ArgvState.read ArgvState.start).arguments

/-! ## Splitting what was quoted -/

theorem read_backslashes (state : ArgvState) (count : Nat) :
    (List.replicate count '\\').foldl ArgvState.read state =
      { state with backslashes := state.backslashes + count } := by
  induction count generalizing state with
  | zero => rfl
  | succ count ih =>
      rw [List.replicate_succ, List.foldl_cons, ih]
      simp only [ArgvState.read, if_true, Nat.add_right_comm, Nat.add_assoc]

/-- Inside quotes, the rest of an argument and its closing quote add exactly
that rest to the argument, after the backslashes the quoting still owed. -/
theorem read_quoteFrom (rest : List Char) (finished : List (List Char)) (text : List Char)
    (backslashes : Nat) :
    (quoteFrom rest backslashes).foldl ArgvState.read ⟨finished, some text, 0, true⟩ =
      ⟨finished, some (text ++ List.replicate backslashes '\\' ++ rest), 0, false⟩ := by
  induction rest generalizing text backslashes with
  | nil =>
      rw [quoteFrom, List.foldl_append, read_backslashes]
      simp [ArgvState.read, ArgvState.atQuote]
  | cons character rest ih =>
      rw [quoteFrom]
      by_cases isBackslash : character = '\\'
      · rw [if_pos isBackslash, ih, isBackslash, List.replicate_succ']
        simp
      · rw [if_neg isBackslash]
        by_cases isQuote : character = '"'
        · have literal : (ArgvState.read ⟨finished, some text, backslashes * 2 + 1, true⟩ '"') =
              ⟨finished, some (text ++ List.replicate backslashes '\\' ++ ['"']), 0, true⟩ := by
            simp [ArgvState.read, ArgvState.atQuote, Nat.mul_add_mod_self_right,
              show (backslashes * 2 + 1) / 2 = backslashes by omega]
          rw [if_pos isQuote, List.foldl_append, read_backslashes, List.foldl_cons, Nat.zero_add,
            literal, ih, isQuote]
          simp
        · have plain : (ArgvState.read ⟨finished, some text, backslashes, true⟩ character) =
              ⟨finished, some (text ++ List.replicate backslashes '\\' ++ [character]), 0,
                true⟩ := by
            simp [ArgvState.read, ArgvState.pending, isBackslash, isQuote]
          rw [if_neg isQuote, List.foldl_append, read_backslashes, List.foldl_cons, Nat.zero_add,
            plain, ih]
          simp

theorem ArgvState.pending_getD (state : ArgvState) :
    state.pending.getD [] =
      state.current.getD [] ++ List.replicate state.backslashes '\\' := by
  unfold pending
  split
  next none zero => simp [none, zero]
  next => rfl

/-- Outside quotes, a character that needs no quotes is added as it is. -/
theorem read_plain (state : ArgvState) (unquoted : state.quoted = false) {character : Char}
    (plain : needsQuotes character = false) :
    (state.read character).finished = state.finished ∧
      (state.read character).quoted = false ∧
      (state.read character).pending = some (state.pending.getD [] ++ [character]) := by
  simp only [needsQuotes, Bool.or_eq_false_iff, beq_eq_false_iff_ne] at plain
  rcases plain with ⟨⟨⟨⟨notSpace, notTab⟩, -⟩, -⟩, notQuote⟩
  unfold ArgvState.read
  by_cases isBackslash : character = '\\'
  · rw [if_pos isBackslash, ArgvState.pending_getD]
    refine ⟨rfl, unquoted, ?_⟩
    simp [ArgvState.pending, isBackslash, List.replicate_succ']
  · rw [if_neg isBackslash, if_neg notQuote, if_neg (by simp [notSpace, notTab])]
    exact ⟨rfl, unquoted, by simp [ArgvState.pending]⟩

theorem read_all_plain (characters : List Char) (state : ArgvState)
    (unquoted : state.quoted = false)
    (plain : forall character, character ∈ characters -> needsQuotes character = false)
    (nonempty : characters ≠ []) :
    (characters.foldl ArgvState.read state).finished = state.finished ∧
      (characters.foldl ArgvState.read state).quoted = false ∧
      (characters.foldl ArgvState.read state).pending =
        some (state.pending.getD [] ++ characters) := by
  induction characters generalizing state with
  | nil => exact absurd rfl nonempty
  | cons character rest ih =>
      have first := read_plain state unquoted (plain character List.mem_cons_self)
      rcases first with ⟨finished, stillUnquoted, pending⟩
      by_cases last : rest = []
      · rw [last]
        exact ⟨finished, stillUnquoted, pending⟩
      · have others := ih (state.read character) stillUnquoted
          (fun other member => plain other (List.mem_cons_of_mem character member)) last
        rw [List.foldl_cons, others.1, others.2.2, finished, pending]
        exact ⟨rfl, others.2.1, by simp⟩

/-- A quoted argument reads back as the argument, wherever it stands. -/
theorem read_quoteWindowsArg (arg : List Char) (finished : List (List Char)) :
    ((quoteWindowsArg arg).foldl ArgvState.read (ArgvState.between finished)).finished =
        finished ∧
      ((quoteWindowsArg arg).foldl ArgvState.read (ArgvState.between finished)).quoted =
        false ∧
      ((quoteWindowsArg arg).foldl ArgvState.read (ArgvState.between finished)).pending =
        some arg := by
  unfold quoteWindowsArg
  split
  next bare =>
    simp only [Bool.and_eq_true, Bool.not_eq_true', List.any_eq_false] at bare
    have nonempty : arg ≠ [] := by simpa using bare.1
    have spec := read_all_plain arg (ArgvState.between finished) rfl
      (fun character member => by simpa using bare.2 character member) nonempty
    exact spec
  next =>
    have opening : (ArgvState.between finished).read '"' = ⟨finished, some [], 0, true⟩ := by
      simp [ArgvState.read, ArgvState.atQuote, ArgvState.between]
    rw [List.foldl_cons, opening, read_quoteFrom]
    exact ⟨rfl, rfl, by simp [ArgvState.pending]⟩

theorem read_separated (args : List (List Char)) (finished : List (List Char)) :
    (([' '].intercalate (args.map quoteWindowsArg)).foldl ArgvState.read
      (ArgvState.between finished)).arguments = finished ++ args := by
  induction args generalizing finished with
  | nil => simp [ArgvState.arguments, ArgvState.between, ArgvState.pending]
  | cons arg rest ih =>
      rcases read_quoteWindowsArg arg finished with ⟨sameFinished, unquoted, pending⟩
      cases rest with
      | nil =>
          simp only [List.map_cons, List.map_nil, List.intercalate_singleton]
          rw [ArgvState.arguments, sameFinished, pending]
          rfl
      | cons next rest =>
          have separator : ((quoteWindowsArg arg).foldl ArgvState.read
              (ArgvState.between finished)).read ' ' =
                ArgvState.between (finished ++ [arg]) := by
            rw [ArgvState.read, if_neg (by decide), if_neg (by decide),
              if_pos ⟨Or.inl rfl, unquoted⟩, ArgvState.atSeparator, sameFinished, pending]
            rfl
          rw [List.map_cons, List.intercalate_cons_of_ne_nil (by simp), List.foldl_append,
            List.foldl_append, List.foldl_cons, List.foldl_nil, separator, ih]
          simp

/-! ## Terminators -/

@[simp] theorem nul_ne_quote : nul ≠ '"' := by decide

@[simp] theorem nul_ne_backslash : nul ≠ '\\' := by decide

@[simp] theorem nul_ne_space : nul ≠ ' ' := by decide

theorem nul_not_mem_quoteFrom {rest : List Char} (free : nul ∉ rest) (backslashes : Nat) :
    nul ∉ quoteFrom rest backslashes := by
  induction rest generalizing backslashes with
  | nil => simp [quoteFrom]
  | cons character rest ih =>
      have later := ih (fun member => free (List.mem_cons_of_mem _ member))
      have different : nul ≠ character := fun same => free (by simp [same])
      rw [quoteFrom]
      split
      · exact later _
      · split <;> simp [later, different]

theorem nul_not_mem_quoteWindowsArg {arg : List Char} (free : nul ∉ arg) :
    nul ∉ quoteWindowsArg arg := by
  unfold quoteWindowsArg
  split
  · exact free
  · simp [nul_not_mem_quoteFrom free]

theorem nul_not_mem_separated {args : List (List Char)}
    (free : forall arg, arg ∈ args -> nul ∉ arg) :
    nul ∉ [' '].intercalate (args.map quoteWindowsArg) := by
  induction args with
  | nil => simp
  | cons arg rest ih =>
      have first := nul_not_mem_quoteWindowsArg (free arg List.mem_cons_self)
      have later := ih
        (fun other member => free other (List.mem_cons_of_mem arg member))
      cases rest with
      | nil => simpa using first
      | cons next rest =>
          rw [List.map_cons, List.intercalate_cons_of_ne_nil (by simp), List.mem_append,
            List.mem_append]
          simp only [first, later, or_false, false_or]
          simp

theorem foldl_separated (command : List Char) (args : List (List Char)) :
    args.foldl (fun command arg => command ++ ' ' :: quoteWindowsArg arg) command =
      [' '].intercalate (command :: args.map quoteWindowsArg) := by
  induction args generalizing command with
  | nil => simp
  | cons arg rest ih =>
      rw [List.foldl_cons, ih, List.map_cons]
      cases rest with
      | nil => simp [List.intercalate_cons_cons]
      | cons next rest => simp [List.intercalate_cons_cons]

theorem windowsCommandLine_eq (program : List Char) (args : List (List Char)) :
    windowsCommandLine program args =
      [' '].intercalate ((program :: args).map quoteWindowsArg) ++ [nul] := by
  rw [windowsCommandLine, foldl_separated, List.map_cons]

/-- Splitting reads up to the terminator, or to the end when there is none. -/
theorem takeWhile_free {text : List Char} (free : nul ∉ text) :
    text.takeWhile (fun character => character != nul) = text := by
  apply List.takeWhile_eq_self_iff.mpr
  intro character member
  have different : character ≠ nul := fun same => free (same ▸ member)
  simpa using different

theorem takeWhile_terminated {text : List Char} (free : nul ∉ text) :
    (text ++ [nul]).takeWhile (fun character => character != nul) = text := by
  rw [List.takeWhile_append, takeWhile_free free, if_pos rfl]
  simp

/-- Splitting the quoted arguments returns the arguments, and so does splitting
the command line a child is started with. -/
theorem parse_quoted_args (args : List (List Char)) (free : forall arg, arg ∈ args -> nul ∉ arg) :
    parseWindowsArgv ([' '].intercalate (args.map quoteWindowsArg)) = args ∧
      forall program rest, args = program :: rest ->
        parseWindowsArgv (windowsCommandLine program rest) = args := by
  have separated := nul_not_mem_separated free
  have split := read_separated args []
  refine ⟨?_, ?_⟩
  · rw [parseWindowsArgv, takeWhile_free separated]
    exact split
  · rintro program rest rfl
    rw [parseWindowsArgv, windowsCommandLine_eq, takeWhile_terminated separated]
    exact split

/-- An empty argument, one that ends in a backslash and needs quotes, and one
with backslashes ahead of a quote. -/
theorem parse_quoted_args_hard :
    parseWindowsArgv ([' '].intercalate
      ([[], ['a', ' ', '\\'], ['\\', '\\', '"']].map quoteWindowsArg)) =
        [[], ['a', ' ', '\\'], ['\\', '\\', '"']] :=
  (parse_quoted_args _ (by decide)).1

end Process
end RocmCli
