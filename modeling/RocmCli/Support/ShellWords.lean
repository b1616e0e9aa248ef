import Mathlib.Data.List.Basic

namespace RocmCli
namespace ShellWords

/-!
# The words of a shell command

How a POSIX shell splits one line into the words of a command, for the lines in
which that is all the shell does.  A line in which it would expand, redirect,
assign, comment or run a second command has no words here.
-/

/-- A character of a word and whether it was quoted. -/
abbrev Mark := Char × Bool

/-- Where the shell stands in a line. -/
inductive Place where
  | between
  | inWord
  | inSingle
  | inDouble
  deriving DecidableEq, Repr

def isBlank (character : Char) : Bool := character == ' ' || character == '\t'

/-- The unquoted characters that start an operator, an expansion or a pattern,
end the command, or cannot stand in a line. -/
def isActive (character : Char) : Bool :=
  "|&;<>()$*?[".toList.contains character || character == Char.ofNat 0x60 || character == '\n' ||
    character == '\x00'

/-- The further characters that are active at the start of a word only: a
comment and a home folder. -/
def isActiveAtStart (character : Char) : Bool := character == '#' || character == '~'

/-- The characters a backslash quotes between double quotes. -/
def isEscapable (character : Char) : Bool :=
  character == '$' || character == Char.ofNat 0x60 || character == '"' || character == '\\'

/-- Put a mark in front of the word that the rest of the line continues. -/
def push (mark : Mark) : List (List Mark) -> List (List Mark)
  | [] => [[mark]]
  | word :: words => (mark :: word) :: words

/-- The words in a line.  In a word and between quotes the first of them is the
rest of the word that has begun. -/
def scan : Place -> List Char -> Option (List (List Mark))
  | .between, [] => some []
  | .inWord, [] => some [[]]
  | .inSingle, [] | .inDouble, [] => none
  | .inSingle, character :: rest =>
      if character = '\'' then scan .inWord rest
      else if character = '\x00' then none
      else (scan .inSingle rest).map (push (character, true))
  | .inDouble, '\\' :: character :: rest =>
      if character = '\n' then scan .inDouble rest
      else if character = '\x00' then none
      else if isEscapable character then (scan .inDouble rest).map (push (character, true))
      else (scan .inDouble rest).map fun words => push ('\\', true) (push (character, true) words)
  | .inDouble, character :: rest =>
      if character = '"' then scan .inWord rest
      else if character = '$' || character = Char.ofNat 0x60 || character = '\x00' then none
      else (scan .inDouble rest).map (push (character, true))
  | place, '\\' :: character :: rest =>
      if character = '\n' then scan place rest
      else if character = '\x00' then none
      else (scan .inWord rest).map (push (character, true))
  | place, character :: rest =>
      if character = '\'' then scan .inSingle rest
      else if character = '"' then scan .inDouble rest
      else if isBlank character then
        if place = .inWord then (scan .between rest).map ([] :: ·) else scan .between rest
      else if isActive character || character = '\\' then none
      else if place = .between && isActiveAtStart character then none
      else (scan .inWord rest).map (push (character, false))

/-! ## The command's own word -/

/-- The words a shell reads as its own grammar in front of a command. -/
def reservedWords : List (List Char) :=
  ["!", "\x7b", "\x7d", "case", "do", "done", "elif", "else", "esac", "fi", "for", "if", "in", "then",
    "until", "while"].map String.toList

def isNameCharacter (mark : Mark) : Bool :=
  !mark.2 && (mark.1.isAlphanum || mark.1 == '_')

/-- An unquoted name and an unquoted equals sign. -/
def isAssignment (word : List Mark) : Bool :=
  match word.dropWhile isNameCharacter with
  | ('=', false) :: _ => word.head?.any fun mark => isNameCharacter mark && !mark.1.isDigit
  | _ => false

def isReserved (word : List Mark) : Bool :=
  word.all (fun mark => !mark.2) && reservedWords.contains (word.map Prod.fst)

/-- The words the shell runs, if splitting into words and removing the quotes is
all it does with the line. -/
def shellWords (line : List Char) : Option (List (List Char)) :=
  match scan .between line with
  | none => none
  | some words =>
      if words.head?.any (fun word => isAssignment word || isReserved word) then none
      else some (words.map fun word => word.map Prod.fst)

example : shellWords "a 'b;c'\\''d' \"e f\"".toList =
    some ["a".toList, "b;c'd".toList, "e f".toList] := by decide

/-! ## Reading one word -/

/-- The marks of a text that is quoted, or not. -/
def marked (quoted : Bool) (text : List Char) : List Mark := text.map fun character =>
  (character, quoted)

theorem map_fst_marked (quoted : Bool) (text : List Char) :
    (marked quoted text).map Prod.fst = text := by
  unfold marked
  rw [List.map_map]
  exact List.map_id text

def pushAll (marks : List Mark) (words : List (List Mark)) : List (List Mark) :=
  marks.foldr push words

theorem pushAll_cons (marks word : List Mark) (words : List (List Mark)) :
    pushAll marks (word :: words) = (marks ++ word) :: words := by
  induction marks with
  | nil => rfl
  | cons mark marks ih =>
      unfold pushAll at ih ⊢
      rw [List.foldr_cons, ih, List.cons_append]
      rfl

/-- A character that means itself wherever it stands unquoted. -/
def Inert (character : Char) : Prop :=
  character ≠ '\'' ∧ character ≠ '"' ∧ character ≠ '\\' ∧ isBlank character = false ∧
    isActive character = false ∧ isActiveAtStart character = false

theorem scan_inert {place : Place} (outside : place = .between ∨ place = .inWord)
    {character : Char} (inert : Inert character) (rest : List Char) :
    scan place (character :: rest) = (scan .inWord rest).map (push (character, false)) := by
  obtain ⟨notSingle, notDouble, notBackslash, notBlank, notActive, notStart⟩ := inert
  rcases outside with rfl | rfl
  · simp [scan, notSingle, notDouble, notBackslash, notBlank, notActive, notStart]
  · simp [scan, notSingle, notDouble, notBackslash, notBlank, notActive]

theorem scan_inert_word {text : List Char}
    (inert : forall character, character ∈ text -> Inert character) (rest : List Char) :
    scan .inWord (text ++ rest) = (scan .inWord rest).map (pushAll (marked false text)) := by
  induction text with
  | nil => exact Option.map_id.symm ▸ rfl
  | cons character text ih =>
      rw [List.cons_append, scan_inert (Or.inr rfl) (inert character List.mem_cons_self),
        ih fun later isLater => inert later (List.mem_cons_of_mem _ isLater),
        Option.map_map]
      rfl

/-- Closing the quotes, a quoted quote, and opening them again. -/
theorem scan_single_quote (rest : List Char) :
    scan .inSingle ("'\\''".toList ++ rest) = (scan .inSingle rest).map (push ('\'', true)) := by
  simp [scan]

theorem scan_close (rest : List Char) : scan .inSingle ('\'' :: rest) = scan .inWord rest := by
  rw [scan, if_pos rfl]

theorem scan_open {place : Place} (outside : place = .between ∨ place = .inWord)
    (rest : List Char) : scan place ('\'' :: rest) = scan .inSingle rest := by
  rcases outside with rfl | rfl <;> simp [scan]

end ShellWords
end RocmCli
