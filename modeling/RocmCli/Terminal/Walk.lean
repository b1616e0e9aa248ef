import RocmCli.Support.Walker
import RocmCli.ToolPolicy.Quoting

namespace RocmCli
namespace Terminal

open ToolPolicy (isControl isControlOrFormat isControlOrLineSeparator)

/-!
# What a terminal would have drawn

One stepping function reads a glyph, a control character or an escape sequence.
Stripping keeps the glyphs alone; the rendered lines keep them apart wherever
the cursor may have left its row.
-/

/-! ## The grammar -/

inductive Token where
  | text (c : Char)
  | lineBreak
  | ignorable
  deriving DecidableEq, Repr

/-- A tab is drawn within its row. -/
def classifyChar (c : Char) : Token :=
  if c = '\t' then .text c
  else if isControlOrLineSeparator c then .lineBreak
  else if isControlOrFormat c then .ignorable
  else .text c

def isBetween (first last : Nat) (c : Char) : Bool := first ≤ c.toNat && c.toNat ≤ last

/-- Take one character off if it is accepted. -/
def nextIf (accepts : Char -> Bool) : List Char -> Option Char × List Char
  | [] => (none, [])
  | c :: rest => if accepts c then (some c, rest) else (none, c :: rest)

/-- Skip parameters, intermediates and one final byte, and say whether it was
the one that sets colours. -/
def skipCsiBody (chars : List Char) : Bool × List Char :=
  let rest := (chars.dropWhile (isBetween 0x30 0x3f)).dropWhile (isBetween 0x20 0x2f)
  let (final, rest) := nextIf (isBetween 0x40 0x7e) rest
  (final == some 'm', rest)

/-- Skip to the end of the input, behind what ends the sequence, or to any other
escape. -/
def skipStringSequenceBody : List Char -> List Char
  | [] => []
  | c :: rest =>
      if c = '\x07' then rest
      else if c = '\x1b' then
        match rest with
        | '\\' :: behind => behind
        | _ => c :: rest
      else skipStringSequenceBody rest

def skipSimpleEscapeBody (chars : List Char) : List Char :=
  (nextIf (isBetween 0x30 0x7e) (chars.dropWhile (isBetween 0x20 0x2f))).2

/-- What introduces an `OSC`, `DCS`, `SOS`, `PM` or `APC` sequence, behind the
escape. -/
def stringIntroducers : List Char := [']', 'P', 'X', '^', '_']

def nextToken : List Char -> Option (Token × List Char)
  | [] => none
  | c :: chars =>
      if c ≠ '\x1b' then some (classifyChar c, chars)
      else
        match chars with
        | [] => some (.ignorable, [])
        | introducer :: body =>
            if introducer = '[' then
              let (colour, rest) := skipCsiBody body
              some (if colour then .ignorable else .lineBreak, rest)
            else if introducer ∈ stringIntroducers then
              some (.ignorable, skipStringSequenceBody body)
            else if introducer = '\x1b' then some (.ignorable, introducer :: body)
            else some (.lineBreak, skipSimpleEscapeBody (introducer :: body))

/-! ## What each part leaves -/

theorem nextIf_suffix (accepts : Char -> Bool) (chars : List Char) :
    (nextIf accepts chars).2 <:+ chars := by
  cases chars with
  | nil => exact List.suffix_rfl
  | cons c rest =>
    unfold nextIf
    dsimp only
    split
    · exact List.suffix_cons c rest
    · exact List.suffix_rfl

theorem skipCsiBody_suffix (chars : List Char) : (skipCsiBody chars).2 <:+ chars :=
  (nextIf_suffix _ _).trans ((List.dropWhile_suffix _).trans (List.dropWhile_suffix _))

theorem skipSimpleEscapeBody_suffix (chars : List Char) : skipSimpleEscapeBody chars <:+ chars :=
  (nextIf_suffix _ _).trans (List.dropWhile_suffix _)

theorem skipStringSequenceBody_suffix (chars : List Char) :
    skipStringSequenceBody chars <:+ chars := by
  induction chars with
  | nil => exact List.suffix_rfl
  | cons c rest ih =>
    unfold skipStringSequenceBody
    by_cases bell : c = '\x07'
    · rw [if_pos bell]
      exact List.suffix_cons c rest
    · rw [if_neg bell]
      by_cases escape : c = '\x1b'
      · rw [if_pos escape]
        split
        · rename_i behind
          exact (List.suffix_cons _ behind).trans (List.suffix_cons c _)
        · exact List.suffix_rfl
      · rw [if_neg escape]
        exact ih.trans (List.suffix_cons c rest)

/-- One step takes the first character and leaves an end of the others. -/
theorem nextToken_cons (c : Char) (chars : List Char) :
    exists token rest, nextToken (c :: chars) = some (token, rest) ∧ rest <:+ chars := by
  unfold nextToken
  dsimp only
  by_cases plain : c ≠ '\x1b'
  · rw [if_pos plain]
    exact ⟨_, _, rfl, List.suffix_rfl⟩
  · rw [if_neg plain]
    cases chars with
    | nil => exact ⟨_, _, rfl, List.suffix_rfl⟩
    | cons introducer body =>
      dsimp only
      by_cases csi : introducer = '['
      · rw [if_pos csi]
        exact ⟨_, _, rfl, (skipCsiBody_suffix body).trans (List.suffix_cons _ _)⟩
      · rw [if_neg csi]
        by_cases isString : introducer ∈ stringIntroducers
        · rw [if_pos isString]
          exact ⟨_, _, rfl, (skipStringSequenceBody_suffix body).trans (List.suffix_cons _ _)⟩
        · rw [if_neg isString]
          by_cases again : introducer = '\x1b'
          · rw [if_pos again]
            exact ⟨_, _, rfl, List.suffix_rfl⟩
          · rw [if_neg again]
            exact ⟨_, _, rfl, skipSimpleEscapeBody_suffix _⟩

/-- The walk, which ends: every step takes a character. -/
def walk : Walker Char Token where
  step := nextToken
  step_nil := rfl
  step_cons := fun c chars => by
    rcases nextToken_cons c chars with ⟨token, rest, steps, _⟩
    exact ⟨token, rest, steps⟩
  consumes := fun input token rest steps => by
    cases input with
    | nil => cases steps
    | cons c chars =>
      rcases nextToken_cons c chars with ⟨token', rest', steps', eaten, whole⟩
      rw [steps] at steps'
      cases steps'
      exact ⟨c :: eaten, List.cons_ne_nil _ _, by rw [← whole, List.cons_append]⟩

/-! ## The two walkers -/

/-- What stripping keeps of a token. -/
def keptOf : Token × List Char -> Option Char
  | (.text c, _) => if isControlOrFormat c then none else some c
  | _ => none

def stripTerminalControlSequences (line : String) : String :=
  String.ofList ((walk.tokens line.toList).filterMap keptOf)

/-- Draw the tokens behind lines already drawn, the last of which is not done.
What is put into a line is made of the glyph and what is behind it. -/
def draw {α : Type} (mark : Char -> List Char -> α) (lines : List (List α)) (last : List α) :
    List (Token × List Char) -> List (List α)
  | [] => lines ++ [last]
  | (.text c, rest) :: tokens => draw mark lines (last ++ [mark c rest]) tokens
  | (.lineBreak, _) :: tokens => draw mark (lines ++ [last]) [] tokens
  | (.ignorable, _) :: tokens => draw mark lines last tokens

def renderedLines (text : String) : List String :=
  (draw (fun c _ => c) [] [] (walk.tokens text.toList)).map String.ofList

end Terminal
end RocmCli
