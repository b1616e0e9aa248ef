import RocmCli.Terminal.Walk

namespace RocmCli
namespace Terminal

open ToolPolicy (isControl isControlOrFormat isControlOrLineSeparator)

/-!
# Nothing is drawn that was not, and no two rows as one

Nothing a terminal acts on is left by stripping, and stripping keeps what the
rendered lines have.  A newline that the walk comes to divides its tokens, so no
rendered line has glyphs from both sides of it; only the body of a string
sequence can run across one.
-/

/-! ## Lines -/

section Draw

variable {α : Type} (mark : Char -> List Char -> α)

/-- What is put into a line for a token. -/
def markOf : Token × List Char -> Option α
  | (.text c, rest) => some (mark c rest)
  | _ => none

theorem draw_eq (tokens : List (Token × List Char)) (lines : List (List α)) (last : List α) :
    draw mark lines last tokens = lines ++ draw mark [] last tokens := by
  induction tokens generalizing lines last with
  | nil => rfl
  | cons token tokens ih =>
    rcases token with ⟨_ | _ | _, rest⟩
    · exact ih lines _
    · rw [draw, draw, ih, ih ([] ++ [last]), List.nil_append,
        List.append_assoc]
    · exact ih lines last

/-- A line break divides the lines. -/
theorem draw_divide (front back : List (Token × List Char)) (rest : List Char) (last : List α) :
    draw mark [] last (front ++ (Token.lineBreak, rest) :: back) =
      draw mark [] last front ++ draw mark [] [] back := by
  induction front generalizing last with
  | nil => exact draw_eq mark back ([] ++ [last]) []
  | cons token front ih =>
    rcases token with ⟨_ | _ | _, rest'⟩
    · exact ih _
    · have drawn : draw mark [] last ((.lineBreak, rest') :: front) =
          [last] ++ draw mark [] [] front := draw_eq mark front [last] []
      rw [drawn, List.append_assoc, ← ih]
      exact draw_eq mark _ [last] []
    · exact ih last

theorem draw_flatten (tokens : List (Token × List Char)) (last : List α) :
    (draw mark [] last tokens).flatten = last ++ tokens.filterMap (markOf mark) := by
  induction tokens generalizing last with
  | nil => rw [draw, List.nil_append, List.flatten_singleton, List.filterMap_nil, List.append_nil]
  | cons token tokens ih =>
    rcases token with ⟨c | _ | _, rest⟩
    · rw [draw, ih, List.append_assoc]
      rfl
    · rw [draw, draw_eq, List.flatten_append, ih, List.nil_append,
        List.flatten_singleton]
      rfl
    · exact ih last

theorem draw_map {γ : Type} (forget : α -> γ) (tokens : List (Token × List Char)) (last : List α) :
    (draw mark [] last tokens).map (List.map forget) =
      draw (fun c rest => forget (mark c rest)) [] (last.map forget) tokens := by
  induction tokens generalizing last with
  | nil => rfl
  | cons token tokens ih =>
    rcases token with ⟨c | _ | _, rest⟩
    · rw [draw, ih, List.map_append]
      rfl
    · rw [draw, draw, draw_eq, draw_eq _ tokens ([] ++ [last.map forget]), List.map_append,
        ih]
      rfl
    · exact ih last

/-- What is in a line was put there for a token. -/
theorem mem_draw {tokens : List (Token × List Char)} {line : List α} {item : α}
    (isLine : line ∈ draw mark [] [] tokens) (inLine : item ∈ line) :
    exists c rest, (Token.text c, rest) ∈ tokens ∧ item = mark c rest := by
  have drawn : item ∈ (draw mark [] [] tokens).flatten := List.mem_flatten.mpr ⟨line, isLine, inLine⟩
  rw [draw_flatten, List.nil_append, List.mem_filterMap] at drawn
  rcases drawn with ⟨⟨_ | _ | _, rest⟩, isToken, marked⟩
  · exact ⟨_, rest, isToken, (Option.some.inj marked).symm⟩
  · cases marked
  · cases marked

end Draw

/-! ## Glyphs -/

theorem classifyChar_text {c drawn : Char} (isText : classifyChar c = .text drawn) :
    c = drawn ∧ (c = '\t' ∨ isControlOrFormat c = false ∧ isControlOrLineSeparator c = false) := by
  unfold classifyChar at isText
  by_cases tab : c = '\t'
  · rw [if_pos tab] at isText
    exact ⟨Token.text.inj isText, .inl tab⟩
  · rw [if_neg tab] at isText
    by_cases breaks : isControlOrLineSeparator c = true
    · rw [if_pos breaks] at isText
      cases isText
    · rw [if_neg breaks] at isText
      by_cases format : isControlOrFormat c = true
      · rw [if_pos format] at isText
        cases isText
      · rw [if_neg format] at isText
        exact ⟨Token.text.inj isText, .inr ⟨Bool.eq_false_iff.mpr format,
          Bool.eq_false_iff.mpr breaks⟩⟩

variable {chars : List Char}

/-- A glyph is one character of the input, and what is behind it is left. -/
theorem nextToken_text {rest : List Char} {c : Char}
    (steps : nextToken chars = some (.text c, rest)) :
    chars = c :: rest ∧ classifyChar c = .text c := by
  cases chars with
  | nil => cases steps
  | cons first chars =>
    unfold nextToken at steps
    dsimp only at steps
    by_cases plain : first ≠ '\x1b'
    · rw [if_pos plain] at steps
      have classified := (Prod.mk.inj (Option.some.inj steps))
      rcases classifyChar_text classified.1 with ⟨rfl, _⟩
      exact ⟨by rw [classified.2], classified.1⟩
    · rw [if_neg plain] at steps
      cases chars with
      | nil => cases steps
      | cons introducer body =>
        dsimp only at steps
        split_ifs at steps <;> cases (Prod.mk.inj (Option.some.inj steps)).1

/-- A glyph in its place, given by the number of characters behind it. -/
structure Placed where
  char : Char
  behind : Nat
  deriving DecidableEq, Repr

/-- The rendered lines with the place of every glyph in the text. -/
def placedLines (text : String) : List (List Placed) :=
  draw (fun c rest => ⟨c, rest.length⟩) [] [] (walk.tokens text.toList)

/-- A newline, given by what is behind it, that a step skips with the body of a
string sequence. -/
def InStringBody (chars after : List Char) : Prop :=
  exists introducer body, walk.Reaches chars ('\x1b' :: introducer :: body) ∧
    introducer ∈ stringIntroducers ∧ '\n' :: after <:+ body ∧
      (skipStringSequenceBody body).length ≤ after.length

/-! ## Newlines -/

variable {after : List Char}

theorem suffix_dropWhile {first : Char} {accepts : Char -> Bool} (refused : accepts first = false)
    (inside : first :: after <:+ chars) :
    first :: after <:+ chars.dropWhile accepts := by
  induction chars with
  | nil => exact absurd (List.suffix_nil.mp inside) (List.cons_ne_nil _ _)
  | cons c chars ih =>
    by_cases accepted : accepts c = true
    · rw [List.dropWhile_cons_of_pos accepted]
      rcases List.suffix_cons_iff.mp inside with same | later
      · rw [← (List.cons.inj same).1, refused] at accepted
        cases accepted
      · exact ih later
    · rw [List.dropWhile_cons_of_neg accepted]
      exact inside

theorem suffix_nextIf {first : Char} {accepts : Char -> Bool} (refused : accepts first = false)
    (inside : first :: after <:+ chars) :
    first :: after <:+ (nextIf accepts chars).2 := by
  cases chars with
  | nil => exact inside
  | cons c chars =>
    unfold nextIf
    dsimp only
    by_cases accepted : accepts c = true
    · rw [if_pos accepted]
      rcases List.suffix_cons_iff.mp inside with same | later
      · rw [← (List.cons.inj same).1, refused] at accepted
        cases accepted
      · exact later
    · rw [if_neg accepted]
      exact inside

/-- A step that does not begin at a newline leaves it, unless it skips the body
of a string sequence. -/
theorem newline_held {here rest : List Char} {token : Token}
    (steps : nextToken here = some (token, rest)) (inside : '\n' :: after <:+ here)
    (elsewhere : here ≠ '\n' :: after)
    (outside : forall introducer body, here = '\x1b' :: introducer :: body ->
      introducer ∈ stringIntroducers -> '\n' :: after <:+ body ->
        after.length < (skipStringSequenceBody body).length) :
    '\n' :: after <:+ rest := by
  cases here with
  | nil => cases steps
  | cons c chars =>
    have inside' : '\n' :: after <:+ chars :=
      (List.suffix_cons_iff.mp inside).resolve_left fun same => elsewhere same.symm
    unfold nextToken at steps
    dsimp only at steps
    by_cases plain : c ≠ '\x1b'
    · rw [if_pos plain] at steps
      rw [← (Prod.mk.inj (Option.some.inj steps)).2]
      exact inside'
    · have escape := not_not.mp plain
      rw [if_neg plain] at steps
      cases chars with
      | nil => exact absurd (List.suffix_nil.mp inside') (List.cons_ne_nil _ _)
      | cons introducer body =>
        dsimp only at steps
        by_cases csi : introducer = '['
        · rw [if_pos csi] at steps
          rw [← (Prod.mk.inj (Option.some.inj steps)).2]
          have behind : '\n' :: after <:+ body :=
            (List.suffix_cons_iff.mp inside').resolve_left fun same =>
              absurd ((List.cons.inj same).1.trans csi) (by decide)
          exact suffix_nextIf rfl (suffix_dropWhile rfl (suffix_dropWhile rfl behind))
        · rw [if_neg csi] at steps
          by_cases isString : introducer ∈ stringIntroducers
          · rw [if_pos isString] at steps
            rw [← (Prod.mk.inj (Option.some.inj steps)).2]
            have behind : '\n' :: after <:+ body := by
              refine (List.suffix_cons_iff.mp inside').resolve_left fun same => ?_
              rw [← (List.cons.inj same).1] at isString
              exact absurd isString (by decide)
            exact List.suffix_of_suffix_length_le behind (skipStringSequenceBody_suffix body)
              (outside introducer body (escape ▸ rfl) isString behind)
          · rw [if_neg isString] at steps
            by_cases again : introducer = '\x1b'
            · rw [if_pos again] at steps
              rw [← (Prod.mk.inj (Option.some.inj steps)).2]
              exact inside'
            · rw [if_neg again] at steps
              rw [← (Prod.mk.inj (Option.some.inj steps)).2]
              exact suffix_nextIf rfl (suffix_dropWhile rfl inside')

/-- Around a newline outside the body of every string sequence, the rendered lines
are those in front of it and those behind it. -/
theorem placedLines_divide {text : String} (inside : '\n' :: after <:+ text.toList)
    (outside : ¬ InStringBody text.toList after) :
    exists front back, placedLines text = front ++ back ∧
      (forall line, line ∈ front -> forall drawn, drawn ∈ line -> after.length < drawn.behind) ∧
      forall line, line ∈ back -> forall drawn, drawn ∈ line -> drawn.behind < after.length := by
  rcases @Walker.tokens_divide _ _ walk _ _ inside (fun here token rest reaches steps inside'
    elsewhere => newline_held steps inside' elsewhere fun introducer body isHere isString behind =>
      Nat.lt_of_not_le fun skipped => outside ⟨introducer, body, isHere ▸ reaches, isString, behind,
        skipped⟩) with ⟨front, divided, before⟩
  have breaks : walk.step ('\n' :: after) = some (.lineBreak, after) := rfl
  rw [walk.tokens_step breaks] at divided
  refine ⟨_, _, (congrArg _ divided).trans (draw_divide _ front _ after []), ?_, ?_⟩
  · intro line isLine drawn inLine
    rcases mem_draw _ isLine inLine with ⟨c, rest, isToken, rfl⟩
    exact (before _ isToken).length_le
  · intro line isLine drawn inLine
    rcases mem_draw _ isLine inLine with ⟨c, rest, isToken, rfl⟩
    exact Walker.tokens_rest isToken

/-! ## Stripping -/

variable {text : List Char}

theorem keptOf_clean {c : Char} (kept : c ∈ (walk.tokens text).filterMap keptOf) :
    isControlOrFormat c = false ∧ isControlOrLineSeparator c = false := by
  rcases List.mem_filterMap.mp kept with ⟨⟨drawn | _ | _, rest⟩, isToken, isKept⟩
  · unfold keptOf at isKept
    dsimp only at isKept
    by_cases format : isControlOrFormat drawn = true
    · rw [if_pos format] at isKept
      cases isKept
    · rw [if_neg format] at isKept
      cases isKept
      rcases Walker.tokens_from _ isToken with ⟨here, _, steps⟩
      rcases (classifyChar_text (nextToken_text steps).2).2 with rfl | clean
      · exact absurd (by decide) format
      · exact clean
  · cases isKept
  · cases isKept

/-- What holds nothing a terminal acts on is kept. -/
theorem tokens_clean (clean : forall c, c ∈ text ->
    isControlOrFormat c = false ∧ isControlOrLineSeparator c = false) :
    (walk.tokens text).filterMap keptOf = text := by
  induction text with
  | nil => rw [walk.tokens_nil, List.filterMap_nil]
  | cons c text ih =>
    rcases clean c List.mem_cons_self with ⟨noFormat, noBreak⟩
    have classified : classifyChar c = .text c := by
      unfold classifyChar
      rw [if_neg (ne_true_of_eq_false noBreak), if_neg (ne_true_of_eq_false noFormat), ite_self]
    have plain : c ≠ '\x1b' := fun escape => absurd (escape ▸ noFormat) (by decide)
    have steps : walk.step (c :: text) = some (.text c, text) := by
      refine (if_pos plain).trans ?_
      rw [classified]
    have kept : keptOf (.text c, text) = some c := if_neg (ne_true_of_eq_false noFormat)
    rw [walk.tokens_step steps, List.filterMap_cons_some kept,
      ih fun c' isIn => clean c' (List.mem_cons_of_mem c isIn)]

/-- A token is kept exactly if it is drawn and no tab. -/
theorem keptOf_eq {token : Token × List Char} (isToken : token ∈ walk.tokens text) :
    keptOf token = (markOf (fun c _ => c) token).filter (· != '\t') := by
  rcases token with ⟨c | _ | _, rest⟩
  · rcases Walker.tokens_from _ isToken with ⟨here, _, steps⟩
    rcases (classifyChar_text (nextToken_text steps).2).2 with rfl | ⟨noFormat, _⟩
    · rfl
    · have noTab : c ≠ '\t' := fun tab => absurd (tab ▸ noFormat) (by decide)
      have kept : keptOf (.text c, rest) = some c := if_neg (ne_true_of_eq_false noFormat)
      rw [kept]
      exact (if_pos (bne_iff_ne.mpr noTab)).symm
  · rfl
  · rfl

theorem strip_eq_lines (text : List Char) :
    (walk.tokens text).filterMap keptOf =
      (draw (fun c _ => c) [] [] (walk.tokens text)).flatten.filter (· != '\t') := by
  rw [draw_flatten, List.nil_append, List.filter_filterMap]
  exact List.filterMap_congr fun token isToken => keptOf_eq isToken

/-! ## Both walkers -/

structure Sanitised (text : String) : Prop where
  clean : forall c, c ∈ (stripTerminalControlSequences text).toList ->
    isControlOrFormat c = false ∧ isControlOrLineSeparator c = false
  again : stripTerminalControlSequences (stripTerminalControlSequences text) =
    stripTerminalControlSequences text
  agrees : stripTerminalControlSequences text =
    String.ofList (((renderedLines text).map String.toList).flatten.filter (· != '\t'))
  /-- The placed lines are the rendered ones. -/
  rendered : renderedLines text =
    (placedLines text).map fun line => String.ofList (line.map Placed.char)
  inPlace : forall line, line ∈ placedLines text -> forall drawn, drawn ∈ line -> exists before after,
    text.toList = before ++ drawn.char :: after ∧ drawn.behind = after.length
  /-- No line has glyphs from both sides of a newline outside string bodies. -/
  apart : forall before after, text.toList = before ++ '\n' :: after ->
    ¬ InStringBody text.toList after -> forall line, line ∈ placedLines text ->
      ¬ exists first second, first ∈ line ∧ second ∈ line ∧
        after.length < first.behind ∧ second.behind < after.length

theorem text_sanitised (text : String) : Sanitised text where
  clean := fun c kept => by
    rw [stripTerminalControlSequences, String.toList_ofList] at kept
    exact keptOf_clean kept
  again := by
    refine congrArg String.ofList ?_
    rw [stripTerminalControlSequences, String.toList_ofList]
    exact tokens_clean fun c kept => keptOf_clean kept
  agrees := by
    have chars : (renderedLines text).map String.toList =
        draw (fun c _ => c) [] [] (walk.tokens text.toList) := by
      unfold renderedLines
      rw [List.map_map]
      exact (List.map_congr_left fun line _ => String.toList_ofList).trans (List.map_id' _)
    rw [chars, ← strip_eq_lines]
    rfl
  rendered := by
    have forget : (fun line => String.ofList (line.map Placed.char)) =
        String.ofList ∘ List.map Placed.char := rfl
    rw [forget, ← List.map_map, placedLines, draw_map]
    rfl
  inPlace := by
    intro line isLine drawn inLine
    rcases mem_draw _ isLine inLine with ⟨c, rest, isToken, rfl⟩
    rcases Walker.tokens_from _ isToken with ⟨here, ⟨before, whole⟩, steps⟩
    exact ⟨before, rest, by rw [← whole, (nextToken_text steps).1], rfl⟩
  apart := by
    rintro before after whole outside line isLine ⟨first, second, isFirst, isSecond, far, near⟩
    rcases placedLines_divide ⟨before, whole.symm⟩ outside with ⟨front, back, divided, above, below⟩
    rw [divided] at isLine
    rcases List.mem_append.mp isLine with inFront | inBack
    · exact Nat.lt_asymm near (above line inFront second isSecond)
    · exact Nat.lt_asymm far (below line inBack first isFirst)

end Terminal
end RocmCli
