import RocmCli.Support.Segments

namespace RocmCli
namespace InclusiveLines

/-!
# Lines with their terminators

A text is cut behind each terminator.  Any part of the lines of a text, in their
order, is again the lines of the text that it makes.
-/

universe u

variable {Item : Type u} [DecidableEq Item] (terminator : Item)

def splitInclusive : List Item -> List (List Item)
  | [] => []
  | item :: rest =>
      if item = terminator then [item] :: splitInclusive rest
      else
        match splitInclusive rest with
        | [] => [[item]]
        | line :: lines => (item :: line) :: lines

/-- Only the last line may have no terminator. -/
inductive IsLines : List (List Item) -> Prop
  | nil : IsLines []
  | last (line : List Item) (nonempty : line ≠ []) (plain : terminator ∉ line) : IsLines [line]
  | line (line : List Item) (lines : List (List Item)) (plain : terminator ∉ line)
      (behind : IsLines lines) : IsLines ((line ++ [terminator]) :: lines)

/-- Nothing stands behind the last terminator. -/
def Terminated (text : List Item) : Prop := text = [] ∨ exists front, text = front ++ [terminator]

variable {terminator}

/-! ## Cutting a text -/

variable {line : List Item}

theorem splitInclusive_line (plain : terminator ∉ line) (rest : List Item) :
    splitInclusive terminator (line ++ terminator :: rest) =
      (line ++ [terminator]) :: splitInclusive terminator rest := by
  induction line with
  | nil =>
    rw [List.nil_append, splitInclusive, if_pos rfl]
    rfl
  | cons item line ih =>
    rw [List.mem_cons, not_or] at plain
    rw [List.cons_append, splitInclusive, if_neg (Ne.symm plain.1), ih plain.2]
    rfl

theorem splitInclusive_last (nonempty : line ≠ []) (plain : terminator ∉ line) :
    splitInclusive terminator line = [line] := by
  induction line with
  | nil => exact absurd rfl nonempty
  | cons item line ih =>
    rw [List.mem_cons, not_or] at plain
    rw [splitInclusive, if_neg (Ne.symm plain.1)]
    cases line with
    | nil => rfl
    | cons next line => rw [ih (List.cons_ne_nil _ _) plain.2]

variable {lines : List (List Item)}

/-- The lines of a text are cut back out of it. -/
theorem IsLines.splitInclusive_flatten (isLines : IsLines terminator lines) :
    splitInclusive terminator lines.flatten = lines := by
  induction isLines with
  | nil => rfl
  | last line nonempty plain =>
    rw [List.flatten_singleton]
    exact splitInclusive_last nonempty plain
  | line line lines plain behind ih =>
    rw [List.flatten_cons, List.append_assoc, List.singleton_append, splitInclusive_line plain,
      ih]

theorem isLines_splitInclusive (text : List Item) :
    IsLines terminator (splitInclusive terminator text) ∧
      (splitInclusive terminator text).flatten = text := by
  induction text with
  | nil => exact ⟨.nil, rfl⟩
  | cons item rest ih =>
    rw [splitInclusive]
    by_cases ends : item = terminator
    · rw [if_pos ends, List.flatten_cons, ih.2, ends]
      exact ⟨.line [] _ List.not_mem_nil ih.1, rfl⟩
    · rw [if_neg ends]
      rcases ih with ⟨isLines, whole⟩
      generalize splitInclusive terminator rest = lines at isLines whole ⊢
      have notItem : terminator ∉ [item] := fun isIn => ends (List.mem_singleton.mp isIn).symm
      cases isLines with
      | nil =>
        rw [← whole]
        exact ⟨.last [item] (List.cons_ne_nil _ _) notItem, rfl⟩
      | last line nonempty plain =>
        rw [← whole]
        refine ⟨.last (item :: line) (List.cons_ne_nil _ _) ?_, rfl⟩
        rw [List.mem_cons, not_or]
        exact ⟨Ne.symm ends, plain⟩
      | line line lines plain behind =>
        rw [← whole]
        refine ⟨.line (item :: line) lines ?_ behind, rfl⟩
        rw [List.mem_cons, not_or]
        exact ⟨Ne.symm ends, plain⟩

theorem flatten_splitInclusive (text : List Item) : (splitInclusive terminator text).flatten = text :=
  (isLines_splitInclusive text).2

omit [DecidableEq Item] in
theorem IsLines.sublist {kept : List (List Item)} (isLines : IsLines terminator lines)
    (isKept : kept.Sublist lines) : IsLines terminator kept := by
  induction isLines generalizing kept with
  | nil =>
    rw [List.sublist_nil.mp isKept]
    exact .nil
  | last line nonempty plain =>
    rcases List.sublist_singleton.mp isKept with rfl | rfl
    · exact .nil
    · exact .last line nonempty plain
  | line line lines plain behind ih =>
    cases isKept with
    | cons _ isKept => exact ih isKept
    | cons_cons _ isKept => exact .line line _ plain (ih isKept)

/-! ## Joining texts -/

variable {front : List Item}

theorem splitInclusive_append (terminated : Terminated terminator front) (back : List Item) :
    splitInclusive terminator (front ++ back) =
      splitInclusive terminator front ++ splitInclusive terminator back := by
  rcases terminated with rfl | ⟨front, rfl⟩
  · rfl
  · induction front with
    | nil =>
      simp only [List.nil_append, List.cons_append, splitInclusive, if_true]
    | cons item front ih =>
      rw [List.cons_append, List.cons_append, splitInclusive, ih, splitInclusive]
      by_cases ends : item = terminator
      · rw [if_pos ends, if_pos ends, List.cons_append]
      · rw [if_neg ends, if_neg ends]
        cases isFront : splitInclusive terminator (front ++ [terminator]) with
        | nil =>
          have whole := @flatten_splitInclusive _ _ terminator (front ++ [terminator])
          rw [isFront] at whole
          exact absurd whole.symm (List.append_ne_nil_of_right_ne_nil _ (List.cons_ne_nil _ _))
        | cons line lines => rfl

variable {back : List Item}

omit [DecidableEq Item] in
theorem terminated_append (first : Terminated terminator front)
    (second : Terminated terminator back) : Terminated terminator (front ++ back) := by
  rcases second with rfl | ⟨back, rfl⟩
  · rwa [List.append_nil]
  · exact .inr ⟨front ++ back, (List.append_assoc ..).symm⟩

omit [DecidableEq Item] in
theorem terminated_concat (front : List Item) : Terminated terminator (front ++ [terminator]) :=
  .inr ⟨front, rfl⟩

omit [DecidableEq Item] in
theorem ends_behind (ends : exists init, back = init ++ [terminator]) (front : List Item) :
    exists init, front ++ back = init ++ [terminator] := by
  rcases ends with ⟨init, rfl⟩
  exact ⟨front ++ init, (List.append_assoc ..).symm⟩

/-- Every text is terminated up to its last line. -/
theorem exists_last_line (terminator : Item) (text : List Item) :
    exists front last, text = front ++ last ∧ Terminated terminator front ∧ terminator ∉ last :=
  ⟨Segments.upToLast terminator text, Segments.lastSegment terminator text,
    (Segments.upToLast_append_lastSegment terminator text).symm,
    Segments.upToLast_eq_nil_or_concat terminator text, Segments.not_mem_lastSegment terminator text⟩

/-- What stands between terminators in a text is a line of it. -/
theorem line_mem (terminated : Terminated terminator front) (plain : terminator ∉ line) :
    line ++ [terminator] ∈ splitInclusive terminator (front ++ (line ++ terminator :: back)) := by
  rw [splitInclusive_append terminated, splitInclusive_line plain]
  exact List.mem_append_right _ List.mem_cons_self

omit [DecidableEq Item] in
theorem Terminated.of_append (terminated : Terminated terminator (front ++ back)) :
    Terminated terminator back := by
  rcases List.eq_nil_or_concat back with rfl | ⟨init, last, rfl⟩
  · exact .inl rfl
  · rw [List.concat_eq_append, ← List.append_assoc] at terminated
    rw [List.concat_eq_append]
    rcases terminated with never | ⟨text, same⟩
    · exact absurd never (List.append_ne_nil_of_right_ne_nil _ (List.cons_ne_nil _ _))
    · exact .inr ⟨init, by rw [(List.append_inj' same rfl).2]⟩

omit [DecidableEq Item] in
/-- A line of a terminated text ends in a terminator, and stands behind a
terminated part of the text. -/
theorem IsLines.stands (isLines : IsLines terminator lines)
    (terminated : Terminated terminator lines.flatten) (isIn : line ∈ lines) :
    exists front body back, line = body ++ [terminator] ∧ terminator ∉ body ∧
      Terminated terminator front ∧ lines.flatten = front ++ (line ++ back) := by
  induction isLines with
  | nil => cases isIn
  | last _ nonempty plain =>
    rw [List.flatten_singleton] at terminated
    rcases terminated with empty | ⟨front, rfl⟩
    · exact absurd empty nonempty
    · exact absurd (List.mem_append_right _ List.mem_cons_self) plain
  | line first lines plain behind ih =>
    rw [List.flatten_cons] at terminated ⊢
    rcases List.mem_cons.mp isIn with rfl | later
    · exact ⟨[], first, _, rfl, plain, .inl rfl, rfl⟩
    · rcases ih terminated.of_append later with
        ⟨front, body, back, isLine, bodyPlain, isFront, whole⟩
      refine ⟨first ++ [terminator] ++ front, body, back, isLine, bodyPlain,
        terminated_append (terminated_concat first) isFront, ?_⟩
      rw [whole, List.append_assoc (first ++ [terminator])]

theorem stands_of_mem {text : List Item} (terminated : Terminated terminator text)
    (isIn : line ∈ splitInclusive terminator text) :
    exists front body back, line = body ++ [terminator] ∧ terminator ∉ body ∧
      Terminated terminator front ∧ text = front ++ (line ++ back) := by
  have isLines := (@isLines_splitInclusive _ _ terminator text).1
  have terminated' : Terminated terminator (splitInclusive terminator text).flatten := by
    rwa [flatten_splitInclusive]
  have stands := isLines.stands terminated' isIn
  rwa [flatten_splitInclusive] at stands

end InclusiveLines
end RocmCli
