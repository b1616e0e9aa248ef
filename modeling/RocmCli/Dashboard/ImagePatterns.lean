import RocmCli.Support.Wildcards

namespace RocmCli
namespace Dashboard

open Wildcards

/-!
# Image patterns

Which container images are watched.  A pattern is compared byte by byte with `*` as
the wildcard, from the last `*` again when a byte differs.
-/

def asterisk : UInt8 := 0x2a

def asBytes (text : String) : List UInt8 := text.toUTF8.data.toList

/-- The variables of the loop. -/
structure GlobCursor where
  i : Nat
  j : Nat
  /-- Where in the pattern the last `*` stands. -/
  star : Option Nat
  /-- Where what that `*` does not stand for begins. -/
  sAtStar : Nat
  sAtStar_le : sAtStar ≤ i

namespace GlobCursor

def start : GlobCursor := { i := 0, j := 0, star := none, sAtStar := 0, sAtStar_le := Nat.le_refl 0 }

def atStar (cursor : GlobCursor) : GlobCursor where
  i := cursor.i
  j := cursor.j + 1
  star := some cursor.j
  sAtStar := cursor.i
  sAtStar_le := Nat.le_refl _

def pastByte (cursor : GlobCursor) : GlobCursor where
  i := cursor.i + 1
  j := cursor.j + 1
  star := cursor.star
  sAtStar := cursor.sAtStar
  sAtStar_le := Nat.le_succ_of_le cursor.sAtStar_le

/-- The star at `sj` takes one byte more. -/
def backTo (cursor : GlobCursor) (sj : Nat) : GlobCursor where
  i := cursor.sAtStar + 1
  j := sj + 1
  star := cursor.star
  sAtStar := cursor.sAtStar + 1
  sAtStar_le := Nat.le_refl _

end GlobCursor

/-- The first loop; the place reached in the pattern, or `none` where it returns `false`. -/
def globLoop (s pat : List UInt8) (cursor : GlobCursor) : Option Nat :=
  if inside : cursor.i < s.length then
    if pat[cursor.j]? = some asterisk then globLoop s pat cursor.atStar
    else if pat[cursor.j]? = some s[cursor.i] then globLoop s pat cursor.pastByte
    else
      match cursor.star with
      | some sj => globLoop s pat (cursor.backTo sj)
      | none => none
  else some cursor.j
termination_by (s.length - cursor.sAtStar, pat.length - cursor.j)
decreasing_by
  all_goals
    have bound := cursor.sAtStar_le
    try have read := (List.getElem?_eq_some_iff.mp ‹pat[cursor.j]? = some _›).1
    simp only [GlobCursor.atStar, GlobCursor.pastByte, GlobCursor.backTo, Prod.lex_def,
      true_and]
    omega

/-- The second loop. -/
def skipStars (pat : List UInt8) (j : Nat) : Nat :=
  if read : pat[j]? = some asterisk then skipStars pat (j + 1) else j
termination_by pat.length - j
decreasing_by
  have inside := (List.getElem?_eq_some_iff.mp read).1
  omega

def globMatch (s pat : String) : Bool :=
  match globLoop (asBytes s) (asBytes pat) .start with
  | some j => skipStars (asBytes pat) j == (asBytes pat).length
  | none => false

/-! ## What the loop keeps -/

section Loop

variable {s pat : List UInt8} {cursor : GlobCursor}

/-- Between the last star and the cursor stand bytes that were read as themselves. -/
structure Follows (s pat : List UInt8) (cursor : GlobCursor) : Prop where
  inText : cursor.i ≤ s.length
  inPattern : cursor.j ≤ pat.length
  sinceStar : forall sj, cursor.star = some sj -> exists literal, asterisk ∉ literal ∧
    pat.drop sj = asterisk :: (literal ++ pat.drop cursor.j) ∧
    s.drop cursor.sAtStar = literal ++ s.drop cursor.i

/-- What is still to be matched, from the last star on if there is one. -/
def Open (s pat : List UInt8) (cursor : GlobCursor) : Prop :=
  match cursor.star with
  | some sj => Matches asterisk (pat.drop sj) (s.drop cursor.sAtStar)
  | none => Matches asterisk (pat.drop cursor.j) (s.drop cursor.i)

/-- What is still to be matched may be counted from the cursor, once the rest of the
pattern takes what a star has passed over. -/
theorem open_iff_of_takesMore (follows : Follows s pat cursor)
    (takesMore : forall later, later <:+ s.drop cursor.i ->
      Matches asterisk (pat.drop cursor.j) later ->
      Matches asterisk (pat.drop cursor.j) (s.drop cursor.i)) :
    Open s pat cursor ↔ Matches asterisk (pat.drop cursor.j) (s.drop cursor.i) := by
  unfold Open
  split
  · next sj isStar =>
      rcases follows.sinceStar sj isStar with ⟨literal, plain, inPattern, inText⟩
      rw [inPattern, inText]
      exact matches_behind_literal plain takesMore
  · exact Iff.rfl

theorem drop_of_getElem? {items : List UInt8} {index : Nat} {item : UInt8}
    (read : items[index]? = some item) : items.drop index = item :: items.drop (index + 1) := by
  rcases List.getElem?_eq_some_iff.mp read with ⟨inside, rfl⟩
  exact List.drop_eq_getElem_cons inside

theorem atStar_step (follows : Follows s pat cursor) (read : pat[cursor.j]? = some asterisk) :
    Follows s pat cursor.atStar ∧ (Open s pat cursor.atStar ↔ Open s pat cursor) := by
  have rest := drop_of_getElem? read
  refine ⟨⟨follows.inText, (List.getElem?_eq_some_iff.mp read).1, ?_⟩, ?_⟩
  · rintro sj isStar
    rcases Option.some.inj isStar with rfl
    exact ⟨[], List.not_mem_nil, rest, rfl⟩
  · refine (open_iff_of_takesMore follows ?_).symm
    intro later suffix found
    rw [rest] at found ⊢
    exact matches_wildcard_suffix suffix found

theorem pastByte_step (follows : Follows s pat cursor) (inside : cursor.i < s.length)
    (plain : pat[cursor.j]? ≠ some asterisk) (read : pat[cursor.j]? = some s[cursor.i]) :
    Follows s pat cursor.pastByte ∧ (Open s pat cursor.pastByte ↔ Open s pat cursor) := by
  have rest := drop_of_getElem? read
  have text := List.drop_eq_getElem_cons inside
  have notStar : s[cursor.i] ≠ asterisk := fun same => plain (same ▸ read)
  refine ⟨⟨inside, (List.getElem?_eq_some_iff.mp read).1, ?_⟩, ?_⟩
  · intro sj isStar
    rcases follows.sinceStar sj isStar with ⟨literal, literalPlain, inPattern, inText⟩
    refine ⟨literal ++ [s[cursor.i]], ?_, ?_, ?_⟩
    · simp [literalPlain, Ne.symm notStar]
    · rw [inPattern, rest]
      simp [GlobCursor.pastByte]
    · rw [show cursor.pastByte.sAtStar = cursor.sAtStar from rfl, inText, text]
      simp [GlobCursor.pastByte]
  · unfold Open
    cases isStar : cursor.star with
    | some sj => simp [GlobCursor.pastByte, isStar]
    | none =>
        simp only [GlobCursor.pastByte, isStar]
        rw [rest, text, matches_item_cons notStar]
        simp

/-- Where the bytes differ, nothing matches from the cursor on. -/
theorem not_matches_of_differs (inside : cursor.i < s.length)
    (plain : pat[cursor.j]? ≠ some asterisk) (differs : pat[cursor.j]? ≠ some s[cursor.i]) :
    ¬ Matches asterisk (pat.drop cursor.j) (s.drop cursor.i) := by
  rw [List.drop_eq_getElem_cons inside]
  cases read : pat[cursor.j]? with
  | none =>
      rw [List.drop_eq_nil_of_le (List.getElem?_eq_none_iff.mp read), matches_nil]
      exact List.cons_ne_nil _ _
  | some item =>
      rw [read] at plain differs
      rw [drop_of_getElem? read, matches_item_cons (fun same => plain (congrArg some same))]
      exact fun found => differs (congrArg some found.1.symm)

theorem backTo_step {sj : Nat} (follows : Follows s pat cursor) (inside : cursor.i < s.length)
    (plain : pat[cursor.j]? ≠ some asterisk) (differs : pat[cursor.j]? ≠ some s[cursor.i])
    (isStar : cursor.star = some sj) :
    Follows s pat (cursor.backTo sj) ∧ (Open s pat (cursor.backTo sj) ↔ Open s pat cursor) := by
  have bound := cursor.sAtStar_le
  have atStar : cursor.sAtStar < s.length := by omega
  rcases follows.sinceStar sj isStar with ⟨literal, literalPlain, inPattern, inText⟩
  have starts : sj < pat.length := by
    have lengths := congrArg List.length inPattern
    simp only [List.length_drop, List.length_cons] at lengths
    omega
  have behind : pat.drop (sj + 1) = literal ++ pat.drop cursor.j := by
    have whole := List.drop_eq_getElem_cons starts
    rw [inPattern] at whole
    exact (List.cons.inj whole).2.symm
  have text := List.drop_eq_getElem_cons atStar
  refine ⟨⟨atStar, starts, ?_⟩, ?_⟩
  · intro other isOther
    rcases Option.some.inj (isStar.symm.trans isOther) with rfl
    exact ⟨[], List.not_mem_nil, by rw [inPattern, ← behind]; rfl, rfl⟩
  · -- The star cannot stand for nothing: behind the literal, the bytes differ.
    have notHere : ¬ Matches asterisk (pat.drop (sj + 1)) (s.drop cursor.sAtStar) := by
      rw [behind, inText, matches_literal literalPlain]
      rintro ⟨later, same, found⟩
      rw [← List.append_cancel_left same] at found
      exact not_matches_of_differs inside plain differs found
    simp only [Open, GlobCursor.backTo, isStar]
    rw [inPattern, ← behind, text, matches_wildcard_cons, ← text]
    simp [notHere]

/-- The end of the loop: of the pattern only stars may be left. -/
theorem open_ended (follows : Follows s pat cursor) (ended : ¬ cursor.i < s.length) :
    Open s pat cursor ↔ forall byte, byte ∈ pat.drop cursor.j -> byte = asterisk := by
  have nothing : s.drop cursor.i = [] := List.drop_eq_nil_of_le (Nat.not_lt.mp ended)
  rw [open_iff_of_takesMore follows, nothing, matches_empty]
  intro later suffix found
  rw [nothing, List.suffix_nil] at suffix
  rw [nothing, ← suffix]
  exact found

theorem globLoop_iff (follows : Follows s pat cursor) :
    (exists j, globLoop s pat cursor = some j ∧ j ≤ pat.length ∧
      forall byte, byte ∈ pat.drop j -> byte = asterisk) ↔ Open s pat cursor := by
  induction cursor using globLoop.induct s pat with
  | case1 cursor inside read ih =>
      have step := atStar_step follows read
      rw [globLoop, dif_pos inside, if_pos read, ih step.1]
      exact step.2
  | case2 cursor inside plain read ih =>
      have step := pastByte_step follows inside plain read
      rw [globLoop, dif_pos inside, if_neg plain, if_pos read, ih step.1]
      exact step.2
  | case3 cursor inside plain differs sj isStar ih =>
      have step := backTo_step follows inside plain differs isStar
      rw [globLoop, dif_pos inside, if_neg plain, if_neg differs, isStar]
      exact (ih step.1).trans step.2
  | case4 cursor inside plain differs noStar =>
      rw [globLoop, dif_pos inside, if_neg plain, if_neg differs, noStar]
      have fails := not_matches_of_differs inside plain differs
      simp [Open, noStar, fails]
  | case5 cursor ended =>
      rw [globLoop, dif_neg ended, open_ended follows ended]
      simp [follows.inPattern]

end Loop

theorem skipStars_eq_length {pat : List UInt8} {j : Nat} :
    skipStars pat j = pat.length ↔
      j ≤ pat.length ∧ forall byte, byte ∈ pat.drop j -> byte = asterisk := by
  induction j using skipStars.induct pat with
  | case1 j read ih =>
      have inside := (List.getElem?_eq_some_iff.mp read).1
      rw [skipStars, dif_pos read, ih, drop_of_getElem? read]
      simp [Nat.le_of_lt inside, Nat.succ_le_of_lt inside]
  | case2 j plain =>
      rw [skipStars, dif_neg plain]
      constructor
      · rintro rfl
        simp
      · rintro ⟨inside, stars⟩
        by_contra notEnd
        have before : j < pat.length := Nat.lt_of_le_of_ne inside notEnd
        have isStar : pat[j] = asterisk :=
          stars pat[j] (List.drop_eq_getElem_cons before ▸ List.mem_cons_self)
        exact plain (isStar ▸ List.getElem?_eq_getElem before)

/-- A text matches a pattern exactly when it is the pattern with each `*` replaced by
some bytes. -/
theorem globMatch_iff (s pat : String) :
    globMatch s pat = true ↔
      exists runs, asBytes s = filled asterisk (asBytes pat) runs := by
  have follows : Follows (asBytes s) (asBytes pat) .start :=
    ⟨Nat.zero_le _, Nat.zero_le _, nofun⟩
  refine Iff.trans ?_ (globLoop_iff follows)
  unfold globMatch
  cases globLoop (asBytes s) (asBytes pat) .start with
  | none => simp
  | some j => simp [skipStars_eq_length]

end Dashboard
end RocmCli
