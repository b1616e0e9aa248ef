import Mathlib.Data.List.Infix

namespace RocmCli
namespace Wildcards

/-!
# Patterns with a wildcard

One item, the wildcard, stands for any run of items, and each other item for itself.
A reader that tries only the last wildcard it passed misses nothing: what an earlier
wildcard could take in addition, the last one can take as well.
-/

variable {A : Type u} [DecidableEq A]

/-- The pattern with its wildcards replaced, the first by `runs 0` and so on. -/
def filled (wildcard : A) : List A -> (runs : Nat -> List A) -> List A
  | [], _ => []
  | item :: rest, runs =>
      if item = wildcard then runs 0 ++ filled wildcard rest (fun index => runs (index + 1))
      else item :: filled wildcard rest runs

def Matches (wildcard : A) (pattern items : List A) : Prop :=
  exists runs, items = filled wildcard pattern runs

variable {wildcard : A} {items rest literal : List A}

/-! ## By the head of the pattern -/

@[simp]
theorem matches_nil : Matches wildcard [] items ↔ items = [] :=
  ⟨fun ⟨_, same⟩ => same, fun empty => ⟨fun _ => [], empty⟩⟩

theorem matches_wildcard : Matches wildcard (wildcard :: rest) items ↔
    exists run later, items = run ++ later ∧ Matches wildcard rest later := by
  constructor
  · rintro ⟨runs, same⟩
    rw [filled, if_pos rfl] at same
    exact ⟨runs 0, _, same, fun index => runs (index + 1), rfl⟩
  · rintro ⟨run, later, same, runs, rfl⟩
    refine ⟨fun index => index.casesOn run runs, ?_⟩
    rw [filled, if_pos rfl]
    exact same

theorem matches_item {item : A} (plain : item ≠ wildcard) :
    Matches wildcard (item :: rest) items ↔
      exists later, items = item :: later ∧ Matches wildcard rest later := by
  constructor
  · rintro ⟨runs, same⟩
    rw [filled, if_neg plain] at same
    exact ⟨_, same, runs, rfl⟩
  · rintro ⟨later, same, runs, rfl⟩
    refine ⟨runs, ?_⟩
    rw [filled, if_neg plain]
    exact same

theorem matches_item_cons {item : A} (plain : item ≠ wildcard) (first : A) :
    Matches wildcard (item :: rest) (first :: items) ↔
      first = item ∧ Matches wildcard rest items := by
  rw [matches_item plain]
  constructor
  · rintro ⟨later, same, found⟩
    rcases List.cons.inj same with ⟨rfl, rfl⟩
    exact ⟨rfl, found⟩
  · rintro ⟨rfl, found⟩
    exact ⟨items, rfl, found⟩

theorem matches_literal (plain : wildcard ∉ literal) :
    Matches wildcard (literal ++ rest) items ↔
      exists later, items = literal ++ later ∧ Matches wildcard rest later := by
  induction literal generalizing items with
  | nil => exact ⟨fun found => ⟨items, rfl, found⟩, fun ⟨_, same, found⟩ => same ▸ found⟩
  | cons item others ih =>
      rw [List.mem_cons, not_or] at plain
      rw [List.cons_append, matches_item (Ne.symm plain.1)]
      constructor
      · rintro ⟨behind, rfl, found⟩
        rcases (ih plain.2).mp found with ⟨later, rfl, behindFound⟩
        exact ⟨later, rfl, behindFound⟩
      · rintro ⟨later, rfl, found⟩
        exact ⟨others ++ later, rfl, (ih plain.2).mpr ⟨later, rfl, found⟩⟩

/-- Nothing is left to match exactly when only wildcards are left. -/
theorem matches_empty {pattern : List A} :
    Matches wildcard pattern [] ↔ forall item, item ∈ pattern -> item = wildcard := by
  induction pattern with
  | nil => simp
  | cons item rest ih =>
      by_cases isWildcard : item = wildcard
      · subst isWildcard
        rw [matches_wildcard]
        simp [ih]
      · simp [matches_item isWildcard, isWildcard]

/-! ## What a wildcard takes -/

/-- The run of a leading wildcard may start earlier. -/
theorem matches_wildcard_suffix {later : List A} (suffix : later <:+ items)
    (found : Matches wildcard (wildcard :: rest) later) :
    Matches wildcard (wildcard :: rest) items := by
  rcases suffix with ⟨before, rfl⟩
  rcases matches_wildcard.mp found with ⟨run, behind, rfl, behindFound⟩
  exact matches_wildcard.mpr ⟨before ++ run, behind, (List.append_assoc ..).symm, behindFound⟩

/-- A leading wildcard takes the first item or stands for nothing. -/
theorem matches_wildcard_cons (first : A) :
    Matches wildcard (wildcard :: rest) (first :: items) ↔
      Matches wildcard rest (first :: items) ∨ Matches wildcard (wildcard :: rest) items := by
  constructor
  · intro found
    rcases matches_wildcard.mp found with ⟨run, later, same, found⟩
    cases run with
    | nil => exact .inl (same ▸ found)
    | cons item run =>
        exact .inr (matches_wildcard.mpr ⟨run, later, (List.cons.inj same).2, found⟩)
  · rintro (found | found)
    · exact matches_wildcard.mpr ⟨[], _, rfl, found⟩
    · exact matches_wildcard_suffix (List.suffix_cons first items) found

/-- A wildcard before a literal that was just read may as well stand for nothing, when
what follows the literal could take up whatever the wildcard passed over. -/
theorem matches_behind_literal (plain : wildcard ∉ literal)
    (takesMore : forall later, later <:+ items ->
      Matches wildcard rest later -> Matches wildcard rest items) :
    Matches wildcard (wildcard :: (literal ++ rest)) (literal ++ items) ↔
      Matches wildcard rest items := by
  constructor
  · intro found
    rcases matches_wildcard.mp found with ⟨run, behind, same, behindFound⟩
    rcases (matches_literal plain).mp behindFound with ⟨later, rfl, laterFound⟩
    have lengths := congrArg List.length same
    simp only [List.length_append] at lengths
    refine takesMore later (List.suffix_of_suffix_length_le ?_
      (List.suffix_append literal items) (by omega)) laterFound
    rw [same, ← List.append_assoc]
    exact List.suffix_append _ _
  · intro found
    exact matches_wildcard.mpr ⟨[], _, rfl, (matches_literal plain).mpr ⟨items, rfl, found⟩⟩

end Wildcards
end RocmCli
