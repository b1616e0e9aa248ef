import Mathlib.Data.List.DropRight

namespace RocmCli
namespace Segments

/-!
# The last segment of a separated sequence

Reading a separated sequence from its end needs one decomposition: everything
up to and including the last separator, then the segment after it.  The two
halves are `List.rdropWhile` and `List.rtakeWhile` of "is not a separator".
The lemmas here connect that decomposition to `List.splitOn`, which lists the
same segments from the front.
-/

variable {A : Type u} [BEq A] [LawfulBEq A]

/-- Everything up to and including the last separator. -/
def upToLast (separator : A) (items : List A) : List A :=
  items.rdropWhile (fun item => item != separator)

/-- The segment after the last separator; the whole list when there is none. -/
def lastSegment (separator : A) (items : List A) : List A :=
  items.rtakeWhile (fun item => item != separator)

omit [LawfulBEq A] in
theorem upToLast_append_lastSegment (separator : A) (items : List A) :
    upToLast separator items ++ lastSegment separator items = items :=
  List.rdropWhile_append_rtakeWhile

theorem not_mem_lastSegment (separator : A) (items : List A) :
    separator ∉ lastSegment separator items := by
  intro member
  have kept := List.mem_rtakeWhile_imp member
  simp at kept

/-- The head part ends on a separator unless it is empty. -/
theorem upToLast_eq_nil_or_concat (separator : A) (items : List A) :
    upToLast separator items = [] ∨
      exists front, upToLast separator items = front ++ [separator] := by
  by_cases empty : upToLast separator items = []
  · exact Or.inl empty
  · right
    have last := List.rdropWhile_last_not _ _ empty
    have same : (upToLast separator items).getLast empty = separator := by
      simpa [upToLast] using last
    have split := (List.dropLast_append_getLast empty).symm
    rw [same] at split
    exact ⟨_, split⟩

variable {separator : A}

/-- A separator followed by a segment fixes both halves. -/
theorem upToLast_append_cons {segment : List A} (free : separator ∉ segment) (front : List A) :
    upToLast separator (front ++ separator :: segment) = front ++ [separator] := by
  induction segment using List.reverseRecOn with
  | nil => exact List.rdropWhile_concat_neg _ _ _ (by simp)
  | append_singleton segment item ih =>
      have different : item ≠ separator := fun same => free (by simp [same])
      have earlier : separator ∉ segment := fun member => free (by simp [member])
      have step : front ++ separator :: (segment ++ [item]) =
          (front ++ separator :: segment) ++ [item] := by simp
      rw [upToLast, step, List.rdropWhile_concat_pos _ _ _ (by simpa using different)]
      exact ih earlier

theorem lastSegment_append_cons {segment : List A} (free : separator ∉ segment) (front : List A) :
    lastSegment separator (front ++ separator :: segment) = segment := by
  have whole := upToLast_append_lastSegment separator (front ++ separator :: segment)
  rw [upToLast_append_cons free, List.append_assoc] at whole
  exact List.cons.inj (List.append_cancel_left whole) |>.2

theorem upToLast_of_free {items : List A} (free : separator ∉ items) :
    upToLast separator items = [] := by
  apply List.rdropWhile_eq_nil_iff.mpr
  intro item member
  have different : item ≠ separator := fun same => free (same ▸ member)
  simpa using different

theorem lastSegment_of_free {items : List A} (free : separator ∉ items) :
    lastSegment separator items = items := by
  have whole := upToLast_append_lastSegment separator items
  rwa [upToLast_of_free free, List.nil_append] at whole

/-- The segments, each followed by a separator. -/
def terminated (separator : A) (segments : List (List A)) : List A :=
  segments.flatMap (fun segment => segment ++ [separator])

omit [BEq A] [LawfulBEq A] in
@[simp] theorem terminated_nil (separator : A) : terminated separator [] = [] := rfl

omit [BEq A] [LawfulBEq A] in
@[simp] theorem terminated_cons (separator : A) (segment : List A) (rest : List (List A)) :
    terminated separator (segment :: rest) = segment ++ separator :: terminated separator rest := by
  simp [terminated]

omit [BEq A] [LawfulBEq A] in
theorem terminated_append (separator : A) (first second : List (List A)) :
    terminated separator (first ++ second) =
      terminated separator first ++ terminated separator second :=
  List.flatMap_append

theorem splitOn_terminated_append (separator : A) (segments : List (List A)) (rest : List A)
    (free : forall segment, segment ∈ segments -> separator ∉ segment) :
    (terminated separator segments ++ rest).splitOn separator =
      segments ++ rest.splitOn separator := by
  induction segments with
  | nil => rfl
  | cons segment others ih =>
      have head := free segment List.mem_cons_self
      have tail := ih (fun other member =>
        free other (List.mem_cons_of_mem segment member))
      rw [terminated_cons, List.append_assoc, List.cons_append,
        List.splitOn_append_cons_self_of_not_mem head, tail]
      rfl

/-- Terminated segments, then one that is not: what `splitOn` reads back. -/
theorem splitOn_flatMap_append (separator : A) (segments : List (List A)) (last : List A)
    (free : forall segment, segment ∈ segments -> separator ∉ segment)
    (lastFree : separator ∉ last) :
    (segments.flatMap (fun segment => segment ++ [separator]) ++ last).splitOn separator =
      segments ++ [last] := by
  have read := splitOn_terminated_append separator segments last free
  rwa [List.splitOn_eq_singleton lastFree] at read

/-- One terminated sequence starts another exactly when its segments do. -/
theorem terminated_prefix_iff {first second : List (List A)}
    (firstFree : forall segment, segment ∈ first -> separator ∉ segment)
    (secondFree : forall segment, segment ∈ second -> separator ∉ segment) :
    terminated separator first <+: terminated separator second ↔ first <+: second := by
  constructor
  · rintro ⟨rest, whole⟩
    have readFirst := splitOn_terminated_append separator first rest firstFree
    have readSecond := splitOn_terminated_append separator second [] secondFree
    rw [List.append_nil, ← whole, readFirst] at readSecond
    rcases List.eq_nil_or_concat' (rest.splitOn separator) with none | ⟨front, last, split⟩
    · exact absurd none (List.splitOn_ne_nil separator rest)
    · rw [split, List.splitOn_nil, ← List.append_assoc] at readSecond
      exact ⟨front, (List.append_inj_left' readSecond rfl)⟩
  · rintro ⟨rest, rfl⟩
    rw [terminated_append]
    exact List.prefix_append _ _

omit [BEq A] [LawfulBEq A] in
/-- The segments with separators between them, and one after the last. -/
theorem intercalate_append_separator (separator : A) (segments : List (List A))
    (nonempty : segments ≠ []) :
    List.intercalate [separator] segments ++ [separator] = terminated separator segments := by
  induction segments with
  | nil => exact absurd rfl nonempty
  | cons segment rest ih =>
      by_cases last : rest = []
      · rw [last, List.intercalate_singleton, terminated_cons, terminated_nil]
      · rw [List.intercalate_cons_of_ne_nil last, List.append_assoc, List.append_assoc,
          ih last, terminated_cons]
        rfl

/-- The segments before the last one do not depend on what follows them. -/
theorem splitOn_upToLast_append (separator : A) (items : List A) :
    exists before, forall rest,
      (upToLast separator items ++ rest).splitOn separator =
        before ++ rest.splitOn separator := by
  rcases upToLast_eq_nil_or_concat separator items with empty | ⟨front, split⟩
  · exact ⟨[], fun rest => by rw [empty]; rfl⟩
  · refine ⟨front.splitOn separator, fun rest => ?_⟩
    rw [split, List.append_assoc, List.singleton_append]
    exact List.splitOn_append_cons_self front rest

/-- A sequence is not empty and does not end on a separator exactly when its
last segment is not empty. -/
theorem lastSegment_isEmpty (separator : A) (items : List A) :
    (!items.isEmpty && items.getLast? != some separator) =
      !(lastSegment separator items).isEmpty := by
  rcases List.eq_nil_or_concat' items with rfl | ⟨front, last, rfl⟩
  · rfl
  · by_cases same : last = separator
    · simp [same, lastSegment]
    · have different : (some last != some separator) = true := bne_iff_ne.mpr (by simpa using same)
      have nonempty : forall start : List A, (start ++ [last]).isEmpty = false := by
        intro start
        simp [List.isEmpty_eq_false_iff]
      rw [List.getLast?_concat, different, nonempty, lastSegment,
        List.rtakeWhile_concat_pos _ _ _ (by simpa using same), nonempty]
      rfl

end Segments
end RocmCli
