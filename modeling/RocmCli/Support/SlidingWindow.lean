import Mathlib.Algebra.Order.Field.Basic
import Mathlib.Data.List.Chain
import Mathlib.Tactic.Linarith
import Mathlib.Tactic.Ring

namespace RocmCli
namespace SlidingWindow

/-!
# A window over a history

A queue keeps the newest of what came: at most so many items, and none that is
stale beside the newest.  It drops from its front as items come, one for room
and the stale ones after.  When what is stale stays stale, it holds at any time
what one look at the whole history would pick out.
-/

section Window

variable {Item : Type u} (stale : Item -> Item -> Bool) (capacity : Nat)

/-- Drop the stale items at the front, but not the last one. -/
def expire (newest : Item) : List Item -> List Item
  | [] => []
  | [item] => [item]
  | first :: second :: rest =>
      if stale newest first then expire newest (second :: rest) else first :: second :: rest

/-- One more item. -/
def push (items : List Item) (item : Item) : List Item :=
  expire stale item ((if capacity ≤ items.length then items.tail else items) ++ [item])

/-- What is to be kept of a history. -/
def recent (history : List Item) : List Item :=
  match history.getLast? with
  | none => []
  | some newest => (history.drop (history.length - capacity)).dropWhile (stale newest)

variable {stale capacity}

variable {newest : Item}

theorem expire_concat (items : List Item) (current : stale newest newest = false) :
    expire stale newest (items ++ [newest]) = (items ++ [newest]).dropWhile (stale newest) := by
  induction items with
  | nil => simp [expire, current]
  | cons first rest ih =>
    cases rest with
    | nil => cases isStale : stale newest first <;> simp [expire, isStale, current]
    | cons second rest =>
      rw [List.cons_append, List.cons_append, expire]
      cases isStale : stale newest first with
      | true =>
        rw [if_pos rfl, List.dropWhile_cons_of_pos isStale]
        exact ih
      | false =>
        rw [if_neg Bool.false_ne_true, List.dropWhile_cons_of_neg (Bool.eq_false_iff.mp isStale)]

theorem expire_suffix (newest : Item) (items : List Item) : expire stale newest items <:+ items := by
  induction items with
  | nil => exact List.suffix_rfl
  | cons first rest ih =>
    cases rest with
    | nil => exact List.suffix_rfl
    | cons second rest =>
      rw [expire]
      split
      · exact ih.trans (List.suffix_cons _ _)
      · exact List.suffix_rfl

theorem mem_push {items : List Item} {item kept : Item} (member : kept ∈ push stale capacity items item) :
    kept ∈ items ∨ kept = item := by
  have inside := (expire_suffix item _).subset member
  rcases List.mem_append.mp inside with older | isItem
  · split at older
    · exact Or.inl (List.mem_of_mem_tail older)
    · exact Or.inl older
  · exact Or.inr (List.mem_singleton.mp isItem)

variable {history : List Item}

theorem recent_eq (isNewest : history.getLast? = some newest) :
    recent stale capacity history =
      (history.drop (history.length - capacity)).dropWhile (stale newest) := by
  unfold recent
  rw [isNewest]

theorem recent_concat (history : List Item) (item : Item) :
    recent stale capacity (history ++ [item]) =
      ((history ++ [item]).drop (history.length + 1 - capacity)).dropWhile (stale item) := by
  unfold recent
  rw [List.getLast?_concat, List.length_append]
  rfl

/-- Dropping what was stale before dropping what is stale now changes nothing. -/
theorem dropWhile_dropWhile_append {before now : Item -> Bool}
    (stays : forall item, before item = true -> now item = true) (items : List Item) (item : Item) :
    (items.dropWhile before ++ [item]).dropWhile now = (items ++ [item]).dropWhile now := by
  induction items with
  | nil => rfl
  | cons first rest ih =>
    cases wasStale : before first with
    | true =>
      rw [List.dropWhile_cons_of_pos wasStale, ih, List.cons_append,
        List.dropWhile_cons_of_pos (stays first wasStale)]
    | false => rw [List.dropWhile_cons_of_neg (Bool.eq_false_iff.mp wasStale)]

/-- The queue holds what is to be kept of the history. -/
theorem push_recent {item : Item} (room : 0 < capacity) (current : stale item item = false)
    (stays : forall newest, history.getLast? = some newest -> forall old,
      stale newest old = true -> stale item old = true) :
    push stale capacity (recent stale capacity history) item =
      recent stale capacity (history ++ [item]) := by
  unfold push
  rw [expire_concat _ current, recent_concat,
    List.drop_append_of_le_length (show history.length + 1 - capacity ≤ history.length by omega)]
  cases isNewest : history.getLast? with
  | none =>
    rw [List.getLast?_eq_none_iff.mp isNewest]
    simp [recent, Nat.ne_of_gt room]
  | some newest =>
    have suffix := List.dropWhile_suffix (stale newest) (l := history.drop (history.length - capacity))
    have shorter := suffix.length_le
    rw [List.length_drop] at shorter
    rw [recent_eq isNewest]
    split
    next full =>
      have whole := suffix.eq_of_length (by rw [List.length_drop]; omega)
      rw [whole, List.length_drop] at full
      rw [whole, List.tail_drop, show history.length - capacity + 1 = history.length + 1 - capacity by omega]
    next notFull =>
      rcases Nat.lt_or_ge history.length capacity with short | long
      · rw [dropWhile_dropWhile_append (stays newest isNewest),
          show history.length - capacity = history.length + 1 - capacity by omega]
      · have split := List.drop_eq_getElem_cons (show history.length - capacity < history.length by omega)
        rw [show history.length - capacity + 1 = history.length + 1 - capacity by omega] at split
        rw [split] at notFull ⊢
        cases isStale : stale newest history[history.length - capacity] with
        | true =>
          rw [List.dropWhile_cons_of_pos isStale,
            dropWhile_dropWhile_append (stays newest isNewest)]
        | false =>
          rw [List.dropWhile_cons_of_neg (Bool.eq_false_iff.mp isStale), List.length_cons,
            List.length_drop] at notFull
          omega

theorem recent_suffix (history : List Item) : recent stale capacity history <:+ history := by
  unfold recent
  split
  · exact List.nil_suffix
  · exact (List.dropWhile_suffix _).trans (List.drop_suffix _ _)

theorem recent_length_le (history : List Item) :
    (recent stale capacity history).length ≤ capacity := by
  unfold recent
  split
  · exact Nat.zero_le _
  · refine (List.dropWhile_suffix _).length_le.trans ?_
    rw [List.length_drop]
    omega

theorem getLast?_dropWhile {dropped : Item -> Bool} {items : List Item} {last : Item}
    (isLast : items.getLast? = some last) (stays : dropped last = false) :
    (items.dropWhile dropped).getLast? = some last := by
  rcases List.getLast?_eq_some_iff.mp isLast with ⟨earlier, rfl⟩
  rw [List.dropWhile_append]
  split
  · rw [List.dropWhile_cons_of_neg (Bool.eq_false_iff.mp stays)]
    rfl
  · exact List.getLast?_concat

/-- The newest item is kept. -/
theorem recent_getLast? (room : 0 < capacity) (isNewest : history.getLast? = some newest)
    (current : stale newest newest = false) :
    (recent stale capacity history).getLast? = some newest := by
  have long : ¬ history.length ≤ history.length - capacity := fun short => by
    have nothing : history.length = 0 := by omega
    rw [List.eq_nil_of_length_eq_zero nothing] at isNewest
    cases isNewest
  rw [recent_eq isNewest]
  refine getLast?_dropWhile ?_ current
  rw [List.getLast?_drop, if_neg long]
  exact isNewest

/-- Nothing is kept that is stale, where what is newer is less so. -/
theorem recent_current (isNewest : history.getLast? = some newest)
    (later : history.Pairwise fun old new => stale newest new = true -> stale newest old = true) :
    forall item, item ∈ recent stale capacity history -> stale newest item = false := by
  rw [recent_eq isNewest]
  have sorted := later.sublist (List.drop_sublist (history.length - capacity) history)
  generalize history.drop (history.length - capacity) = items at sorted
  induction items with
  | nil => intro item member; cases member
  | cons first rest ih =>
    rcases List.pairwise_cons.mp sorted with ⟨above, sortedRest⟩
    cases isStale : stale newest first with
    | true =>
      rw [List.dropWhile_cons_of_pos isStale]
      exact ih sortedRest
    | false =>
      rw [List.dropWhile_cons_of_neg (Bool.eq_false_iff.mp isStale)]
      intro item member
      rcases List.mem_cons.mp member with rfl | isLater
      · exact isStale
      · refine Bool.eq_false_iff.mpr fun itemStale => ?_
        rw [above item isLater itemStale] at isStale
        cases isStale

end Window

/-! ## Slopes -/

section Slopes

variable {Point : Type u} {Scalar : Type v} [Field Scalar] [LinearOrder Scalar]
  [IsStrictOrderedRing Scalar] (time value : Point -> Scalar)

def slope (early late : Point) : Scalar := (value late - value early) / (time late - time early)

theorem slope_le_max {first second last : Point} (early : time first < time second)
    (late : time second < time last) :
    slope time value first last ≤ slope time value first second ∨
      slope time value first last ≤ slope time value second last := by
  have before : 0 < time second - time first := sub_pos.mpr early
  have after : 0 < time last - time second := sub_pos.mpr late
  have whole : 0 < time last - time first := sub_pos.mpr (early.trans late)
  unfold slope
  rw [div_le_div_iff₀ whole before, div_le_div_iff₀ whole after]
  rcases le_total ((value last - value second) * (time second - time first))
      ((value second - value first) * (time last - time second)) with steepFirst | steepLast
  · left
    linarith
  · right
    linarith

/-- Between two points of a series some step is at least as steep as the whole. -/
theorem exists_steep {points : List Point} {first last : Point}
    (sorted : points.Pairwise (time · < time ·)) (isFirst : points.head? = some first)
    (isLast : points.getLast? = some last) (two : 2 ≤ points.length) :
    exists early late, [early, late] <:+: points ∧
      slope time value first last ≤ slope time value early late := by
  induction points generalizing first with
  | nil => cases isFirst
  | cons point rest ih =>
    cases Option.some.inj isFirst
    cases rest with
    | nil => exact absurd two (by simp)
    | cons second rest =>
      rw [List.getLast?_cons_cons] at isLast
      rcases List.pairwise_cons.mp sorted with ⟨above, sortedRest⟩
      cases rest with
      | nil =>
        cases Option.some.inj isLast
        exact ⟨point, second, List.infix_rfl, le_refl _⟩
      | cons third rest =>
        have isLater : last ∈ third :: rest := List.mem_of_getLast? isLast
        rcases slope_le_max time value (above second List.mem_cons_self)
            ((List.pairwise_cons.mp sortedRest).1 last isLater) with steepFirst | steepRest
        · exact ⟨point, second, ⟨[], third :: rest, rfl⟩, steepFirst⟩
        · rcases ih sortedRest rfl isLast (by simp) with
            ⟨early, late, inside, steep⟩
          exact ⟨early, late, inside.trans (List.infix_cons List.infix_rfl), steepRest.trans steep⟩

end Slopes

end SlidingWindow
end RocmCli
