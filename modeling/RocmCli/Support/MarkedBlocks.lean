import Mathlib.Data.List.Basic

namespace RocmCli
namespace MarkedBlocks

/-!
# Taking marked blocks out of a list

An opening item, a body and a closing item are a block of whoever the body names.
What a block is, and what may be taken out with it, is said of the list alone.
The pass that takes them out looks at each opening item for the next closing one.
-/

universe u

structure Markers (Item : Type u) where
  opens : Item -> Bool
  closes : Item -> Bool
  blank : Item -> Bool
  owned : List Item -> Bool
  closes_of_opens : forall item, opens item = true -> closes item = false
  plain_of_blank : forall item, blank item = true -> opens item = false ∧ closes item = false
  owned_append : forall front body, owned body = true -> owned (front ++ body) = true

variable {Item : Type u}

/-! ## Stretches -/

/-- From an opening item to the next closing one. -/
structure Stretch (markers : Markers Item) where
  opening : Item
  body : List Item
  closing : Item
  isOpening : markers.opens opening = true
  isClosing : markers.closes closing = true
  unclosed : forall item, item ∈ body -> markers.closes item = false
  isOwned : markers.owned body = true

variable {markers : Markers Item}

namespace Stretch

variable (stretch : Stretch markers)

def items : List Item := stretch.opening :: (stretch.body ++ [stretch.closing])

/-- Another opening item stands in it. -/
def straddles : Bool := stretch.body.any markers.opens

/-- No marker stands in it. -/
def IsBlock : Prop := stretch.straddles = false

end Stretch

variable {rest : List Item}

theorem closing_unique {body body' rest' : List Item} {closing closing' : Item}
    (unclosed : forall item, item ∈ body -> markers.closes item = false)
    (unclosed' : forall item, item ∈ body' -> markers.closes item = false)
    (isClosing : markers.closes closing = true) (isClosing' : markers.closes closing' = true)
    (same : body ++ closing :: rest = body' ++ closing' :: rest') :
    body = body' ∧ closing = closing' ∧ rest = rest' := by
  induction body generalizing body' with
  | nil =>
    cases body' with
    | nil =>
      cases same
      exact ⟨rfl, rfl, rfl⟩
    | cons item body' =>
      cases same
      exact absurd isClosing (by rw [unclosed' closing List.mem_cons_self]; decide)
  | cons item body ih =>
    cases body' with
    | nil =>
      cases same
      exact absurd isClosing' (by rw [unclosed closing' List.mem_cons_self]; decide)
    | cons item' body' =>
      rcases List.cons.inj same with ⟨rfl, behind⟩
      rcases ih (fun i isIn => unclosed i (List.mem_cons_of_mem _ isIn))
        (fun i isIn => unclosed' i (List.mem_cons_of_mem _ isIn)) behind with ⟨rfl, rfl, rfl⟩
      exact ⟨rfl, rfl, rfl⟩

theorem Stretch.items_append (stretch : Stretch markers) (rest : List Item) :
    stretch.items ++ rest = stretch.opening :: (stretch.body ++ stretch.closing :: rest) := by
  rw [Stretch.items, List.cons_append, List.append_assoc, List.singleton_append]

/-- Where a stretch starts, no other does. -/
theorem Stretch.unique {stretch stretch' : Stretch markers} {rest' : List Item}
    (same : stretch.items ++ rest = stretch'.items ++ rest') :
    stretch = stretch' ∧ rest = rest' := by
  rw [stretch.items_append, stretch'.items_append] at same
  rcases List.cons.inj same with ⟨sameOpening, behind⟩
  rcases closing_unique stretch.unclosed stretch'.unclosed stretch.isClosing stretch'.isClosing behind
    with ⟨sameBody, sameClosing, sameRest⟩
  refine ⟨?_, sameRest⟩
  cases stretch
  cases stretch'
  cases sameOpening
  cases sameBody
  cases sameClosing
  rfl

variable {front : List Item} {item : Item}

/-- What starts inside a stretch is in its body. -/
theorem Stretch.inside {stretch : Stretch markers} {back : List Item}
    (notClosing : markers.closes item = false)
    (same : stretch.items ++ rest = front ++ item :: back) :
    (exists behind, front = stretch.items ++ behind ∧ rest = behind ++ item :: back) ∨
      (front = [] ∧ item = stretch.opening) ∨
        exists before after, front = stretch.opening :: before ∧
          stretch.body = before ++ item :: after ∧ back = after ++ stretch.closing :: rest := by
  rw [stretch.items_append] at same
  cases front with
  | nil => exact .inr (.inl ⟨rfl, (List.cons.inj same).1.symm⟩)
  | cons first before =>
    rcases List.cons.inj same with ⟨sameOpening, behind⟩
    rcases List.append_eq_append_iff.mp behind with ⟨more, isBefore, isRest⟩ | ⟨more, isBody, isBack⟩
    · cases more with
      | nil =>
        rcases List.cons.inj isRest with ⟨isItem, _⟩
        exact absurd stretch.isClosing (by rw [isItem, notClosing]; decide)
      | cons closing more =>
        rcases List.cons.inj isRest with ⟨isClosing, isBehind⟩
        refine .inl ⟨more, ?_, isBehind⟩
        rw [stretch.items_append, isBefore, isClosing, sameOpening]
    · cases more with
      | nil =>
        rcases List.cons.inj isBack with ⟨isItem, _⟩
        exact absurd stretch.isClosing (by rw [← isItem, notClosing]; decide)
      | cons inner after =>
        rcases List.cons.inj isBack with ⟨rfl, isBehind⟩
        exact .inr (.inr ⟨before, after, by rw [sameOpening], isBody, isBehind⟩)

/-- A closing item that starts inside a stretch ends it. -/
theorem Stretch.closing_inside {stretch : Stretch markers} {back : List Item} {closing : Item}
    (isClosing : markers.closes closing = true)
    (same : stretch.items ++ rest = front ++ closing :: back) :
    (exists more, rest = more ++ closing :: back) ∨ rest = back := by
  rcases List.append_eq_append_iff.mp same with ⟨more, _, isRest⟩ | ⟨more, isItems, isBack⟩
  · exact .inl ⟨more, isRest⟩
  · cases more with
    | nil => exact .inl ⟨[], isBack.symm⟩
    | cons first more =>
      rcases List.cons.inj isBack with ⟨rfl, rfl⟩
      cases front with
      | nil =>
        rcases List.cons.inj isItems with ⟨isOpening, _⟩
        have never := markers.closes_of_opens _ stretch.isOpening
        rw [isOpening, isClosing] at never
        cases never
      | cons opening front =>
        have behind := (List.cons.inj isItems).2
        rcases List.eq_nil_or_concat more with rfl | ⟨inner, last, rfl⟩
        · exact .inr rfl
        · have whole : stretch.body ++ [stretch.closing] = (front ++ closing :: inner) ++ [last] := by
            rw [List.append_assoc]
            exact behind.trans (by rw [List.concat_eq_append]; rfl)
          have isBody := (List.append_inj' whole rfl).1
          have never := stretch.unclosed closing
            (isBody ▸ List.mem_append_right _ List.mem_cons_self)
          rw [isClosing] at never
          cases never

/-! ## What may be taken out -/

/-- The list without its blocks, and without one blank item directly before a
block at most. -/
inductive Cleared (markers : Markers Item) : List Item -> List Item -> Prop
  | nil : Cleared markers [] []
  | keep (item : Item) (rest left : List Item)
      (noBlock : forall (block : Stretch markers) (back : List Item), block.IsBlock ->
        item :: rest ≠ block.items ++ back)
      (behind : Cleared markers rest left) : Cleared markers (item :: rest) (item :: left)
  | block (block : Stretch markers) (rest left : List Item) (isBlock : block.IsBlock)
      (behind : Cleared markers rest left) : Cleared markers (block.items ++ rest) left
  | blank (item : Item) (block : Stretch markers) (rest left : List Item)
      (isBlank : markers.blank item = true) (isBlock : block.IsBlock)
      (behind : Cleared markers rest left) : Cleared markers (item :: (block.items ++ rest)) left

variable {list : List Item}

theorem Cleared.sublist {left : List Item} (cleared : Cleared markers list left) :
    left.Sublist list := by
  induction cleared with
  | nil => exact List.Sublist.refl _
  | keep item rest left noBlock behind ih => exact ih.cons_cons item
  | block block rest left isBlock behind ih =>
    exact ih.trans (List.sublist_append_right _ _)
  | blank item block rest left isBlank isBlock behind ih =>
    exact (ih.trans (List.sublist_append_right _ _)).cons item

def HasBlock (markers : Markers Item) (list : List Item) : Prop :=
  exists (front : List Item) (block : Stretch markers) (back : List Item),
    block.IsBlock ∧ list = front ++ (block.items ++ back)

/-- An opening item, and another before the next closing one. -/
def Straddled (markers : Markers Item) (list : List Item) : Prop :=
  exists (front : List Item) (stretch : Stretch markers) (back : List Item),
    stretch.straddles = true ∧ list = front ++ (stretch.items ++ back)

/-- Blocks with a blank item directly before each, and another block directly
behind the last. -/
inductive Stack (markers : Markers Item) : List Item -> Prop
  | touching (item : Item) (block next : Stretch markers) (rest : List Item)
      (isBlank : markers.blank item = true) (isBlock : block.IsBlock) (nextIsBlock : next.IsBlock) :
      Stack markers (item :: (block.items ++ (next.items ++ rest)))
  | spaced (item : Item) (block : Stretch markers) (rest : List Item)
      (isBlank : markers.blank item = true) (isBlock : block.IsBlock) (behind : Stack markers rest) :
      Stack markers (item :: (block.items ++ rest))

/-- A blank item directly before such blocks. -/
def Stacked (markers : Markers Item) (list : List Item) : Prop :=
  exists (front : List Item) (item : Item) (stack : List Item),
    markers.blank item = true ∧ Stack markers stack ∧ list = front ++ item :: stack

theorem Stacked.hasBlock (stacked : Stacked markers list) : HasBlock markers list := by
  rcases stacked with ⟨front, item, stack, _, isStack, rfl⟩
  cases isStack with
  | touching spacer block next rest isBlank isBlock nextIsBlock =>
    refine ⟨front ++ [item, spacer], block, next.items ++ rest, isBlock, ?_⟩
    rw [List.append_assoc]
    rfl
  | spaced spacer block rest isBlank isBlock behind =>
    refine ⟨front ++ [item, spacer], block, rest, isBlock, ?_⟩
    rw [List.append_assoc]
    rfl

/-! ## The pass -/

inductive Piece (markers : Markers Item) where
  | item (item : Item)
  | stretch (stretch : Stretch markers)

def Piece.isTaken : Piece markers -> Bool
  | .item _ => false
  | .stretch _ => true

/-- The list as the pass goes through it. -/
inductive Swept : List Item -> List (Piece markers) -> Prop
  | nil : Swept [] []
  | item (item : Item) (rest : List Item) (pieces : List (Piece markers))
      (unowned : forall (stretch : Stretch markers) (back : List Item),
        item :: rest ≠ stretch.items ++ back)
      (behind : Swept rest pieces) : Swept (item :: rest) (.item item :: pieces)
  | stretch (stretch : Stretch markers) (rest : List Item) (pieces : List (Piece markers))
      (behind : Swept rest pieces) : Swept (stretch.items ++ rest) (.stretch stretch :: pieces)

variable (markers) in
def endsBlank (kept : List Item) : Bool := kept.getLast?.any markers.blank

variable (markers) in
def popBlank (kept : List Item) : List Item :=
  if endsBlank markers kept then kept.dropLast else kept

/-- What is kept behind what is kept so far. -/
def sweep (kept : List Item) : List (Piece markers) -> List Item
  | [] => kept
  | .item item :: pieces => sweep (kept ++ [item]) pieces
  | .stretch _ :: pieces => sweep (popBlank markers kept) pieces

/-- How much the pass takes out that it may not.  The flag says that the last
item kept is the one directly before. -/
def excess (kept : List Item) (fresh : Bool) : List (Piece markers) -> Nat
  | [] => 0
  | .item item :: pieces => excess (kept ++ [item]) true pieces
  | .stretch stretch :: pieces =>
      (if stretch.straddles then 1 else 0) + (if !fresh && endsBlank markers kept then 1 else 0) +
        excess (popBlank markers kept) false pieces

/-! ## Every list is swept in one way -/

theorem exists_swept (list : List Item) : exists pieces : List (Piece markers), Swept list pieces := by
  induction bound : list.length using Nat.strongRecOn generalizing list with
  | _ length ih =>
    cases list with
    | nil => exact ⟨[], .nil⟩
    | cons item rest =>
      by_cases owned : exists (stretch : Stretch markers) (back : List Item),
          item :: rest = stretch.items ++ back
      · rcases owned with ⟨stretch, back, whole⟩
        have shorter : back.length < length := by
          rw [← bound, whole, List.length_append]
          exact Nat.lt_add_of_pos_left (Nat.succ_pos _)
        rcases ih _ shorter back rfl with ⟨pieces, swept⟩
        rw [whole]
        exact ⟨_, .stretch stretch back pieces swept⟩
      · rcases ih rest.length (by rw [← bound]; exact Nat.lt_succ_self _) rest rfl
          with ⟨pieces, swept⟩
        exact ⟨_, .item item rest pieces (fun stretch back whole => owned ⟨stretch, back, whole⟩) swept⟩

variable {pieces : List (Piece markers)}

/-- Where a stretch starts, it is taken. -/
theorem Swept.stretch_head {stretch : Stretch markers}
    (swept : Swept (stretch.items ++ rest) pieces) :
    exists behind, pieces = .stretch stretch :: behind ∧ Swept rest behind := by
  generalize whole : stretch.items ++ rest = list at swept
  cases swept with
  | nil => exact absurd (List.append_eq_nil_iff.mp whole).1 (List.cons_ne_nil _ _)
  | item item rest' pieces unowned behind => exact absurd whole.symm (unowned stretch rest)
  | stretch stretch' rest' pieces behind =>
    rcases Stretch.unique whole with ⟨rfl, rfl⟩
    exact ⟨pieces, rfl, behind⟩

/-- An item that opens nothing is kept. -/
theorem Swept.item_head (plain : markers.opens item = false) (swept : Swept (item :: rest) pieces) :
    exists behind, pieces = .item item :: behind ∧ Swept rest behind := by
  generalize whole : item :: rest = list at swept
  cases swept with
  | nil => cases whole
  | item item' rest' pieces unowned behind =>
    cases whole
    exact ⟨pieces, rfl, behind⟩
  | stretch stretch rest' pieces behind =>
    rw [stretch.items_append] at whole
    rw [(List.cons.inj whole).1, stretch.isOpening] at plain
    cases plain

/-- Items that open nothing are gone past one by one. -/
theorem Swept.plain_append (plain : forall item, item ∈ front -> markers.opens item = false)
    (behind : Swept rest pieces) :
    Swept (front ++ rest) (front.map .item ++ pieces) := by
  induction front with
  | nil => exact behind
  | cons item front ih =>
    refine .item item _ _ ?_ (ih fun i isIn => plain i (List.mem_cons_of_mem _ isIn))
    intro stretch back whole
    rw [stretch.items_append] at whole
    have never := plain item List.mem_cons_self
    rw [(List.cons.inj whole).1, stretch.isOpening] at never
    cases never

theorem sweep_items (kept front : List Item) (pieces : List (Piece markers)) :
    sweep kept (front.map .item ++ pieces) = sweep (kept ++ front) pieces := by
  induction front generalizing kept with
  | nil => rw [List.append_nil]; rfl
  | cons item front ih =>
    have later := ih (kept ++ [item])
    rw [List.append_assoc, List.singleton_append] at later
    exact later

/-- A stretch is taken exactly if there is one. -/
theorem Swept.taken_iff (swept : Swept list pieces) :
    (exists stretch, Piece.stretch stretch ∈ pieces) ↔
      exists front, exists stretch : Stretch markers, exists back,
        list = front ++ (stretch.items ++ back) := by
  induction swept with
  | nil =>
    constructor
    · rintro ⟨_, never⟩
      cases never
    · rintro ⟨front, stretch, back, whole⟩
      have empty := (List.append_eq_nil_iff.mp (List.append_eq_nil_iff.mp whole.symm).2).1
      exact absurd empty (List.cons_ne_nil _ _)
  | item item rest pieces unowned behind ih =>
    constructor
    · rintro ⟨stretch, isIn⟩
      rcases List.mem_cons.mp isIn with never | later
      · cases never
      · rcases ih.mp ⟨stretch, later⟩ with ⟨front, stretch, back, rfl⟩
        exact ⟨item :: front, stretch, back, rfl⟩
    · rintro ⟨front, stretch, back, whole⟩
      cases front with
      | nil => exact absurd whole (unowned stretch back)
      | cons first front =>
        rcases ih.mpr ⟨front, stretch, back, (List.cons.inj whole).2⟩ with
          ⟨stretch, later⟩
        exact ⟨stretch, List.mem_cons_of_mem _ later⟩
  | stretch stretch rest pieces behind ih =>
    exact ⟨fun _ => ⟨[], stretch, rest, rfl⟩, fun _ => ⟨stretch, List.mem_cons_self⟩⟩

/-! ## Nothing to take out is left -/

theorem endsBlank_iff {kept : List Item} :
    endsBlank markers kept = true ↔
      exists front last, markers.blank last = true ∧ kept = front ++ [last] := by
  unfold endsBlank
  rcases List.eq_nil_or_concat kept with rfl | ⟨front, last, rfl⟩
  · exact ⟨nofun, fun ⟨front, last, _, never⟩ =>
      absurd never.symm (List.append_ne_nil_of_right_ne_nil _ (List.cons_ne_nil _ _))⟩
  · rw [List.concat_eq_append, List.getLast?_concat]
    constructor
    · exact fun isBlank => ⟨front, last, isBlank, rfl⟩
    · rintro ⟨front', last', isBlank, same⟩
      have sameLast := (List.append_inj' same rfl).2
      rw [List.singleton_inj.mp sameLast]
      exact isBlank

theorem endsBlank_concat {kept : List Item} :
    endsBlank markers (kept ++ [item]) = markers.blank item := by
  rw [endsBlank, List.getLast?_concat]
  rfl

theorem popBlank_concat {kept : List Item} (isBlank : markers.blank item = true) :
    popBlank markers (kept ++ [item]) = kept := by
  rw [popBlank, endsBlank_concat, if_pos isBlank, List.dropLast_concat]

theorem popBlank_append (kept : List Item) :
    exists popped, kept = popBlank markers kept ++ popped ∧
      forall item, item ∈ popped -> markers.blank item = true := by
  unfold popBlank
  by_cases ends : endsBlank markers kept = true
  · rw [if_pos ends]
    rcases endsBlank_iff.mp ends with ⟨front, last, isBlank, rfl⟩
    refine ⟨[last], by rw [List.dropLast_concat], ?_⟩
    intro item isIn
    rw [List.mem_singleton.mp isIn]
    exact isBlank
  · rw [if_neg ends]
    exact ⟨[], (List.append_nil _).symm, fun _ never => absurd never List.not_mem_nil⟩

theorem Swept.sublist (swept : Swept list pieces) (kept : List Item) :
    (sweep kept pieces).Sublist (kept ++ list) := by
  induction swept generalizing kept with
  | nil =>
    rw [List.append_nil]
    exact List.Sublist.refl _
  | item item rest pieces unowned behind ih =>
    have later := ih (kept ++ [item])
    rwa [List.append_assoc, List.singleton_append] at later
  | stretch stretch rest pieces behind ih =>
    refine (ih _).trans (List.Sublist.append ?_ (List.sublist_append_right _ _))
    rcases @popBlank_append _ markers kept with ⟨popped, isKept, _⟩
    have atFront := List.sublist_append_left (popBlank markers kept) popped
    rwa [← isKept] at atFront

/-- What is kept stays up to the last item that is not blank. -/
theorem sweep_keeps (notBlank : markers.blank item = false) (front more : List Item)
    (pieces : List (Piece markers)) :
    exists more', sweep (front ++ item :: more) pieces = front ++ item :: more' := by
  induction pieces generalizing more with
  | nil => exact ⟨more, rfl⟩
  | cons piece pieces ih =>
    cases piece with
    | item next =>
      have later := ih (more ++ [next])
      rw [← List.cons_append, ← List.append_assoc] at later
      exact later
    | stretch stretch =>
      rcases List.eq_nil_or_concat more with rfl | ⟨init, last, rfl⟩
      · have ends : ¬ endsBlank markers (front ++ [item]) = true := by
          rw [endsBlank_concat, notBlank]
          decide
        rw [sweep, popBlank, if_neg ends]
        exact ih []
      · rw [List.concat_eq_append, ← List.cons_append, ← List.append_assoc, sweep, popBlank]
        split
        · rw [List.dropLast_concat]
          exact ih init
        · rw [List.append_assoc, List.cons_append]
          exact ih (init ++ [last])

/-- No stretch starts in what is kept, whatever it runs on into. -/
def Settled (markers : Markers Item) (kept rest : List Item) : Prop :=
  forall (front : List Item) (stretch : Stretch markers) (back : List Item),
    kept ++ rest = front ++ (stretch.items ++ back) -> kept.length ≤ front.length

theorem Settled.keep {kept : List Item} (settled : Settled markers kept (item :: rest))
    (unowned : forall (stretch : Stretch markers) (back : List Item),
      item :: rest ≠ stretch.items ++ back) : Settled markers (kept ++ [item]) rest := by
  intro front stretch back whole
  rw [List.append_assoc, List.singleton_append] at whole
  have atLeast := settled front stretch back whole
  rcases Nat.lt_or_eq_of_le atLeast with longer | same
  · rw [List.length_append]
    exact longer
  · exact absurd (List.append_inj whole same).2 (unowned stretch back)

/-- A stretch that ran on from before the one taken would have been taken whole. -/
theorem Settled.take {kept : List Item} {stretch : Stretch markers}
    (settled : Settled markers kept (stretch.items ++ rest)) :
    Settled markers (popBlank markers kept) rest := by
  rcases @popBlank_append _ markers kept with ⟨popped, isKept, blanks⟩
  generalize popBlank markers kept = left at isKept
  subst isKept
  intro front other back whole
  by_contra shorter
  have inLeft : exists item after, left = front ++ item :: after := by
    rcases List.append_eq_append_iff.mp whole with ⟨more, isFront, _⟩ | ⟨more, isLeft, _⟩
    · refine absurd ?_ shorter
      rw [isFront, List.length_append]
      exact Nat.le_add_right _ _
    · cases more with
      | nil =>
        rw [List.append_nil] at isLeft
        exact absurd (Nat.le_of_eq (congrArg List.length isLeft)) shorter
      | cons item after => exact ⟨item, after, isLeft⟩
  rcases inLeft with ⟨item, after, rfl⟩
  rw [other.items_append, List.append_assoc, List.append_cancel_left_eq, List.cons_append] at whole
  rcases List.cons.inj whole with ⟨rfl, behind⟩
  have longer : ¬ (front ++ other.opening :: after ++ popped).length ≤ front.length := by
    simp only [List.length_append, List.length_cons]
    omega
  have parts : (exists more, after = other.body ++ other.closing :: more) ∨
      forall item, item ∈ after -> markers.closes item = false := by
    rcases List.append_eq_append_iff.mp behind with ⟨more, isBody, _⟩ | ⟨more, isAfter, isBack⟩
    · exact .inr fun item isIn => other.unclosed item (isBody ▸ List.mem_append_left _ isIn)
    · cases more with
      | nil =>
        rw [List.append_nil] at isAfter
        exact .inr fun item isIn => other.unclosed item (isAfter ▸ isIn)
      | cons closing more =>
        rcases List.cons.inj isBack with ⟨rfl, _⟩
        exact .inl ⟨more, isAfter⟩
  rcases parts with ⟨more, rfl⟩ | unclosed
  · refine longer (settled front other (more ++ popped ++ (stretch.items ++ rest)) ?_)
    rw [other.items_append]
    simp only [List.append_assoc, List.cons_append]
  · -- It runs on over the stretch that is taken, and the two are one.
    have noClosing : forall item, item ∈ after ++ (popped ++ stretch.opening :: stretch.body) ->
        markers.closes item = false := by
      intro item isIn
      rcases List.mem_append.mp isIn with inAfter | isIn
      · exact unclosed item inAfter
      · rcases List.mem_append.mp isIn with inPopped | isIn
        · exact (markers.plain_of_blank item (blanks item inPopped)).2
        · rcases List.mem_cons.mp isIn with rfl | inBody
          · exact markers.closes_of_opens _ stretch.isOpening
          · exact stretch.unclosed item inBody
    have isOwned : markers.owned (after ++ (popped ++ stretch.opening :: stretch.body)) = true := by
      have regroup : after ++ (popped ++ stretch.opening :: stretch.body) =
          (after ++ popped ++ [stretch.opening]) ++ stretch.body := by
        simp only [List.append_assoc, List.singleton_append]
      rw [regroup]
      exact markers.owned_append _ _ stretch.isOwned
    let both : Stretch markers :=
      ⟨other.opening, _, stretch.closing, other.isOpening, stretch.isClosing, noClosing, isOwned⟩
    refine longer (settled front both rest ?_)
    rw [both.items_append, stretch.items_append]
    simp only [both, List.append_assoc, List.cons_append]

/-- What the pass leaves has no stretch. -/
theorem Swept.settled {kept : List Item} (swept : Swept list pieces)
    (settled : Settled markers kept list) :
    Settled markers (sweep kept pieces) [] := by
  induction swept generalizing kept with
  | nil => exact settled
  | item item rest pieces unowned behind ih =>
    exact ih (settled.keep unowned)
  | stretch stretch rest pieces behind ih =>
    exact ih settled.take

/-! ## What is taken out beyond what may be -/

theorem popBlank_length (kept : List Item) (fresh : Bool) :
    (popBlank markers kept).length + (if !fresh && endsBlank markers kept then 1 else 0) ≤
      kept.length := by
  rcases Bool.eq_false_or_eq_true (endsBlank markers kept) with ends | ends
  · rcases endsBlank_iff.mp ends with ⟨front, last, _, rfl⟩
    rw [popBlank, if_pos ends, List.dropLast_concat, List.length_append, List.length_singleton]
    split <;> omega
  · rw [popBlank, ends, Bool.and_false]
    exact Nat.le_refl _

/-- Behind a closing item the clearing starts anew. -/
theorem Cleared.split {left : List Item} {closing : Item} (cleared : Cleared markers list left)
    (isClosing : markers.closes closing = true) (whole : list = front ++ closing :: rest) :
    exists before after, left = before ++ after ∧ Cleared markers rest after := by
  induction cleared generalizing front with
  | nil => exact absurd whole.symm (List.append_ne_nil_of_right_ne_nil _ (List.cons_ne_nil _ _))
  | keep item rest' left noBlock behind ih =>
    cases front with
    | nil =>
      rcases List.cons.inj whole with ⟨_, rfl⟩
      exact ⟨[item], left, rfl, behind⟩
    | cons first front =>
      rcases ih (List.cons.inj whole).2 with ⟨before, after, rfl, cleared⟩
      exact ⟨item :: before, after, rfl, cleared⟩
  | block block rest' left isBlock behind ih =>
    rcases Stretch.closing_inside isClosing whole with ⟨more, later⟩ | rfl
    · exact ih later
    · exact ⟨[], left, rfl, behind⟩
  | blank item block rest' left isBlank isBlock behind ih =>
    cases front with
    | nil =>
      rcases List.cons.inj whole with ⟨rfl, _⟩
      exact absurd isClosing (by rw [(markers.plain_of_blank _ isBlank).2]; decide)
    | cons first front =>
      rcases Stretch.closing_inside isClosing (List.cons.inj whole).2 with ⟨more, later⟩ | rfl
      · exact ih later
      · exact ⟨[], left, rfl, behind⟩

/-- Only the opening item of a straddling stretch is sure to stay. -/
theorem Cleared.behind {stretch : Stretch markers} {left : List Item}
    (cleared : Cleared markers (stretch.items ++ rest) left) :
    exists before after, left = before ++ after ∧ Cleared markers rest after ∧
      (if stretch.straddles then 1 else 0) ≤ before.length := by
  generalize whole : stretch.items ++ rest = list at cleared
  cases cleared with
  | nil => exact absurd (List.append_eq_nil_iff.mp whole).1 (List.cons_ne_nil _ _)
  | keep item rest' left noBlock behind =>
    rw [stretch.items_append] at whole
    rcases Cleared.split behind stretch.isClosing (List.cons.inj whole).2.symm with
      ⟨before, after, rfl, cleared⟩
    refine ⟨item :: before, after, rfl, cleared, ?_⟩
    split
    · exact Nat.succ_le_succ (Nat.zero_le _)
    · exact Nat.zero_le _
  | block block rest' left isBlock behind =>
    rcases Stretch.unique whole with ⟨rfl, rfl⟩
    exact ⟨[], _, rfl, behind, Nat.le_of_eq (if_neg (Bool.eq_false_iff.mp isBlock))⟩
  | blank item block rest' left isBlank isBlock behind =>
    rw [stretch.items_append] at whole
    have never := (markers.plain_of_blank item isBlank).1
    rw [← (List.cons.inj whole).1, stretch.isOpening] at never
    cases never

/-- However the list is cleared, the pass leaves less by what it takes out in
excess. -/
theorem Swept.excess_le {left : List Item} (swept : Swept list pieces)
    (cleared : Cleared markers list left) {kept : List Item} {room : Nat}
    (atMost : kept.length ≤ room) (fresh : Bool) :
    (sweep kept pieces).length + excess kept fresh pieces ≤ room + left.length := by
  induction bound : list.length using Nat.strongRecOn
    generalizing list left pieces kept room fresh with
  | _ length ih =>
    subst bound
    cases swept with
    | nil =>
      cases cleared
      exact atMost
    | item item rest pieces unowned behind =>
      cases cleared with
      | keep _ _ left noBlock behind' =>
        have longer : (kept ++ [item]).length ≤ room + 1 := by
          rw [List.length_append]
          exact Nat.succ_le_succ atMost
        have later := ih _ (Nat.lt_succ_self _) behind behind' longer true rfl
        rw [List.length_cons]
        rw [Nat.add_right_comm] at later
        exact later
      | block block rest' left isBlock behind' => exact absurd rfl (unowned block rest')
      | blank _ block rest' left isBlank isBlock behind' =>
        rcases behind.stretch_head with ⟨pieces, rfl, sweptOn⟩
        have shorter : rest'.length < (item :: (block.items ++ rest')).length := by
          rw [List.length_cons, List.length_append]
          omega
        have later := ih _ shorter sweptOn behind' atMost false rfl
        rw [sweep, sweep, excess, excess, popBlank_concat isBlank, if_neg (Bool.eq_false_iff.mp isBlock),
          Bool.not_true, Bool.false_and, if_neg Bool.false_ne_true, Nat.add_zero, Nat.zero_add]
        exact later
    | stretch stretch rest pieces behind =>
      rcases cleared.behind with ⟨front, back, rfl, cleared, straddling⟩
      have popped := @popBlank_length _ markers kept fresh
      have shorter : rest.length < (stretch.items ++ rest).length := by
        rw [stretch.items_append, List.length_cons, List.length_append, List.length_cons]
        omega
      have room' : (popBlank markers kept).length ≤
          room - (if !fresh && endsBlank markers kept then 1 else 0) := by omega
      have later := ih _ shorter behind cleared room' false rfl
      rw [List.length_append, sweep, excess]
      omega

/-- Without excess the pass clears the list.  The second case is that of a blank
item that is directly before. -/
theorem Swept.cleared (swept : Swept list pieces) {kept : List Item} {fresh : Bool}
    (none : excess kept fresh pieces = 0) :
    (exists left, sweep kept pieces = kept ++ left ∧ Cleared markers list left) ∨
      exists front item, exists block : Stretch markers, exists rest left,
        fresh = true ∧ kept = front ++ [item] ∧ markers.blank item = true ∧ block.IsBlock ∧
          list = block.items ++ rest ∧ sweep kept pieces = front ++ left ∧
            Cleared markers rest left := by
  induction swept generalizing kept fresh with
  | nil => exact .inl ⟨[], (List.append_nil _).symm, .nil⟩
  | item item rest pieces unowned behind ih =>
    rcases @ih (kept ++ [item]) true none with ⟨left, isLeft, cleared⟩ |
      ⟨front, last, block, rest', left, _, isKept, isBlank, isBlock, rfl, isLeft, cleared⟩
    · refine .inl ⟨item :: left, ?_, .keep item rest left (fun block back _ => unowned block back) cleared⟩
      rw [sweep, isLeft, List.append_assoc, List.singleton_append]
    · rcases List.append_inj' isKept rfl with ⟨rfl, same⟩
      rw [← List.singleton_inj.mp same] at isBlank
      exact .inl ⟨left, isLeft, .blank item block rest' left isBlank isBlock cleared⟩
  | stretch stretch rest pieces behind ih =>
    have parts := Nat.add_eq_zero_iff.mp none
    have flags := Nat.add_eq_zero_iff.mp parts.1
    have isBlock : stretch.IsBlock := by
      refine Bool.eq_false_iff.mpr fun straddles => ?_
      rw [if_pos straddles] at flags
      exact absurd flags.1 Nat.one_ne_zero
    rcases ih parts.2 with ⟨left, isLeft, cleared⟩ | ⟨_, _, _, _, _, never, _⟩
    · by_cases ends : endsBlank markers kept = true
      · rcases endsBlank_iff.mp ends with ⟨front, item, isBlank, rfl⟩
        have isFresh : fresh = true := by
          cases fresh with
          | true => rfl
          | false =>
            rw [ends] at flags
            exact absurd flags.2 Nat.one_ne_zero
        have isLeft' : sweep (front ++ [item]) (.stretch stretch :: pieces) = front ++ left := by
          rw [sweep, popBlank_concat isBlank]
          rwa [popBlank_concat isBlank] at isLeft
        exact .inr ⟨front, item, stretch, rest, left, isFresh, rfl, isBlank, isBlock, rfl, isLeft',
          cleared⟩
      · rw [popBlank, if_neg ends] at isLeft
        refine .inl ⟨left, ?_, .block stretch rest left isBlock cleared⟩
        rw [sweep, popBlank, if_neg ends, isLeft]
    · cases never

/-! ## Where that happens -/

/-- What was gone through and what is kept of it.  The flag says that the last
item is the one directly before. -/
inductive Trail (markers : Markers Item) : List Item -> List Item -> Bool -> Prop
  | start : Trail markers [] [] true
  | keep {done kept : List Item} {fresh : Bool} (trail : Trail markers done kept fresh) (item : Item) :
      Trail markers (done ++ [item]) (kept ++ [item]) true
  | spaced {done kept : List Item} {fresh : Bool} (trail : Trail markers done kept fresh) (item : Item)
      (block : Stretch markers) (isBlank : markers.blank item = true) (isBlock : block.IsBlock) :
      Trail markers (done ++ item :: block.items) kept false
  | tight {done kept : List Item} {fresh : Bool} (trail : Trail markers done kept fresh)
      (block : Stretch markers) (isBlock : block.IsBlock)
      (notBlank : fresh = true -> endsBlank markers kept = false) :
      Trail markers (done ++ block.items) kept false

/-- Blocks behind which a block makes a stack. -/
def Opens (markers : Markers Item) (blocks : List Item) : Prop :=
  (forall (next : Stretch markers) (rest : List Item), next.IsBlock ->
    Stack markers (blocks ++ (next.items ++ rest))) ∧
  forall rest, Stack markers rest -> Stack markers (blocks ++ rest)

theorem Opens.spaced {blocks : List Item} (opens : Opens markers blocks) {block : Stretch markers}
    (isBlank : markers.blank item = true) (isBlock : block.IsBlock) :
    Opens markers (blocks ++ item :: block.items) := by
  constructor
  · intro next rest nextIsBlock
    rw [List.append_assoc]
    exact opens.2 _ (.touching item block next rest isBlank isBlock nextIsBlock)
  · intro rest stack
    rw [List.append_assoc]
    exact opens.2 _ (.spaced item block rest isBlank isBlock stack)

theorem Opens.tight {blocks : List Item} (opens : Opens markers blocks) {block : Stretch markers}
    (isBlock : block.IsBlock) : Opens markers (blocks ++ block.items) := by
  constructor
  · intro next rest _
    rw [List.append_assoc]
    exact opens.1 block _ isBlock
  · intro rest _
    rw [List.append_assoc]
    exact opens.1 block rest isBlock

theorem opens_nil_spaced {block : Stretch markers} (isBlank : markers.blank item = true)
    (isBlock : block.IsBlock) : Opens markers (item :: block.items) :=
  ⟨fun next rest nextIsBlock => .touching item block next rest isBlank isBlock nextIsBlock,
    fun rest stack => .spaced item block rest isBlank isBlock stack⟩

/-- Behind a blank item that is kept last there are spaced blocks alone. -/
theorem Trail.blank_last {done kept : List Item} {fresh : Bool}
    (trail : Trail markers done kept fresh) (isKept : kept = front ++ [item])
    (isBlank : markers.blank item = true) :
    (fresh = true ∧ exists before, done = before ++ [item]) ∨
      (fresh = false ∧ exists before blocks, done = before ++ item :: blocks ∧ Opens markers blocks) := by
  induction trail generalizing front with
  | start => exact absurd isKept.symm (List.append_ne_nil_of_right_ne_nil _ (List.cons_ne_nil _ _))
  | keep trail last ih =>
    rcases List.append_inj' isKept rfl with ⟨_, same⟩
    rw [List.singleton_inj.mp same]
    exact .inl ⟨rfl, _, rfl⟩
  | spaced trail last block lastIsBlank isBlock ih =>
    refine .inr ⟨rfl, ?_⟩
    rcases ih isKept with ⟨_, before, rfl⟩ | ⟨_, before, blocks, rfl, opens⟩
    · exact ⟨before, last :: block.items, by rw [List.append_assoc, List.singleton_append],
        opens_nil_spaced lastIsBlank isBlock⟩
    · exact ⟨before, blocks ++ last :: block.items, by rw [List.append_assoc, List.cons_append],
        opens.spaced lastIsBlank isBlock⟩
  | tight trail block isBlock notBlank ih =>
    refine .inr ⟨rfl, ?_⟩
    rcases ih isKept with ⟨isFresh, _⟩ | ⟨_, before, blocks, rfl, opens⟩
    · have never := notBlank isFresh
      rw [isKept, endsBlank_concat, isBlank] at never
      cases never
    · exact ⟨before, blocks ++ block.items, by rw [List.append_assoc, List.cons_append],
        opens.tight isBlock⟩

theorem Trail.last_kept {done kept : List Item} (trail : Trail markers done kept true)
    (isKept : kept = front ++ [item]) :
    exists before fresh, done = before ++ [item] ∧ Trail markers before front fresh := by
  cases trail with
  | start => exact absurd isKept.symm (List.append_ne_nil_of_right_ne_nil _ (List.cons_ne_nil _ _))
  | keep trail last =>
    rcases List.append_inj' isKept rfl with ⟨rfl, same⟩
    rw [List.singleton_inj.mp same]
    exact ⟨_, _, rfl, trail⟩

/-- Where the pass takes too much, a stretch straddles or blocks are stacked. -/
theorem Swept.straddled_or_stacked {done kept : List Item} {fresh : Bool}
    (swept : Swept list pieces) (trail : Trail markers done kept fresh)
    (some : excess kept fresh pieces ≠ 0) :
    Straddled markers (done ++ list) ∨ Stacked markers (done ++ list) := by
  induction swept generalizing done kept fresh with
  | nil => exact absurd rfl some
  | item item rest pieces unowned behind ih =>
    have later := ih (trail.keep item) some
    rw [List.append_assoc, List.singleton_append] at later
    exact later
  | stretch stretch rest pieces behind ih =>
    by_cases straddles : stretch.straddles = true
    · exact .inl ⟨done, stretch, rest, straddles, rfl⟩
    · have isBlock : stretch.IsBlock := Bool.eq_false_iff.mpr straddles
      rw [excess, if_neg straddles, Nat.zero_add] at some
      by_cases ends : endsBlank markers kept = true
      · rcases endsBlank_iff.mp ends with ⟨front, item, isBlank, rfl⟩
        rw [popBlank_concat isBlank] at some
        cases fresh with
        | true =>
          rcases trail.last_kept rfl with ⟨before, _, rfl, earlier⟩
          have later := ih (earlier.spaced item stretch isBlank isBlock) (by
            rwa [Bool.not_true, Bool.false_and, if_neg Bool.false_ne_true, Nat.zero_add] at some)
          rw [List.append_assoc, List.cons_append] at later
          rwa [List.append_assoc, List.singleton_append]
        | false =>
          rcases trail.blank_last rfl isBlank with ⟨never, _⟩ | ⟨_, before, blocks, rfl, opens⟩
          · cases never
          · refine .inr ⟨before, item, _, isBlank, opens.1 stretch rest isBlock, ?_⟩
            rw [List.append_assoc, List.cons_append]
      · rw [Bool.eq_false_iff.mpr ends, Bool.and_false, if_neg Bool.false_ne_true, Nat.zero_add,
          popBlank, if_neg ends] at some
        have later := ih (trail.tight stretch isBlock
          fun _ => Bool.eq_false_iff.mpr ends) some
        rwa [List.append_assoc] at later

theorem excess_ne_zero_of_straddles {stretch : Stretch markers}
    (straddles : stretch.straddles = true) (isIn : .stretch stretch ∈ pieces) (kept : List Item)
    (fresh : Bool) : excess kept fresh pieces ≠ 0 := by
  induction pieces generalizing kept fresh with
  | nil => cases isIn
  | cons piece pieces ih =>
    rcases List.mem_cons.mp isIn with rfl | later
    · rw [excess, if_pos straddles]
      omega
    · cases piece with
      | item item => exact ih later _ _
      | stretch other =>
        have more := ih later (popBlank markers kept) false
        rw [excess]
        omega

/-- An opening item inside a stretch that is taken makes it straddle. -/
theorem Swept.opening_taken (swept : Swept list pieces) {back : List Item}
    {stretch : Stretch markers} (whole : list = front ++ (stretch.items ++ back)) :
    (exists other : Stretch markers, .stretch other ∈ pieces ∧ other.straddles = true) ∨
      .stretch stretch ∈ pieces := by
  induction swept generalizing front with
  | nil =>
    have empty := (List.append_eq_nil_iff.mp (List.append_eq_nil_iff.mp whole.symm).2).1
    exact absurd empty (List.cons_ne_nil _ _)
  | item item rest pieces unowned behind ih =>
    cases front with
    | nil => exact absurd whole (unowned stretch back)
    | cons first front =>
      rcases ih (List.cons.inj whole).2 with ⟨other, isIn, straddles⟩ | isIn
      · exact .inl ⟨other, List.mem_cons_of_mem _ isIn, straddles⟩
      · exact .inr (List.mem_cons_of_mem _ isIn)
  | stretch other rest pieces behind ih =>
    rw [stretch.items_append] at whole
    rcases Stretch.inside (markers.closes_of_opens _ stretch.isOpening) whole with
      ⟨more, rfl, isRest⟩ | ⟨rfl, _⟩ | ⟨before, after, _, isBody, _⟩
    · rw [← stretch.items_append] at isRest
      rcases ih isRest with ⟨other, isIn, straddles⟩ | isIn
      · exact .inl ⟨other, List.mem_cons_of_mem _ isIn, straddles⟩
      · exact .inr (List.mem_cons_of_mem _ isIn)
    · rw [List.nil_append, ← stretch.items_append] at whole
      rcases Stretch.unique whole with ⟨rfl, _⟩
      exact .inr List.mem_cons_self
    · have isIn : stretch.opening ∈ other.body := isBody ▸ List.mem_append_right _ List.mem_cons_self
      exact .inl ⟨other, List.mem_cons_self,
        List.any_eq_true.mpr ⟨stretch.opening, isIn, stretch.isOpening⟩⟩

/-- A stack has its first block behind a blank item. -/
theorem Stack.first {stack : List Item} (isStack : Stack markers stack) :
    exists item, exists block : Stretch markers, exists rest,
      markers.blank item = true ∧ stack = item :: (block.items ++ rest) := by
  cases isStack with
  | touching item block next rest isBlank isBlock nextIsBlock => exact ⟨item, block, _, isBlank, rfl⟩
  | spaced item block rest isBlank isBlock behind => exact ⟨item, block, rest, isBlank, rfl⟩

/-- Behind a blank item that is kept, a stack loses it. -/
theorem Swept.stack_excess {stack : List Item} (isStack : Stack markers stack) {last : Item}
    (isBlank : markers.blank last = true) (swept : Swept stack pieces) (front : List Item)
    (fresh : Bool) : excess (front ++ [last]) fresh pieces ≠ 0 := by
  induction isStack generalizing pieces fresh with
  | touching item block next rest itemIsBlank isBlock nextIsBlock =>
    rcases swept.item_head (markers.plain_of_blank item itemIsBlank).1 with ⟨_, rfl, atBlock⟩
    rcases atBlock.stretch_head with ⟨_, rfl, atNext⟩
    rcases atNext.stretch_head with ⟨_, rfl, _⟩
    have ends : (!false && endsBlank markers (front ++ [last])) = true := by
      rw [endsBlank_concat, isBlank]
      rfl
    rw [excess, excess, popBlank_concat itemIsBlank, excess, if_pos ends]
    omega
  | spaced item block rest itemIsBlank isBlock behind ih =>
    rcases swept.item_head (markers.plain_of_blank item itemIsBlank).1 with ⟨_, rfl, atBlock⟩
    rcases atBlock.stretch_head with ⟨_, rfl, sweptOn⟩
    have more := ih sweptOn false
    rw [excess, excess, popBlank_concat itemIsBlank]
    omega

/-- A stack behind a blank item is excess, wherever it stands. -/
theorem Swept.stacked_excess (swept : Swept list pieces) {stack : List Item}
    (isBlank : markers.blank item = true) (isStack : Stack markers stack)
    (whole : list = front ++ item :: stack) (kept : List Item) (fresh : Bool) :
    excess kept fresh pieces ≠ 0 := by
  induction swept generalizing front kept fresh with
  | nil => exact absurd whole.symm (List.append_ne_nil_of_right_ne_nil _ (List.cons_ne_nil _ _))
  | item first rest pieces unowned behind ih =>
    cases front with
    | nil =>
      rcases List.cons.inj whole with ⟨rfl, rfl⟩
      exact Swept.stack_excess isStack isBlank behind kept true
    | cons _ front => exact ih (List.cons.inj whole).2 _ _
  | stretch stretch rest pieces behind ih =>
    have plain := markers.plain_of_blank item isBlank
    rcases Stretch.inside plain.2 whole with ⟨more, _, isRest⟩ | ⟨_, isOpening⟩ |
      ⟨before, after, _, isBody, isStack'⟩
    · have more := ih isRest (popBlank markers kept) false
      rw [excess]
      omega
    · rw [isOpening, stretch.isOpening] at plain
      exact nomatch plain.1
    · -- The stretch runs on over the first block of the stack.
      rcases isStack.first with ⟨spacer, block, rest', spacerIsBlank, isStack''⟩
      rw [isStack'', block.items_append] at isStack'
      have inside : block.opening ∈ after := by
        cases after with
        | nil =>
          have closes := (markers.plain_of_blank spacer spacerIsBlank).2
          rw [(List.cons.inj isStack').1, stretch.isClosing] at closes
          cases closes
        | cons first after =>
          have behindSpacer := (List.cons.inj isStack').2
          cases after with
          | nil =>
            have closes := markers.closes_of_opens _ block.isOpening
            rw [(List.cons.inj behindSpacer).1, stretch.isClosing] at closes
            cases closes
          | cons second after =>
            rw [(List.cons.inj behindSpacer).1]
            exact List.mem_cons_of_mem _ List.mem_cons_self
      have inBody : block.opening ∈ stretch.body :=
        isBody ▸ List.mem_append_right _ (List.mem_cons_of_mem _ inside)
      exact excess_ne_zero_of_straddles (List.any_eq_true.mpr ⟨_, inBody, block.isOpening⟩)
        List.mem_cons_self kept fresh

/-- The pass clears the list exactly if no stretch straddles and no blocks are
stacked. -/
theorem Swept.cleared_iff (swept : Swept list pieces) :
    Cleared markers list (sweep [] pieces) ↔
      ¬ Straddled markers list ∧ ¬ Stacked markers list := by
  constructor
  · intro cleared
    have none : excess [] true pieces = 0 := by
      have room : ([] : List Item).length ≤ 0 := Nat.le_refl 0
      have atMost := swept.excess_le cleared room true
      omega
    constructor
    · rintro ⟨front, stretch, back, straddles, whole⟩
      rcases swept.opening_taken whole with ⟨other, isIn, otherStraddles⟩ | isIn
      · exact excess_ne_zero_of_straddles otherStraddles isIn [] true none
      · exact excess_ne_zero_of_straddles straddles isIn [] true none
    · rintro ⟨front, item, stack, isBlank, isStack, whole⟩
      exact swept.stacked_excess isBlank isStack whole [] true none
  · rintro ⟨notStraddled, notStacked⟩
    have none : excess [] true pieces = 0 := by
      by_contra some
      rcases swept.straddled_or_stacked .start some with straddled | stacked
      · exact notStraddled straddled
      · exact notStacked stacked
    rcases swept.cleared none with ⟨left, isLeft, cleared⟩ | ⟨front, item, _, _, _, _, isKept, _⟩
    · rw [isLeft]
      exact cleared
    · exact absurd isKept.symm (List.append_ne_nil_of_right_ne_nil _ (List.cons_ne_nil _ _))

end MarkedBlocks
end RocmCli
