import Mathlib.Data.Nat.Log
import Mathlib.Tactic.Ring

namespace RocmCli
namespace Scan

/-!
# Scanners over bytes

A scanner reads forward through a byte string and keeps only a position.  It
reads bytes, which must be there, and it jumps over bytes, which need not be:
the position may pass the end of the data.  Little-endian numbers come first,
then layouts, which say how something is laid out in bytes and how many of
these bytes at its end are only jumped over, and then the rules that say what
a scanner finds from what its parts find.
-/

abbrev Bytes := List UInt8

/-! ## Little-endian numbers -/

def leBytes : Nat -> Nat -> Bytes
  | 0, _ => []
  | width + 1, number => UInt8.ofNat number :: leBytes width (number / 256)

def leNat : Bytes -> Nat
  | [] => 0
  | byte :: rest => byte.toNat + 256 * leNat rest

@[simp] theorem length_leBytes (width number : Nat) : (leBytes width number).length = width := by
  induction width generalizing number with
  | zero => rfl
  | succ width ih => rw [leBytes, List.length_cons, ih]

theorem leNat_lt (bytes : Bytes) : leNat bytes < 256 ^ bytes.length := by
  induction bytes with
  | nil => simp [leNat]
  | cons byte rest ih =>
      have small : byte.toNat < 256 := byte.toNat_lt
      rw [leNat, List.length_cons, Nat.pow_succ]
      omega

theorem leBytes_leNat (bytes : Bytes) : leBytes bytes.length (leNat bytes) = bytes := by
  induction bytes with
  | nil => rfl
  | cons byte rest ih =>
      have small : byte.toNat < 256 := byte.toNat_lt
      have high : (byte.toNat + 256 * leNat rest) / 256 = leNat rest := by omega
      have low : UInt8.ofNat (byte.toNat + 256 * leNat rest) = byte := by
        apply UInt8.toNat_inj.mp
        rw [UInt8.toNat_ofNat']
        omega
      rw [List.length_cons, leNat, leBytes, high, low, ih]

variable {width : Nat}

theorem leNat_leBytes {number : Nat} (small : number < 256 ^ width) :
    leNat (leBytes width number) = number := by
  induction width generalizing number with
  | zero =>
      have zero : number = 0 := by simpa using small
      simp [leBytes, leNat, zero]
  | succ width ih =>
      have rest : number / 256 < 256 ^ width := by
        apply Nat.div_lt_of_lt_mul
        rwa [Nat.mul_comm, ← Nat.pow_succ]
      rw [leBytes, leNat, ih rest, UInt8.toNat_ofNat']
      omega

theorem pow_bytes (width : Nat) : 256 ^ width = 2 ^ (8 * width) := by
  rw [Nat.pow_mul]

variable {bytes : Bytes}

/-- The number in the bytes, as a bit pattern of their width. -/
theorem exists_bits (hasWidth : bytes.length = width) :
    exists bits : BitVec (8 * width), leBytes width bits.toNat = bytes := by
  subst hasWidth
  have small : leNat bytes < 2 ^ (8 * bytes.length) := pow_bytes bytes.length ▸ leNat_lt bytes
  have same : (BitVec.ofNat (8 * bytes.length) (leNat bytes)).toNat = leNat bytes := by
    rw [BitVec.toNat_ofNat, Nat.mod_eq_of_lt small]
  exact ⟨BitVec.ofNat (8 * bytes.length) (leNat bytes), by rw [same, leBytes_leNat]⟩

theorem leNat_bits (bits : BitVec (8 * width)) : leNat (leBytes width bits.toNat) = bits.toNat :=
  leNat_leBytes (pow_bytes width ▸ bits.isLt)

theorem bmod_shifted {number half shift whole : Nat} (inside : number < half)
    (product : half * shift = whole) (positive : 0 < shift) :
    Int.bmod (number * shift : Nat) whole =
      (if 2 * number < half then (number : Int) else number - half) * shift := by
  have wholeInt : (half : Int) * shift = whole := by exact_mod_cast product
  have positiveInt : (0 : Int) < shift := by exact_mod_cast positive
  split
  next low =>
    have lowInt : (number : Int) * 2 < half := by omega
    rw [Int.natCast_mul]
    apply Int.bmod_eq_of_le_mul_two
    · have least : (0 : Int) ≤ number * shift := Int.mul_nonneg (by omega) positiveInt.le
      omega
    · calc (number : Int) * shift * 2 = number * 2 * shift := by ring
        _ < half * shift := Int.mul_lt_mul_of_pos_right lowInt positiveInt
        _ = whole := wholeInt
  next high =>
    have highInt : -(half : Int) ≤ (number - half) * 2 := by omega
    have below : ((number : Int) - half) * 2 < half := by omega
    have moved : ((number * shift : Nat) : Int) - whole = (number - half) * shift := by
      rw [Int.natCast_mul, ← wholeInt]
      ring
    rw [← Int.sub_bmod_right, moved]
    apply Int.bmod_eq_of_le_mul_two
    · calc -(whole : Int) = -half * shift := by rw [← wholeInt]; ring
        _ ≤ (number - half) * 2 * shift := Int.mul_le_mul_of_nonneg_right highInt positiveInt.le
        _ = (number - half) * shift * 2 := by ring
    · calc ((number : Int) - half) * shift * 2 = (number - half) * 2 * shift := by ring
        _ < half * shift := Int.mul_lt_mul_of_pos_right below positiveInt
        _ = whole := wholeInt

/-- Moving a value to the top of 64 bits and back extends its sign. -/
theorem shift_bits (narrow : width ≤ 64) (bits : BitVec width) :
    Int.bmod (bits.toNat * 2 ^ (64 - width) : Nat) (2 ^ 64) / 2 ^ (64 - width) =
      bits.toInt := by
  have product : 2 ^ width * 2 ^ (64 - width) = 2 ^ 64 := by
    rw [← Nat.pow_add, Nat.add_sub_cancel' narrow]
  have nonzero : ((2 ^ (64 - width) : Nat) : Int) ≠ 0 := by
    exact_mod_cast Nat.ne_of_gt (Nat.two_pow_pos (64 - width))
  have shifted := bmod_shifted bits.isLt product (Nat.two_pow_pos _)
  rw [← BitVec.toInt_eq_toNat_cond] at shifted
  rw [shifted]
  exact_mod_cast Int.mul_ediv_cancel _ nonzero

theorem length_flatMap_leBytes (elements : List (BitVec (8 * width))) :
    (elements.flatMap fun bits => leBytes width bits.toNat).length = elements.length * width := by
  induction elements with
  | nil => simp
  | cons bits rest ih =>
      rw [List.flatMap_cons, List.length_append, length_leBytes, ih,
        List.length_cons]
      ring

/-- Bytes that are a whole number of elements long are elements. -/
theorem exists_elements {count : Nat} (hasLength : bytes.length = count * width) :
    exists elements : List (BitVec (8 * width)), elements.length = count ∧
      (elements.flatMap fun bits => leBytes width bits.toNat) = bytes := by
  induction count generalizing bytes with
  | zero =>
      rw [Nat.zero_mul, List.length_eq_zero_iff] at hasLength
      exact ⟨[], rfl, by simp [hasLength]⟩
  | succ count ih =>
      rw [Nat.succ_mul] at hasLength
      have first : (bytes.take width).length = width := by
        rw [List.length_take]
        omega
      have later : (bytes.drop width).length = count * width := by
        rw [List.length_drop]
        omega
      rcases exists_bits first with ⟨bits, isFirst⟩
      rcases ih later with ⟨rest, hasCount, isRest⟩
      refine ⟨bits :: rest, by simp [hasCount], ?_⟩
      rw [List.flatMap_cons, isFirst, isRest, List.take_append_drop]

/-! ## Windows into the data -/

/-- The bytes at a position, with zeros past the end of the data. -/
def window (data : Bytes) : Nat -> Nat -> Bytes
  | _, 0 => []
  | position, count + 1 => data.getD position 0 :: window data (position + 1) count

@[simp] theorem length_window (data : Bytes) (position count : Nat) :
    (window data position count).length = count := by
  induction count generalizing position with
  | zero => rfl
  | succ count ih => rw [window, List.length_cons, ih]

theorem window_add (data : Bytes) (position first second : Nat) :
    window data position (first + second) =
      window data position first ++ window data (position + first) second := by
  induction first generalizing position with
  | zero => simp [window]
  | succ first ih =>
      rw [Nat.succ_add, window, window, ih, List.cons_append]
      congr 3
      omega

theorem window_inside {data : Bytes} {position count : Nat}
    (inside : position + count ≤ data.length) :
    window data position count = (data.drop position).take count := by
  induction count generalizing position with
  | zero => simp [window]
  | succ count ih =>
      have bound : position < data.length := by omega
      rw [window, ih (by omega), List.drop_eq_getElem_cons bound,
        List.take_succ_cons, List.getD_eq_getElem?_getD, List.getElem?_eq_getElem bound,
        Option.getD_some]

/-- The data has these bytes at the position, all but the last `unread` of
them for certain. -/
structure Holds (data : Bytes) (position : Nat) (bytes : Bytes) (unread : Nat) : Prop where
  same : bytes = window data position bytes.length
  inside : unread < bytes.length -> position + bytes.length ≤ data.length + unread

theorem Holds.nil (data : Bytes) (position unread : Nat) : Holds data position [] unread :=
  ⟨rfl, fun some => absurd some (Nat.not_lt_zero unread)⟩

/-- How much is unread at the end of two parts: bytes that are all jumped over
continue the jump before them. -/
def joinUnread (firstUnread secondUnread secondLength : Nat) : Nat :=
  if secondUnread = secondLength then firstUnread + secondUnread else secondUnread

variable {firstUnread secondUnread : Nat}

/-- Where the second part is read in part, only its end is unread. -/
theorem joinUnread_of_lt {secondLength : Nat} (someRead : secondUnread < secondLength) :
    joinUnread firstUnread secondUnread secondLength = secondUnread :=
  if_neg (Nat.ne_of_lt someRead)

theorem joinUnread_zero_left (unread length : Nat) : joinUnread 0 unread length = unread := by
  rw [joinUnread, Nat.zero_add, ite_self]

theorem Holds.append {data : Bytes} {position : Nat} {first second : Bytes}
    (few : secondUnread ≤ second.length) (one : Holds data position first firstUnread)
    (two : Holds data (position + first.length) second secondUnread) :
    Holds data position (first ++ second)
      (joinUnread firstUnread secondUnread second.length) where
  same := by
    rw [List.length_append, window_add, ← one.same, ← two.same]
  inside := by
    intro some
    rw [joinUnread, List.length_append] at *
    split at some
    next allJumped =>
      have inside := one.inside (by omega)
      rw [if_pos allJumped]
      omega
    next someRead =>
      have inside := two.inside (by omega)
      rw [if_neg someRead]
      omega

theorem Holds.split {data : Bytes} {position : Nat} {first second : Bytes}
    (few : secondUnread ≤ second.length) (both : Holds data position (first ++ second)
      (joinUnread firstUnread secondUnread second.length)) :
    Holds data position first firstUnread ∧
      Holds data (position + first.length) second secondUnread := by
  have same := both.same
  have inside := both.inside
  rw [List.length_append, window_add] at same
  rw [joinUnread, List.length_append] at inside
  have parts := List.append_inj same (by simp)
  refine ⟨⟨parts.1, fun some => ?_⟩, ⟨parts.2, fun some => ?_⟩⟩
  · split at inside <;> omega
  · split at inside <;> omega

/-- Bytes that are all read lie in the data. -/
theorem Holds.take {data : Bytes} {position : Nat} (holds : Holds data position bytes 0) :
    (data.drop position).take bytes.length = bytes := by
  by_cases empty : bytes = []
  · simp [empty]
  · have inside := holds.inside (List.length_pos_iff.mpr empty)
    rw [← window_inside inside, ← holds.same]

/-- At the start of the data, everything but the unread end is there. -/
theorem Holds.start {data : Bytes} {unread : Nat} (holds : Holds data 0 bytes unread) :
    bytes.take (bytes.length - unread) <+: data := by
  by_cases some : unread < bytes.length
  · have inside := holds.inside some
    have split : bytes.length = (bytes.length - unread) + unread := by omega
    have same := holds.same
    rw [split, window_add, window_inside (by omega), List.drop_zero] at same
    have cut := congrArg (List.take (bytes.length - unread)) same
    rw [List.take_left' (by rw [List.length_take]; omega)] at cut
    rw [cut]
    exact List.take_prefix _ _
  · rw [Nat.sub_eq_zero_of_le (Nat.not_lt.mp some), List.take_zero]
    exact List.nil_prefix

/-! ## Layouts -/

/-- How things are laid out in bytes, and how many bytes at the end of each
are jumped over rather than read. -/
structure Layout (X : Type) where
  encode : X -> Bytes
  unread : X -> Nat
  unread_le : forall item, unread item ≤ (encode item).length

namespace Layout

/-- No bytes at all. -/
def nothing : Layout Unit := ⟨fun _ => [], fun _ => 0, fun _ => Nat.zero_le _⟩

/-- Bytes that are read. -/
def read : Layout Bytes := ⟨id, fun _ => 0, fun _ => Nat.zero_le _⟩

/-- Bytes that are jumped over. -/
def jumped : Layout Bytes := ⟨id, List.length, fun _ => Nat.le_refl _⟩

/-- A little-endian number. -/
def bits (width : Nat) : Layout (BitVec (8 * width)) :=
  ⟨fun bits => leBytes width bits.toNat, fun _ => 0, fun _ => Nat.zero_le _⟩

/-- With a number before it that says something of the item. -/
def tagged {Y : Type} (width : Nat) (tag : Y -> Nat) (layout : Layout Y) : Layout Y where
  encode item := leBytes width (tag item) ++ layout.encode item
  unread := layout.unread
  unread_le := by
    intro item
    have few := layout.unread_le item
    rw [List.length_append]
    omega

def pair {X Y : Type} (first : Layout X) (second : Layout Y) : Layout (X × Y) where
  encode item := first.encode item.1 ++ second.encode item.2
  unread item :=
    joinUnread (first.unread item.1) (second.unread item.2) (second.encode item.2).length
  unread_le := by
    intro item
    have one := first.unread_le item.1
    have two := second.unread_le item.2
    rw [List.length_append, joinUnread]
    split <;> omega

def listUnread {X : Type} (layout : Layout X) : List X -> Nat
  | [] => 0
  | item :: rest =>
      joinUnread (layout.unread item) (listUnread layout rest)
        (rest.flatMap layout.encode).length

/-- One after the other. -/
def list {X : Type} (layout : Layout X) : Layout (List X) where
  encode items := items.flatMap layout.encode
  unread := layout.listUnread
  unread_le := by
    intro items
    induction items with
    | nil => exact Nat.zero_le _
    | cons item rest ih =>
        have one := layout.unread_le item
        rw [listUnread, List.flatMap_cons, List.length_append, joinUnread]
        split <;> omega

theorem listUnread_of_read {X : Type} {layout : Layout X}
    (allRead : forall item, layout.unread item = 0) (items : List X) :
    layout.listUnread items = 0 := by
  induction items with
  | nil => rfl
  | cons item rest ih =>
      rw [listUnread, allRead, ih, joinUnread_zero_left]

theorem listUnread_cons_lt {X : Type} {layout : Layout X} {item : X}
    (someRead : layout.unread item < (layout.encode item).length) (rest : List X) :
    layout.listUnread (item :: rest) < ((item :: rest).flatMap layout.encode).length := by
  have few := layout.list.unread_le rest
  change layout.listUnread rest ≤ (rest.flatMap layout.encode).length at few
  rw [listUnread, List.flatMap_cons, List.length_append, joinUnread]
  split <;> omega

/-- Where each item is read in part, only the last one can be unread. -/
theorem listUnread_eq {X : Type} {layout : Layout X}
    (someRead : forall item, layout.unread item < (layout.encode item).length) (items : List X) :
    layout.listUnread items = items.getLast?.elim 0 layout.unread := by
  induction items with
  | nil => rfl
  | cons item rest ih =>
      rw [listUnread]
      cases rest with
      | nil => rfl
      | cons next rest =>
          have fewer := listUnread_cons_lt (someRead next) rest
          rw [joinUnread_of_lt fewer, ih, List.getLast?_cons_cons]

end Layout

/-! ## Scanners -/

abbrev Scanner (E : Type) := ReaderT Bytes (StateT Nat (Except E))

section Scanners

variable {E R S : Type} {data : Bytes} {position : Nat}

theorem bind_eq_ok {scanner : Scanner E R} {next : R -> Scanner E S} {result : S} {after : Nat} :
    (scanner >>= next) data position = .ok (result, after) ↔
      exists middle reached, scanner data position = .ok (middle, reached) ∧
        next middle data reached = .ok (result, after) := by
  change ((scanner data position).bind fun pair => next pair.1 data pair.2) = _ ↔ _
  cases scanner data position with
  | error error => simp [Except.bind]
  | ok pair =>
      constructor
      · intro accepted
        exact ⟨pair.1, pair.2, rfl, accepted⟩
      · rintro ⟨middle, reached, same, accepted⟩
        rw [Except.ok.inj same]
        exact accepted

/-- Read exactly this many bytes. -/
def readExact (short : E) (count : Nat) : Scanner E Bytes := fun data position =>
  if count ≤ data.length - position then
    .ok ((data.drop position).take count, position + count)
  else .error short

/-- Move forward, whether or not there is data. -/
def advance (count : Nat) : Scanner E Unit := fun _ position => .ok ((), position + count)

def streamPosition : Scanner E Nat := fun _ position => .ok (position, position)

/-- Fail past the limit. -/
def within (limit : Nat) (error : E) : Scanner E Unit := do
  if limit < (← streamPosition) then throw error

/-- Run the body for `index`, `index + 1` and so on, `count` times. -/
def forRange (body : Nat -> S -> Scanner E S) : Nat -> Nat -> S -> Scanner E S
  | 0, _, state => pure state
  | count + 1, index, state => do
      let next ← body index state
      forRange body count (index + 1) next

end Scanners

/-! ## What a scanner finds -/

section Rules

variable {E R S X Y Z : Type} {limit : Nat}

/-- What the scanner accepts are the layouts of the things that mean its
result, up to a limit on where they end.  The unread bytes at the end of a
thing can be replaced by any others. -/
structure Scans (limit : Nat) (scanner : Scanner E R) (layout : Layout X) (means : X -> R -> Prop) :
    Prop where
  finds : forall data position result after,
    scanner data position = .ok (result, after) ->
      exists item, means item result ∧ after = position + (layout.encode item).length ∧
        Holds data position (layout.encode item) (layout.unread item)
  takes : forall data position item result, means item result ->
    Holds data position (layout.encode item) (layout.unread item) ->
    position + (layout.encode item).length ≤ limit ->
      scanner data position = .ok (result, position + (layout.encode item).length)
  free : forall item result bytes, means item result -> (layout.encode item).length ≤ limit ->
    bytes.length = layout.unread item ->
      exists other, means other result ∧ layout.unread other = layout.unread item ∧
        layout.encode other =
          (layout.encode item).take ((layout.encode item).length - layout.unread item) ++ bytes

/-- With nothing unread, nothing can be replaced. -/
theorem free_of_read (layout : Layout X) (means : X -> R -> Prop)
    (allRead : forall item, layout.unread item = 0) (item : X) (result : R) (bytes : Bytes)
    (holds : means item result) (_ : (layout.encode item).length ≤ limit)
    (sameLength : bytes.length = layout.unread item) :
    exists other, means other result ∧ layout.unread other = layout.unread item ∧
      layout.encode other =
        (layout.encode item).take ((layout.encode item).length - layout.unread item) ++ bytes := by
  rw [allRead, List.length_eq_zero_iff] at sameLength
  exact ⟨item, holds, rfl, by simp [allRead, sameLength]⟩

theorem scans_pure (result : R) :
    Scans limit (pure result : Scanner E R) Layout.nothing (fun _ found => found = result) where
  finds := by
    intro data position found after accepted
    have same := Except.ok.inj accepted
    exact ⟨(), (congrArg Prod.fst same).symm, (congrArg Prod.snd same).symm, Holds.nil _ _ _⟩
  takes := by
    rintro data position item found rfl _ _
    rfl
  free := free_of_read _ _ fun _ => rfl

/-- A decision that reads nothing. -/
theorem scans_lift (decided : Except E R) :
    Scans limit (liftM decided : Scanner E R) Layout.nothing
      (fun _ found => decided = .ok found) where
  finds := by
    intro data position found after accepted
    cases decided with
    | error error => cases accepted
    | ok value =>
        have same := Except.ok.inj accepted
        exact ⟨(), congrArg _ (congrArg Prod.fst same), (congrArg Prod.snd same).symm,
          Holds.nil _ _ _⟩
  takes := by
    rintro data position item found rfl _ _
    rfl
  free := free_of_read _ _ fun _ => rfl

variable {means : X -> R -> Prop}

/-- A failure accepts nothing, so nothing may be found. -/
theorem scans_throw {error : E} {layout : Layout X}
    (never : forall item result, means item result -> ¬ (layout.encode item).length ≤ limit) :
    Scans limit (throw error : Scanner E R) layout means where
  finds := nofun
  takes := by
    intro data position item result isItem _ inside
    exact absurd (Nat.le_trans (Nat.le_add_left _ _) inside) (never item result isItem)
  free := by
    intro item result bytes isItem small
    exact absurd small (never item result isItem)

theorem scans_within (error : E) :
    Scans limit (within limit error) Layout.nothing (fun _ found => found = ()) where
  finds := by
    intro data position found after accepted
    simp only [within, bind_eq_ok] at accepted
    rcases accepted with ⟨here, reached, isHere, accepted⟩
    have same := Except.ok.inj isHere
    split at accepted
    · cases accepted
    · have stays := congrArg Prod.snd (Except.ok.inj accepted)
      exact ⟨(), rfl, stays.symm.trans (congrArg Prod.snd same).symm, Holds.nil _ _ _⟩
  takes := by
    intro data position item found _ _ inside
    have notPast : ¬ limit < position := Nat.not_lt.mpr inside
    apply bind_eq_ok.mpr
    refine ⟨position, position, rfl, ?_⟩
    rw [if_neg notPast]
    rfl
  free := free_of_read _ _ fun _ => rfl

theorem scans_readExact (short : E) (count : Nat) :
    Scans limit (readExact short count) Layout.read
      (fun bytes found => bytes.length = count ∧ found = bytes) where
  finds := by
    intro data position found after accepted
    unfold readExact at accepted
    split at accepted
    next enough =>
      have same := Except.ok.inj accepted
      have isFound : (data.drop position).take count = found := congrArg Prod.fst same
      have isAfter : position + count = after := congrArg Prod.snd same
      have hasLength : found.length = count := by
        rw [← isFound, List.length_take, List.length_drop, Nat.min_eq_left enough]
      refine ⟨found, ⟨hasLength, rfl⟩, ?_, ?_, ?_⟩
      · rw [← isAfter, ← hasLength]
        rfl
      · by_cases empty : count = 0
        · rw [empty, List.length_eq_zero_iff] at hasLength
          rw [hasLength]
          rfl
        · change found = window data position found.length
          rw [hasLength, window_inside (by omega), isFound]
      · intro some
        change 0 < found.length at some
        change position + found.length ≤ data.length + 0
        omega
    next => cases accepted
  takes := by
    rintro data position bytes found ⟨hasLength, rfl⟩ holds _
    have enough : count ≤ data.length - position := by
      by_cases empty : found = []
      · rw [← hasLength, empty]
        exact Nat.zero_le _
      · have inside := holds.inside (List.length_pos_iff.mpr empty)
        change position + found.length ≤ data.length + 0 at inside
        omega
    have taken : (data.drop position).take found.length = found := holds.take
    rw [readExact, if_pos enough, ← hasLength, taken]
    rfl
  free := free_of_read _ _ fun _ => rfl

theorem scans_advance (count : Nat) :
    Scans limit (advance count : Scanner E Unit) Layout.jumped
      (fun bytes _ => bytes.length = count) where
  finds := by
    intro data position found after accepted
    have isAfter : position + count = after := congrArg Prod.snd (Except.ok.inj accepted)
    refine ⟨window data position count, length_window _ _ _, ?_, ?_, ?_⟩
    · rw [← isAfter]
      exact congrArg (position + ·) (length_window _ _ _).symm
    · change window data position count = window data position (window data position count).length
      rw [length_window]
    · exact fun some => absurd some (Nat.lt_irrefl _)
  takes := by
    rintro data position bytes found rfl _ _
    rfl
  free := by
    intro bytes found other hasLength _ sameLength
    exact ⟨other, sameLength.trans hasLength, sameLength, by simp [Layout.jumped]⟩

/-- One scanner after another finds one thing after another. -/
theorem Scans.bind {scanner : Scanner E R} {next : R -> Scanner E S} {first : Layout X}
    {second : Layout Y} {nextMeans : R -> Y -> S -> Prop} (one : Scans limit scanner first means)
    (two : forall middle, Scans limit (next middle) second (nextMeans middle)) :
    Scans limit (scanner >>= next) (first.pair second)
      (fun item result => exists middle, means item.1 middle ∧ nextMeans middle item.2 result) where
  finds := by
    intro data position result after accepted
    rcases bind_eq_ok.mp accepted with ⟨middle, reached, firstAccepted, secondAccepted⟩
    rcases one.finds data position middle reached firstAccepted with
      ⟨item, isItem, isReached, holds⟩
    rcases (two middle).finds data reached result after secondAccepted with
      ⟨other, isOther, isAfter, otherHolds⟩
    refine ⟨(item, other), ⟨middle, isItem, isOther⟩, ?_, ?_⟩
    · rw [isAfter, isReached, Layout.pair, List.length_append, Nat.add_assoc]
    · rw [isReached] at otherHolds
      exact holds.append (second.unread_le other) otherHolds
  takes := by
    rintro data position ⟨item, other⟩ result ⟨middle, isItem, isOther⟩ holds inside
    simp only [Layout.pair, List.length_append] at inside
    rcases holds.split (second.unread_le other) with ⟨firstHolds, secondHolds⟩
    apply bind_eq_ok.mpr
    refine ⟨middle, position + (first.encode item).length, ?_, ?_⟩
    · exact one.takes data position item middle isItem firstHolds (by omega)
    · rw [Layout.pair, List.length_append, ← Nat.add_assoc]
      exact (two middle).takes data _ other result isOther secondHolds (by omega)
  free := by
    rintro ⟨item, other⟩ result bytes ⟨middle, isItem, isOther⟩ small sameLength
    have few := first.unread_le item
    have otherFew := second.unread_le other
    simp only [Layout.pair, List.length_append, joinUnread] at small sameLength ⊢
    split at sameLength
    next allJumped =>
      -- The bytes to put in are shared out between the two things.
      rcases one.free item middle (bytes.take (first.unread item)) isItem (by omega)
        (by rw [List.length_take]; omega) with ⟨newItem, isNew, sameUnread, sameEncode⟩
      rcases (two middle).free other result (bytes.drop (first.unread item)) isOther (by omega)
        (by rw [List.length_drop]; omega) with ⟨newOther, isNewOther, sameRest, sameOther⟩
      rw [allJumped, Nat.sub_self, List.take_zero, List.nil_append] at sameOther
      have restLength : (second.encode newOther).length = (second.encode other).length := by
        rw [sameOther, List.length_drop]
        omega
      refine ⟨(newItem, newOther), ⟨middle, isNew, isNewOther⟩, ?_, ?_⟩
      · rw [restLength, sameRest, sameUnread]
      · have cut : (first.encode item).length + (second.encode other).length -
            (first.unread item + second.unread other) =
              (first.encode item).length - first.unread item := by omega
        rw [if_pos allJumped, cut, List.take_append_of_le_length (by omega), sameEncode, sameOther,
          List.append_assoc, List.take_append_drop]
    next someRead =>
      rcases (two middle).free other result bytes isOther (by omega) sameLength with
        ⟨newOther, isNewOther, sameRest, sameOther⟩
      have restLength : (second.encode newOther).length = (second.encode other).length := by
        rw [sameOther, List.length_append, List.length_take]
        omega
      refine ⟨(item, newOther), ⟨middle, isItem, isNewOther⟩, ?_, ?_⟩
      · rw [restLength, sameRest]
      · have cut : (first.encode item).length + (second.encode other).length -
            second.unread other =
              (first.encode item).length + ((second.encode other).length - second.unread other) :=
          by omega
        rw [if_neg someRead, cut, List.take_length_add_append, sameOther, List.append_assoc]

/-- The same scanner, said of other things that are laid out the same. -/
theorem Scans.recast {scanner : Scanner E R} {layout : Layout X}
    (scans : Scans limit scanner layout means) (other : Layout Z) (otherMeans : Z -> R -> Prop)
    (there : forall item result, means item result -> exists thing, otherMeans thing result ∧
      other.encode thing = layout.encode item ∧ other.unread thing = layout.unread item)
    (back : forall thing result, otherMeans thing result ->
      (other.encode thing).length ≤ limit -> exists item, means item result ∧
        layout.encode item = other.encode thing ∧ layout.unread item = other.unread thing) :
    Scans limit scanner other otherMeans where
  finds := by
    intro data position result after accepted
    rcases scans.finds data position result after accepted with ⟨item, isItem, isAfter, holds⟩
    rcases there item result isItem with ⟨thing, isThing, sameEncode, sameUnread⟩
    rw [← sameEncode] at isAfter holds
    rw [← sameUnread] at holds
    exact ⟨thing, isThing, isAfter, holds⟩
  takes := by
    intro data position thing result isThing holds inside
    rcases back thing result isThing (by omega) with ⟨item, isItem, sameEncode, sameUnread⟩
    rw [← sameEncode] at inside holds ⊢
    rw [← sameUnread] at holds
    exact scans.takes data position item result isItem holds inside
  free := by
    intro thing result bytes isThing small sameLength
    rcases back thing result isThing small with ⟨item, isItem, sameEncode, sameUnread⟩
    rw [← sameEncode] at small ⊢
    rw [← sameUnread] at sameLength ⊢
    rcases scans.free item result bytes isItem small sameLength with
      ⟨newItem, isNew, newUnread, newEncode⟩
    rcases there newItem result isNew with ⟨newThing, isNewThing, thingEncode, thingUnread⟩
    exact ⟨newThing, isNewThing, thingUnread.trans newUnread, thingEncode.trans newEncode⟩

/-- The same layouts, said to mean the same in other words. -/
theorem Scans.restate {scanner : Scanner E R} {layout : Layout X} {otherMeans : X -> R -> Prop}
    (scans : Scans limit scanner layout means)
    (same : forall item result, means item result ↔ otherMeans item result) :
    Scans limit scanner layout otherMeans :=
  scans.recast layout otherMeans
    (fun item result isItem => ⟨item, (same item result).mp isItem, rfl, rfl⟩)
    fun item result isItem _ => ⟨item, (same item result).mpr isItem, rfl, rfl⟩

/-- A refusal before the rest. -/
theorem scans_unless {bad : Prop} [Decidable bad] {error : E} {next : Unit -> Scanner E R}
    {layout : Layout X} (scans : Scans limit (next ()) layout means) :
    Scans limit (if bad then throw error >>= next else next ()) layout
      (fun item result => ¬ bad ∧ means item result) := by
  split
  next isBad =>
    have refused : (throw error >>= next : Scanner E R) = throw error := rfl
    rw [refused]
    exact scans_throw fun _ _ isItem => absurd isBad isItem.1
  next notBad =>
    apply scans.restate
    intro item result
    exact ⟨fun isItem => ⟨notBad, isItem⟩, And.right⟩

/-- What follows without reading on. -/
theorem Scans.still {scanner : Scanner E R} {layout : Layout X}
    (scans : Scans limit scanner layout means) {next : R -> Scanner E S}
    {nextMeans : R -> S -> Prop}
    (each : forall middle, Scans limit (next middle) Layout.nothing fun _ => nextMeans middle) :
    Scans limit (scanner >>= next) layout
      (fun item result => exists middle, means item middle ∧ nextMeans middle result) := by
  apply (scans.bind each).recast
  · rintro ⟨item, _⟩ result isItem
    exact ⟨item, isItem, (List.append_nil _).symm, rfl⟩
  · intro item result isItem _
    exact ⟨(item, ()), isItem, List.append_nil _, rfl⟩

/-- A decision that reads nothing, and what follows from it. -/
theorem scans_decided (decided : Except E R) {next : R -> Scanner E S} {layout : Layout Y}
    {nextMeans : R -> Y -> S -> Prop}
    (each : forall found, Scans limit (next found) layout (nextMeans found)) :
    Scans limit (liftM decided >>= next : Scanner E S) layout
      (fun item result => exists found, decided = .ok found ∧ nextMeans found item result) := by
  apply ((scans_lift decided).bind each).recast
  · rintro ⟨_, item⟩ result isItem
    exact ⟨item, isItem, rfl, (joinUnread_zero_left _ _).symm⟩
  · intro item result isItem _
    exact ⟨((), item), isItem, rfl, joinUnread_zero_left _ _⟩

/-- A number of fixed width. -/
theorem scans_bits (short : E) (width : Nat) :
    Scans limit (readExact short width) (Layout.bits width)
      (fun bits found => found = leBytes width bits.toNat) := by
  apply (scans_readExact short width).recast
  · rintro bytes found ⟨hasWidth, isFound⟩
    rcases exists_bits hasWidth with ⟨bits, isBits⟩
    exact ⟨bits, isFound.trans isBits.symm, isBits, rfl⟩
  · rintro bits found isFound _
    exact ⟨leBytes width bits.toNat, ⟨length_leBytes _ _, isFound⟩, rfl, rfl⟩

/-- A number, and then something the number says something of. -/
theorem Scans.tagged {number : Scanner E Nat}
    (numbers : Scans limit number (Layout.bits width) fun bits found => found = bits.toNat)
    {next : Nat -> Scanner E R} {layout : Layout Y} {tag : Y -> Nat} {means : Y -> R -> Prop}
    (each : forall found, Scans limit (next found) layout
      fun item result => tag item = found ∧ means item result)
    (small : forall item, (layout.encode item).length ≤ limit -> tag item < 256 ^ width) :
    Scans limit (number >>= next) (layout.tagged width tag) means := by
  apply (numbers.bind each).recast
  · rintro ⟨bits, item⟩ result ⟨found, isFound, isTag, isItem⟩
    refine ⟨item, isItem, ?_, ?_⟩
    · change leBytes width (tag item) ++ _ = leBytes width bits.toNat ++ _
      rw [isTag, isFound]
    · exact (joinUnread_zero_left _ _).symm
  · intro item result isItem inside
    rw [Layout.tagged, List.length_append] at inside
    have fits := small item (by omega)
    have same : (BitVec.ofNat (8 * width) (tag item)).toNat = tag item := by
      rw [BitVec.toNat_ofNat, ← pow_bytes, Nat.mod_eq_of_lt fits]
    refine ⟨(BitVec.ofNat (8 * width) (tag item), item), ⟨tag item, same.symm, rfl, isItem⟩, ?_, ?_⟩
    · change leBytes width (BitVec.ofNat (8 * width) (tag item)).toNat ++ _ = _
      rw [same]
      rfl
    · exact joinUnread_zero_left _ _

/-- The state after the items, taken one by one. -/
def Steps (step : S -> X -> S -> Prop) : S -> List X -> S -> Prop
  | start, [], finish => finish = start
  | start, item :: rest, finish =>
      exists middle, step start item middle ∧ Steps step middle rest finish

variable {items : List X}

/-- Where a step is a function, the state after the items is a fold. -/
theorem steps_function {step : S -> X -> S} {start finish : S} :
    Steps (fun state item next => next = step state item) start items finish ↔
      finish = items.foldl step start := by
  induction items generalizing start with
  | nil => rfl
  | cons item rest ih =>
      rw [Steps, List.foldl_cons, ← ih]
      exact exists_eq_left

/-- Where each item is checked on its own, all of them are. -/
theorem steps_checked {check : X -> Prop} {step : S -> X -> S -> Prop} {start finish : S} :
    Steps (fun state item next => check item ∧ step state item next) start items finish ↔
      (forall item, item ∈ items -> check item) ∧ Steps step start items finish := by
  induction items generalizing start with
  | nil => simp [Steps]
  | cons item rest ih =>
      simp only [Steps, ih, List.forall_mem_cons]
      constructor
      · rintro ⟨middle, ⟨isChecked, isStep⟩, areChecked, steps⟩
        exact ⟨⟨isChecked, areChecked⟩, middle, isStep, steps⟩
      · rintro ⟨⟨isChecked, areChecked⟩, middle, isStep, steps⟩
        exact ⟨middle, ⟨isChecked, isStep⟩, areChecked, steps⟩

/-- Where a step is a function that can fail, the state after the items is a
fold that can. -/
theorem steps_except {step : S -> X -> Except E S} {start finish : S} :
    Steps (fun state item next => step state item = .ok next) start items finish ↔
      items.foldlM step start = .ok finish := by
  induction items generalizing start with
  | nil => exact ⟨fun same => congrArg _ same.symm, fun same => (Except.ok.inj same).symm⟩
  | cons item rest ih =>
      rw [Steps, List.foldlM_cons]
      cases isStep : step start item with
      | error error =>
          exact ⟨fun steps => (nomatch steps.choose_spec.1), nofun⟩
      | ok middle =>
          change _ ↔ rest.foldlM step middle = .ok finish
          rw [← ih]
          exact ⟨fun ⟨_, same, steps⟩ => Except.ok.inj same ▸ steps, fun steps => ⟨middle, rfl, steps⟩⟩

theorem scans_forRange {body : Nat -> S -> Scanner E S} {layout : Layout X}
    {step : S -> X -> S -> Prop}
    (each : forall index state, Scans limit (body index state) layout (step state))
    (count index : Nat) (state : S) :
    Scans limit (forRange body count index state) layout.list
      (fun items result => items.length = count ∧ Steps step state items result) := by
  induction count generalizing index state with
  | zero =>
      apply (scans_pure state).recast
      · rintro item result rfl
        exact ⟨[], ⟨rfl, rfl⟩, rfl, rfl⟩
      · rintro items result ⟨noItems, steps⟩ _
        rw [List.length_eq_zero_iff] at noItems
        rw [noItems] at steps ⊢
        exact ⟨(), steps, rfl, rfl⟩
  | succ count ih =>
      apply ((each index state).bind fun next => ih (index + 1) next).recast
      · rintro ⟨item, items⟩ result ⟨next, isNext, hasCount, steps⟩
        exact ⟨item :: items, ⟨by simp [hasCount], next, isNext, steps⟩, rfl, rfl⟩
      · rintro items result ⟨hasCount, steps⟩ _
        cases items with
        | nil => cases hasCount
        | cons item rest =>
            rcases steps with ⟨next, isNext, steps⟩
            exact ⟨(item, rest), ⟨next, isNext, Nat.succ.inj hasCount, steps⟩, rfl, rfl⟩

/-! ## Where a scanner stops -/

/-- The scanner only stops within the limit. -/
def Capped (limit : Nat) (scanner : Scanner E R) : Prop :=
  forall data position result after, scanner data position = .ok (result, after) -> after ≤ limit

theorem Capped.of_last {scanner : Scanner E R} {next : R -> Scanner E S}
    (last : forall middle, Capped limit (next middle)) : Capped limit (scanner >>= next) := by
  intro data position result after accepted
  rcases bind_eq_ok.mp accepted with ⟨middle, reached, -, lastAccepted⟩
  exact last middle data reached result after lastAccepted

/-- After a check, what does not move stays within the limit. -/
theorem capped_within {error : E} {next : Unit -> Scanner E S}
    (still : forall data position result after,
      next () data position = .ok (result, after) -> after = position) :
    Capped limit (within limit error >>= next) := by
  intro data position result after accepted
  rcases bind_eq_ok.mp accepted with ⟨_, reached, checked, lastAccepted⟩
  rw [still data reached result after lastAccepted]
  simp only [within, bind_eq_ok] at checked
  rcases checked with ⟨here, stays, isHere, checked⟩
  have same := Except.ok.inj isHere
  have hereIs : position = here := congrArg Prod.fst same
  have staysIs : position = stays := congrArg Prod.snd same
  split at checked
  · cases checked
  · have isReached : stays = reached := congrArg Prod.snd (Except.ok.inj checked)
    omega

theorem capped_forRange {body : Nat -> S -> Scanner E S}
    (each : forall index state, Capped limit (body index state)) {count index : Nat} {state : S}
    {data : Bytes} {position : Nat} {result : S} {after : Nat} (start : position ≤ limit)
    (accepted : forRange body count index state data position = .ok (result, after)) :
    after ≤ limit := by
  induction count generalizing index state position with
  | zero =>
      have isAfter : position = after := congrArg Prod.snd (Except.ok.inj accepted)
      omega
  | succ count ih =>
      rcases bind_eq_ok.mp accepted with ⟨next, reached, bodyAccepted, restAccepted⟩
      have inside := each index state data position next reached bodyAccepted
      exact ih inside restAccepted

end Rules

end Scan
end RocmCli
