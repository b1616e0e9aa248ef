import Mathlib.Data.List.TakeWhile

namespace RocmCli
namespace ByteReader

/-!
# Reading bytes that arrive in pieces

A connection delivers bytes in pieces of any size, and a read may be
interrupted in between.  Reading an exact count, or up to a byte, depends only
on the bytes that are still to come, not on the pieces.
-/

/-- One answer of the connection.  A piece is not empty: an empty one would be
the end. -/
inductive Arrival where
  | piece (first : UInt8) (more : List UInt8)
  | interrupted
  deriving DecidableEq, Repr

def Arrival.bytes : Arrival -> List UInt8
  | piece first more => first :: more
  | interrupted => []

/-- What a connection still delivers before it ends. -/
abbrev Reader := List Arrival

def bytesOf (reader : Reader) : List UInt8 := reader.flatMap Arrival.bytes

/-- Put what is left of a piece back in front. -/
def putBack : List UInt8 -> Reader -> Reader
  | [], reader => reader
  | first :: more, reader => .piece first more :: reader

/-- The bytes and the interruptions still to come. -/
def work (reader : Reader) : Nat := (bytesOf reader).length + reader.length

/-! ## Reads -/

inductive ReadResult where
  | ended
  | interrupted (reader : Reader)
  | bytes (bytes : List UInt8) (reader : Reader)

/-- One read into a buffer. -/
def read (limit : Nat) : Reader -> ReadResult
  | [] => .ended
  | .interrupted :: rest => .interrupted rest
  | .piece first more :: rest =>
      .bytes ((first :: more).take limit) (putBack ((first :: more).drop limit) rest)

/-- Fill a buffer, or fail where the bytes end first.  Interruptions are passed
over. -/
def readExact : Nat -> Reader -> Option (List UInt8 × Reader)
  | 0, reader => some ([], reader)
  | _ + 1, [] => none
  | count + 1, .interrupted :: rest => readExact (count + 1) rest
  | count + 1, .piece first more :: rest =>
      if more.length ≤ count then
        (readExact (count - more.length) rest).map fun found =>
          (first :: more ++ found.1, found.2)
      else
        some ((first :: more).take (count + 1), putBack ((first :: more).drop (count + 1)) rest)

/-- Read up to a byte, that byte included, or to the end. -/
def readUntil (stop : UInt8) : Reader -> List UInt8 × Reader
  | [] => ([], [])
  | .interrupted :: rest => readUntil stop rest
  | .piece first more :: rest =>
      match (first :: more).dropWhile (· != stop) with
      | [] => (first :: more ++ (readUntil stop rest).1, (readUntil stop rest).2)
      | _ :: back => ((first :: more).takeWhile (· != stop) ++ [stop], putBack back rest)

/-! ## What a read takes -/

@[simp] theorem bytesOf_nil : bytesOf [] = [] := rfl

@[simp] theorem bytesOf_interrupted (reader : Reader) :
    bytesOf (.interrupted :: reader) = bytesOf reader := rfl

@[simp] theorem bytesOf_piece (first : UInt8) (more : List UInt8) (reader : Reader) :
    bytesOf (.piece first more :: reader) = first :: more ++ bytesOf reader := rfl

@[simp] theorem bytesOf_putBack (left : List UInt8) (reader : Reader) :
    bytesOf (putBack left reader) = left ++ bytesOf reader := by
  cases left with
  | nil => rfl
  | cons first more => rfl

variable {reader left : Reader}

variable {limit : Nat} {bytes : List UInt8}

/-- A read makes progress. -/
theorem work_read_lt (positive : 0 < limit) (taken : read limit reader = .bytes bytes left) :
    work left < work reader := by
  cases reader with
  | nil => exact nomatch taken
  | cons arrival rest =>
      cases arrival with
      | interrupted => exact nomatch taken
      | piece first more =>
          obtain ⟨_, isLeft⟩ := ReadResult.bytes.inj taken
          rw [← isLeft]
          unfold work
          have shorter : ((first :: more).drop limit).length ≤ more.length := by
            rw [List.length_drop, List.length_cons]
            omega
          cases dropped : (first :: more).drop limit with
          | nil =>
              simp only [putBack, bytesOf_piece, List.length_append, List.length_cons]
              omega
          | cons byte others =>
              rw [dropped, List.length_cons] at shorter
              simp only [putBack, bytesOf_piece, List.length_append, List.length_cons]
              omega

theorem work_interrupted_lt (interrupted : read limit reader = .interrupted left) :
    work left < work reader := by
  cases reader with
  | nil => exact nomatch interrupted
  | cons arrival rest =>
      cases arrival with
      | piece first more => exact nomatch interrupted
      | interrupted =>
          obtain rfl := ReadResult.interrupted.inj interrupted
          unfold work
          simp

theorem bytesOf_read (taken : read limit reader = .bytes bytes left) :
    bytesOf reader = bytes ++ bytesOf left := by
  cases reader with
  | nil => exact nomatch taken
  | cons arrival rest =>
      cases arrival with
      | interrupted => exact nomatch taken
      | piece first more =>
          obtain ⟨rfl, rfl⟩ := ReadResult.bytes.inj taken
          rw [bytesOf_putBack, bytesOf_piece, ← List.append_assoc, List.take_append_drop]

theorem bytesOf_read_interrupted (interrupted : read limit reader = .interrupted left) :
    bytesOf left = bytesOf reader := by
  cases reader with
  | nil => exact nomatch interrupted
  | cons arrival rest =>
      cases arrival with
      | piece first more => exact nomatch interrupted
      | interrupted =>
          obtain rfl := ReadResult.interrupted.inj interrupted
          rfl

/-- The bytes have ended where a read says so. -/
theorem bytesOf_read_ended (ended : read limit reader = .ended) : bytesOf reader = [] := by
  cases reader with
  | nil => rfl
  | cons arrival rest => cases arrival <;> exact nomatch ended

theorem readExact_some {count : Nat} (enough : count ≤ (bytesOf reader).length) :
    exists left, readExact count reader = some ((bytesOf reader).take count, left) ∧
      bytesOf left = (bytesOf reader).drop count := by
  fun_induction readExact count reader with
  | case1 reader => exact ⟨reader, rfl, rfl⟩
  | case2 count => exact absurd enough (by simp)
  | case3 count rest ih => exact ih enough
  | case4 count first more rest short ih =>
      rw [bytesOf_piece, List.length_append, List.length_cons] at enough
      obtain ⟨left, found, behind⟩ := ih (by omega)
      have inside : (first :: more).length ≤ count + 1 := by
        rw [List.length_cons]
        omega
      have excess : count + 1 - (first :: more).length = count - more.length := by
        rw [List.length_cons]
        omega
      refine ⟨left, ?_, ?_⟩
      · rw [found, Option.map_some, bytesOf_piece, List.take_append, excess,
          List.take_of_length_le inside]
      · rw [behind, bytesOf_piece, List.drop_append, excess, List.drop_of_length_le inside,
          List.nil_append]
  | case5 count first more rest long =>
      have inside : count + 1 ≤ (first :: more).length := by
        rw [List.length_cons]
        omega
      refine ⟨putBack ((first :: more).drop (count + 1)) rest, ?_, ?_⟩
      · rw [bytesOf_piece, List.take_append_of_le_length inside]
      · rw [bytesOf_putBack, bytesOf_piece, List.drop_append_of_le_length inside]

theorem readExact_none {count : Nat} (short : (bytesOf reader).length < count) :
    readExact count reader = none := by
  fun_induction readExact count reader with
  | case1 reader => exact absurd short (by simp)
  | case2 count => rfl
  | case3 count rest ih => exact ih short
  | case4 count first more rest inside ih =>
      rw [bytesOf_piece, List.length_append, List.length_cons] at short
      rw [ih (by omega)]
      rfl
  | case5 count first more rest long =>
      rw [bytesOf_piece, List.length_append, List.length_cons] at short
      omega

theorem bytesOf_readExact {count : Nat} (filled : readExact count reader = some (bytes, left)) :
    bytesOf reader = bytes ++ bytesOf left := by
  by_cases enough : count ≤ (bytesOf reader).length
  · obtain ⟨other, found, behind⟩ := readExact_some enough
    rw [filled, Option.some.injEq, Prod.mk.injEq] at found
    rw [found.1, found.2, behind, List.take_append_drop]
  · rw [readExact_none (Nat.lt_of_not_le enough)] at filled
    exact nomatch filled

theorem bytesOf_readUntil (stop : UInt8) (reader : Reader) :
    bytesOf reader = (readUntil stop reader).1 ++ bytesOf (readUntil stop reader).2 := by
  fun_induction readUntil stop reader with
  | case1 => rfl
  | case2 rest ih => exact ih
  | case3 first more rest none' ih =>
      rw [bytesOf_piece, List.append_assoc, ← ih]
  | case4 first more rest found back behind =>
      have parts := @List.takeWhile_append_dropWhile UInt8 (· != stop) (first :: more)
      have stopped := List.head?_dropWhile_not (· != stop) (first :: more)
      rw [behind] at parts stopped
      have isStop : found = stop := by simpa using stopped
      rw [isStop] at parts
      rw [bytesOf_putBack, bytesOf_piece, ← List.append_assoc, List.append_assoc _ [stop] back,
        List.singleton_append, parts]

/-- What is read ends at the first such byte, or where the bytes end. -/
theorem readUntil_shape (stop : UInt8) (reader : Reader) :
    (stop ∉ (readUntil stop reader).1 ∧ bytesOf (readUntil stop reader).2 = []) ∨
      exists front, stop ∉ front ∧ (readUntil stop reader).1 = front ++ [stop] := by
  fun_induction readUntil stop reader with
  | case1 => exact Or.inl ⟨List.not_mem_nil, rfl⟩
  | case2 rest ih => exact ih
  | case3 first more rest none' ih =>
      have free : stop ∉ first :: more := by
        intro member
        exact absurd (List.dropWhile_eq_nil_iff.mp none' stop member) (by simp)
      rcases ih with ⟨absent, ended⟩ | ⟨front, frontFree, line⟩
      · refine Or.inl ⟨?_, ended⟩
        rw [List.mem_append]
        exact fun member => member.elim free absent
      · refine Or.inr ⟨first :: more ++ front, ?_, ?_⟩
        · rw [List.mem_append]
          exact fun member => member.elim free frontFree
        · rw [line, List.append_assoc]
  | case4 first more rest found back behind =>
      refine Or.inr ⟨_, ?_, rfl⟩
      intro member
      exact absurd (List.mem_takeWhile_imp member) (by simp)

variable {stop : UInt8}

/-- A byte stands behind one part without it only. -/
theorem front_unique {front front' back back' : List UInt8} (free : stop ∉ front)
    (free' : stop ∉ front') (same : front ++ stop :: back = front' ++ stop :: back') :
    front = front' ∧ back = back' := by
  have start : forall (front back : List UInt8), stop ∉ front ->
      (front ++ stop :: back).takeWhile (· != stop) = front := by
    intro front back free
    have kept : forall byte, byte ∈ front -> (byte != stop) = true := by
      intro byte member
      have different : byte ≠ stop := fun equal => free (equal ▸ member)
      simpa using different
    rw [List.takeWhile_append_of_pos kept, List.takeWhile_cons_of_neg (by simp), List.append_nil]
  have fronts : front = front' := by rw [← start front back free, same, start front' back' free']
  rw [fronts] at same
  exact ⟨fronts, (List.cons.inj (List.append_cancel_left same)).2⟩

theorem readUntil_found {front back : List UInt8} (free : stop ∉ front)
    (bytes : bytesOf reader = front ++ stop :: back) :
    exists left, readUntil stop reader = (front ++ [stop], left) ∧ bytesOf left = back := by
  have split := bytesOf_readUntil stop reader
  rw [bytes] at split
  rcases readUntil_shape stop reader with ⟨absent, ended⟩ | ⟨other, otherFree, line⟩
  · rw [ended, List.append_nil] at split
    rw [← split] at absent
    exact absurd (List.mem_append_right _ List.mem_cons_self) absent
  · rw [line, List.append_assoc, List.singleton_append] at split
    obtain ⟨fronts, backs⟩ := front_unique free otherFree split
    exact ⟨(readUntil stop reader).2, by rw [fronts, ← line], backs.symm⟩

theorem readUntil_all (free : stop ∉ bytesOf reader) :
    exists left, readUntil stop reader = (bytesOf reader, left) ∧ bytesOf left = [] := by
  have split := bytesOf_readUntil stop reader
  rcases readUntil_shape stop reader with ⟨_, ended⟩ | ⟨front, _, line⟩
  · rw [ended, List.append_nil] at split
    exact ⟨(readUntil stop reader).2, by rw [split], ended⟩
  · rw [split, line] at free
    exact absurd (List.mem_append_left _ (List.mem_append_right _ List.mem_cons_self)) free

end ByteReader
end RocmCli
