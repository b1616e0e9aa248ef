import Mathlib

namespace RocmCli
namespace StackWalk

open Relation

/-!
# Walking a graph with a stack

The children of a node are read from a table.  The walk takes a node from its
stack, passes over it if it was seen, and otherwise lists it and puts its
children on the stack.  Each entry of the table is put on the stack once, so the
walk ends whatever the table says.  It lists what can be reached, once each, and
whatever it lists after the root was put on the stack by a node listed before.
-/

variable {Node : Type u} [DecidableEq Node]

/-- The children of the nodes that have an entry. -/
abbrev Table (Node : Type u) := List (Node × List Node)

def Table.children (table : Table Node) (node : Node) : List Node := (table.lookup node).getD []

/-- The table has one node under the other. -/
def Child (table : Table Node) (parent child : Node) : Prop := child ∈ table.children parent

/-! ## The walk -/

/-- How many children the table has under nodes that were not seen. -/
def unseen (table : Table Node) (seen : Finset Node) : Nat :=
  (table.map fun entry => if entry.1 ∈ seen then 0 else entry.2.length).sum

theorem unseen_cons (entry : Node × List Node) (table : Table Node) (seen : Finset Node) :
    unseen (entry :: table) seen =
      (if entry.1 ∈ seen then 0 else entry.2.length) + unseen table seen :=
  rfl

theorem unseen_insert_le (table : Table Node) (seen : Finset Node) (node : Node) :
    unseen table (insert node seen) ≤ unseen table seen := by
  induction table with
  | nil => exact Nat.le_refl 0
  | cons entry table ih =>
    rw [unseen_cons, unseen_cons]
    refine Nat.add_le_add ?_ ih
    by_cases isSeen : entry.1 ∈ seen
    · rw [if_pos (Finset.mem_insert_of_mem isSeen)]
      exact Nat.zero_le _
    · rw [if_neg isSeen]
      split
      · exact Nat.zero_le _
      · exact Nat.le_refl _

/-- Seeing a node takes its children off the count. -/
theorem unseen_insert (table : Table Node) {seen : Finset Node} {node : Node}
    (fresh : node ∉ seen) :
    unseen table (insert node seen) + (table.children node).length ≤ unseen table seen := by
  induction table with
  | nil => exact Nat.le_refl 0
  | cons entry table ih =>
    rcases entry with ⟨parent, children⟩
    rw [unseen_cons, unseen_cons]
    by_cases here : node = parent
    · have found : Table.children ((parent, children) :: table) node = children := by
        simp [Table.children, List.lookup, here]
      have later := unseen_insert_le table seen node
      rw [found, if_pos (here ▸ Finset.mem_insert_self node seen), if_neg (here ▸ fresh)]
      show 0 + unseen table (insert node seen) + children.length ≤ children.length + unseen table seen
      omega
    · have found : Table.children ((parent, children) :: table) node = Table.children table node := by
        simp [Table.children, List.lookup, beq_false_of_ne here]
      have same : parent ∈ insert node seen ↔ parent ∈ seen := by
        rw [Finset.mem_insert]
        exact or_iff_right fun isNode => here isNode.symm
      rw [found]
      simp only [same]
      omega

/-- The nodes listed so far, those seen, and those to come, the next one first. -/
def loop (table : Table Node) (order : List Node) (seen : Finset Node) : List Node -> List Node
  | [] => order
  | node :: stack =>
    if node ∈ seen then loop table order seen stack
    else loop table (order ++ [node]) (insert node seen) ((table.children node).reverse ++ stack)
termination_by stack => unseen table seen + stack.length
decreasing_by
  · rw [List.length_cons]
    omega
  · rename_i fresh
    have drops := unseen_insert table fresh
    rw [List.length_append, List.length_reverse, List.length_cons]
    omega

/-- The nodes under a root, the root first. -/
def walk (root : Node) (table : Table Node) : List Node := loop table [] ∅ [root]

/-! ## What it lists -/

/-- A list in which the root comes first, and every other node after one it is
under. -/
inductive Descends (table : Table Node) (root : Node) : List Node -> Prop where
  | root : Descends table root [root]
  | child {order : List Node} {parent child : Node} (descends : Descends table root order)
      (listed : parent ∈ order) (isChild : Child table parent child) :
      Descends table root (order ++ [child])

/-- What the walk keeps up: what it has listed, and where it goes on. -/
structure Walking (table : Table Node) (root : Node) (order : List Node) (seen : Finset Node)
    (stack : List Node) : Prop where
  seen : forall node, node ∈ seen ↔ node ∈ order
  nodup : order.Nodup
  begun : (order = [] ∧ stack = [root]) ∨ Descends table root order
  next : forall node, node ∈ stack -> order ≠ [] ->
    node = root ∨ exists parent, parent ∈ order ∧ Child table parent node
  covered : forall parent child, parent ∈ order -> Child table parent child ->
    child ∈ order ∨ child ∈ stack

variable {table : Table Node} {root : Node} {order stack : List Node} {seen : Finset Node}

section

variable (descends : Descends table root order)
include descends

theorem Descends.root_mem : root ∈ order := by
  induction descends with
  | root => exact List.mem_singleton.mpr rfl
  | child _ _ _ ih => exact List.mem_append_left _ ih

theorem Descends.head : order.head? = some root := by
  induction descends with
  | root => rfl
  | child _ _ _ ih =>
    rw [List.head?_append, ih]
    rfl

theorem Descends.reachable : forall node, node ∈ order -> ReflTransGen (Child table) root node := by
  induction descends with
  | root =>
    intro node member
    rw [List.mem_singleton.mp member]
  | child _ listed isChild ih =>
    intro node member
    rcases List.mem_append.mp member with before | last
    · exact ih node before
    · rw [List.mem_singleton.mp last]
      exact (ih _ listed).tail isChild

/-- In a list without repetition every node but the root stands after one it is
under. -/
theorem Descends.after (nodup : order.Nodup) :
    forall node, node ∈ order -> node ≠ root ->
      exists parent, Child table parent node ∧ parent ∈ order ∧
        order.idxOf parent < order.idxOf node := by
  induction descends with
  | root =>
    intro node member other
    exact absurd (List.mem_singleton.mp member) other
  | @child order parent child _ listed isChild ih =>
    intro node member other
    have before := List.nodup_append.mp nodup
    have apart (earlier : Node) (isEarlier : earlier ∈ order) :
        (order ++ [child]).idxOf earlier = order.idxOf earlier :=
      List.idxOf_append_of_mem isEarlier
    rcases List.mem_append.mp member with isEarlier | last
    · rcases ih before.1 node isEarlier other with ⟨above, isAbove, isListed, stands⟩
      refine ⟨above, isAbove, List.mem_append_left _ isListed, ?_⟩
      rw [apart above isListed, apart node isEarlier]
      exact stands
    · rw [List.mem_singleton.mp last]
      refine ⟨parent, isChild, List.mem_append_left _ listed, ?_⟩
      have fresh : child ∉ order := fun isListed =>
        before.2.2 child isListed child (List.mem_singleton.mpr rfl) rfl
      rw [apart parent listed, List.idxOf_append_of_notMem fresh]
      exact Nat.lt_add_right _ (List.idxOf_lt_length_iff.mpr listed)

end

theorem Walking.skip {node : Node} (walking : Walking table root order seen (node :: stack))
    (isSeen : node ∈ seen) : Walking table root order seen stack := by
  have listed := (walking.seen node).mp isSeen
  refine ⟨walking.seen, walking.nodup, ?_, ?_, ?_⟩
  · rcases walking.begun with ⟨nothing, _⟩ | descends
    · rw [nothing] at listed
      cases listed
    · exact Or.inr descends
  · exact fun later member => walking.next later (List.mem_cons_of_mem node member)
  · intro parent child isParent isChild
    rcases walking.covered parent child isParent isChild with isListed | onStack
    · exact Or.inl isListed
    · rcases List.mem_cons.mp onStack with same | isLater
      · exact Or.inl (same ▸ listed)
      · exact Or.inr isLater

theorem Walking.list {node : Node} (walking : Walking table root order seen (node :: stack))
    (fresh : node ∉ seen) :
    Walking table root (order ++ [node]) (insert node seen)
      ((table.children node).reverse ++ stack) := by
  have unlisted : node ∉ order := fun listed => fresh ((walking.seen node).mpr listed)
  refine ⟨?_, ?_, Or.inr ?_, ?_, ?_⟩
  · intro other
    rw [Finset.mem_insert, walking.seen, List.mem_append, List.mem_singleton]
    exact or_comm
  · refine List.nodup_append.mpr ⟨walking.nodup, List.nodup_singleton node, ?_⟩
    intro other listed last isLast
    rw [List.mem_singleton.mp isLast]
    rintro rfl
    exact unlisted listed
  · rcases walking.begun with ⟨nothing, onlyRoot⟩ | descends
    · rw [nothing, (List.cons.inj onlyRoot).1]
      exact Descends.root
    · have nonempty : order ≠ [] := fun nothing => by
        rw [nothing] at descends
        exact absurd descends.root_mem List.not_mem_nil
      rcases walking.next node List.mem_cons_self nonempty with isRoot | ⟨parent, listed, isChild⟩
      · exact absurd (isRoot ▸ descends.root_mem) unlisted
      · exact descends.child listed isChild
  · intro later member _
    rcases List.mem_append.mp member with isChild | onStack
    · exact Or.inr ⟨node, List.mem_append_right _ (List.mem_singleton.mpr rfl),
        List.mem_reverse.mp isChild⟩
    · by_cases nothing : order = []
      · rcases walking.begun with ⟨_, onlyRoot⟩ | descends
        · rw [(List.cons.inj onlyRoot).2] at onStack
          cases onStack
        · rw [nothing] at descends
          exact absurd descends.root_mem List.not_mem_nil
      · rcases walking.next later (List.mem_cons_of_mem node onStack) nothing with
          isRoot | ⟨parent, listed, isChild⟩
        · exact Or.inl isRoot
        · exact Or.inr ⟨parent, List.mem_append_left _ listed, isChild⟩
  · intro parent child isParent isChild
    rcases List.mem_append.mp isParent with listed | last
    · rcases walking.covered parent child listed isChild with isListed | onStack
      · exact Or.inl (List.mem_append_left _ isListed)
      · rcases List.mem_cons.mp onStack with same | isLater
        · exact Or.inl (List.mem_append_right _ (List.mem_singleton.mpr same))
        · exact Or.inr (List.mem_append_right _ isLater)
    · rw [List.mem_singleton.mp last] at isChild
      exact Or.inr (List.mem_append_left _ (List.mem_reverse.mpr isChild))

/-- Where the walk ends, nothing is left to come. -/
theorem Walking.ends (walking : Walking table root order seen stack) :
    exists atEnd, Walking table root (loop table order seen stack) atEnd [] := by
  induction order, seen, stack using loop.induct table with
  | case1 order seen =>
    rw [loop]
    exact ⟨seen, walking⟩
  | case2 order seen node stack isSeen ih =>
    rw [loop, if_pos isSeen]
    exact ih (walking.skip isSeen)
  | case3 order seen node stack fresh ih =>
    rw [loop, if_neg fresh]
    exact ih (walking.list fresh)

theorem walking_start (root : Node) (table : Table Node) : Walking table root [] ∅ [root] where
  seen _ := by simp
  nodup := List.nodup_nil
  begun := Or.inl ⟨rfl, rfl⟩
  next _ _ nonempty := absurd rfl nonempty
  covered _ _ isParent _ := absurd isParent List.not_mem_nil

theorem walk_walking (root : Node) (table : Table Node) :
    exists seen, Walking table root (walk root table) seen [] :=
  (walking_start root table).ends

theorem walk_nodup (root : Node) (table : Table Node) : (walk root table).Nodup := by
  rcases walk_walking root table with ⟨seen, walking⟩
  exact walking.nodup

theorem walk_descends (root : Node) (table : Table Node) :
    Descends table root (walk root table) := by
  rcases walk_walking root table with ⟨seen, walking⟩
  rcases walking.begun with ⟨_, impossible⟩ | descends
  · cases impossible
  · exact descends

/-- The walk lists what can be reached. -/
theorem mem_walk {root : Node} {table : Table Node} {node : Node} :
    node ∈ walk root table ↔ ReflTransGen (Child table) root node := by
  rcases walk_walking root table with ⟨seen, walking⟩
  have descends := walk_descends root table
  constructor
  · exact descends.reachable node
  · intro reached
    induction reached with
    | refl => exact descends.root_mem
    | tail _ isChild ih =>
      rcases walking.covered _ _ ih isChild with listed | onStack
      · exact listed
      · cases onStack

end StackWalk
end RocmCli
