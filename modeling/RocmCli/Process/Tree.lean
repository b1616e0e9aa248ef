import RocmCli.Support.StackWalk

namespace RocmCli
namespace ProcessTree

open Relation StackWalk

/-!
# The tree of a process

Which processes a stop signals is decided on a table that is put together from
reads at different moments, so it need not be that of a tree.
-/

/-- What was read of each process: its PID and that of its parent. -/
abbrev Reads := List (Nat × Nat)

/-- One more child of a process. -/
def push (children : Table Nat) (parent pid : Nat) : Table Nat :=
  match children with
  | [] => [(parent, [pid])]
  | (other, listed) :: rest =>
      if other = parent then (other, listed ++ [pid]) :: rest
      else (other, listed) :: push rest parent pid

/-- The PIDs of the processes under each. -/
def childTable (reads : Reads) : Table Nat :=
  reads.foldl (fun children read => push children read.2 read.1) []

/-- The root and the processes under it, the root first. -/
def walkProcessTree (root : Nat) (children : Table Nat) : List Nat := walk root children

/-- The processes that a stop of the root reaches. -/
def collectProcessTree (root : Nat) (reads : Reads) : List Nat :=
  walkProcessTree root (childTable reads)

/-! ## The table -/

theorem children_cons (parent node : Nat) (listed : List Nat) (rest : Table Nat) :
    Table.children ((parent, listed) :: rest) node =
      if parent = node then listed else Table.children rest node := by
  by_cases here : parent = node
  · simp [Table.children, List.lookup, here]
  · simp [Table.children, List.lookup, here, beq_false_of_ne (Ne.symm here)]

theorem children_push (children : Table Nat) (parent pid node : Nat) :
    (push children parent pid).children node =
      if parent = node then Table.children children node ++ [pid]
      else Table.children children node := by
  induction children with
  | nil =>
    rw [push, children_cons]
    rfl
  | cons entry rest ih =>
    rcases entry with ⟨other, listed⟩
    rw [push]
    by_cases same : other = parent
    · rw [if_pos same, children_cons, children_cons, same]
      split <;> rfl
    · rw [if_neg same, children_cons, children_cons, ih]
      by_cases here : other = node
      · rw [if_pos here, if_pos here, if_neg fun isNode => same (here.trans isNode.symm)]
      · rw [if_neg here, if_neg here]

/-- A process is under another if a read says so. -/
theorem childTable_child {reads : Reads} {parent pid : Nat} :
    Child (childTable reads) parent pid ↔ (pid, parent) ∈ reads := by
  have built (start : Table Nat) : forall reads : Reads,
      Child (reads.foldl (fun children read => push children read.2 read.1) start) parent pid ↔
        Child start parent pid ∨ (pid, parent) ∈ reads := by
    intro reads
    induction reads generalizing start with
    | nil => simp
    | cons read rest ih =>
      rw [List.foldl_cons, ih, List.mem_cons, ← or_assoc]
      refine or_congr_left ?_
      unfold Child
      rw [children_push]
      by_cases here : read.2 = parent
      · rw [if_pos here, List.mem_append, List.mem_singleton]
        refine or_congr_right ⟨?_, ?_⟩
        · rintro rfl
          exact Prod.ext rfl here.symm
        · rintro rfl
          rfl
      · rw [if_neg here]
        refine ⟨Or.inl, ?_⟩
        rintro (listed | isRead)
        · exact listed
        · exact absurd (congrArg Prod.snd isRead).symm here
  rw [childTable, built []]
  exact or_iff_right List.not_mem_nil

/-- Where every PID was read once, it is under one process. -/
theorem childTable_single {reads : Reads} (once : (reads.map Prod.fst).Nodup) :
    forall pid first second, Child (childTable reads) first pid ->
      Child (childTable reads) second pid -> first = second := by
  intro pid first second isFirst isSecond
  have same := List.inj_on_of_nodup_map once (childTable_child.mp isFirst)
    (childTable_child.mp isSecond) rfl
  exact congrArg Prod.snd same

/-! ## The walk -/

/-- The walk of any table lists the root first and what can be reached from it,
once each; where nothing has two parents, parents come first. -/
theorem walkProcessTree_lists (root : Nat) (children : Table Nat) :
    (walkProcessTree root children).head? = some root ∧
    (walkProcessTree root children).Nodup ∧
    (forall pid, pid ∈ walkProcessTree root children ↔ ReflTransGen (Child children) root pid) ∧
    ((forall pid first second, Child children first pid -> Child children second pid ->
        first = second) ->
      forall pid, pid ∈ walkProcessTree root children -> pid ≠ root ->
        exists parent, Child children parent pid ∧
          (forall other, Child children other pid -> other = parent) ∧
          parent ∈ walkProcessTree root children ∧
          (walkProcessTree root children).idxOf parent < (walkProcessTree root children).idxOf pid) := by
  refine ⟨(walk_descends root children).head, walk_nodup root children, fun _ => mem_walk, ?_⟩
  intro single pid listed other
  rcases (walk_descends root children).after (walk_nodup root children) pid listed other with
    ⟨parent, isParent, isListed, stands⟩
  exact ⟨parent, isParent, fun another isAnother => single pid another parent isAnother isParent,
    isListed, stands⟩

/-- A shell with two jobs, one of which has a job of its own. -/
theorem shell_before_jobs :
    exists parent, Child (childTable [(4, 2), (2, 1), (3, 1)]) parent 4 ∧
      (collectProcessTree 1 [(4, 2), (2, 1), (3, 1)]).idxOf parent <
        (collectProcessTree 1 [(4, 2), (2, 1), (3, 1)]).idxOf 4 := by
  have shell := walkProcessTree_lists 1 (childTable [(4, 2), (2, 1), (3, 1)])
  have two : Child (childTable [(4, 2), (2, 1), (3, 1)]) 1 2 := childTable_child.mpr (by decide)
  have four : Child (childTable [(4, 2), (2, 1), (3, 1)]) 2 4 := childTable_child.mpr (by decide)
  have listed := (shell.2.2.1 4).mpr ((ReflTransGen.single two).tail four)
  rcases shell.2.2.2 (childTable_single (by decide)) 4 listed (by decide) with
    ⟨parent, isParent, _, _, stands⟩
  exact ⟨parent, isParent, stands⟩

end ProcessTree
end RocmCli
