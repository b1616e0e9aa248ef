import RocmCli.Support.ErrorChain
import Mathlib.Data.List.Nodup

namespace RocmCli
namespace Files

/-!
# A tree of files

Paths are lists of names below the root, and there are no links.  What a file
system takes to be one name is a parameter, so a write can find its file under
another spelling.
-/

abbrev Bytes := List UInt8

abbrev Name := List Char

abbrev FilePath := List Name

/-- Which names are one name to the file system.  A separator is never part of
a name, so it tells names apart. -/
structure NameRules where
  fold : Name -> Name
  slash : forall first second, fold first = fold second -> '/' ∈ first -> '/' ∈ second

inductive Node where
  | folder
  | file (bytes : Bytes)
  deriving DecidableEq, Repr

abbrev FileTree := List (FilePath × Node)

def fail {R : Type u} (message : String) : Except ErrorChain R :=
  .error (ErrorChain.ofMessage message)

/-! ## Nodes -/

namespace FileTree

variable (rules : NameRules)

def samePath (first second : FilePath) : Prop := first.map rules.fold = second.map rules.fold

instance (first second : FilePath) : Decidable (samePath rules first second) :=
  inferInstanceAs (Decidable (_ = _))

def node (tree : FileTree) (path : FilePath) : Option Node :=
  (tree.find? fun entry => samePath rules entry.1 path).map Prod.snd

/-- The bytes of the file at a path. -/
def file (tree : FileTree) (path : FilePath) : Option Bytes :=
  match tree.node rules path with
  | some (.file bytes) => some bytes
  | some .folder | none => none

/-- The root is a folder. -/
def isFolder (tree : FileTree) (path : FilePath) : Bool :=
  path.isEmpty || tree.node rules path == some .folder

/-- Make the folders that are missing, up to the first that a file is in the
way of. -/
def createDirAll (tree : FileTree) : List FilePath -> FileTree × Except ErrorChain Unit
  | [] => (tree, .ok ())
  | path :: rest =>
      if tree.isFolder rules path then createDirAll tree rest
      else
        match tree.node rules path with
        | none => createDirAll (tree ++ [(path, .folder)]) rest
        | some _ => (tree, fail "not a directory")

/-- Replace the bytes of a file, or make it.  A file keeps the name it has. -/
def write (tree : FileTree) (path : FilePath) (bytes : Bytes) :
    Except ErrorChain FileTree :=
  match tree.node rules path with
  | none => .ok (tree ++ [(path, .file bytes)])
  | some .folder => fail "is a directory"
  | some (.file _) =>
      .ok (tree.map fun entry =>
        if samePath rules entry.1 path then (entry.1, .file bytes) else entry)

/-- No two nodes have one path. -/
abbrev Distinct (tree : FileTree) : Prop := (tree.map fun entry => entry.1.map rules.fold).Nodup

/-- Every node has its own path, and every folder above a node is there. -/
structure WellFormed (tree : FileTree) : Prop where
  distinct : tree.Distinct rules
  rooted : forall entry, entry ∈ tree -> forall size, size < entry.1.length ->
    tree.isFolder rules (entry.1.take size) = true

/-! ## Lookups and writes -/

variable {rules}

variable {first second : FilePath}

theorem samePath_take (same : samePath rules first second) (size : Nat) :
    samePath rules (first.take size) (second.take size) := by
  unfold samePath at same ⊢
  rw [List.map_take, List.map_take, same]

theorem node_congr (tree : FileTree) (same : samePath rules first second) :
    tree.node rules first = tree.node rules second := by
  have tests : (fun entry : FilePath × Node => decide (samePath rules entry.1 first)) =
      fun entry => decide (samePath rules entry.1 second) := by
    funext entry
    apply decide_eq_decide.mpr
    exact ⟨fun left => left.trans same, fun right => right.trans same.symm⟩
  unfold node
  rw [tests]

theorem isFolder_congr (tree : FileTree) (same : samePath rules first second) :
    tree.isFolder rules first = tree.isFolder rules second := by
  have sameEmpty := congrArg List.isEmpty same
  rw [List.isEmpty_map, List.isEmpty_map] at sameEmpty
  unfold isFolder
  rw [sameEmpty, node_congr tree same]

variable {tree : FileTree} {path : FilePath}

theorem node_eq_none_iff :
    tree.node rules path = none ↔ forall entry, entry ∈ tree -> ¬ samePath rules entry.1 path := by
  unfold node
  rw [Option.map_eq_none_iff, List.find?_eq_none]
  simp

/-- Where a node is found, and that it is the only one with this path. -/
theorem node_split {found : Node} (distinct : tree.Distinct rules)
    (isNode : tree.node rules path = some found) :
    exists before stored after, tree = before ++ (stored, found) :: after ∧
      samePath rules stored path ∧
      (forall entry, entry ∈ before ++ after -> ¬ samePath rules entry.1 path) := by
  unfold node at isNode
  rcases Option.map_eq_some_iff.mp isNode with ⟨⟨stored, storedNode⟩, isFound, same⟩
  rcases List.find?_eq_some_iff_append.mp isFound with ⟨samePaths, before, after, split, others⟩
  have storedSame : samePath rules stored path := by simpa using samePaths
  have sameNode : storedNode = found := same
  rw [sameNode] at split
  refine ⟨before, stored, after, split, storedSame, fun entry member => ?_⟩
  rcases List.mem_append.mp member with front | back
  · simpa using others entry front
  · intro again
    rw [split, Distinct, List.map_append, List.map_cons] at distinct
    have apart := (List.nodup_cons.mp (List.nodup_append.mp distinct).2.1).1
    apply apart
    have sameFold : entry.1.map rules.fold = stored.map rules.fold := again.trans storedSame.symm
    exact List.mem_map.mpr ⟨entry, back, sameFold⟩

variable {written : FileTree}

section

variable {bytes : Bytes} (distinct : tree.Distinct rules)
  (isWritten : tree.write rules path bytes = .ok written)
include distinct isWritten

/-- A write puts the bytes in the one entry of the path, or adds one. -/
theorem write_split :
    exists before old after stored, tree = before ++ old ++ after ∧
      written = before ++ (stored, Node.file bytes) :: after ∧ samePath rules stored path ∧
      (old = [] ∧ stored = path ∨ exists bytes, old = [(stored, Node.file bytes)]) ∧
      (forall entry, entry ∈ before ++ after -> ¬ samePath rules entry.1 path) := by
  unfold write at isWritten
  rcases found : tree.node rules path with _ | node
  · rw [found] at isWritten
    refine ⟨tree, [], [], path, by simp, (Except.ok.inj isWritten).symm, rfl, Or.inl ⟨rfl, rfl⟩, ?_⟩
    rw [List.append_nil]
    exact node_eq_none_iff.mp found
  · rw [found] at isWritten
    rcases node with _ | previous
    · exact (nomatch isWritten)
    · rcases node_split distinct found with ⟨before, stored, after, split, storedSame, others⟩
      refine ⟨before, [(stored, .file previous)], after, stored, by simp [split], ?_, storedSame,
        Or.inr ⟨previous, rfl⟩, others⟩
      have kept : forall entries : FileTree,
          (forall entry, entry ∈ entries -> ¬ samePath rules entry.1 path) ->
          (entries.map fun entry => if samePath rules entry.1 path then (entry.1, Node.file bytes)
            else entry) = entries := by
        intro entries apart
        have same : (entries.map fun entry => if samePath rules entry.1 path then
            (entry.1, Node.file bytes) else entry) = entries.map id := by
          apply List.map_congr_left
          intro entry member
          exact if_neg (apart entry member)
        rw [same, List.map_id]
      rw [← Except.ok.inj isWritten, split, List.map_append, List.map_cons,
        kept before (fun entry member => others entry (List.mem_append_left _ member)),
        kept after (fun entry member => others entry (List.mem_append_right _ member)),
        if_pos storedSame]

/-- A write leaves every other path as it is. -/
theorem node_write {other : FilePath} (different : ¬ samePath rules other path) :
    written.node rules other = tree.node rules other := by
  rcases write_split distinct isWritten with ⟨before, old, after, stored, split, result, same, olds, _⟩
  have notStored : ¬ samePath rules stored other := by
    intro again
    have otherSame : samePath rules other path := again.symm.trans same
    exact different otherSame
  unfold node
  rw [split, result, List.find?_append, List.append_assoc, List.find?_append,
    List.find?_cons_of_neg (by simpa using notStored)]
  rcases olds with ⟨empty, _⟩ | ⟨bytes, one⟩
  · rw [empty, List.nil_append]
  · rw [one, List.cons_append, List.nil_append, List.find?_cons_of_neg (by simpa using notStored)]

theorem file_write {other : FilePath} (different : ¬ samePath rules other path) :
    written.file rules other = tree.file rules other := by
  unfold file
  rw [node_write distinct isWritten different]

end

/-- More folders change no file. -/
theorem file_append_folders {more : FileTree}
    (folders : forall entry, entry ∈ more -> entry.2 = Node.folder) :
    (tree ++ more : FileTree).file rules path = tree.file rules path := by
  unfold file node
  rw [List.find?_append]
  rcases inTree : tree.find? (fun entry => samePath rules entry.1 path) with _ | entry
  · rw [inTree, Option.none_or]
    rcases inMore : more.find? (fun entry => samePath rules entry.1 path) with _ | entry
    · rw [inMore]
    · have isFolder := folders entry (List.mem_of_find?_eq_some inMore)
      rw [inMore, Option.map_some, isFolder]
      rfl
  · rw [inTree, Option.some_or]

theorem distinct_write {bytes : Bytes} (distinct : tree.Distinct rules)
    (isWritten : tree.write rules path bytes = .ok written) : written.Distinct rules := by
  rcases write_split distinct isWritten with ⟨before, old, after, stored, split, result, same, olds, others⟩
  rcases olds with ⟨empty, _⟩ | ⟨bytes, one⟩
  · rw [result, Distinct, List.map_append, List.map_cons]
    rw [split, empty, List.append_nil, Distinct, List.map_append] at distinct
    rw [List.nodup_middle, List.nodup_cons]
    refine ⟨?_, distinct⟩
    rw [← List.map_append]
    intro member
    rcases List.mem_map.mp member with ⟨entry, inside, sameFold⟩
    have again : samePath rules entry.1 stored := sameFold
    exact others entry inside (again.trans same)
  · rw [split, one] at distinct
    rw [result, Distinct]
    simpa [Distinct] using distinct

/-- Making folders adds only folders, at paths where nothing was. -/
theorem createDirAll_spec (paths : List FilePath) (tree : FileTree)
    (distinct : tree.Distinct rules) :
    exists added, (tree.createDirAll rules paths).1 = tree ++ added ∧
      (tree ++ added : FileTree).Distinct rules ∧
      forall entry, entry ∈ added -> entry.2 = Node.folder ∧ entry.1 ∈ paths := by
  induction paths generalizing tree with
  | nil => exact ⟨[], by simp [createDirAll], by simpa using distinct, fun _ member => absurd member List.not_mem_nil⟩
  | cons path rest ih =>
      unfold createDirAll
      by_cases there : tree.isFolder rules path = true
      · rw [if_pos there]
        rcases ih tree distinct with ⟨added, result, still, folders⟩
        exact ⟨added, result, still, fun entry member =>
          ⟨(folders entry member).1, List.mem_cons_of_mem path (folders entry member).2⟩⟩
      · rw [if_neg there]
        rcases looked : tree.node rules path with _ | found
        · have more : (tree ++ [(path, Node.folder)] : FileTree).Distinct rules := by
            rw [Distinct, List.map_append, List.map_cons, List.map_nil, List.nodup_append]
            refine ⟨distinct, List.nodup_singleton _, ?_⟩
            intro first member second isSecond same
            rw [List.mem_singleton.mp isSecond] at same
            rcases List.mem_map.mp member with ⟨entry, inside, sameFold⟩
            exact node_eq_none_iff.mp looked entry inside (sameFold.trans same)
          rcases ih _ more with ⟨added, result, still, folders⟩
          refine ⟨(path, .folder) :: added, ?_, ?_, ?_⟩
          · dsimp only
            rw [result, List.append_assoc]
            rfl
          · rwa [List.append_assoc] at still
          · intro entry member
            rcases List.mem_cons.mp member with same | later
            · rw [same]
              exact ⟨rfl, List.mem_cons_self⟩
            · exact ⟨(folders entry later).1, List.mem_cons_of_mem path (folders entry later).2⟩
        · exact ⟨[], by simp, by simpa using distinct, fun _ member => absurd member List.not_mem_nil⟩

end FileTree

end Files
end RocmCli
