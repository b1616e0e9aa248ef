import Mathlib.Logic.Function.Basic
import RocmCli.Support.ErrorChain

namespace RocmCli
namespace JsonlStore

/-!
# The files of a rotating store

A store is a live file and its rotated generations, all in one folder.  What
the operations below change is which file each generation's path names, and
what the live file holds.  A file keeps its identity across renames, and an
identity is never reused, which is what an open handle guarantees a reader.

Nothing here looks inside a file, so the contents are lists over an arbitrary
type: bytes for the append path, whole records where only their order matters.
-/

/-- The identity of a file, independent of the name it currently has. -/
abbrev FileId := Nat

/-- The folder of one store.  Generation `0` is the live file. -/
structure Store (E : Type u) where
  named : Nat -> Option FileId
  content : FileId -> List E
  /-- Identities from here on have not been used yet. -/
  next : FileId

/-- How an operation ended early: with a reported error, or because the
process was stopped. -/
inductive Stop where
  | failed (error : ErrorChain)
  | died
  deriving DecidableEq, Repr

/-- The system's answer to an operation that either happens whole or not at
all.  A process can also die around it, on either side of the effect. -/
inductive EffectAnswer where
  | done
  | failed (error : String)
  | died (happened : Bool)
  deriving DecidableEq, Repr

namespace Store

variable {E : Type u}

def empty : Store E := ⟨fun _ => none, fun _ => [], 0⟩

/-- What a reader of the live path finds; a missing file reads as no data. -/
def live (store : Store E) : List E :=
  match store.named 0 with
  | some file => store.content file
  | none => []

/-- No file has two names, and every named file has been created. -/
structure WellNamed (store : Store E) : Prop where
  distinct : forall first second file, store.named first = some file ->
    store.named second = some file -> first = second
  created : forall generation file, store.named generation = some file -> file < store.next

/-- Give the live path a new file holding `items`, dropping its name for any
file it named before.  Creating the live file and replacing it whole are both
this operation. -/
def install (store : Store E) (items : List E) : Store E where
  named := Function.update store.named 0 (some store.next)
  content := Function.update store.content store.next items
  next := store.next + 1

def write (store : Store E) (file : FileId) (items : List E) : Store E :=
  { store with
    content := Function.update store.content file (store.content file ++ items) }

def truncate (store : Store E) (file : FileId) (length : Nat) : Store E :=
  { store with
    content := Function.update store.content file ((store.content file).take length) }

/-- Rename a generation's file over the next generation's path. -/
def rename (store : Store E) (generation : Nat) : Store E :=
  match store.named generation with
  | none => store
  | some file =>
      { store with
        named := Function.update
          (Function.update store.named (generation + 1) (some file)) generation none }

theorem wellNamed_empty : (empty : Store E).WellNamed where
  distinct := by intro first second file named; cases named
  created := by intro generation file named; cases named

@[simp] theorem live_install (store : Store E) (items : List E) :
    (store.install items).live = items := by
  simp [live, install]

theorem install_named (store : Store E) (items : List E) (generation : Nat) :
    (store.install items).named generation =
      if generation = 0 then some store.next else store.named generation := by
  by_cases zero : generation = 0 <;> simp [install, zero]

theorem wellNamed_install {store : Store E} (wellNamed : store.WellNamed) (items : List E) :
    (store.install items).WellNamed where
  distinct := by
    intro first second file firstNamed secondNamed
    rw [install_named] at firstNamed secondNamed
    split at firstNamed <;> split at secondNamed
    · omega
    · cases firstNamed
      exact absurd (wellNamed.created _ _ secondNamed) (Nat.lt_irrefl _)
    · cases secondNamed
      exact absurd (wellNamed.created _ _ firstNamed) (Nat.lt_irrefl _)
    · exact wellNamed.distinct _ _ _ firstNamed secondNamed
  created := by
    intro generation file named
    rw [install_named] at named
    split at named
    · cases named
      exact Nat.lt_succ_self _
    · exact Nat.lt_succ_of_lt (wellNamed.created _ _ named)

theorem wellNamed_write {store : Store E} (wellNamed : store.WellNamed) (file : FileId)
    (items : List E) : (store.write file items).WellNamed :=
  ⟨wellNamed.distinct, wellNamed.created⟩

/-- What each path names after a rename of an existing file. -/
theorem rename_named {store : Store E} {generation : Nat} {file : FileId}
    (present : store.named generation = some file) (other : Nat) :
    (store.rename generation).named other =
      if other = generation then none
      else if other = generation + 1 then some file
      else store.named other := by
  simp only [rename, present]
  by_cases source : other = generation
  · simp [source]
  · by_cases target : other = generation + 1 <;> simp [source, target]

@[simp] theorem rename_content (store : Store E) (generation : Nat) :
    (store.rename generation).content = store.content := by
  unfold rename
  split <;> rfl

@[simp] theorem rename_next (store : Store E) (generation : Nat) :
    (store.rename generation).next = store.next := by
  unfold rename
  split <;> rfl

theorem wellNamed_rename {store : Store E} (wellNamed : store.WellNamed) (generation : Nat) :
    (store.rename generation).WellNamed := by
  cases present : store.named generation with
  | none => simpa only [rename, present] using wellNamed
  | some moved =>
      constructor
      · intro first second file firstNamed secondNamed
        rw [rename_named present] at firstNamed secondNamed
        have same := wellNamed.distinct
        grind
      · intro other file named
        rw [rename_named present] at named
        have created := wellNamed.created
        rw [rename_next]
        grind

end Store

section Live

variable {E : Type u} {store : Store E} {file : FileId}

theorem live_of_named (named : store.named 0 = some file) : store.live = store.content file := by
  simp [Store.live, named]

theorem live_write (named : store.named 0 = some file) (items : List E) :
    (store.write file items).live = store.live ++ items := by
  simp [Store.live, Store.write, named]

theorem live_truncate (named : store.named 0 = some file) (length : Nat) :
    (store.truncate file length).live = store.live.take length := by
  simp [Store.live, Store.truncate, named]

end Live

/-! ## Rotation -/

/-- Path of generation `generation` of the store at `path`. -/
def jsonlGenerationPath (path : String) (generation : Nat) : String :=
  if generation = 0 then path else s!"{path}.{generation}"

/-- Size-based rotation policy for a store. -/
structure JsonlRotation where
  maxBytes : Nat
  generations : Nat
  deriving DecidableEq, Repr

section Rotation

variable {E : Type u}

/-- Continue counting the generations that exist without a gap, at most `left`
more of them. -/
def unbrokenRunFrom (store : Store E) : (left : Nat) -> (run : Nat) -> Nat
  | 0, run => run
  | left + 1, run =>
      if (store.named (run + 1)).isSome then unbrokenRunFrom store left (run + 1) else run

/-- The length of the unbroken run of generations from `.1` up. -/
def unbrokenRun (store : Store E) (generations : Nat) : Nat :=
  unbrokenRunFrom store generations 0

/-- The generations a rotation renames, in order: the run from its old end
down, then the live file.  When every generation exists the oldest is renamed
over, not moved. -/
def rotationOrder (run generations : Nat) : List Nat :=
  (List.range' 1 (min run (generations - 1))).reverse ++ [0]

/-- One `fs::rename` of a generation to the next, as the rotation reports it. -/
def renameGeneration (path : String) (generation : Nat) (answer : EffectAnswer)
    (store : Store E) : Except Stop Unit × Store E :=
  let message := s!"failed to rotate {jsonlGenerationPath path generation} to " ++
    jsonlGenerationPath path (generation + 1)
  match store.named generation with
  | none =>
      (.error (.failed ((ErrorChain.ofMessage "No such file or directory").context message)),
        store)
  | some _ =>
      match answer with
      | .done => (.ok (), store.rename generation)
      | .failed error =>
          (.error (.failed ((ErrorChain.ofMessage error).context message)), store)
      | .died happened => (.error .died, if happened then store.rename generation else store)

/-- Rename in the given order, stopping at the first rename that fails. -/
def renameGenerations (path : String) (answers : Nat -> EffectAnswer) :
    List Nat -> Store E -> Except Stop Unit × Store E
  | [], store => (.ok (), store)
  | generation :: rest, store =>
      match renameGeneration path generation (answers generation) store with
      | (.ok (), renamed) => renameGenerations path answers rest renamed
      | stopped => stopped

/-- Rotate the live file to `.1`, first shifting the generations in its way. -/
def rotateJsonlGenerations (path : String) (generations : Nat)
    (answers : Nat -> EffectAnswer) (store : Store E) : Except Stop Unit × Store E :=
  renameGenerations path answers
    (rotationOrder (unbrokenRun store generations) generations) store

end Rotation
end JsonlStore
end RocmCli
