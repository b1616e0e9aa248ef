import RocmCli.Lemonade.Extents

namespace RocmCli
namespace Lemonade

open Text Crash Crash.Attempt

/-!
# The members of an archive

A member asks for a folder or for a file, or for nothing.  Where its extraction
succeeds the tree gains what it asks for and the folders above, and nothing was
in the way; where it stops, the tree still extends the one before.
-/

/-- What a member asks for, in terms of the parts of its name. -/
inductive Wanted where
  | folder (parts : Place)
  | file (parts : Place) (mode : Option UInt32) (bytes : Bytes)

def TarEntry.wanted : Except ErrorChain TarEntry -> Option Wanted
  | .error _ => none
  | .ok entry =>
      match entry.path, entry.entryType with
      | .ok name, .regular | .ok name, .continuous =>
          some (.file (plainParts name) entry.mode entry.content.bytes)
      | .ok name, .directory => some (.folder (plainParts name))
      | .ok _, .gnuSparse | .ok _, .xGlobalHeader | .ok _, .other _ | .error _, _ => none

def ZipEntry.wanted : Except ErrorChain ZipEntry -> Option Wanted
  | .error _ => none
  | .ok entry =>
      entry.enclosedName.map fun name =>
        if entry.isDir then .folder (plainParts name)
        else .file (plainParts name) entry.unixMode entry.content.bytes

/-- The mode a file ends up with. -/
def finalMode (umask : UInt32) : Option UInt32 -> UInt32
  | none => 0o666 &&& ~~~umask
  | some given => given &&& 0o755

/-- The tree after a member that succeeds, and that nothing was in its way. -/
def Happens (umask : UInt32) (destination : Place) (before after : Tree) : Option Wanted -> Prop
  | none => after = before
  | some (.folder parts) =>
      after = foldersAlong (destination ++ parts) before ∧ Clear (destination ++ parts) before
  | some (.file parts mode bytes) =>
      parts ≠ [] ∧ Clear (destination ++ parts.dropLast) before ∧
        before (destination ++ parts) = none ∧
        after = (foldersAlong (destination ++ parts.dropLast) before).set (destination ++ parts)
          (.file (finalMode umask mode) bytes)

/-! ## Modes -/

theorem givenMode_special {umask mode : UInt32} (given : GivenMode umask mode) :
    mode &&& 0o7000 = 0 := by
  rcases given with rfl | ⟨handed, rfl⟩
  · rw [UInt32.and_assoc, UInt32.and_comm (~~~umask), ← UInt32.and_assoc]
    change 0 &&& _ = _
    exact UInt32.zero_and
  · rw [UInt32.and_assoc]
    exact UInt32.and_zero

theorem handed_foreignWrite (handed : UInt32) : (handed &&& 0o755) &&& 0o022 = 0 := by
  rw [UInt32.and_assoc]
  exact UInt32.and_zero

theorem givenMode_foreignWrite {umask mode : UInt32} (given : GivenMode umask mode)
    (clears : umask &&& 0o022 = 0o022) : mode &&& 0o022 = 0 := by
  rcases given with rfl | ⟨handed, rfl⟩
  · rw [UInt32.and_assoc, UInt32.and_comm (~~~umask), ← UInt32.and_assoc]
    change 0o022 &&& ~~~umask = 0
    rw [← clears, UInt32.and_comm umask, UInt32.and_assoc, UInt32.and_not_self]
    exact UInt32.and_zero
  · exact handed_foreignWrite handed

theorem givenMode_finalMode (umask : UInt32) (mode : Option UInt32) :
    GivenMode umask (finalMode umask mode) := by
  rcases mode with _ | given
  · exact Or.inl rfl
  · exact Or.inr ⟨given, rfl⟩

/-! ## One regular member -/

section Members

variable {host : Host} {destination : Place} {before start : Tree}

/-- Writing a file makes one where nothing was. -/
theorem writeEntryFile_achieves {below : Place} (notRoot : below ≠ []) (content : Content)
    (extended : Extends host.umask destination before start) :
    Achieves (fun tree => tree = start) (Extends host.umask destination before)
      (fun tree => start (destination ++ below) = none ∧
        tree = start.set (destination ++ below) (.file (0o666 &&& ~~~host.umask) content.bytes))
      (writeEntryFile host (destination ++ below) content) := by
  apply achieves_reading
  rintro tree rfl
  by_cases possible : ((tree (destination ++ below)).isNone &&
      tree.isFolder (destination ++ below).dropLast &&
      (destination ++ below).getLast?.all host.accepts) = true
  · rw [if_pos possible]
    have absent : tree (destination ++ below) = none := by
      have isNone := (Bool.and_eq_true_iff.mp (Bool.and_eq_true_iff.mp possible).1).1
      simpa using isNone
    have halfway : forall bytes : Bytes, Extends host.umask destination before
        (tree.set (destination ++ below) (.file (0o666 &&& ~~~host.umask) bytes)) :=
      fun bytes => extended.set notRoot (absent_before extended absent) (Or.inl rfl)
    have created : Achieves (fun other => other = tree) (Extends host.umask destination before)
        (fun other => other =
          tree.set (destination ++ below) (.file (0o666 &&& ~~~host.umask) []))
        (change fun tree => tree.set (destination ++ below)
          (.file (0o666 &&& ~~~host.umask) [])) := by
      apply achieves_change
      · rintro other rfl
        exact halfway []
      · rintro other rfl
        rfl
    have copied := achieves_each (Extends host.umask destination before)
      (appendByte (destination ++ below))
      (fun done other => other =
        tree.set (destination ++ below) (.file (0o666 &&& ~~~host.umask) done))
      content.bytes (fun done byte _ _ => by
        apply achieves_change
        · rintro other rfl
          rw [Tree.edit_set]
          exact halfway _
        · rintro other rfl
          exact Tree.edit_set _ _ _ _ _)
    refine achieves_andThen created (achieves_andThen copied ?_)
    rcases content.fault with _ | error
    · apply achieves_done
      rintro other rfl
      exact ⟨absent, rfl⟩
    · apply achieves_failWith
      rintro other rfl
      exact halfway _
  · rw [if_neg possible]
    apply achieves_failWith
    rintro other rfl
    exact extended

theorem setEntryMode_achieves {below : Place} (notRoot : below ≠ []) (mode : Option UInt32)
    (bytes : Bytes) (extended : Extends host.umask destination before start)
    (absent : start (destination ++ below) = none) :
    Achieves
      (fun tree => tree =
        start.set (destination ++ below) (.file (0o666 &&& ~~~host.umask) bytes))
      (Extends host.umask destination before)
      (fun tree => Extends host.umask destination before tree ∧ tree =
        start.set (destination ++ below) (.file (finalMode host.umask mode) bytes))
      (setEntryMode (destination ++ below) mode) := by
  have finished : Extends host.umask destination before
      (start.set (destination ++ below) (.file (finalMode host.umask mode) bytes)) :=
    extended.set notRoot (absent_before extended absent) (givenMode_finalMode _ _)
  rcases mode with _ | given
  · apply achieves_done
    rintro tree rfl
    exact ⟨finished, rfl⟩
  · unfold setEntryMode
    apply achieves_change
    · rintro tree rfl
      rw [Tree.edit_set]
      exact finished
    · rintro tree rfl
      rw [Tree.edit_set]
      exact ⟨finished, rfl⟩

/-- A regular member: its parents, its bytes, its mode. -/
theorem regular_achieves {parts : Place} (notRoot : parts ≠ []) (content : Content)
    (mode : Option UInt32) (rooted : Rooted destination before) :
    Achieves (fun tree => tree = start ∧ Extends host.umask destination before tree)
      (Extends host.umask destination before)
      (fun tree => Extends host.umask destination before tree ∧
        Happens host.umask destination start tree (some (.file parts mode content.bytes)))
      (andThen (createEntryParent host destination (destination ++ parts))
        (andThen (writeEntryFile host (destination ++ parts) content)
          (setEntryMode (destination ++ parts) mode))) := by
  have parent : (destination ++ parts).dropLast = destination ++ parts.dropLast :=
    List.dropLast_append_of_ne_nil notRoot
  have pathNotRoot : destination ++ parts ≠ [] := fun empty =>
    notRoot (List.append_eq_nil_iff.mp empty).2
  have made : Achieves (fun tree => tree = start ∧ Extends host.umask destination before tree)
      (Extends host.umask destination before)
      (fun tree => Extends host.umask destination before tree ∧
        tree = foldersAlong (destination ++ parts.dropLast) start ∧
        Clear (destination ++ parts.dropLast) start)
      (createEntryParent host destination (destination ++ parts)) := by
    have startsWith : (!destination.isPrefixOf (destination ++ parts.dropLast)) = false := by
      have isPrefix := List.isPrefixOf_iff_prefix.mpr (List.prefix_append destination parts.dropLast)
      rw [isPrefix]
      rfl
    unfold createEntryParent
    rw [if_neg pathNotRoot, parent, if_neg (by rw [startsWith]; exact Bool.false_ne_true)]
    exact createDirAll_achieves rooted ⟨_, rfl⟩
  -- What follows starts in a tree that is known.
  refine achieves_andThen made ?_
  have follows : forall tree, Extends host.umask destination before tree ∧
      tree = foldersAlong (destination ++ parts.dropLast) start ∧
      Clear (destination ++ parts.dropLast) start ->
      Achieves (fun other => other = tree) (Extends host.umask destination before)
        (fun tree => Extends host.umask destination before tree ∧
          Happens host.umask destination start tree (some (.file parts mode content.bytes)))
        (andThen (writeEntryFile host (destination ++ parts) content)
          (setEntryMode (destination ++ parts) mode)) := by
    rintro tree ⟨extended, isTree, clear⟩
    have written := writeEntryFile_achieves notRoot content extended
    by_cases absent : tree (destination ++ parts) = none
    · refine achieves_andThen (written.consequence (fun _ same => same) (fun _ kept => kept)
        fun _ both => both.2) ?_
      refine (setEntryMode_achieves notRoot mode content.bytes extended absent).consequence
        (fun _ same => same) (fun _ kept => kept) ?_
      rintro other ⟨kept, isOther⟩
      refine ⟨kept, notRoot, clear, ?_, by rw [isOther, isTree]⟩
      have notParent : ¬ destination ++ parts <+: destination ++ parts.dropLast := by
        intro isPrefix
        have shorter := isPrefix.length_le
        rw [List.length_append, List.length_append, List.length_dropLast] at shorter
        have positive := List.length_pos_iff.mpr notRoot
        omega
      rw [isTree] at absent
      unfold foldersAlong at absent
      rwa [if_neg fun both => notParent both.2] at absent
    · have never : Achieves (fun other => other = tree) (Extends host.umask destination before)
          (fun _ => False) (writeEntryFile host (destination ++ parts) content) :=
        written.consequence (fun _ same => same) (fun _ kept => kept) fun _ both => absent both.1
      refine achieves_andThen never ?_
      exact ⟨fun _ never => never.elim, fun _ never => never.elim⟩
  exact ⟨fun tree holds => (follows tree holds).passes tree rfl,
    fun tree holds => (follows tree holds).ends tree rfl⟩

end Members

/-! ## One member -/

section Loops

variable {host : Host} {archive destination : Place} {before : Tree}

/-- What the rules ask of the body of a loop. -/
def Extracts (host : Host) (destination : Place) (before : Tree) (wanted : Option Wanted)
    (attempt : Attempt Tree) : Prop :=
  forall start, Achieves (fun tree => tree = start ∧ Extends host.umask destination before tree)
    (Extends host.umask destination before)
    (fun tree => Extends host.umask destination before tree ∧
      Happens host.umask destination start tree wanted)
    attempt

theorem extracts_failWith (wanted : Option Wanted) (error : ErrorChain) :
    Extracts host destination before wanted (failWith error) :=
  fun _ => achieves_failWith error fun _ holds => holds.2

theorem extracts_done : Extracts host destination before none done :=
  fun _ => achieves_done fun _ holds => ⟨holds.2, holds.1⟩

theorem extracts_folder (parts : Place) (rooted : Rooted destination before) :
    Extracts host destination before (some (.folder parts))
      (createDirAll host (destination ++ parts)) :=
  fun _ => createDirAll_achieves rooted ⟨parts, rfl⟩

theorem extractTarEntry_extracts (rooted : Rooted destination before)
    (entry : Except ErrorChain TarEntry) :
    Extracts host destination before (TarEntry.wanted entry)
      (extractTarEntry host archive destination entry) := by
  rcases entry with error | ⟨path, entryType, mode, content⟩
  · exact extracts_failWith _ _
  · rcases path with error | name
    · exact extracts_failWith _ _
    · change Extracts host destination before _ (if entryType = .xGlobalHeader then done else _)
      by_cases isGlobal : entryType = .xGlobalHeader
      · rw [if_pos isGlobal, isGlobal]
        exact extracts_done
      · rw [if_neg isGlobal]
        rcases found : archiveEntryDestination destination name with error | path
        · exact extracts_failWith _ _
        · rcases archiveEntryDestination_ok found with ⟨rfl, notRoot⟩
          cases entryType with
          | regular => exact fun start => regular_achieves notRoot content mode rooted
          | continuous => exact fun start => regular_achieves notRoot content mode rooted
          | directory => exact extracts_folder _ rooted
          | gnuSparse => exact extracts_failWith _ _
          | xGlobalHeader => exact absurd rfl isGlobal
          | other debug => exact extracts_failWith _ _

theorem extractZipEntry_extracts (rooted : Rooted destination before)
    (entry : Except ErrorChain ZipEntry × Nat) :
    Extracts host destination before (ZipEntry.wanted entry.1)
      (extractZipEntry host archive destination entry) := by
  rcases entry with ⟨error | ⟨name, isSymlink, attributes, enclosedName, isDir, mode, content⟩, index⟩
  · exact extracts_failWith _ _
  · rcases name with error | raw
    · exact extracts_failWith _ _
    · change Extracts host destination before _ (if _ then failWith _ else _)
      by_cases symlink : (isSymlink || (attributes >>> 16) &&& fileTypeMask == symlinkType) = true
      · rw [if_pos symlink]
        exact extracts_failWith _ _
      · rw [if_neg symlink]
        rcases enclosedName with _ | name
        · exact extracts_failWith _ _
        · rcases found : archiveEntryDestination destination name with error | path
          · dsimp only
            rw [found]
            exact extracts_failWith _ _
          · rcases archiveEntryDestination_ok found with ⟨rfl, notRoot⟩
            dsimp only
            rw [found]
            cases isDir with
            | true => exact extracts_folder _ rooted
            | false => exact fun start => regular_achieves notRoot content mode rooted

end Loops

end Lemonade
end RocmCli
