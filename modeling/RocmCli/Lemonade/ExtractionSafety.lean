import RocmCli.Lemonade.Members

namespace RocmCli
namespace Lemonade

open Text Crash Crash.Attempt

/-!
# Extraction is contained and faithful

Whatever an archive holds, and wherever its extraction stops, the tree extends
the one before it below the destination.  An extraction that succeeds leaves a
file for every regular member and the folders the members ask for, and nothing
else.
-/

namespace Wanted

/-- The folders below the destination that a member needs. -/
def Needs : Wanted -> Place -> Prop
  | folder parts, below => below <+: parts
  | file parts _ _, below => below <+: parts.dropLast

def file? : Wanted -> Option Place
  | folder _ => none
  | file parts _ _ => some parts

end Wanted

/-- What the members of an archive ask for, by the reader its name chooses. -/
def wantedFrom (archive : Place) (stored : Stored) : List Wanted :=
  if isZip archive then (stored.zip.toOption.getD []).filterMap ZipEntry.wanted
  else (stored.tar.toOption.getD []).filterMap TarEntry.wanted

/-- Below the destination there is one file for each member that asks for one,
with its bytes, and the folders that the members need. -/
structure Faithful (umask : UInt32) (destination : Place) (wanted : List Wanted) (tree : Tree) :
    Prop where
  files : forall below mode bytes, below ≠ [] ->
    (tree (destination ++ below) = some (.file mode bytes) ↔
      exists given, Wanted.file below given bytes ∈ wanted ∧ mode = finalMode umask given)
  folders : forall below, below ≠ [] ->
    (tree (destination ++ below) = some .folder ↔
      exists member, member ∈ wanted ∧ member.Needs below)
  distinct : (wanted.filterMap Wanted.file?).Nodup

section Faithfulness

variable {host : Host} {archive destination : Place} {before : Tree}

variable {tree : Tree} {parts : Place}

theorem foldersAlong_below {below : Place} (notRoot : below ≠ []) :
    foldersAlong (destination ++ parts) tree (destination ++ below) =
      if below <+: parts then some .folder else tree (destination ++ below) := by
  have notEmpty : destination ++ below ≠ [] := fun empty =>
    notRoot (List.append_eq_nil_iff.mp empty).2
  unfold foldersAlong
  by_cases above : below <+: parts
  · rw [if_pos above, if_pos ⟨notEmpty, (List.prefix_append_right_inj destination).mpr above⟩]
  · rw [if_neg above,
      if_neg fun both => above ((List.prefix_append_right_inj destination).mp both.2)]

theorem not_file_of_clear {below : Place} {mode : UInt32} {bytes : Bytes}
    (clear : Clear (destination ++ parts) tree) (notRoot : below ≠ []) (above : below <+: parts) :
    tree (destination ++ below) ≠ some (.file mode bytes) := by
  intro isFile
  have notEmpty : destination ++ below ≠ [] := fun empty =>
    notRoot (List.append_eq_nil_iff.mp empty).2
  rcases clear _ notEmpty ((List.prefix_append_right_inj destination).mpr above) with
    absent | folder
  · rw [isFile] at absent
    cases absent
  · rw [isFile] at folder
    cases folder

variable {umask : UInt32}

theorem Faithful.start (empty : forall below, below ≠ [] -> tree (destination ++ below) = none) :
    Faithful umask destination [] tree where
  files below mode bytes notRoot := by
    rw [empty below notRoot]
    simp
  folders below notRoot := by
    rw [empty below notRoot]
    simp
  distinct := List.nodup_nil

variable {wanted : List Wanted} {after : Tree}

theorem Faithful.folder (faithful : Faithful umask destination wanted tree)
    (happens : Happens umask destination tree after (some (.folder parts))) :
    Faithful umask destination (wanted ++ [Wanted.folder parts]) after where
  files := by
    rcases happens with ⟨rfl, clear⟩
    intro below mode bytes notRoot
    rw [foldersAlong_below notRoot]
    by_cases above : below <+: parts
    · rw [if_pos above]
      constructor
      · intro isFile
        cases isFile
      · rintro ⟨given, member, isMode⟩
        rcases List.mem_append.mp member with early | last
        · have was := (faithful.files below mode bytes notRoot).mpr ⟨given, early, isMode⟩
          exact absurd was (not_file_of_clear clear notRoot above)
        · cases List.mem_singleton.mp last
    · rw [if_neg above, faithful.files below mode bytes notRoot]
      simp
  folders := by
    rcases happens with ⟨rfl, _⟩
    intro below notRoot
    rw [foldersAlong_below notRoot]
    by_cases above : below <+: parts
    · rw [if_pos above]
      exact iff_of_true rfl
        ⟨.folder parts, List.mem_append_right _ List.mem_cons_self, above⟩
    · rw [if_neg above, faithful.folders below notRoot]
      constructor
      · rintro ⟨member, early, needs⟩
        exact ⟨member, List.mem_append_left _ early, needs⟩
      · rintro ⟨member, inside, needs⟩
        rcases List.mem_append.mp inside with early | last
        · exact ⟨member, early, needs⟩
        · rw [List.mem_singleton.mp last] at needs
          exact absurd needs above
  distinct := by
    rw [List.filterMap_append]
    change (wanted.filterMap Wanted.file? ++ []).Nodup
    rw [List.append_nil]
    exact faithful.distinct

theorem Faithful.file {mode : Option UInt32} {bytes : Bytes}
    (faithful : Faithful umask destination wanted tree)
    (happens : Happens umask destination tree after (some (.file parts mode bytes))) :
    Faithful umask destination (wanted ++ [Wanted.file parts mode bytes]) after := by
  rcases happens with ⟨partsNotRoot, clear, absent, isAfter⟩
  have notAbove : ¬ parts <+: parts.dropLast := by
    intro isPrefix
    have shorter := isPrefix.length_le
    rw [List.length_dropLast] at shorter
    have positive := List.length_pos_iff.mpr partsNotRoot
    omega
  have isNew : forall other given, Wanted.file parts other given ∉ wanted := by
    intro other given member
    have was := (faithful.files parts _ given partsNotRoot).mpr ⟨other, member, rfl⟩
    rw [absent] at was
    cases was
  -- What is at a place below, by whether it is the file, above it or elsewhere.
  have value : forall below, below ≠ [] -> after (destination ++ below) =
      if below = parts then some (.file (finalMode umask mode) bytes)
      else if below <+: parts.dropLast then some .folder else tree (destination ++ below) := by
    intro below notRoot
    rw [isAfter]
    by_cases same : below = parts
    · rw [if_pos same, same]
      exact Tree.set_self _ _ _
    · rw [if_neg same, Tree.set_other _ _ fun joined => same (List.append_cancel_left joined)]
      exact foldersAlong_below notRoot
  refine ⟨fun below found given notRoot => ?_, fun below notRoot => ?_, ?_⟩
  · rw [value below notRoot]
    by_cases same : below = parts
    · rw [if_pos same, same]
      constructor
      · intro isFile
        cases isFile
        exact ⟨mode, List.mem_append_right _ List.mem_cons_self, rfl⟩
      · rintro ⟨other, member, isMode⟩
        rcases List.mem_append.mp member with early | last
        · exact absurd early (isNew other given)
        · cases List.mem_singleton.mp last
          rw [isMode]
    · rw [if_neg same]
      have earlier : (exists other, Wanted.file below other given ∈
          wanted ++ [Wanted.file parts mode bytes] ∧ found = finalMode umask other) ↔
          exists other, Wanted.file below other given ∈ wanted ∧ found = finalMode umask other := by
        constructor
        · rintro ⟨other, member, isMode⟩
          rcases List.mem_append.mp member with early | last
          · exact ⟨other, early, isMode⟩
          · cases List.mem_singleton.mp last
            exact absurd rfl same
        · rintro ⟨other, member, isMode⟩
          exact ⟨other, List.mem_append_left _ member, isMode⟩
      rw [earlier, ← faithful.files below found given notRoot]
      by_cases above : below <+: parts.dropLast
      · rw [if_pos above]
        exact iff_of_false (fun isFile => by cases isFile) (not_file_of_clear clear notRoot above)
      · rw [if_neg above]
  · rw [value below notRoot]
    by_cases same : below = parts
    · rw [if_pos same, same]
      refine iff_of_false (fun isFolder => by cases isFolder) ?_
      rintro ⟨member, inside, needs⟩
      rcases List.mem_append.mp inside with early | last
      · have was := (faithful.folders parts partsNotRoot).mpr ⟨member, early, needs⟩
        rw [absent] at was
        cases was
      · rw [List.mem_singleton.mp last] at needs
        exact notAbove needs
    · rw [if_neg same]
      by_cases above : below <+: parts.dropLast
      · rw [if_pos above]
        exact iff_of_true rfl
          ⟨.file parts mode bytes, List.mem_append_right _ List.mem_cons_self, above⟩
      · rw [if_neg above, faithful.folders below notRoot]
        constructor
        · rintro ⟨member, early, needs⟩
          exact ⟨member, List.mem_append_left _ early, needs⟩
        · rintro ⟨member, inside, needs⟩
          rcases List.mem_append.mp inside with early | last
          · exact ⟨member, early, needs⟩
          · rw [List.mem_singleton.mp last] at needs
            exact absurd needs above
  · rw [List.filterMap_append]
    change (wanted.filterMap Wanted.file? ++ [parts]).Nodup
    rw [List.nodup_append]
    refine ⟨faithful.distinct, List.nodup_singleton _, ?_⟩
    intro first member second isSecond same
    rw [List.mem_singleton.mp isSecond] at same
    rcases List.mem_filterMap.mp member with ⟨wants, early, isFile⟩
    cases wants with
    | folder parts => cases isFile
    | file other mode bytes =>
        have sameParts : other = parts := (Option.some.inj isFile).trans same
        rw [sameParts] at early
        exact isNew mode bytes early

theorem Faithful.member {member : Option Wanted} (faithful : Faithful umask destination wanted tree)
    (happens : Happens umask destination tree after member) :
    Faithful umask destination (wanted ++ member.toList) after := by
  rcases member with _ | (parts | ⟨parts, mode, bytes⟩)
  · rw [Option.toList_none, List.append_nil, happens]
    exact faithful
  · exact faithful.folder happens
  · exact faithful.file happens

/-- The loop over members, of which each is extracted. -/
theorem loop_achieves {Item : Type} (body : Item -> Attempt Tree) (wanted : Item -> Option Wanted)
    (items : List Item)
    (extracts : forall item, item ∈ items -> Extracts host destination before (wanted item) (body item)) :
    Achieves (fun tree => tree = before) (Extends host.umask destination before)
      (fun tree => Extends host.umask destination before tree ∧
        ((forall below, below ≠ [] -> before (destination ++ below) = none) ->
          Faithful host.umask destination (items.filterMap wanted) tree))
      (each body items) := by
  have loop := achieves_each (Extends host.umask destination before) body
    (fun done tree => Extends host.umask destination before tree ∧
      ((forall below, below ≠ [] -> before (destination ++ below) = none) ->
        Faithful host.umask destination (done.filterMap wanted) tree))
    items (fun done item rest split => by
      have member : item ∈ items := by
        rw [split]
        exact List.mem_append_right _ List.mem_cons_self
      have step : forall start, Extends host.umask destination before start ∧
          ((forall below, below ≠ [] -> before (destination ++ below) = none) ->
            Faithful host.umask destination (done.filterMap wanted) start) ->
          Achieves (fun tree => tree = start) (Extends host.umask destination before)
            (fun tree => Extends host.umask destination before tree ∧
              ((forall below, below ≠ [] -> before (destination ++ below) = none) ->
                Faithful host.umask destination ((done ++ [item]).filterMap wanted) tree))
            (body item) := by
        rintro start ⟨extended, faithful⟩
        refine (extracts item member start).consequence (fun _ same => ⟨same, same ▸ extended⟩)
          (fun _ kept => kept) ?_
        rintro tree ⟨kept, happens⟩
        refine ⟨kept, fun empty => ?_⟩
        have more := (faithful empty).member happens
        rw [List.filterMap_append]
        rcases isWanted : wanted item with _ | wants
        · rw [isWanted] at more
          rw [List.filterMap_cons_none isWanted]
          exact more
        · rw [isWanted] at more
          rw [List.filterMap_cons_some isWanted]
          exact more
      exact ⟨fun start holds => (step start holds).passes start rfl,
        fun start holds => (step start holds).ends start rfl⟩)
  refine loop.consequence ?_ (fun _ kept => kept) fun _ holds => holds
  rintro tree rfl
  exact ⟨Extends.refl _ _ _, fun empty => Faithful.start empty⟩

/-! ## Archives -/

/-- The attempts an extraction is made of, one for each member it is handed. -/
def memberSteps (host : Host) (archive destination : Place) (stored : Stored) :
    List (Attempt Tree) :=
  if isZip archive then
    match stored.file, stored.zip with
    | .ok (), .ok entries => entries.zipIdx.map (extractZipEntry host archive destination)
    | .ok (), .error _ | .error _, _ => [extractZip host archive destination stored]
  else
    match stored.file, stored.tar with
    | .ok (), .ok entries => entries.map (extractTarEntry host archive destination)
    | .ok (), .error _ | .error _, _ => [extractTarGz host archive destination stored]

theorem each_memberSteps (host : Host) (archive destination : Place) (stored : Stored) :
    each id (memberSteps host archive destination stored) =
      extractArchive host archive destination stored := by
  unfold memberSteps extractArchive
  obtain ⟨file, tar, zip⟩ := stored
  by_cases zipped : isZip archive = true
  · rw [if_pos zipped, if_pos zipped]
    rcases file with error | ⟨⟩
    · exact andThen_done _
    · rcases zip with error | entries
      · exact andThen_done _
      · exact each_map _ _ _
  · rw [if_neg zipped, if_neg zipped]
    rcases file with error | ⟨⟩
    · exact andThen_done _
    · rcases tar with error | entries
      · exact andThen_done _
      · exact each_map _ _ _

theorem memberSteps_extracts (rooted : Rooted destination before) {stored : Stored}
    {attempt : Attempt Tree} (member : attempt ∈ memberSteps host archive destination stored) :
    exists wanted, Extracts host destination before wanted attempt := by
  unfold memberSteps at member
  obtain ⟨file, tar, zip⟩ := stored
  by_cases zipped : isZip archive = true
  · rw [if_pos zipped] at member
    rcases file with error | ⟨⟩
    · exact ⟨none, List.mem_singleton.mp member ▸ extracts_failWith _ _⟩
    · rcases zip with error | entries
      · exact ⟨none, List.mem_singleton.mp member ▸ extracts_failWith _ _⟩
      · rcases List.mem_map.mp member with ⟨entry, _, rfl⟩
        exact ⟨_, extractZipEntry_extracts rooted entry⟩
  · rw [if_neg zipped] at member
    rcases file with error | ⟨⟩
    · exact ⟨none, List.mem_singleton.mp member ▸ extracts_failWith _ _⟩
    · rcases tar with error | entries
      · exact ⟨none, List.mem_singleton.mp member ▸ extracts_failWith _ _⟩
      · rcases List.mem_map.mp member with ⟨entry, _, rfl⟩
        exact ⟨_, extractTarEntry_extracts rooted entry⟩

theorem extractArchive_achieves (host : Host) (archive : Place)
    (rooted : Rooted destination before) (stored : Stored) :
    Achieves (fun tree => tree = before) (Extends host.umask destination before)
      (fun tree => Extends host.umask destination before tree ∧
        ((forall below, below ≠ [] -> before (destination ++ below) = none) ->
          Faithful host.umask destination (wantedFrom archive stored) tree))
      (extractArchive host archive destination stored) := by
  have refused : forall {post : Tree -> Prop} (error : ErrorChain),
      Achieves (fun tree => tree = before) (Extends host.umask destination before) post
        (failWith error) := by
    intro post error
    apply achieves_failWith
    rintro tree rfl
    exact Extends.refl _ _ _
  unfold extractArchive wantedFrom
  obtain ⟨file, tar, zip⟩ := stored
  by_cases zipped : isZip archive = true
  · rw [if_pos zipped, if_pos zipped]
    rcases file with error | ⟨⟩
    · exact refused _
    · rcases zip with error | entries
      · exact refused _
      · have same : entries.zipIdx.filterMap (fun item => ZipEntry.wanted item.1) =
            entries.filterMap ZipEntry.wanted := by
          change entries.zipIdx.filterMap (ZipEntry.wanted ∘ Prod.fst) = _
          rw [← List.filterMap_map, List.zipIdx_map_fst]
        rw [Except.toOption, Option.getD_some, ← same]
        exact loop_achieves _ _ entries.zipIdx fun entry _ => extractZipEntry_extracts rooted entry
  · rw [if_neg zipped, if_neg zipped]
    rcases file with error | ⟨⟩
    · exact refused _
    · rcases tar with error | entries
      · exact refused _
      · exact loop_achieves _ _ entries fun entry _ => extractTarEntry_extracts rooted entry

/-- Some of the members, from any tree in which the destination is a folder. -/
theorem members_extend (archive : Place) (stored : Stored) (chosen : List (Attempt Tree))
    (rooted : Rooted destination before)
    (among : forall attempt, attempt ∈ chosen ->
      attempt ∈ memberSteps host archive destination stored) :
    Achieves (fun tree => tree = before) (Extends host.umask destination before)
      (Extends host.umask destination before) (each id chosen) := by
  have loop := achieves_each (Extends host.umask destination before) id
    (fun _ => Extends host.umask destination before) chosen (fun done attempt rest split => by
      have member : attempt ∈ chosen := by
        rw [split]
        exact List.mem_append_right _ List.mem_cons_self
      rcases memberSteps_extracts rooted (among attempt member) with ⟨wanted, extracts⟩
      exact ⟨fun start extended => (extracts start).passes start ⟨rfl, extended⟩,
        fun start extended noError => ((extracts start).ends start ⟨rfl, extended⟩ noError).1⟩)
  refine loop.consequence ?_ (fun _ kept => kept) fun _ kept => kept
  rintro tree rfl
  exact Extends.refl _ _ _

end Faithfulness

/-- A folder, or a file without special bits, and without foreign write bits
where new files go without them. -/
def Entry.Harmless (umask : UInt32) : Entry -> Prop
  | .folder => True
  | .file mode _ => mode &&& 0o7000 = 0 ∧ (umask &&& 0o022 = 0o022 -> mode &&& 0o022 = 0)
  | .other => False

theorem harmless_of_allowed {umask : UInt32} {entry : Entry} (allowed : entry.Allowed umask) :
    entry.Harmless umask := by
  cases entry with
  | folder => trivial
  | file mode bytes => exact ⟨givenMode_special allowed, givenMode_foreignWrite allowed⟩
  | other => exact allowed

/-- Extraction into an empty folder: what is created is below the folder and
harmless, wherever it stops; no member changes what earlier members left; and
an extraction that succeeds is faithful. -/
theorem extraction_contained_and_faithful (host : Host) (archive destination : Place)
    (stored : Stored) (before : Tree) (rooted : Rooted destination before)
    (empty : forall below, below ≠ [] -> before (destination ++ below) = none) :
    (forall progress,
      progress ∈ extractArchive host archive destination stored (Attempt.start before) ->
      forall place entry, (before place = some entry -> progress.state place = some entry) ∧
        (before place = none -> progress.state place = some entry ->
          (exists below, below ≠ [] ∧ place = destination ++ below) ∧
            entry.Harmless host.umask)) ∧
    (forall front rest earlier, memberSteps host archive destination stored = front ++ rest ->
      (each id front).last (Attempt.start before) = Attempt.start earlier ->
      extractArchive host archive destination stored (Attempt.start before) =
          each id front (Attempt.start before) ++ each id rest (Attempt.start earlier) ∧
        forall later, later ∈ each id rest (Attempt.start earlier) -> forall place mode bytes,
          earlier place = some (.file mode bytes) ->
            later.state place = some (.file mode bytes)) ∧
    (forall finished,
      (extractArchive host archive destination stored).last (Attempt.start before) =
        Attempt.start finished ->
      Faithful host.umask destination (wantedFrom archive stored) finished ∧
        ((forall parts mode bytes,
            Wanted.file parts mode bytes ∈ wantedFrom archive stored -> mode ≠ none) ->
          forall below mode bytes, below ≠ [] ->
            finished (destination ++ below) = some (.file mode bytes) -> mode &&& 0o022 = 0)) := by
  have whole := extractArchive_achieves host archive rooted stored
  refine ⟨fun progress member place entry => ?_, fun front rest earlier split ended => ?_,
    fun finished ended => ?_⟩
  · have extended := whole.passes before rfl progress member
    refine ⟨extended.kept place entry, fun absent there => ?_⟩
    rcases extended.added place entry absent there with ⟨below, allowed⟩
    exact ⟨below, harmless_of_allowed allowed⟩
  · have parts := each_append id front rest before
    rw [← split, each_memberSteps] at parts
    have going : ¬ ((each id front).last (Attempt.start before)).error.isSome = true := by
      rw [ended]
      exact Bool.false_ne_true
    rw [parts, andThen_of_not_failed _ going, ended]
    refine ⟨rfl, fun later member place mode bytes there => ?_⟩
    -- The tree between two members has the destination as a folder again.
    have frontExtends : Extends host.umask destination before earlier := by
      have keeps : Achieves _ (Extends host.umask destination before) _ _ :=
        members_extend archive stored front rooted fun attempt inFront =>
          split ▸ List.mem_append_left rest inFront
      have ends := keeps.ends before rfl (by rw [ended]; rfl)
      rw [ended] at ends
      exact ends
    have keeps : Achieves _ (Extends host.umask destination earlier) _ _ :=
      members_extend archive stored rest (rooted.kept frontExtends) fun attempt inRest =>
        split ▸ List.mem_append_right front inRest
    exact (keeps.passes earlier rfl later member).kept place _ there
  · have success : ((extractArchive host archive destination stored).last
        (Attempt.start before)).error = none := by rw [ended]; rfl
    have holds := whole.ends before rfl success
    rw [ended] at holds
    have faithful : Faithful host.umask destination (wantedFrom archive stored) finished :=
      holds.2 empty
    refine ⟨faithful, fun modes below mode bytes notRoot isFile => ?_⟩
    rcases (faithful.files below mode bytes notRoot).mp isFile with ⟨given, member, isMode⟩
    rcases given with _ | handed
    · exact absurd rfl (modes below none bytes member)
    · rw [isMode]
      exact handed_foreignWrite handed

/-! ## A run -/

/-- A system with these bits cleared in new files. -/
def sampleHost (umask : UInt32) : Host where
  umask := umask
  accepts name := !name.isEmpty && !name.contains 0 && name.length ≤ 255
  refusal _ := .ofMessage "refused"

def sampleDestination : Place := [[0x64]]

/-- The root and one empty folder. -/
def sampleTree : Tree := fun place => if place = sampleDestination then some .folder else none

theorem sampleTree_rooted : Rooted sampleDestination sampleTree := by
  rintro place ⟨rest, split⟩
  rcases place with _ | ⟨name, more⟩
  · rfl
  · rw [List.cons_append] at split
    rcases List.cons_eq_cons.mp split with ⟨rfl, nothing⟩
    rw [(List.append_eq_nil_iff.mp nothing).1]
    rfl

theorem sampleTree_empty (below : Place) (notRoot : below ≠ []) :
    sampleTree (sampleDestination ++ below) = none := by
  apply if_neg
  intro same
  exact notRoot (List.append_right_eq_self.mp same)

/-- A zip written on a host without modes, with one file in a folder. -/
def sampleZip : Stored where
  file := .ok ()
  tar := .ok []
  zip := .ok [.ok {
    name := .ok "./a/b"
    isSymlink := false
    externalAttributes := 0x20
    enclosedName := some [0x2e, 0x2f, 0x61, 0x2f, 0x62]
    isDir := false
    unixMode := none
    content := ⟨[0x78, 0x79], none⟩ }]

def sampleArchive : Place := [[0x61, 0x2e, 0x5a, 0x69, 0x70]]

theorem sampleZip_extracts :
    ((extractArchive (sampleHost 0o022) sampleArchive sampleDestination sampleZip).last
        (Attempt.start sampleTree)).error = none ∧
      forall finished,
        (extractArchive (sampleHost 0o022) sampleArchive sampleDestination sampleZip).last
          (Attempt.start sampleTree) = Attempt.start finished ->
        Faithful 0o022 sampleDestination (wantedFrom sampleArchive sampleZip) finished := by
  refine ⟨by decide, fun finished ended => ?_⟩
  exact ((extraction_contained_and_faithful (sampleHost 0o022) sampleArchive sampleDestination
    sampleZip sampleTree sampleTree_rooted sampleTree_empty).2.2 finished ended).1

/-- Under an umask that clears nothing the same file can be written by all. -/
theorem sampleZip_writable :
    (Rooted sampleDestination sampleTree ∧
      forall below, below ≠ [] -> sampleTree (sampleDestination ++ below) = none) ∧
    ((extractArchive (sampleHost 0) sampleArchive sampleDestination sampleZip).last
        (Attempt.start sampleTree)).error = none ∧
      ((extractArchive (sampleHost 0) sampleArchive sampleDestination sampleZip).last
        (Attempt.start sampleTree)).state [[0x64], [0x61], [0x62]] =
        some (.file 0o666 [0x78, 0x79]) ∧
      (0o666 : UInt32) &&& 0o022 ≠ 0 := by
  exact ⟨⟨sampleTree_rooted, sampleTree_empty⟩, by decide, by decide, by decide⟩

end Lemonade
end RocmCli
