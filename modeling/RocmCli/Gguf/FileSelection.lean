import RocmCli.Gguf.FileNames
import RocmCli.Support.Apportionment

namespace RocmCli
namespace Gguf

open Support.Apportionment Support.Occurrences

/-!
# Selecting a file of a repository

A variant names one model file of a listing, or the shards of one split model.
The answer is stated by what is in the listing and not by its order.
-/

/-- A file of a repository, with the size the listing reported. -/
structure HubFile where
  name : String
  size : Option Nat
deriving DecidableEq, Repr

inductive SelectError where
  | projectorNamed (variant : String) (projectors models : List String)
  | message (text : String)
deriving DecidableEq, Repr

/-! ## Messages -/

/-- At most eight names, and whether there are more. -/
def shownNames (names : List String) : String :=
  let shown := names.take 8 ++ (if 8 < names.length then ["..."] else [])
  if shown.isEmpty then "no GGUF files" else ", ".intercalate shown

def namesForError (files : List HubFile) : String := shownNames (files.map HubFile.name)

def namesForErrorMarkingProjectors (files : List HubFile) : String :=
  shownNames (files.map fun file =>
    if namesProjector file.name then file.name ++ " (multimodal projector)" else file.name)

/-! ## Selecting -/

/-- The first shard, where all candidates have one key. -/
def firstShardOfOneSet (candidates : List HubFile) : Option HubFile := do
  let parts ← collect (candidates.map fun file => shardParts file.name)
  let first ← parts.head?
  if parts.any fun other => other.1 != first.1 then none
  else ((candidates.zip parts).find? fun entry => entry.2.2 == 1).map Prod.fst

def allGgufs (files : List HubFile) : List HubFile := files.filter fun file => isGgufName file.name

def ggufs (files : List HubFile) : List HubFile :=
  (allGgufs files).filter fun file => !namesProjector file.name

/-- The files with a full name, or else those with it as their last component. -/
def namedFiles (files : List HubFile) (variant : String) : List HubFile :=
  let whole := (allGgufs files).filter fun file => file.name == variant
  if whole.isEmpty then
    (allGgufs files).filter fun file => lastComponent file.name == variant.toList
  else whole

/-- The answer for the files that match. -/
def answerFor (files : List HubFile) (variant : String) :
    List HubFile -> Except SelectError HubFile
  | [only] => .ok only
  | [] => .error (.message ("no GGUF file matching `" ++ variant ++ "` in the repository (it has: " ++
      namesForErrorMarkingProjectors (allGgufs files) ++ ")"))
  | several =>
      match firstShardOfOneSet several with
      | some file => .ok file
      | none => .error (.message ("`" ++ variant ++ "` matches several files (" ++
          namesForError several ++ "); name one exactly, as `owner/repo:file.gguf` (or " ++
          "`owner/repo:dir/file.gguf` when the name is not unique)"))

def selectGgufFile (files : List HubFile) (variant : String) : Except SelectError HubFile :=
  if isGgufName variant then
    let named := namedFiles files variant
    let models := named.filter fun file => !namesProjector file.name
    if models.isEmpty && !named.isEmpty then
      .error (.projectorNamed variant (named.map HubFile.name) ((ggufs files).map HubFile.name))
    else answerFor files variant models
  else answerFor files variant ((ggufs files).filter fun file => hasLabel file.name variant)

/-! ## What is to be selected -/

/-- A model file that a variant names: by its full name, by its last component
where no file has the full name, or by a label. -/
def Matching (files : List HubFile) (variant : String) (file : HubFile) : Prop :=
  file ∈ files ∧ isGgufName file.name = true ∧ namesProjector file.name = false ∧
    if isGgufName variant = true then
      file.name = variant ∨ ((forall other, other ∈ files -> other.name ≠ variant) ∧
        lastComponent file.name = variant.toList)
    else Labelled file.name variant

/-- The first of the shards of one model, which all the files are. -/
def FirstShard (isCandidate : HubFile -> Prop) (file : HubFile) : Prop :=
  exists parts, splitShard file.name.toList = some parts ∧ parts.index = 1 ∧
    forall other, isCandidate other -> exists otherParts,
      splitShard other.name.toList = some otherParts ∧ parts.SameModel otherParts

/-- The only candidate, or the first shard of the one model that several
candidates are shards of. -/
def AnswerOf (isCandidate : HubFile -> Prop) (file : HubFile) : Prop :=
  isCandidate file ∧
    ((forall other, isCandidate other -> other = file) ∨ FirstShard isCandidate file)

/-- What is to be selected among the files that match. -/
def Answer (files : List HubFile) (variant : String) (file : HubFile) : Prop :=
  AnswerOf (Matching files variant) file

/-! ## Where the scan and the keys decide the same -/

/-- A file that matches and in whose name the scan finds the label. -/
def Found (files : List HubFile) (variant : String) (file : HubFile) : Prop :=
  Matching files variant file ∧ (isGgufName variant = false -> hasLabel file.name variant = true)

/-- A shard with index 1 among shards that all have its key. -/
def FirstByKey (isCandidate : HubFile -> Prop) (file : HubFile) : Prop :=
  exists parts, splitShard file.name.toList = some parts ∧ parts.index = 1 ∧
    forall other, isCandidate other -> exists otherParts,
      splitShard other.name.toList = some otherParts ∧ parts.key = otherParts.key

/-- Files that the scan passes over change nothing about the answer, and where
the files it finds are all shards with one key, and the index 1 is among them,
they are of one model. -/
structure Separated (files : List HubFile) (variant : String) : Prop where
  scanned : (forall file, Matching files variant file -> Found files variant file) ∨
    (exists first, Found files variant first ∧ FirstShard (Matching files variant) first) ∨
      forall file, ¬ AnswerOf (Found files variant) file ∧ ¬ AnswerOf (Matching files variant) file
  keyed : forall file, Found files variant file -> FirstByKey (Found files variant) file ->
    FirstShard (Found files variant) file

/-! ## Shards of one set -/

theorem shardParts_eq_some {name : String} {part : List Char × Nat} :
    shardParts name = some part ↔ exists parts, splitShard name.toList = some parts ∧
      part = (parts.key, parts.index) := by
  unfold shardParts
  rw [Option.map_eq_some_iff]
  constructor
  · rintro ⟨parts, split, rfl⟩
    exact ⟨parts, split, rfl⟩
  · rintro ⟨parts, split, rfl⟩
    exact ⟨parts, split, rfl⟩

variable {candidates : List HubFile}

/-- Where all candidates are shards, the parts are theirs in order. -/
theorem collect_parts {parts : List (List Char × Nat)}
    (collected : collect (candidates.map fun file => shardParts file.name) = some parts) :
    (forall file, file ∈ candidates -> shardParts file.name =
      some ((shardParts file.name).getD ([], 0))) ∧
      parts = candidates.map fun file => (shardParts file.name).getD ([], 0) := by
  induction candidates generalizing parts with
  | nil =>
      cases collected
      exact ⟨nofun, rfl⟩
  | cons file rest ih =>
      rw [List.map_cons] at collected
      rcases isPart : shardParts file.name with _ | part
      · rw [isPart] at collected
        cases collected
      · rw [isPart] at collected
        rcases Option.map_eq_some_iff.mp collected with ⟨later, collectedLater, rfl⟩
        rcases ih collectedLater with ⟨all, rfl⟩
        refine ⟨fun other listed => ?_, ?_⟩
        · rcases List.mem_cons.mp listed with rfl | listed
          · rw [isPart]
            rfl
          · exact all other listed
        · rw [List.map_cons, isPart]
          rfl

theorem collect_of_parts
    (all : forall file, file ∈ candidates -> exists part, shardParts file.name = some part) :
    collect (candidates.map fun file => shardParts file.name) =
      some (candidates.map fun file => (shardParts file.name).getD ([], 0)) := by
  induction candidates with
  | nil => rfl
  | cons file rest ih =>
      rcases all file List.mem_cons_self with ⟨part, isPart⟩
      have later := ih fun other listed => all other (List.mem_cons_of_mem _ listed)
      rw [List.map_cons, List.map_cons, isPart, collect, later]
      rfl

/-- The first shard is found among the candidates themselves. -/
theorem find_shard (candidates : List HubFile) (part : HubFile -> List Char × Nat) :
    ((candidates.zip (candidates.map part)).find? fun entry => entry.2.2 == 1).map Prod.fst =
      candidates.find? fun file => (part file).2 == 1 := by
  induction candidates with
  | nil => rfl
  | cons file rest ih =>
      rw [List.map_cons, List.zip_cons_cons, List.find?_cons, List.find?_cons]
      dsimp only
      split
      · rfl
      · exact ih

variable {file : HubFile}

/-- What the code returns is a shard with index 1, and all keys are its own. -/
theorem firstShardOfOneSet_some (found : firstShardOfOneSet candidates = some file) :
    file ∈ candidates ∧ FirstByKey (· ∈ candidates) file := by
  unfold firstShardOfOneSet at found
  rcases Option.bind_eq_some_iff.mp found with ⟨parts, collected, found⟩
  rcases Option.bind_eq_some_iff.mp found with ⟨first, isFirst, found⟩
  rcases collect_parts collected with ⟨all, rfl⟩
  split at found
  · cases found
  · rename_i oneKey
    rw [find_shard] at found
    have listed := List.mem_of_find?_eq_some found
    have isOne := List.find?_some found
    rw [beq_iff_eq] at isOne
    -- every key is the first one
    have keys : forall other, other ∈ candidates ->
        ((shardParts other.name).getD ([], 0)).1 = first.1 := by
      intro other otherListed
      by_contra differs
      refine oneKey (List.any_eq_true.mpr ⟨_, List.mem_map_of_mem otherListed, ?_⟩)
      exact bne_iff_ne.mpr differs
    rcases shardParts_eq_some.mp (all file listed) with ⟨fileParts, split, isPart⟩
    refine ⟨listed, fileParts, split, ?_, ?_⟩
    · rw [isPart] at isOne
      exact isOne
    · intro other otherListed
      rcases shardParts_eq_some.mp (all other otherListed) with ⟨otherParts, otherSplit, otherPart⟩
      have fileKey := keys file listed
      have otherKey := keys other otherListed
      rw [isPart] at fileKey
      rw [otherPart] at otherKey
      exact ⟨otherParts, otherSplit, fileKey.trans otherKey.symm⟩

/-- Where all candidates have the key of a shard with index 1, one is returned. -/
theorem firstShardOfOneSet_finds (listed : file ∈ candidates)
    (byKey : FirstByKey (· ∈ candidates) file) :
    exists first, firstShardOfOneSet candidates = some first := by
  rcases byKey with ⟨parts, split, isOne, all⟩
  have shards : forall other, other ∈ candidates -> exists index,
      shardParts other.name = some (parts.key, index) := by
    intro other otherListed
    rcases all other otherListed with ⟨otherParts, otherSplit, sameKey⟩
    exact ⟨otherParts.index, shardParts_eq_some.mpr ⟨otherParts, otherSplit, by rw [sameKey]⟩⟩
  have keys : forall part, part ∈ candidates.map (fun other =>
      (shardParts other.name).getD ([], 0)) -> part.1 = parts.key := by
    intro part partListed
    rcases List.mem_map.mp partListed with ⟨other, otherListed, rfl⟩
    rcases shards other otherListed with ⟨index, isPart⟩
    rw [isPart]
    rfl
  have isFound : firstShardOfOneSet candidates =
      candidates.find? fun other => ((shardParts other.name).getD ([], 0)).2 == 1 := by
    unfold firstShardOfOneSet
    rw [collect_of_parts fun other otherListed => ⟨_, (shards other otherListed).choose_spec⟩]
    rcases isHead : (candidates.map fun other => (shardParts other.name).getD ([], 0)).head? with
      _ | first
    · rw [List.head?_eq_none_iff, List.map_eq_nil_iff] at isHead
      rw [isHead] at listed
      cases listed
    · change (List.head? _ >>= fun first => _) = _
      rw [isHead]
      change (if _ then none else _) = _
      rw [if_neg, find_shard]
      intro differs
      rcases List.any_eq_true.mp differs with ⟨part, partListed, other⟩
      rw [bne_iff_ne] at other
      exact other ((keys part partListed).trans (keys first (List.mem_of_head? isHead)).symm)
  rw [isFound]
  refine Option.isSome_iff_exists.mp (List.find?_isSome.mpr ⟨file, listed, ?_⟩)
  rw [shardParts_eq_some.mpr ⟨parts, split, rfl⟩]
  exact beq_iff_eq.mpr isOne

/-! ## First shards -/

variable {isCandidate : HubFile -> Prop}

theorem FirstShard.byKey (shard : FirstShard isCandidate file) : FirstByKey isCandidate file := by
  rcases shard with ⟨parts, split, isOne, all⟩
  refine ⟨parts, split, isOne, fun other candidate => ?_⟩
  rcases all other candidate with ⟨otherParts, otherSplit, same⟩
  exact ⟨otherParts, otherSplit, key_of_sameModel same⟩

theorem FirstShard.mono {first second : HubFile -> Prop}
    (within : forall file, second file -> first file) (shard : FirstShard first file) :
    FirstShard second file := by
  rcases shard with ⟨parts, split, isOne, all⟩
  exact ⟨parts, split, isOne, fun other candidate => all other (within other candidate)⟩

/-- The candidates have one first shard at most. -/
theorem FirstShard.sameName {other : HubFile} (shard : FirstShard isCandidate file)
    (otherShard : FirstShard isCandidate other) (candidate : isCandidate other) :
    file.name = other.name := by
  rcases shard with ⟨parts, split, isOne, all⟩
  rcases otherShard with ⟨otherParts, otherSplit, otherOne, _⟩
  rcases all other candidate with ⟨_, sameSplit, same⟩
  rw [otherSplit] at sameSplit
  cases sameSplit
  exact String.toList_inj.mp (splitShard_inj split otherSplit same (isOne.trans otherOne.symm))

/-- A shard with index 1 is a first shard wherever another one is. -/
theorem FirstByKey.firstShard {first : HubFile} (byKey : FirstByKey isCandidate file)
    (candidate : isCandidate file) (shard : FirstShard isCandidate first) :
    FirstShard isCandidate file := by
  rcases byKey with ⟨parts, split, isOne, _⟩
  rcases shard with ⟨firstParts, _, _, all⟩
  rcases all file candidate with ⟨_, fileSplit, fileSame⟩
  rw [split] at fileSplit
  cases fileSplit
  refine ⟨parts, split, isOne, fun other otherCandidate => ?_⟩
  rcases all other otherCandidate with ⟨otherParts, otherSplit, same⟩
  exact ⟨otherParts, otherSplit, fileSame.1.symm.trans same.1, fileSame.2.1.symm.trans same.2.1,
    fileSame.2.2.symm.trans same.2.2⟩

/-- Where there is a first shard, it is the answer and nothing else is. -/
theorem FirstShard.answerOf_iff {first : HubFile}
    (distinct : forall file other, isCandidate file -> isCandidate other ->
      file.name = other.name -> file = other) (candidate : isCandidate first)
    (shard : FirstShard isCandidate first) (file : HubFile) :
    AnswerOf isCandidate file ↔ file = first := by
  constructor
  · rintro ⟨isFile, alone | fileShard⟩
    · exact (alone first candidate).symm
    · exact distinct file first isFile candidate (fileShard.sameName shard candidate)
  · rintro rfl
    exact ⟨candidate, Or.inr shard⟩

/-- When the files found have the answers of all the files that match. -/
theorem sameAnswers_iff {found matching : HubFile -> Prop}
    (within : forall file, found file -> matching file)
    (distinct : forall file other, matching file -> matching other ->
      file.name = other.name -> file = other) :
    (forall file, AnswerOf found file ↔ AnswerOf matching file) ↔
      (forall file, matching file -> found file) ∨
        (exists first, found first ∧ FirstShard matching first) ∨
          forall file, ¬ AnswerOf found file ∧ ¬ AnswerOf matching file := by
  constructor
  · intro same
    by_cases answered : exists first, AnswerOf matching first
    · rcases answered with ⟨first, answer⟩
      have isFound := ((same first).mpr answer).1
      rcases answer.2 with alone | shard
      · exact Or.inl fun file matched => alone file matched ▸ isFound
      · exact Or.inr (Or.inl ⟨first, isFound, shard⟩)
    · refine Or.inr (Or.inr fun file => ⟨fun answer => ?_, fun answer => ?_⟩)
      · exact answered ⟨file, (same file).mp answer⟩
      · exact answered ⟨file, answer⟩
  · rintro (all | ⟨first, isFound, shard⟩ | unanswered) file
    · rw [funext fun file => propext ⟨within file, all file⟩]
    · rw [FirstShard.answerOf_iff (fun file other isFile isOther =>
          distinct file other (within file isFile) (within other isOther)) isFound
          (shard.mono within), shard.answerOf_iff distinct (within first isFound)]
    · exact iff_of_false (unanswered file).1 (unanswered file).2

/-! ## The answer -/

variable {files : List HubFile} {variant : String}

theorem answerFor_several {rest : List HubFile} {first second : HubFile} :
    answerFor files variant (first :: second :: rest) = .ok file ↔
      firstShardOfOneSet (first :: second :: rest) = some file := by
  unfold answerFor
  dsimp only
  split
  · rename_i found isFound
    rw [isFound, Except.ok.injEq, Option.some.injEq]
  · rename_i isNone
    rw [isNone]
    constructor
    · intro no
      cases no
    · intro no
      cases no

/-- Two files of a listing with distinct names are not one. -/
theorem not_alone {first second : HubFile} {rest : List HubFile}
    (distinct : ((first :: second :: rest).map HubFile.name).Nodup)
    (alone : forall other, other ∈ first :: second :: rest -> other = file) : False := by
  have firstIs := alone first List.mem_cons_self
  have secondIs := alone second (List.mem_cons_of_mem _ List.mem_cons_self)
  rw [firstIs, secondIs] at distinct
  exact (List.nodup_cons.mp distinct).1 List.mem_cons_self

/-- The answer for some candidates, stated by what is among them. -/
theorem answerFor_ok (distinct : (candidates.map HubFile.name).Nodup)
    (keyed : forall file, file ∈ candidates -> FirstByKey (· ∈ candidates) file ->
      FirstShard (· ∈ candidates) file) (file : HubFile) :
    answerFor files variant candidates = .ok file ↔ AnswerOf (· ∈ candidates) file := by
  match candidates with
  | [] =>
      constructor
      · intro no
        cases no
      · rintro ⟨listed, _⟩
        cases listed
  | [only] =>
      constructor
      · intro found
        cases found
        exact ⟨List.mem_singleton_self _, Or.inl fun other listed => List.mem_singleton.mp listed⟩
      · rintro ⟨listed, _⟩
        rw [List.mem_singleton.mp listed]
        rfl
  | first :: second :: rest =>
      rw [answerFor_several]
      constructor
      · intro found
        rcases firstShardOfOneSet_some found with ⟨listed, byKey⟩
        exact ⟨listed, Or.inr (keyed file listed byKey)⟩
      · rintro ⟨listed, alone | shard⟩
        · exact absurd alone (not_alone distinct)
        · rcases firstShardOfOneSet_finds listed shard.byKey with ⟨found, isFound⟩
          rcases firstShardOfOneSet_some isFound with ⟨foundListed, byKey⟩
          have sameName := shard.sameName (keyed found foundListed byKey) foundListed
          rw [List.inj_on_of_nodup_map distinct listed foundListed sameName, isFound]

/-- Where every file returned is an answer, keys told no two models for one. -/
theorem keyed_of_answers {matching : HubFile -> Prop}
    (distinct : (candidates.map HubFile.name).Nodup)
    (within : forall file, file ∈ candidates -> matching file)
    (answers : forall file, answerFor files variant candidates = .ok file -> AnswerOf matching file)
    (file : HubFile) (listed : file ∈ candidates) (byKey : FirstByKey (· ∈ candidates) file) :
    FirstShard (· ∈ candidates) file := by
  match candidates with
  | [only] =>
      rcases byKey with ⟨parts, split, isOne, _⟩
      refine ⟨parts, split, isOne, fun other otherListed => ?_⟩
      rw [List.mem_singleton.mp otherListed, ← List.mem_singleton.mp listed]
      exact ⟨parts, split, rfl, rfl, rfl⟩
  | first :: second :: rest =>
      rcases firstShardOfOneSet_finds listed byKey with ⟨chosen, isChosen⟩
      rcases (answers chosen (answerFor_several.mpr isChosen)).2 with alone | shard
      · exact absurd (fun other otherListed => alone other (within other otherListed))
          (not_alone distinct)
      · exact byKey.firstShard listed (shard.mono within)

theorem mem_ggufs :
    file ∈ ggufs files ↔
      file ∈ files ∧ isGgufName file.name = true ∧ namesProjector file.name = false := by
  unfold ggufs allGgufs
  rw [List.mem_filter, List.mem_filter, Bool.not_eq_true', and_assoc]

theorem mem_namedFiles (isName : isGgufName variant = true) :
    file ∈ namedFiles files variant ↔ file ∈ files ∧ isGgufName file.name = true ∧
      (file.name = variant ∨ ((forall other, other ∈ files -> other.name ≠ variant) ∧
        lastComponent file.name = variant.toList)) := by
  have whole : forall other : HubFile, (other ∈ (allGgufs files).filter fun file =>
      file.name == variant) ↔ other ∈ files ∧ other.name = variant := by
    intro other
    unfold allGgufs
    rw [List.mem_filter, List.mem_filter, beq_iff_eq]
    constructor
    · rintro ⟨⟨listed, _⟩, same⟩
      exact ⟨listed, same⟩
    · rintro ⟨listed, same⟩
      exact ⟨⟨listed, same ▸ isName⟩, same⟩
  unfold namedFiles
  dsimp only
  split
  · rename_i empty
    rw [List.isEmpty_iff] at empty
    have nobody : forall other, other ∈ files -> other.name ≠ variant := by
      intro other listed same
      have member := (whole other).mpr ⟨listed, same⟩
      rw [empty] at member
      cases member
    unfold allGgufs
    rw [List.mem_filter, List.mem_filter, beq_iff_eq]
    constructor
    · rintro ⟨⟨listed, isGguf⟩, last⟩
      exact ⟨listed, isGguf, Or.inr ⟨nobody, last⟩⟩
    · rintro ⟨listed, isGguf, same | ⟨_, last⟩⟩
      · exact absurd same (nobody file listed)
      · exact ⟨⟨listed, isGguf⟩, last⟩
  · rename_i nonempty
    rw [whole]
    constructor
    · rintro ⟨listed, same⟩
      exact ⟨listed, same ▸ isName, Or.inl same⟩
    · rintro ⟨listed, _, same | ⟨nobody, _⟩⟩
      · exact ⟨listed, same⟩
      · rw [List.isEmpty_iff] at nonempty
        rcases List.exists_mem_of_ne_nil _ nonempty with ⟨other, member⟩
        have both := (whole other).mp member
        exact absurd both.2 (nobody other both.1)

theorem namedFiles_sublist (files : List HubFile) (variant : String) :
    (namedFiles files variant).Sublist files := by
  unfold namedFiles allGgufs
  dsimp only
  split
  · exact List.filter_sublist.trans List.filter_sublist
  · exact List.filter_sublist.trans List.filter_sublist

/-- The code answers for the files found. -/
theorem selectGgufFile_found (files : List HubFile) (variant : String) :
    exists candidates : List HubFile, candidates.Sublist files ∧
      (· ∈ candidates) = Found files variant ∧
      forall file, selectGgufFile files variant = .ok file ↔
        answerFor files variant candidates = .ok file := by
  by_cases isName : isGgufName variant = true
  · refine ⟨(namedFiles files variant).filter fun file => !namesProjector file.name,
      List.filter_sublist.trans (namedFiles_sublist files variant), ?_, ?_⟩
    · funext other
      unfold Found Matching
      rw [List.mem_filter, mem_namedFiles isName, Bool.not_eq_true', if_pos isName, isName,
        eq_iff_iff]
      constructor
      · rintro ⟨⟨listed, isGguf, named⟩, isModel⟩
        exact ⟨⟨listed, isGguf, isModel, named⟩, fun isLabel => by cases isLabel⟩
      · rintro ⟨⟨listed, isGguf, isModel, named⟩, _⟩
        exact ⟨⟨listed, isGguf, named⟩, isModel⟩
    · intro file
      unfold selectGgufFile
      rw [if_pos isName]
      dsimp only
      split
      · rename_i onlyProjectors
        rw [Bool.and_eq_true, List.isEmpty_iff] at onlyProjectors
        rw [onlyProjectors.1]
        constructor
        · intro no
          cases no
        · intro no
          cases no
      · exact Iff.rfl
  · refine ⟨(ggufs files).filter fun file => hasLabel file.name variant, ?_, ?_, ?_⟩
    · unfold ggufs allGgufs
      exact List.filter_sublist.trans (List.filter_sublist.trans List.filter_sublist)
    · funext other
      unfold Found Matching
      rw [List.mem_filter, mem_ggufs, if_neg isName, Bool.eq_false_iff.mpr isName, eq_iff_iff]
      constructor
      · rintro ⟨⟨listed, isGguf, isModel⟩, has⟩
        exact ⟨⟨listed, isGguf, isModel, labelled_of_hasLabel has⟩, fun _ => has⟩
      · rintro ⟨⟨listed, isGguf, isModel, _⟩, has⟩
        exact ⟨⟨listed, isGguf, isModel⟩, has rfl⟩
    · intro file
      unfold selectGgufFile
      rw [if_neg isName]

/-- The selection is the answer exactly where the scan and the keys decide the
same as the names. -/
theorem selectGgufFile_ok (distinct : (files.map HubFile.name).Nodup) (variant : String) :
    (forall file, selectGgufFile files variant = .ok file ↔ Answer files variant file) ↔
      Separated files variant := by
  rcases selectGgufFile_found files variant with ⟨candidates, part, isFound, selected⟩
  have names := distinct.sublist (part.map HubFile.name)
  have same := sameAnswers_iff (fun file (found : Found files variant file) => found.1)
    fun file other matched otherMatched sameName =>
      List.inj_on_of_nodup_map distinct matched.1 otherMatched.1 sameName
  have within : forall file, file ∈ candidates -> Matching files variant file := by
    intro file listed
    rw [funext_iff] at isFound
    exact ((isFound file).mp listed).1
  constructor
  · intro answers
    have keyed := keyed_of_answers names within fun file answered =>
      (answers file).mp ((selected file).mpr answered)
    refine ⟨same.mp fun file => ?_, ?_⟩
    · rw [← isFound, ← answerFor_ok names keyed, ← selected]
      exact answers file
    · rw [← isFound]
      exact keyed
  · intro separated file
    have keyed := separated.keyed
    rw [← isFound] at keyed
    rw [selected, answerFor_ok names keyed, isFound]
    exact same.mpr separated.scanned file

/-! ## Order -/

variable {reordered : List HubFile}

theorem Matching.perm (order : reordered.Perm files) (variant : String) :
    Matching reordered variant = Matching files variant := by
  have nobody : (forall other, other ∈ reordered -> other.name ≠ variant) ↔
      forall other, other ∈ files -> other.name ≠ variant :=
    forall_congr' fun other => imp_congr_left order.mem_iff
  funext file
  unfold Matching
  rw [order.mem_iff, nobody]

theorem Found.perm (order : reordered.Perm files) (variant : String) :
    Found reordered variant = Found files variant := by
  funext file
  unfold Found
  rw [Matching.perm order]

theorem Answer.perm (order : reordered.Perm files) (variant : String) :
    Answer reordered variant = Answer files variant := by
  funext file
  unfold Answer
  rw [Matching.perm order]

theorem Separated.perm (order : reordered.Perm files) (separated : Separated files variant) :
    Separated reordered variant := by
  constructor
  · rw [Found.perm order, Matching.perm order]
    exact separated.scanned
  · rw [Found.perm order]
    exact separated.keyed

/-- Whatever is selected is a model file of the listing. -/
theorem selectGgufFile_model (selected : selectGgufFile files variant = .ok file) :
    file ∈ files ∧ namesProjector file.name = false := by
  have chosen : forall candidates : List HubFile,
      (forall other, other ∈ candidates -> other ∈ files ∧ namesProjector other.name = false) ->
        answerFor files variant candidates = .ok file ->
          file ∈ files ∧ namesProjector file.name = false := by
    intro candidates models answered
    match candidates with
    | [] => cases answered
    | [only] =>
        cases answered
        exact models file List.mem_cons_self
    | first :: second :: rest =>
        unfold answerFor at answered
        dsimp only at answered
        split at answered
        · rename_i found isFound
          cases answered
          unfold firstShardOfOneSet at isFound
          rcases Option.bind_eq_some_iff.mp isFound with ⟨parts, collected, isFound⟩
          rcases Option.bind_eq_some_iff.mp isFound with ⟨head, _, isFound⟩
          rcases collect_parts collected with ⟨_, rfl⟩
          split at isFound
          · cases isFound
          · rw [find_shard] at isFound
            exact models file (List.mem_of_find?_eq_some isFound)
        · cases answered
  unfold selectGgufFile at selected
  split at selected
  · dsimp only at selected
    split at selected
    · cases selected
    · refine chosen _ (fun other listed => ?_) selected
      rw [List.mem_filter, Bool.not_eq_true'] at listed
      exact ⟨(namedFiles_sublist files variant).subset listed.1, listed.2⟩
  · refine chosen _ (fun other listed => ?_) selected
    have parts := mem_ggufs.mp (List.mem_of_mem_filter listed)
    exact ⟨parts.1, parts.2.2⟩

/-- A variant never picks between two models: exactly where the scan and the
keys decide the same as the names, the file selected is the only one that
matches or the first shard of the only model that does, in whatever order the
files are listed. -/
theorem selectGgufFile_answers {files : List HubFile}
    (distinct : (files.map HubFile.name).Nodup) (variant : String) :
    ((forall file, selectGgufFile files variant = .ok file ↔ Answer files variant file) ∧
      (forall reordered, reordered.Perm files -> forall file,
        selectGgufFile reordered variant = .ok file ↔ selectGgufFile files variant = .ok file) ∧
      forall file, selectGgufFile files variant = .ok file ->
        namesProjector file.name = false) ↔ Separated files variant := by
  constructor
  · rintro ⟨answers, _, _⟩
    exact (selectGgufFile_ok distinct variant).mp answers
  · intro separated
    refine ⟨(selectGgufFile_ok distinct variant).mpr separated, ?_, fun file selected =>
      (selectGgufFile_model selected).2⟩
    intro reordered order file
    have distinctReordered : (reordered.map HubFile.name).Nodup :=
      (order.map HubFile.name).nodup_iff.mpr distinct
    rw [(selectGgufFile_ok distinctReordered variant).mpr (separated.perm order),
      (selectGgufFile_ok distinct variant).mpr separated, Answer.perm order]

/-- Names without a bar and a label that does not overlap itself are enough. -/
theorem separated_of_plain (plain : forall file, file ∈ files -> '|' ∉ file.name.toList)
    (apart : isGgufName variant = false -> ¬ Overlaps (lowered variant)) :
    Separated files variant := by
  have inName : forall {name : List Char} {parts : ShardParts}, splitShard name = some parts ->
      '|' ∈ parts.stem -> '|' ∈ name := by
    intro name parts split listed
    rcases splitShard_parts split with ⟨indexText, totalText, _, _, rfl⟩
    exact List.mem_append_left _ (List.mem_append_left _ (List.mem_append_left _ listed))
  constructor
  · refine Or.inl fun file matched => ⟨matched, fun isLabel => ?_⟩
    have labelled := matched.2.2.2
    rw [isLabel] at labelled
    exact hasLabel_of_apart (apart isLabel) labelled
  · rintro file found ⟨parts, split, isOne, all⟩
    refine ⟨parts, split, isOne, fun other otherFound => ?_⟩
    rcases all other otherFound with ⟨otherParts, otherSplit, sameKey⟩
    exact ⟨otherParts, otherSplit, sameModel_of_key
      (fun listed => plain file found.1.1 (inName split listed))
      (fun listed => plain other otherFound.1.1 (inName otherSplit listed)) sameKey⟩

/-- Two shards and a projector. -/
def shardListing : List HubFile :=
  [⟨"m-Q4_K_M-00002-of-00002.gguf", some 2⟩, ⟨"mmproj-Q4_K_M.gguf", none⟩,
    ⟨"m-Q4_K_M-00001-of-00002.gguf", some 1⟩]

theorem shardListing_answers :
    (forall file, selectGgufFile shardListing "Q4_K_M" = .ok file ↔
      Answer shardListing "Q4_K_M" file) ∧
      (forall reordered, reordered.Perm shardListing -> forall file,
        selectGgufFile reordered "Q4_K_M" = .ok file ↔
          selectGgufFile shardListing "Q4_K_M" = .ok file) ∧
      forall file, selectGgufFile shardListing "Q4_K_M" = .ok file ->
        namesProjector file.name = false := by
  refine (selectGgufFile_answers (by decide) _).mpr (separated_of_plain (by decide) fun _ => ?_)
  rintro ⟨shift, positive, close, overlap⟩
  have length : (lowered "Q4_K_M").length = 6 := by decide
  have letters : forall shift, shift < 6 -> 0 < shift ->
      ¬ (lowered "Q4_K_M").drop shift <+: lowered "Q4_K_M" := by decide
  exact letters shift (length ▸ close) positive overlap

/-- Two models whose parts join to one key, and a label that overlaps itself. -/
theorem separation_needed :
    (selectGgufFile [⟨"Q4_0/m-00001-of-00002.b|3|.gguf", none⟩,
        ⟨"Q4_0/m|2|.b-00001-of-00003.gguf", none⟩] "Q4_0").toOption =
      some ⟨"Q4_0/m-00001-of-00002.b|3|.gguf", none⟩ ∧
      (selectGgufFile [⟨"Q4_0/m|2|.b-00001-of-00003.gguf", none⟩,
        ⟨"Q4_0/m-00001-of-00002.b|3|.gguf", none⟩] "Q4_0").toOption =
      some ⟨"Q4_0/m|2|.b-00001-of-00003.gguf", none⟩ ∧
      (selectGgufFile [⟨"xq-q-q.gguf", none⟩] "q-q").toOption = none ∧
      Answer [⟨"xq-q-q.gguf", none⟩] "q-q" ⟨"xq-q-q.gguf", none⟩ := by
  refine ⟨by decide, by decide, by decide, ?_⟩
  refine ⟨⟨List.mem_singleton_self _, by decide, by decide, ?_⟩,
    Or.inl fun other matched => List.mem_singleton.mp matched.1⟩
  rw [if_neg (by decide)]
  exact ⟨3, ⟨by decide, by decide⟩, by decide⟩

end Gguf
end RocmCli
