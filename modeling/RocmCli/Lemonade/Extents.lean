import RocmCli.Lemonade.Extraction

namespace RocmCli
namespace Lemonade

open Text Crash Crash.Attempt

/-!
# What extraction does to the tree

A tree extends an earlier one below a folder if whatever was there still is,
and what is new is a folder or a file below that folder.  Every call of the
extraction extends, also when it is stopped, and where it succeeds the tree it
leaves is known exactly.
-/

/-- A mode the extraction gives a file: the one it is created with, or one an
archive handed over without its special bits and foreign write bits. -/
def GivenMode (umask mode : UInt32) : Prop :=
  mode = 0o666 &&& ~~~umask ∨ exists given : UInt32, mode = given &&& 0o755

def Entry.Allowed (umask : UInt32) : Entry -> Prop
  | .folder => True
  | .file mode _ => GivenMode umask mode
  | .other => False

structure Extends (umask : UInt32) (destination : Place) (before after : Tree) : Prop where
  kept : forall place entry, before place = some entry -> after place = some entry
  added : forall place entry, before place = none -> after place = some entry ->
    (exists below, below ≠ [] ∧ place = destination ++ below) ∧ entry.Allowed umask

/-- The destination and what is above it are folders. -/
def Rooted (destination : Place) (tree : Tree) : Prop :=
  forall place, place <+: destination -> tree.isFolder place = true

/-! ## Names -/

/-- The parts of a name, without the empty ones and the dots. -/
def plainParts (name : Name) : Place :=
  (name.splitOn slash).filter fun part => !(decide (part = [] ∨ part = dot))

theorem foldlM_pushComponent (name : Name) {parts : List Name} {start resolved : Place × Nat}
    (pushed : (parts.filterMap component).foldlM (pushComponent name) start = .ok resolved) :
    resolved.1 = start.1 ++ (parts.filter fun part => !(decide (part = [] ∨ part = dot))) ∧
      resolved.2 =
        start.2 + (parts.filter fun part => !(decide (part = [] ∨ part = dot))).length := by
  induction parts generalizing start with
  | nil =>
      cases pushed
      exact ⟨(List.append_nil _).symm, rfl⟩
  | cons part rest ih =>
      by_cases skipped : part = [] ∨ part = dot
      · have noComponent : component part = none := if_pos skipped
        rw [List.filterMap_cons_none noComponent] at pushed
        have dropped : (!decide (part = [] ∨ part = dot)) = false := by
          rw [decide_eq_true skipped]
          rfl
        rw [List.filter_cons_of_neg (by rw [dropped]; exact Bool.false_ne_true)]
        exact ih pushed
      · rw [List.filter_cons_of_pos (by simpa using skipped)]
        by_cases up : part = dotDot
        · have isParent : component part = some .parentDir := by
            unfold component
            rw [if_neg skipped, if_pos up]
          rw [List.filterMap_cons_some isParent] at pushed
          cases pushed
        · have isNormal : component part = some (.normal part) := by
            unfold component
            rw [if_neg skipped, if_neg up]
          rw [List.filterMap_cons_some isNormal, List.foldlM_cons] at pushed
          rcases one : pushComponent name start (.normal part) with error | next
          · rw [one] at pushed
            cases pushed
          · rw [one] at pushed
            have isNext : next = (start.1 ++ [part], start.2 + 1) := by
              unfold pushComponent at one
              dsimp only at one
              split at one
              · cases one
              · exact (Except.ok.inj one).symm
            rcases ih pushed with ⟨places, count⟩
            rw [isNext] at places count
            refine ⟨?_, ?_⟩
            · rw [places, List.append_assoc]
              rfl
            · rw [count, List.length_cons]
              omega

/-- An accepted name leads to its plain parts below the destination. -/
theorem archiveEntryDestination_ok {destination path : Place} {name : Name}
    (accepted : archiveEntryDestination destination name = .ok path) :
    path = destination ++ plainParts name ∧ plainParts name ≠ [] := by
  have noRoot : forall front : List Component, (components name = front ++
      (name.splitOn slash).filterMap component) -> front = [] ∨ front = [.curDir] ->
      exists resolved, ((name.splitOn slash).filterMap component).foldlM (pushComponent name)
        (destination, 0) = .ok resolved ∧ resolved.2 ≠ 0 ∧ path = resolved.1 := by
    intro front split shape
    unfold archiveEntryDestination at accepted
    rw [split, List.foldlM_append] at accepted
    have skipsFront : front.foldlM (pushComponent name) (destination, 0) =
        .ok (destination, 0) := by
      rcases shape with rfl | rfl
      · rfl
      · rfl
    rw [skipsFront] at accepted
    rcases pushed : ((name.splitOn slash).filterMap component).foldlM (pushComponent name)
        (destination, 0) with error | resolved
    · change ((((name.splitOn slash).filterMap component).foldlM (pushComponent name)
        (destination, 0)) >>= _) = _ at accepted
      rw [pushed] at accepted
      cases accepted
    · change ((((name.splitOn slash).filterMap component).foldlM (pushComponent name)
        (destination, 0)) >>= _) = _ at accepted
      rw [pushed] at accepted
      change (if resolved.2 = 0 then _ else _) = _ at accepted
      by_cases empty : resolved.2 = 0
      · rw [if_pos empty] at accepted
        cases accepted
      · rw [if_neg empty] at accepted
        exact ⟨resolved, rfl, empty, (Except.ok.inj accepted).symm⟩
  have front : exists resolved, ((name.splitOn slash).filterMap component).foldlM
      (pushComponent name) (destination, 0) = .ok resolved ∧ resolved.2 ≠ 0 ∧
        path = resolved.1 := by
    by_cases rootDir : name.head? = some slash
    · unfold archiveEntryDestination components at accepted
      dsimp only at accepted
      rw [if_pos rootDir] at accepted
      cases accepted
    · by_cases leadingDot : (name.splitOn slash).head? = some dot
      · refine noRoot [.curDir] ?_ (Or.inr rfl)
        unfold components
        dsimp only
        rw [if_neg rootDir, if_pos leadingDot]
      · refine noRoot [] ?_ (Or.inl rfl)
        unfold components
        dsimp only
        rw [if_neg rootDir, if_neg leadingDot]
  rcases front with ⟨resolved, pushed, notEmpty, isPath⟩
  rcases foldlM_pushComponent name pushed with ⟨places, count⟩
  refine ⟨isPath.trans places, ?_⟩
  intro noParts
  apply notEmpty
  change resolved.2 = 0 + (plainParts name).length at count
  rw [count, noParts]
  rfl

/-! ## Trees -/

section Trees

variable {umask : UInt32} {destination : Place} {before middle after : Tree}

theorem Tree.set_self (tree : Tree) (place : Place) (entry : Entry) :
    tree.set place entry place = some entry := if_pos rfl

theorem Tree.set_other (tree : Tree) {place other : Place} (entry : Entry)
    (different : other ≠ place) : tree.set place entry other = tree other := if_neg different

theorem Tree.set_set (tree : Tree) (place : Place) (first second : Entry) :
    (tree.set place first).set place second = tree.set place second := by
  funext other
  by_cases same : other = place
  · rw [same, Tree.set_self, Tree.set_self]
  · rw [Tree.set_other _ _ same, Tree.set_other _ _ same, Tree.set_other _ _ same]

theorem Tree.edit_set (tree : Tree) (place : Place) (mode : UInt32) (bytes : Bytes)
    (change : UInt32 -> Bytes -> UInt32 × Bytes) :
    (tree.set place (.file mode bytes)).edit place change =
      tree.set place (.file (change mode bytes).1 (change mode bytes).2) := by
  unfold Tree.edit
  rw [Tree.set_self]
  exact Tree.set_set _ _ _ _

theorem Extends.refl (umask : UInt32) (destination : Place) (tree : Tree) :
    Extends umask destination tree tree where
  kept _ _ there := there
  added place entry absent there := by
    rw [absent] at there
    cases there

theorem Extends.set (extended : Extends umask destination before after) {below : Place}
    {entry : Entry} (notRoot : below ≠ []) (absent : before (destination ++ below) = none)
    (allowed : entry.Allowed umask) :
    Extends umask destination before (after.set (destination ++ below) entry) where
  kept := by
    intro place found there
    have different : place ≠ destination ++ below := by
      intro same
      rw [same, absent] at there
      cases there
    rw [Tree.set_other _ _ different]
    exact extended.kept place found there
  added := by
    intro place found wasAbsent there
    by_cases same : place = destination ++ below
    · rw [same, Tree.set_self] at there
      rw [← Option.some.inj there]
      exact ⟨⟨below, notRoot, same⟩, allowed⟩
    · rw [Tree.set_other _ _ same] at there
      exact extended.added place found wasAbsent there

theorem absent_before (extended : Extends umask destination before after) {place : Place}
    (absent : after place = none) : before place = none := by
  rcases there : before place with _ | entry
  · rfl
  · rw [extended.kept place entry there] at absent
    cases absent

theorem Rooted.kept (rooted : Rooted destination before)
    (extended : Extends umask destination before after) : Rooted destination after := by
  intro place above
  have wasFolder := rooted place above
  unfold Tree.isFolder at wasFolder ⊢
  rcases Bool.or_eq_true_iff.mp wasFolder with root | folder
  · rw [root]
    rfl
  · have isFolder : before place = some .folder := by simpa using folder
    rw [extended.kept place .folder isFolder]
    simp

/-- A prefix of a place below a folder is that folder, or above or below it. -/
theorem prefix_cases {place parts : Place} (isPrefix : place <+: destination ++ parts) :
    place <+: destination ∨ exists below, below ≠ [] ∧ place = destination ++ below := by
  rcases List.prefix_or_prefix_of_prefix isPrefix (List.prefix_append destination parts) with
    above | ⟨below, same⟩
  · exact Or.inl above
  · by_cases empty : below = []
    · left
      rw [← same, empty, List.append_nil]
    · exact Or.inr ⟨below, empty, same.symm⟩

end Trees

/-! ## Folders -/

/-- The tree with every folder down to a path. -/
def foldersAlong (path : Place) (tree : Tree) : Tree :=
  fun place => if place ≠ [] ∧ place <+: path then some .folder else tree place

/-- No file is in the way of a folder at a path. -/
def Clear (path : Place) (tree : Tree) : Prop :=
  forall place, place ≠ [] -> place <+: path -> tree place = none ∨ tree place = some .folder

section Steps

variable {host : Host} {destination : Place} {before start : Tree}

theorem isFolder_iff {tree : Tree} {place : Place} (notRoot : place ≠ []) :
    tree.isFolder place = true ↔ tree place = some .folder := by
  unfold Tree.isFolder
  have notEmpty : place.isEmpty = false := by simpa using notRoot
  rw [notEmpty, Bool.false_or]
  exact beq_iff_eq

/-- One more folder of the chain. -/
theorem makeFolder_achieves (failed : String) {path place : Place} {done : List Place}
    (rooted : Rooted destination before) (inside : exists parts, path = destination ++ parts)
    (isPrefix : place <+: path) :
    Achieves
      (fun tree => Extends host.umask destination before tree ∧
        (forall other, tree other =
          if other ≠ [] ∧ other ∈ done then some .folder else start other) ∧
        forall other, other ≠ [] -> other ∈ done ->
          start other = none ∨ start other = some .folder)
      (Extends host.umask destination before)
      (fun tree => Extends host.umask destination before tree ∧
        (forall other, tree other =
          if other ≠ [] ∧ other ∈ done ++ [place] then some .folder else start other) ∧
        forall other, other ≠ [] -> other ∈ done ++ [place] ->
          start other = none ∨ start other = some .folder)
      (makeFolder host failed place) := by
  apply achieves_reading
  rintro tree ⟨extended, values, clear⟩
  -- What holds with one more place, whether the folder was there or is made.
  have withPlace : forall result : Tree,
      (forall other, result other = if other = place ∧ place ≠ [] then some .folder else tree other) ->
      (place ≠ [] -> tree place = none ∨ tree place = some .folder) ->
      (forall other, result other =
          if other ≠ [] ∧ other ∈ done ++ [place] then some .folder else start other) ∧
        forall other, other ≠ [] -> other ∈ done ++ [place] ->
          start other = none ∨ start other = some .folder := by
    intro result results free
    refine ⟨fun other => ?_, fun other notRoot member => ?_⟩
    · rw [results other, values other]
      by_cases same : other = place
      · by_cases root : place = []
        · rw [same, root]
          simp
        · rw [same, if_pos ⟨rfl, root⟩, if_pos ⟨root, List.mem_append_right _ List.mem_cons_self⟩]
      · rw [if_neg fun both => same both.1]
        simp [same]
    · rcases List.mem_append.mp member with early | last
      · exact clear other notRoot early
      · have same := List.mem_singleton.mp last
        have value := values other
        by_cases seen : other ∈ done
        · exact clear other notRoot seen
        · rw [if_neg fun both => seen both.2] at value
          rw [← value, same]
          exact free (same ▸ notRoot)
  by_cases there : tree.isFolder place = true
  · rw [if_pos there]
    apply achieves_done
    rintro other rfl
    refine ⟨extended, withPlace other (fun asked => ?_) fun notRoot =>
      Or.inr ((isFolder_iff notRoot).mp there)⟩
    by_cases same : asked = place ∧ place ≠ []
    · rw [if_pos same, same.1]
      exact (isFolder_iff same.2).mp there
    · rw [if_neg same]
  · rw [if_neg there]
    have notRoot : place ≠ [] := by
      rintro rfl
      exact there rfl
    by_cases possible : ((tree place).isNone && place.getLast?.all host.accepts) = true
    · rw [if_pos possible]
      have absent : tree place = none := by
        have isNone := (Bool.and_eq_true_iff.mp possible).1
        simpa using isNone
      have isBelow : exists below, below ≠ [] ∧ place = destination ++ below := by
        rcases inside with ⟨parts, split⟩
        rcases prefix_cases (split ▸ isPrefix) with above | below
        · exact absurd (rooted.kept extended place above) there
        · exact below
      have grown : Extends host.umask destination before (tree.set place .folder) := by
        rcases isBelow with ⟨below, notEmpty, rfl⟩
        exact extended.set notEmpty (absent_before extended absent) trivial
      apply achieves_change
      · rintro other rfl
        exact grown
      · rintro other rfl
        refine ⟨grown, withPlace _ (fun asked => ?_) fun _ => Or.inl absent⟩
        by_cases same : asked = place
        · rw [if_pos ⟨same, notRoot⟩, same]
          exact Tree.set_self other place .folder
        · rw [if_neg fun both => same both.1]
          exact Tree.set_other other .folder same
    · rw [if_neg possible]
      apply achieves_failWith
      rintro other rfl
      exact extended

/-- Making the folders down to a path makes those that are missing, and there
is no file in the way. -/
theorem createDirAll_achieves {path : Place} (rooted : Rooted destination before)
    (inside : exists parts, path = destination ++ parts) :
    Achieves (fun tree => tree = start ∧ Extends host.umask destination before tree)
      (Extends host.umask destination before)
      (fun tree => Extends host.umask destination before tree ∧
        tree = foldersAlong path start ∧ Clear path start)
      (createDirAll host path) := by
  have loop := achieves_each (Extends host.umask destination before)
    (makeFolder host s!"failed to create {display path}")
    (fun done tree => Extends host.umask destination before tree ∧
      (forall other, tree other =
        if other ≠ [] ∧ other ∈ done then some .folder else start other) ∧
      forall other, other ≠ [] -> other ∈ done -> start other = none ∨ start other = some .folder)
    path.inits (fun done place rest split =>
      makeFolder_achieves _ rooted inside (by
        have member : place ∈ path.inits := by
          rw [split]
          exact List.mem_append_right _ List.mem_cons_self
        exact (List.mem_inits place path).mp member))
  refine loop.consequence ?_ (fun _ extended => extended) ?_
  · rintro tree ⟨rfl, extended⟩
    exact ⟨extended, fun other => by simp, fun _ _ member => absurd member List.not_mem_nil⟩
  · rintro tree ⟨extended, values, clear⟩
    refine ⟨extended, ?_, fun place notRoot isPrefix =>
      clear place notRoot ((List.mem_inits place path).mpr isPrefix)⟩
    funext place
    rw [values place]
    unfold foldersAlong
    simp only [List.mem_inits]

end Steps

end Lemonade
end RocmCli
