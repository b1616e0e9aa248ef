import Mathlib.Data.Nat.Init
import RocmCli.JsonlStore.Files

namespace RocmCli
namespace JsonlStore

/-!
# What a rotation keeps

The files of a store in reading order, oldest generation to live, are its
`lineup`.  A rename into a free slot does not change it, and a rename over the
oldest generation drops exactly that file.  Since a rotation only shifts the
unbroken run below the first free slot, it overwrites a file only when it found
every generation occupied, wherever it stops.

Contents never change under a rename, so the same statements hold of the
contents in reading order.
-/

variable {E : Type u}

/-- The files of the generations below `bound`, oldest first. -/
def lineupBelow (store : Store E) : (bound : Nat) -> List FileId
  | 0 => []
  | generation + 1 => (store.named generation).toList ++ lineupBelow store generation

/-- The files of the store, oldest generation first, the live file last. -/
def lineup (store : Store E) (generations : Nat) : List FileId :=
  lineupBelow store (generations + 1)

/-- Their contents, in the same order. -/
def contents (store : Store E) (generations : Nat) : List (List E) :=
  (lineup store generations).map store.content

/-- Whether the operation took effect, reported or not. -/
def EffectAnswer.happened : EffectAnswer -> Bool
  | .done => true
  | .failed _ => false
  | .died happened => happened

/-- Every rotated generation has a file. -/
def Occupied (store : Store E) (generations : Nat) : Prop :=
  forall generation, 1 ≤ generation -> generation ≤ generations ->
    (store.named generation).isSome = true

/-! ## One rename -/

theorem lineupBelow_congr {left right : Store E} {bound : Nat}
    (same : forall generation, generation < bound ->
      left.named generation = right.named generation) :
    lineupBelow left bound = lineupBelow right bound := by
  induction bound with
  | zero => rfl
  | succ generation ih =>
      rw [lineupBelow, lineupBelow, same _ (Nat.lt_succ_self _),
        ih (fun other below => same other (Nat.lt_succ_of_lt below))]

variable {store : Store E} {file : FileId}

/-- What stands in reading order after a rename: the file moved takes the place
of whatever its target named. -/
theorem lineupBelow_rename {source : Nat} (present : store.named source = some file) (bound : Nat)
    (inside : source + 2 ≤ bound) :
    exists older, lineupBelow store bound =
        older ++ (store.named (source + 1)).toList ++ file :: lineupBelow store source ∧
      lineupBelow (store.rename source) bound = older ++ file :: lineupBelow store source ∧
      (bound = source + 2 -> older = []) := by
  induction bound, inside using Nat.le_induction with
  | base =>
      have under : lineupBelow (store.rename source) source = lineupBelow store source := by
        apply lineupBelow_congr
        intro other below
        rw [Store.rename_named present, if_neg (by omega), if_neg (by omega)]
      refine ⟨[], ?_, ?_, fun _ => rfl⟩
      · simp [lineupBelow, present]
      · simp [lineupBelow, Store.rename_named present, under]
  | succ bound above ih =>
      rcases ih with ⟨older, before, after, -⟩
      refine ⟨(store.named bound).toList ++ older, ?_, ?_, by omega⟩
      · rw [lineupBelow, before]
        simp
      · rw [lineupBelow, after, Store.rename_named present, if_neg (by omega),
          if_neg (by omega)]
        simp

variable {generations : Nat}

/-- Renaming into a free slot keeps every file in reading order. -/
theorem lineup_rename_free {source : Nat} (present : store.named source = some file)
    (free : store.named (source + 1) = none) (inside : source < generations) :
    lineup (store.rename source) generations = lineup store generations := by
  rcases lineupBelow_rename present (generations + 1) (by omega) with
    ⟨older, before, after, -⟩
  rw [lineup, lineup, before, after, free]
  simp

/-- Renaming over the oldest generation drops that file and no other. -/
theorem lineup_rename_oldest {source : Nat} {oldest : FileId}
    (present : store.named source = some file) (occupied : store.named (source + 1) = some oldest) :
    lineup store (source + 1) = oldest :: lineup (store.rename source) (source + 1) := by
  rcases lineupBelow_rename present (source + 2) (Nat.le_refl _) with
    ⟨older, before, after, noneOlder⟩
  rw [lineup, lineup, before, after, occupied, noneOlder rfl]
  rfl

/-! ## The order of the renames -/

/-- What the counting loop found: every generation of the run exists, and it
stopped at the first one that does not, if any. -/
theorem unbrokenRunFrom_spec (store : Store E) (left run : Nat) :
    run ≤ unbrokenRunFrom store left run ∧ unbrokenRunFrom store left run ≤ run + left ∧
      (forall generation, run < generation -> generation ≤ unbrokenRunFrom store left run ->
        (store.named generation).isSome = true) ∧
      (unbrokenRunFrom store left run < run + left ->
        store.named (unbrokenRunFrom store left run + 1) = none) := by
  induction left generalizing run with
  | zero => simp [unbrokenRunFrom]; omega
  | succ left ih =>
      rw [unbrokenRunFrom]
      cases next : store.named (run + 1) with
      | none => simp [next]; omega
      | some file =>
          have spec := ih (run + 1)
          simp only [Option.isSome_some, if_true]
          refine ⟨by omega, by omega, ?_, fun short => spec.2.2.2 (by omega)⟩
          intro generation above atMost
          by_cases first : generation = run + 1
          · rw [first, next]
            rfl
          · exact spec.2.2.1 generation (by omega) atMost

/-- The generations renamed, from the old end of the run down to the live file. -/
theorem rotationOrder_eq (run generations : Nat) :
    rotationOrder run generations = (List.range (min run (generations - 1) + 1)).reverse := by
  rw [rotationOrder, List.range_eq_range', List.range'_succ]
  simp

/-! ## A rotation, wherever it stops -/

/-- One rename attempt leaves the store as it was or renamed, and the rotation
goes on only after a rename that took effect. -/
theorem renameGeneration_spec (path : String) (generation : Nat) (answer : EffectAnswer)
    (present : store.named generation = some file) :
    (renameGeneration path generation answer store).2 =
        (if answer.happened then store.rename generation else store) ∧
      ((renameGeneration path generation answer store).1 = .ok () -> answer.happened = true) := by
  unfold renameGeneration
  simp only [present]
  cases answer with
  | done => exact ⟨rfl, fun _ => rfl⟩
  | failed error => exact ⟨rfl, nofun⟩
  | died happened => cases happened <;> exact ⟨rfl, nofun⟩

/-- What every rename keeps: file identities stay unique, contents and the
generations past the last one stay as they were. -/
structure Kept (generations : Nat) (before after : Store E) : Prop where
  wellNamed : after.WellNamed
  content : after.content = before.content
  next : after.next = before.next
  beyond : forall generation, generations < generation ->
    after.named generation = before.named generation

theorem Kept.refl (generations : Nat) (wellNamed : store.WellNamed) :
    Kept generations store store :=
  ⟨wellNamed, rfl, rfl, fun _ _ => rfl⟩

theorem Kept.trans {first second third : Store E} (early : Kept generations first second)
    (late : Kept generations second third) :
    Kept generations first third where
  wellNamed := late.wellNamed
  content := late.content.trans early.content
  next := late.next.trans early.next
  beyond := fun generation past =>
    (late.beyond generation past).trans (early.beyond generation past)

theorem kept_rename {source : Nat} (wellNamed : store.WellNamed) (inside : source < generations) :
    Kept generations store (store.rename source) := by
  refine ⟨Store.wellNamed_rename wellNamed source, Store.rename_content store source,
    Store.rename_next store source, ?_⟩
  intro generation past
  cases present : store.named source with
  | none => rw [Store.rename, present]
  | some file => rw [Store.rename_named present, if_neg (by omega), if_neg (by omega)]

/-- Renaming downwards from a free slot keeps the files in reading order,
however many of the renames take effect. -/
theorem renameGenerations_free (path : String) (answers : Nat -> EffectAnswer)
    (generations top : Nat) (wellNamed : store.WellNamed) (free : store.named (top + 1) = none)
    (run : forall generation, 1 ≤ generation -> generation ≤ top ->
      (store.named generation).isSome = true) (inside : top < generations) :
    let final := (renameGenerations path answers (List.range (top + 1)).reverse store).2
    Kept generations store final ∧ lineup final generations = lineup store generations := by
  induction top generalizing store with
  | zero =>
      rw [List.range_succ, List.reverse_append]
      cases present : store.named 0 with
      | none => simp [renameGenerations, renameGeneration, present, Kept.refl, wellNamed]
      | some file =>
          have spec := renameGeneration_spec path 0 (answers 0) present
          simp only [List.range_zero, List.reverse_nil, List.reverse_cons, List.nil_append,
            List.append_nil, renameGenerations]
          have moved := lineup_rename_free present free inside
          rcases attempt : renameGeneration path 0 (answers 0) store with ⟨outcome, renamed⟩
          rw [attempt] at spec
          have result : renamed = if (answers 0).happened then store.rename 0 else store := spec.1
          cases outcome <;> dsimp only <;> rw [result] <;> split
          all_goals first
            | exact ⟨kept_rename wellNamed inside, moved⟩
            | exact ⟨Kept.refl _ wellNamed, rfl⟩
  | succ top ih =>
      rw [List.range_succ, List.reverse_append, List.reverse_singleton, List.singleton_append,
        renameGenerations]
      rcases Option.isSome_iff_exists.mp (run (top + 1) (by omega) (Nat.le_refl _)) with
        ⟨file, present⟩
      have spec := renameGeneration_spec path (top + 1) (answers (top + 1)) present
      have moved := lineup_rename_free present free inside
      have keptRename := kept_rename wellNamed inside
      rcases attempt : renameGeneration path (top + 1) (answers (top + 1)) store with
        ⟨outcome, renamed⟩
      rw [attempt] at spec
      cases outcome with
      | error stop =>
          have result : renamed =
            if (answers (top + 1)).happened then store.rename (top + 1) else store := spec.1
          dsimp only
          rw [result]
          split
          · exact ⟨keptRename, moved⟩
          · exact ⟨Kept.refl _ wellNamed, rfl⟩
      | ok done =>
          -- The slot just freed is the one the next rename moves into.
          have result : renamed = store.rename (top + 1) := by
            rw [show renamed = _ from spec.1, if_pos (spec.2 rfl)]
          have rest := ih (result ▸ keptRename.wellNamed)
            (by rw [result, Store.rename_named present, if_pos rfl])
            (by
              intro generation above atMost
              rw [result, Store.rename_named present, if_neg (by omega), if_neg (by omega)]
              exact run generation above (by omega))
            (by omega)
          dsimp only
          refine ⟨Kept.trans (result ▸ keptRename) rest.1, rest.2.trans ?_⟩
          rw [result]
          exact moved

/-- A rotation that found a free slot only fills it. -/
theorem rotate_not_occupied (path : String) (answers : Nat -> EffectAnswer)
    (wellNamed : store.WellNamed) (notOccupied : ¬ Occupied store generations) :
    let final := (rotateJsonlGenerations path generations answers store).2
    Kept generations store final ∧ lineup final generations = lineup store generations := by
  have spec := unbrokenRunFrom_spec store generations 0
  rw [← unbrokenRun] at spec
  rcases spec with ⟨-, atMost, run, stopped⟩
  have short : unbrokenRun store generations < generations := by
    by_contra full
    apply notOccupied
    intro generation above inside
    exact run generation above (by omega)
  rw [rotateJsonlGenerations, rotationOrder_eq, Nat.min_eq_left (by omega)]
  exact renameGenerations_free path answers generations _ wellNamed (stopped (by omega))
    run short

theorem unbrokenRun_of_occupied (occupied : Occupied store generations) :
    unbrokenRun store generations = generations := by
  have spec := unbrokenRunFrom_spec store generations 0
  rw [← unbrokenRun] at spec
  rcases spec with ⟨-, atMost, -, stopped⟩
  by_contra different
  have present := occupied (unbrokenRun store generations + 1) (by omega) (by omega)
  rw [stopped (by omega)] at present
  cases present

/-- A rotation that found every generation occupied drops the oldest, and
nothing else, from its first rename on. -/
theorem rotate_occupied (path : String) (answers : Nat -> EffectAnswer) {last : Nat}
    (wellNamed : store.WellNamed) (occupied : Occupied store (last + 1))
    (present : store.named last = some file) :
    let final := (rotateJsonlGenerations path (last + 1) answers store).2
    Kept (last + 1) store final ∧
      if (answers last).happened then
        exists oldest, store.named (last + 1) = some oldest ∧
          lineup store (last + 1) = oldest :: lineup final (last + 1)
      else final = store := by
  rw [rotateJsonlGenerations, rotationOrder_eq, unbrokenRun_of_occupied occupied,
    Nat.add_sub_cancel, Nat.min_eq_right (Nat.le_succ last), List.range_succ,
    List.reverse_append, List.reverse_singleton, List.singleton_append, renameGenerations]
  rcases Option.isSome_iff_exists.mp (occupied (last + 1) (by omega) (Nat.le_refl _)) with
    ⟨oldest, oldestNamed⟩
  have spec := renameGeneration_spec path last (answers last) present
  have dropped := lineup_rename_oldest present oldestNamed
  have keptRename := kept_rename wellNamed (Nat.lt_succ_self last)
  rcases attempt : renameGeneration path last (answers last) store with ⟨outcome, renamed⟩
  rw [attempt] at spec
  cases outcome with
  | error stop =>
      have result : renamed = if (answers last).happened then store.rename last else store :=
        spec.1
      dsimp only
      rw [result]
      by_cases happened : (answers last).happened = true
      · rw [if_pos happened, if_pos happened]
        exact ⟨keptRename, oldest, oldestNamed, dropped⟩
      · rw [if_neg happened, if_neg happened]
        exact ⟨Kept.refl _ wellNamed, rfl⟩
  | ok done =>
      have happened : (answers last).happened = true := spec.2 rfl
      have result : renamed = store.rename last := by
        rw [show renamed = _ from spec.1, if_pos happened]
      dsimp only
      rw [if_pos happened, result]
      cases last with
      | zero => exact ⟨keptRename, oldest, oldestNamed, dropped⟩
      | succ below =>
          have rest := renameGenerations_free path answers (below + 2) below
            keptRename.wellNamed (by rw [Store.rename_named present, if_pos rfl])
            (by
              intro generation above atMost
              rw [Store.rename_named present, if_neg (by omega), if_neg (by omega)]
              exact occupied generation above (by omega))
            (by omega)
          refine ⟨keptRename.trans rest.1, oldest, oldestNamed, ?_⟩
          rw [dropped, ← rest.2]

/-- With the live file missing and only one generation, there is nothing to
rename. -/
theorem rotate_nothing (path : String) (answers : Nat -> EffectAnswer)
    (occupied : Occupied store 1) (missing : store.named 0 = none) :
    (rotateJsonlGenerations path 1 answers store).2 = store := by
  rw [rotateJsonlGenerations, rotationOrder_eq, unbrokenRun_of_occupied occupied]
  simp [renameGenerations, renameGeneration, missing]

/-- A rotation drops at most one file, the oldest, and none unless it found
every generation occupied. -/
theorem rotate_drops (path : String) (answers : Nat -> EffectAnswer) (positive : 1 ≤ generations)
    (wellNamed : store.WellNamed) :
    let final := (rotateJsonlGenerations path generations answers store).2
    Kept generations store final ∧ exists lost,
      lineup store generations = lost ++ lineup final generations ∧
      lost.length ≤ 1 ∧ (lost ≠ [] -> Occupied store generations) := by
  by_cases occupied : Occupied store generations
  · obtain ⟨last, rfl⟩ : exists last, generations = last + 1 := ⟨generations - 1, by omega⟩
    cases present : store.named last with
    | some file =>
        have spec := rotate_occupied path answers wellNamed occupied present
        rcases spec with ⟨kept, effect⟩
        refine ⟨kept, ?_⟩
        split at effect
        · rcases effect with ⟨oldest, -, dropped⟩
          exact ⟨[oldest], dropped, Nat.le_refl _, fun _ => occupied⟩
        · exact ⟨[], by rw [effect]; rfl, Nat.zero_le _, fun _ => occupied⟩
    | none =>
        have isLive : last = 0 := by
          by_contra above
          have present' := occupied last (by omega) (by omega)
          rw [present] at present'
          cases present'
        subst isLive
        rw [rotate_nothing path answers occupied present]
        exact ⟨Kept.refl _ wellNamed, [], rfl, Nat.zero_le _, fun _ => occupied⟩
  · have spec := rotate_not_occupied path answers wellNamed occupied
    exact ⟨spec.1, [], spec.2.symm, Nat.zero_le _, fun impossible => absurd rfl impossible⟩

/-! ## Runs of rotations -/

/-- What happens to a store between and during rotations: a rotation, with the
answers it met, or an append, which creates the live file when it is missing. -/
inductive StoreEvent (E : Type u) where
  | rotate (answers : Nat -> EffectAnswer)
  | append (items : List E)

def appendToLive (store : Store E) (items : List E) : Store E :=
  match store.named 0 with
  | some file => store.write file items
  | none => store.install items

def applyEvent (path : String) (generations : Nat) (store : Store E) :
    StoreEvent E -> Store E
  | .rotate answers => (rotateJsonlGenerations path generations answers store).2
  | .append items => appendToLive store items

def applyEvents (path : String) (generations : Nat) :
    List (StoreEvent E) -> Store E -> Store E
  | [], store => store
  | event :: rest, store =>
      applyEvents path generations rest (applyEvent path generations store event)

/-- The rotation, if the event is one, started with no free slot. -/
def startsFull (generations : Nat) (store : Store E) : StoreEvent E -> Bool
  | .rotate _ => (List.range generations).all (fun below => (store.named (below + 1)).isSome)
  | .append _ => false

/-- How many rotations of the run started with no free slot. -/
def fullRotations (path : String) (generations : Nat) :
    List (StoreEvent E) -> Store E -> Nat
  | [], _ => 0
  | event :: rest, store =>
      (if startsFull generations store event then 1 else 0) +
        fullRotations path generations rest (applyEvent path generations store event)

theorem startsFull_rotate (generations : Nat) (store : Store E) (answers : Nat -> EffectAnswer) :
    startsFull generations store (.rotate answers) = true ↔ Occupied store generations := by
  simp only [startsFull, List.all_eq_true, List.mem_range]
  constructor
  · intro full generation above inside
    have present := full (generation - 1) (by omega)
    rwa [Nat.sub_add_cancel above] at present
  · intro occupied below inside
    exact occupied (below + 1) (by omega) (by omega)

/-- A file created for the live path comes last in reading order. -/
theorem lineupBelow_install (missing : store.named 0 = none) (items : List E) (bound : Nat) :
    lineupBelow (store.install items) (bound + 1) =
      lineupBelow store (bound + 1) ++ [store.next] := by
  induction bound with
  | zero => simp [lineupBelow, missing, Store.install_named]
  | succ bound ih =>
      have above : lineupBelow store (bound + 2) =
          (store.named (bound + 1)).toList ++ lineupBelow store (bound + 1) := rfl
      rw [lineupBelow, ih, Store.install_named,
        if_neg (Nat.succ_ne_zero bound), above, List.append_assoc]

theorem appendToLive_lineup (wellNamed : store.WellNamed) (items : List E) (generations : Nat) :
    (appendToLive store items).WellNamed ∧
      (forall generation, generations < generation ->
        (appendToLive store items).named generation = store.named generation) ∧
      exists created,
        lineup (appendToLive store items) generations = lineup store generations ++ created := by
  unfold appendToLive
  cases live : store.named 0 with
  | some file =>
      refine ⟨Store.wellNamed_write wellNamed file items, fun _ _ => rfl, [], ?_⟩
      rw [List.append_nil, lineup, lineup]
      exact lineupBelow_congr (fun _ _ => rfl)
  | none =>
      refine ⟨Store.wellNamed_install wellNamed items, ?_, [store.next],
        lineupBelow_install live items generations⟩
      intro generation past
      rw [Store.install_named, if_neg (by omega)]

/-- What one rotation may do: drop the files `lost` from the old end and leave
every other file, with its contents, where it stands in reading order. -/
structure DropsOnly (generations : Nat) (lost : List FileId) (before after : Store E) :
    Prop where
  kept : Kept generations before after
  lineup : lineup before generations = lost ++ lineup after generations
  contents : contents before generations =
    lost.map before.content ++ contents after generations

theorem Kept.dropsOnly {lost : List FileId} {before after : Store E}
    (kept : Kept generations before after) (order : JsonlStore.lineup before generations =
      lost ++ JsonlStore.lineup after generations) :
    DropsOnly generations lost before after where
  kept := kept
  lineup := order
  contents := by
    rw [JsonlStore.contents, JsonlStore.contents, order, List.map_append, kept.content]

/-- What a run of events may do to the files: those lost are gone from the old
end, those created come last, and nothing else changed its place. -/
structure RunLoses (path : String) (generations : Nat) (events : List (StoreEvent E))
    (before : Store E) : Prop where
  wellNamed : (applyEvents path generations events before).WellNamed
  beyond : forall generation, generations < generation ->
    (applyEvents path generations events before).named generation = before.named generation
  ledger : exists lost created,
    lineup before generations ++ created =
        lost ++ lineup (applyEvents path generations events before) generations ∧
      lost.length ≤ fullRotations path generations events before

theorem runLoses (path : String) (positive : 1 ≤ generations) (events : List (StoreEvent E))
    {start : Store E} (wellNamed : start.WellNamed) :
    RunLoses path generations events start := by
  induction events generalizing start with
  | nil => exact ⟨wellNamed, fun _ _ => rfl, [], [], by simp [applyEvents], Nat.zero_le _⟩
  | cons event rest ih =>
      cases event with
      | append items =>
          have step := appendToLive_lineup wellNamed items generations
          rcases step with ⟨stepNamed, stepBeyond, created, order⟩
          have later := ih stepNamed
          rcases later with ⟨laterNamed, laterBeyond, lost, newer, ledger, count⟩
          refine ⟨laterNamed, fun generation past =>
            (laterBeyond generation past).trans (stepBeyond generation past),
            lost, created ++ newer, ?_, ?_⟩
          · rw [← List.append_assoc, ← order]
            exact ledger
          · simpa [fullRotations, startsFull, applyEvent] using count
      | rotate answers =>
          have step := rotate_drops path answers positive wellNamed
          rcases step with ⟨kept, dropped, order, atMostOne, full⟩
          have later := ih kept.wellNamed
          rcases later with ⟨laterNamed, laterBeyond, lost, created, ledger, count⟩
          refine ⟨laterNamed, fun generation past =>
            (laterBeyond generation past).trans (kept.beyond generation past),
            dropped ++ lost, created, ?_, ?_⟩
          · rw [order, List.append_assoc, ledger, List.append_assoc]
            rfl
          · rw [List.length_append, fullRotations, applyEvent]
            refine Nat.add_le_add ?_ count
            split
            next => exact atMostOne
            next notFull =>
              have nothing : dropped = [] := by
                by_contra some
                exact notFull ((startsFull_rotate _ _ _).mpr (full some))
              rw [nothing]
              exact Nat.le_refl 0

/-- Rotation loses only the oldest file, and only when no generation is free.
`answers` decides where a rotation stops, so the statement about one rotation
holds after each of its renames.  A run loses at most one file for each
rotation that started full. -/
theorem rotation_loses_only_the_oldest (path : String) (generations : Nat)
    (positive : 1 ≤ generations) (start : Store E) (wellNamed : start.WellNamed) :
    (forall answers, (start.named 0).isSome = true ->
      let final := (rotateJsonlGenerations path generations answers start).2
      (¬ Occupied start generations -> DropsOnly generations [] start final) ∧
      (Occupied start generations ->
        if (answers (generations - 1)).happened then
          exists oldest, start.named generations = some oldest ∧
            DropsOnly generations [oldest] start final
        else final = start)) ∧
    forall events, RunLoses path generations events start := by
  refine ⟨?_, fun events => runLoses path positive events wellNamed⟩
  intro answers live
  obtain ⟨last, rfl⟩ : exists last, generations = last + 1 := ⟨generations - 1, by omega⟩
  refine ⟨fun notOccupied => ?_, fun occupied => ?_⟩
  · have spec := rotate_not_occupied path answers wellNamed notOccupied
    exact spec.1.dropsOnly spec.2.symm
  · have source : (start.named last).isSome = true := by
      by_cases isLive : last = 0
      · rw [isLive]
        exact live
      · exact occupied last (by omega) (by omega)
    rcases Option.isSome_iff_exists.mp source with ⟨file, present⟩
    rcases rotate_occupied path answers wellNamed occupied present with ⟨kept, effect⟩
    rw [Nat.add_sub_cancel]
    by_cases happened : (answers last).happened = true
    · rw [if_pos happened] at effect ⊢
      rcases effect with ⟨oldest, named, dropped⟩
      exact ⟨oldest, named, kept.dropsOnly dropped⟩
    · rw [if_neg happened] at effect ⊢
      exact effect

/-- A store with a live file and one generation, both holding one record. -/
def twoFiles : Store Nat := ((Store.empty.install [1]).rename 0).install [2]

theorem twoFiles_occupied : Occupied twoFiles 1 := by
  intro generation above inside
  obtain rfl : generation = 1 := by omega
  decide

theorem rotation_loses_only_the_oldest_of_two :
    (exists oldest, twoFiles.named 1 = some oldest ∧
      DropsOnly 1 [oldest] twoFiles
        (rotateJsonlGenerations "audit.jsonl" 1 (fun _ => .done) twoFiles).2) ∧
      RunLoses "audit.jsonl" 1 [.rotate (fun _ => .died true), .append [3]] twoFiles := by
  have wellNamed : twoFiles.WellNamed :=
    Store.wellNamed_install
      (Store.wellNamed_rename (Store.wellNamed_install Store.wellNamed_empty [1]) 0) [2]
  have spec := rotation_loses_only_the_oldest "audit.jsonl" 1 (by decide) twoFiles wellNamed
  exact ⟨(spec.1 (fun _ => .done) (by decide)).2 twoFiles_occupied, spec.2 _⟩

end JsonlStore
end RocmCli
