import Mathlib.Order.Monotone.Defs
import RocmCli.JsonlStore.Writers

namespace RocmCli
namespace JsonlStore

/-!
# Opening a store without its lock

A reader opens the live file and its generations one path at a time while a
writer may be renaming them, then opens every path again and starts over when
any of them changed.  `views` gives what the paths named at each of its open
calls.

What is proved: a set of handles that survives the second pass is what all the
paths named at one instant, the last open of the first pass.  A path that named
the same file at both of its opens named it in between, since files only move
up.  A path that was missing both times was missing in between, by induction
from the highest generation down: had a file appeared there, it would have had
to leave to the next generation, whose path would have changed too.
-/

variable {E : Type u}

/-- The system's answer to one open call. -/
inductive OpenAnswer where
  | done
  | failed (error : String)
  | unidentified (error : String)
  deriving DecidableEq, Repr

/-- The system's answers to one reader.  `isFile` and `stat` are about the
handles, by identity. -/
structure ReaderIo where
  openAnswer : Nat -> OpenAnswer
  isFile : FileId -> Bool
  stat : FileId -> Option String

/-- Open one generation's path.  A missing file is not an error. -/
def openGeneration (path : String) (generation : Nat) (answer : OpenAnswer)
    (view : Store E) : Except ErrorChain (Option FileId) :=
  let name := jsonlGenerationPath path generation
  match answer, view.named generation with
  | .failed error, _ => .error ((ErrorChain.ofMessage error).context s!"failed to open {name}")
  | _, none => .ok none
  | .done, some file => .ok (some file)
  | .unidentified error, some _ =>
      .error ((ErrorChain.ofMessage error).context s!"failed to identify {name}")

/-- Open the paths in order, from open call number `call` on.  Also returns the
number of the next call. -/
def openPaths (path : String) (io : ReaderIo) (views : Nat -> Store E) :
    List Nat -> (call : Nat) -> Except ErrorChain (List (Option FileId)) × Nat
  | [], call => (.ok [], call)
  | generation :: rest, call =>
      match openGeneration path generation (io.openAnswer call) (views call) with
      | .error error => (.error error, call + 1)
      | .ok handle =>
          match openPaths path io views rest (call + 1) with
          | (.ok handles, next) => (.ok (handle :: handles), next)
          | (.error error, next) => (.error error, next)

/-- Open every path again, up to the first that no longer names what it did. -/
def recheckPaths (path : String) (io : ReaderIo) (views : Nat -> Store E) :
    List (Nat × Option FileId) -> (call : Nat) -> Except ErrorChain Bool × Nat
  | [], call => (.ok true, call)
  | (generation, handle) :: rest, call =>
      match openGeneration path generation (io.openAnswer call) (views call) with
      | .error error => (.error error, call + 1)
      | .ok again =>
          if again = handle then recheckPaths path io views rest (call + 1)
          else (.ok false, call + 1)

/-- Keep the handles of regular files, each with its generation. -/
def keepFiles (path : String) (io : ReaderIo) :
    List (Nat × Option FileId) -> Except ErrorChain (List (Nat × FileId))
  | [] => .ok []
  | (_, none) :: rest => keepFiles path io rest
  | (generation, some file) :: rest =>
      match io.stat file with
      | some error =>
          .error ((ErrorChain.ofMessage error).context
            s!"failed to stat {jsonlGenerationPath path generation}")
      | none => do
          let files <- keepFiles path io rest
          pure (if io.isFile file then (generation, file) :: files else files)

/-- Open all the paths, at most `attempts` times. -/
def openAttempts (path : String) (generations : Nat) (io : ReaderIo)
    (views : Nat -> Store E) : (attempts : Nat) -> (call : Nat) ->
      Except ErrorChain (List (Nat × FileId))
  | 0, _ => .error (ErrorChain.ofMessage s!"{path} kept being rotated while it was read")
  | attempts + 1, call =>
      let paths := List.range (generations + 1)
      match openPaths path io views paths call with
      | (.error error, _) => .error error
      | (.ok handles, call) =>
          -- A single file cannot be read twice or skipped.
          if generations = 0 then keepFiles path io (paths.zip handles)
          else
            match recheckPaths path io views (paths.zip handles) call with
            | (.error error, _) => .error error
            | (.ok false, call) => openAttempts path generations io views attempts call
            | (.ok true, _) => keepFiles path io (paths.zip handles)

/-- Open the store's live file and its rotated generations, newest first. -/
def openJsonlGenerations (path : String) (generations : Nat) (io : ReaderIo)
    (views : Nat -> Store E) : Except ErrorChain (List (Nat × FileId)) :=
  openAttempts path generations io views 8 0

/-! ## What the two passes saw -/

variable {path : String} {generation : Nat}

/-- An open that succeeds returns what the path named. -/
theorem openGeneration_ok {answer : OpenAnswer} {view : Store E} {handle : Option FileId}
    (ok : openGeneration path generation answer view = .ok handle) :
    view.named generation = handle := by
  unfold openGeneration at ok
  cases answer <;> cases present : view.named generation <;> simp_all

variable {io : ReaderIo} {views : Nat -> Store E}

theorem openPaths_ok {first count call next : Nat} {handles : List (Option FileId)}
    (ok : openPaths path io views (List.range' first count) call = (.ok handles, next)) :
    next = call + count ∧ handles = (List.range' first count).map
      (fun generation => (views (call + (generation - first))).named generation) := by
  induction count generalizing first call handles with
  | zero =>
      simp only [List.range'_zero, openPaths, Prod.mk.injEq, Except.ok.injEq] at ok
      simp [← ok.1, ← ok.2]
  | succ count ih =>
      rw [List.range'_succ, openPaths] at ok
      split at ok
      next => simp at ok
      next handle opened =>
        split at ok
        next rest last others =>
          simp only [Prod.mk.injEq, Except.ok.injEq] at ok
          rcases ok with ⟨rfl, rfl⟩
          rcases ih others with ⟨count', rfl⟩
          refine ⟨by omega, ?_⟩
          have head : (views (call + (first - first))).named first = handle := by
            rw [Nat.sub_self]
            exact openGeneration_ok opened
          rw [List.range'_succ, List.map_cons, head]
          congr 1
          apply List.map_congr_left
          intro generation member
          rw [List.mem_range'_1] at member
          rw [show call + 1 + (generation - (first + 1)) = call + (generation - first) by omega]
        next => simp at ok

theorem recheckPaths_ok {first count call next : Nat} {expected : Nat -> Option FileId}
    (ok : recheckPaths path io views
      ((List.range' first count).map (fun generation => (generation, expected generation)))
        call = (.ok true, next)) (above : first ≤ generation)
    (inside : generation < first + count) :
    (views (call + (generation - first))).named generation = expected generation := by
  induction count generalizing first call with
  | zero => omega
  | succ count ih =>
      rw [List.range'_succ, List.map_cons, recheckPaths] at ok
      split at ok
      next => simp at ok
      next again opened =>
        split at ok
        next same =>
          by_cases isFirst : generation = first
          · subst isFirst
            rw [Nat.sub_self, Nat.add_zero, openGeneration_ok opened, same]
          · have later := ih ok (by omega) (by omega)
            rwa [show call + (generation - first) = call + 1 + (generation - (first + 1)) by
              omega]
        next => simp at ok

/-- The files the paths name, newest first, each with its generation. -/
def present (store : Store E) (generations : Nat) : List (Nat × FileId) :=
  (List.range (generations + 1)).filterMap
    (fun generation => (store.named generation).map (fun file => (generation, file)))

theorem keepFiles_ok {expected : Nat -> Option FileId} {paths : List Nat}
    {files : List (Nat × FileId)} (ok : keepFiles path io
      (paths.map (fun generation => (generation, expected generation))) = .ok files) :
    files = (paths.filterMap (fun generation =>
      (expected generation).map (fun file => (generation, file)))).filter
        (fun entry => io.isFile entry.2) := by
  induction paths generalizing files with
  | nil => simpa [keepFiles] using ok.symm
  | cons generation rest ih =>
      rw [List.map_cons] at ok
      cases named : expected generation with
      | none =>
          rw [named, keepFiles] at ok
          simpa [named] using ih ok
      | some file =>
          rw [named, keepFiles] at ok
          split at ok
          next => simp at ok
          next =>
            cases others : keepFiles path io
                (rest.map (fun generation => (generation, expected generation))) with
            | error error => rw [others] at ok; cases ok
            | ok kept =>
                rw [others] at ok
                have shape := ih others
                cases isFile : io.isFile file <;>
                  simp_all [bind, Except.bind, pure, Except.pure]

/-- What a successful read of the paths means: one attempt began at open call
number `call`, and both of its passes saw the same names. -/
theorem openAttempts_ok {generations : Nat} {attempts start : Nat} {files : List (Nat × FileId)}
    (ok : openAttempts path generations io views attempts start = .ok files) :
    exists call,
      files = ((List.range (generations + 1)).filterMap (fun generation =>
        ((views (call + generation)).named generation).map
          (fun file => (generation, file)))).filter (fun entry => io.isFile entry.2) ∧
      (0 < generations -> forall generation, generation ≤ generations ->
        (views (call + (generations + 1) + generation)).named generation =
          (views (call + generation)).named generation) := by
  induction attempts generalizing start with
  | zero => simp [openAttempts] at ok
  | succ attempts ih =>
      rw [openAttempts] at ok
      split at ok
      next => cases ok
      next handles next opened =>
        rw [List.range_eq_range'] at opened ok
        rcases openPaths_ok opened with ⟨rfl, rfl⟩
        rw [← List.map_prod_left_eq_zip] at ok
        split at ok
        next single =>
          refine ⟨start, ?_, fun positive => by omega⟩
          rw [List.range_eq_range']
          simpa using keepFiles_ok ok
        next =>
          split at ok
          next => cases ok
          next => exact ih ok
          next last rechecked =>
            refine ⟨start, ?_, fun _ generation inside => ?_⟩
            · rw [List.range_eq_range']
              simpa using keepFiles_ok ok
            · simpa using recheckPaths_ok rechecked (Nat.zero_le generation) (by omega)

/-! ## One instant -/

section Instant

variable {generations : Nat} (run : LogRun E generations)

/-- A path that named a file and then none handed the file it last named to the
next generation, at some instant in between. -/
theorem LogRun.vacated {early late : Nat} (order : early ≤ late) {file : FileId}
    (before : (run.state early).store.named generation = some file)
    (after : (run.state late).store.named generation = none) :
    exists instant moved, early ≤ instant ∧ instant < late ∧ generation < generations ∧
      (run.state instant).store.named generation = some moved ∧
      (run.state (instant + 1)).store.named (generation + 1) = some moved := by
  induction late, order using Nat.le_induction with
  | base =>
      rw [before] at after
      cases after
  | succ late order ih =>
      cases last : (run.state late).store.named generation with
      | none =>
          rcases ih last with ⟨instant, moved, notBefore, inTime, rest⟩
          exact ⟨instant, moved, notBefore, by omega, rest⟩
      | some moved =>
          have left := (writerStep_names (run.step late)).vacated _ _ last after
          exact ⟨late, moved, order, Nat.lt_succ_self late, left.1, last, left.2⟩

variable {instant : Nat}

/-- Paths that named the same at an open before `middle` and at one after it, the
later opens made in order, named it from `middle` to the later open.  The
induction is from the highest generation down: a file that appeared at a
missing path would have had to leave to the next one. -/
theorem LogRun.unchanged_between (opened reopened : Nat -> Nat) (middle : Nat)
    (before : forall generation, generation ≤ generations -> opened generation ≤ middle)
    (forward : forall generation, generation < generations ->
      reopened generation ≤ reopened (generation + 1))
    (same : forall generation, generation ≤ generations ->
      (run.state (reopened generation)).store.named generation =
        (run.state (opened generation)).store.named generation) (inside : generation ≤ generations)
    (notBefore : middle ≤ instant) (notAfter : instant ≤ reopened generation) :
    (run.state instant).store.named generation =
      (run.state (opened generation)).store.named generation := by
  obtain ⟨above, distance⟩ : exists above, generation + above = generations :=
    ⟨generations - generation, by omega⟩
  induction above generalizing generation instant with
  | zero =>
      cases first : (run.state (opened generation)).store.named generation with
      | some file =>
          exact run.named_between ((before _ inside).trans notBefore) notAfter first
            ((same _ inside).trans first)
      | none =>
          by_contra appeared
          rcases Option.ne_none_iff_exists'.mp appeared with ⟨file, named⟩
          rcases run.vacated notAfter named ((same _ inside).trans first) with
            ⟨_, _, _, _, notLast, _⟩
          omega
  | succ above ih =>
      cases first : (run.state (opened generation)).store.named generation with
      | some file =>
          exact run.named_between ((before _ inside).trans notBefore) notAfter first
            ((same _ inside).trans first)
      | none =>
          by_contra appeared
          rcases Option.ne_none_iff_exists'.mp appeared with ⟨file, named⟩
          rcases run.vacated notAfter named ((same _ inside).trans first) with
            ⟨leaving, moved, late, inTime, notLast, source, target⟩
          -- The next path changed when the file arrived, but it may not have.
          have order := forward generation notLast
          have nextPath : forall instant, middle ≤ instant ->
              instant ≤ reopened (generation + 1) ->
              (run.state instant).store.named (generation + 1) =
                (run.state (opened (generation + 1))).store.named (generation + 1) :=
            fun instant after upTo => ih (by omega) after upTo (by omega)
          have old := nextPath leaving (by omega) (by omega)
          have new := nextPath (leaving + 1) (by omega) (by omega)
          have stayed := old.trans (new.symm.trans target)
          have clash := (run.wellNamed leaving).distinct _ _ _ source stayed
          omega

/-! ## Reading the handles -/

/-- A file that is not the live one is not written any more. -/
theorem LogRun.content_of_rotated {read : Nat} (order : instant ≤ read) {file : FileId}
    (above : 1 ≤ generation) (named : (run.state instant).store.named generation = some file) :
    (run.state read).store.content file = (run.state instant).store.content file := by
  have created := (run.wellNamed instant).created _ _ named
  induction read, order using Nat.le_induction with
  | base => rfl
  | succ read order ih =>
      have createdByThen := Nat.lt_of_lt_of_le created (run.next_mono order)
      rcases writerStep_content (run.step read) with ⟨items, -, contents⟩
      rcases contents file createdByThen with same | ⟨live, -⟩
      · rw [same, ih]
      · rcases run.origin order created live with ⟨earlier, atZero, namedThen⟩
        have same := (run.wellNamed instant).distinct _ _ _ namedThen named
        omega

/-- What the rotated files held at `instant`, then what the file that was live
then holds later, is in the order it was appended. -/
theorem LogRun.inOrder_later {read : Nat} (order : instant ≤ read) :
    List.Sublist
      ((rotated (run.state instant).store generations).flatMap
          (run.state instant).store.content ++
        ((run.state instant).store.named 0).toList.flatMap (run.state read).store.content)
      (run.state read).history := by
  induction read, order using Nat.le_induction with
  | base =>
      have inOrder := run.inOrder instant
      rw [InOrder, contents_flatten] at inOrder
      have live : (run.state instant).store.live =
          ((run.state instant).store.named 0).toList.flatMap
            (run.state instant).store.content := by
        unfold Store.live
        cases (run.state instant).store.named 0 <;> simp
      rwa [live] at inOrder
  | succ read order ih =>
      rcases writerStep_content (run.step read) with ⟨items, history, contents⟩
      rw [history]
      cases live : (run.state instant).store.named 0 with
      | none =>
          rw [live] at ih
          exact ih.trans (List.sublist_append_left _ _)
      | some file =>
          have created := (run.wellNamed instant).created _ _ live
          have createdByThen := Nat.lt_of_lt_of_le created (run.next_mono order)
          rw [live] at ih
          simp only [Option.toList_some, List.flatMap_singleton] at ih ⊢
          rcases contents file createdByThen with same | ⟨-, written⟩
          · rw [same]
            exact ih.trans (List.sublist_append_left _ _)
          · refine List.Sublist.trans (List.Sublist.append (List.Sublist.refl _) written) ?_
            rw [← List.append_assoc]
            exact List.Sublist.append ih (List.Sublist.refl _)

end Instant

theorem present_succ (store : Store E) (generations : Nat) :
    present store (generations + 1) = present store generations ++
      (store.named (generations + 1)).toList.map (fun file => (generations + 1, file)) := by
  rw [present, List.range_succ, List.filterMap_append, ← present]
  cases named : store.named (generations + 1) <;> simp [named]

/-- Reading the present files oldest first, where all but the live one hold
what `held` says. -/
theorem present_flatMap (store : Store E) (generations : Nat) (reads : Nat × FileId -> List E)
    {held : FileId -> List E}
    (fixed : forall generation file, 1 ≤ generation ->
      store.named generation = some file -> reads (generation, file) = held file) :
    (present store generations).reverse.flatMap reads =
      (rotated store generations).flatMap held ++
        (store.named 0).toList.flatMap (fun file => reads (0, file)) := by
  induction generations with
  | zero => cases live : store.named 0 <;> simp [present, rotated, live]
  | succ generations ih =>
      rw [present_succ, List.reverse_append, List.flatMap_append, ih, rotated,
        List.flatMap_append, List.append_assoc]
      congr 1
      cases named : store.named (generations + 1) with
      | none => rfl
      | some file => simp [fixed _ _ (Nat.le_add_left 1 generations) named]

theorem present_generation {store : Store E} {generations : Nat} {entry : Nat × FileId}
    (member : entry ∈ present store generations) : store.named entry.1 = some entry.2 := by
  rcases List.mem_filterMap.mp member with ⟨generation, -, named⟩
  rcases Option.map_eq_some_iff.mp named with ⟨file, found, rfl⟩
  exact found

theorem present_nodup {store : Store E} (wellNamed : store.WellNamed) (generations : Nat) :
    ((present store generations).map Prod.snd).Nodup := by
  induction generations with
  | zero => cases live : store.named 0 <;> simp [present, live]
  | succ generations ih =>
      rw [present_succ, List.map_append, List.nodup_append]
      refine ⟨ih, ?_, ?_⟩
      · cases store.named (generations + 1) <;> simp
      · rintro file earlier other last rfl
        rcases List.mem_map.mp earlier with ⟨entry, member, rfl⟩
        have named := present_generation member
        have inside : entry.1 ≤ generations := by
          rcases List.mem_filterMap.mp member with ⟨generation, inRange, found⟩
          rcases Option.map_eq_some_iff.mp found with ⟨file, -, rfl⟩
          exact Nat.lt_succ_iff.mp (List.mem_range.mp inRange)
        have lastNamed : store.named (generations + 1) = some entry.2 := by
          cases found : store.named (generations + 1) <;> simp_all
        have same := wellNamed.distinct _ _ _ named lastNamed
        omega

/-! ## The snapshot -/

/-- The handles are what all the paths named at `instant`, newest first.  Read
at any later times, they give records from newest to oldest, each once. -/
structure SnapshotAt {generations : Nat} (run : LogRun E generations) (io : ReaderIo)
    (instant : Nat) (files : List (Nat × FileId)) : Prop where
  exact : files = (present (run.state instant).store generations).filter
    (fun entry => io.isFile entry.2)
  distinct : (files.map Prod.snd).Nodup
  newestFirst : forall read : Nat -> Nat, (forall generation, instant ≤ read generation) ->
    List.Sublist
      (files.flatMap (fun entry =>
        ((run.state (read entry.1)).store.content entry.2).reverse))
      (run.state (read 0)).history.reverse

theorem snapshotAt_of_exact {generations : Nat} (run : LogRun E generations) (io : ReaderIo)
    (instant : Nat) :
    SnapshotAt run io instant ((present (run.state instant).store generations).filter
      (fun entry => io.isFile entry.2)) where
  exact := rfl
  distinct := List.Nodup.sublist (List.Sublist.map _ List.filter_sublist)
    (present_nodup (run.wellNamed instant) generations)
  newestFirst := by
    intro read later
    refine List.Sublist.trans (List.Sublist.flatMap List.filter_sublist _) ?_
    have oldestFirst := present_flatMap (run.state instant).store generations
      (fun entry => (run.state (read entry.1)).store.content entry.2)
      (fun generation file above named =>
        run.content_of_rotated (later generation) above named)
    have inOrder := run.inOrder_later (later 0)
    rw [← oldestFirst] at inOrder
    have reversed := List.Sublist.reverse inOrder
    rw [List.reverse_flatMap, List.reverse_reverse] at reversed
    exact reversed

/-- Whatever the writers do between the open calls of a reader, the handles it
returns are what all the paths named at one instant of the run. -/
theorem openJsonlGenerations_snapshot (path : String) {generations : Nat}
    (run : LogRun E generations) (clock : Nat -> Nat)
    (forward : Monotone clock) (io : ReaderIo)
    (files : List (Nat × FileId))
    (ok : openJsonlGenerations path generations io
      (fun call => (run.state (clock call)).store) = .ok files) :
    exists call, SnapshotAt run io (clock call) files := by
  rcases openAttempts_ok ok with ⟨call, collected, rechecked⟩
  refine ⟨call + generations, ?_⟩
  have names : forall generation, generation ≤ generations ->
      (run.state (clock (call + generations))).store.named generation =
        (run.state (clock (call + generation))).store.named generation := by
    intro generation inside
    by_cases single : generations = 0
    · rw [show generation = generations by omega]
    · exact run.unchanged_between (fun other => clock (call + other))
        (fun other => clock (call + (generations + 1) + other)) (clock (call + generations))
        (fun other below => forward (by omega)) (fun other _ => forward (by omega))
        (fun other below => rechecked (by omega) other below) inside (Nat.le_refl _)
        (forward (by omega))
  have same : files = (present (run.state (clock (call + generations))).store
      generations).filter (fun entry => io.isFile entry.2) := by
    rw [collected, present]
    congr 1
    apply List.filterMap_congr
    intro generation member
    rw [names generation (Nat.lt_succ_iff.mp (List.mem_range.mp member))]
  rw [same]
  exact snapshotAt_of_exact run io _

/-- A live file with one record is rotated away, and its successor gets the
next record. -/
def rotatedOnce : LogRun Nat 1 where
  state
    | 0 => ⟨Store.empty.install [1], [1]⟩
    | 1 => ⟨(Store.empty.install [1]).rename 0, [1]⟩
    | 2 => ⟨((Store.empty.install [1]).rename 0).install [], [1]⟩
    | _ => ⟨(((Store.empty.install [1]).rename 0).install []).write 1 [2], [1, 2]⟩
  wellNamed_start := Store.wellNamed_install Store.wellNamed_empty [1]
  inOrder_start := List.Sublist.refl [1]
  step
    | 0 => .rename ⟨Store.empty.install [1], [1]⟩ 0 (by decide)
    | 1 => .create ⟨(Store.empty.install [1]).rename 0, [1]⟩ (by decide)
    | 2 => .append ⟨((Store.empty.install [1]).rename 0).install [], [1]⟩ 1 (by decide) [2]
    | _ + 3 => .idle _

/-- The rotation falls between the first two opens, so the first attempt would
have returned one file twice. -/
theorem openJsonlGenerations_snapshot_across_a_rotation :
    exists call, SnapshotAt rotatedOnce ⟨fun _ => .done, fun _ => true, fun _ => none⟩
      (min call 3) [(0, 1), (1, 0)] :=
  openJsonlGenerations_snapshot "audit.jsonl" rotatedOnce (fun call => min call 3)
    (by
      intro early late order
      dsimp only
      omega)
    ⟨fun _ => .done, fun _ => true, fun _ => none⟩ [(0, 1), (1, 0)] rfl

end JsonlStore
end RocmCli
