import Mathlib.Data.List.Flatten
import Mathlib.Logic.Relation
import RocmCli.JsonlStore.Append
import RocmCli.JsonlStore.Rotation

namespace RocmCli
namespace JsonlStore

/-!
# What writers do to the names

A reader takes no lock, so it can look at the paths between any two effects of
a writer.  `WriterStep` lists those effects one by one, with the records each
one adds to the `history` of everything ever appended.  The renames are allowed
in any order, which is more than a rotation does.

Two facts about a step carry the reader's argument: a file only ever moves to a
higher generation and never comes back once it lost its name, and a path that
stops naming a file handed it to the next generation.
-/

variable {E : Type u}

/-- A store together with everything that was ever appended to it, oldest
first. -/
structure Log (E : Type u) where
  store : Store E
  history : List E

/-- One effect of the writer that holds the lock. -/
inductive WriterStep (generations : Nat) : Log E -> Log E -> Prop where
  | idle (log : Log E) : WriterStep generations log log
  | rename (log : Log E) (source : Nat) (inside : source < generations) :
      WriterStep generations log { log with store := log.store.rename source }
  | create (log : Log E) (missing : log.store.named 0 = none) :
      WriterStep generations log { log with store := log.store.install [] }
  | append (log : Log E) (file : FileId) (live : log.store.named 0 = some file)
      (items : List E) :
      WriterStep generations log ⟨log.store.write file items, log.history ++ items⟩
  | replace (log : Log E) (kept : Nat) (items : List E) :
      WriterStep generations log
        ⟨log.store.install (log.store.live.take kept ++ items), log.history ++ items⟩
  | truncate (log : Log E) (file : FileId) (live : log.store.named 0 = some file)
      (kept : Nat) :
      WriterStep generations log { log with store := log.store.truncate file kept }

/-! ## What one step does to names -/

/-- How the names may change.  `origin` says that a file already created keeps
its generation or moves up; `vacated` says where the file of an emptied path
went. -/
structure NamesMove (generations : Nat) (before after : Store E) : Prop where
  next : before.next ≤ after.next
  wellNamed : before.WellNamed -> after.WellNamed
  origin : forall generation file, file < before.next ->
    after.named generation = some file ->
      exists earlier, earlier ≤ generation ∧ before.named earlier = some file
  vacated : forall generation file, before.named generation = some file ->
    after.named generation = none ->
      generation < generations ∧ after.named (generation + 1) = some file

theorem namesMove_of_same (generations : Nat) {before after : Store E}
    (names : after.named = before.named) (next : after.next = before.next) :
    NamesMove generations before after where
  next := by rw [next]
  wellNamed := fun wellNamed => ⟨names ▸ wellNamed.distinct, by
    rw [names, next]
    exact wellNamed.created⟩
  origin := fun generation file _ named => ⟨generation, Nat.le_refl _, names ▸ named⟩
  vacated := by
    intro generation file present missing
    rw [names, present] at missing
    cases missing

theorem namesMove_install (generations : Nat) (store : Store E) (items : List E) :
    NamesMove generations store (store.install items) where
  next := Nat.le_succ _
  wellNamed := fun wellNamed => Store.wellNamed_install wellNamed items
  origin := by
    intro generation file created named
    rw [Store.install_named] at named
    split at named
    · cases named
      exact absurd created (Nat.lt_irrefl _)
    · exact ⟨generation, Nat.le_refl _, named⟩
  vacated := by
    intro generation file present missing
    rw [Store.install_named] at missing
    split at missing
    · cases missing
    · rw [present] at missing
      cases missing

theorem namesMove_rename {generations source : Nat} (store : Store E)
    (inside : source < generations) : NamesMove generations store (store.rename source) := by
  cases present : store.named source with
  | none =>
      have same : store.rename source = store := by rw [Store.rename, present]
      rw [same]
      exact namesMove_of_same generations rfl rfl
  | some moved =>
      refine ⟨by rw [Store.rename_next], fun wellNamed => Store.wellNamed_rename wellNamed _,
        ?_, ?_⟩
      · intro generation file _ named
        rw [Store.rename_named present] at named
        by_cases isSource : generation = source
        · rw [if_pos isSource] at named
          cases named
        · rw [if_neg isSource] at named
          by_cases isTarget : generation = source + 1
          · rw [if_pos isTarget] at named
            exact ⟨source, by omega, present.trans named⟩
          · rw [if_neg isTarget] at named
            exact ⟨generation, Nat.le_refl _, named⟩
      · intro generation file before missing
        rw [Store.rename_named present] at missing
        by_cases isSource : generation = source
        · subst isSource
          rw [Store.rename_named present, if_neg (by omega), if_pos rfl]
          exact ⟨inside, present.symm.trans before⟩
        · rw [if_neg isSource] at missing
          by_cases isTarget : generation = source + 1
          · rw [if_pos isTarget] at missing
            cases missing
          · rw [if_neg isTarget, before] at missing
            cases missing

variable {before after : Log E}

theorem writerStep_names {generations : Nat} (step : WriterStep generations before after) :
    NamesMove generations before.store after.store := by
  cases step with
  | idle => exact namesMove_of_same generations rfl rfl
  | rename source inside => exact namesMove_rename before.store inside
  | create missing => exact namesMove_install generations before.store []
  | append file live items => exact namesMove_of_same generations rfl rfl
  | replace kept items => exact namesMove_install generations before.store _
  | truncate file live kept => exact namesMove_of_same generations rfl rfl

/-! ## What one step does to contents -/

/-- What a step adds to the history, and to the one file it may write. -/
theorem writerStep_content {generations : Nat} (step : WriterStep generations before after) :
    exists items, after.history = before.history ++ items ∧
      forall file, file < before.store.next ->
        after.store.content file = before.store.content file ∨
          (before.store.named 0 = some file ∧
            List.Sublist (after.store.content file)
              (before.store.content file ++ items)) := by
  cases step with
  | idle => exact ⟨[], by simp, fun _ _ => Or.inl rfl⟩
  | rename source inside =>
      exact ⟨[], by simp, fun file _ => Or.inl (by rw [Store.rename_content])⟩
  | create missing =>
      refine ⟨[], by simp, fun file created => Or.inl ?_⟩
      simp [Store.install, Nat.ne_of_lt created]
  | append written live items =>
      refine ⟨items, rfl, fun file _ => ?_⟩
      by_cases same : file = written
      · subst same
        exact Or.inr ⟨live, by simp [Store.write]⟩
      · exact Or.inl (by simp [Store.write, same])
  | replace kept items =>
      refine ⟨items, rfl, fun file created => Or.inl ?_⟩
      simp [Store.install, Nat.ne_of_lt created]
  | truncate written live kept =>
      refine ⟨[], by simp, fun file _ => ?_⟩
      by_cases same : file = written
      · subst same
        exact Or.inr ⟨live, by simpa [Store.truncate] using List.take_sublist _ _⟩
      · exact Or.inl (by simp [Store.truncate, same])

/-! ## Reading order along steps -/

/-- The rotated generations' files up to `bound`, oldest first. -/
def rotated (store : Store E) : (bound : Nat) -> List FileId
  | 0 => []
  | generation + 1 => (store.named (generation + 1)).toList ++ rotated store generation

theorem lineup_eq_rotated (store : Store E) (generations : Nat) :
    lineup store generations = rotated store generations ++ (store.named 0).toList := by
  induction generations with
  | zero => simp [lineup, lineupBelow, rotated]
  | succ generation ih =>
      rw [rotated, List.append_assoc, ← ih]
      rfl

variable {file : FileId}

theorem mem_rotated {store : Store E} {bound : Nat} (member : file ∈ rotated store bound) :
    exists generation, 1 ≤ generation ∧ generation ≤ bound ∧
      store.named generation = some file := by
  induction bound with
  | zero => cases member
  | succ generation ih =>
      rcases List.mem_append.mp member with here | below
      · exact ⟨generation + 1, by omega, Nat.le_refl _, Option.mem_toList.mp here⟩
      · rcases ih below with ⟨earlier, above, inside, named⟩
        exact ⟨earlier, above, by omega, named⟩

theorem rotated_congr {left right : Store E} {bound : Nat}
    (same : forall generation, 1 ≤ generation -> generation ≤ bound ->
      left.named generation = right.named generation) :
    rotated left bound = rotated right bound := by
  induction bound with
  | zero => rfl
  | succ generation ih =>
      rw [rotated, rotated, same _ (by omega) (Nat.le_refl _),
        ih (fun other above inside => same other above (by omega))]

/-- Everything in reading order: the rotated files, then the live one. -/
theorem contents_flatten (store : Store E) (generations : Nat) :
    (contents store generations).flatten =
      (rotated store generations).flatMap store.content ++ store.live := by
  rw [contents, lineup_eq_rotated, List.map_append, List.flatten_append, List.flatMap_def]
  congr 1
  unfold Store.live
  cases store.named 0 <;> simp

/-- What the files hold, read oldest first, is in the order it was appended. -/
def InOrder (generations : Nat) (log : Log E) : Prop :=
  List.Sublist (contents log.store generations).flatten log.history

/-- A step that only touches the live file keeps the order. -/
theorem inOrder_of_live {generations : Nat} (items : List E) (inOrder : InOrder generations before)
    (names : forall generation, 1 ≤ generation ->
      after.store.named generation = before.store.named generation)
    (unchanged : forall file, file ∈ rotated before.store generations ->
      after.store.content file = before.store.content file)
    (live : List.Sublist after.store.live (before.store.live ++ items))
    (history : after.history = before.history ++ items) : InOrder generations after := by
  unfold InOrder at inOrder ⊢
  rw [contents_flatten] at inOrder ⊢
  rw [rotated_congr (fun generation above _ => names generation above), history,
    List.flatMap_congr unchanged]
  have longer := List.Sublist.append inOrder (List.Sublist.refl items)
  rw [List.append_assoc] at longer
  exact (List.Sublist.append (List.Sublist.refl _) live).trans longer

theorem inOrder_rename {generations source : Nat} {log : Log E}
    (inside : source < generations) (inOrder : InOrder generations log) :
    InOrder generations { log with store := log.store.rename source } := by
  cases present : log.store.named source with
  | none =>
      have same : log.store.rename source = log.store := by rw [Store.rename, present]
      rw [same]
      exact inOrder
  | some file =>
      rcases lineupBelow_rename present (generations + 1) (by omega) with
        ⟨older, before, after, -⟩
      unfold InOrder contents lineup at inOrder ⊢
      dsimp only
      rw [before] at inOrder
      rw [after, Store.rename_content]
      refine List.Sublist.trans (List.Sublist.flatten ?_) inOrder
      apply List.Sublist.map
      rw [List.append_assoc]
      exact List.Sublist.append (List.Sublist.refl _) (List.sublist_append_right _ _)

theorem writerStep_inOrder {generations : Nat} (step : WriterStep generations before after)
    (wellNamed : before.store.WellNamed) (inOrder : InOrder generations before) :
    InOrder generations after := by
  have installed : forall items,
      (forall generation, 1 ≤ generation ->
        (before.store.install items).named generation = before.store.named generation) ∧
      (forall file, file ∈ rotated before.store generations ->
        (before.store.install items).content file = before.store.content file) := by
    intro items
    refine ⟨fun generation above => ?_, fun file member => ?_⟩
    · rw [Store.install_named, if_neg (by omega)]
    · rcases mem_rotated member with ⟨generation, -, -, named⟩
      simp [Store.install, Nat.ne_of_lt (wellNamed.created _ _ named)]
  have notLive : forall live, before.store.named 0 = some live ->
      forall file, file ∈ rotated before.store generations -> file ≠ live := by
    rintro live isLive file member rfl
    rcases mem_rotated member with ⟨generation, above, -, named⟩
    have isZero := wellNamed.distinct _ _ _ named isLive
    omega
  cases step with
  | idle => exact inOrder
  | rename source inside => exact inOrder_rename inside inOrder
  | create missing =>
      exact inOrder_of_live [] inOrder (installed []).1 (installed []).2
        (by simp) (by simp)
  | append file live items =>
      refine inOrder_of_live items inOrder (fun _ _ => rfl) ?_ ?_ rfl
      · intro other member
        simp [Store.write, notLive file live other member]
      · exact (live_write live items).symm ▸ List.Sublist.refl _
  | replace kept items =>
      refine inOrder_of_live items inOrder (installed _).1 (installed _).2 ?_ rfl
      rw [Store.live_install]
      exact List.Sublist.append (List.take_sublist _ _) (List.Sublist.refl _)
  | truncate file live kept =>
      refine inOrder_of_live [] inOrder (fun _ _ => rfl) ?_ ?_ (by simp)
      · intro other member
        simp [Store.truncate, notLive file live other member]
      · rw [List.append_nil]
        exact (live_truncate live kept).symm ▸ List.take_sublist _ _

/-! ## Runs -/

/-- A run of the writers, one effect at each instant. -/
structure LogRun (E : Type u) (generations : Nat) where
  state : Nat -> Log E
  wellNamed_start : (state 0).store.WellNamed
  inOrder_start : InOrder generations (state 0)
  step : forall instant, WriterStep generations (state instant) (state (instant + 1))

namespace LogRun

variable {generations : Nat} (run : LogRun E generations)

theorem wellNamed (instant : Nat) : (run.state instant).store.WellNamed := by
  induction instant with
  | zero => exact run.wellNamed_start
  | succ instant ih =>
      exact (writerStep_names (run.step instant)).wellNamed ih

theorem inOrder (instant : Nat) : InOrder generations (run.state instant) := by
  induction instant with
  | zero => exact run.inOrder_start
  | succ instant ih =>
      exact writerStep_inOrder (run.step instant) (run.wellNamed instant) ih

theorem next_mono {early late : Nat} (order : early ≤ late) :
    (run.state early).store.next ≤ (run.state late).store.next := by
  induction late, order using Nat.le_induction with
  | base => exact Nat.le_refl _
  | succ late order ih =>
      exact ih.trans (writerStep_names (run.step late)).next

/-- A file named now was named at every instant since it was created, at a
generation that was never higher. -/
theorem origin {early late : Nat} (order : early ≤ late) {generation : Nat}
    (created : file < (run.state early).store.next)
    (named : (run.state late).store.named generation = some file) :
    exists earlier, earlier ≤ generation ∧
      (run.state early).store.named earlier = some file := by
  induction late, order using Nat.le_induction generalizing generation with
  | base => exact ⟨generation, Nat.le_refl _, named⟩
  | succ late order ih =>
      have createdByThen := Nat.lt_of_lt_of_le created (run.next_mono order)
      rcases (writerStep_names (run.step late)).origin _ _ createdByThen named with
        ⟨middle, below, namedBefore⟩
      rcases ih namedBefore with ⟨earlier, lower, namedEarly⟩
      exact ⟨earlier, lower.trans below, namedEarly⟩

/-- A path naming the same file at two instants named it throughout. -/
theorem named_between {early middle late : Nat} (first : early ≤ middle) (second : middle ≤ late)
    {generation : Nat} (before : (run.state early).store.named generation = some file)
    (after : (run.state late).store.named generation = some file) :
    (run.state middle).store.named generation = some file := by
  have created := (run.wellNamed early).created _ _ before
  have createdByThen := Nat.lt_of_lt_of_le created (run.next_mono first)
  rcases run.origin second createdByThen after with ⟨position, below, namedMiddle⟩
  rcases run.origin first created namedMiddle with ⟨start, lower, namedEarly⟩
  have same := (run.wellNamed early).distinct _ _ _ namedEarly before
  have exact : position = generation := by omega
  rwa [exact] at namedMiddle

end LogRun

/-! ## An append is a sequence of steps -/

/-- Any number of writer effects. -/
abbrev WriterSteps (generations : Nat) : Log E -> Log E -> Prop :=
  Relation.ReflTransGen (WriterStep generations)

theorem renameGenerations_steps (path : String) (answers : Nat -> EffectAnswer)
    {generations : Nat} {order : List Nat}
    (inside : forall source, source ∈ order -> source < generations) (log : Log E) :
    WriterSteps generations log
      { log with store := (renameGenerations path answers order log.store).2 } := by
  induction order generalizing log with
  | nil => exact Relation.ReflTransGen.refl
  | cons source rest ih =>
      have moved : WriterSteps generations log
          { log with store := log.store.rename source } :=
        Relation.ReflTransGen.single (.rename log source (inside source List.mem_cons_self))
      have one : WriterSteps generations log
          { log with store := (renameGeneration path source (answers source) log.store).2 } := by
        cases present : log.store.named source with
        | none =>
            simp only [renameGeneration, present]
            exact Relation.ReflTransGen.refl
        | some file =>
            rw [(renameGeneration_spec path source (answers source) present).1]
            split
            · exact moved
            · exact Relation.ReflTransGen.refl
      rw [renameGenerations]
      rcases attempt : renameGeneration path source (answers source) log.store with
        ⟨outcome, renamed⟩
      rw [attempt] at one
      cases outcome with
      | error stop => exact one
      | ok done =>
          exact one.trans (ih
            (fun other member => inside other (List.mem_cons_of_mem source member)) _)

theorem rotateJsonlGenerations_steps (path : String) (answers : Nat -> EffectAnswer)
    {generations : Nat} (positive : 1 ≤ generations) (log : Log E) :
    WriterSteps generations log
      { log with store := (rotateJsonlGenerations path generations answers log.store).2 } := by
  apply renameGenerations_steps
  intro source member
  rw [rotationOrder_eq, List.mem_reverse, List.mem_range] at member
  omega

theorem openJsonlForAppend_steps (path : String) (answer : Option String) (generations : Nat)
    (log : Log UInt8) :
    WriterSteps generations log
      { log with store := (openJsonlForAppend path answer log.store).2 } := by
  unfold openJsonlForAppend
  split
  · exact Relation.ReflTransGen.refl
  · split
    · exact Relation.ReflTransGen.refl
    next missing => exact Relation.ReflTransGen.single (.create log missing)

/-- The history grows by the bytes the call landed. -/
def Log.afterAppend (log : Log UInt8) (result : AppendResult) : Log UInt8 :=
  ⟨result.store, log.history ++ result.landed⟩

theorem appendOrTolerateAMissingNewline_steps (path : String) (io : AppendIo) (line : Bytes)
    (start generations : Nat) (log : Log UInt8) (live : log.store.named 0 = some file) :
    WriterSteps generations log
      (log.afterAppend (appendOrTolerateAMissingNewline path io file line start log.store)) := by
  have written : forall items, WriterSteps generations log
      ⟨log.store.write file items, log.history ++ items⟩ :=
    fun items => Relation.ReflTransGen.single (.append log file live items)
  unfold appendOrTolerateAMissingNewline Log.afterAppend
  cases io.write with
  | done => exact written line
  | died landed => exact written (line.take landed)
  | failed landed error =>
      cases io.checkLanded with
      | some checkError => exact written (line.take landed)
      | none =>
          dsimp only
          split <;> exact written (line.take landed)

theorem afterAppend_nothing (log : Log UInt8) (outcome : Except Stop Unit) (store : Store UInt8) :
    log.afterAppend ⟨outcome, [], store⟩ = { log with store := store } := by
  simp [Log.afterAppend]

theorem repairTornTailAndAppend_steps (path : String) (io : AppendIo) (tailStart : Nat)
    (line : Bytes) (generations : Nat) (log : Log UInt8) (live : log.store.named 0 = some file) :
    WriterSteps generations log
      (log.afterAppend (repairTornTailAndAppend path io file tailStart line log.store)) := by
  have untouched : forall outcome, WriterSteps generations log
      (log.afterAppend ⟨outcome, [], log.store⟩) := by
    intro outcome
    rw [afterAppend_nothing]
  have replaced : forall outcome, WriterSteps generations log (log.afterAppend
      ⟨outcome, line, log.store.install (readRange (log.store.content file) 0 tailStart ++ line)⟩) := by
    intro outcome
    refine Relation.ReflTransGen.single ?_
    have step : WriterStep generations log _ := .replace log tailStart line
    rw [live_of_named live] at step
    simpa [Log.afterAppend, readRange] using step
  have cut : WriterSteps generations log
      { log with store := log.store.truncate file tailStart } :=
    Relation.ReflTransGen.single (.truncate log file live tailStart)
  unfold repairTornTailAndAppend
  cases io.readPrefix with
  | some error => exact untouched _
  | none =>
    dsimp only
    cases io.replace with
    | done => exact replaced _
    | died happened =>
        cases happened with
        | true => exact replaced _
        | false => exact untouched _
    | failed replaceError =>
      dsimp only
      cases io.truncate with
      | failed truncateError => exact untouched _
      | died happened =>
          rw [afterAppend_nothing]
          cases happened with
          | true => exact cut
          | false => exact Relation.ReflTransGen.refl
      | done =>
          dsimp only
          have reopened := openJsonlForAppend_steps path io.openAfterCut generations
            { log with store := log.store.truncate file tailStart }
          split
          next stop store answer =>
            rw [answer] at reopened
            simp only [Log.afterAppend, AppendResult.withContext_store,
              AppendResult.withContext_landed, List.append_nil]
            exact cut.trans reopened
          next again store answer =>
            rw [answer] at reopened
            have appended := appendOrTolerateAMissingNewline_steps path io line tailStart
              generations { log with store := store } (openJsonlForAppend_ok answer).1
            simp only [Log.afterAppend, AppendResult.withContext_store,
              AppendResult.withContext_landed]
            exact (cut.trans reopened).trans appended

/-- An append under a policy of this many generations, whatever the system
answers, goes through writer steps only. -/
theorem appendJsonlRecord_steps {T : Type u} (serde : SerdeJson T) (path : String)
    (record : T) (rotation : Option JsonlRotation) (io : AppendIo) {generations : Nat}
    (positive : 1 ≤ generations)
    (policy : forall rule, rule ∈ rotation -> rule.generations = generations)
    (log : Log UInt8) :
    WriterSteps generations log
      (log.afterAppend (appendJsonlRecord serde path record rotation io log.store)) := by
  have finished : forall (file : FileId) (store : Store UInt8), store.named 0 = some file ->
      WriterSteps generations { log with store := store } (log.afterAppend
        (appendAfterTail serde path io (serde.toVec record ++ [newline]) file store)) := by
    intro file store live
    unfold appendAfterTail
    split
    · rw [afterAppend_nothing]
    · exact repairTornTailAndAppend_steps path io _ _ generations
        { log with store := store } live
    · exact appendOrTolerateAMissingNewline_steps path io _ _ generations
        { log with store := store } live
    · exact appendOrTolerateAMissingNewline_steps path io _ _ generations
        { log with store := store } live
  unfold appendJsonlRecord
  cases io.acquire with
  | some error =>
      dsimp only
      rw [afterAppend_nothing]
  | none =>
      dsimp only
      have opening := openJsonlForAppend_steps path io.openLive generations log
      split
      next stop opened answer =>
        rw [answer] at opening
        rw [afterAppend_nothing]
        exact opening
      next file opened answer =>
        rw [answer] at opening
        have live := (openJsonlForAppend_ok answer).1
        unfold rotateAtCap
        cases rotation with
        | none => exact opening.trans (finished file opened live)
        | some rule =>
            have same : rule.generations = generations := policy rule rfl
            dsimp only
            cases io.statForRotation with
            | some error =>
                dsimp only
                rw [afterAppend_nothing]
                exact opening
            | none =>
                dsimp only
                by_cases atCap : rule.maxBytes ≤ (opened.content file).length
                · rw [if_pos atCap, same]
                  have rotating := rotateJsonlGenerations_steps path io.rename positive
                    { log with store := opened }
                  rcases attempt : rotateJsonlGenerations path generations io.rename opened with
                    ⟨outcome, moved⟩
                  rw [attempt] at rotating
                  have reopening := openJsonlForAppend_steps path io.reopen generations
                    { log with store := moved }
                  have reopened {result : AppendResult}
                      (stopped : forall stop final, openJsonlForAppend path io.reopen moved =
                        (.error stop, final) -> result = ⟨.error stop, [], final⟩)
                      (opens : forall again final, openJsonlForAppend path io.reopen moved =
                        (.ok again, final) -> result = appendAfterTail serde path io
                          (serde.toVec record ++ [newline]) again final) :
                      WriterSteps generations { log with store := moved }
                        (log.afterAppend result) := by
                    rcases again : openJsonlForAppend path io.reopen moved with ⟨handle, final⟩
                    rw [again] at reopening
                    cases handle with
                    | error stop =>
                        rw [stopped stop final again, afterAppend_nothing]
                        exact reopening
                    | ok file =>
                        rw [opens file final again]
                        exact reopening.trans (finished file final (openJsonlForAppend_ok again).1)
                  have upToHere := opening.trans rotating
                  cases outcome with
                  | ok done =>
                      exact upToHere.trans (reopened (fun _ _ answer => by simp only [answer])
                        fun _ _ answer => by simp only [answer])
                  | error stop =>
                      cases stop with
                      | failed error =>
                          exact upToHere.trans (reopened (fun _ _ answer => by simp only [answer])
                            fun _ _ answer => by simp only [answer])
                      | died =>
                          dsimp only
                          rw [afterAppend_nothing]
                          exact upToHere
                · rw [if_neg atCap]
                  exact opening.trans (finished file opened live)

theorem writerSteps_wellNamed {generations : Nat} (steps : WriterSteps generations before after)
    (wellNamed : before.store.WellNamed) :
    after.store.WellNamed := by
  induction steps with
  | refl => exact wellNamed
  | tail _ step ih => exact (writerStep_names step).wellNamed ih

theorem appendJsonlRecord_wellNamed {T : Type u} (serde : SerdeJson T) (path : String)
    (record : T) (io : AppendIo) {store : Store UInt8} (wellNamed : store.WellNamed) :
    (appendJsonlRecord serde path record none io store).store.WellNamed := by
  have steps := appendJsonlRecord_steps serde path record none io (Nat.le_refl 1)
    (fun rule member => nomatch member) ⟨store, []⟩
  exact writerSteps_wellNamed steps wellNamed

end JsonlStore
end RocmCli
