import RocmCli.JsonlStore.Lines

namespace RocmCli
namespace JsonlStore

open Segments

/-!
# Appending a record

An append holds the store's lock, so one call runs at a time.  What it does to
the files is a function of the answers the system gives to its calls: any call
may fail, a write may stop after any prefix of its bytes, and the process may
die during one.  `AppendIo` lists those answers.

A call that ends early leaves the store as its last effect left it.  Nothing is
rolled back.
-/

/-- The system's answer to an append-mode write: how many bytes landed when it
did not land whole. -/
inductive WriteAnswer where
  | done
  | failed (landed : Nat) (error : String)
  | died (landed : Nat)
  deriving DecidableEq, Repr

/-- The system's answers to one append, in the order the calls are made.
A process that dies at a call without an effect of its own leaves what the
failure of that call leaves, so those calls only fail. -/
structure AppendIo where
  acquire : Option ErrorChain
  openLive : Option String
  statForRotation : Option String
  rename : Nat -> EffectAnswer
  reopen : Option String
  statTail : Option String
  readTail : Option String
  readPrefix : Option String
  replace : EffectAnswer
  truncate : EffectAnswer
  openAfterCut : Option String
  write : WriteAnswer
  checkLanded : Option String

/-- Every call of the append succeeds. -/
def AppendIo.allDone : AppendIo where
  acquire := none
  openLive := none
  statForRotation := none
  rename := fun _ => .done
  reopen := none
  statTail := none
  readTail := none
  readPrefix := none
  replace := .done
  truncate := .done
  openAfterCut := none
  write := .done
  checkLanded := none

/-- What one append came to.  `landed` records which of the call's own bytes
reached the live file; the program does not return it. -/
structure AppendResult where
  outcome : Except Stop Unit
  landed : Bytes
  store : Store UInt8

/-- Report a failed append under one more context. -/
def AppendResult.withContext (message : String) (result : AppendResult) : AppendResult :=
  match result.outcome with
  | .error (.failed error) => { result with outcome := .error (.failed (error.context message)) }
  | _ => result

def failedCall (message : String) (error : String) : Stop :=
  .failed ((ErrorChain.ofMessage error).context message)

/-- Open the live file in append mode, creating it when it is missing. -/
def openJsonlForAppend (path : String) (answer : Option String) (store : Store UInt8) :
    Except Stop FileId × Store UInt8 :=
  match answer with
  | some error => (.error (failedCall s!"failed to open {path}" error), store)
  | none =>
    match store.named 0 with
    | some file => (.ok file, store)
    | none => (.ok store.next, store.install [])

/-- Whether the bytes a failed write put on disk show the line arrived intact
except possibly for its own final newline. -/
def landedDespiteTheError (landed line : Bytes) : Bool :=
  let withoutTrailingNewline := line.take (line.length - 1)
  decide (withoutTrailingNewline.length ≤ landed.length) &&
    landed.take withoutTrailingNewline.length == withoutTrailingNewline

/-- Append-mode write of `line`, starting at offset `start`. -/
def appendOrTolerateAMissingNewline (path : String) (io : AppendIo) (file : FileId)
    (line : Bytes) (start : Nat) (store : Store UInt8) : AppendResult :=
  match io.write with
  | .done => ⟨.ok (), line, store.write file line⟩
  | .died landed => ⟨.error .died, line.take landed, store.write file (line.take landed)⟩
  | .failed landed error =>
      let written := store.write file (line.take landed)
      match io.checkLanded with
      | some checkError =>
          ⟨.error (failedCall
            (s!"failed to append to {path} ({checkError} " ++
              "while checking whether it landed anyway)") error),
            line.take landed, written⟩
      | none =>
          let stop := max (written.content file).length start
          if landedDespiteTheError (readRange (written.content file) start stop) line then
            ⟨.ok (), line.take landed, written⟩
          else
            ⟨.error (failedCall s!"failed to append to {path}" error), line.take landed, written⟩

/-- Discard the torn tail starting at `tailStart` and land `line` in its place,
as one replacement of the file; only when that fails, by truncating in place
and appending. -/
def repairTornTailAndAppend (path : String) (io : AppendIo) (file : FileId)
    (tailStart : Nat) (line : Bytes) (store : Store UInt8) : AppendResult :=
  match io.readPrefix with
  | some error => ⟨.error (failedCall s!"failed to read {path}" error), [], store⟩
  | none =>
    let content := readRange (store.content file) 0 tailStart ++ line
    match io.replace with
    | .done => ⟨.ok (), line, store.install content⟩
    | .died true => ⟨.error .died, line, store.install content⟩
    | .died false => ⟨.error .died, [], store⟩
    | .failed replaceError =>
      match io.truncate with
      | .failed truncateError =>
          ⟨.error (.failed (ErrorChain.ofMessage
            (s!"failed to repair the torn tail of {path}: " ++
              s!"replacing it failed ({replaceError}); " ++
              s!"truncating it failed ({truncateError})"))), [], store⟩
      | .died happened =>
          ⟨.error .died, [], if happened then store.truncate file tailStart else store⟩
      | .done =>
          let context := s!"failed to append to {path} after cutting its torn tail " ++
            s!"(replacing the store had failed: {replaceError})"
          match openJsonlForAppend path io.openAfterCut (store.truncate file tailStart) with
          | (.error stop, cut) => AppendResult.withContext context ⟨.error stop, [], cut⟩
          | (.ok file, cut) =>
              AppendResult.withContext context
                (appendOrTolerateAMissingNewline path io file line tailStart cut)

/-- Rotate a live file at the policy's cap aside and reopen.  A rotation that
fails is only warned about. -/
def rotateAtCap (path : String) (rotation : Option JsonlRotation) (io : AppendIo)
    (file : FileId) (store : Store UInt8) : Except Stop FileId × Store UInt8 :=
  match rotation with
  | none => (.ok file, store)
  | some rotation =>
    match io.statForRotation with
    | some error => (.error (failedCall s!"failed to stat {path}" error), store)
    | none =>
      if rotation.maxBytes ≤ (store.content file).length then
        match rotateJsonlGenerations path rotation.generations io.rename store with
        | (.error .died, rotated) => (.error .died, rotated)
        | (_, rotated) => openJsonlForAppend path io.reopen rotated
      else (.ok file, store)

/-- Land `line` according to how the current last line was found. -/
def appendAfterTail {T : Type u} (serde : SerdeJson T) (path : String) (io : AppendIo)
    (line : Bytes) (file : FileId) (store : Store UInt8) : AppendResult :=
  match inspectTail serde path io.statTail io.readTail (store.content file) with
  | .error error => ⟨.error (.failed error), [], store⟩
  | .ok (.torn tailStart) => repairTornTailAndAppend path io file tailStart line store
  | .ok (.validUnterminated start) =>
      appendOrTolerateAMissingNewline path io file (newline :: line) start store
  | .ok (.clean start) => appendOrTolerateAMissingNewline path io file line start store

/-- Append one record to the store, creating the file if needed. -/
def appendJsonlRecord {T : Type u} (serde : SerdeJson T) (path : String) (record : T)
    (rotation : Option JsonlRotation) (io : AppendIo) (store : Store UInt8) : AppendResult :=
  let line := serde.toVec record ++ [newline]
  match io.acquire with
  | some error => ⟨.error (.failed error), [], store⟩
  | none =>
    match openJsonlForAppend path io.openLive store with
    | (.error stop, opened) => ⟨.error stop, [], opened⟩
    | (.ok file, opened) =>
      match rotateAtCap path rotation io file opened with
      | (.error stop, rotated) => ⟨.error stop, [], rotated⟩
      | (.ok file, rotated) => appendAfterTail serde path io line file rotated

/-! ## What one append does to the live file -/

/-- The file ends in debris: a last line that is neither terminated, nor blank,
nor JSON. -/
def tornTail {T : Type u} (serde : SerdeJson T) (bytes : Bytes) : Bool :=
  let tail := lastSegment newline bytes
  !tail.isEmpty && !isBlank tail && isTornRecord serde tail

/-- What an append keeps of the live file: all of it, or what stands before
the debris of an earlier write. -/
def keptBytes {T : Type u} (serde : SerdeJson T) (bytes : Bytes) : Bytes :=
  if tornTail serde bytes then upToLast newline bytes else bytes

/-- What an append writes ahead of its own line: the line break an unterminated
but complete last line is missing. -/
def leadingBytes {T : Type u} (serde : SerdeJson T) (bytes : Bytes) : Bytes :=
  if (lastSegment newline bytes).isEmpty || tornTail serde bytes then [] else [newline]

/-- The bytes an append wants to land after what it keeps. -/
def appendedBytes {T : Type u} (serde : SerdeJson T) (bytes : Bytes) (record : T) : Bytes :=
  leadingBytes serde bytes ++ serde.toVec record ++ [newline]

/-- The two ways one append can leave the live file: untouched and not
reported as done, or with a prefix of its bytes after what it keeps.  A call
that reports success landed at least everything but its final newline. -/
structure AppendEffect {T : Type u} (serde : SerdeJson T) (before : Bytes) (record : T)
    (result : AppendResult) : Prop where
  live : (result.store.live = before ∧ result.landed = []) ∨
    result.store.live = keptBytes serde before ++ result.landed
  landed : result.landed <+: appendedBytes serde before record
  done : result.outcome = .ok () ->
    result.store.live = keptBytes serde before ++ result.landed ∧
      leadingBytes serde before ++ serde.toVec record <+: result.landed

@[simp] theorem AppendResult.withContext_store (message : String) (result : AppendResult) :
    (result.withContext message).store = result.store := by
  unfold withContext
  split <;> rfl

@[simp] theorem AppendResult.withContext_landed (message : String) (result : AppendResult) :
    (result.withContext message).landed = result.landed := by
  unfold withContext
  split <;> rfl

theorem AppendResult.ok_of_withContext {message : String} {result : AppendResult}
    (ok : (result.withContext message).outcome = .ok ()) : result.outcome = .ok () := by
  unfold withContext at ok
  split at ok
  · cases ok
  · exact ok

theorem openJsonlForAppend_live (path : String) (answer : Option String) (store : Store UInt8) :
    (openJsonlForAppend path answer store).2.live = store.live := by
  unfold openJsonlForAppend
  split
  · rfl
  · split
    · rfl
    next missing => simp [Store.live, missing, Store.install]

/-- The handle opened is the live file's, and reads what the live path held. -/
theorem openJsonlForAppend_ok {path : String} {answer : Option String}
    {store opened : Store UInt8} {file : FileId}
    (ok : openJsonlForAppend path answer store = (.ok file, opened)) :
    opened.named 0 = some file ∧ opened.content file = store.live := by
  unfold openJsonlForAppend at ok
  split at ok
  · cases ok
  · split at ok
    next present =>
      cases ok
      exact ⟨present, by simp [Store.live, present]⟩
    next missing =>
      cases ok
      simp [Store.live, missing, Store.install]

/-- The check after a failed write accepts exactly the writes that lost at
most their final newline. -/
theorem landedDespiteTheError_iff (landed line : Bytes) :
    landedDespiteTheError landed line = true ↔ line.take (line.length - 1) <+: landed := by
  simp only [landedDespiteTheError, Bool.and_eq_true, decide_eq_true_eq, beq_iff_eq]
  constructor
  · rintro ⟨-, same⟩
    rw [← same]
    exact List.take_prefix _ _
  · intro isPrefix
    exact ⟨isPrefix.length_le, (List.prefix_iff_eq_take.mp isPrefix).symm⟩

/-- Reading back from where a write started gives what the write landed. -/
theorem readRange_to_end (before items : Bytes) :
    readRange (before ++ items) before.length
      (max (before ++ items).length before.length) = items := by
  simp [readRange]

/-- A plain append lands a prefix of its line after what the file held, and
reports success only when at most the final newline is missing. -/
theorem appendOrTolerateAMissingNewline_spec (path : String) (io : AppendIo) (file : FileId)
    (text : Bytes) (start : Nat) (store : Store UInt8) (named : store.named 0 = some file)
    (atEnd : start = store.live.length) :
    let result := appendOrTolerateAMissingNewline path io file (text ++ [newline]) start store
    result.store.live = store.live ++ result.landed ∧
      result.landed <+: text ++ [newline] ∧
      (result.outcome = .ok () -> text <+: result.landed) := by
  have content : forall items, (store.write file items).content file = store.live ++ items := by
    intro items
    simp [Store.write, live_of_named named]
  unfold appendOrTolerateAMissingNewline
  cases io.write with
  | done => exact ⟨live_write named _, List.prefix_rfl, fun _ => List.prefix_append _ _⟩
  | died landed => exact ⟨live_write named _, List.take_prefix _ _, by rintro ⟨⟩⟩
  | failed landed error =>
      cases io.checkLanded with
      | some checkError =>
          exact ⟨live_write named _, List.take_prefix _ _, by rintro ⟨⟩⟩
      | none =>
          dsimp only
          split
          next accepted =>
            refine ⟨live_write named _, List.take_prefix _ _, fun _ => ?_⟩
            have arrived := (landedDespiteTheError_iff _ _).mp accepted
            rw [content, atEnd, readRange_to_end] at arrived
            simpa using arrived
          next =>
            exact ⟨live_write named _, List.take_prefix _ _, by rintro ⟨⟩⟩

/-- Repairing a torn tail keeps what stands before it and lands a prefix of
the line there, whichever of its two ways it takes. -/
theorem repairTornTailAndAppend_spec (path : String) (io : AppendIo) (file : FileId)
    (tailStart : Nat) (text : Bytes) (store : Store UInt8)
    (named : store.named 0 = some file) (inside : tailStart ≤ store.live.length) :
    let result := repairTornTailAndAppend path io file tailStart (text ++ [newline]) store
    ((result.store.live = store.live ∧ result.landed = []) ∨
        result.store.live = store.live.take tailStart ++ result.landed) ∧
      result.landed <+: text ++ [newline] ∧
      (result.outcome = .ok () ->
        result.store.live = store.live.take tailStart ++ result.landed ∧
          text <+: result.landed) := by
  have replaced : forall items,
      (store.install (readRange (store.content file) 0 tailStart ++ items)).live =
        store.live.take tailStart ++ items := by
    intro items
    simp [readRange, live_of_named named]
  unfold repairTornTailAndAppend
  cases io.readPrefix with
  | some error => exact ⟨Or.inl ⟨rfl, rfl⟩, List.nil_prefix, by rintro ⟨⟩⟩
  | none =>
    dsimp only
    cases io.replace with
    | done => exact ⟨Or.inr (replaced _), List.prefix_rfl, fun _ => ⟨replaced _, List.prefix_append _ _⟩⟩
    | died happened =>
        cases happened with
        | true => exact ⟨Or.inr (replaced _), List.prefix_rfl, by rintro ⟨⟩⟩
        | false => exact ⟨Or.inl ⟨rfl, rfl⟩, List.nil_prefix, by rintro ⟨⟩⟩
    | failed replaceError =>
      dsimp only
      have cutLive := live_truncate named tailStart
      cases io.truncate with
      | failed truncateError =>
          exact ⟨Or.inl ⟨rfl, rfl⟩, List.nil_prefix, by rintro ⟨⟩⟩
      | died happened =>
          cases happened with
          | true =>
              exact ⟨Or.inr (by simpa using cutLive), List.nil_prefix,
                by rintro ⟨⟩⟩
          | false => exact ⟨Or.inl ⟨rfl, rfl⟩, List.nil_prefix, by rintro ⟨⟩⟩
      | done =>
          dsimp only
          have opened := openJsonlForAppend_live path io.openAfterCut
            (store.truncate file tailStart)
          split
          next stop cut answer =>
            rw [answer, cutLive] at opened
            refine ⟨Or.inr ?_, ?_, fun success => ?_⟩
            · simpa using opened
            · simp
            · cases AppendResult.ok_of_withContext success
          next reopened cut answer =>
            have handle := openJsonlForAppend_ok answer
            rw [answer, cutLive] at opened
            have atEnd : tailStart = cut.live.length := by
              rw [opened, List.length_take, Nat.min_eq_left inside]
            have appended := appendOrTolerateAMissingNewline_spec path io reopened text tailStart
              cut handle.1 atEnd
            rw [opened] at appended
            simp only [AppendResult.withContext_store, AppendResult.withContext_landed]
            refine ⟨Or.inr appended.1, appended.2.1, fun success => ⟨appended.1, ?_⟩⟩
            exact appended.2.2 (AppendResult.ok_of_withContext success)

variable {T : Type u}

/-- The classification of the last line decides what is kept and what is
written first. -/
theorem inspectTail_eq (serde : SerdeJson T) (path : String) (bytes : Bytes) :
    inspectTail serde path none none bytes = .ok (
      if lastSegment newline bytes = [] then .clean bytes.length
      else if tornTail serde bytes then .torn (upToLast newline bytes).length
      else .validUnterminated bytes.length) := by
  by_cases boundary : lastSegment newline bytes = []
  · rw [if_pos boundary]
    exact inspectTail_clean serde path boundary
  · rw [inspectTail_unterminated serde path boundary, if_neg boundary]
    have tailNonempty : (lastSegment newline bytes).isEmpty = false := by simpa using boundary
    simp only [tornTail, tailNonempty]
    cases isBlank (lastSegment newline bytes) <;>
      cases isTornRecord serde (lastSegment newline bytes) <;> rfl

/-- Failing calls aside, the classification does not depend on the answers. -/
theorem inspectTail_ok {serde : SerdeJson T} {path : String} {statError readError : Option String}
    {bytes : Bytes} {state : TailState}
    (ok : inspectTail serde path statError readError bytes = .ok state) :
    inspectTail serde path none none bytes = .ok state := by
  unfold inspectTail at ok ⊢
  cases statError with
  | some error => cases ok
  | none =>
      dsimp only at ok ⊢
      split at ok
      next empty => rw [if_pos empty]; exact ok
      next nonempty =>
        rw [if_neg nonempty]
        cases readError with
        | some error => cases ok
        | none => exact ok

/-- A call that stopped before its first effect. -/
theorem AppendEffect.untouched (serde : SerdeJson T) {before : Bytes} (record : T)
    {result : AppendResult} (live : result.store.live = before) (landed : result.landed = [])
    (stopped : result.outcome ≠ .ok ()) : AppendEffect serde before record result where
  live := Or.inl ⟨live, landed⟩
  landed := by rw [landed]; exact List.nil_prefix
  done := fun success => absurd success stopped

theorem appendAfterTail_effect (serde : SerdeJson T) (path : String) (record : T) (io : AppendIo)
    (file : FileId) (store : Store UInt8) (named : store.named 0 = some file) :
    AppendEffect serde store.live record
      (appendAfterTail serde path io (serde.toVec record ++ [newline]) file store) := by
  unfold appendAfterTail
  rw [← live_of_named named]
  cases inspected : inspectTail serde path io.statTail io.readTail store.live with
  | error error => exact AppendEffect.untouched serde record rfl rfl nofun
  | ok state =>
      have classified := (inspectTail_ok inspected).symm.trans (inspectTail_eq serde path store.live)
      split at classified
      next boundary =>
        -- A clean boundary: everything is kept and nothing is written first.
        cases classified
        have kept : keptBytes serde store.live = store.live := by simp [keptBytes, tornTail, boundary]
        have leading : leadingBytes serde store.live = [] := by simp [leadingBytes, boundary]
        have spec := appendOrTolerateAMissingNewline_spec path io file (serde.toVec record) _
          store named rfl
        constructor
        · exact Or.inr (by rw [kept]; exact spec.1)
        · simpa only [appendedBytes, leading, List.nil_append] using spec.2.1
        · intro success
          rw [kept, leading, List.nil_append]
          exact ⟨spec.1, spec.2.2 success⟩
      next unterminated =>
        split at classified
        next torn =>
          -- Debris: what stands before it is kept.
          cases classified
          have kept : keptBytes serde store.live = upToLast newline store.live := by
            simp [keptBytes, torn]
          have leading : leadingBytes serde store.live = [] := by simp [leadingBytes, torn]
          have keptPrefix : upToLast newline store.live <+: store.live := List.rdropWhile_prefix _ _
          have cut := List.prefix_iff_eq_take.mp keptPrefix
          have spec := repairTornTailAndAppend_spec path io file
            (upToLast newline store.live).length (serde.toVec record) store named
            keptPrefix.length_le
          rw [← cut] at spec
          constructor
          · rw [kept]
            exact spec.1
          · simpa only [appendedBytes, leading, List.nil_append] using spec.2.1
          · intro success
            rw [kept, leading, List.nil_append]
            exact spec.2.2 success
        next complete =>
          -- A complete last line: it is kept, and its line break written first.
          cases classified
          have kept : keptBytes serde store.live = store.live := by simp [keptBytes, complete]
          have leading : leadingBytes serde store.live = [newline] := by
            simp [leadingBytes, complete, unterminated]
          have spec := appendOrTolerateAMissingNewline_spec path io file
            (newline :: serde.toVec record) _ store named rfl
          constructor
          · exact Or.inr (by rw [kept]; exact spec.1)
          · rw [appendedBytes, leading]
            exact spec.2.1
          · intro success
            rw [kept, leading]
            exact ⟨spec.1, spec.2.2 success⟩

/-- One append, whatever the system answers. -/
theorem appendJsonlRecord_effect (serde : SerdeJson T) (path : String) (record : T) (io : AppendIo)
    (store : Store UInt8) :
    AppendEffect serde store.live record
      (appendJsonlRecord serde path record none io store) := by
  unfold appendJsonlRecord rotateAtCap
  cases io.acquire with
  | some error => exact AppendEffect.untouched serde record rfl rfl nofun
  | none =>
      dsimp only
      have opened := openJsonlForAppend_live path io.openLive store
      split
      next stop store' answer =>
        rw [answer] at opened
        exact AppendEffect.untouched serde record opened rfl nofun
      next file store' answer =>
        rw [answer] at opened
        rw [← opened]
        exact appendAfterTail_effect serde path record io file store' (openJsonlForAppend_ok answer).1

end JsonlStore
end RocmCli
