import RocmCli.Dashboard.Transcript

namespace RocmCli
namespace Dashboard

open Runs Text

/-!
# One turn of the agent at a time

The loop keeps one flag for a turn being in flight, and what it takes from its
queue does not say which turn it is about.  The flag is right as long as what is
no turn's reply, the notice to sign in and the result of an approved action, is
only taken up while no turn is in flight.
-/

variable {Screen View Signal Backend : Type}

namespace Session

/-- A turn was started whose reply has not been taken up. -/
def InFlight (session : Session Screen View Signal Backend) (number : Nat) : Prop :=
  exists turn, session.turns[number]? = some turn ∧ turn.answer = none

/-- Every turn that was started has been answered. -/
def idle (session : Session Screen View Signal Backend) : Bool :=
  session.turns.all fun turn => turn.answer.isSome

theorem idle_iff {session : Session Screen View Signal Backend} :
    session.idle = true ↔ forall number, ¬ session.InFlight number := by
  unfold idle InFlight
  rw [List.all_eq_true]
  constructor
  · rintro all number ⟨turn, isTurn, unanswered⟩
    have answered := all turn (List.mem_of_getElem? isTurn)
    rw [unanswered] at answered
    cases answered
  · intro none turn member
    rcases List.getElem?_of_mem member with ⟨number, isTurn⟩
    cases answer : turn.answer with
    | some line => rfl
    | none => exact absurd ⟨turn, isTurn, answer⟩ (none number)

/-- At most one turn is in flight, the flag says whether one is or is asked for,
and every turn was given the reply of the one before, unless the transcript was
emptied in between. -/
structure OneTurn (session : Session Screen View Signal Backend) : Prop where
  single : forall first second, session.InFlight first -> session.InFlight second -> first = second
  sending : session.app.chatSending = true ↔
    (exists number, session.InFlight number) ∨ session.app.chatDispatch = true
  edge : session.app.chatDispatch = true -> forall number, ¬ session.InFlight number
  histories : forall (number : Nat) earlier later, session.turns[number]? = some earlier ->
    session.turns[number + 1]? = some later ->
    exists answer, earlier.answer = some answer ∧ (later.emptied = false -> answer ∈ later.history)

/-- What the loop keeps up between its steps. -/
structure Sound (session : Session Screen View Signal Backend) : Prop where
  latest : forall number, session.InFlight number -> number + 1 = session.turns.length
  sending : session.app.chatSending = true ↔
    (exists number, session.InFlight number) ∨ session.app.chatDispatch = true
  edge : session.app.chatDispatch = true -> forall number, ¬ session.InFlight number
  waiting : session.phase = .waiting -> session.app.chatDispatch = false
  replies : forall posted, posted ∈ session.queue -> forall number, posted.turn = some number ->
    session.InFlight number ∧
      (exists turn, session.turns[number]? = some turn ∧ turn.posted = true) ∧
      ((exists text, posted.message = .chatReply text) ∨
        exists message, posted.message = .chatError message)
  once : (session.queue.filterMap Posted.turn).Nodup
  unposted : forall (number : Nat) turn, session.turns[number]? = some turn -> turn.posted = false ->
    turn.answer = none
  kept : forall (number : Nat) turn answer, session.turns[number]? = some turn ->
    number + 1 = session.turns.length -> turn.answer = some answer -> session.emptied = false ->
    answer ∈ session.app.chat
  histories : forall (number : Nat) earlier later answer, session.turns[number]? = some earlier ->
    session.turns[number + 1]? = some later -> earlier.answer = some answer ->
    later.emptied = false -> answer ∈ later.history

variable {session : Session Screen View Signal Backend}

theorem Sound.oneTurn (sound : session.Sound) : session.OneTurn where
  single first second isFirst isSecond := by
    have one := sound.latest first isFirst
    have two := sound.latest second isSecond
    omega
  sending := sound.sending
  edge := sound.edge
  histories number earlier later isEarlier isLater := by
    cases answer : earlier.answer with
    | none =>
      have last := sound.latest number ⟨earlier, isEarlier, answer⟩
      have inside := (List.getElem?_eq_some_iff.mp isLater).1
      omega
    | some line =>
      exact ⟨line, rfl, sound.histories number earlier later line isEarlier isLater answer⟩

/-- The chat is as the loop left it in another session. -/
structure SameTurns (before after : Session Screen View Signal Backend) : Prop where
  turns : after.turns = before.turns
  queue : after.queue <:+ before.queue

variable {after : Session Screen View Signal Backend}

theorem SameTurns.inFlight {before : Session Screen View Signal Backend}
    (same : SameTurns before after) (number : Nat) :
    after.InFlight number ↔ before.InFlight number := by
  unfold InFlight
  rw [same.turns]

theorem mem_of_change {before after : AppState Screen View} (change : ChatChange before after)
    {line : ChatTurn} (member : line ∈ before.chat) (some : after.chat ≠ []) :
    line ∈ after.chat := by
  cases change with
  | kept _ _ kept => exact kept.subset member
  | emptied _ _ isEmpty => exact absurd isEmpty some
  | started _ _ _ kept => exact kept.subset member

/-- What changes the chat as the reducer does keeps the loop sound. -/
theorem Sound.of_change (sound : session.Sound) (same : SameTurns session after)
    (change : ChatChange session.app after.app) (phase : after.phase ≠ .waiting)
    (emptied : after.emptied = (session.emptied || after.app.chat.isEmpty)) : after.Sound := by
  have flags : (after.app.chatSending = true ↔
      (exists number, session.InFlight number) ∨ after.app.chatDispatch = true) ∧
      (after.app.chatDispatch = true -> forall number, ¬ session.InFlight number) := by
    cases change with
    | kept keptSending keptDispatch _ =>
        rw [keptSending, keptDispatch]
        exact ⟨sound.sending, sound.edge⟩
    | emptied keptSending keptDispatch _ =>
        rw [keptSending, keptDispatch]
        exact ⟨sound.sending, sound.edge⟩
    | started idle isSending isDispatch _ =>
        refine ⟨⟨fun _ => Or.inr isDispatch, fun _ => isSending⟩, fun _ number inFlight => ?_⟩
        have sending := sound.sending.mpr (Or.inl ⟨number, inFlight⟩)
        rw [idle] at sending
        cases sending
  refine ⟨?_, ?_, ?_, fun isWaiting => absurd isWaiting phase, ?_, ?_, ?_, ?_, ?_⟩
  · intro number inFlight
    rw [same.turns]
    exact sound.latest number ((same.inFlight number).mp inFlight)
  · rw [flags.1]
    exact or_congr_left (exists_congr fun number => (same.inFlight number).symm)
  · intro edge number inFlight
    exact flags.2 edge number ((same.inFlight number).mp inFlight)
  · intro posted member number isTurn
    rw [same.inFlight, same.turns]
    exact sound.replies posted (same.queue.subset member) number isTurn
  · exact sound.once.sublist (same.queue.sublist.filterMap _)
  · rw [same.turns]
    exact sound.unposted
  · intro number turn answer isTurn isLast isAnswer notEmptied
    rw [emptied, Bool.or_eq_false_iff] at notEmptied
    rw [same.turns] at isTurn isLast
    refine mem_of_change change (sound.kept number turn answer isTurn isLast isAnswer notEmptied.1) ?_
    intro isEmpty
    rw [isEmpty] at notEmptied
    exact absurd notEmptied.2 (by decide)
  · intro number earlier later answer isEarlier isLater isAnswer notEmptied
    rw [same.turns] at isEarlier isLater
    exact sound.histories number earlier later answer isEarlier isLater isAnswer notEmptied

/-! ## Replies -/

theorem of_getElem?_modify {turns : List (Turn Backend)} {change : Turn Backend -> Turn Backend}
    {number index : Nat} {turn : Turn Backend}
    (found : (turns.modify number change)[index]? = some turn) :
    exists old, turns[index]? = some old ∧ turn = if number = index then change old else old := by
  rw [List.getElem?_modify] at found
  cases isOld : turns[index]? with
  | none => rw [isOld] at found; cases found
  | some old =>
    rw [isOld] at found
    exact ⟨old, rfl, (Option.some.inj found).symm⟩

/-- Taking up the reply of the turn in flight leaves none. -/
theorem Sound.of_answer (sound : session.Sound) (waiting : session.phase = .waiting)
    {posted : Posted Signal} {rest : List (Posted Signal)} {number : Nat} {line : ChatTurn}
    (queue : session.queue = posted :: rest) (turn : posted.turn = some number)
    (queueAfter : after.queue = rest) (turns : after.turns =
      session.turns.modify number fun turn => { turn with answer := some line })
    (sending : after.app.chatSending = false)
    (dispatch : after.app.chatDispatch = session.app.chatDispatch)
    (chat : after.app.chat = session.app.chat ++ [line]) (phase : after.phase ≠ .waiting) :
    after.Sound := by
  have head : posted ∈ session.queue := queue ▸ List.mem_cons_self
  have isLast := sound.latest number (sound.replies posted head number turn).1
  have length : after.turns.length = session.turns.length := by
    rw [turns, List.length_modify]
  have noneInFlight : forall index, ¬ after.InFlight index := by
    rintro index ⟨found, isFound, unanswered⟩
    rw [turns] at isFound
    rcases of_getElem?_modify isFound with ⟨old, isOld, change⟩
    by_cases here : number = index
    · rw [change, if_pos here] at unanswered
      cases unanswered
    · rw [change, if_neg here] at unanswered
      have alsoLast := sound.latest index ⟨old, isOld, unanswered⟩
      omega
  have others : forall later, later ∈ rest -> later.turn = none := by
    intro later member
    cases isTurn : later.turn with
    | none => rfl
    | some index =>
      have inQueue : later ∈ session.queue := queue ▸ List.mem_cons_of_mem posted member
      have alsoLast := sound.latest index (sound.replies later inQueue index isTurn).1
      have same : index = number := by omega
      have once := sound.once
      rw [queue, List.filterMap_cons_some turn] at once
      have again : number ∈ rest.filterMap Posted.turn :=
        List.mem_filterMap.mpr ⟨later, member, isTurn.trans (congrArg some same)⟩
      exact absurd again (List.nodup_cons.mp once).1
  refine ⟨fun index inFlight => absurd inFlight (noneInFlight index), ?_, fun _ => noneInFlight,
    fun isWaiting => absurd isWaiting phase, ?_, ?_, ?_, ?_, ?_⟩
  · rw [sending, dispatch, sound.waiting waiting]
    simp [noneInFlight]
  · intro later member index isTurn
    rw [queueAfter] at member
    rw [others later member] at isTurn
    cases isTurn
  · rw [queueAfter]
    have once := sound.once
    rw [queue] at once
    exact once.sublist ((List.sublist_cons_self posted rest).filterMap _)
  · intro index found isFound notPosted
    rw [turns] at isFound
    rcases of_getElem?_modify isFound with ⟨old, isOld, change⟩
    by_cases here : number = index
    · rcases (sound.replies posted head number turn).2.1 with ⟨same, isSame, isPosted⟩
      rw [here, isOld] at isSame
      rw [change, if_pos here, Option.some.inj isSame] at notPosted
      exact absurd (isPosted.symm.trans notPosted) (by decide)
    · rw [change, if_neg here] at notPosted ⊢
      exact sound.unposted index old isOld notPosted
  · intro index found answer isFound atEnd isAnswer _
    rw [turns] at isFound
    rcases of_getElem?_modify isFound with ⟨old, _, change⟩
    have here : number = index := by omega
    rw [change, if_pos here] at isAnswer
    rw [chat, ← Option.some.inj isAnswer]
    exact List.mem_append_right _ (List.mem_singleton.mpr rfl)
  · intro index earlier later answer isEarlier isLater isAnswer notEmptied
    rw [turns] at isEarlier isLater
    rcases of_getElem?_modify isEarlier with ⟨oldEarlier, isOldEarlier, earlierChange⟩
    rcases of_getElem?_modify isLater with ⟨oldLater, isOldLater, laterChange⟩
    have inside := (List.getElem?_eq_some_iff.mp isOldLater).1
    have apart : number ≠ index := by omega
    rw [earlierChange, if_neg apart] at isAnswer
    have sameHistory : later.history = oldLater.history ∧ later.emptied = oldLater.emptied := by
      rw [laterChange]
      split <;> exact ⟨rfl, rfl⟩
    rw [sameHistory.1]
    exact sound.histories index oldEarlier oldLater answer isOldEarlier isOldLater isAnswer
      (sameHistory.2 ▸ notEmptied)

/-- Messages of no turn may be posted at any time. -/
theorem Sound.post (sound : session.Sound) (message : ClientMsg Signal) :
    (session.post message).Sound := by
  refine ⟨sound.latest, sound.sending, sound.edge, sound.waiting, ?_, ?_, sound.unposted,
    sound.kept, sound.histories⟩
  · intro posted member number isTurn
    rcases List.mem_append.mp member with earlier | now
    · exact sound.replies posted earlier number isTurn
    · rw [List.mem_singleton.mp now] at isTurn
      cases isTurn
  · have same : (session.post message).queue.filterMap Posted.turn =
        session.queue.filterMap Posted.turn := by
      unfold Session.post
      rw [List.filterMap_append]
      exact List.append_nil _
    rw [same]
    exact sound.once

/-- A turn posts its reply. -/
theorem Sound.reply (sound : session.Sound) (number : Nat) (result : Except String String) :
    (session.reply number result).Sound := by
  unfold Session.reply
  cases isTurn : session.turns[number]? with
  | none => exact sound
  | some turn =>
    dsimp only
    split
    next => exact sound
    next unposted =>
      have notPosted : turn.posted = false := Bool.eq_false_iff.mpr unposted
      have unanswered := sound.unposted number turn isTurn notPosted
      have old {index : Nat} {found : Turn Backend}
          (isFound : (session.turns.modify number fun turn => { turn with posted := true })[index]? =
            some found) : exists before, session.turns[index]? = some before ∧
              found.answer = before.answer ∧ found.history = before.history ∧
              found.emptied = before.emptied ∧ (found.posted = false -> before.posted = false) := by
        rcases of_getElem?_modify isFound with ⟨before, isBefore, change⟩
        refine ⟨before, isBefore, ?_⟩
        rw [change]
        split
        · exact ⟨rfl, rfl, rfl, nofun⟩
        · exact ⟨rfl, rfl, rfl, id⟩
      have inFlight (index : Nat) : (exists found,
          (session.turns.modify number fun turn => { turn with posted := true })[index]? = some found ∧
            found.answer = none) ↔ session.InFlight index := by
        constructor
        · rintro ⟨found, isFound, isUnanswered⟩
          rcases old isFound with ⟨before, isBefore, sameAnswer, _⟩
          exact ⟨before, isBefore, sameAnswer ▸ isUnanswered⟩
        · rintro ⟨before, isBefore, isUnanswered⟩
          rw [List.getElem?_modify, isBefore]
          refine ⟨_, rfl, ?_⟩
          split
          · exact isUnanswered
          · exact isUnanswered
      have length := List.length_modify (fun turn : Turn Backend => { turn with posted := true })
        (i := number) session.turns
      have here : session.InFlight number := ⟨turn, isTurn, unanswered⟩
      refine ⟨?_, ?_, ?_, sound.waiting, ?_, ?_, ?_, ?_, ?_⟩
      · intro index isInFlight
        exact (sound.latest index ((inFlight index).mp isInFlight)).trans length.symm
      · exact sound.sending.trans (or_congr_left (exists_congr fun index => (inFlight index).symm))
      · intro edge index isInFlight
        exact sound.edge edge index ((inFlight index).mp isInFlight)
      · intro posted member index isIndex
        have isPosted : exists found,
            (session.turns.modify number fun turn => { turn with posted := true })[number]? =
              some found ∧ found.posted = true := by
          rw [List.getElem?_modify_eq, isTurn]
          exact ⟨_, rfl, rfl⟩
        rcases List.mem_append.mp member with earlier | now
        · rcases sound.replies posted earlier index isIndex with ⟨isInFlight, _, isReply⟩
          have same : index = number := by
            have one := sound.latest index isInFlight
            have two := sound.latest number here
            omega
          exact ⟨(inFlight index).mpr isInFlight, same ▸ isPosted, isReply⟩
        · rw [List.mem_singleton.mp now] at isIndex ⊢
          cases isIndex
          refine ⟨(inFlight number).mpr here, isPosted, ?_⟩
          cases result with
          | ok text => exact Or.inl ⟨text, rfl⟩
          | error message => exact Or.inr ⟨message, rfl⟩
      · rw [List.filterMap_append]
        refine List.nodup_append.mpr ⟨sound.once, List.pairwise_singleton _ _, ?_⟩
        intro index earlier other now
        rcases List.mem_filterMap.mp earlier with ⟨posted, member, isIndex⟩
        rcases (sound.replies posted member index isIndex).2.1 with ⟨found, isFound, isPosted⟩
        rw [List.mem_singleton.mp now]
        rintro rfl
        rw [isTurn] at isFound
        rw [← Option.some.inj isFound, notPosted] at isPosted
        cases isPosted
      · intro index found isFound isUnposted
        rcases old isFound with ⟨before, isBefore, sameAnswer, _, _, samePosted⟩
        rw [sameAnswer]
        exact sound.unposted index before isBefore (samePosted isUnposted)
      · intro index found answer isFound atEnd isAnswer notEmptied
        rcases old isFound with ⟨before, isBefore, sameAnswer, _⟩
        exact sound.kept index before answer isBefore (atEnd.trans length)
          (sameAnswer ▸ isAnswer) notEmptied
      · intro index earlier later answer isEarlier isLater isAnswer notEmptied
        rcases old isEarlier with ⟨oldEarlier, isOldEarlier, sameAnswer, _⟩
        rcases old isLater with ⟨oldLater, isOldLater, _, sameHistory, sameEmptied, _⟩
        rw [sameHistory]
        exact sound.histories index oldEarlier oldLater answer isOldEarlier isOldLater
          (sameAnswer ▸ isAnswer) (sameEmptied ▸ notEmptied)

/-! ## Draining -/

/-- A drain that leaves the turns and only adds to the transcript. -/
structure Adds (before after : Session Screen View Signal Backend) : Prop where
  app : Grows before.app after.app
  queue : after.queue = before.queue
  phase : after.phase = before.phase
  turns : after.turns = before.turns
  emptied : after.emptied = before.emptied

theorem Adds.refl (session : Session Screen View Signal Backend) : Adds session session :=
  ⟨Grows.refl _, rfl, rfl, rfl, rfl⟩

theorem Adds.trans {first second third : Session Screen View Signal Backend}
    (early : Adds first second) (late : Adds second third) : Adds first third :=
  ⟨early.app.trans late.app, late.queue.trans early.queue, late.phase.trans early.phase,
    late.turns.trans early.turns, late.emptied.trans early.emptied⟩

theorem Sound.of_adds (sound : session.Sound) (adds : Adds session after) : after.Sound := by
  have inFlight (number : Nat) : after.InFlight number ↔ session.InFlight number := by
    unfold InFlight
    rw [adds.turns]
  refine ⟨?_, ?_, ?_, ?_, ?_, ?_, ?_, ?_, ?_⟩
  · simpa only [inFlight, adds.turns] using sound.latest
  · simpa only [inFlight, adds.app.sending, adds.app.dispatch] using sound.sending
  · simpa only [inFlight, adds.app.dispatch] using sound.edge
  · simpa only [adds.phase, adds.app.dispatch] using sound.waiting
  · simpa only [inFlight, adds.turns, adds.queue] using sound.replies
  · simpa only [adds.queue] using sound.once
  · simpa only [adds.turns] using sound.unposted
  · rw [adds.turns, adds.emptied]
    intro number turn answer isTurn isLast isAnswer notEmptied
    exact adds.app.chat.subset (sound.kept number turn answer isTurn isLast isAnswer notEmptied)
  · simpa only [adds.turns] using sound.histories

section Drains

variable (setup : Setup Screen View Signal) (built : Built Backend)

theorem drainSlashTool_adds : Adds session (session.drainSlashTool setup) := by
  unfold drainSlashTool
  cases session.app.slashTool with
  | none => exact Adds.refl session
  | some request =>
    dsimp only
    split
    · exact ⟨Grows.beside rfl rfl rfl rfl, rfl, rfl, rfl, rfl⟩
    · exact ⟨Grows.added _ rfl rfl rfl rfl, rfl, rfl, rfl, rfl⟩

theorem drainPlanRequest_adds : Adds session (session.drainPlanRequest setup) := by
  unfold drainPlanRequest
  cases session.app.planRequest with
  | none => exact Adds.refl session
  | some request =>
    dsimp only
    split
    · exact ⟨Grows.beside rfl rfl rfl rfl, rfl, rfl, rfl, rfl⟩
    · exact ⟨Grows.added _ rfl rfl rfl rfl, rfl, rfl, rfl, rfl⟩

theorem drainProviderSwitch_adds : Adds session (session.drainProviderSwitch built) := by
  unfold drainProviderSwitch
  cases session.app.providerSwitch with
  | none => exact Adds.refl session
  | some switch =>
    dsimp only
    split
    · exact ⟨Grows.added _ rfl rfl rfl rfl, rfl, rfl, rfl, rfl⟩
    · split <;> exact ⟨Grows.added _ rfl rfl rfl rfl, rfl, rfl, rfl, rfl⟩

theorem drainEndpointRebuild_adds : Adds session (session.drainEndpointRebuild built) := by
  unfold drainEndpointRebuild
  cases session.app.chatEndpointRebuild with
  | none => exact Adds.refl session
  | some previous =>
    dsimp only
    split
    · exact ⟨Grows.added _ rfl rfl rfl rfl, rfl, rfl, rfl, rfl⟩
    · split <;> exact ⟨Grows.added _ rfl rfl rfl rfl, rfl, rfl, rfl, rfl⟩

theorem drainDetect_adds : Adds session session.drainDetect := by
  unfold drainDetect
  split
  · exact ⟨Grows.beside rfl rfl rfl rfl, rfl, rfl, rfl, rfl⟩
  · exact Adds.refl session

theorem drainPersist_adds : Adds session (session.drainPersist built) := by
  unfold drainPersist
  split
  · dsimp only
    split <;> exact ⟨Grows.beside rfl rfl rfl rfl, rfl, rfl, rfl, rfl⟩
  · exact Adds.refl session

end Drains

/-- The turn that was asked for is started with everything answered. -/
theorem Sound.drainDispatch (sound : session.Sound) :
    session.drainDispatch.Sound ∧ session.drainDispatch.app.chatDispatch = false := by
  unfold Session.drainDispatch
  cases edge : session.app.chatDispatch with
  | false => exact ⟨sound, edge⟩
  | true =>
    rw [if_pos rfl]
    have nothing := sound.edge edge
    have sending := sound.sending.mpr (Or.inr edge)
    cases session.runtime.agent with
    | none =>
      refine ⟨⟨sound.latest, ?_, nofun, fun _ => rfl, sound.replies, sound.once,
        sound.unposted, ?_, sound.histories⟩, rfl⟩
      · constructor
        · exact nofun
        · rintro (⟨number, inFlight⟩ | impossible)
          · exact absurd inFlight (nothing number)
          · cases impossible
      · intro number turn answer isTurn isLast isAnswer notEmptied
        exact List.mem_append_left _ (sound.kept number turn answer isTurn isLast isAnswer notEmptied)
    | some agent =>
      refine ⟨?_, rfl⟩
      have started {index : Nat} {found : Turn Backend}
          (isFound : (session.turns ++
            [⟨agent, session.app.chat, session.emptied, false, none⟩])[index]? = some found) :
          session.turns[index]? = some found ∨ (index = session.turns.length ∧
            found = ⟨agent, session.app.chat, session.emptied, false, none⟩) := by
        rcases Nat.lt_or_ge index session.turns.length with before | after
        · rw [List.getElem?_append_left before] at isFound
          exact Or.inl isFound
        · rw [List.getElem?_append_right after, List.getElem?_singleton] at isFound
          split at isFound
          next atEnd => exact Or.inr ⟨by omega, (Option.some.inj isFound).symm⟩
          next => cases isFound
      have last {index : Nat} {found : Turn Backend}
          (isFound : (session.turns ++
            [⟨agent, session.app.chat, session.emptied, false, none⟩])[index]? = some found)
          (unanswered : found.answer = none) : index = session.turns.length := by
        rcases started isFound with old | ⟨atEnd, _⟩
        · exact absurd ⟨found, old, unanswered⟩ (nothing index)
        · exact atEnd
      have length : (session.turns ++
          [(⟨agent, session.app.chat, session.emptied, false, none⟩ : Turn Backend)]).length =
            session.turns.length + 1 := List.length_append
      refine ⟨?_, ?_, nofun, fun _ => rfl, ?_, sound.once, ?_, ?_, ?_⟩
      · rintro index ⟨found, isFound, unanswered⟩
        rw [last isFound unanswered]
        exact length.symm
      · exact ⟨fun _ => Or.inl ⟨session.turns.length, _, List.getElem?_concat_length, rfl⟩,
          fun _ => sending⟩
      · intro posted member index isIndex
        exact absurd (sound.replies posted member index isIndex).1 (nothing index)
      · intro index found isFound unposted
        rcases started isFound with old | ⟨_, isFresh⟩
        · exact sound.unposted index found old unposted
        · rw [isFresh]
      · intro index found answer isFound atEnd isAnswer _
        rcases started isFound with old | ⟨_, isFresh⟩
        · have inside := (List.getElem?_eq_some_iff.mp old).1
          have same : index + 1 = session.turns.length + 1 := atEnd.trans length
          omega
        · rw [isFresh] at isAnswer
          cases isAnswer
      · intro index earlier later answer isEarlier isLater isAnswer notEmptied
        rcases started isLater with old | ⟨atEnd, isFresh⟩
        · have inside := (List.getElem?_eq_some_iff.mp old).1
          rw [List.getElem?_append_left (by omega)] at isEarlier
          exact sound.histories index earlier later answer isEarlier old isAnswer notEmptied
        · rw [List.getElem?_append_left (by omega)] at isEarlier
          rw [isFresh] at notEmptied ⊢
          exact sound.kept index earlier answer isEarlier atEnd isAnswer notEmptied

theorem drains_sound (setup : Setup Screen View Signal) (built : Built Backend)
    (sound : session.Sound) : ({ session.drains setup built with phase := .waiting } :
      Session Screen View Signal Backend).Sound := by
  have tools := (@drainSlashTool_adds _ _ _ _ session setup).trans (drainPlanRequest_adds setup)
  have agents := (tools.trans (drainProviderSwitch_adds built)).trans (drainEndpointRebuild_adds built)
  have dispatched := (sound.of_adds agents).drainDispatch
  have later := (@drainDetect_adds _ _ _ _ (((session.drainSlashTool setup).drainPlanRequest
    setup).drainProviderSwitch built |>.drainEndpointRebuild built).drainDispatch).trans
      (drainPersist_adds built)
  have drained : (session.drains setup built).Sound := dispatched.1.of_adds later
  have noEdge : (session.drains setup built).app.chatDispatch = false :=
    later.app.dispatch.trans dispatched.2
  exact ⟨drained.latest, drained.sending, drained.edge, fun _ => noEdge, drained.replies,
    drained.once, drained.unposted, drained.kept, drained.histories⟩

/-! ## Events -/

/-- What the loop takes up is the reply of a turn, or is taken up while no turn
is in flight. -/
def takesItsOwn (setup : Setup Screen View Signal) (session : Session Screen View Signal Backend) :
    LoopStep Signal Backend -> Bool
  | .event .receive =>
      match session.queue.head? with
      | some ⟨.chatReply _, none⟩ => session.idle
      | some ⟨.chatError _, none⟩ => session.idle
      | some ⟨.chatApprovalResult _, _⟩ => session.idle
      | _ => true
  | .event (.key key _) =>
      setup.hasExecutor || session.idle || !key.press || session.ctrlCShouldExit setup key ||
        (session.app.approval.all fun card => (approvalKey key.code card.choice).2 != some .approve)
  | _ => true

/-- What an event does to the chat and the turns. -/
inductive Outcome (before after : Session Screen View Signal Backend) : Prop where
  | changed (same : SameTurns before after) (change : ChatChange before.app after.app)
      (emptied : after.emptied = before.emptied)
  | answered (posted : Posted Signal) (rest : List (Posted Signal)) (number : Nat) (line : ChatTurn)
      (queue : before.queue = posted :: rest) (turn : posted.turn = some number)
      (queueAfter : after.queue = rest)
      (turns : after.turns =
        before.turns.modify number fun turn => { turn with answer := some line })
      (sending : after.app.chatSending = false)
      (dispatch : after.app.chatDispatch = before.app.chatDispatch)
      (chat : after.app.chat = before.app.chat ++ [line])

variable {app : AppState Screen View}

theorem outcome_withApp (change : ChatChange session.app app) :
    Outcome session (session.withApp app) :=
  .changed ⟨rfl, List.suffix_rfl⟩ change rfl

theorem outcome_grows (grows : Grows session.app app) : Outcome session (session.withApp app) :=
  outcome_withApp grows.change

/-- While no turn is in flight the chat is not sending between events. -/
theorem Sound.notSending (sound : session.Sound) (waiting : session.phase = .waiting)
    (idle : session.idle = true) : session.app.chatSending = false := by
  refine Bool.eq_false_iff.mpr fun sending => ?_
  rcases sound.sending.mp sending with ⟨number, inFlight⟩ | edge
  · exact idle_iff.mp idle number inFlight
  · rw [sound.waiting waiting] at edge
    cases edge

/-- A reply that no turn gave, taken up while the chat is not sending. -/
theorem onChatReply_grows (idle : app.chatSending = false) (text : String) :
    Grows app (app.onChatReply text) :=
  ⟨idle.symm, rfl, List.prefix_append _ _, id⟩

theorem onChatError_grows (idle : app.chatSending = false) (message : String) :
    Grows app (app.onChatError message) :=
  ⟨idle.symm, rfl, List.prefix_append _ _, id⟩

theorem onApprovalResult_started (idle : app.chatSending = false) (text : String) :
    ChatChange app (app.onApprovalResult text) :=
  .started idle rfl rfl (List.prefix_append _ _)

theorem setDetectResult_grows (app : AppState Screen View) (offer : Option LlmConfig) :
    Grows app (app.setDetectResult offer) := by
  unfold AppState.setDetectResult
  cases offer with
  | none => exact Grows.ite (Grows.added _ rfl rfl rfl rfl) (Grows.beside rfl rfl rfl rfl)
  | some config => exact Grows.ite (Grows.added _ rfl rfl rfl rfl) (Grows.beside rfl rfl rfl rfl)

theorem onPlanReady_grows (app : AppState Screen View) (text : String)
    (action : Option PlannedAction) : Grows app (app.onPlanReady text action) := by
  have reviewed := Grows.push app (.agent text)
  unfold AppState.onPlanReady
  cases action with
  | none => exact reviewed
  | some action =>
    exact Grows.ite (Grows.ite (reviewed.trans (Grows.push _ _))
      (reviewed.trans (Grows.beside rfl rfl rfl rfl))) reviewed

theorem openApproval_change (around : Surroundings Screen View Signal) (app : AppState Screen View)
    (intent : ApprovalIntent) : ChatChange app (app.openApproval around intent) := by
  unfold AppState.openApproval
  split
  · exact (Grows.push app _).change
  · split
    · exact (Grows.push app _).change
    · exact .kept rfl rfl List.prefix_rfl

section Events

variable (setup : Setup Screen View Signal)

theorem onMessage_outcome {posted : Posted Signal} {rest : List (Posted Signal)}
    (queue : session.queue = posted :: rest) (sound : session.Sound)
    (waiting : session.phase = .waiting)
    (own : takesItsOwn setup session (.event .receive : LoopStep Signal Backend) = true) :
    Outcome session (({ session with queue := rest } :
      Session Screen View Signal Backend).onMessage setup posted) := by
  have tail : SameTurns session { session with queue := rest } :=
    ⟨rfl, queue ▸ List.suffix_cons posted rest⟩
  have changed {app : AppState Screen View} (change : ChatChange session.app app) :
      Outcome session (({ session with queue := rest } :
        Session Screen View Signal Backend).withApp app) :=
    .changed ⟨tail.turns, tail.queue⟩ change rfl
  rcases posted with ⟨message, turn⟩
  unfold takesItsOwn at own
  rw [queue, List.head?_cons] at own
  have head : (⟨message, turn⟩ : Posted Signal) ∈ session.queue := queue ▸ List.mem_cons_self
  cases turn with
  | none =>
    cases message with
    | signal signal => exact changed (Grows.change (Grows.beside rfl rfl rfl rfl))
    | chatReply text => exact changed (Grows.change (onChatReply_grows (sound.notSending waiting own) text))
    | chatError message =>
        exact changed (Grows.change (onChatError_grows (sound.notSending waiting own) message))
    | slashToolReply text => exact changed (Grows.change (Grows.push _ _))
    | chatDetectResult offer => exact changed (Grows.change (setDetectResult_grows _ offer))
    | chatApprovalRequired intent =>
        exact changed (openApproval_change setup.around _ intent)
    | chatApprovalResult text =>
        exact changed (onApprovalResult_started (sound.notSending waiting own) text)
    | planReady text action => exact changed (Grows.change (onPlanReady_grows _ text action))
  | some number =>
    rcases (sound.replies _ head number rfl).2.2 with ⟨text, isReply⟩ | ⟨text, isError⟩
    · cases isReply
      refine .answered _ rest number (.agent text) queue rfl rfl ?_ rfl rfl rfl
      exact congrArg (session.turns.modify number fun turn => { turn with answer := · })
        List.getLast?_concat
    · cases isError
      refine .answered _ rest number (.error text) queue rfl rfl ?_ rfl rfl rfl
      exact congrArg (session.turns.modify number fun turn => { turn with answer := · })
        List.getLast?_concat

theorem onCardKey_outcome (code : KeyCode) (sound : session.Sound)
    (waiting : session.phase = .waiting)
    (own : (setup.hasExecutor || session.idle || (session.app.approval.all fun card =>
      (approvalKey code card.choice).2 != some .approve)) = true) :
    Outcome session (session.onCardKey setup code) := by
  unfold onCardKey AppState.onApprovalKey
  cases card : session.app.approval with
  | none => exact outcome_grows (Grows.refl _)
  | some card' =>
    dsimp only
    cases verdict : (approvalKey code card'.choice).2 with
    | none => exact outcome_withApp (.kept rfl rfl List.prefix_rfl)
    | some decided =>
      cases decided with
      | deny => exact outcome_withApp (.kept rfl rfl (List.prefix_append _ _))
      | cancel => exact outcome_withApp (.kept rfl rfl (List.prefix_append _ _))
      | approve =>
        dsimp only
        split
        next => exact .changed ⟨rfl, List.suffix_rfl⟩ (.kept rfl rfl List.prefix_rfl) rfl
        next without =>
          have idle : session.idle = true := by
            simpa [card, verdict, without] using own
          exact outcome_withApp ((onApprovalResult_started (sound.notSending waiting idle) _).of_same
            rfl rfl rfl)

theorem resolveQuitConfirmKey_grows (app : AppState Screen View) (code : KeyCode) :
    Grows app (app.resolveQuitConfirmKey code).1 := by
  unfold AppState.resolveQuitConfirmKey
  cases app.quitConfirm with
  | none => exact Grows.refl app
  | some choice =>
    dsimp only
    split <;> exact Grows.beside rfl rfl rfl rfl

theorem quitConfirmOpenServicesKey_grows {after : AppState Screen View}
    (around : Surroundings Screen View Signal) {registry : ManagedRegistrySnapshot}
    {code : KeyCode} (opened : app.quitConfirmOpenServicesKey around registry code = some after) :
    Grows app after := by
  unfold AppState.quitConfirmOpenServicesKey at opened
  dsimp only at opened
  split at opened
  · cases opened
  · split at opened
    · cases opened
    · split at opened
      · cases opened
      · cases opened
        exact Grows.closing rfl rfl rfl rfl

theorem onQuitKey_outcome (code : KeyCode) (registry : ManagedRegistrySnapshot) :
    Outcome session (session.onQuitKey setup code registry).1 := by
  unfold onQuitKey
  split
  next opened isOpened => exact outcome_grows (quitConfirmOpenServicesKey_grows setup.around isOpened)
  next => exact outcome_grows (resolveQuitConfirmKey_grows session.app code)

theorem applied_outcome (registry : ManagedRegistrySnapshot) (action : KeyAction) :
    Outcome session (session.applied (session.app.applyAction setup.around registry action)).1 :=
  outcome_withApp (AppState.applyAction_turned setup.around session.app registry action).change

theorem onKey_outcome (key : KeyEvent) (registry : ManagedRegistrySnapshot) (sound : session.Sound)
    (waiting : session.phase = .waiting)
    (own : takesItsOwn setup session (.event (.key key registry) : LoopStep Signal Backend) = true) :
    Outcome session (session.onKey setup key registry).1 := by
  have unchanged : Outcome session session := outcome_grows (Grows.refl session.app)
  unfold onKey
  dsimp only
  split
  next => exact unchanged
  next press =>
    split
    next => exact unchanged
    next stays =>
      split
      next =>
        refine onCardKey_outcome setup key.code sound waiting ?_
        simpa only [takesItsOwn, press, Bool.eq_false_iff.mpr stays, Bool.or_false] using own
      next =>
        split
        next => exact onQuitKey_outcome setup key.code registry
        next =>
          split
          next => exact outcome_grows (Grows.closing rfl rfl rfl rfl)
          next =>
            split
            next => exact outcome_grows (Grows.beside rfl rfl rfl rfl)
            next =>
              split
              next => exact unchanged
              next =>
                split
                next => exact outcome_grows (Grows.beside rfl rfl rfl rfl)
                next => exact applied_outcome setup registry _

theorem onEvent_outcome (event : LoopEvent Signal) (sound : session.Sound)
    (waiting : session.phase = .waiting)
    (own : takesItsOwn setup session (.event event : LoopStep Signal Backend) = true) :
    Outcome session (session.onEvent setup event).1 := by
  cases event with
  | signal signal => exact outcome_grows (Grows.beside rfl rfl rfl rfl)
  | receive =>
    show Outcome session (session.receive setup)
    unfold receive
    split
    next => exact outcome_grows (Grows.refl session.app)
    next posted rest queue => exact onMessage_outcome setup queue sound waiting own
  | key key registry => exact onKey_outcome setup key registry sound waiting own
  | mouse mouse registry => exact applied_outcome setup registry _
  | terminalGone => exact outcome_grows (Grows.refl session.app)

theorem takeEvent_phase (event : LoopEvent Signal) :
    (session.takeEvent setup event).phase ≠ .waiting := by
  unfold takeEvent
  dsimp only
  split <;> exact nofun

/-- Taking up an event changes the phase, whether the transcript was emptied, and
what the event changes. -/
theorem takeEvent_eq (event : LoopEvent Signal) : exists phase,
    session.takeEvent setup event =
      { (session.onEvent setup event).1 with
        phase := phase
        emptied := (session.onEvent setup event).1.emptied ||
          (session.onEvent setup event).1.app.chat.isEmpty } := by
  unfold takeEvent
  dsimp only
  split
  · exact ⟨_, rfl⟩
  · exact ⟨_, rfl⟩

theorem takeEvent_sound (event : LoopEvent Signal) (sound : session.Sound)
    (waiting : session.phase = .waiting)
    (own : takesItsOwn setup session (.event event : LoopStep Signal Backend) = true) :
    (session.takeEvent setup event).Sound := by
  have moved := @takeEvent_phase _ _ _ _ session setup event
  rcases @takeEvent_eq _ _ _ _ session setup event with ⟨phase, taken⟩
  rw [taken] at moved ⊢
  cases onEvent_outcome setup event sound waiting own with
  | changed same change emptied =>
    exact sound.of_change ⟨same.turns, same.queue⟩ change moved (emptied ▸ rfl)
  | answered posted rest number line queue turn queueAfter turns sending dispatch chat =>
    exact sound.of_answer waiting queue turn queueAfter turns sending dispatch chat moved

/-! ## Runs -/

theorem Sound.step (action : LoopStep Signal Backend) (sound : session.Sound)
    (own : session.phase = .waiting -> takesItsOwn setup session action = true) :
    (session.step setup action).Sound := by
  have quietly {after : Session Screen View Signal Backend} (app : after.app = session.app)
      (queue : after.queue = session.queue) (phase : after.phase = session.phase)
      (turns : after.turns = session.turns) (emptied : after.emptied = session.emptied) :
      after.Sound :=
    sound.of_adds ⟨app ▸ Grows.refl _, queue, phase, turns, emptied⟩
  cases action with
  | event event =>
    unfold Session.step
    dsimp only
    split
    next waiting => exact takeEvent_sound setup event sound waiting (own waiting)
    next => exact sound
  | drain built =>
    unfold Session.step
    dsimp only
    split
    · exact drains_sound setup built sound
    · exact sound
  | postSignal signal => exact sound.post _
  | notice text => exact sound.post _
  | surface intent => exact sound.post _
  | reply turn result => exact sound.reply turn result
  | toolDone index outcome =>
    show (session.toolDone index outcome).Sound
    unfold toolDone
    split
    · apply Sound.post
      exact quietly rfl rfl rfl rfl rfl
    · exact sound
  | planDone index outcome =>
    show (session.planDone index outcome).Sound
    unfold planDone
    split
    · apply Sound.post
      exact quietly rfl rfl rfl rfl rfl
    · exact sound
  | runApproved index text =>
    show (session.runApproved index text).Sound
    unfold runApproved
    split
    · exact sound
    · apply Sound.post
      exact quietly rfl rfl rfl rfl rfl
  | detectDone offer =>
    show (session.detectDone offer).Sound
    unfold detectDone
    split
    · apply Sound.post
      exact quietly rfl rfl rfl rfl rfl
    · exact sound

end Events

theorem Fresh.sound (fresh : session.Fresh) : session.Sound where
  latest number inFlight := by
    rcases inFlight with ⟨turn, isTurn, _⟩
    rw [fresh.turns] at isTurn
    cases isTurn
  sending := by
    rw [fresh.sending, fresh.dispatch]
    constructor
    · exact nofun
    · rintro (⟨number, turn, isTurn, _⟩ | impossible)
      · rw [fresh.turns] at isTurn
        cases isTurn
      · cases impossible
  edge isEdge := by
    rw [fresh.dispatch] at isEdge
    cases isEdge
  waiting _ := fresh.dispatch
  replies posted member := by
    rw [fresh.queue] at member
    cases member
  once := by
    rw [fresh.queue]
    exact List.nodup_nil
  unposted number turn isTurn := by
    rw [fresh.turns] at isTurn
    cases isTurn
  kept number turn answer isTurn := by
    rw [fresh.turns] at isTurn
    cases isTurn
  histories number earlier later answer isEarlier := by
    rw [fresh.turns] at isEarlier
    cases isEarlier

/-- While nothing is in flight a prompt is taken, and while something is a prompt
is not. -/
structure Prompts (setup : Setup Screen View Signal) (session : Session Screen View Signal Backend) :
    Prop where
  taken : session.phase = .waiting -> session.idle = true -> forall registry,
    trim session.app.chatInput ≠ "" ->
    session.app.handleSlashCommand setup.around registry (trim session.app.chatInput) = none ->
    session.app.submitChat setup.around registry =
      { session.app.dispatch (trim session.app.chatInput) with chatInput := "" }
  takenCommand : session.phase = .waiting -> session.idle = true -> forall prompt, prompt ≠ "" ->
    session.app.slashChat prompt = session.app.dispatch prompt
  refused : session.idle = false -> forall registry,
    session.app.submitChat setup.around registry = session.app
  refusedCommand : session.idle = false -> forall prompt, prompt ≠ "" ->
    session.app.slashChat prompt = session.app

theorem Sound.prompts (sound : session.Sound) (setup : Setup Screen View Signal) :
    session.Prompts setup := by
  have sendingOf (busy : session.idle = false) : session.app.chatSending = true := by
    refine sound.sending.mpr (Or.inl ?_)
    by_contra none
    exact absurd (idle_iff.mpr fun number inFlight => none ⟨number, inFlight⟩) (by simp [busy])
  refine ⟨?_, ?_, ?_, ?_⟩
  · intro waiting idle registry nonblank notCommand
    unfold AppState.submitChat
    dsimp only
    rw [sound.notSending waiting idle, notCommand, if_neg (by simpa using nonblank)]
  · intro waiting idle prompt nonblank
    unfold AppState.slashChat
    rw [if_neg nonblank, sound.notSending waiting idle, if_neg (by decide)]
  · intro busy registry
    unfold AppState.submitChat
    dsimp only
    rw [sendingOf busy, Bool.true_or, if_pos rfl]
  · intro busy prompt nonblank
    unfold AppState.slashChat
    rw [if_neg nonblank, sendingOf busy, if_pos rfl]

/-- In every run that takes up nothing but replies while a turn is in flight, one
turn is in flight at a time. -/
theorem one_turn_at_a_time (setup : Setup Screen View Signal)
    {start : Session Screen View Signal Backend} (fresh : start.Fresh)
    {actions : List (LoopStep Signal Backend)}
    (own : Guarded (step setup) (fun session action =>
      session.phase = .waiting -> takesItsOwn setup session action = true) start actions) :
    (finalState (step setup) start actions).OneTurn ∧
      (finalState (step setup) start actions).Prompts setup := by
  have sound : (finalState (step setup) start actions).Sound :=
    invariant_of_step (fun session action sound own => Sound.step setup action sound own)
      fresh.sound own
  exact ⟨sound.oneTurn, sound.prompts setup⟩

/-! ## A session in which two turns run -/

/-- A dashboard with one agent and an executor, and nothing on screen but the
chat. -/
def bareSetup : Setup Unit Unit Unit where
  around :=
    { absorb := fun _ view => view
      turn := fun _ _ _ view => view
      fresh := fun _ _ => ()
      servicesAt := fun _ => ()
      managerKey := fun _ screen view _ => (some screen, view)
      atRoot := fun _ _ => true
      hasConsole := fun _ _ => false
      consoleRuns := fun _ _ _ => false
      serviceRows := fun _ => []
      serving := fun _ => []
      hasReceivedSnapshot := fun _ => true
      warningCount := fun _ => 0
      selectionLen := fun _ _ => 0
      paneVerbCount := fun _ => 0
      paneVerb := fun _ _ => none
      toLowercase := id }
  routing :=
    { handleKey := fun key _ _ chat =>
        if chat.focused && key.code == .enter then .chatSubmit else .nothing
      scrollbarHit := fun _ _ _ => none
      dragTo := fun _ _ _ _ => none
      tabBarHit := fun _ _ _ => none
      badgeHit := fun _ _ _ => false
      footerChipHit := fun _ _ _ => none
      bodyHit := fun _ _ _ _ => none
      inDock := fun _ _ _ => false
      inActions := fun _ _ _ => false }
  focused := false
  hasExecutor := true

/-- A prompt was typed into the chat. -/
def typedSession : Session Unit Unit Unit Unit where
  app :=
    { chat := [], chatInput := "serve a model", chatSending := false, chatDispatch := false
      chatFocused := true, chatLlm := none, chatConsent := .accepted, chatDetectOffer := none
      chatDetecting := false, chatDetectDispatch := false, chatDetectMsg := none
      chatPersistDispatch := false, chatEndpointRebuild := none, activeProvider := .local
      providerSwitch := none, slashTool := none, planRequest := none, approval := none
      quitConfirm := none, overlays := fun _ => none, activeTab := .chat, modal := .none
      paneFocus := .actions, menuSel := 0, paletteSel := 0, optionsTab := 0, scrollDrag := none
      shouldQuit := false, simulated := false, launcherHosted := false, view := () }
  runtime := ⟨some (), some ()⟩
  queue := []
  phase := .waiting
  tools := []
  plans := []
  approved := []
  detecting := 0
  turns := []
  emptied := false
  executed := []

theorem typedSession_fresh : typedSession.Fresh := by constructor <;> rfl

def pressed (code : KeyCode) : LoopStep Unit Unit := .event (.key ⟨code, false, true⟩ ⟨false, []⟩)

def drained : LoopStep Unit Unit := .drain ⟨fun _ => none, fun _ => .ok (), none⟩

/-- The prompt is sent and answered. -/
theorem one_turn_answered :
    (finalState (step bareSetup) typedSession
      [pressed .enter, drained, .reply 0 (.ok "done"), .event .receive, drained]).OneTurn ∧
    (finalState (step bareSetup) typedSession
      [pressed .enter, drained, .reply 0 (.ok "done"), .event .receive, drained]).Prompts bareSetup :=
  one_turn_at_a_time bareSetup typedSession_fresh (by decide)

/-- A tool of the turn asks for an approval; it is given and carried out while
the turn still runs, and the result starts a second turn. -/
def approvedInFlight : List (LoopStep Unit Unit) :=
  [pressed .enter, drained, .surface ⟨"Serve", [], "launch_server", .object []⟩, .event .receive,
    drained, pressed (.char 'y'), drained, .runApproved 0 "started", .event .receive, drained]

theorem two_turns_at_once :
    ¬ forall (start : Session Unit Unit Unit Unit), start.Fresh ->
      forall actions, (finalState (step bareSetup) start actions).OneTurn := by
  intro always
  have oneTurn := always typedSession typedSession_fresh approvedInFlight
  have turns : (finalState (step bareSetup) typedSession approvedInFlight).turns.map Turn.answer =
      [none, none] := by decide
  have inFlight (number : Nat) (inside : number < 2) :
      (finalState (step bareSetup) typedSession approvedInFlight).InFlight number := by
    have answer : ((finalState (step bareSetup) typedSession approvedInFlight).turns.map
        Turn.answer)[number]? = some none := by
      rw [turns]
      match number, inside with
      | 0, _ => rfl
      | 1, _ => rfl
    rw [List.getElem?_map, Option.map_eq_some_iff] at answer
    exact answer
  exact absurd (oneTurn.single 0 1 (inFlight 0 (by decide)) (inFlight 1 (by decide))) (by decide)

end Session

end Dashboard
end RocmCli
