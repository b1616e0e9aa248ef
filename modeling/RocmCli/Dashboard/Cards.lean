import RocmCli.Dashboard.OneTurn

namespace RocmCli
namespace Dashboard

open Runs

/-!
# Cards

A card is the one thing that approves a tool that changes something.  It shows
one request, everything but its keys stops at it, and its verdict is what the
executor is called with.  The loop takes the result of an approved action as if
the card were still that action's, so cards are only safe while no result is
taken up under a later one.
-/

/-- The request a card shows. -/
def PendingApproval.intent (card : PendingApproval) : ApprovalIntent :=
  ⟨card.req.title, card.req.body, card.name, card.arguments⟩

variable {Screen View Signal Backend : Type}

@[simp] theorem AppState.push_approval (state : AppState Screen View) (turn : ChatTurn) :
    (state.push turn).approval = state.approval :=
  rfl

namespace Session

section Kinds

variable (setup : Setup Screen View Signal) (session : Session Screen View Signal Backend)

/-- The message that is taken up next, while the loop waits. -/
def taken : LoopStep Signal Backend -> Option (ClientMsg Signal)
  | .event .receive =>
      if session.phase = .waiting then session.queue.head?.map Posted.message else none
  | _ => none

/-- The approval request that is taken up. -/
def requested (action : LoopStep Signal Backend) : Option ApprovalIntent :=
  match session.taken action with
  | some (.chatApprovalRequired intent) => some intent
  | _ => none

/-- The request that becomes a card. -/
def opened (action : LoopStep Signal Backend) : Option ApprovalIntent :=
  if session.app.approvalPending || session.app.quitConfirmPending then none
  else session.requested action

/-- The verdict a key gives, and the request that the card shows. -/
def decided : LoopStep Signal Backend -> Option (ApprovalIntent × ApprovalVerdict)
  | .event (.key key _) =>
      if session.phase = .waiting && key.press && !session.ctrlCShouldExit setup key then
        session.app.approval.bind fun card =>
          (approvalKey key.code card.choice).2.map (card.intent, ·)
      else none
  | _ => none

/-- The call an Approve verdict asks the executor for. -/
def approvedCall (action : LoopStep Signal Backend) : Option (String × Json) :=
  match session.decided setup action with
  | some (intent, .approve) => if setup.hasExecutor then some (intent.name, intent.arguments) else none
  | _ => none

/-- What the executor was called with, or will be. -/
def calls : List (String × Json) := session.executed ++ session.approved

/-- A result is only taken up while no card is open. -/
def resultsApart (action : LoopStep Signal Backend) : Bool :=
  match session.taken action with
  | some (.chatApprovalResult _) => !session.app.approvalPending
  | _ => true

/-- An event that is neither a key of the card, nor Ctrl-C, nor the end of a
drag. -/
def stopsAtCard : LoopEvent Signal -> Bool
  | .key key _ => !key.press || (!isApprovalKey key.code && !isCtrlC key)
  | .mouse mouse _ => !(mouse.kind == .up && session.app.scrollDrag.isSome)
  | _ => false

end Kinds

variable {session : Session Screen View Signal Backend}

/-! ## Draining -/

/-- The edges that the loop drains. -/
structure Edges where
  slashTool : Option SlashToolRequest
  planRequest : Option String
  providerSwitch : Option ProviderSwitch
  endpointRebuild : Option ChatProvider
  dispatch : Bool
  detect : Bool
  persist : Bool

def edges (app : AppState Screen View) : Edges :=
  ⟨app.slashTool, app.planRequest, app.providerSwitch, app.chatEndpointRebuild, app.chatDispatch,
    app.chatDetectDispatch, app.chatPersistDispatch⟩

def Edges.none : Edges := ⟨.none, .none, .none, .none, false, false, false⟩

/-- What a drain does to the edges, and what it leaves. -/
structure Drained (clear : Edges -> Edges) (before after : Session Screen View Signal Backend) :
    Prop where
  edges : edges after.app = clear (edges before.app)
  approval : after.app.approval = before.app.approval
  quitConfirm : after.app.quitConfirm = before.app.quitConfirm
  overlays : after.app.overlays = before.app.overlays
  shouldQuit : after.app.shouldQuit = before.app.shouldQuit
  approved : after.approved = before.approved
  executed : after.executed = before.executed

variable {after : Session Screen View Signal Backend}

theorem Drained.trans {first second : Edges -> Edges}
    {before between : Session Screen View Signal Backend} (early : Drained first before between)
    (late : Drained second between after) :
    Drained (second ∘ first) before after :=
  ⟨late.edges.trans (congrArg second early.edges), late.approval.trans early.approval,
    late.quitConfirm.trans early.quitConfirm, late.overlays.trans early.overlays,
    late.shouldQuit.trans early.shouldQuit, late.approved.trans early.approved,
    late.executed.trans early.executed⟩

section Drains

variable (setup : Setup Screen View Signal) (built : Built Backend)

theorem drainSlashTool_drained :
    Drained (fun edges => { edges with slashTool := .none }) session (session.drainSlashTool setup) := by
  unfold drainSlashTool
  cases edge : session.app.slashTool with
  | none => exact ⟨by simp [edges, edge], rfl, rfl, rfl, rfl, rfl, rfl⟩
  | some request =>
    dsimp only
    split <;> exact ⟨rfl, rfl, rfl, rfl, rfl, rfl, rfl⟩

theorem drainPlanRequest_drained :
    Drained (fun edges => { edges with planRequest := .none }) session
      (session.drainPlanRequest setup) := by
  unfold drainPlanRequest
  cases edge : session.app.planRequest with
  | none => exact ⟨by simp [edges, edge], rfl, rfl, rfl, rfl, rfl, rfl⟩
  | some request =>
    dsimp only
    split <;> exact ⟨rfl, rfl, rfl, rfl, rfl, rfl, rfl⟩

theorem drainProviderSwitch_drained :
    Drained (fun edges => { edges with providerSwitch := .none }) session
      (session.drainProviderSwitch built) := by
  unfold drainProviderSwitch
  cases edge : session.app.providerSwitch with
  | none => exact ⟨by simp [edges, edge], rfl, rfl, rfl, rfl, rfl, rfl⟩
  | some switch =>
    dsimp only
    split
    · exact ⟨rfl, rfl, rfl, rfl, rfl, rfl, rfl⟩
    · split <;> exact ⟨rfl, rfl, rfl, rfl, rfl, rfl, rfl⟩

theorem drainEndpointRebuild_drained :
    Drained (fun edges => { edges with endpointRebuild := .none }) session
      (session.drainEndpointRebuild built) := by
  unfold drainEndpointRebuild
  cases edge : session.app.chatEndpointRebuild with
  | none => exact ⟨by simp [edges, edge], rfl, rfl, rfl, rfl, rfl, rfl⟩
  | some previous =>
    dsimp only
    split
    · exact ⟨rfl, rfl, rfl, rfl, rfl, rfl, rfl⟩
    · split <;> exact ⟨rfl, rfl, rfl, rfl, rfl, rfl, rfl⟩

theorem drainDispatch_drained :
    Drained (fun edges => { edges with dispatch := false }) session session.drainDispatch := by
  unfold drainDispatch
  cases edge : session.app.chatDispatch with
  | false => exact ⟨by simp [edges, edge], rfl, rfl, rfl, rfl, rfl, rfl⟩
  | true =>
    dsimp only
    rw [if_pos rfl]
    split <;> exact ⟨rfl, rfl, rfl, rfl, rfl, rfl, rfl⟩

theorem drainDetect_drained :
    Drained (fun edges => { edges with detect := false }) session session.drainDetect := by
  unfold drainDetect
  cases edge : session.app.chatDetectDispatch with
  | false => exact ⟨by simp [edges, edge], rfl, rfl, rfl, rfl, rfl, rfl⟩
  | true => exact ⟨rfl, rfl, rfl, rfl, rfl, rfl, rfl⟩

theorem drainPersist_drained :
    Drained (fun edges => { edges with persist := false }) session (session.drainPersist built) := by
  unfold drainPersist
  cases edge : session.app.chatPersistDispatch with
  | false => exact ⟨by simp [edges, edge], rfl, rfl, rfl, rfl, rfl, rfl⟩
  | true =>
    dsimp only
    rw [if_pos rfl]
    split <;> exact ⟨rfl, rfl, rfl, rfl, rfl, rfl, rfl⟩

/-- Every edge is drained. -/
theorem drains_drained : Drained (fun _ => Edges.none) session (session.drains setup built) :=
  (((drainSlashTool_drained setup).trans (drainPlanRequest_drained setup)).trans
    ((drainProviderSwitch_drained built).trans (drainEndpointRebuild_drained built))).trans
      ((drainDispatch_drained.trans drainDetect_drained).trans (drainPersist_drained built))

/-- Without an edge there is nothing to drain. -/
theorem drains_idle (idle : edges session.app = Edges.none) : session.drains setup built = session := by
  injection idle with slashTool planRequest providerSwitch endpointRebuild dispatch detect persist
  have tools : (session.drainSlashTool setup).drainPlanRequest setup = session := by
    simp only [drainSlashTool, slashTool, drainPlanRequest, planRequest]
  have agents : (session.drainProviderSwitch built).drainEndpointRebuild built = session := by
    simp only [drainProviderSwitch, providerSwitch, drainEndpointRebuild, endpointRebuild]
  have turns : session.drainDispatch.drainDetect.drainPersist built = session := by
    simp [drainDispatch, dispatch, drainDetect, detect, drainPersist, persist]
  unfold drains
  dsimp only
  rw [tools, agents, turns]

end Drains

/-! ## Events -/

/-- The request of the card that is open. -/
def card (session : Session Screen View Signal Backend) : Option ApprovalIntent :=
  session.app.approval.map PendingApproval.intent

/-- What a step does to the card and to the calls of the executor. -/
structure Handled (setup : Setup Screen View Signal) (before : Session Screen View Signal Backend)
    (action : LoopStep Signal Backend) (after : Session Screen View Signal Backend) : Prop where
  card : after.card =
    (before.opened action).or (if (before.decided setup action).isSome then none else before.card)
  calls : after.approved = before.approved ++ (before.approvedCall setup action).toList
  executed : after.executed = before.executed

section Events

variable (setup : Setup Screen View Signal)

variable {action : LoopStep Signal Backend}

/-- A step that neither opens nor decides a card. -/
theorem Handled.of_same (opens : session.opened action = none)
    (decides : session.decided setup action = none) (card : after.card = session.card)
    (approved : after.approved = session.approved) (executed : after.executed = session.executed) :
    Handled setup session action after := by
  refine ⟨?_, ?_, executed⟩
  · rw [opens, decides, card]
    rfl
  · unfold approvedCall
    rw [decides, approved]
    exact (List.append_nil _).symm

/-- A message that asks for no approval. -/
theorem opened_of_taken {message : ClientMsg Signal} (taken : session.taken action = some message)
    (other : forall intent, message ≠ .chatApprovalRequired intent) :
    session.opened action = none := by
  unfold opened requested
  rw [taken]
  split
  · rfl
  · cases message with
    | chatApprovalRequired intent => exact absurd rfl (other intent)
    | _ => rfl

theorem receive_handled (waiting : session.phase = .waiting)
    (apart : session.resultsApart (.event .receive : LoopStep Signal Backend) = true) :
    Handled setup session (.event .receive) (session.receive setup) := by
  unfold receive
  cases queue : session.queue with
  | nil =>
    refine Handled.of_same setup ?_ rfl rfl rfl rfl
    simp [opened, requested, taken, queue]
  | cons posted rest =>
    have isTaken : session.taken (.event .receive : LoopStep Signal Backend) = some posted.message := by
      unfold taken
      rw [if_pos waiting, queue]
      rfl
    have quiet {after : Session Screen View Signal Backend}
        (other : forall intent, posted.message ≠ .chatApprovalRequired intent)
        (card : after.card = session.card) (approved : after.approved = session.approved)
        (executed : after.executed = session.executed) :
        Handled setup session (.event .receive) after :=
      Handled.of_same setup (opened_of_taken isTaken other) rfl card approved executed
    unfold resultsApart at apart
    rw [isTaken] at apart
    rcases posted with ⟨message, turn⟩
    cases message with
    | signal signal => exact quiet (fun _ => nofun) rfl rfl rfl
    | chatReply text => cases turn <;> exact quiet (fun _ => nofun) rfl rfl rfl
    | chatError message => cases turn <;> exact quiet (fun _ => nofun) rfl rfl rfl
    | slashToolReply text => exact quiet (fun _ => nofun) rfl rfl rfl
    | chatDetectResult offer =>
      refine quiet (fun _ => nofun) ?_ rfl rfl
      show Option.map _ (session.app.setDetectResult offer).approval = _
      unfold AppState.setDetectResult
      cases offer <;> (dsimp only; split <;> rfl)
    | planReady text action =>
      refine quiet (fun _ => nofun) ?_ rfl rfl
      show Option.map _ (session.app.onPlanReady text action).approval = _
      unfold AppState.onPlanReady
      cases action with
      | none => rfl
      | some action =>
        dsimp only
        split
        · split <;> rfl
        · rfl
    | chatApprovalResult text =>
      refine quiet (fun _ => nofun) ?_ rfl rfl
      have noCard : session.app.approval = none := by
        simpa [AppState.approvalPending] using apart
      unfold card
      rw [noCard]
      rfl
    | chatApprovalRequired intent =>
      refine ⟨?_, (List.append_nil _).symm, rfl⟩
      have isRequested : session.requested (.event .receive : LoopStep Signal Backend) = some intent := by
        unfold requested
        rw [isTaken]
      unfold opened
      rw [isRequested]
      show Option.map _ (session.app.openApproval setup.around intent).approval = _
      unfold AppState.openApproval AppState.approvalPending
      cases open' : session.app.approval with
      | some other => simp [card, open', decided]
      | none =>
        cases quitting : session.app.quitConfirmPending
        · simp [card, decided, PendingApproval.intent]
        · simp [card, open', decided]

/-- Without a card no key opens one. -/
theorem onKey_withoutCard (noCard : session.app.approval = none) (key : KeyEvent)
    (registry : ManagedRegistrySnapshot) : exists app,
      (session.onKey setup key registry).1 = session.withApp app ∧ app.approval = none := by
  have unchanged : exists app, session = session.withApp app ∧ app.approval = none :=
    ⟨session.app, rfl, noCard⟩
  unfold onKey
  dsimp only
  split
  next => exact unchanged
  next =>
    split
    next => exact unchanged
    next =>
      split
      next pending =>
        unfold AppState.approvalPending at pending
        rw [noCard] at pending
        cases pending
      next =>
        split
        next =>
          unfold onQuitKey
          split
          next after opened =>
            exact ⟨after, rfl, (quitConfirmOpenServicesKey_grows setup.around opened).card noCard⟩
          next => exact ⟨_, rfl, (resolveQuitConfirmKey_grows session.app key.code).card noCard⟩
        next =>
          split
          next => exact ⟨_, rfl, rfl⟩
          next =>
            split
            next => exact ⟨_, rfl, noCard⟩
            next =>
              split
              next => exact unchanged
              next =>
                split
                next => exact ⟨_, rfl, noCard⟩
                next =>
                  exact ⟨_, rfl,
                    (AppState.applyAction_turned setup.around session.app registry _).card noCard⟩

/-- A key at the card. -/
theorem onKey_withCard {open' : PendingApproval} (isOpen : session.app.approval = some open')
    (key : KeyEvent) (registry : ManagedRegistrySnapshot) :
    (session.onKey setup key registry).1 =
      if key.press && !session.ctrlCShouldExit setup key then session.onCardKey setup key.code
      else session := by
  have pending : session.app.approvalPending = true := by
    unfold AppState.approvalPending
    rw [isOpen]
    rfl
  unfold onKey
  dsimp only
  rw [pending]
  cases key.press <;> cases session.ctrlCShouldExit setup key <;> simp

theorem decided_key (key : KeyEvent) (registry : ManagedRegistrySnapshot) :
    session.decided setup (.event (.key key registry) : LoopStep Signal Backend) =
      if session.phase = .waiting && (key.press && !session.ctrlCShouldExit setup key) then
        session.app.approval.bind fun card =>
          (approvalKey key.code card.choice).2.map (card.intent, ·)
      else none := by
  rw [← Bool.and_assoc]
  rfl

theorem key_handled (waiting : session.phase = .waiting) (key : KeyEvent)
    (registry : ManagedRegistrySnapshot) :
    Handled setup session (.event (.key key registry)) (session.onKey setup key registry).1 := by
  have opens : session.opened (.event (.key key registry) : LoopStep Signal Backend) = none := by
    unfold opened
    split <;> rfl
  cases isOpen : session.app.approval with
  | none =>
    rcases onKey_withoutCard setup isOpen key registry with ⟨app, after, noCard⟩
    rw [after]
    refine Handled.of_same setup opens ?_ ?_ rfl rfl
    · rw [decided_key, isOpen]
      exact ite_self none
    · unfold card
      rw [isOpen]
      exact congrArg _ noCard
  | some open' =>
    rw [onKey_withCard setup isOpen]
    by_cases reaches : (key.press && !session.ctrlCShouldExit setup key) = true
    · have decides : session.decided setup (.event (.key key registry) : LoopStep Signal Backend) =
          (approvalKey key.code open'.choice).2.map (open'.intent, ·) := by
        rw [decided_key, isOpen, reaches, waiting]
        rfl
      rw [if_pos reaches]
      unfold onCardKey AppState.onApprovalKey
      rw [isOpen]
      dsimp only
      cases verdict : (approvalKey key.code open'.choice).2 with
      | none =>
        rw [verdict] at decides
        refine Handled.of_same setup opens decides ?_ rfl rfl
        unfold card
        rw [isOpen]
        rfl
      | some verdict' =>
        rw [verdict] at decides
        have calls : session.approvedCall setup (.event (.key key registry) : LoopStep Signal Backend) =
            if verdict' = .approve ∧ setup.hasExecutor = true then
              some (open'.name, open'.arguments)
            else none := by
          unfold approvedCall
          rw [decides]
          cases verdict' <;> simp [PendingApproval.intent]
        cases verdict' with
        | deny => exact ⟨by rw [opens, decides]; rfl, by rw [calls]; simp [withApp], rfl⟩
        | cancel => exact ⟨by rw [opens, decides]; rfl, by rw [calls]; simp [withApp], rfl⟩
        | approve =>
          dsimp only
          split
          next has => exact ⟨by rw [opens, decides]; rfl, by rw [calls]; simp [has], rfl⟩
          next without => exact ⟨by rw [opens, decides]; rfl, by rw [calls]; simp [without, withApp], rfl⟩
    · rw [if_neg reaches]
      refine Handled.of_same setup opens ?_ rfl rfl rfl
      rw [decided_key, Bool.eq_false_iff.mpr reaches, Bool.and_false]
      rfl

/-- Under a card a click does nothing, and at most a drag ends. -/
theorem resolveMouse_withCard (mouse : MouseEvent) (isOpen : session.app.approvalPending = true) :
    resolveMouse setup.around setup.routing session.app mouse =
      if mouse.kind = .up ∧ session.app.scrollDrag.isSome = true then .scrollRelease else .nothing := by
  have blocks : session.app.blocksBodyAbsolutely = true := by
    unfold AppState.blocksBodyAbsolutely
    rw [isOpen]
    rfl
  unfold resolveMouse resolveDrag resolveClick resolveWheel
  rw [blocks]
  cases mouse.kind <;> simp [wheelDelta]

theorem mouse_handled (mouse : MouseEvent) (registry : ManagedRegistrySnapshot) :
    Handled setup session (.event (.mouse mouse registry))
      (session.onEvent setup (.mouse mouse registry)).1 := by
  refine Handled.of_same setup ?_ rfl ?_ rfl rfl
  · unfold opened
    split <;> rfl
  · show Option.map _ (session.app.applyAction setup.around registry
      (resolveMouse setup.around setup.routing session.app mouse)).1.approval = _
    unfold card
    cases isOpen : session.app.approval with
    | none =>
      rw [(AppState.applyAction_turned setup.around session.app registry _).card isOpen]
    | some open' =>
      rw [resolveMouse_withCard setup mouse (by simp [AppState.approvalPending, isOpen])]
      split
      · exact congrArg _ isOpen
      · exact congrArg _ isOpen

theorem onEvent_handled (event : LoopEvent Signal) (waiting : session.phase = .waiting)
    (apart : session.resultsApart (.event event : LoopStep Signal Backend) = true) :
    Handled setup session (.event event) (session.onEvent setup event).1 := by
  cases event with
  | signal signal =>
    refine Handled.of_same setup ?_ rfl rfl rfl rfl
    unfold opened
    split <;> rfl
  | receive => exact receive_handled setup waiting apart
  | key key registry => exact key_handled setup waiting key registry
  | mouse mouse registry => exact mouse_handled setup mouse registry
  | terminalGone =>
    refine Handled.of_same setup ?_ rfl rfl rfl rfl
    unfold opened
    split <;> rfl

/-! ## Steps -/

/-- Nothing is taken up unless the loop waits. -/
theorem opened_of_not_waiting (busy : session.phase ≠ .waiting) (action : LoopStep Signal Backend) :
    session.opened action = none := by
  have nothing : session.taken action = none := by
    unfold taken
    split
    · exact if_neg busy
    · rfl
  unfold opened requested
  rw [nothing]
  exact ite_self none

theorem decided_of_not_waiting (busy : session.phase ≠ .waiting) (action : LoopStep Signal Backend) :
    session.decided setup action = none := by
  unfold decided
  split
  · rw [decide_eq_false busy]
    rfl
  · rfl

/-- A step that is no event. -/
theorem Handled.of_task (task : forall event, action ≠ .event event)
    (card : after.card = session.card) (approved : after.approved = session.approved)
    (executed : after.executed = session.executed) : Handled setup session action after := by
  cases action with
  | event event => exact absurd rfl (task event)
  | _ => exact Handled.of_same setup (by unfold opened; split <;> rfl) rfl card approved executed

/-- Every step but the one of the executor. -/
theorem step_handled (action : LoopStep Signal Backend) (apart : session.resultsApart action = true)
    (other : forall index text, action ≠ .runApproved index text) :
    Handled setup session action (session.step setup action) := by
  cases action with
  | event event =>
    unfold step
    dsimp only
    split
    next waiting =>
      have handled := onEvent_handled setup event waiting apart
      rcases @takeEvent_eq _ _ _ _ session setup event with ⟨phase, eq⟩
      rw [eq]
      exact ⟨handled.card, handled.calls, handled.executed⟩
    next busy =>
      exact Handled.of_same setup (opened_of_not_waiting busy _) (decided_of_not_waiting setup busy _)
        rfl rfl rfl
  | drain built =>
    have drained := @drains_drained _ _ _ _ session setup built
    unfold step
    dsimp only
    split
    · exact Handled.of_task setup (fun _ => nofun)
        (congrArg (Option.map PendingApproval.intent) drained.approval) drained.approved
        drained.executed
    · exact Handled.of_task setup (fun _ => nofun) rfl rfl rfl
  | postSignal signal => exact Handled.of_task setup (fun _ => nofun) rfl rfl rfl
  | notice text => exact Handled.of_task setup (fun _ => nofun) rfl rfl rfl
  | surface intent => exact Handled.of_task setup (fun _ => nofun) rfl rfl rfl
  | reply turn result =>
    unfold step
    dsimp only
    unfold Session.reply
    split
    · exact Handled.of_task setup (fun _ => nofun) rfl rfl rfl
    · split <;> exact Handled.of_task setup (fun _ => nofun) rfl rfl rfl
  | toolDone index outcome =>
    unfold step
    dsimp only
    unfold toolDone
    split <;> exact Handled.of_task setup (fun _ => nofun) rfl rfl rfl
  | planDone index outcome =>
    unfold step
    dsimp only
    unfold planDone
    split <;> exact Handled.of_task setup (fun _ => nofun) rfl rfl rfl
  | runApproved index text => exact absurd rfl (other index text)
  | detectDone offer =>
    unfold step
    dsimp only
    unfold detectDone
    split <;> exact Handled.of_task setup (fun _ => nofun) rfl rfl rfl

theorem runApproved_card (index : Nat) (text : String) :
    (session.runApproved index text).card = session.card := by
  unfold runApproved
  split <;> rfl

/-- What becomes of the card in a step. -/
theorem step_card (action : LoopStep Signal Backend) (apart : session.resultsApart action = true) :
    (session.step setup action).card = (session.opened action).or
      (if (session.decided setup action).isSome then none else session.card) := by
  cases action with
  | runApproved index text =>
    have opens : session.opened (.runApproved index text : LoopStep Signal Backend) = none := by
      unfold opened
      split <;> rfl
    rw [opens]
    exact runApproved_card index text
  | _ => exact (step_handled setup _ apart (fun _ _ => nofun)).card

variable {intent : ApprovalIntent}

/-- A card is opened only where there is none. -/
theorem card_of_opened (opens : session.opened action = some intent) :
    session.card = none ∧ session.decided setup action = none := by
  have noCard : session.app.approval = none := by
    unfold opened AppState.approvalPending at opens
    cases isOpen : session.app.approval with
    | none => rfl
    | some card => simp [isOpen] at opens
  refine ⟨congrArg _ noCard, ?_⟩
  unfold decided
  rw [noCard]
  split
  · exact ite_self none
  · rfl

/-- A verdict is one on the card that is open. -/
theorem card_of_decided {verdict : ApprovalVerdict}
    (decides : session.decided setup action = some (intent, verdict)) :
    session.card = some intent := by
  unfold decided at decides
  unfold card
  split at decides
  next =>
    split at decides
    next =>
      cases isOpen : session.app.approval with
      | none => rw [isOpen] at decides; cases decides
      | some card =>
        rw [isOpen, Option.bind_some, Option.map_eq_some_iff] at decides
        rcases decides with ⟨given, _, same⟩
        exact congrArg some (congrArg Prod.fst same)
    next => cases decides
  next => cases decides

theorem card_balance (action : LoopStep Signal Backend) (apart : session.resultsApart action = true) :
    (session.card.toList ++ (session.opened action).toList).Perm
      (((session.decided setup action).map Prod.fst).toList ++
        (session.step setup action).card.toList) := by
  rw [step_card setup action apart]
  cases opens : session.opened action with
  | some intent =>
    rw [(card_of_opened setup opens).1, (card_of_opened setup opens).2]
    exact List.Perm.refl _
  | none =>
    cases decides : session.decided setup action with
    | none => simp
    | some verdict =>
      rw [card_of_decided setup decides]
      exact List.Perm.refl _

/-- Taking out one item of a list. -/
theorem perm_eraseIdx {Item : Type} {items : List Item} {index : Nat} (inside : index < items.length) :
    items.Perm (items[index] :: items.eraseIdx index) := by
  have here : items.take index ++ items[index] :: items.drop (index + 1) = items := by
    rw [List.getElem_cons_drop, List.take_append_drop]
  have moved : (items.take index ++ items[index] :: items.drop (index + 1)).Perm
      (items[index] :: (items.take index ++ items.drop (index + 1))) := List.perm_middle
  rw [here, ← List.eraseIdx_eq_take_drop_succ] at moved
  exact moved

/-- A call is asked for once, and carried out once. -/
theorem call_balance (action : LoopStep Signal Backend) (apart : session.resultsApart action = true) :
    (session.calls ++ (session.approvedCall setup action).toList).Perm
      (session.step setup action).calls := by
  unfold calls
  cases action with
  | runApproved index text =>
    have none : session.approvedCall setup (.runApproved index text : LoopStep Signal Backend) = none := rfl
    rw [none, Option.toList_none, List.append_nil]
    show (session.executed ++ session.approved).Perm
      ((session.runApproved index text).executed ++ (session.runApproved index text).approved)
    unfold runApproved
    cases here : session.approved[index]? with
    | none => exact List.Perm.refl _
    | some call =>
      rcases List.getElem?_eq_some_iff.mp here with ⟨inside, isCall⟩
      show (session.executed ++ session.approved).Perm
        ((session.executed ++ [call]) ++ session.approved.eraseIdx index)
      rw [List.append_assoc, ← isCall]
      exact (perm_eraseIdx inside).append_left _
  | _ =>
    have handled := @step_handled _ _ _ _ session setup _ apart (fun _ _ => nofun)
    rw [handled.executed, handled.calls, List.append_assoc]

/-! ## What stays put -/

/-- Between events no edge is raised, and a card does not stand where the
session would end. -/
structure Settled (session : Session Screen View Signal Backend) : Prop where
  edges : session.phase = .waiting -> edges session.app = Edges.none
  stays : session.card ≠ none -> session.phase ≠ .ended ->
    session.app.shouldQuit = false ∧ session.app.focusedShouldExit setup.focused = false

theorem takeEvent_stays (event : LoopEvent Signal)
    (goesOn : (session.takeEvent setup event).phase ≠ .ended) :
    (session.takeEvent setup event).app.shouldQuit = false ∧
      (session.takeEvent setup event).app.focusedShouldExit setup.focused = false := by
  unfold takeEvent at goesOn ⊢
  dsimp only at goesOn ⊢
  split at goesOn
  next => exact absurd rfl goesOn
  next stays =>
    rw [if_neg stays]
    simp only [Bool.or_eq_true, not_or, Bool.not_eq_true] at stays
    exact ⟨stays.1.2, stays.2⟩

theorem Settled.of_app (settled : session.Settled setup) (app : after.app = session.app)
    (phase : after.phase = session.phase) : after.Settled setup := by
  have card : after.card = session.card := by
    unfold Session.card
    rw [app]
  refine ⟨?_, ?_⟩
  · rw [phase, app]
    exact settled.edges
  · rw [phase, app, card]
    exact settled.stays

theorem Settled.step (settled : session.Settled setup) (action : LoopStep Signal Backend) :
    (session.step setup action).Settled setup := by
  cases action with
  | event event =>
    unfold Session.step
    dsimp only
    split
    · exact ⟨fun waiting => absurd waiting (takeEvent_phase setup event),
        fun _ => takeEvent_stays setup event⟩
    · exact settled
  | drain built =>
    have drained := @drains_drained _ _ _ _ session setup built
    unfold Session.step
    dsimp only
    split
    next draining =>
      refine ⟨fun _ => drained.edges, fun isOpen _ => ?_⟩
      have sameCard : (session.drains setup built).card = session.card :=
        congrArg (Option.map PendingApproval.intent) drained.approval
      have before := settled.stays (fun none => isOpen (sameCard.trans none)) (draining ▸ nofun)
      refine ⟨drained.shouldQuit.trans before.1, ?_⟩
      have exits : (session.drains setup built).app.focusedShouldExit setup.focused =
          session.app.focusedShouldExit setup.focused := by
        unfold AppState.focusedShouldExit AppState.hasOpenOverlay AppState.quitConfirmPending
        rw [drained.overlays, drained.quitConfirm]
      exact exits.trans before.2
    next => exact settled
  | postSignal signal => exact settled.of_app setup rfl rfl
  | notice text => exact settled.of_app setup rfl rfl
  | surface intent => exact settled.of_app setup rfl rfl
  | reply turn result =>
    unfold Session.step
    dsimp only
    unfold Session.reply
    split
    · exact settled
    · split <;> exact settled.of_app setup rfl rfl
  | toolDone index outcome =>
    unfold Session.step
    dsimp only
    unfold toolDone
    split <;> exact settled.of_app setup rfl rfl
  | planDone index outcome =>
    unfold Session.step
    dsimp only
    unfold planDone
    split <;> exact settled.of_app setup rfl rfl
  | runApproved index text =>
    unfold Session.step
    dsimp only
    unfold runApproved
    split <;> exact settled.of_app setup rfl rfl
  | detectDone offer =>
    unfold Session.step
    dsimp only
    unfold detectDone
    split <;> exact settled.of_app setup rfl rfl

theorem Fresh.settled (fresh : session.Fresh) : session.Settled setup where
  edges _ := by
    unfold Session.edges Edges.none
    rw [fresh.slashTool, fresh.planRequest, fresh.providerSwitch, fresh.endpointRebuild,
      fresh.dispatch, fresh.detectDispatch, fresh.persistDispatch]
  stays isOpen := absurd (congrArg _ fresh.approval) isOpen

/-- What is not the card's stops at it. -/
theorem onEvent_stopped {event : LoopEvent Signal} (isOpen : session.card ≠ none)
    (stops : session.stopsAtCard event = true) : session.onEvent setup event = (session, false) := by
  cases approval : session.app.approval with
  | none => exact absurd (congrArg _ approval) isOpen
  | some open' =>
    have pending : session.app.approvalPending = true := by
      unfold AppState.approvalPending
      rw [approval]
      rfl
    cases event with
    | key key registry =>
      show session.onKey setup key registry = (session, false)
      unfold stopsAtCard at stops
      dsimp only at stops
      unfold onKey
      dsimp only
      cases pressed : key.press with
      | false => rfl
      | true =>
        rw [pressed, Bool.not_true, Bool.false_or, Bool.and_eq_true, Bool.not_eq_true',
          Bool.not_eq_true'] at stops
        have goesOn : session.ctrlCShouldExit setup key = false := by
          unfold ctrlCShouldExit
          rw [stops.2, Bool.false_and]
        have kept : session.onCardKey setup key.code = session := by
          unfold onCardKey AppState.onApprovalKey
          rw [approval]
          dsimp only
          rw [approvalKey_other stops.1]
          show session.withApp { session.app with approval := some open' } = session
          rw [← approval]
          rfl
        rw [goesOn, pending, kept]
        rfl
    | mouse mouse registry =>
      show session.applied (session.app.applyAction setup.around registry
        (resolveMouse setup.around setup.routing session.app mouse)) = (session, false)
      have nothing : ¬ (mouse.kind = .up ∧ session.app.scrollDrag.isSome = true) := by
        rintro ⟨isUp, drags⟩
        unfold stopsAtCard at stops
        dsimp only at stops
        rw [isUp, drags] at stops
        cases stops
      rw [resolveMouse_withCard setup mouse pending, if_neg nothing]
      rfl
    | _ => cases stops

/-- Such an event and the drains after it leave the session as it was. -/
theorem stopped_changes_nothing (settled : session.Settled setup) (waiting : session.phase = .waiting)
    {event : LoopEvent Signal} (isOpen : session.card ≠ none)
    (stops : session.stopsAtCard event = true) (built : Built Backend) :
    (session.step setup (.event event)).step setup (.drain built) =
      { session with emptied := session.emptied || session.app.chat.isEmpty } := by
  have goesOn := settled.stays isOpen (waiting ▸ nofun)
  have taken : session.step setup (.event event) =
      { session with phase := .draining, emptied := session.emptied || session.app.chat.isEmpty } := by
    unfold Session.step
    dsimp only
    rw [if_pos waiting]
    unfold takeEvent
    rw [onEvent_stopped setup isOpen stops]
    dsimp only
    rw [goesOn.1, goesOn.2]
    rfl
  rw [taken]
  unfold Session.step
  dsimp only
  have nothing := @drains_idle _ _ _ _ { session with
    phase := .draining, emptied := session.emptied || session.app.chat.isEmpty } setup built
      (settled.edges waiting)
  rw [if_pos rfl, nothing, ← waiting]

/-- What is taken up is the head of the queue. -/
theorem step_chat_of_taken {message : ClientMsg Signal}
    (isTaken : session.taken action = some message) : exists posted rest,
      session.queue = posted :: rest ∧ posted.message = message ∧
        (session.step setup action).app =
          (({ session with queue := rest } : Session Screen View Signal Backend).onMessage setup
            posted).app := by
  unfold taken at isTaken
  split at isTaken
  next =>
    split at isTaken
    next waiting =>
      rw [Option.map_eq_some_iff] at isTaken
      rcases isTaken with ⟨posted, isHead, isMessage⟩
      rcases List.head?_eq_some_iff.mp isHead with ⟨rest, queue⟩
      refine ⟨posted, rest, queue, isMessage, ?_⟩
      unfold Session.step
      dsimp only
      rw [if_pos waiting]
      rcases @takeEvent_eq _ _ _ _ session setup .receive with ⟨phase, eq⟩
      rw [eq]
      show (session.receive setup).app = _
      unfold receive
      rw [queue]
    next => cases isTaken
  next => cases isTaken

/-- A request opens a card, or leaves an error in the chat. -/
theorem requested_answered (isRequested : session.requested action = some intent) :
    session.opened action = some intent ∧ (session.step setup action).card = some intent ∨
      exists text,
        (session.step setup action).app.chat = session.app.chat ++ [ChatTurn.error text] := by
  have isTaken : session.taken action = some (.chatApprovalRequired intent) := by
    unfold requested at isRequested
    split at isRequested
    next isTaken =>
      cases isRequested
      exact isTaken
    next => cases isRequested
  rcases step_chat_of_taken setup isTaken with ⟨posted, rest, _, isMessage, app⟩
  rcases posted with ⟨_, turn⟩
  cases isMessage
  have opening : (session.step setup action).app = session.app.openApproval setup.around intent := app
  have shown : (session.step setup action).card =
      (session.app.openApproval setup.around intent).approval.map PendingApproval.intent := by
    unfold card
    rw [opening]
  by_cases isOpen : session.app.approval.isSome = true
  · rw [opening]
    unfold AppState.openApproval
    rw [if_pos isOpen]
    exact Or.inr ⟨_, rfl⟩
  by_cases isQuitting : session.app.quitConfirmPending = true
  · rw [opening]
    unfold AppState.openApproval
    rw [if_neg isOpen, if_pos isQuitting]
    exact Or.inr ⟨_, rfl⟩
  · refine Or.inl ⟨?_, ?_⟩
    · unfold opened
      rw [if_neg (by simp [AppState.approvalPending, isOpen, isQuitting]), isRequested]
    · rw [shown]
      unfold AppState.openApproval
      rw [if_neg isOpen, if_neg isQuitting]
      rfl

/-- A planned command that has to be approved is handed on, or leaves an error in
the chat. -/
theorem planned_answered {text : String} {planned : PlannedAction}
    (isTaken : session.taken action = some (.planReady text (some planned)))
    (asks : (planned.approvalRequired && !planned.hasPlaceholders && !planned.providerAssisted) =
      true) :
    (session.step setup action).app.slashTool =
        some ⟨"rocm_command", .object [("args", .array (planned.args.map .string))], "plan action"⟩ ∨
      exists error, (session.step setup action).app.chat =
        session.app.chat ++ [ChatTurn.agent text, .error error] := by
  rcases step_chat_of_taken setup isTaken with ⟨posted, rest, _, isMessage, app⟩
  rcases posted with ⟨_, turn⟩
  cases isMessage
  have planReady : (session.step setup action).app = session.app.onPlanReady text (some planned) := app
  rw [planReady]
  unfold AppState.onPlanReady
  dsimp only
  rw [if_pos asks]
  split
  · exact Or.inr ⟨_, List.append_assoc ..⟩
  · exact Or.inl rfl

/-! ## Runs -/

/-- What a run comes to. -/
structure CardsKept (start : Session Screen View Signal Backend)
    (actions : List (LoopStep Signal Backend)) : Prop where
  /-- Every card is decided once or still open. -/
  cards : (collected (step setup) opened start actions).Perm
    (collected (step setup) (fun session action => (session.decided setup action).map Prod.fst)
      start actions ++ (finalState (step setup) start actions).card.toList)
  /-- What was or is to be executed is what Approve was said to. -/
  calls : (finalState (step setup) start actions).calls.Perm
    (collected (step setup) (approvedCall setup) start actions)
  stops : (finalState (step setup) start actions).card ≠ none ->
    (finalState (step setup) start actions).phase = .waiting ->
    forall event built, (finalState (step setup) start actions).stopsAtCard event = true ->
      ((finalState (step setup) start actions).step setup (.event event)).step setup (.drain built) =
        { finalState (step setup) start actions with
          emptied := (finalState (step setup) start actions).emptied ||
            (finalState (step setup) start actions).app.chat.isEmpty }
  requests : forall action intent,
    (finalState (step setup) start actions).requested action = some intent ->
    (finalState (step setup) start actions).opened action = some intent ∧
        ((finalState (step setup) start actions).step setup action).card = some intent ∨
      exists text, ((finalState (step setup) start actions).step setup action).app.chat =
        (finalState (step setup) start actions).app.chat ++ [ChatTurn.error text]
  plans : forall action text (planned : PlannedAction),
    (finalState (step setup) start actions).taken action = some (.planReady text (some planned)) ->
    (planned.approvalRequired && !planned.hasPlaceholders && !planned.providerAssisted) = true ->
    ((finalState (step setup) start actions).step setup action).app.slashTool =
        some ⟨"rocm_command", .object [("args", .array (planned.args.map .string))], "plan action"⟩ ∨
      exists error, ((finalState (step setup) start actions).step setup action).app.chat =
        (finalState (step setup) start actions).app.chat ++ [ChatTurn.agent text, .error error]

end Events

/-- A run that takes up no result under a card keeps its cards. -/
theorem cards_kept (setup : Setup Screen View Signal)
    {start : Session Screen View Signal Backend} (fresh : start.Fresh)
    {actions : List (LoopStep Signal Backend)}
    (apart : Guarded (step setup) (fun session action => session.resultsApart action = true)
      start actions) : CardsKept setup start actions := by
  have preserved (session : Session Screen View Signal Backend) (action : LoopStep Signal Backend)
      (settled : session.Settled setup) (_ : session.resultsApart action = true) :
      (session.step setup action).Settled setup :=
    settled.step setup action
  have settled : (finalState (step setup) start actions).Settled setup :=
    invariant_of_step preserved (Fresh.settled setup fresh) apart
  refine ⟨?_, ?_, fun isOpen waiting event built stops =>
    stopped_changes_nothing setup settled waiting isOpen stops built,
    fun _ _ => requested_answered setup, fun _ _ _ => planned_answered setup⟩
  · have balance : (start.card.toList ++ collected (step setup) opened start actions).Perm
        (collected (step setup) (fun session action => (session.decided setup action).map Prod.fst)
          start actions ++ (finalState (step setup) start actions).card.toList) :=
      balance_of_step preserved (fun session action _ apart => card_balance setup action apart)
        (Fresh.settled setup fresh) apart
    have noCard : start.card = none := congrArg _ fresh.approval
    rwa [noCard] at balance
  · have balance : (start.calls ++ collected (step setup) (approvedCall setup) start actions).Perm
        (collected (step setup) (fun _ _ => none) start actions ++
          (finalState (step setup) start actions).calls) :=
      balance_of_step preserved (fun session action _ apart => call_balance setup action apart)
        (Fresh.settled setup fresh) apart
    have noCalls : start.calls = [] := by
      unfold Session.calls
      rw [fresh.executed, fresh.approved]
      rfl
    rw [noCalls, collected_none] at balance
    exact balance.symm

/-! ## A result that comes late -/

def serveIntent : ApprovalIntent := ⟨"Serve", ["a model"], "launch_server", .object []⟩

def installIntent : ApprovalIntent := ⟨"Install", ["an engine"], "install_engine", .object []⟩

/-- A card is approved, and the next is denied before the result is taken up. -/
theorem approved_and_denied :
    CardsKept bareSetup typedSession
      [.surface serveIntent, .event .receive, drained, pressed (.char 'y'), drained,
        .surface installIntent, .event .receive, drained, pressed .esc, drained,
        .runApproved 0 "started", .event .receive, drained] :=
  cards_kept bareSetup typedSession_fresh (by decide)

/-- The result of the first card is taken up under the second, which goes away
undecided. -/
theorem card_vanishes :
    ¬ forall (start : Session Unit Unit Unit Unit), start.Fresh ->
      forall actions, CardsKept bareSetup start actions := by
  intro always
  have kept := always typedSession typedSession_fresh
    [.surface serveIntent, .event .receive, drained, pressed (.char 'y'), drained,
      .surface installIntent, .event .receive, drained, .runApproved 0 "started", .event .receive]
  exact absurd kept.cards.length_eq (by decide)

end Session

end Dashboard
end RocmCli
