import RocmCli.Dashboard.KeyActions
import RocmCli.Support.Runs

namespace RocmCli
namespace Dashboard

/-!
# The event loop

The loop takes one event at a time, reduces it into the state, and then drains
the one-shot edges the reducer raised.  What it spawns runs beside it and posts
its results to one queue.  The events of the loop and the steps of the tasks
come in any order; what the terminal, the agent, the executor and the backends
answer is part of a step.

A session keeps the turns of the agent and the calls of `execute_approved`
besides its state.
-/

/-! ## What runs beside the loop -/

/-- The backend the next turn goes to, and the local one to go back to. -/
structure ChatRuntime (Backend : Type) where
  agent : Option Backend
  localAgent : Option Backend
  deriving DecidableEq, Repr

inductive ClientMsg (Signal : Type) where
  | signal (signal : Signal)
  | chatReply (text : String)
  | chatError (message : String)
  | slashToolReply (text : String)
  | chatDetectResult (offer : Option LlmConfig)
  | chatApprovalRequired (intent : ApprovalIntent)
  | chatApprovalResult (text : String)
  | planReady (text : String) (action : Option PlannedAction)

/-- A message in the queue, and the turn of the agent it is the reply of. -/
structure Posted (Signal : Type) where
  message : ClientMsg Signal
  turn : Option Nat

/-- A turn of the agent: the transcript it was given, whether that was emptied
since the turn before was answered, whether its task has posted its reply, and
the line that reply became. -/
structure Turn (Backend : Type) where
  backend : Backend
  history : List ChatTurn
  emptied : Bool
  posted : Bool
  answer : Option ChatTurn
  deriving DecidableEq, Repr

inductive Phase where
  | waiting
  | draining
  | ended
  deriving DecidableEq, Repr

structure Session (Screen View Signal Backend : Type) where
  app : AppState Screen View
  runtime : ChatRuntime Backend
  queue : List (Posted Signal)
  phase : Phase
  tools : List SlashToolRequest
  plans : List String
  approved : List (String × Json)
  detecting : Nat
  turns : List (Turn Backend)
  emptied : Bool
  executed : List (String × Json)

/-- What does not change during a session. -/
structure Setup (Screen View Signal : Type) where
  around : Surroundings Screen View Signal
  routing : Routing View
  focused : Bool
  hasExecutor : Bool

/-- An event of the loop; what the registry of services says when it is read is
part of it. -/
inductive LoopEvent (Signal : Type) where
  | signal (signal : Signal)
  | receive
  | key (key : KeyEvent) (registry : ManagedRegistrySnapshot)
  | mouse (mouse : MouseEvent) (registry : ManagedRegistrySnapshot)
  | terminalGone

/-- What building a backend and saving an endpoint come to. -/
structure Built (Backend : Type) where
  remote : ChatProvider -> Option Backend
  nearby : LlmConfig -> Except String Backend
  saved : Option String

/-- What the executor makes of a request, with its summary. -/
inductive ToolOutcome where
  | reply (text : String)
  | approvalRequired (intent : ApprovalIntent)

inductive PlanOutcome where
  | ready (text : String) (action : Option PlannedAction)
  | reply (text : String)

inductive LoopStep (Signal Backend : Type) where
  | event (event : LoopEvent Signal)
  | drain (built : Built Backend)
  | postSignal (signal : Signal)
  | notice (text : String)
  | surface (intent : ApprovalIntent)
  | reply (turn : Nat) (result : Except String String)
  | toolDone (index : Nat) (outcome : ToolOutcome)
  | planDone (index : Nat) (outcome : PlanOutcome)
  | runApproved (index : Nat) (text : String)
  | detectDone (offer : Option LlmConfig)

def noChatBackendMsg : String :=
  "no chat backend is configured. Press d to detect a local engine, or use /provider " ++
    "openai|anthropic with the matching API key set."

section Loop

variable {Screen View Signal Backend : Type} (setup : Setup Screen View Signal)

namespace Session

variable (session : Session Screen View Signal Backend)

def withApp (app : AppState Screen View) : Session Screen View Signal Backend :=
  { session with app := app }

/-! ## One event -/

/-- The reply of a turn becomes the last line of the transcript. -/
def answerTurn (number : Nat) : Session Screen View Signal Backend :=
  { session with
    turns := session.turns.modify number fun turn => { turn with answer := session.app.chat.getLast? }
    emptied := false }

/-- Take a message from the queue. -/
def onMessage (posted : Posted Signal) : Session Screen View Signal Backend :=
  let app := session.app
  match posted.message with
  | .signal signal => session.withApp { app with view := setup.around.absorb signal app.view }
  | .chatReply text =>
      posted.turn.elim (session.withApp (app.onChatReply text))
        (session.withApp (app.onChatReply text)).answerTurn
  | .chatError message =>
      posted.turn.elim (session.withApp (app.onChatError message))
        (session.withApp (app.onChatError message)).answerTurn
  | .slashToolReply text => session.withApp (app.onSlashToolReply text)
  | .chatDetectResult offer => session.withApp (app.setDetectResult offer)
  | .chatApprovalRequired intent => session.withApp (app.openApproval setup.around intent)
  | .chatApprovalResult text => session.withApp (app.onApprovalResult text)
  | .planReady text action => session.withApp (app.onPlanReady text action)

def receive : Session Screen View Signal Backend :=
  match session.queue with
  | [] => session
  | posted :: rest => { session with queue := rest }.onMessage setup posted

/-- A key at the card. -/
def onCardKey (code : KeyCode) : Session Screen View Signal Backend :=
  match session.app.onApprovalKey code with
  | (app, some .approve) =>
      match app.approval with
      | none => session.withApp app
      | some card =>
          let taken := { app with approval := none }
          if setup.hasExecutor then
            { session.withApp taken with
              approved := session.approved ++ [(card.name, card.arguments)] }
          else session.withApp (taken.onApprovalResult "ROCm tools unavailable in this mode")
  | (app, some .deny) | (app, some .cancel) => session.withApp app.onApprovalDeclined
  | (app, none) => session.withApp app

def isCtrlC (key : KeyEvent) : Bool := key.code == .char 'c' && key.control

/-- The console on screen is that of a job that still runs. -/
def runningConsole : Bool :=
  (session.app.activeConsole setup.around).any fun console =>
    setup.around.consoleRuns console.1 console.2 session.app.view

def ctrlCShouldExit (key : KeyEvent) : Bool := isCtrlC key && !session.runningConsole setup

def focusedCloseKeyBlocked (code : KeyCode) : Bool :=
  setup.focused && session.runningConsole setup && (code == .char 'q' || code == .esc)

/-- A key at the quit prompt. -/
def onQuitKey (code : KeyCode) (registry : ManagedRegistrySnapshot) :
    Session Screen View Signal Backend × Bool :=
  match session.app.quitConfirmOpenServicesKey setup.around registry code with
  | some app => (session.withApp app, false)
  | none =>
      let resolved := session.app.resolveQuitConfirmKey code
      (session.withApp resolved.1, resolved.2 == some true)

/-- A key at the manager that is open. -/
def onManagerKey (manager : Manager) (screen : Screen) (key : KeyEvent) :
    Session Screen View Signal Backend :=
  let turned := setup.around.managerKey manager screen session.app.view key
  session.withApp { session.app.setOverlay manager turned.1 with view := turned.2 }

def applied (result : AppState Screen View × Bool) : Session Screen View Signal Backend × Bool :=
  (session.withApp result.1, result.2)

/-- The first owner of the keyboard takes the key. -/
def onKey (key : KeyEvent) (registry : ManagedRegistrySnapshot) :
    Session Screen View Signal Backend × Bool :=
  let app := session.app
  if !key.press then (session, false)
  else if session.ctrlCShouldExit setup key then (session, true)
  else if app.approvalPending then (session.onCardKey setup key.code, false)
  else if app.quitConfirmPending then session.onQuitKey setup key.code registry
  else if app.shouldPaneBackOut setup.around key.code then
    (session.withApp { app.closeOverlays setup.around with paneFocus := .actions }, false)
  else
    match (if app.hasActiveConsole setup.around then consoleScrollDelta key.code else none) with
    | some (lines, columns) =>
        (session.withApp (app.turnView setup.around (.scrollConsole lines columns)), false)
    | none =>
      if session.focusedCloseKeyBlocked setup key.code then (session, false)
      else
        match app.openManager.bind fun manager => (app.overlays manager).map (manager, ·) with
        | some (manager, screen) => (session.onManagerKey setup manager screen key, false)
        | none =>
            session.applied (app.applyAction setup.around registry
              (setup.routing.handleKey key app.activeTab app.modal
                ⟨app.chatFocused, app.chatConsent, app.chatDetectOffer.isSome⟩))

def onEvent : LoopEvent Signal -> Session Screen View Signal Backend × Bool
  | .signal signal =>
      (session.withApp { session.app with
        view := setup.around.absorb signal session.app.view }, false)
  | .receive => (session.receive setup, false)
  | .key key registry => session.onKey setup key registry
  | .mouse mouse registry =>
      session.applied (session.app.applyAction setup.around registry
        (resolveMouse setup.around setup.routing session.app mouse))
  | .terminalGone => (session, true)

/-- One event, and whether the session ends with it. -/
def takeEvent (event : LoopEvent Signal) : Session Screen View Signal Backend :=
  let taken := session.onEvent setup event
  let after := { taken.1 with emptied := taken.1.emptied || taken.1.app.chat.isEmpty }
  if taken.2 || after.app.shouldQuit || after.app.focusedShouldExit setup.focused then
    { after with phase := .ended }
  else { after with phase := .draining }

/-! ## The edges -/

def unavailable : String := "ROCm tools unavailable in this mode"

def drainSlashTool : Session Screen View Signal Backend :=
  match session.app.slashTool with
  | none => session
  | some request =>
      let taken := { session.app with slashTool := none }
      if setup.hasExecutor then
        { session.withApp taken with tools := session.tools ++ [request] }
      else session.withApp (taken.onSlashToolReply unavailable)

def drainPlanRequest : Session Screen View Signal Backend :=
  match session.app.planRequest with
  | none => session
  | some request =>
      let taken := { session.app with planRequest := none }
      if setup.hasExecutor then
        { session.withApp taken with plans := session.plans ++ [request] }
      else session.withApp (taken.onSlashToolReply unavailable)

def switchHint : ChatProvider -> String
  | .anthropic => "anthropic requires ANTHROPIC_API_KEY in env or secure store"
  | _ => "openai requires OPENAI_API_KEY in the environment"

def drainProviderSwitch (built : Built Backend) : Session Screen View Signal Backend :=
  match session.app.providerSwitch with
  | none => session
  | some switch =>
      let taken := { session.app with providerSwitch := none }
      match switch.target with
      | .local =>
          { session.withApp (taken.push (.system "switched to local")) with
            runtime := { session.runtime with agent := session.runtime.localAgent } }
      | target =>
        match built.remote target with
        | some agent =>
            { session.withApp (taken.push (.system ("switched to " ++ target.label))) with
              runtime := { session.runtime with agent := some agent } }
        | none =>
            session.withApp ({ taken with activeProvider := switch.previous }.push
              (.error ("could not switch to " ++ target.label ++ ": " ++ switchHint target)))

def drainEndpointRebuild (built : Built Backend) : Session Screen View Signal Backend :=
  match session.app.chatEndpointRebuild with
  | none => session
  | some previous =>
      let taken := { session.app with chatEndpointRebuild := none }
      let revert := fun (message : String) =>
        session.withApp ({ taken with activeProvider := previous }.push (.error message))
      match taken.chatLlm with
      | none =>
          revert "could not switch to the detected local endpoint: no endpoint configured"
      | some config =>
        match built.nearby config with
        | .ok agent =>
            { session.withApp (taken.push (.system "switched to local")) with
              runtime := ⟨some agent, some agent⟩ }
        | .error error => revert ("could not switch to the detected local endpoint: " ++ error)

/-- Start the turn of the agent that was asked for. -/
def drainDispatch : Session Screen View Signal Backend :=
  if session.app.chatDispatch then
    let taken := { session.app with chatDispatch := false }
    match session.runtime.agent with
    | some agent =>
        { session.withApp taken with
          turns := session.turns ++ [⟨agent, session.app.chat, session.emptied, false, none⟩] }
    | none => session.withApp (taken.onChatError noChatBackendMsg)
  else session

def drainDetect : Session Screen View Signal Backend :=
  if session.app.chatDetectDispatch then
    { session.withApp { session.app with chatDetectDispatch := false } with
      detecting := session.detecting + 1 }
  else session

def drainPersist (built : Built Backend) : Session Screen View Signal Backend :=
  if session.app.chatPersistDispatch then
    let taken := { session.app with chatPersistDispatch := false }
    match taken.chatLlm, built.saved with
    | some _, some error =>
        session.withApp { taken with chatDetectMsg := some ("could not save config: " ++ error) }
    | _, _ => session.withApp taken
  else session

def drains (built : Built Backend) : Session Screen View Signal Backend :=
  let tools := (session.drainSlashTool setup).drainPlanRequest setup
  let agents := (tools.drainProviderSwitch built).drainEndpointRebuild built
  (agents.drainDispatch.drainDetect).drainPersist built

/-! ## Steps -/

def post (message : ClientMsg Signal) : Session Screen View Signal Backend :=
  { session with queue := session.queue ++ [⟨message, none⟩] }

/-- The task of a turn posts its reply, once. -/
def reply (number : Nat) (result : Except String String) : Session Screen View Signal Backend :=
  match session.turns[number]? with
  | none => session
  | some turn =>
    if turn.posted then session
    else
      let message := match result with
        | .ok text => ClientMsg.chatReply text
        | .error message => ClientMsg.chatError message
      { session with
        queue := session.queue ++ [⟨message, some number⟩]
        turns := session.turns.modify number fun turn => { turn with posted := true } }

def toolDone (index : Nat) (outcome : ToolOutcome) : Session Screen View Signal Backend :=
  if index < session.tools.length then
    { session with tools := session.tools.eraseIdx index }.post
      (match outcome with
      | .reply text => .slashToolReply text
      | .approvalRequired intent => .chatApprovalRequired intent)
  else session

def planDone (index : Nat) (outcome : PlanOutcome) : Session Screen View Signal Backend :=
  if index < session.plans.length then
    { session with plans := session.plans.eraseIdx index }.post
      (match outcome with
      | .ready text action => .planReady text action
      | .reply text => .slashToolReply text)
  else session

/-- An approved action is executed, and its result posted. -/
def runApproved (index : Nat) (text : String) : Session Screen View Signal Backend :=
  match session.approved[index]? with
  | none => session
  | some call =>
      { session with
        approved := session.approved.eraseIdx index
        executed := session.executed ++ [call] }.post (.chatApprovalResult text)

def detectDone (offer : Option LlmConfig) : Session Screen View Signal Backend :=
  if 0 < session.detecting then
    { session with detecting := session.detecting - 1 }.post (.chatDetectResult offer)
  else session

def step : LoopStep Signal Backend -> Session Screen View Signal Backend
  | .event event => if session.phase = .waiting then session.takeEvent setup event else session
  | .drain built =>
      if session.phase = .draining then { session.drains setup built with phase := .waiting }
      else session
  | .postSignal signal => session.post (.signal signal)
  | .notice text => session.post (.chatReply text)
  | .surface intent => session.post (.chatApprovalRequired intent)
  | .reply turn result => session.reply turn result
  | .toolDone index outcome => session.toolDone index outcome
  | .planDone index outcome => session.planDone index outcome
  | .runApproved index text => session.runApproved index text
  | .detectDone offer => session.detectDone offer

/-- A session that has not taken an event. -/
structure Fresh : Prop where
  sending : session.app.chatSending = false
  dispatch : session.app.chatDispatch = false
  slashTool : session.app.slashTool = none
  planRequest : session.app.planRequest = none
  providerSwitch : session.app.providerSwitch = none
  endpointRebuild : session.app.chatEndpointRebuild = none
  detectDispatch : session.app.chatDetectDispatch = false
  persistDispatch : session.app.chatPersistDispatch = false
  approval : session.app.approval = none
  shouldQuit : session.app.shouldQuit = false
  queue : session.queue = []
  phase : session.phase = .waiting
  approved : session.approved = []
  turns : session.turns = []
  executed : session.executed = []

end Session

end Loop

end Dashboard
end RocmCli
