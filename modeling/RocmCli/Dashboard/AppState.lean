import RocmCli.Support.Json

namespace RocmCli
namespace Dashboard

/-!
# State of the dashboard

The chat, its one-shot edges, the approval card and what else can own the
screen.  What is only drawn, the telemetry, the jobs and the cursors of lists,
is a view that the surroundings turn; a manager is one screen of theirs.
-/

/-! ## The chat -/

inductive ChatRole where
  | user
  | agent
  | error
  | system
  deriving DecidableEq, Repr

/-- One line in the chat transcript. -/
structure ChatTurn where
  role : ChatRole
  content : String
  deriving DecidableEq, Repr

namespace ChatTurn

def user (content : String) : ChatTurn := ⟨.user, content⟩

def agent (content : String) : ChatTurn := ⟨.agent, content⟩

def error (content : String) : ChatTurn := ⟨.error, content⟩

def system (content : String) : ChatTurn := ⟨.system, content⟩

end ChatTurn

/-- Which backend answers the chat. -/
inductive ChatProvider where
  | local
  | openai
  | anthropic
  deriving DecidableEq, Repr

def ChatProvider.label : ChatProvider -> String
  | .local => "local"
  | .openai => "openai"
  | .anthropic => "anthropic"

inductive ChatConsent where
  | unavailable
  | pending
  | accepted
  | declined
  deriving DecidableEq, Repr

structure LlmConfig where
  baseUrl : String
  model : String
  apiKey : Option String
  authHeader : Option String
  deriving DecidableEq, Repr

/-- A switch of the backend, and what to go back to if it fails. -/
structure ProviderSwitch where
  previous : ChatProvider
  target : ChatProvider
  deriving DecidableEq, Repr

/-- A command that the executor is asked to run. -/
structure SlashToolRequest where
  name : String
  args : Json
  label : String

/-- The next action of a plan. -/
structure PlannedAction where
  args : List String
  approvalRequired : Bool
  hasPlaceholders : Bool
  providerAssisted : Bool
  deriving DecidableEq, Repr

/-! ## Approvals -/

/-- What a tool that changes something asks to be approved. -/
structure ApprovalIntent where
  title : String
  body : List String
  name : String
  arguments : Json

/-- What a card shows. -/
structure ApprovalRequest where
  title : String
  body : List String
  deriving DecidableEq, Repr

inductive ApprovalChoice where
  | approve
  | deny
  deriving DecidableEq, Repr

def ApprovalChoice.toggle : ApprovalChoice -> ApprovalChoice
  | .approve => .deny
  | .deny => .approve

inductive ApprovalVerdict where
  | approve
  | deny
  | cancel
  deriving DecidableEq, Repr

structure PendingApproval where
  req : ApprovalRequest
  choice : ApprovalChoice
  name : String
  arguments : Json

inductive KeyCode where
  | up
  | down
  | left
  | right
  | pageUp
  | pageDown
  | tab
  | backTab
  | enter
  | esc
  | char (character : Char)
  | other (name : String)
  deriving DecidableEq, Repr

structure KeyEvent where
  code : KeyCode
  control : Bool
  press : Bool
  deriving DecidableEq, Repr

/-- Move the cursor of a card, or decide it. -/
def approvalKey (key : KeyCode) (choice : ApprovalChoice) :
    ApprovalChoice × Option ApprovalVerdict :=
  match key with
  | .up | .down | .tab | .backTab => (choice.toggle, none)
  | .char 'y' | .char 'Y' => (choice, some .approve)
  | .char 'n' | .char 'N' => (choice, some .deny)
  | .esc | .char 'q' | .char 'Q' => (choice, some .cancel)
  | .enter =>
      match choice with
      | .approve => (choice, some .approve)
      | .deny => (choice, some .deny)
  | _ => (choice, none)

/-- The keys of a card. -/
def isApprovalKey : KeyCode -> Bool
  | .up | .down | .tab | .backTab | .enter | .esc => true
  | .char character => ['y', 'Y', 'n', 'N', 'q', 'Q'].contains character
  | _ => false

theorem approvalKey_other {key : KeyCode} (other : isApprovalKey key = false)
    (choice : ApprovalChoice) : approvalKey key choice = (choice, none) := by
  unfold approvalKey
  split
  all_goals first | rfl | exact absurd other (by decide)

/-! ## Screens -/

inductive ActiveTab where
  | home
  | rocm
  | serving
  | observe
  | chat
  deriving DecidableEq, Repr

/-- The overlay drawn on top of a tab. -/
inductive Modal where
  | none
  | help
  | detail
  | themePicker
  | menu
  | palette
  | options
  | globalHelp
  | warnings
  deriving DecidableEq, Repr

inductive PaneFocus where
  | actions
  | detail
  deriving DecidableEq, Repr

/-- The operational overlays. -/
inductive Manager where
  | services
  | serveWizard
  | engineManager
  | examineManager
  | updateManager
  | installManager
  | logsView
  | runtimeManager
  | onboarding
  | automationsManager
  | commandScreen
  | configManager
  | benchRun
  deriving DecidableEq, Repr

def Manager.all : List Manager :=
  [.services, .serveWizard, .engineManager, .examineManager, .updateManager, .installManager,
    .logsView, .runtimeManager, .onboarding, .automationsManager, .commandScreen, .configManager,
    .benchRun]

inductive ScrollTarget where
  | console
  | consoleH
  | dockLogs
  | chat
  | instanceDetail
  deriving DecidableEq, Repr

structure ScrollDrag where
  target : ScrollTarget
  grabOffset : Nat
  deriving DecidableEq, Repr

/-- What the registry of managed services says when it is read. -/
structure ManagedRegistrySnapshot where
  hasLiveService : Bool
  managedIds : List String
  deriving DecidableEq, Repr

inductive ViewAction where
  | move (delta : Int)
  | selectFirst
  | selectLast
  | select (index : Nat)
  | scrollModal (delta : Int)
  | scrollConsole (lines columns : Int)
  | scrollDock (lines : Int)
  | scrollTo (target : ScrollTarget) (position : Nat)
  | replayTogglePause
  | replaySpeedUp
  | replaySpeedDown
  | replayJump (seconds : Int)
  | chatScroll (lines : Int)
  | openThemePicker
  | applyThemePick
  | resetConsole
  | resetInstanceDetail
  deriving DecidableEq, Repr

structure AppState (Screen View : Type) where
  chat : List ChatTurn
  chatInput : String
  chatSending : Bool
  chatDispatch : Bool
  chatFocused : Bool
  chatLlm : Option LlmConfig
  chatConsent : ChatConsent
  chatDetectOffer : Option LlmConfig
  chatDetecting : Bool
  chatDetectDispatch : Bool
  chatDetectMsg : Option String
  chatPersistDispatch : Bool
  chatEndpointRebuild : Option ChatProvider
  activeProvider : ChatProvider
  providerSwitch : Option ProviderSwitch
  slashTool : Option SlashToolRequest
  planRequest : Option String
  approval : Option PendingApproval
  quitConfirm : Option ApprovalChoice
  overlays : Manager -> Option Screen
  activeTab : ActiveTab
  modal : Modal
  paneFocus : PaneFocus
  menuSel : Nat
  paletteSel : Nat
  optionsTab : Nat
  scrollDrag : Option ScrollDrag
  shouldQuit : Bool
  simulated : Bool
  launcherHosted : Bool
  view : View

/-- What the dashboard is built around: its screens, what is drawn, and the keys
that reach neither a card nor a manager. -/
structure Surroundings (Screen View Signal : Type) where
  absorb : Signal -> View -> View
  turn : ViewAction -> Modal -> ActiveTab -> View -> View
  fresh : Manager -> View -> Screen
  servicesAt : Nat -> Screen
  managerKey : Manager -> Screen -> View -> KeyEvent -> Option Screen × View
  atRoot : Manager -> Screen -> Bool
  hasConsole : Manager -> Screen -> Bool
  consoleRuns : Manager -> Screen -> View -> Bool
  serviceRows : View -> List String
  serving : View -> List String
  hasReceivedSnapshot : View -> Bool
  warningCount : View -> Nat
  selectionLen : ActiveTab -> View -> Nat
  paneVerbCount : ActiveTab -> Nat
  paneVerb : ActiveTab -> View -> Option Manager
  toLowercase : String -> String

section Reducers

variable {Screen View Signal : Type} (around : Surroundings Screen View Signal)

namespace AppState

variable (state : AppState Screen View)

def push (turn : ChatTurn) : AppState Screen View := { state with chat := state.chat ++ [turn] }

/-! ## Overlays -/

def setOverlay (manager : Manager) (screen : Option Screen) : AppState Screen View :=
  { state with
    overlays := fun other => if other = manager then screen else state.overlays other }

def closeOverlays : AppState Screen View :=
  { state with
    overlays := fun _ => none
    approval := none
    quitConfirm := none
    view := around.turn .resetConsole state.modal state.activeTab state.view }

def openOverlay (manager : Manager) : AppState Screen View :=
  (state.closeOverlays around).setOverlay manager (some (around.fresh manager state.view))

/-- The manager whose screen is up. -/
def openManager : Option Manager := Manager.all.find? fun manager => (state.overlays manager).isSome

def hasOpenOverlay : Bool := Manager.all.any fun manager => (state.overlays manager).isSome

def approvalPending : Bool := state.approval.isSome

def quitConfirmPending : Bool := state.quitConfirm.isSome

def blocksBodyAbsolutely : Bool := state.approvalPending || state.quitConfirmPending

def overlayOrApproval : Bool := state.hasOpenOverlay || state.blocksBodyAbsolutely

def globalHotkeysReachable : Bool :=
  let chatTyping := state.activeTab == .chat && state.chatFocused
  !(state.overlayOrApproval || state.modal != .none || chatTyping)

/-- The manager that is showing the console of a job. -/
def activeConsole : Option (Manager × Screen) :=
  Manager.all.findSome? fun manager =>
    ((state.overlays manager).filter (around.hasConsole manager)).map (manager, ·)

def hasActiveConsole : Bool := (state.activeConsole around).isSome

def activeOverlayAtRoot : Bool :=
  Manager.all.all fun manager => (state.overlays manager).all (around.atRoot manager)

def shouldPaneBackOut (code : KeyCode) : Bool :=
  state.hasOpenOverlay && state.activeOverlayAtRoot around && code == .esc

def focusedShouldExit (focused : Bool) : Bool :=
  focused && !state.hasOpenOverlay && !state.quitConfirmPending

/-! ## Quitting -/

def hasLiveInstance (registry : ManagedRegistrySnapshot) : Bool :=
  if state.simulated then false
  else !(around.serving state.view).isEmpty ||
    (!around.hasReceivedSnapshot state.view && registry.hasLiveService)

def openQuitConfirm : AppState Screen View :=
  { state.closeOverlays around with modal := .none, quitConfirm := some .approve }

/-- Ask before quitting while something is being served; otherwise quit. -/
def requestQuit (registry : ManagedRegistrySnapshot) : AppState Screen View × Bool :=
  if state.launcherHosted then (state, true)
  else if state.hasLiveInstance around registry then (state.openQuitConfirm around, false)
  else (state, true)

/-- A key at the quit prompt: whether the session ends, if it was decided. -/
def resolveQuitConfirmKey (code : KeyCode) : AppState Screen View × Option Bool :=
  match state.quitConfirm with
  | none => (state, none)
  | some choice =>
    match approvalKey code choice with
    | (moved, none) => ({ state with quitConfirm := some moved }, none)
    | (moved, some .approve) => ({ state with quitConfirm := some moved }, some true)
    | (_, some .deny) | (_, some .cancel) => ({ state with quitConfirm := none }, some false)

/-- The key that goes from the quit prompt to the services that can be stopped. -/
def quitConfirmOpenServicesKey (registry : ManagedRegistrySnapshot) (code : KeyCode) :
    Option (AppState Screen View) :=
  let stoppable := fun id => registry.managedIds.contains id && (around.serving state.view).contains id
  if !state.quitConfirmPending || code != .char 's' then none
  else if !(around.serving state.view).any registry.managedIds.contains then none
  else
    match (around.serviceRows state.view).findIdx? stoppable with
    | none => none
    | some selected =>
        some ((state.closeOverlays around).setOverlay .services (some (around.servicesAt selected)))

/-! ## Endpoints of the chat -/

def acceptChatConsent : AppState Screen View :=
  if state.chatLlm.isSome then { state with chatConsent := .accepted, chatFocused := true }
  else state

def declineChatConsent : AppState Screen View :=
  if state.chatLlm.isSome then { state with chatConsent := .declined, chatFocused := false }
  else state

def requestDetect : AppState Screen View :=
  if state.chatDetecting || state.chatDetectOffer.isSome then state
  else
    let detecting := { state with
      chatDetecting := true
      chatDetectMsg := none
      chatDetectDispatch := true }
    if state.chatConsent = .accepted then
      detecting.push (.agent ("Detecting a local engine (Lemonade :13305 / vLLM :8000 / a rocm " ++
        "serve service)…"))
    else detecting

def setDetectResult (offer : Option LlmConfig) : AppState Screen View :=
  let accepted := state.chatConsent = .accepted
  let settled := { state with chatDetecting := false }
  match offer with
  | some config =>
      let offered := { settled with chatDetectMsg := none, chatDetectOffer := some config }
      if accepted then
        offered.push (.agent (s!"Detected a local engine: {config.baseUrl}  (model: " ++
          s!"{config.model}). Type `/detect accept` to switch now, `/detect save` to also " ++
          "persist it, or `/detect dismiss` to ignore."))
      else offered
  | none =>
      let message := "no local engine found (Lemonade :13305 / vLLM :8000 / a rocm serve service)"
      let nothing := { settled with chatDetectOffer := none }
      if accepted then nothing.push (.agent message)
      else { nothing with chatDetectMsg := some message }

def acceptDetectOffer : AppState Screen View :=
  match state.chatDetectOffer with
  | none => state
  | some config =>
      { state with
        chatDetectOffer := none
        chatLlm := some config
        chatConsent := .accepted
        chatFocused := true
        activeProvider := .local
        chatEndpointRebuild := some state.activeProvider }

def dismissDetectOffer : AppState Screen View := { state with chatDetectOffer := none }

def saveDetectOffer : AppState Screen View :=
  if state.chatDetectOffer.isSome then { state.acceptDetectOffer with chatPersistDispatch := true }
  else state.acceptDetectOffer

/-! ## Replies -/

def onChatReply (text : String) : AppState Screen View :=
  { state.push (.agent text) with chatSending := false }

def onChatError (message : String) : AppState Screen View :=
  { state.push (.error message) with chatSending := false }

def onSlashToolReply (text : String) : AppState Screen View := state.push (.agent text)

/-! ## Cards -/

/-- A plan whose next action is complete and has to be approved is handed on. -/
def onPlanReady (text : String) (action : Option PlannedAction) : AppState Screen View :=
  let reviewed := state.push (.agent text)
  match action with
  | none => reviewed
  | some action =>
    if action.approvalRequired && !action.hasPlaceholders && !action.providerAssisted then
      if state.slashTool.isSome || state.approval.isSome then
        reviewed.push (.error ("A command is already in progress; the planned action was " ++
          "discarded. Resolve it first, then re-run the plan."))
      else
        { reviewed with
          slashTool := some ⟨"rocm_command",
            .object [("args", .array (action.args.map .string))], "plan action"⟩ }
    else reviewed

def openApproval (intent : ApprovalIntent) : AppState Screen View :=
  if state.approval.isSome then
    state.push (.error ("An action is already awaiting approval; the new request was discarded. " ++
      "Resolve the open approval first."))
  else if state.quitConfirmPending then
    state.push (.error ("An action was proposed while quitting was being confirmed; the request " ++
      "was discarded."))
  else
    { state.closeOverlays around with
      approval := some ⟨⟨intent.title, intent.body⟩, .deny, intent.name, intent.arguments⟩ }

/-- A key at the card: the cursor may move, and the card may be decided. -/
def onApprovalKey (code : KeyCode) : AppState Screen View × Option ApprovalVerdict :=
  match state.approval with
  | none => (state, none)
  | some card =>
      ({ state with approval := some { card with choice := (approvalKey code card.choice).1 } },
        (approvalKey code card.choice).2)

def onApprovalDeclined : AppState Screen View :=
  { state with approval := none }.push (.agent "Action declined.")

/-- The result of an approved action, after which the agent has one more turn. -/
def onApprovalResult (text : String) : AppState Screen View :=
  { { state with approval := none }.push (.agent text) with chatSending := true, chatDispatch := true }

end AppState

end Reducers

end Dashboard
end RocmCli
