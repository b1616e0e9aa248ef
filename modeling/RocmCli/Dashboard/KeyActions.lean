import RocmCli.Dashboard.SlashCommands

namespace RocmCli
namespace Dashboard

/-!
# Keys and the mouse

A key or a click becomes an action, and an action turns the state.  Where
nothing owns the screen the keys are read by the surroundings, and clicks are
read against what was drawn; a card and the quit prompt let none of them
through.
-/

/-! ## Actions -/

inductive KeyAction where
  | nothing
  | quit
  | switchTab (tab : ActiveTab)
  | paneFocusDetail
  | paneFocusActions
  | paneActivate
  | paneEscape
  | paneSelect (index : Nat)
  | move (delta : Int)
  | selectFirst
  | selectLast
  | openDetail
  | toggleHelp
  | openWarnings
  | closeModal
  | openThemePicker
  | applyThemePick
  | scrollModal (delta : Int)
  | scrollConsole (lines columns : Int)
  | scrollDock (lines : Int)
  | scrollGrab (target : ScrollTarget) (position grabOffset : Nat)
  | scrollRelease
  | replayTogglePause
  | replaySpeedUp
  | replaySpeedDown
  | replayJump (seconds : Int)
  | chatInput (character : Char)
  | chatBackspace
  | chatSubmit
  | chatFocus
  | chatBlur
  | chatConsentAccept
  | chatConsentDecline
  | chatDetect
  | chatDetectAccept
  | chatDetectSave
  | chatDetectDismiss
  | chatScroll (lines : Int)
  | openMenu
  | openPalette
  | menuMove (delta : Int)
  | optionsTab (delta : Int)
  | menuActivate
  | openManager (manager : Manager)
  deriving DecidableEq, Repr

inductive MenuItem where
  | options
  | help
  | quit
  deriving DecidableEq, Repr

def menuItems : List MenuItem := [.options, .help, .quit]

def paletteDests : List (String × ActiveTab) :=
  [("Home", .home), ("ROCm", .rocm), ("Serving", .serving), ("Observe", .observe), ("Chat", .chat)]

def optionsTabs : List String := ["General", "CPU", "GPU", "Engines"]

/-- Wrap a list cursor by `delta`. -/
def wrapCursor (cursor : Nat) (delta : Int) (length : Nat) : Nat :=
  if length = 0 then 0 else ((cursor + delta) % length).toNat

section Actions

variable {Screen View Signal : Type} (around : Surroundings Screen View Signal)

namespace AppState

variable (state : AppState Screen View) (registry : ManagedRegistrySnapshot)

def turnView (action : ViewAction) : AppState Screen View :=
  { state with view := around.turn action state.modal state.activeTab state.view }

/-- The tabs with a list of actions beside their details. -/
def onDomainTab : Bool := state.activeTab == .rocm || state.activeTab == .serving

def openPaneVerb : AppState Screen View :=
  match around.paneVerb state.activeTab state.view with
  | some manager => state.openOverlay around manager
  | none => state

def openMenu : AppState Screen View := { state with modal := .menu, menuSel := 0 }

def menuActivate : AppState Screen View × Bool :=
  match state.modal with
  | .menu =>
      match menuItems[state.menuSel]? with
      | some .options => ({ state with modal := .options, optionsTab := 0 }, false)
      | some .help => ({ state with modal := .globalHelp }, false)
      | some .quit => state.requestQuit around registry
      | none => (state, false)
  | .palette =>
      let tab := (paletteDests[state.paletteSel]?).elim state.activeTab Prod.snd
      ({ state with activeTab := tab, modal := .none }, false)
  | _ => (state, false)

def menuMove (delta : Int) : AppState Screen View :=
  match state.modal with
  | .menu => { state with menuSel := wrapCursor state.menuSel delta menuItems.length }
  | .palette => { state with paletteSel := wrapCursor state.paletteSel delta paletteDests.length }
  | _ => state

/-- Apply an action, and say whether it ends the session. -/
def applyAction (action : KeyAction) : AppState Screen View × Bool :=
  match action with
  | .nothing => (state, false)
  | .quit => state.requestQuit around registry
  | .switchTab tab => ({ state with activeTab := tab, modal := .none, paneFocus := .actions }, false)
  | .paneFocusDetail => (if state.onDomainTab then { state with paneFocus := .detail } else state, false)
  | .paneFocusActions =>
      (if state.onDomainTab then { state with paneFocus := .actions } else state, false)
  | .paneActivate =>
      (if !state.onDomainTab then state
      else
        match state.paneFocus with
        | .actions => { state with paneFocus := .detail }
        | .detail => state.openPaneVerb around, false)
  | .paneEscape =>
      (if state.onDomainTab && state.paneFocus == .detail then { state with paneFocus := .actions }
      else state.openMenu, false)
  | .paneSelect index =>
      (if state.onDomainTab then
        { state.turnView around (.select (min index (around.paneVerbCount state.activeTab - 1))) with
          paneFocus := .actions }
      else state, false)
  | .move delta =>
      (if state.modal != .themePicker && state.onDomainTab then
        { state.turnView around (.move delta) with paneFocus := .actions }
      else state.turnView around (.move delta), false)
  | .selectFirst => (state.turnView around .selectFirst, false)
  | .selectLast => (state.turnView around .selectLast, false)
  | .openDetail =>
      (if state.onDomainTab then state.openPaneVerb around
      else if 0 < around.selectionLen state.activeTab state.view then
        { state.turnView around .resetInstanceDetail with modal := .detail }
      else state, false)
  | .toggleHelp =>
      (if state.modal = .help then { state with modal := .none }
      else { state.closeOverlays around with modal := .help }, false)
  | .openWarnings =>
      (if state.globalHotkeysReachable && decide (0 < around.warningCount state.view) then
        { state with modal := .warnings }
      else state, false)
  | .closeModal => ({ state with modal := .none }, false)
  | .openThemePicker =>
      ({ (state.closeOverlays around).turnView around .openThemePicker with modal := .themePicker },
        false)
  | .applyThemePick => ({ state.turnView around .applyThemePick with modal := .none }, false)
  | .scrollModal delta =>
      (if state.modal = .detail then state.turnView around (.scrollModal delta) else state, false)
  | .scrollConsole lines columns => (state.turnView around (.scrollConsole lines columns), false)
  | .scrollDock lines => (state.turnView around (.scrollDock lines), false)
  | .scrollGrab target position grabOffset =>
      ({ state.turnView around (.scrollTo target position) with
        scrollDrag := some ⟨target, grabOffset⟩ }, false)
  | .scrollRelease => ({ state with scrollDrag := none }, false)
  | .replayTogglePause => (state.turnView around .replayTogglePause, false)
  | .replaySpeedUp => (state.turnView around .replaySpeedUp, false)
  | .replaySpeedDown => (state.turnView around .replaySpeedDown, false)
  | .replayJump seconds => (state.turnView around (.replayJump seconds), false)
  | .chatInput character => ({ state with chatInput := state.chatInput.push character }, false)
  | .chatBackspace =>
      ({ state with chatInput := String.ofList state.chatInput.toList.dropLast }, false)
  | .chatSubmit => (state.submitChat around registry, false)
  | .chatFocus => ({ state with chatFocused := true }, false)
  | .chatBlur => ({ state with chatFocused := false }, false)
  | .chatConsentAccept => (state.acceptChatConsent, false)
  | .chatConsentDecline => (state.declineChatConsent, false)
  | .chatDetect => (state.requestDetect, false)
  | .chatDetectAccept => (state.acceptDetectOffer, false)
  | .chatDetectSave => (state.saveDetectOffer, false)
  | .chatDetectDismiss => (state.dismissDetectOffer, false)
  | .chatScroll lines => (state.turnView around (.chatScroll lines), false)
  | .openMenu => (state.openMenu, false)
  | .openPalette => ({ state with modal := .palette, paletteSel := 0 }, false)
  | .menuMove delta => (state.menuMove delta, false)
  | .optionsTab delta =>
      (if state.modal = .options then
        { state with optionsTab := wrapCursor state.optionsTab delta optionsTabs.length }
      else state, false)
  | .menuActivate => state.menuActivate around registry
  | .openManager manager => (state.openOverlay around manager, false)

end AppState

end Actions

/-! ## The mouse -/

structure ChatKeyCtx where
  focused : Bool
  consent : ChatConsent
  offerPending : Bool
  deriving DecidableEq, Repr

inductive MouseEventKind where
  | dragLeft
  | dragOther
  | up
  | downLeft
  | downOther
  | scrollDown
  | scrollUp
  | scrollLeft
  | scrollRight
  | moved
  deriving DecidableEq, Repr

structure MouseEvent where
  kind : MouseEventKind
  column : Nat
  row : Nat
  deriving DecidableEq, Repr

/-- How keys are read where nothing owns the screen, and what was drawn where. -/
structure Routing (View : Type) where
  handleKey : KeyEvent -> ActiveTab -> Modal -> ChatKeyCtx -> KeyAction
  scrollbarHit : View -> Nat -> Nat -> Option KeyAction
  dragTo : View -> ScrollDrag -> Nat -> Nat -> Option KeyAction
  tabBarHit : View -> Nat -> Nat -> Option ActiveTab
  badgeHit : View -> Nat -> Nat -> Bool
  footerChipHit : View -> Nat -> Nat -> Option KeyAction
  bodyHit : ActiveTab -> View -> Nat -> Nat -> Option KeyAction
  inDock : View -> Nat -> Nat -> Bool
  inActions : View -> Nat -> Nat -> Bool

/-- Lines and columns of a notch of the wheel. -/
def wheelDelta : MouseEventKind -> Option (Int × Int)
  | .scrollDown => some (1, 0)
  | .scrollUp => some (-1, 0)
  | .scrollRight => some (0, 1)
  | .scrollLeft => some (0, -1)
  | _ => none

/-- Lines and columns a key pans the console of a job by. -/
def consoleScrollDelta : KeyCode -> Option (Int × Int)
  | .pageDown => some (10, 0)
  | .pageUp => some (-10, 0)
  | .down => some (1, 0)
  | .up => some (-1, 0)
  | .right => some (0, 4)
  | .left => some (0, -4)
  | _ => none

def handleMouse (lines : Int) (modal : Modal) (tab : ActiveTab) : KeyAction :=
  if lines = 0 then .nothing
  else if modal = .detail then .scrollModal lines
  else if modal = .themePicker || (modal = .none && tab = .observe) then .move lines
  else .nothing

section Mouse

variable {Screen View Signal : Type} (around : Surroundings Screen View Signal)
  (routing : Routing View) (state : AppState Screen View) (mouse : MouseEvent)

def resolveDrag : KeyAction :=
  if state.blocksBodyAbsolutely then .nothing
  else
    (state.scrollDrag.bind fun drag => routing.dragTo state.view drag mouse.column mouse.row).getD
      .nothing

def resolveClick : KeyAction :=
  if state.blocksBodyAbsolutely then .nothing
  else
    match routing.scrollbarHit state.view mouse.column mouse.row with
    | some action => action
    | none =>
    match routing.tabBarHit state.view mouse.column mouse.row with
    | some tab => .switchTab tab
    | none =>
      if state.globalHotkeysReachable && routing.badgeHit state.view mouse.column mouse.row then
        .openWarnings
      else
        match routing.footerChipHit state.view mouse.column mouse.row with
        | some action => action
        | none =>
          if state.overlayOrApproval then .nothing
          else if state.modal = .none then
            (routing.bodyHit state.activeTab state.view mouse.column mouse.row).getD .nothing
          else .nothing

def resolveWheel (lines columns : Int) : KeyAction :=
  if state.blocksBodyAbsolutely then .nothing
  else if state.hasOpenOverlay then
    if state.hasActiveConsole around then .scrollConsole (lines * 3) (columns * 6) else .nothing
  else if state.modal = .none && lines ≠ 0 && routing.inDock state.view mouse.column mouse.row then
    .scrollDock (lines * 3)
  else if state.modal = .none && state.onDomainTab then
    if lines ≠ 0 && routing.inActions state.view mouse.column mouse.row then .move lines
    else .nothing
  else handleMouse lines state.modal state.activeTab

def resolveMouse : KeyAction :=
  match mouse.kind with
  | .dragLeft => resolveDrag routing state mouse
  | .up => if state.scrollDrag.isSome then .scrollRelease else .nothing
  | .downLeft => resolveClick routing state mouse
  | kind =>
    match wheelDelta kind with
    | none => .nothing
    | some (lines, columns) => resolveWheel around routing state mouse lines columns

end Mouse

end Dashboard
end RocmCli
