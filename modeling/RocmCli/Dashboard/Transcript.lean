import RocmCli.Dashboard.EventLoop

namespace RocmCli
namespace Dashboard

/-!
# What the reducer does to the chat

A key, a click or a command leaves the two flags of the chat alone and only adds
to the transcript, except that `/clear` empties it and that a prompt, which is
taken only while the chat is not sending, sets both flags.
-/

variable {Screen View Signal Backend : Type}

/-- The flags are kept, and the transcript with what was added to it; no card is
opened. -/
structure Grows (before after : AppState Screen View) : Prop where
  sending : after.chatSending = before.chatSending
  dispatch : after.chatDispatch = before.chatDispatch
  chat : before.chat <+: after.chat
  card : before.approval = none -> after.approval = none

inductive ChatChange (before after : AppState Screen View) : Prop where
  | kept (sending : after.chatSending = before.chatSending)
      (dispatch : after.chatDispatch = before.chatDispatch) (chat : before.chat <+: after.chat)
  | emptied (sending : after.chatSending = before.chatSending)
      (dispatch : after.chatDispatch = before.chatDispatch) (chat : after.chat = [])
  | started (idle : before.chatSending = false) (sending : after.chatSending = true)
      (dispatch : after.chatDispatch = true) (chat : before.chat <+: after.chat)

/-- What the reducer does: the chat changes, and no card is opened. -/
structure Turned (before after : AppState Screen View) : Prop where
  change : ChatChange before after
  card : before.approval = none -> after.approval = none

variable {before after : AppState Screen View}

theorem Grows.change (grows : Grows before after) : ChatChange before after :=
  .kept grows.sending grows.dispatch grows.chat

theorem Grows.turned (grows : Grows before after) : Turned before after :=
  ⟨grows.change, grows.card⟩

variable (around : Surroundings Screen View Signal) (state : AppState Screen View)

namespace Grows

theorem refl : Grows state state := ⟨rfl, rfl, List.prefix_rfl, id⟩

theorem push (turn : ChatTurn) : Grows state (state.push turn) :=
  ⟨rfl, rfl, List.prefix_append _ _, id⟩

variable {state}

theorem trans {first second third : AppState Screen View} (early : Grows first second)
    (late : Grows second third) : Grows first third :=
  ⟨late.sending.trans early.sending, late.dispatch.trans early.dispatch,
    early.chat.trans late.chat, fun noCard => late.card (early.card noCard)⟩

section

variable (sending : after.chatSending = before.chatSending)
  (dispatch : after.chatDispatch = before.chatDispatch) (chat : after.chat = before.chat)
include sending dispatch chat

/-- Changes beside the chat and the card. -/
theorem beside (card : after.approval = before.approval) : Grows before after :=
  ⟨sending, dispatch, chat ▸ List.prefix_rfl, card.trans⟩

/-- Changes beside the chat after which there is no card. -/
theorem closing (card : after.approval = none) : Grows before after :=
  ⟨sending, dispatch, chat ▸ List.prefix_rfl, fun _ => card⟩

end

/-- Changes that add a line. -/
theorem added (turn : ChatTurn) (sending : after.chatSending = before.chatSending)
    (dispatch : after.chatDispatch = before.chatDispatch)
    (chat : after.chat = before.chat ++ [turn]) (card : after.approval = before.approval) :
    Grows before after :=
  ⟨sending, dispatch, chat ▸ List.prefix_append _ _, card.trans⟩

theorem ite {first second : AppState Screen View} {condition : Prop} [Decidable condition]
    (yes : Grows before first) (no : Grows before second) :
    Grows before (if condition then first else second) := by
  split
  · exact yes
  · exact no

end Grows

/-- What changes beside the chat changes nothing of how it changed. -/
theorem ChatChange.of_same {same : AppState Screen View} (change : ChatChange before after)
    (sending : same.chatSending = after.chatSending)
    (dispatch : same.chatDispatch = after.chatDispatch) (chat : same.chat = after.chat) :
    ChatChange before same := by
  cases change with
  | kept keptSending keptDispatch kept =>
      exact .kept (sending.trans keptSending) (dispatch.trans keptDispatch) (chat ▸ kept)
  | emptied keptSending keptDispatch isEmpty =>
      exact .emptied (sending.trans keptSending) (dispatch.trans keptDispatch) (chat.trans isEmpty)
  | started idle isSending isDispatch kept =>
      exact .started idle (sending.trans isSending) (dispatch.trans isDispatch) (chat ▸ kept)

namespace AppState

/-! ## Commands -/

theorem withWord_grows (word : Option String) (usage : String) {run : String -> AppState Screen View}
    (runs : forall word, Grows state (run word)) : Grows state (state.withWord word usage run) := by
  unfold withWord
  cases word with
  | none => exact Grows.push state _
  | some word => exact runs word

theorem requestDetect_grows : Grows state state.requestDetect := by
  unfold requestDetect
  exact Grows.ite (Grows.refl state)
    (Grows.ite (Grows.added _ rfl rfl rfl rfl) (Grows.beside rfl rfl rfl rfl))

theorem acceptDetectOffer_grows : Grows state state.acceptDetectOffer := by
  unfold acceptDetectOffer
  cases state.chatDetectOffer with
  | none => exact Grows.refl state
  | some config => exact Grows.beside rfl rfl rfl rfl

theorem saveDetectOffer_grows : Grows state state.saveDetectOffer := by
  have accepted := acceptDetectOffer_grows state
  unfold saveDetectOffer
  exact Grows.ite ⟨accepted.sending, accepted.dispatch, accepted.chat, accepted.card⟩ accepted

theorem requestQuit_grows (registry : ManagedRegistrySnapshot) :
    Grows state (state.requestQuit around registry).1 := by
  unfold requestQuit
  split
  · exact Grows.refl state
  · split
    · exact Grows.closing rfl rfl rfl rfl
    · exact Grows.refl state

theorem slashServices_grows (words : List String) : Grows state (state.slashServices words) := by
  unfold slashServices
  split
  · exact Grows.beside rfl rfl rfl rfl
  · exact withWord_grows state _ _ fun _ => Grows.beside rfl rfl rfl rfl
  · exact Grows.push state _
  · exact Grows.push state _

theorem slashUpdate_grows (words : List String) : Grows state (state.slashUpdate words) :=
  Grows.ite (Grows.beside rfl rfl rfl rfl) (Grows.beside rfl rfl rfl rfl)

theorem slashComfyui_grows (sub : Option String) : Grows state (state.slashComfyui sub) := by
  unfold slashComfyui
  cases sub with
  | none => exact Grows.beside rfl rfl rfl rfl
  | some action => exact Grows.ite (Grows.beside rfl rfl rfl rfl) (Grows.push state _)

theorem slashUninstall_grows (flags : List String) : Grows state (state.slashUninstall flags) :=
  Grows.ite (Grows.push state _) (Grows.ite (Grows.beside rfl rfl rfl rfl) (Grows.beside rfl rfl rfl rfl))

theorem slashSetup_grows (sub : Option String) : Grows state (state.slashSetup sub) := by
  unfold slashSetup
  split <;> first | exact Grows.push state _ | exact Grows.beside rfl rfl rfl rfl

theorem slashAutomations_grows (words : List String) :
    Grows state (state.slashAutomations around words) := by
  unfold slashAutomations
  split
  · exact Grows.beside rfl rfl rfl rfl
  · exact Grows.beside rfl rfl rfl rfl
  · exact withWord_grows state _ _ fun _ => Grows.beside rfl rfl rfl rfl
  · exact withWord_grows state _ _ fun _ => Grows.beside rfl rfl rfl rfl
  · exact Grows.push state _

theorem slashReviews_grows (word : Option String) : Grows state (state.slashReviews word) := by
  cases word <;> exact Grows.beside rfl rfl rfl rfl

theorem slashEdit_grows (word : Option String) : Grows state (state.slashEdit word) :=
  withWord_grows state _ _ fun _ => Grows.added _ rfl rfl rfl rfl

theorem slashPermissions_grows (sub : Option String) : Grows state (state.slashPermissions sub) := by
  unfold slashPermissions
  split <;> first | exact Grows.push state _ | exact Grows.beside rfl rfl rfl rfl

theorem slashPlan_grows (request : String) : Grows state (state.slashPlan request) :=
  Grows.ite (Grows.push state _) (Grows.beside rfl rfl rfl rfl)

theorem slashProvider_grows (word : Option String) :
    Grows state (state.slashProvider around word) := by
  unfold slashProvider
  cases word with
  | none => exact Grows.push state _
  | some name =>
    dsimp only
    split
    · exact Grows.beside rfl rfl rfl rfl
    · exact Grows.push state _

theorem slashDetect_grows (sub : Option String) : Grows state (state.slashDetect sub) := by
  unfold slashDetect
  cases sub with
  | none => exact requestDetect_grows state
  | some sub =>
    exact Grows.ite (Grows.push state _) (Grows.ite (acceptDetectOffer_grows state)
      (Grows.ite (saveDetectOffer_grows state)
        (Grows.ite (Grows.beside rfl rfl rfl rfl) (Grows.push state _))))

theorem slashQuit_grows (registry : ManagedRegistrySnapshot) :
    Grows state (state.slashQuit around registry) := by
  have asked := requestQuit_grows around state registry
  exact ⟨asked.sending, asked.dispatch, asked.chat, asked.card⟩

/-- A prompt starts a turn, unless the chat is sending. -/
theorem dispatch_started (idle : state.chatSending = false) (prompt : String) :
    ChatChange state (state.dispatch prompt) :=
  .started idle rfl rfl (List.prefix_append _ _)

theorem slashChat_turned (prompt : String) : Turned state (state.slashChat prompt) := by
  unfold slashChat
  split
  · exact Grows.turned (Grows.beside rfl rfl rfl rfl)
  · split
    next => exact Grows.turned (Grows.refl state)
    next idle => exact ⟨dispatch_started state (Bool.eq_false_iff.mpr idle) prompt, id⟩

theorem slashCommand_turned (registry : ManagedRegistrySnapshot) (rest : List Char)
    (command : String) (words : List String) :
    Turned state (state.slashCommand around registry rest command words) := by
  unfold slashCommand
  dsimp only
  split
  case h_5 => exact ⟨.emptied rfl rfl rfl, id⟩
  case h_32 => exact slashChat_turned state _
  all_goals
    apply Grows.turned
    first
    | with_reducible exact Grows.push state _
    | with_reducible exact slashQuit_grows around state registry
    | with_reducible exact slashServices_grows state words
    | with_reducible exact slashUpdate_grows state words
    | with_reducible exact slashComfyui_grows state _
    | with_reducible exact slashUninstall_grows state words
    | with_reducible exact slashSetup_grows state _
    | with_reducible exact slashAutomations_grows around state words
    | with_reducible exact slashReviews_grows state _
    | with_reducible exact slashEdit_grows state _
    | with_reducible exact slashPermissions_grows state _
    | with_reducible exact slashPlan_grows state _
    | with_reducible exact slashProvider_grows around state _
    | with_reducible exact slashDetect_grows state _
    | (with_reducible apply withWord_grows)
      intro _
      exact Grows.beside rfl rfl rfl rfl
    | exact Grows.beside rfl rfl rfl rfl
    | exact Grows.closing rfl rfl rfl rfl

theorem handleSlashCommand_turned (registry : ManagedRegistrySnapshot) {text : String}
    (handled : state.handleSlashCommand around registry text = some after) :
    Turned state after := by
  unfold handleSlashCommand at handled
  split at handled
  · cases handled
    exact slashCommand_turned around state registry _ _ _
  · cases handled

theorem submitChat_turned (registry : ManagedRegistrySnapshot) :
    Turned state (state.submitChat around registry) := by
  unfold submitChat
  dsimp only
  split
  next => exact Grows.turned (Grows.refl state)
  next free =>
    have idle : state.chatSending = false := by
      cases sending : state.chatSending with
      | false => rfl
      | true => simp [sending] at free
    split
    next handled isHandled =>
      have turned := handleSlashCommand_turned around state registry isHandled
      exact ⟨turned.change.of_same rfl rfl rfl, turned.card⟩
    next => exact ⟨(dispatch_started state idle _).of_same rfl rfl rfl, id⟩

/-! ## Actions -/

theorem acceptChatConsent_grows : Grows state state.acceptChatConsent :=
  Grows.ite (Grows.beside rfl rfl rfl rfl) (Grows.refl state)

theorem declineChatConsent_grows : Grows state state.declineChatConsent :=
  Grows.ite (Grows.beside rfl rfl rfl rfl) (Grows.refl state)

theorem openPaneVerb_grows : Grows state (state.openPaneVerb around) := by
  unfold openPaneVerb
  split
  · exact Grows.closing rfl rfl rfl rfl
  · exact Grows.refl state

theorem menuActivate_grows (registry : ManagedRegistrySnapshot) :
    Grows state (state.menuActivate around registry).1 := by
  unfold menuActivate
  split
  · split
    · exact Grows.beside rfl rfl rfl rfl
    · exact Grows.beside rfl rfl rfl rfl
    · exact requestQuit_grows around state registry
    · exact Grows.refl state
  · exact Grows.beside rfl rfl rfl rfl
  · exact Grows.refl state

theorem menuMove_grows (delta : Int) : Grows state (state.menuMove delta) := by
  unfold menuMove
  split
  · exact Grows.beside rfl rfl rfl rfl
  · exact Grows.beside rfl rfl rfl rfl
  · exact Grows.refl state

theorem applyAction_turned (registry : ManagedRegistrySnapshot) (action : KeyAction) :
    Turned state (state.applyAction around registry action).1 := by
  unfold applyAction
  cases action with
  | chatSubmit => exact submitChat_turned around state registry
  | quit => exact Grows.turned (requestQuit_grows around state registry)
  | menuActivate => exact Grows.turned (menuActivate_grows around state registry)
  | menuMove delta => exact Grows.turned (menuMove_grows state delta)
  | chatConsentAccept => exact Grows.turned (acceptChatConsent_grows state)
  | chatConsentDecline => exact Grows.turned (declineChatConsent_grows state)
  | chatDetect => exact Grows.turned (requestDetect_grows state)
  | chatDetectAccept => exact Grows.turned (acceptDetectOffer_grows state)
  | chatDetectSave => exact Grows.turned (saveDetectOffer_grows state)
  | openDetail =>
      exact Grows.turned (Grows.ite (openPaneVerb_grows around state)
        (Grows.ite (Grows.beside rfl rfl rfl rfl) (Grows.refl state)))
  | paneActivate =>
      refine Grows.turned (Grows.ite (Grows.refl state) ?_)
      split
      · exact Grows.beside rfl rfl rfl rfl
      · exact openPaneVerb_grows around state
  | paneFocusDetail | paneFocusActions | paneSelect _ | openWarnings | scrollModal _ | optionsTab _ =>
      exact Grows.turned (Grows.ite (Grows.beside rfl rfl rfl rfl) (Grows.refl state))
  | paneEscape | move _ =>
      exact Grows.turned (Grows.ite (Grows.beside rfl rfl rfl rfl) (Grows.beside rfl rfl rfl rfl))
  | toggleHelp =>
      exact Grows.turned (Grows.ite (Grows.beside rfl rfl rfl rfl) (Grows.closing rfl rfl rfl rfl))
  | openThemePicker | openManager _ => exact Grows.turned (Grows.closing rfl rfl rfl rfl)
  | _ => exact Grows.turned (Grows.beside rfl rfl rfl rfl)

end AppState

end Dashboard
end RocmCli
