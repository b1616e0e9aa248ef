import RocmCli.ToolPolicy.ToolCalls

namespace RocmCli
namespace ToolPolicy

open ShellWords

/-!
# The approval card shows the command that runs

What an operator reads is one line.  It holds nothing that a terminal acts on,
and a POSIX shell splits it into the program and exactly the arguments that run
after the approval.
-/

/-- No argument carries a character that a terminal acts on. -/
def Clean (args : List String) : Prop :=
  forall arg, arg ∈ args -> hasTerminalControlCharacter arg = false

variable {args : List String}

theorem Clean.of_all (all : (args.all fun arg => !hasTerminalControlCharacter arg) = true) :
    Clean args := by
  intro arg member
  have free := List.all_eq_true.mp all arg member
  rwa [Bool.not_eq_true'] at free

theorem Clean.append {front back : List String} (frontClean : Clean front)
    (backClean : Clean back) : Clean (front ++ back) := by
  intro arg member
  rcases List.mem_append.mp member with inFront | inBack
  · exact frontClean arg inFront
  · exact backClean arg inBack

theorem Clean.cons {arg : String} (argClean : hasTerminalControlCharacter arg = false)
    (clean : Clean args) :
    Clean (arg :: args) := by
  intro other member
  rcases List.mem_cons.mp member with rfl | later
  · exact argClean
  · exact clean other later

/-! ## Values that were screened -/

theorem rejectInEntries_lookup {tool : String} {entries : JsonObject}
    (screened : rejectInEntries tool entries = .ok ()) {key : String} {value : Json}
    (found : entries.lookup key = some value) : rejectControlCharacters tool value = .ok () := by
  induction entries with
  | nil => exact nomatch found
  | cons entry entries ih =>
      obtain ⟨name, held⟩ := entry
      rw [rejectInEntries] at screened
      obtain ⟨⟨⟩, first, later⟩ := bind_ok.mp screened
      rw [List.lookup_cons] at found
      by_cases named : (key == name) = true
      · rw [named] at found
        cases found
        exact first
      · rw [Bool.eq_false_iff.mpr named] at found
        exact ih later found

section Screened

variable {tool : String} {object : JsonObject}

theorem jsonString_clean (screened : rejectInEntries tool object = .ok ()) {key value : String}
    (found : jsonString object key = some value) : hasTerminalControlCharacter value = false := by
  unfold jsonString at found
  have held := (Option.filter_eq_some_iff.mp found).1
  obtain ⟨json, looked, isString⟩ := Option.bind_eq_some_iff.mp held
  have passed := rejectInEntries_lookup screened looked
  cases json with
  | string text =>
      cases isString
      rw [rejectControlCharacters] at passed
      exact refuseIf_ok.mp passed
  | _ => exact nomatch isString

theorem jsonString_getD_clean (screened : rejectInEntries tool object = .ok ())
    {key fallback : String} (fallbackClean : hasTerminalControlCharacter fallback = false) :
    hasTerminalControlCharacter ((jsonString object key).getD fallback) = false := by
  cases found : jsonString object key with
  | none => exact fallbackClean
  | some value => exact jsonString_clean screened found

theorem optionalJsonCliArg_clean (screened : rejectInEntries tool object = .ok ())
    {flag key : String} (flagClean : hasTerminalControlCharacter flag = false) :
    Clean (optionalJsonCliArg object flag key) := by
  unfold optionalJsonCliArg
  cases found : jsonString object key with
  | none => exact Clean.of_all rfl
  | some value =>
      exact Clean.cons flagClean (Clean.cons (jsonString_clean screened found) (Clean.of_all rfl))

theorem toString_clean (number : Nat) : hasTerminalControlCharacter (toString number) = false := by
  unfold hasTerminalControlCharacter
  apply List.any_eq_false.mpr
  intro character member
  have digits : (toString number).toList = Nat.toDigits 10 number := Nat.toList_repr
  rw [digits] at member
  have digit : character.isDigit = true :=
    Nat.isDigit_of_mem_toDigits (by decide) (by decide) member
  have small : character.toNat < 128 := by
    unfold Char.isDigit at digit
    rw [Bool.and_eq_true, decide_eq_true_eq, decide_eq_true_eq] at digit
    exact Nat.lt_of_le_of_lt (UInt32.le_iff_toNat_le.mp digit.2) (by decide)
  revert digit
  rw [Bool.not_eq_true]
  apply Text.forall_toNat_lt
    (fun character => character.isDigit = true -> isTerminalControl character = false) _ small
  decide

theorem installSdkArgs_clean (screened : rejectInEntries tool object = .ok ()) :
    Clean (installSdkArgs object) := by
  have channel := @jsonString_getD_clean _ _ screened "channel" "release" (by decide)
  have format := @jsonString_getD_clean _ _ screened "format" "wheel" (by decide)
  unfold installSdkArgs
  refine Clean.append (Clean.append (Clean.append ?_ ?_) ?_) ?_
  · have front : Clean ["install", "sdk", "--channel"] := Clean.of_all (by decide)
    have back : Clean ["--approve-replacing-active-default"] := Clean.of_all (by decide)
    exact front.append (Clean.cons channel (Clean.cons (by decide) (Clean.cons format back)))
  all_goals exact optionalJsonCliArg_clean screened (by decide)

theorem installEngineArgs_clean (screened : rejectInEntries tool object = .ok ()) {engine : String}
    (found : jsonString object "engine" = some engine) : Clean (installEngineArgs object engine) := by
  have named : Clean [engine] := Clean.cons (jsonString_clean screened found) (Clean.of_all rfl)
  have verb : Clean ["engines", "install"] := Clean.of_all (by decide)
  unfold installEngineArgs
  refine Clean.append (Clean.append (Clean.append (verb.append named) ?_) ?_) ?_
  · exact optionalJsonCliArg_clean screened (by decide)
  · exact optionalJsonCliArg_clean screened (by decide)
  · by_cases again : ((object.lookup "reinstall").bind Json.asBool).getD false = true
    · rw [if_pos again]
      exact Clean.of_all (by decide)
    · rw [if_neg again]
      exact Clean.of_all rfl

theorem launchServerArgs_clean (screened : rejectInEntries tool object = .ok ()) {model : String}
    (found : jsonString object "model" = some model) : Clean (launchServerArgs object model) := by
  have named : Clean ["serve", model, "--managed"] :=
    Clean.cons (by decide) (Clean.cons (jsonString_clean screened found) (Clean.of_all (by decide)))
  unfold launchServerArgs
  refine Clean.append (Clean.append (Clean.append (Clean.append (Clean.append
    (Clean.append named ?_) ?_) ?_) ?_) ?_) ?_
  case refine_6 =>
      cases (object.lookup "port").bind Json.asU64 with
      | none => exact Clean.of_all rfl
      | some port => exact Clean.cons (by decide) (Clean.cons (toString_clean port) (Clean.of_all rfl))
  all_goals exact optionalJsonCliArg_clean screened (by decide)

end Screened

/-! ## Commands that were screened -/

theorem normalizedArg_clean {value : Json} {arg : String} (read : normalizedArg value = .ok arg) :
    hasTerminalControlCharacter arg = false := by
  unfold normalizedArg at read
  obtain ⟨text, _, read⟩ := bind_ok.mp read
  obtain ⟨clean, read⟩ := refuseIf_then_ok.mp read
  obtain ⟨_, read⟩ := refuseIf_then_ok.mp read
  cases read
  exact clean

theorem mapM_normalizedArg_clean {values : List Json}
    (read : values.mapM normalizedArg = .ok args) :
    Clean args := by
  induction values generalizing args with
  | nil =>
      cases read
      exact Clean.of_all rfl
  | cons value values ih =>
      rw [List.mapM_cons] at read
      obtain ⟨arg, first, read⟩ := bind_ok.mp read
      obtain ⟨later, others, read⟩ := bind_ok.mp read
      cases read
      exact Clean.cons (normalizedArg_clean first) (ih others)

theorem withoutProgramName_clean (clean : Clean args) : Clean (withoutProgramName args) := by
  cases args with
  | nil => exact clean
  | cons first rest =>
      rw [withoutProgramName]
      by_cases program : Text.eqIgnoreAsciiCase first "rocm" = true
      · rw [if_pos program]
        exact fun arg member => clean arg (List.mem_cons_of_mem _ member)
      · rw [if_neg program]
        exact clean

variable {call : ChatToolCall}

theorem normalizedChatRocmCommandArgs_clean (read : normalizedChatRocmCommandArgs call = .ok args) :
    Clean args := by
  unfold normalizedChatRocmCommandArgs at read
  obtain ⟨object, _, read⟩ := bind_ok.mp read
  obtain ⟨values, _, read⟩ := bind_ok.mp read
  obtain ⟨_, read⟩ := refuseIf_then_ok.mp read
  obtain ⟨texts, parsed, read⟩ := bind_ok.mp read
  obtain ⟨_, read⟩ := refuseIf_then_ok.mp read
  obtain ⟨_, read⟩ := refuseIf_then_ok.mp read
  cases read
  exact withoutProgramName_clean (mapM_normalizedArg_clean parsed)

section

variable (clean : Clean args)
include clean

theorem canonicalArgs_clean : Clean (canonicalArgs args) := by
  cases args with
  | nil => exact clean
  | cons first rest =>
      have later : Clean rest := fun arg member => clean arg (List.mem_cons_of_mem _ member)
      rw [canonicalArgs]
      by_cases short : Text.eqIgnoreAsciiCase first "comfy" = true
      · rw [if_pos short]
        exact Clean.cons (by decide) later
      · rw [if_neg short]
        exact clean

theorem ensureFlag_clean {flag : String} (flagClean : hasTerminalControlCharacter flag = false) :
    Clean (ensureFlag args flag) := by
  unfold ensureFlag
  by_cases present : args.contains flag = true
  · rw [if_pos present]
    exact clean
  · rw [if_neg present]
    exact clean.append (Clean.cons flagClean (Clean.of_all rfl))

theorem withoutYes_clean : Clean (withoutYes args) :=
  fun arg member => clean arg (List.mem_filter.mp member).1

theorem chatInstallSdkAction_clean : Clean (chatInstallSdkAction args).args := by
  unfold chatInstallSdkAction
  by_cases preview : (withoutYes args).contains "--dry-run" = true
  · dsimp only
    rw [if_pos preview]
    exact withoutYes_clean clean
  · dsimp only
    rw [if_neg preview]
    exact ensureFlag_clean (withoutYes_clean clean) (by decide)

theorem chatInstallDriverAction_clean (onlyReports : Bool) :
    Clean (chatInstallDriverAction args onlyReports).args := by
  cases onlyReports with
  | true => exact withoutYes_clean clean
  | false => exact ensureFlag_clean (withoutYes_clean clean) (by decide)

theorem sorted_clean {host : Host} {first : String} {second : Option String}
    {action : ChatRocmCommandAction} (sorted : Sorted host args first second action) :
    Clean action.args := by
  cases sorted with
  | readOnly listed => exact clean
  | approval pendingTitle commandTitle => exact clean
  | withYes pendingTitle commandTitle => exact ensureFlag_clean clean (by decide)
  | installSdk install sdk => exact chatInstallSdkAction_clean clean
  | installDriver install driver => exact chatInstallDriverAction_clean clean _

end

theorem chatRocmCommandAction_clean {host : Host} {action : ChatRocmCommandAction}
    (accepted : chatRocmCommandAction host call = .ok action) :
    Clean action.args := by
  obtain ⟨args, read, accepted⟩ := bind_ok.mp accepted
  obtain ⟨first, rest, canonical, _, sorted⟩ := chatRocmCommandActionFromArgs_ok accepted
  have clean := canonicalArgs_clean (normalizedChatRocmCommandArgs_clean read)
  rw [canonical] at clean
  exact sorted_clean clean (sortCommand_sorted sorted)

/-! ## The request -/

theorem requestedArgs_clean {host : Host} {object : JsonObject}
    (isObject : call.arguments.asObject = some object)
    (screened : rejectInEntries call.name object = .ok ()) (other : call.name ≠ "rocm_command")
    (requested : rocmChatToolRequestedArgs host call = some args) : Clean args := by
  unfold rocmChatToolRequestedArgs at requested
  rw [isObject, Option.bind_some] at requested
  rcases ite_cases requested with ⟨_, requested⟩ | ⟨_, requested⟩
  · cases requested
    exact installSdkArgs_clean screened
  rcases ite_cases requested with ⟨_, requested⟩ | ⟨_, requested⟩
  · obtain ⟨engine, found, rfl⟩ := Option.map_eq_some_iff.mp requested
    exact installEngineArgs_clean screened found
  rcases ite_cases requested with ⟨_, requested⟩ | ⟨_, requested⟩
  · obtain ⟨model, found, rfl⟩ := Option.map_eq_some_iff.mp requested
    exact launchServerArgs_clean screened found
  rcases ite_cases requested with ⟨_, requested⟩ | ⟨_, requested⟩
  · obtain ⟨serviceId, found, rfl⟩ := Option.map_eq_some_iff.mp requested
    have back : Clean [serviceId, "--yes"] :=
      Clean.cons (jsonString_clean screened found) (Clean.of_all (by decide))
    exact Clean.cons (by decide) (Clean.cons (by decide) back)
  rcases ite_cases requested with ⟨_, requested⟩ | ⟨_, requested⟩
  · obtain ⟨watcher, found, rfl⟩ := Option.map_eq_some_iff.mp requested
    have back : Clean [watcher] := Clean.cons (jsonString_clean screened found) (Clean.of_all rfl)
    exact (Clean.cons (by decide) (Clean.cons (by decide) back)).append
      (optionalJsonCliArg_clean screened (by decide))
  rcases ite_cases requested with ⟨_, requested⟩ | ⟨_, requested⟩
  · obtain ⟨watcher, found, rfl⟩ := Option.map_eq_some_iff.mp requested
    have back : Clean [watcher] := Clean.cons (jsonString_clean screened found) (Clean.of_all rfl)
    exact Clean.cons (by decide) (Clean.cons (by decide) back)
  rcases ite_cases requested with ⟨command, _⟩ | ⟨_, requested⟩
  · exact absurd command other
  · exact nomatch requested

/-- A validated call of another tool has an object that was screened. -/
theorem validateChatToolCall_screened {host : Host}
    (valid : validateChatToolCall host call = .ok ()) (other : call.name ≠ "rocm_command") :
    exists object, call.arguments.asObject = some object ∧
      rejectInEntries call.name object = .ok () := by
  unfold validateChatToolCall at valid
  obtain ⟨_, valid⟩ := refuseIf_then_ok.mp valid
  obtain ⟨object, isObject, valid⟩ := bind_ok.mp valid
  obtain ⟨⟨⟩, screened, _⟩ := bind_ok.mp valid
  rw [required_ok] at isObject
  unfold rejectControlCharactersInToolArguments at screened
  have exempt : chatToolsScreeningTheirOwnArguments.contains call.name = false := by
    simpa [chatToolsScreeningTheirOwnArguments] using other
  rw [exempt, if_neg Bool.false_ne_true] at screened
  refine ⟨object, isObject, ?_⟩
  cases arguments : call.arguments with
  | object entries =>
      rw [arguments] at isObject screened
      cases isObject
      rwa [rejectControlCharacters] at screened
  | _ =>
      rw [arguments] at isObject
      exact nomatch isObject

/-- What an approval card shows is the command line of its own arguments, and
the arguments are clean. -/
theorem approvalRequest_shows {host : Host} {explanation : Option String}
    {request : ChatToolApprovalRequest} (other : call.name ≠ "proposal_action")
    (granted : chatToolApprovalRequest host call explanation = .ok request) :
    request.displayCommand = some (formatStructuredToolCall "rocm" request.args) ∧
      Clean request.args := by
  unfold chatToolApprovalRequest at granted
  obtain ⟨⟨⟩, valid, granted⟩ := bind_ok.mp granted
  rcases ite_cases granted with ⟨_, granted⟩ | ⟨notCommand, granted⟩
  · unfold rocmCommandApproval at granted
    obtain ⟨action, accepted, granted⟩ := bind_ok.mp granted
    have clean := chatRocmCommandAction_clean accepted
    cases action with
    | readOnly args => exact nomatch granted
    | approval args pendingTitle commandTitle =>
        cases granted
        exact ⟨rfl, clean⟩
  rw [if_neg other] at granted
  obtain ⟨object, isObject, screened⟩ := validateChatToolCall_screened valid notCommand
  unfold toolApproval at granted
  obtain ⟨args, requested, granted⟩ := bind_ok.mp granted
  obtain ⟨titles, _, granted⟩ := bind_ok.mp granted
  rw [required_ok] at requested
  cases granted
  have shown : rocmChatToolRequestedCommand host call = some (formatStructuredToolCall "rocm" args) := by
    rw [rocmChatToolRequestedCommand, requested, Option.map_some]
  exact ⟨shown, requestedArgs_clean isObject screened notCommand requested⟩

/-- The card of every tool but the one without a command line shows nothing a
terminal acts on and reads back, word for word, as the command that runs.  The
same reading holds for every list of arguments without a NUL, and the
dashboard's copy of the quoter agrees. -/
theorem approval_card_shows_command :
    (forall (host : Host) (call : ChatToolCall) (explanation : Option String)
        (request : ChatToolApprovalRequest), call.name ≠ "proposal_action" ->
        chatToolApprovalRequest host call explanation = .ok request ->
        exists display, request.displayCommand = some display ∧
          hasTerminalControlCharacter display = false ∧
          shellWords display.toList = some (("rocm" :: request.args).map String.toList)) ∧
      (forall args : List String, (forall arg, arg ∈ args -> '\x00' ∉ arg.toList) ->
        shellWords (" ".intercalate ("rocm" :: args.map posixShellQuote)).toList =
          some (("rocm" :: args).map String.toList)) ∧
      (forall value : String, quoteDisplayArg value = posixShellQuote value) := by
  refine ⟨?_, ?_, ?_⟩
  · intro host call explanation request other granted
    obtain ⟨shown, clean⟩ := approvalRequest_shows other granted
    have noNul : forall arg, arg ∈ request.args -> '\x00' ∉ arg.toList :=
      fun arg member => not_nul_of_clean (clean arg member)
    exact ⟨_, shown, hasTerminalControlCharacter_formatStructuredToolCall (by decide) clean,
      shellWords_formatStructuredToolCall rocm_isCommandWord noNul⟩
  · intro args noNul
    exact shellWords_formatStructuredToolCall rocm_isCommandWord noNul
  · intro value
    rfl

/-- A call whose argument would be a second command if it were not quoted. -/
def installOdd : ChatToolCall :=
  ⟨none, "install_engine", .object [("engine", .string "it's; $(id)")]⟩

def installOddRequest : ChatToolApprovalRequest :=
  ⟨"Install engine", "Engine", ["engines", "install", "it's; $(id)"],
    some "rocm engines install 'it'\\''s; $(id)'", none⟩

theorem installOdd_shown :
    chatToolApprovalRequest linuxHost installOdd none = .ok installOddRequest ∧
      exists display, installOddRequest.displayCommand = some display ∧
        hasTerminalControlCharacter display = false ∧
        shellWords display.toList =
          some (("rocm" :: installOddRequest.args).map String.toList) := by
  have granted : chatToolApprovalRequest linuxHost installOdd none = .ok installOddRequest := by rfl
  have named : installOdd.name ≠ "proposal_action" := by decide
  exact ⟨granted, approval_card_shows_command.1 linuxHost installOdd none installOddRequest named
    granted⟩

end ToolPolicy
end RocmCli
