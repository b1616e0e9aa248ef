import RocmCli.ToolPolicy.Commands
import RocmCli.Support.Json

namespace RocmCli
namespace ToolPolicy

/-!
# Tool calls of the assistant

What a model may ask for, the argument list it stands for, and the request that
the operator approves.
-/

/-! ## Calls -/

abbrev JsonObject := List (String × Json)

/-- A string that is more than white space. -/
def jsonString (object : JsonObject) (key : String) : Option String :=
  ((object.lookup key).bind Json.asStr).filter fun value => Text.trim value != ""

structure ChatToolCall where
  id : Option String
  name : String
  arguments : Json

/-! ## Screening -/

def controlCharacterRefusal (tool : String) : String :=
  s!"ROCm tool `{tool}` argument contains a control character; it would rewrite what the " ++
    "operator reads"

mutual

def rejectControlCharacters (tool : String) : Json -> Except ErrorChain Unit
  | .string value => refuseIf (hasTerminalControlCharacter value) (controlCharacterRefusal tool)
  | .array values => rejectInValues tool values
  | .object entries => rejectInEntries tool entries
  | .null | .bool _ | .number _ => .ok ()

def rejectInValues (tool : String) : List Json -> Except ErrorChain Unit
  | [] => .ok ()
  | value :: values => do
      rejectControlCharacters tool value
      rejectInValues tool values

def rejectInEntries (tool : String) : List (String × Json) -> Except ErrorChain Unit
  | [] => .ok ()
  | (_, value) :: entries => do
      rejectControlCharacters tool value
      rejectInEntries tool entries

end

def chatToolsScreeningTheirOwnArguments : List String := ["rocm_command"]

def rejectControlCharactersInToolArguments (tool : String) (arguments : Json) :
    Except ErrorChain Unit :=
  if chatToolsScreeningTheirOwnArguments.contains tool then .ok ()
  else rejectControlCharacters tool arguments

/-! ## The command tool -/

def normalizedArg (value : Json) : Except ErrorChain String := do
  let text ← required "rocm_command `args` entries must be non-empty strings"
    ((value.asStr.map Text.trim).filter fun text => text != "")
  refuseIf (hasTerminalControlCharacter text)
    "rocm_command arguments must not contain control characters"
  refuseIf (512 < text.utf8ByteSize) "rocm_command argument is too long"
  .ok text

def withoutProgramName : List String -> List String
  | first :: rest => if Text.eqIgnoreAsciiCase first "rocm" then rest else first :: rest
  | [] => []

def normalizedChatRocmCommandArgs (call : ChatToolCall) : Except ErrorChain (List String) := do
  let object ← required "rocm_command arguments must be a JSON object" call.arguments.asObject
  let values ← required "rocm_command requires `args`" ((object.lookup "args").bind Json.asArray)
  refuseIf (values.isEmpty || 64 < values.length) "rocm_command `args` must contain 1 to 64 strings"
  let args ← values.mapM normalizedArg
  let args := withoutProgramName args
  refuseIf args.isEmpty "rocm_command args should omit the leading `rocm` program name"
  refuseIf ((object.lookup "reason").any fun reason => reason.asStr.isNone)
    "rocm_command `reason` must be a string when present"
  .ok args

def chatRocmCommandAction (host : Host) (call : ChatToolCall) :
    Except ErrorChain ChatRocmCommandAction := do
  let args ← normalizedChatRocmCommandArgs call
  chatRocmCommandActionFromArgs host args

/-! ## Checks of the other tools -/

def validateInstallSdkToolCall (host : Host) (object : JsonObject) : Except ErrorChain Unit := do
  let channel := (jsonString object "channel").getD "release"
  refuseIf (! ["release", "nightly"].contains channel)
    s!"local assistant requested unsupported TheRock channel `{channel}`"
  let format := (jsonString object "format").getD "wheel"
  refuseIf (! ["wheel", "tarball"].contains format)
    s!"local assistant requested unsupported TheRock install format `{format}`"
  refuseIf (host.isWindows && format != "wheel")
    s!"local assistant cannot request `{format}` installs on Windows; use wheel"
  let version := jsonString object "version"
  let buildDate := jsonString object "build_date"
  refuseIf (version.isSome && buildDate.isSome)
    "local assistant cannot request both `version` and `build_date`"
  refuseIf (format != "wheel" && (version.isSome || buildDate.isSome))
    "local assistant can only request specific TheRock wheel versions for wheel installs"
  discard (readOptional RuntimeVersionSelector.ofVersion version)
  discard (readOptional RuntimeVersionSelector.ofBuildDate buildDate)
  let folder ← required ("local assistant must ask the user for a ROCm/TheRock install folder " ++
    "before requesting install_sdk") (jsonString object "prefix")
  refuseIf (chatInstallPrefixIsSystem host folder)
    s!"local assistant cannot request system install folder `{folder}`"

/-- An absent port and a null one are not supplied. -/
def launchPortArgument : Option Json -> Except String (Option Nat)
  | none => .ok none
  | some value =>
      if value.isNull then .ok none
      else
        match value.asU64 with
        | none => .error "must be an integer"
        | some port =>
            if 1 ≤ port && port ≤ maxPort then .ok (some port)
            else .error "must be between 1 and 65535"

/-- Two letters of a text, anywhere. -/
def containsText (part : List Char) : List Char -> Bool
  | [] => part.isEmpty
  | character :: rest => part.isPrefixOf (character :: rest) || containsText part rest

def validateLaunchServerToolCall (object : JsonObject) : Except ErrorChain Unit := do
  refuseIf (((object.lookup "allow_public_bind").bind Json.asBool).getD false)
    "local assistant cannot request public network binding"
  let host := (jsonString object "host").getD defaultLocalHost
  refuseIf (!isLoopbackHost host) s!"local assistant cannot request non-local host `{host}`"
  let port ← (launchPortArgument (object.lookup "port")).mapError fun reason =>
    ErrorChain.ofMessage s!"ROCm tool `launch_server` argument `port` {reason}"
  refuseIf (port.isNone && !isCanonicalLoopbackHost host)
    (s!"local assistant must supply an explicit `port` for host `{host}`; automatic port " ++
      s!"selection is only supported on the default host {defaultLocalHost}")
  refuseIf (((object.lookup "device").bind Json.asStr).any fun device =>
      containsText "cpu".toList (toAsciiLowercase device).toList)
    "local assistant cannot request CPU execution; ROCm GPU execution is required"

def validateOptionalChatInteger (tool : String) (object : JsonObject) (key : String)
    (least most : Nat) : Except ErrorChain Unit :=
  match object.lookup key with
  | none => .ok ()
  | some value => do
      let number ← required s!"ROCm tool `{tool}` argument `{key}` must be an integer" value.asU64
      refuseIf (number < least || most < number)
        s!"ROCm tool `{tool}` argument `{key}` must be between {least} and {most}"

def validateServiceToolCall (tool : String) (object : JsonObject) : Except ErrorChain Unit := do
  let serviceId ← required "service tool requires `service_id`" (jsonString object "service_id")
  validateServiceId serviceId
  if tool = "service_logs" then validateOptionalChatInteger tool object "lines" 1 500

def validateWatcherToolCall (object : JsonObject) (allowMode : Bool) : Except ErrorChain Unit := do
  let watcher ← required "watcher tool requires `watcher`" (jsonString object "watcher")
  refuseIf (128 < watcher.utf8ByteSize) "watcher id too long"
  refuseIf (!builtinWatchers.contains watcher)
    s!"local assistant requested unknown watcher `{watcher}`"
  match jsonString object "mode" with
  | none => .ok ()
  | some mode => do
      refuseIf (!allowMode) "local assistant cannot set `mode` when disabling a watcher"
      refuseIf (! ["observe", "propose", "contained"].contains mode)
        s!"local assistant requested unsupported watcher mode `{mode}`"

def validatePortStatusToolCall (object : JsonObject) : Except ErrorChain Unit := do
  let host := (jsonString object "host").getD defaultLocalHost
  refuseIf (!isLoopbackHost host) s!"local assistant cannot inspect non-local host `{host}`"
  let port ← required "ROCm tool `port_status` requires integer `port`"
    ((object.lookup "port").bind Json.asU64)
  refuseIf (!(1 ≤ port && port ≤ maxPort))
    "ROCm tool `port_status` argument `port` must be between 1 and 65535"

def validateRequiredChatString (tool : String) (object : JsonObject) (key : String) :
    Except ErrorChain Unit :=
  discard (required s!"ROCm tool `{tool}` requires non-empty `{key}`" (jsonString object key))

def validateProposalActionToolCall (object : JsonObject) : Except ErrorChain Unit := do
  let proposalId ← required "proposal_action requires non-empty `proposal_id`"
    (jsonString object "proposal_id")
  refuseIf (128 < proposalId.utf8ByteSize) "proposal_id too long"
  let action ← required "proposal_action requires non-empty `action`" (jsonString object "action")
  refuseIf (! ["show", "approve", "reject"].contains action)
    "proposal_action `action` must be one of show, approve, reject"

/-- The tools a model may name. -/
def chatTools : List String :=
  ["examine", "doctor", "bridge_snapshot", "gpu_snapshot", "engines", "services", "service_logs",
    "automations", "natural_language_plan", "path_exists", "port_status", "rocm_command",
    "update_check", "install_sdk_dry_run", "install_sdk", "install_engine", "launch_server",
    "stop_server", "watcher_enable", "watcher_disable", "proposal_action"]

def validateToolArguments (host : Host) (call : ChatToolCall) (object : JsonObject) :
    Except ErrorChain Unit :=
  let tool := call.name
  if tool = "install_sdk" then validateInstallSdkToolCall host object
  else if tool = "install_engine" then validateRequiredChatString tool object "engine"
  else if tool = "launch_server" then validateLaunchServerToolCall object
  else if tool = "service_logs" || tool = "stop_server" then validateServiceToolCall tool object
  else if tool = "automations" then validateOptionalChatInteger tool object "event_limit" 1 64
  else if tool = "natural_language_plan" then validateRequiredChatString tool object "request"
  else if tool = "path_exists" then validateRequiredChatString tool object "path"
  else if tool = "port_status" then validatePortStatusToolCall object
  else if tool = "rocm_command" then discard (chatRocmCommandAction host call)
  else if tool = "watcher_enable" then validateWatcherToolCall object true
  else if tool = "watcher_disable" then validateWatcherToolCall object false
  else if tool = "proposal_action" then validateProposalActionToolCall object
  else .ok ()

def validateChatToolCall (host : Host) (call : ChatToolCall) : Except ErrorChain Unit := do
  let tool := call.name
  refuseIf (hasTerminalControlCharacter tool)
    "local assistant requested a ROCm tool whose name contains a control character"
  let object ← required s!"ROCm tool `{tool}` arguments must be a JSON object"
    call.arguments.asObject
  rejectControlCharactersInToolArguments tool call.arguments
  refuseIf (!chatTools.contains tool) s!"local assistant requested unsupported ROCm tool `{tool}`"
  validateToolArguments host call object

/-! ## The argument list of a call -/

def optionalJsonCliArg (object : JsonObject) (flag key : String) : List String :=
  match jsonString object key with
  | some value => [flag, value]
  | none => []

def installSdkArgs (object : JsonObject) : List String :=
  ["install", "sdk", "--channel", (jsonString object "channel").getD "release", "--format",
    (jsonString object "format").getD "wheel", "--approve-replacing-active-default"] ++
    optionalJsonCliArg object "--prefix" "prefix" ++
    optionalJsonCliArg object "--version" "version" ++
    optionalJsonCliArg object "--build-date" "build_date"

def installEngineArgs (object : JsonObject) (engine : String) : List String :=
  ["engines", "install", engine] ++
    optionalJsonCliArg object "--runtime-id" "runtime_id" ++
    optionalJsonCliArg object "--python-version" "python_version" ++
    (if ((object.lookup "reinstall").bind Json.asBool).getD false then ["--reinstall"] else [])

def launchServerArgs (object : JsonObject) (model : String) : List String :=
  ["serve", model, "--managed"] ++
    optionalJsonCliArg object "--engine" "engine" ++
    optionalJsonCliArg object "--device" "device" ++
    optionalJsonCliArg object "--runtime-id" "runtime_id" ++
    optionalJsonCliArg object "--env-id" "env_id" ++
    optionalJsonCliArg object "--host" "host" ++
    (match (object.lookup "port").bind Json.asU64 with
    | some port => ["--port", toString port]
    | none => [])

def rocmChatToolRequestedArgs (host : Host) (call : ChatToolCall) : Option (List String) :=
  call.arguments.asObject.bind fun object =>
    if call.name = "install_sdk" then some (installSdkArgs object)
    else if call.name = "install_engine" then
      (jsonString object "engine").map (installEngineArgs object)
    else if call.name = "launch_server" then
      (jsonString object "model").map (launchServerArgs object)
    else if call.name = "stop_server" then
      (jsonString object "service_id").map fun serviceId => ["services", "stop", serviceId, "--yes"]
    else if call.name = "watcher_enable" then
      (jsonString object "watcher").map fun watcher =>
        ["automations", "enable", watcher] ++ optionalJsonCliArg object "--mode" "mode"
    else if call.name = "watcher_disable" then
      (jsonString object "watcher").map fun watcher => ["automations", "disable", watcher]
    else if call.name = "rocm_command" then
      (chatRocmCommandAction host call).toOption.map ChatRocmCommandAction.args
    else none

def rocmChatToolRequestedCommand (host : Host) (call : ChatToolCall) : Option String :=
  (rocmChatToolRequestedArgs host call).map (formatStructuredToolCall "rocm")

/-! ## The request for approval -/

structure ChatToolApprovalRequest where
  pendingTitle : String
  commandTitle : String
  args : List String
  displayCommand : Option String
  explanation : Option String
  deriving DecidableEq, Repr

/-- The assistant's words, when there are any. -/
def shownExplanation (explanation : Option String) : Option String :=
  (explanation.map Text.trim).filter fun text => text != ""

def rocmCommandApproval (host : Host) (call : ChatToolCall) (explanation : Option String) :
    Except ErrorChain ChatToolApprovalRequest := do
  let action ← chatRocmCommandAction host call
  match action with
  | .readOnly _ => bail "ROCm command tool is read-only and does not need approval"
  | .approval args pendingTitle commandTitle =>
      .ok ⟨pendingTitle, commandTitle, args, some (formatStructuredToolCall "rocm" args),
        shownExplanation explanation⟩

def proposalApproval (object : JsonObject) (explanation : Option String) :
    Except ErrorChain ChatToolApprovalRequest := do
  let proposalId ← required "proposal_action requires non-empty `proposal_id`"
    (jsonString object "proposal_id")
  let action ← required "proposal_action requires non-empty `action`" (jsonString object "action")
  let title ← required s!"proposal_action `{action}` does not require approval"
    ([("approve", "Approve proposal"), ("reject", "Reject proposal")].lookup action)
  .ok ⟨title, "Reviews", [], some s!"proposal {proposalId}", shownExplanation explanation⟩

/-- The titles of the tools that need approval. -/
def approvalTitles : List (String × String × String) :=
  [("install_sdk", "Install ROCm", "Install"),
    ("install_engine", "Install engine", "Engine"),
    ("launch_server", "Start local model server", "Serve"),
    ("stop_server", "Stop local model server", "Services"),
    ("watcher_enable", "Enable automation", "Automations"),
    ("watcher_disable", "Disable automation", "Automations")]

def toolApproval (host : Host) (call : ChatToolCall) (explanation : Option String) :
    Except ErrorChain ChatToolApprovalRequest := do
  let tool := call.name
  let args ← required s!"ROCm tool `{tool}` is missing required arguments"
    (rocmChatToolRequestedArgs host call)
  let titles ← required s!"ROCm tool `{tool}` is read-only or unsupported for approval"
    (approvalTitles.lookup tool)
  .ok ⟨titles.1, titles.2, args, rocmChatToolRequestedCommand host call,
    shownExplanation explanation⟩

def chatToolApprovalRequest (host : Host) (call : ChatToolCall) (explanation : Option String) :
    Except ErrorChain ChatToolApprovalRequest := do
  validateChatToolCall host call
  if call.name = "rocm_command" then rocmCommandApproval host call explanation
  else if call.name = "proposal_action" then do
    let object ← required "proposal_action arguments must be a JSON object" call.arguments.asObject
    proposalApproval object explanation
  else toolApproval host call explanation

end ToolPolicy
end RocmCli
