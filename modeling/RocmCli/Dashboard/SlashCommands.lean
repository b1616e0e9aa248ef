import RocmCli.Dashboard.AppState

namespace RocmCli
namespace Dashboard

open Text

/-!
# Slash commands

A line of the chat that begins with a slash is handled in the reducer.  It opens
a screen, raises one of the edges that the event loop drains, or leaves a turn;
only `/chat` with a prompt starts a turn of the agent, and only when none is in
flight.
-/

/-- The words of a text. -/
def splitWhitespace (text : List Char) : List String :=
  ((text.splitBy fun left right => isWhitespace left == isWhitespace right).filter
    fun run => !run.all isWhitespace).map String.ofList

/-- What follows the first white space of a text, trimmed. -/
def tailOf (text : List Char) : String :=
  trim (String.ofList ((text.dropWhile fun character => !isWhitespace character).drop 1))

section Commands

variable {Screen View Signal : Type} (around : Surroundings Screen View Signal)

def ChatProvider.parse (text : String) : Option ChatProvider :=
  match around.toLowercase (trim text) with
  | "local" => some .local
  | "openai" => some .openai
  | "anthropic" => some .anthropic
  | _ => none

namespace AppState

variable (state : AppState Screen View)

/-- Ask the executor to run a tool. -/
def raise (name : String) (args : List (String × Json)) (label : String) : AppState Screen View :=
  { state with slashTool := some ⟨name, .object args, label⟩ }

/-- Ask the executor to run a command of the CLI. -/
def raiseCommand (argv : List String) (label : String) : AppState Screen View :=
  state.raise "rocm_command" [("args", .array (argv.map .string))] label

/-- A command that needs a word. -/
def withWord (word : Option String) (usage : String) (run : String -> AppState Screen View) :
    AppState Screen View :=
  match word with
  | some word => run word
  | none => state.push (.error usage)

def slashServices : List String -> AppState Screen View
  | [] => state.raise "services" [] "services"
  | "stop" :: words =>
      state.withWord words.head? "usage: /services stop <id>" fun id =>
        state.raise "stop_server" [("service_id", .string id)] ("services stop " ++ id)
  | "restart" :: _ =>
      state.push (.error ("services restart via chat is not supported yet; use /services stop " ++
        "<id> then /serve <model>"))
  | other :: _ =>
      state.push (.error ("unknown /services action `" ++ other ++
        "` (try stop, or /services to list)"))

def slashUpdate (words : List String) : AppState Screen View :=
  if words.contains "--apply" then state.raiseCommand ["update", "--apply"] "update --apply"
  else state.raiseCommand ["update"] "update"

def slashComfyui (sub : Option String) : AppState Screen View :=
  match sub with
  | none => state.raiseCommand ["comfyui", "status"] "comfyui status"
  | some action =>
    if ["status", "logs", "install", "start", "stop"].contains action then
      state.raiseCommand ["comfyui", action] ("comfyui " ++ action)
    else
      state.push (.error ("unknown /comfyui action `" ++ action ++
        "` (try status, logs, install, start, stop)"))

def slashUninstall (flags : List String) : AppState Screen View :=
  if flags.contains "--apply" && flags.contains "--dry-run" then
    state.push (.error ("conflicting /uninstall flags: choose either --dry-run (safe) or --apply " ++
      "(real uninstall)"))
  else if flags.contains "--apply" then state.raiseCommand ["uninstall"] "uninstall"
  else state.raiseCommand ["uninstall", "--dry-run"] "uninstall --dry-run"

def slashSetup (sub : Option String) : AppState Screen View :=
  match sub with
  | none => state.raiseCommand ["setup", "status"] "setup status"
  | some "status" => state.raiseCommand ["setup", "status"] "setup status"
  | some "reset" => state.raiseCommand ["setup", "reset"] "setup reset"
  | some other =>
      state.push (.error ("unknown /setup action `" ++ other ++ "` (try status or reset)"))

def slashAutomations (words : List String) : AppState Screen View :=
  match words.head?.map around.toLowercase with
  | none => state.raiseCommand ["automations", "list"] "automations"
  | some "list" => state.raiseCommand ["automations", "list"] "automations"
  | some "enable" =>
      state.withWord words.tail.head?
        "usage: /automations enable <watcher> [--mode observe|propose|contained]" fun watcher =>
          let mode := match words.drop 2 with
            | "--mode" :: mode :: _ => some mode
            | _ => none
          state.raise "watcher_enable"
            (("watcher", .string watcher) :: mode.toList.map fun mode => ("mode", .string mode))
            ("automations enable " ++ watcher)
  | some "disable" =>
      state.withWord words.tail.head? "usage: /automations disable <watcher>" fun watcher =>
        state.raise "watcher_disable" [("watcher", .string watcher)]
          ("automations disable " ++ watcher)
  | some other =>
      state.push (.error ("unknown /automations action `" ++ other ++
        "` (try list, enable, disable)"))

def proposalAction (action id label : String) : AppState Screen View :=
  state.raise "proposal_action" [("proposal_id", .string id), ("action", .string action)]
    (label ++ " " ++ id)

def slashReviews : Option String -> AppState Screen View
  | none => state.raiseCommand ["automations", "list"] "reviews"
  | some id => state.proposalAction "show" id "reviews"

def slashEdit (word : Option String) : AppState Screen View :=
  state.withWord word "usage: /edit <proposal-id>" fun id =>
    (state.proposalAction "show" id "review").push (.agent (
      "Editing a proposal's content isn't supported; showing " ++ id ++ ". Use /approve " ++ id ++
        " or /reject " ++ id ++ "."))

def slashPermissions (sub : Option String) : AppState Screen View :=
  match sub with
  | none => state.raiseCommand ["config", "show"] "permissions"
  | some "status" => state.raiseCommand ["config", "show"] "permissions"
  | some "full-access" =>
      state.raiseCommand ["config", "set-permissions", "full_access"] "permissions full-access"
  | some "full_access" =>
      state.raiseCommand ["config", "set-permissions", "full_access"] "permissions full-access"
  | some "ask" => state.raiseCommand ["config", "set-permissions", "ask"] "permissions ask"
  | some other =>
      state.push (.error ("unknown /permissions action `" ++ other ++
        "` (try status, full-access, ask)"))

def slashPlan (request : String) : AppState Screen View :=
  if request = "" then
    state.push (.agent "usage: /plan <request> (e.g. /plan install rocm into /opt/rocm)")
  else { state with planRequest := some request }

def slashProvider (word : Option String) : AppState Screen View :=
  match word with
  | none =>
      state.push (.agent ("current provider: " ++ state.activeProvider.label ++
        " (usage: /provider [local|openai|anthropic])"))
  | some name =>
    match ChatProvider.parse around name with
    | some provider =>
        { state with
          activeProvider := provider
          providerSwitch := some ⟨state.activeProvider, provider⟩ }
    | none =>
        state.push (.error ("unknown provider `" ++ name ++
          "` (try local, openai, or anthropic)"))

def slashDetect (sub : Option String) : AppState Screen View :=
  match sub with
  | none => state.requestDetect
  | some sub =>
    if (sub = "accept" || sub = "save") && state.chatDetectOffer.isNone then
      state.push (.system ("no detected endpoint to act on yet — run `/detect` first to probe " ++
        "for a local engine"))
    else if sub = "accept" then state.acceptDetectOffer
    else if sub = "save" then state.saveDetectOffer
    else if sub = "dismiss" then state.dismissDetectOffer
    else
      state.push (.error ("unknown /detect action `" ++ sub ++
        "` (try accept, save, dismiss, or bare /detect to probe)"))

/-- Start a turn of the agent with a prompt. -/
def dispatch (prompt : String) : AppState Screen View :=
  { state.push (.user prompt) with chatSending := true, chatDispatch := true }

def slashChat (prompt : String) : AppState Screen View :=
  if prompt = "" then { state with activeTab := .chat, chatFocused := true }
  else if state.chatSending then state
  else state.dispatch prompt

def slashQuit (registry : ManagedRegistrySnapshot) : AppState Screen View :=
  let asked := state.requestQuit around registry
  { asked.1 with shouldQuit := asked.2 }

/-- What a command with its words does. -/
def slashCommand (registry : ManagedRegistrySnapshot) (rest : List Char) (command : String)
    (words : List String) : AppState Screen View :=
  let word := words.head?
  let sub := word.map around.toLowercase
  match command with
  | "home" => { state with activeTab := .home }
  | "gpu" => { state with activeTab := .observe }
  | "help" | "?" => { state with modal := .help }
  | "clear" => { state with chat := [] }
  | "quit" | "exit" => state.slashQuit around registry
  | "doctor" => state.openOverlay around .examineManager
  | "runtimes" => state.openOverlay around .runtimeManager
  | "config" => state.openOverlay around .configManager
  | "logs" => state.openOverlay around .logsView
  | "model" => state.raiseCommand ["model"] "model"
  | "daemon" => state.raiseCommand ["daemon", "status"] "daemon status"
  | "install" =>
      state.withWord word "usage: /install <prefix>  (install folder, e.g. /install ~/rocm)"
        fun folder =>
          state.raise "install_sdk"
            [("channel", .string "release"), ("format", .string "wheel"), ("prefix", .string folder)]
            ("install " ++ folder)
  | "engine" =>
      state.withWord word "usage: /engine <name> (e.g. /engine vllm)" fun engine =>
        state.raise "install_engine" [("engine", .string engine)] ("engine " ++ engine)
  | "serve" =>
      state.withWord word "usage: /serve <model> (e.g. /serve deepseek-r1)" fun model =>
        state.raise "launch_server" [("model", .string model), ("host", .string "127.0.0.1")]
          ("serve " ++ model)
  | "services" => state.slashServices words
  | "update" => state.slashUpdate words
  | "comfyui" | "comfy" => state.slashComfyui sub
  | "uninstall" => state.slashUninstall words
  | "setup" => state.slashSetup sub
  | "automations" => state.slashAutomations around words
  | "reviews" => state.slashReviews word
  | "approve" =>
      state.withWord word "usage: /approve <proposal-id>" fun id =>
        state.proposalAction "approve" id "approve"
  | "reject" =>
      state.withWord word "usage: /reject <proposal-id>" fun id =>
        state.proposalAction "reject" id "reject"
  | "edit" => state.slashEdit word
  | "permissions" => state.slashPermissions sub
  | "plan" => state.slashPlan (tailOf rest)
  | "provider" => state.slashProvider around word
  | "detect" => state.slashDetect sub
  | "chat" => state.slashChat (tailOf rest)
  | other => state.push (.error ("unknown command: /" ++ other ++ " (try /help)"))

/-- Handle a line, if it is a slash command. -/
def handleSlashCommand (registry : ManagedRegistrySnapshot) (text : String) :
    Option (AppState Screen View) :=
  match (trim text).toList with
  | '/' :: rest =>
      let words := splitWhitespace rest
      some (state.slashCommand around registry rest (around.toLowercase (words.headD ""))
        words.tail)
  | _ => none

def submitChat (registry : ManagedRegistrySnapshot) : AppState Screen View :=
  let text := trim state.chatInput
  if state.chatSending || text = "" then state
  else
    match state.handleSlashCommand around registry text with
    | some handled => { handled with chatInput := "" }
    | none => { state.dispatch text with chatInput := "" }

end AppState

end Commands

end Dashboard
end RocmCli
