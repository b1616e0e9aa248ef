import RocmCli.ToolPolicy.Values
import RocmCli.Support.CommandLine

namespace RocmCli
namespace ToolPolicy

open CommandLine

/-!
# The command line of `rocm`

The commands, options and positional arguments the program declares.  Whether a
decimal number lies within its bounds is left open: nothing here depends on how
floating point numbers are rounded.
-/

/-! ## Value parsers -/

/-- How a decimal that was read compares with the bounds of its option. -/
structure DecimalRanges where
  temperature : String -> Bool
  unitInterval : String -> Bool
  gpuMemory : String -> Bool

def dropSign : List Char -> List Char
  | '+' :: rest | '-' :: rest => rest
  | text => text

def isExponent : List Char -> Bool
  | [] => true
  | 'e' :: digits | 'E' :: digits =>
      !(dropSign digits).isEmpty && (dropSign digits).all Char.isDigit
  | _ => false

/-- Digits with at most one dot among them, and an exponent. -/
def isUnsignedDecimal (text : List Char) : Bool :=
  let whole := text.takeWhile Char.isDigit
  match text.dropWhile Char.isDigit with
  | '.' :: rest =>
      (!whole.isEmpty || !(rest.takeWhile Char.isDigit).isEmpty) &&
        isExponent (rest.dropWhile Char.isDigit)
  | rest => !whole.isEmpty && isExponent rest

/-- The texts that read as a floating point number. -/
def isDecimal (value : String) : Bool :=
  let text := dropSign value.toList
  ["inf", "infinity", "nan"].contains (toAsciiLowercase (String.ofList text)) ||
    isUnsignedDecimal text

def parseGpuMemoryUtilization (ranges : DecimalRanges) (value : String) : Bool :=
  isDecimal (Text.trim value) && ranges.gpuMemory (Text.trim value)

def unsignedIn (least most : Nat) (value : String) : Bool :=
  (Text.parseU64 value).any fun number => least ≤ number && number ≤ most

/-- Signed 64-bit numbers. -/
def isSigned (value : String) : Bool :=
  match value.toList with
  | '-' :: digits =>
      digits.head? != some '+' &&
        (Text.parseU64 (String.ofList digits)).any fun number => number ≤ 2 ^ 63
  | _ => (Text.parseU64 value).any fun number => number < 2 ^ 63

/-- Ports are read as signed numbers, so that a negative zero is one. -/
def isU16 (value : String) : Bool :=
  unsignedIn 0 maxPort value || (isSigned value && value.toList.all fun character =>
    character == '-' || character == '0')

def isPath (value : String) : Bool := value != ""

def oneOfNames (names : List String) (value : String) : Bool := names.contains value

def supportedEngines : List String := ["lemonade", "vllm", "aim"]

def isProvider : String -> Bool := oneOfNames ["local", "anthropic", "openai"]

/-- The names of a device policy, the accepted aliases included. -/
def devicePolicyNames : List String :=
  ["gpu_required", "auto", "gpu", "gpu_preferred", "cpu_only", "cpu"]

/-! ## Shapes of options -/

def flag (long : String) : OptionSpec := { long := long, arity := .flag }

def text (long : String) : OptionSpec := { long := long, arity := .single }

def valued (long : String) (accepts : String -> Bool) : OptionSpec :=
  { long := long, arity := .single, accepts := accepts }

def against (option : OptionSpec) (others : List String) : OptionSpec :=
  { option with conflicts := others }

def needing (option : OptionSpec) (others : List String) : OptionSpec :=
  { option with needs := others }

def negative (option : OptionSpec) : OptionSpec := { option with hyphens := .numbers }

def positional : PositionalSpec := {}

def optionalPositional : PositionalSpec := { required := false }

def leaf (names : List String) (options : List OptionSpec) (positionals : List PositionalSpec) :
    CommandSpec :=
  { names := names, options := options, positionals := positionals }

/-- A command that only holds other commands. -/
def group (names : List String) (required : Bool) (subcommands : List CommandSpec) : CommandSpec :=
  { names := names, subcommands := subcommands, subcommandRequired := required }

/-- A runtime and an engine environment exclude each other. -/
def runtimeOrEnv : List OptionSpec :=
  [against (text "--runtime-id") ["--env-id"],
    against (text "--env-id") ["--runtime-id"]]

/-! ## The commands -/

def examineCommand : CommandSpec :=
  leaf ["examine"]
    [flag "--json",
      valued "--framework" (oneOfNames ["auto", "pytorch", "llama-cpp", "llamacpp", "skip"])] []

def diagnoseCommand : CommandSpec :=
  leaf ["diagnose"]
    [text "--symptom", valued "--top" (unsignedIn 0 Text.maxU64), flag "--json",
      { long := "--distro", arity := .optional }, text "--model",
      needing (valued "--context-size" (unsignedIn 1 16777216)) ["--model"],
      needing (valued "--kv-cache-type" (oneOfNames ["f16", "q8_0", "q4_0"])) ["--model"],
      against (flag "--report") ["--distro"],
      { long := "--send", arity := .flag, needs := ["--report"], conflicts := ["--json"] }] []

def fixCommand : CommandSpec :=
  leaf ["fix"]
    [flag "--yes", flag "--dry-run", valued "--device-index" isSigned, flag "--json"]
    [optionalPositional]

def versionCommand : CommandSpec := leaf ["version"] [] []

def completionsCommand : CommandSpec :=
  leaf ["completions"] []
    [{ accepts := oneOfNames ["bash", "elvish", "fish", "powershell", "zsh"] }]

def bootstrapCommand : CommandSpec := group ["bootstrap"] false [leaf ["setup"] [] []]

def setupCommand : CommandSpec :=
  group ["setup"] false [leaf ["status"] [] [], leaf ["reset"] [flag "--yes"] []]

def engineServeHttpCommand : CommandSpec :=
  leaf ["__engine-serve-http"]
    ([text "--host", valued "--port" isU16, text "--device-policy", text "--gpu"] ++ runtimeOrEnv ++
      [{ long := "--state-path", arity := .single, accepts := isPath, required := true },
        valued "--log-path" isPath, text "--engine-recipe-json"])
    [positional, positional, positional]

def sandboxRunCommand : CommandSpec :=
  leaf ["sandbox-run"] [text "--service-id", flag "--allow-native-fallback"]
    [{ accepts := oneOfNames ["list_servers", "restart_server", "stop_server"] }]

def mcpCallCommand : CommandSpec :=
  leaf ["mcp-call"]
    [text "--arguments-json",
      against (valued "--arguments-file" isPath) ["--arguments-json"],
      flag "--allow-mutation"] [positional]

/-- The sampling options of `chat` and `serve`. -/
def samplingOptions (ranges : DecimalRanges) : List OptionSpec :=
  [negative (valued "--temperature" fun value => isDecimal value && ranges.temperature value),
    negative (valued "--top-p" fun value => isDecimal value && ranges.unitInterval value),
    negative (valued "--max-tokens" (unsignedIn 1 (2 ^ 32 - 1)))]

def chatCommand (ranges : DecimalRanges) : CommandSpec :=
  leaf ["chat"]
    ([valued "--provider" isProvider, text "--model", text "--prompt"] ++ samplingOptions ranges ++
      [flag "--tools", flag "--chat-mock"]) []

def installSdkCommand : CommandSpec :=
  leaf ["sdk"]
    [text "--channel", valued "--format" (oneOfNames ["wheel", "tarball"]), valued "--prefix" isPath,
      against (text "--version") ["--build-date"],
      against (text "--build-date") ["--version"], text "--family", flag "--devel",
      flag "--dry-run", flag "--yes", flag "--approve-replacing-active-default"] []

def installDriverCommand : CommandSpec :=
  leaf ["driver"] [flag "--dkms", flag "--yes", flag "--dry-run", flag "--reconcile"] []

def installCommand : CommandSpec := group ["install"] true [installSdkCommand, installDriverCommand]

def updateCommand : CommandSpec :=
  leaf ["update"]
    [flag "--apply", text "--runtime", flag "--activate", flag "--dry-run", flag "--yes",
      against (flag "--json") ["--apply", "--dry-run"],
      { long := "--timeout-secs", arity := .single, accepts := unsignedIn 1 Text.maxU64,
        needs := ["--json"], conflicts := ["--apply"] }] []

def runtimesUninstallCommand : CommandSpec :=
  leaf ["uninstall", "remove"] [flag "--yes", flag "--dry-run"] [positional]

def runtimesCommand : CommandSpec :=
  group ["runtimes"] false
    [leaf ["list"] [] [],
      leaf ["activate"]
        [flag "--restart-services", needing (flag "--yes") ["--restart-services"]]
        [positional],
      leaf ["rollback"]
        [flag "--restart-services", needing (flag "--yes") ["--restart-services"]] [],
      runtimesUninstallCommand,
      leaf ["import"] [flag "--replace"] [{ accepts := isPath }],
      leaf ["adopt"]
        [{ long := "--python", arity := .single, accepts := isPath, required := true },
          valued "--root" isPath, text "--runtime-id", text "--runtime-key", text "--channel",
          flag "--replace"] []]

def storageCommand : CommandSpec :=
  group ["storage"] false
    [leaf ["report"] [flag "--json"] [],
      leaf ["remove-old-installs", "remove-old-runtimes"]
        [valued "--keep" (unsignedIn 0 Text.maxU64), flag "--dry-run", flag "--yes"] [],
      leaf ["remove-downloads", "remove-downloaded-files"] [flag "--dry-run", flag "--yes"] []]

/-- An engine by its name. -/
def enginePositional : PositionalSpec := { accepts := oneOfNames supportedEngines }

def enginesCommand : CommandSpec :=
  group ["engines"] true
    [leaf ["list"] [] [],
      leaf ["install"]
        [text "--runtime-id", text "--python-version", flag "--reinstall", flag "--yes"]
        [enginePositional],
      leaf ["shell"] (runtimeOrEnv ++ [text "--shell"]) [enginePositional]]

def modelCommand : CommandSpec := leaf ["model", "models"] [flag "--verbose"] []

def serveCommand (ranges : DecimalRanges) : CommandSpec :=
  leaf ["serve"]
    ([valued "--engine" (oneOfNames supportedEngines),
      valued "--device" (oneOfNames devicePolicyNames), text "--gpu"] ++ runtimeOrEnv ++
      [text "--host",
        { long := "--port", arity := .single, hyphens := .always,
          accepts := fun value => (parseServePort value).toBool },
        against (flag "--foreground") ["--managed"], flag "--managed",
        against (flag "--wait") ["--foreground", "--verbose"],
        against (flag "--verbose") ["--managed"], flag "--no-smoke-test",
        flag "--allow-public-bind", flag "--require-api-key", text "--tool-call-parser",
        { long := "--gpu-memory-utilization", arity := .single, hyphens := .always }] ++
      samplingOptions ranges ++
      [text "--api-key", { long := "--engine-env", arity := .repeated }])
    [positional]

def comfyuiStartCommand : CommandSpec :=
  leaf ["start"] [text "--host", valued "--port" isU16, flag "--no-open-browser", flag "--yes"] []

def comfyuiCommand : CommandSpec :=
  group ["comfyui", "comfy"] false
    [leaf ["status"] [] [],
      leaf ["models-path", "models"] [] [],
      leaf ["logs"] [valued "--lines" (unsignedIn 0 Text.maxU64)] [],
      leaf ["install"] [text "--runtime-id", flag "--reinstall", flag "--dry-run", flag "--yes"] [],
      comfyuiStartCommand,
      leaf ["stop"] [flag "--yes"] []]

def servicesCommand : CommandSpec :=
  group ["services"] false
    [leaf ["list"] [{ long := "--all", arity := .flag, short := some 'a' }, flag "--json"] [],
      leaf ["logs"] [{ long := "--follow", arity := .flag, short := some 'f' }] [positional],
      leaf ["stop"] [flag "--yes"] [positional],
      leaf ["restart"] [flag "--yes"] [positional],
      leaf ["remove"] [flag "--yes"] [positional],
      leaf ["prune"]
        [valued "--older-than-hours" (unsignedIn 0 Text.maxU64),
          against (flag "--any-age") ["--older-than-hours"], flag "--dry-run",
          flag "--yes"] []]

def remoteCommand : CommandSpec :=
  group ["remote"] true
    [leaf ["targets"] [text "--tag"] [],
      leaf ["serve"]
        [text "--engine", text "--gpu", valued "--ssh-port" isU16, valued "--remote-port" isU16,
          valued "--tailnet-port" isU16, text "--channel", flag "--install-rocm"]
        [positional, positional],
      leaf ["doctor"]
        [text "--symptom", valued "--top" (unsignedIn 0 Text.maxU64), valued "--ssh-port" isU16]
        [positional],
      leaf ["status"] [] [optionalPositional],
      leaf ["attach"] [] [positional],
      leaf ["stop"] [flag "--force"] [positional]]

def automationsCommand : CommandSpec :=
  group ["automations"] false
    [leaf ["list"] [] [],
      leaf ["enable"] [valued "--mode" (oneOfNames ["observe", "propose", "contained"])]
        [positional],
      leaf ["disable"] [] [positional]]

/-- A setting of one provider. -/
def providerSetting (name : String) : CommandSpec := leaf [name] [] [{ accepts := isProvider }]

def configCommand : CommandSpec :=
  group ["config"] true
    [leaf ["show"] [] [],
      leaf ["set-engine"] (runtimeOrEnv ++ [flag "--clear"]) [enginePositional],
      leaf ["set-default-engine"] [] [enginePositional],
      leaf ["clear-default-engine"] [] [],
      leaf ["set-default-runtime"] [] [positional],
      leaf ["clear-default-runtime"] [] [],
      leaf ["set-telemetry"] [] [{ accepts := oneOfNames ["local", "off"] }],
      leaf ["set-permissions"] [] [{ accepts := oneOfNames ["full-access", "ask"] }],
      providerSetting "set-planner-provider",
      leaf ["clear-planner-provider"] [] [],
      providerSetting "enable-provider",
      providerSetting "disable-provider",
      providerSetting "set-provider-key",
      providerSetting "clear-provider-key"]

def logsCommand : CommandSpec :=
  leaf ["logs"]
    [text "--service",
      { long := "--follow", arity := .flag, short := some 'f', needs := ["--service"] },
      { long := "--search", arity := .several }]
    [{ required := false, many := true }]

def daemonCommand : CommandSpec := leaf ["daemon"] [flag "--status"] []

def dashCommand : CommandSpec :=
  leaf ["dash"]
    [valued "--replay" isPath, against (flag "--demo") ["--replay"], flag "--chat-mock"] []

/-- Numbers with commas between them. -/
def isConcurrency (value : String) : Bool :=
  (value.toList.splitOn ',').all fun part => unsignedIn 1 128 (String.ofList part)

def benchCommand : CommandSpec :=
  group ["bench"] true
    [leaf ["load"]
      [{ long := "--endpoint", arity := .single, required := true }, text "--model",
        { long := "--concurrency", arity := .repeated, accepts := isConcurrency },
        valued "--isl" (unsignedIn 1 32768), valued "--osl" (unsignedIn 1 32768),
        valued "--requests" (unsignedIn 1 10000), valued "--out" isPath, flag "--auto-ramp"] []]

def uninstallCommand : CommandSpec :=
  leaf ["uninstall"]
    [flag "--yes", flag "--dry-run", flag "--keep-binaries", flag "--keep-config",
      flag "--keep-data", flag "--keep-cache", flag "--force-dev-binaries"] []

/-- The whole command line.  Asking for help or for the version does not parse
as a command. -/
def cli (ranges : DecimalRanges) : CommandSpec :=
  group ["rocm"] false
    [examineCommand, diagnoseCommand, fixCommand, versionCommand, completionsCommand,
      bootstrapCommand, setupCommand, engineServeHttpCommand,
      leaf ["__engine-stdio"] [] [positional], leaf ["status"] [] [],
      leaf ["bridge-snapshot"] [flag "--pretty"] [], sandboxRunCommand, mcpCallCommand,
      chatCommand ranges, installCommand, updateCommand, runtimesCommand, storageCommand,
      enginesCommand, modelCommand, serveCommand ranges, comfyuiCommand, servicesCommand,
      remoteCommand, automationsCommand, configCommand, logsCommand, daemonCommand, dashCommand,
      benchCommand, uninstallCommand]

/-! ## What was asked for -/

/-- The names of the commands, without the program. -/
def commandPath (levels : List Level) : List String :=
  levels.tail.map fun level => level.command.name

def isSet (levels : List Level) (long : String) : Bool :=
  levels.getLast?.any fun level => level.isSet long

def valueOf (levels : List Level) (long : String) : Option String :=
  levels.getLast?.bind fun level => level.value long

/-- The commands an argument list stands for, if the program accepts it. -/
def parseRocm (ranges : DecimalRanges) (args : List String) : Option (List Level) :=
  parse (cli ranges) args

end ToolPolicy
end RocmCli
