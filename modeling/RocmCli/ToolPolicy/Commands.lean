import RocmCli.ToolPolicy.Values

namespace RocmCli
namespace ToolPolicy

open Text (stripPrefix)

/-!
# Which proposed commands run at once

The chat policy sorts a `rocm` argument list into a read-only command or one
that needs approval.  The daemon keeps its own list of the read-only ones.
-/

inductive ChatRocmCommandAction where
  | readOnly (args : List String)
  | approval (args : List String) (pendingTitle commandTitle : String)
  deriving DecidableEq, Repr

def ChatRocmCommandAction.args : ChatRocmCommandAction -> List String
  | readOnly args | approval args _ _ => args

/-! ## The rules on values -/

def canonicalizeChatRocmCommand (args : List String) : Except ErrorChain (List String) := do
  let args := match args with
    | first :: rest => (if Text.eqIgnoreAsciiCase first "comfy" then "comfyui" else first) :: rest
    | [] => []
  refuseIf (args.head?.any fun first => Text.eqIgnoreAsciiCase first "engine")
    "use `engines` for rocm engine commands"
  .ok args

def validateServeCommandSafety (args : List String) (actor : String) : Except ErrorChain Unit := do
  refuseIf (chatCliHasFlag "--allow-public-bind" args)
    s!"{actor} cannot request public network binding"
  refuseIf (serveArgsRequestCpuDevice args)
    s!"{actor} cannot request CPU execution; ROCm GPU execution is required"
  let host := (chatCliArgValue "--host" args).getD defaultLocalHost
  refuseIf (!isLoopbackHost host) s!"{actor} cannot request non-local host `{host}`"
  refuseIf (chatCliHasFlag "--foreground" args || !chatCliHasFlag "--managed" args)
    s!"{actor} must request managed serving with --managed"

/-- An optional value is read with its own parser. -/
def readOptional {R S : Type} (read : R -> Except ErrorChain S) :
    Option R -> Except ErrorChain (Option S)
  | none => .ok none
  | some value => (read value).map some

/-- The rules of `serve`: the same as for every proposer, and the rule on the
port. -/
def validateServe (args : List String) : Except ErrorChain Unit := do
  validateServeCommandSafety args "local assistant"
  let port ← readOptional parseServePort (chatCliArgValue "--port" args)
  validatePortRequest ((chatCliArgValue "--host" args).getD defaultLocalHost)
    (PortRequest.fromFlag port)

def validateComfyuiStart (args : List String) : Except ErrorChain Unit :=
  match chatCliArgValue "--host" args with
  | none => .ok ()
  | some host => refuseIf (!isLoopbackHost host)
      s!"local assistant cannot start ComfyUI on non-local host `{host}`"

def validateInstallSdk (host : Host) (args : List String) : Except ErrorChain Unit := do
  let format := chatCliArgValue "--format" args
  refuseIf (host.isWindows && format.any fun value => !Text.eqIgnoreAsciiCase value "wheel")
    "local assistant cannot request non-wheel ROCm installs on Windows"
  let version ← chatCliArgValueChecked "--version" args
  let buildDate ← chatCliArgValueChecked "--build-date" args
  refuseIf (version.isSome && buildDate.isSome)
    "local assistant cannot request both --version and --build-date"
  refuseIf ((version.isSome || buildDate.isSome) &&
      !Text.eqIgnoreAsciiCase (format.getD "wheel") "wheel")
    "local assistant can only request specific TheRock wheel versions for wheel installs"
  discard (readOptional RuntimeVersionSelector.ofVersion version)
  discard (readOptional RuntimeVersionSelector.ofBuildDate buildDate)
  let found ← chatCliArgValueChecked "--prefix" args
  let folder ← required ("local assistant must ask the user for a ROCm/TheRock install folder " ++
    "before requesting `rocm install sdk`") found
  refuseIf (chatInstallPrefixIsSystem host folder)
    s!"local assistant cannot request system install folder `{folder}`"

/-- Whether the first words are these, in any case. -/
def startsWith (words args : List String) : Bool :=
  words.length ≤ args.length &&
    (words.zip args).all fun pair => Text.eqIgnoreAsciiCase pair.2 pair.1

def validateChatRocmCommandSafety (host : Host) (args : List String) : Except ErrorChain Unit := do
  if startsWith ["serve"] args then validateServe args
  if startsWith ["comfyui", "start"] args then validateComfyuiStart args
  if startsWith ["install", "sdk"] args then validateInstallSdk host args

/-! ## Sorting a command -/

/-- Whether an argument is a consent of its own, bare or with a value. -/
def isYes (arg : String) : Bool := arg == "--yes" || (stripPrefix "--yes=" arg).isSome

def withoutYes (args : List String) : List String := args.filter fun arg => !isYes arg

def chatInstallDriverAction (args : List String) (onlyReports : Bool) : ChatRocmCommandAction :=
  if onlyReports then .readOnly (withoutYes args)
  else .approval (ensureFlag (withoutYes args) "--yes") "Install driver" "Install"

/-- The consent to replace the active runtime is withheld from a preview. -/
def chatInstallSdkAction (args : List String) : ChatRocmCommandAction :=
  let args := withoutYes args
  let args := if args.contains "--dry-run" then args
    else ensureFlag args "--approve-replacing-active-default"
  .approval args "Install ROCm" "Install"

/-- A command that needs approval and takes `--yes`. -/
def withYes (args : List String) (pendingTitle commandTitle : String) : ChatRocmCommandAction :=
  .approval (ensureFlag args "--yes") pendingTitle commandTitle

/-- Whether the second word is absent or one of these. -/
def absentOr (words : List String) (second : Option String) : Bool := second.all words.contains

def oneOf (words : List String) (second : Option String) : Bool := second.any words.contains

def readOnly (args : List String) : Except ErrorChain ChatRocmCommandAction := .ok (.readOnly args)

def unsupported (first : String) : Except ErrorChain ChatRocmCommandAction :=
  bail s!"local assistant cannot use unsupported rocm command `{first}`"

/-- What only reports unless a change is asked for. -/
def sortUpdate (args : List String) : Except ErrorChain ChatRocmCommandAction :=
  if args.contains "--apply" then .ok (withYes args "Apply ROCm update" "Update")
  else readOnly args

def sortRuntimes (args : List String) (second : Option String) :
    Except ErrorChain ChatRocmCommandAction :=
  if absentOr ["list"] second then readOnly args
  else if oneOf ["uninstall", "remove"] second then
    if args.contains "--dry-run" then readOnly args
    else .ok (withYes args "Remove ROCm install" "Runtimes")
  else .ok (.approval args "Change ROCm runtime" "Runtimes")

def sortEngines (args : List String) (second : Option String) :
    Except ErrorChain ChatRocmCommandAction :=
  if oneOf ["list"] second then readOnly args
  else if oneOf ["install"] second then .ok (.approval args "Install engine" "Engine")
  else unsupported "engines"

def sortServices (args : List String) (second : Option String) :
    Except ErrorChain ChatRocmCommandAction :=
  if absentOr ["list", "logs"] second then readOnly args
  else if oneOf ["stop", "restart"] second then
    .ok (withYes args "Change local model server" "Services")
  else unsupported "services"

def sortAutomations (args : List String) (second : Option String) :
    Except ErrorChain ChatRocmCommandAction :=
  if absentOr ["list"] second then readOnly args
  else if oneOf ["enable", "disable"] second then
    .ok (.approval args "Change automation" "Automations")
  else unsupported "automations"

def sortConfig (args : List String) (second : Option String) :
    Except ErrorChain ChatRocmCommandAction :=
  if oneOf ["show"] second then readOnly args
  else .ok (.approval args "Change settings" "Config")

def sortComfyui (args : List String) (second : Option String) :
    Except ErrorChain ChatRocmCommandAction :=
  if absentOr ["status", "logs", "log"] second then readOnly args
  else if oneOf ["install"] second then .ok (withYes args "Install ComfyUI" "ComfyUI")
  else if oneOf ["start"] second then .ok (withYes args "Start ComfyUI" "ComfyUI")
  else if oneOf ["stop"] second then .ok (withYes args "Stop ComfyUI" "ComfyUI")
  else unsupported "comfyui"

def sortInstall (host : Host) (args : List String) (second : Option String) :
    Except ErrorChain ChatRocmCommandAction :=
  if oneOf ["sdk"] second then .ok (chatInstallSdkAction args)
  else if oneOf ["driver"] second then
    .ok (chatInstallDriverAction args host.installDriverOnlyReports)
  else unsupported "install"

def sortUninstall (args : List String) : Except ErrorChain ChatRocmCommandAction :=
  if args.contains "--dry-run" then readOnly args
  else .ok (withYes args "Uninstall ROCm CLI" "Uninstall")

def sortStorage (args : List String) (second : Option String) :
    Except ErrorChain ChatRocmCommandAction :=
  if absentOr ["report"] second then readOnly args
  else .ok (withYes args "Free up disk space" "Storage")

def sortSetup (args : List String) (second : Option String) :
    Except ErrorChain ChatRocmCommandAction :=
  if absentOr ["status"] second then readOnly args
  else if oneOf ["reset"] second then .ok (withYes args "Reset first-time setup" "Setup")
  else unsupported "setup"

def sortRemote (args : List String) (second : Option String) :
    Except ErrorChain ChatRocmCommandAction :=
  let verb := second.getD ""
  if oneOf ["targets", "doctor", "status"] second then readOnly args
  else if oneOf ["serve", "attach", "stop"] second then
    .ok (.approval args s!"Remote {verb}" "Remote")
  else unsupported "remote"

/-- The commands that are read-only whatever follows them. -/
def reportingCommands : List String :=
  ["examine", "version", "model", "models", "daemon", "logs"]

/-- The arms on the two first words, in lower case. -/
def sortCommand (host : Host) (args : List String) (first : String) (second : Option String) :
    Except ErrorChain ChatRocmCommandAction :=
  if reportingCommands.contains first then readOnly args
  else if first = "update" then sortUpdate args
  else if first = "runtimes" then sortRuntimes args second
  else if first = "engines" then sortEngines args second
  else if first = "services" then sortServices args second
  else if first = "automations" then sortAutomations args second
  else if first = "config" then sortConfig args second
  else if first = "comfyui" then sortComfyui args second
  else if first = "install" then sortInstall host args second
  else if first = "serve" then .ok (.approval args "Start local model server" "Serve")
  else if first = "uninstall" then sortUninstall args
  else if first = "storage" then sortStorage args second
  else if first = "setup" then sortSetup args second
  else if first = "remote" then sortRemote args second
  else unsupported first

def chatRocmCommandActionFromArgs (host : Host) (args : List String) :
    Except ErrorChain ChatRocmCommandAction := do
  let args ← canonicalizeChatRocmCommand args
  validateChatRocmCommandSafety host args
  match args.head? with
  | none => bail "rocm_command requires at least one argument"
  | some first => sortCommand host args (toAsciiLowercase first) (args[1]?.map toAsciiLowercase)

/-- The read-only commands of the daemon's tool. -/
def daemonReadOnly (args : List String) (first : String) (second : Option String) : Bool :=
  if reportingCommands.contains first then true
  else if first = "update" then !args.contains "--apply"
  else if first = "runtimes" then
    absentOr ["list"] second ||
      (oneOf ["uninstall", "remove"] second && args.contains "--dry-run")
  else if first = "engines" then oneOf ["list"] second
  else if first = "services" then absentOr ["list", "logs"] second
  else if first = "automations" then absentOr ["list"] second
  else if first = "config" then oneOf ["show"] second
  else if first = "comfyui" then absentOr ["status", "logs", "log"] second
  else if first = "uninstall" then args.contains "--dry-run"
  else if first = "storage" then absentOr ["report"] second
  else if first = "setup" then absentOr ["status"] second
  else if first = "remote" then oneOf ["targets", "doctor", "status"] second
  else false

def ensureRocmCommandIsReadOnly (args : List String) : Except ErrorChain Unit :=
  let readOnly := args.head?.any fun first =>
    daemonReadOnly args (toAsciiLowercase first) (args[1]?.map toAsciiLowercase)
  refuseIf (!readOnly)
    ("rocm_command changes local ROCm state or is unsupported here; " ++
      "request it through the ROCm CLI approval UI instead")

/-! ## What sorting does to the arguments -/

/-- An action and what it makes of the arguments. -/
inductive Sorted (host : Host) (args : List String) (first : String) (second : Option String) :
    ChatRocmCommandAction -> Prop
  | readOnly (listed : daemonReadOnly args first second = true) :
      Sorted host args first second (.readOnly args)
  | approval (pendingTitle commandTitle : String) :
      Sorted host args first second (.approval args pendingTitle commandTitle)
  | withYes (pendingTitle commandTitle : String) :
      Sorted host args first second (withYes args pendingTitle commandTitle)
  | installSdk (install : first = "install") (sdk : second = some "sdk") :
      Sorted host args first second (chatInstallSdkAction args)
  | installDriver (install : first = "install") (driver : second = some "driver") :
      Sorted host args first second (chatInstallDriverAction args host.installDriverOnlyReports)

theorem oneOf_single {word : String} {second : Option String} :
    oneOf [word] second = true ↔ second = some word := by
  cases second with
  | none => simp [oneOf]
  | some other => simp [oneOf]

section Arms

variable {host : Host} {args : List String} {second : Option String}
  {action : ChatRocmCommandAction}

/-- The daemon lists what an arm lets run at once. -/
theorem sorted_readOnly {first : String} (listed : daemonReadOnly args first second = true)
    (sorted : readOnly args = .ok action) : Sorted host args first second action := by
  cases sorted
  exact .readOnly listed

theorem ite_cases {R : Type u} {condition : Prop} [Decidable condition] {yes no result : R}
    (chosen : (if condition then yes else no) = result) :
    condition ∧ yes = result ∨ ¬ condition ∧ no = result := by
  by_cases holds : condition
  · exact Or.inl ⟨holds, (if_pos holds).symm.trans chosen⟩
  · exact Or.inr ⟨holds, (if_neg holds).symm.trans chosen⟩

omit host in
theorem unsupported_ne_ok {first : String} {P : Prop} (sorted : unsupported first = .ok action) : P :=
  nomatch sorted

theorem sorted_approval {first pendingTitle commandTitle : String}
    (sorted : (.ok (.approval args pendingTitle commandTitle) : Except ErrorChain _) = .ok action) :
    Sorted host args first second action := by
  cases sorted
  exact .approval _ _

theorem sorted_withYes {first pendingTitle commandTitle : String}
    (sorted : (.ok (withYes args pendingTitle commandTitle) : Except ErrorChain _) = .ok action) :
    Sorted host args first second action := by
  cases sorted
  exact .withYes _ _

theorem sortUpdate_sorted (sorted : sortUpdate args = .ok action) :
    Sorted host args "update" second action := by
  rcases ite_cases sorted with ⟨_, sorted⟩ | ⟨checks, sorted⟩
  · exact sorted_withYes sorted
  · refine sorted_readOnly ?_ sorted
    exact Bool.not_eq_true' _ |>.mpr (Bool.eq_false_iff.mpr checks)

theorem sortRuntimes_sorted (sorted : sortRuntimes args second = .ok action) :
    Sorted host args "runtimes" second action := by
  rcases ite_cases sorted with ⟨lists, sorted⟩ | ⟨_, sorted⟩
  · exact sorted_readOnly (Bool.or_eq_true_iff.mpr (Or.inl lists)) sorted
  rcases ite_cases sorted with ⟨removes, sorted⟩ | ⟨_, sorted⟩
  · rcases ite_cases sorted with ⟨previews, sorted⟩ | ⟨_, sorted⟩
    · have both : (oneOf ["uninstall", "remove"] second && args.contains "--dry-run") = true :=
        Bool.and_eq_true_iff.mpr ⟨removes, previews⟩
      exact sorted_readOnly (Bool.or_eq_true_iff.mpr (Or.inr both)) sorted
    · exact sorted_withYes sorted
  · exact sorted_approval sorted

theorem sortEngines_sorted (sorted : sortEngines args second = .ok action) :
    Sorted host args "engines" second action := by
  rcases ite_cases sorted with ⟨lists, sorted⟩ | ⟨_, sorted⟩
  · exact sorted_readOnly lists sorted
  rcases ite_cases sorted with ⟨_, sorted⟩ | ⟨_, sorted⟩
  · exact sorted_approval sorted
  · exact unsupported_ne_ok sorted

theorem sortServices_sorted (sorted : sortServices args second = .ok action) :
    Sorted host args "services" second action := by
  rcases ite_cases sorted with ⟨lists, sorted⟩ | ⟨_, sorted⟩
  · exact sorted_readOnly lists sorted
  rcases ite_cases sorted with ⟨_, sorted⟩ | ⟨_, sorted⟩
  · exact sorted_withYes sorted
  · exact unsupported_ne_ok sorted

theorem sortAutomations_sorted (sorted : sortAutomations args second = .ok action) :
    Sorted host args "automations" second action := by
  rcases ite_cases sorted with ⟨lists, sorted⟩ | ⟨_, sorted⟩
  · exact sorted_readOnly lists sorted
  rcases ite_cases sorted with ⟨_, sorted⟩ | ⟨_, sorted⟩
  · exact sorted_approval sorted
  · exact unsupported_ne_ok sorted

theorem sortConfig_sorted (sorted : sortConfig args second = .ok action) :
    Sorted host args "config" second action := by
  rcases ite_cases sorted with ⟨shows, sorted⟩ | ⟨_, sorted⟩
  · exact sorted_readOnly shows sorted
  · exact sorted_approval sorted

theorem sortComfyui_sorted (sorted : sortComfyui args second = .ok action) :
    Sorted host args "comfyui" second action := by
  rcases ite_cases sorted with ⟨reports, sorted⟩ | ⟨_, sorted⟩
  · exact sorted_readOnly reports sorted
  rcases ite_cases sorted with ⟨_, sorted⟩ | ⟨_, sorted⟩
  · exact sorted_withYes sorted
  rcases ite_cases sorted with ⟨_, sorted⟩ | ⟨_, sorted⟩
  · exact sorted_withYes sorted
  rcases ite_cases sorted with ⟨_, sorted⟩ | ⟨_, sorted⟩
  · exact sorted_withYes sorted
  · exact unsupported_ne_ok sorted

theorem sortInstall_sorted (sorted : sortInstall host args second = .ok action) :
    Sorted host args "install" second action := by
  rcases ite_cases sorted with ⟨sdk, sorted⟩ | ⟨_, sorted⟩
  · cases sorted
    exact .installSdk rfl (oneOf_single.mp sdk)
  rcases ite_cases sorted with ⟨driver, sorted⟩ | ⟨_, sorted⟩
  · cases sorted
    exact .installDriver rfl (oneOf_single.mp driver)
  · exact unsupported_ne_ok sorted

theorem sortUninstall_sorted (sorted : sortUninstall args = .ok action) :
    Sorted host args "uninstall" second action := by
  rcases ite_cases sorted with ⟨previews, sorted⟩ | ⟨_, sorted⟩
  · exact sorted_readOnly previews sorted
  · exact sorted_withYes sorted

theorem sortStorage_sorted (sorted : sortStorage args second = .ok action) :
    Sorted host args "storage" second action := by
  rcases ite_cases sorted with ⟨reports, sorted⟩ | ⟨_, sorted⟩
  · exact sorted_readOnly reports sorted
  · exact sorted_withYes sorted

theorem sortSetup_sorted (sorted : sortSetup args second = .ok action) :
    Sorted host args "setup" second action := by
  rcases ite_cases sorted with ⟨reports, sorted⟩ | ⟨_, sorted⟩
  · exact sorted_readOnly reports sorted
  rcases ite_cases sorted with ⟨_, sorted⟩ | ⟨_, sorted⟩
  · exact sorted_withYes sorted
  · exact unsupported_ne_ok sorted

theorem sortRemote_sorted (sorted : sortRemote args second = .ok action) :
    Sorted host args "remote" second action := by
  rcases ite_cases sorted with ⟨reports, sorted⟩ | ⟨_, sorted⟩
  · exact sorted_readOnly reports sorted
  rcases ite_cases sorted with ⟨_, sorted⟩ | ⟨_, sorted⟩
  · exact sorted_approval sorted
  · exact unsupported_ne_ok sorted

theorem sortCommand_sorted {first : String}
    (sorted : sortCommand host args first second = .ok action) :
    Sorted host args first second action := by
  rcases ite_cases sorted with ⟨reports, sorted⟩ | ⟨_, sorted⟩
  · refine sorted_readOnly ?_ sorted
    rw [daemonReadOnly, if_pos reports]
  rcases ite_cases sorted with ⟨rfl, sorted⟩ | ⟨_, sorted⟩
  · exact sortUpdate_sorted sorted
  rcases ite_cases sorted with ⟨rfl, sorted⟩ | ⟨_, sorted⟩
  · exact sortRuntimes_sorted sorted
  rcases ite_cases sorted with ⟨rfl, sorted⟩ | ⟨_, sorted⟩
  · exact sortEngines_sorted sorted
  rcases ite_cases sorted with ⟨rfl, sorted⟩ | ⟨_, sorted⟩
  · exact sortServices_sorted sorted
  rcases ite_cases sorted with ⟨rfl, sorted⟩ | ⟨_, sorted⟩
  · exact sortAutomations_sorted sorted
  rcases ite_cases sorted with ⟨rfl, sorted⟩ | ⟨_, sorted⟩
  · exact sortConfig_sorted sorted
  rcases ite_cases sorted with ⟨rfl, sorted⟩ | ⟨_, sorted⟩
  · exact sortComfyui_sorted sorted
  rcases ite_cases sorted with ⟨rfl, sorted⟩ | ⟨_, sorted⟩
  · exact sortInstall_sorted sorted
  rcases ite_cases sorted with ⟨rfl, sorted⟩ | ⟨_, sorted⟩
  · exact sorted_approval sorted
  rcases ite_cases sorted with ⟨rfl, sorted⟩ | ⟨_, sorted⟩
  · exact sortUninstall_sorted sorted
  rcases ite_cases sorted with ⟨rfl, sorted⟩ | ⟨_, sorted⟩
  · exact sortStorage_sorted sorted
  rcases ite_cases sorted with ⟨rfl, sorted⟩ | ⟨_, sorted⟩
  · exact sortSetup_sorted sorted
  rcases ite_cases sorted with ⟨rfl, sorted⟩ | ⟨_, sorted⟩
  · exact sortRemote_sorted sorted
  exact unsupported_ne_ok sorted

end Arms

/-- The arguments the policy sorts: the name of ComfyUI is written out. -/
def canonicalArgs : List String -> List String
  | first :: rest => (if Text.eqIgnoreAsciiCase first "comfy" then "comfyui" else first) :: rest
  | [] => []

theorem canonicalizeChatRocmCommand_ok {args canonical : List String}
    (accepted : canonicalizeChatRocmCommand args = .ok canonical) :
    canonical = canonicalArgs args := by
  unfold canonicalizeChatRocmCommand at accepted
  have both := refuseIf_then_ok.mp accepted
  cases args with
  | nil => exact (Except.ok.inj both.2).symm
  | cons first rest => exact (Except.ok.inj both.2).symm

/-- A command that is let through was canonical, safe and sorted. -/
theorem chatRocmCommandActionFromArgs_ok {host : Host} {args : List String}
    {action : ChatRocmCommandAction}
    (accepted : chatRocmCommandActionFromArgs host args = .ok action) :
    exists first rest, canonicalArgs args = first :: rest ∧
      validateChatRocmCommandSafety host (first :: rest) = .ok () ∧
      sortCommand host (first :: rest) (toAsciiLowercase first)
        (rest.head?.map toAsciiLowercase) = .ok action := by
  unfold chatRocmCommandActionFromArgs at accepted
  obtain ⟨canonical, canonicalized, accepted⟩ := bind_ok.mp accepted
  obtain ⟨⟨⟩, safe, accepted⟩ := bind_ok.mp accepted
  rw [canonicalizeChatRocmCommand_ok canonicalized] at safe accepted
  cases shape : canonicalArgs args with
  | nil =>
      rw [shape] at accepted
      exact nomatch accepted
  | cons first rest =>
      rw [shape] at safe accepted
      rw [List.head?_cons, List.getElem?_cons_succ, ← List.head?_eq_getElem?] at accepted
      exact ⟨first, rest, rfl, safe, accepted⟩

end ToolPolicy
end RocmCli
