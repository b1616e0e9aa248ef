import RocmCli.ToolPolicy.Cli
import RocmCli.ToolPolicy.Commands

namespace RocmCli
namespace ToolPolicy

open CommandLine
open Text (stripPrefix)

/-!
# Read-only commands

A command that a model may run without approval is sorted by its first two
words and by flags found anywhere.  The program gives the same tokens their
meaning by position.  The two readings agree except on six argument lists.
-/

/-- The commands that only report, whatever options they carry. -/
def reportingPaths : List (List String) :=
  [["examine"], ["version"], ["model"], ["logs"], ["runtimes"], ["runtimes", "list"],
    ["engines", "list"], ["services"], ["services", "list"], ["services", "logs"],
    ["automations"], ["automations", "list"], ["config", "show"], ["comfyui"],
    ["comfyui", "status"], ["comfyui", "logs"], ["storage"], ["storage", "report"], ["setup"],
    ["setup", "status"], ["remote", "targets"], ["remote", "doctor"], ["remote", "status"]]

/-- The parsed command cannot change anything. -/
def IsReadOnly (host : Host) (levels : List Level) : Prop :=
  commandPath levels ∈ reportingPaths ∨
    (commandPath levels = ["daemon"] ∧ isSet levels "--status" = true) ∨
    (commandPath levels = ["update"] ∧ isSet levels "--apply" = false) ∨
    (commandPath levels = ["runtimes", "uninstall"] ∧ isSet levels "--dry-run" = true) ∨
    (commandPath levels = ["uninstall"] ∧ isSet levels "--dry-run" = true) ∨
    (commandPath levels = ["install", "driver"] ∧ host.installDriverOnlyReports = true)

/-- A proposed argument list is run without approval, by the assistant or by the
daemon's tool, as the second list. -/
def RunsAtOnce (host : Host) (args run : List String) : Prop :=
  chatRocmCommandActionFromArgs host args = .ok (.readOnly run) ∨
    (ensureRocmCommandIsReadOnly args = .ok () ∧ run = args)

/-- The supervisor is started where only its status was meant. -/
def supervisorLines : List (List String) := [["daemon"], ["daemon", "--"]]

/-- The flag that would make the removal a preview names the runtime to remove. -/
def maskedRemovals : List (List String) :=
  ["uninstall", "remove"].flatMap fun verb =>
    [["runtimes", verb, "--", "--dry-run"], ["runtimes", verb, "--yes", "--", "--dry-run"]]

/-! ## Names of commands -/

/-- The commands and every word for them. -/
def commandWords : List (String × String) :=
  [("examine", "examine"), ("diagnose", "diagnose"), ("fix", "fix"), ("version", "version"),
    ("completions", "completions"), ("bootstrap", "bootstrap"), ("setup", "setup"),
    ("__engine-serve-http", "__engine-serve-http"), ("__engine-stdio", "__engine-stdio"),
    ("status", "status"), ("bridge-snapshot", "bridge-snapshot"), ("sandbox-run", "sandbox-run"),
    ("mcp-call", "mcp-call"), ("chat", "chat"), ("install", "install"), ("update", "update"),
    ("runtimes", "runtimes"), ("storage", "storage"), ("engines", "engines"), ("model", "model"),
    ("model", "models"), ("serve", "serve"), ("comfyui", "comfyui"), ("comfyui", "comfy"),
    ("services", "services"), ("remote", "remote"), ("automations", "automations"),
    ("config", "config"), ("logs", "logs"), ("daemon", "daemon"), ("dash", "dash"),
    ("bench", "bench"), ("uninstall", "uninstall")]

section Words

variable {ranges : DecimalRanges} {token : String} {subcommand : CommandSpec}

theorem commandWords_of_found (found : (cli ranges).subcommand token = some subcommand) :
    (subcommand.name, token) ∈ commandWords := by
  obtain ⟨known, named⟩ := subcommand_mem found
  have listed : (cli ranges).subcommands.flatMap
      (fun command => command.names.map fun word => (command.name, word)) = commandWords := rfl
  rw [← listed]
  exact List.mem_flatMap.mpr ⟨subcommand, known, List.mem_map.mpr ⟨token, named, rfl⟩⟩

theorem toAsciiLowercase_name (found : (cli ranges).subcommand token = some subcommand) :
    toAsciiLowercase token = token := by
  have words : (commandWords.all fun pair => toAsciiLowercase pair.2 == pair.2) = true := by
    decide
  have same := List.all_eq_true.mp words _ (commandWords_of_found found)
  exact eq_of_beq same

end Words

/-! ## Groups of commands -/

section Groups

variable {group : CommandSpec} {tokens : List String} {levels : List Level}

/-- The words that let a group run at once name only commands that report. -/
structure Reports (group : CommandSpec) (words : List String) : Prop where
  noOptions : group.options = []
  noPositionals : group.positionals = []
  leaves : (group.subcommands.all fun subcommand => subcommand.subcommands.isEmpty) = true
  listed : (group.subcommands.all fun subcommand => subcommand.names.all fun name =>
    !words.contains (toAsciiLowercase name) ||
      reportingPaths.contains [group.name, subcommand.name]) = true
  notEscape : words.contains (toAsciiLowercase "--") = false

theorem reports_path {words : List String} (reports : Reports group words)
    (line : Reads group tokens levels)
    (complete : forall level, level ∈ levels -> level.ok = true)
    (alone : tokens = [] -> [group.name] ∈ reportingPaths)
    (second : absentOr words (tokens.head?.map toAsciiLowercase) = true) :
    levels.map (fun level => level.command.name) ∈ reportingPaths := by
  cases line.group reports.noOptions reports.noPositionals complete with
  | done => exact alone rfl
  | escaped =>
      have escape : absentOr words (some (toAsciiLowercase "--")) = false := reports.notEscape
      rw [List.head?_cons, Option.map_some, escape] at second
      exact nomatch second
  | @subcommand subcommand token rest deeper found reads =>
      obtain ⟨known, named⟩ := subcommand_mem found
      have noDeeper : subcommand.subcommands = [] :=
        List.isEmpty_iff.mp (List.all_eq_true.mp reports.leaves subcommand known)
      obtain ⟨items, trailing, rfl, _, _⟩ := reads.leaf noDeeper
      have word : words.contains (toAsciiLowercase token) = true := second
      have listed := List.all_eq_true.mp
        (List.all_eq_true.mp reports.listed subcommand known) token named
      rw [word, Bool.not_true, Bool.false_or] at listed
      exact List.contains_iff_mem.mp listed

theorem absentOr_of_oneOf {words : List String} {second : Option String}
    (one : oneOf words second = true) : absentOr words second = true := by
  cases second with
  | none => exact nomatch one
  | some word => exact one

end Groups

/-! ## Flags and where they stand -/

section Leaves

variable {command : CommandSpec} {items : List Item} {trailing : Option (List String)}

/-- A complete leaf fills its positional arguments. -/
theorem fits_of_ok (complete : Level.ok ⟨command, items, trailing⟩ = true) :
    fits command.positionals (items.filterMap Item.positional? ++ trailing.getD []) = true := by
  unfold Level.ok at complete
  rw [Bool.and_eq_true] at complete
  exact complete.2

/-- A complete leaf without positional arguments has none, on either side. -/
theorem no_positionals (noPositionals : command.positionals = [])
    (complete : Level.ok ⟨command, items, trailing⟩ = true) :
    items.filterMap Item.positional? = [] ∧ trailing.getD [] = [] := by
  have filled := fits_of_ok complete
  rw [noPositionals, fits, List.isEmpty_iff, List.append_eq_nil_iff] at filled
  exact filled

theorem mem_trailingTokens {token : String} (notEscape : token ≠ "--")
    (member : token ∈ trailingTokens trailing) : token ∈ trailing.getD [] := by
  cases trailing with
  | none => exact nomatch member
  | some rest =>
      rcases List.mem_cons.mp member with same | later
      · exact absurd same notEscape
      · exact later

/-- A hyphened token of a command that has only flags is a flag, unless it
stands behind a bare `--`. -/
theorem flag_or_trailing (onlyFlags : forall option, option ∈ command.options ->
      option.arity = .flag ∧ option.short = none)
    (legals : forall item, item ∈ items -> Legal command item) {token : String}
    (hyphened : isHyphened token = true) (notEscape : token ≠ "--")
    (member : token ∈ items.flatMap Item.tokens ++ trailingTokens trailing) :
    Item.flag token ∈ items ∨ token ∈ trailing.getD [] := by
  rcases List.mem_append.mp member with inItems | inTrailing
  · obtain ⟨item, isItem, isToken⟩ := List.mem_flatMap.mp inItems
    rcases flag_or_positional onlyFlags (legals item isItem) with
      ⟨option, _, rfl⟩ | ⟨value, rfl, plain⟩
    · rw [List.mem_singleton.mp isToken]
      exact Or.inl isItem
    · rw [← List.mem_singleton.mp isToken, hyphened] at plain
      exact nomatch plain
  · exact Or.inr (mem_trailingTokens notEscape inTrailing)

theorem onlyFlags_of_all
    (all : (command.options.all fun option => option.arity == .flag && option.short == none) = true) :
    forall option, option ∈ command.options -> option.arity = .flag ∧ option.short = none := by
  intro option member
  have both := List.all_eq_true.mp all option member
  rwa [Bool.and_eq_true, beq_iff_eq, beq_iff_eq] at both

end Leaves

/-! ## The four commands with a flag -/

section Flagged

variable {rest : List String} {levels : List Level}

/-- `daemon` without `--status` is the bare word. -/
theorem daemon_status (reads : Reads daemonCommand rest levels)
    (complete : forall level, level ∈ levels -> level.ok = true) :
    exists level, levels = [level] ∧ level.command = daemonCommand ∧
      (level.isSet "--status" = true ∨ rest = [] ∨ rest = ["--"]) := by
  have onlyFlags := @onlyFlags_of_all daemonCommand (by decide)
  obtain ⟨items, trailing, rfl, rfl, legals⟩ := reads.leaf rfl
  obtain ⟨noItems, noTrailing⟩ := no_positionals rfl (complete _ (List.mem_singleton.mpr rfl))
  refine ⟨_, rfl, rfl, ?_⟩
  cases items with
  | nil =>
      cases trailing with
      | none => exact Or.inr (Or.inl rfl)
      | some tokens =>
          rw [Option.getD_some] at noTrailing
          rw [noTrailing]
          exact Or.inr (Or.inr rfl)
  | cons item items =>
      rcases flag_or_positional onlyFlags (legals item List.mem_cons_self) with
        ⟨option, known, rfl⟩ | ⟨value, rfl, _⟩
      · rw [List.mem_singleton.mp known]
        exact Or.inl rfl
      · rw [List.filterMap_cons] at noItems
        exact nomatch noItems

/-- `update` sets its flag only where the flag stands in the line. -/
theorem update_apply (reads : Reads updateCommand rest levels) :
    exists level, levels = [level] ∧ level.command = updateCommand ∧
      (level.isSet "--apply" = true -> "--apply" ∈ rest) := by
  obtain ⟨items, trailing, rfl, rfl, legals⟩ := reads.leaf rfl
  refine ⟨_, rfl, rfl, ?_⟩
  intro isSet
  have noShorts : forall option, option ∈ updateCommand.options -> option.short = none := by
    have all : (updateCommand.options.all fun option => option.short == none) = true := by decide
    exact fun option member => beq_iff_eq.mp (List.all_eq_true.mp all option member)
  have member := (@isSet_iff_flag "--apply" _ _ _ noShorts legals rfl rfl trailing).mp isSet
  exact List.mem_append_left _ (List.mem_flatMap.mpr ⟨_, member, List.mem_singleton.mpr rfl⟩)

/-- `uninstall` takes no positional arguments, so that its preview flag is a flag
wherever it stands. -/
theorem uninstall_preview (reads : Reads uninstallCommand rest levels)
    (complete : forall level, level ∈ levels -> level.ok = true) (member : "--dry-run" ∈ rest) :
    exists level, levels = [level] ∧ level.command = uninstallCommand ∧
      level.isSet "--dry-run" = true := by
  have onlyFlags := @onlyFlags_of_all uninstallCommand (by decide)
  obtain ⟨items, trailing, rfl, rfl, legals⟩ := reads.leaf rfl
  obtain ⟨_, noTrailing⟩ := no_positionals rfl (complete _ (List.mem_singleton.mpr rfl))
  refine ⟨_, rfl, rfl, ?_⟩
  rcases flag_or_trailing onlyFlags legals (by decide) (by decide) member with isFlag | later
  · exact (@isSet_iff_flag "--dry-run" _ _ _ (fun option known => (onlyFlags option known).2) legals
      rfl rfl trailing).mpr isFlag
  · rw [noTrailing] at later
    exact nomatch later

/-- A complete level does not repeat a flag. -/
theorem count_begins_le {level : Level} (complete : level.ok = true) {option : OptionSpec}
    (known : option ∈ level.command.options) (isFlag : option.arity = .flag) :
    (level.items.flatMap Item.begins).count option.long ≤ 1 := by
  unfold Level.ok at complete
  rw [Bool.and_eq_true, List.all_eq_true] at complete
  have single := complete.1 option known
  unfold Level.optionOk Level.onceOk at single
  rw [isFlag] at single
  simp only [Bool.and_eq_true] at single
  have once := single.1.1.1
  rw [Bool.or_eq_true, decide_eq_true_eq] at once
  rcases once with impossible | once
  · exact absurd impossible (by decide)
  · exact once

/-- A removal with its preview flag in the line is a preview, unless the flag is
the name of the runtime to remove. -/
theorem removal_preview (reads : Reads runtimesUninstallCommand rest levels)
    (complete : forall level, level ∈ levels -> level.ok = true) (member : "--dry-run" ∈ rest) :
    exists level, levels = [level] ∧ level.command = runtimesUninstallCommand ∧
      (level.isSet "--dry-run" = true ∨ rest = ["--", "--dry-run"] ∨
        rest = ["--yes", "--", "--dry-run"]) := by
  have onlyFlags := @onlyFlags_of_all runtimesUninstallCommand (by decide)
  have noShorts : forall option, option ∈ runtimesUninstallCommand.options ->
      option.short = none := fun option known => (onlyFlags option known).2
  obtain ⟨items, trailing, rfl, rfl, legals⟩ := reads.leaf rfl
  have levelOk := complete _ (List.mem_singleton.mpr rfl)
  refine ⟨_, rfl, rfl, ?_⟩
  by_cases previewed : Item.flag "--dry-run" ∈ items
  · exact Or.inl ((@isSet_iff_flag "--dry-run" _ _ _ noShorts legals rfl rfl trailing).mpr
      previewed)
  have named : "--dry-run" ∈ trailing.getD [] :=
    (flag_or_trailing onlyFlags legals (by decide) (by decide) member).resolve_left previewed
  -- The runtime is the only positional argument, so nothing else is one.
  obtain ⟨noItems, only⟩ : items.filterMap Item.positional? = [] ∧
      trailing.getD [] = ["--dry-run"] := by
    have filled := fits_of_ok levelOk
    cases values : items.filterMap Item.positional? ++ trailing.getD [] with
    | nil =>
        rw [values] at filled
        exact nomatch filled
    | cons value others =>
        rw [values] at filled
        have noOthers : others = [] := List.isEmpty_iff.mp filled
        rw [noOthers] at values
        rcases List.append_eq_singleton_iff.mp values with ⟨noItems, only⟩ | ⟨_, noTrailing⟩
        · rw [only] at named ⊢
          rw [List.mem_singleton.mp named]
          exact ⟨noItems, rfl⟩
        · rw [noTrailing] at named
          exact nomatch named
  have tokens : trailingTokens trailing = ["--", "--dry-run"] := by
    cases trailing with
    | none => exact nomatch only
    | some behind =>
        rw [Option.getD_some] at only
        rw [only]
        rfl
  have confirms : forall item, item ∈ items -> item = Item.flag "--yes" := by
    intro item isItem
    rcases flag_or_positional onlyFlags (legals item isItem) with
      ⟨option, known, rfl⟩ | ⟨value, rfl, _⟩
    · rcases List.mem_cons.mp known with rfl | known
      · rfl
      · rw [List.mem_singleton.mp known] at isItem
        exact absurd isItem previewed
    · have listed : value ∈ items.filterMap Item.positional? :=
        List.mem_filterMap.mpr ⟨_, isItem, rfl⟩
      rw [noItems] at listed
      exact nomatch listed
  rw [tokens]
  cases items with
  | nil => exact Or.inr (Or.inl rfl)
  | cons first items =>
      rw [confirms first List.mem_cons_self] at levelOk ⊢
      cases items with
      | nil => exact Or.inr (Or.inr rfl)
      | cons second items =>
          rw [confirms second (List.mem_cons_of_mem _ List.mem_cons_self)] at levelOk
          have once := @count_begins_le _ levelOk (flag "--yes") List.mem_cons_self rfl
          have twice : 2 ≤ ((Item.flag "--yes" :: Item.flag "--yes" :: items).flatMap
              Item.begins).count (flag "--yes").long := by
            rw [List.flatMap_cons, List.flatMap_cons]
            simp [Item.begins, flag]
          exact absurd (Nat.le_trans twice once) (by decide)

end Flagged

/-! ## Consent that is taken out -/

theorem isYes_head {arg : String} (isYes : isYes arg = true) : arg.toList.head? = some '-' := by
  unfold ToolPolicy.isYes at isYes
  rw [Bool.or_eq_true, beq_iff_eq] at isYes
  rcases isYes with rfl | attached
  · rfl
  · unfold stripPrefix at attached
    by_cases starts : "--yes=".toList <+: arg.toList
    · obtain ⟨back, whole⟩ := starts
      rw [← whole]
      rfl
    · rw [if_neg starts] at attached
      exact nomatch attached

theorem not_isYes_of_lowercase {arg word : String} (lowered : toAsciiLowercase arg = word)
    (notHyphen : word.toList.head? ≠ some '-') : isYes arg = false := by
  apply Bool.eq_false_iff.mpr
  intro consents
  apply notHyphen
  rw [← lowered, toAsciiLowercase, String.toList_ofList, List.head?_map, isYes_head consents]
  rfl

/-! ## Every command that runs at once -/

section AtOnce

variable {host : Host} {ranges : DecimalRanges} {levels : List Level} {first : String}
  {rest : List String}

/-- A command line in its first command. -/
theorem first_command {tokens : List String} (parsed : parseRocm ranges tokens = some levels)
    (nonempty : tokens ≠ []) (notEscape : tokens ≠ ["--"]) :
    exists token rest subcommand deeper, tokens = token :: rest ∧
      (cli ranges).subcommand token = some subcommand ∧ Reads subcommand rest deeper ∧
      (forall level, level ∈ deeper -> level.ok = true) ∧
      levels = ⟨cli ranges, [], none⟩ :: deeper := by
  obtain ⟨line, complete, _⟩ := reads_of_parse parsed
  cases line.group rfl rfl complete with
  | done => exact absurd rfl nonempty
  | escaped => exact absurd rfl notEscape
  | @subcommand subcommand token rest deeper found reads =>
      exact ⟨token, rest, subcommand, deeper, rfl, found, reads,
        fun level member => complete level (List.mem_cons_of_mem _ member), rfl⟩

variable {deeper : List Level}

/-- The commands that report whatever follows them are leaves. -/
theorem reporting_path {subcommand : CommandSpec} (noSubcommands : subcommand.subcommands = [])
    (listed : [subcommand.name] ∈ reportingPaths) (reads : Reads subcommand rest deeper) :
    IsReadOnly host (⟨cli ranges, [], none⟩ :: deeper) := by
  obtain ⟨items, trailing, rfl, _, _⟩ := reads.leaf noSubcommands
  exact Or.inl listed

/-- A group and a second word that reports make a reporting path. -/
theorem group_path {group : CommandSpec} (words : List String) (reports : Reports group words)
    (reads : Reads group rest deeper) (complete : forall level, level ∈ deeper -> level.ok = true)
    (alone : rest = [] -> [group.name] ∈ reportingPaths)
    (second : absentOr words (rest.head?.map toAsciiLowercase) = true) :
    IsReadOnly host (⟨cli ranges, [], none⟩ :: deeper) :=
  Or.inl (reports_path reports reads complete alone second)

/-- A removal of a runtime that carries its preview flag. -/
theorem removal_isReadOnly (reads : Reads runtimesCommand rest deeper)
    (complete : forall level, level ∈ deeper -> level.ok = true)
    (removes : oneOf ["uninstall", "remove"] (rest.head?.map toAsciiLowercase) = true)
    (member : "--dry-run" ∈ rest) :
    IsReadOnly host (⟨cli ranges, [], none⟩ :: deeper) ∨
      "runtimes" :: rest ∈ supervisorLines ++ maskedRemovals := by
  cases reads.group rfl rfl complete with
  | done => exact nomatch removes
  | escaped => exact absurd removes (by decide)
  | @subcommand subcommand token rest deeper found inner =>
      have lowered : toAsciiLowercase token = token := by
        have names : ((runtimesCommand.subcommands.flatMap CommandSpec.names).all
            fun name => toAsciiLowercase name == name) = true := by decide
        obtain ⟨known, named⟩ := subcommand_mem found
        exact beq_iff_eq.mp
          (List.all_eq_true.mp names token (List.mem_flatMap.mpr ⟨_, known, named⟩))
      rw [List.head?_cons, Option.map_some, lowered] at removes
      have words : token = "uninstall" ∨ token = "remove" := by
        simpa [oneOf] using removes
      have isRemoval : subcommand = runtimesUninstallCommand := by
        rcases words with rfl | rfl
        · exact (Option.some.inj (show some runtimesUninstallCommand = some subcommand from found)).symm
        · exact (Option.some.inj (show some runtimesUninstallCommand = some subcommand from found)).symm
      have later : "--dry-run" ∈ rest := by
        rcases List.mem_cons.mp member with same | later
        · rw [← same] at words
          exact absurd words (by decide)
        · exact later
      rw [isRemoval] at inner
      have innerComplete : forall level, level ∈ deeper -> level.ok = true :=
        fun level isLevel => complete level (List.mem_cons_of_mem _ isLevel)
      obtain ⟨level, rfl, isUninstall, preview⟩ := removal_preview inner innerComplete later
      have path : commandPath [⟨cli ranges, [], none⟩, ⟨runtimesCommand, [], none⟩, level] =
          ["runtimes", "uninstall"] := by
        rw [commandPath, List.tail_cons, List.map_cons, List.map_singleton, isUninstall]
        rfl
      rcases preview with isSet | rfl | rfl
      · exact Or.inl (Or.inr (Or.inr (Or.inr (Or.inl ⟨path, isSet⟩))))
      · rcases words with rfl | rfl <;> exact Or.inr (by decide)
      · rcases words with rfl | rfl <;> exact Or.inr (by decide)

/-- `daemon` reports its status, or is one of the supervisor's lines. -/
theorem daemon_isReadOnly (reads : Reads daemonCommand rest deeper)
    (complete : forall level, level ∈ deeper -> level.ok = true) :
    IsReadOnly host (⟨cli ranges, [], none⟩ :: deeper) ∨
      "daemon" :: rest ∈ supervisorLines ++ maskedRemovals := by
  obtain ⟨level, rfl, isDaemon, status⟩ := daemon_status reads complete
  have path : commandPath [⟨cli ranges, [], none⟩, level] = ["daemon"] := by
    rw [commandPath, List.tail_cons, List.map_singleton, isDaemon]
    rfl
  rcases status with isSet | rfl | rfl
  · exact Or.inl (Or.inr (Or.inl ⟨path, isSet⟩))
  · exact Or.inr (by decide)
  · exact Or.inr (by decide)

/-- A command whose first word is enough. -/
theorem reporting_isReadOnly {subcommand : CommandSpec} (reports : first ∈ reportingCommands)
    (found : (cli ranges).subcommand first = some subcommand)
    (reads : Reads subcommand rest deeper)
    (complete : forall level, level ∈ deeper -> level.ok = true) :
    IsReadOnly host (⟨cli ranges, [], none⟩ :: deeper) ∨
      first :: rest ∈ supervisorLines ++ maskedRemovals := by
  simp only [reportingCommands, List.mem_cons, List.not_mem_nil, or_false] at reports
  rcases reports with rfl | rfl | rfl | rfl | rfl | rfl
  · have same : some examineCommand = some subcommand := found
    cases same
    exact Or.inl (reporting_path rfl (by decide) reads)
  · have same : some versionCommand = some subcommand := found
    cases same
    exact Or.inl (reporting_path rfl (by decide) reads)
  · have same : some modelCommand = some subcommand := found
    cases same
    exact Or.inl (reporting_path rfl (by decide) reads)
  · have same : some modelCommand = some subcommand := found
    cases same
    exact Or.inl (reporting_path rfl (by decide) reads)
  · have same : some daemonCommand = some subcommand := found
    cases same
    exact daemon_isReadOnly reads complete
  · have same : some logsCommand = some subcommand := found
    cases same
    exact Or.inl (reporting_path rfl (by decide) reads)

/-- An update that does not say to apply it. -/
theorem update_isReadOnly (reads : Reads updateCommand rest deeper)
    (checks : ("update" :: rest).contains "--apply" = false) :
    IsReadOnly host (⟨cli ranges, [], none⟩ :: deeper) := by
  obtain ⟨level, rfl, isUpdate, applies⟩ := update_apply reads
  have path : commandPath [⟨cli ranges, [], none⟩, level] = ["update"] := by
    rw [commandPath, List.tail_cons, List.map_singleton, isUpdate]
    rfl
  refine Or.inr (Or.inr (Or.inl ⟨path, ?_⟩))
  apply Bool.eq_false_iff.mpr
  intro isSet
  have member := List.mem_cons_of_mem "update" (applies isSet)
  rw [← List.contains_iff_mem, checks] at member
  exact nomatch member

theorem uninstall_isReadOnly (reads : Reads uninstallCommand rest deeper)
    (complete : forall level, level ∈ deeper -> level.ok = true) (member : "--dry-run" ∈ rest) :
    IsReadOnly host (⟨cli ranges, [], none⟩ :: deeper) := by
  obtain ⟨level, rfl, isUninstall, isSet⟩ := uninstall_preview reads complete member
  have path : commandPath [⟨cli ranges, [], none⟩, level] = ["uninstall"] := by
    rw [commandPath, List.tail_cons, List.map_singleton, isUninstall]
    rfl
  exact Or.inr (Or.inr (Or.inr (Or.inr (Or.inl ⟨path, isSet⟩))))

/-- What the daemon lists is read-only, or one of the six lines. -/
theorem listed_isReadOnly (listed : daemonReadOnly (first :: rest) (toAsciiLowercase first)
      (rest.head?.map toAsciiLowercase) = true)
    (parsed : parseRocm ranges (first :: rest) = some levels) :
    IsReadOnly host levels ∨ first :: rest ∈ supervisorLines ++ maskedRemovals := by
  have notEscape : first :: rest ≠ ["--"] := by
    intro same
    cases same
    exact absurd listed (by decide)
  obtain ⟨token, others, subcommand, deeper, same, found, reads, complete, rfl⟩ :=
    first_command parsed (List.cons_ne_nil _ _) notEscape
  cases same
  rw [toAsciiLowercase_name found] at listed
  rcases ite_cases listed with ⟨reports, _⟩ | ⟨_, listed⟩
  · exact reporting_isReadOnly (List.contains_iff_mem.mp reports) found reads complete
  rcases ite_cases listed with ⟨rfl, checks⟩ | ⟨_, listed⟩
  · have same : some updateCommand = some subcommand := found
    cases same
    rw [Bool.not_eq_true'] at checks
    exact Or.inl (update_isReadOnly reads checks)
  rcases ite_cases listed with ⟨rfl, words⟩ | ⟨_, listed⟩
  · have same : some runtimesCommand = some subcommand := found
    cases same
    rw [Bool.or_eq_true, Bool.and_eq_true] at words
    rcases words with lists | ⟨removes, previews⟩
    · exact Or.inl (group_path ["list"] ⟨rfl, rfl, by decide, by decide, by decide⟩
        reads complete (fun _ => by decide) lists)
    · rw [List.contains_iff_mem] at previews
      have later : "--dry-run" ∈ rest := (List.mem_cons.mp previews).resolve_left (by decide)
      exact removal_isReadOnly reads complete removes later
  rcases ite_cases listed with ⟨rfl, lists⟩ | ⟨_, listed⟩
  · have same : some enginesCommand = some subcommand := found
    cases same
    exact Or.inl (group_path ["list"] ⟨rfl, rfl, by decide, by decide, by decide⟩
      reads complete (fun none' => by rw [none'] at lists; exact nomatch lists)
      (absentOr_of_oneOf lists))
  rcases ite_cases listed with ⟨rfl, lists⟩ | ⟨_, listed⟩
  · have same : some servicesCommand = some subcommand := found
    cases same
    exact Or.inl (group_path ["list", "logs"]
      ⟨rfl, rfl, by decide, by decide, by decide⟩ reads complete (fun _ => by decide) lists)
  rcases ite_cases listed with ⟨rfl, lists⟩ | ⟨_, listed⟩
  · have same : some automationsCommand = some subcommand := found
    cases same
    exact Or.inl (group_path ["list"] ⟨rfl, rfl, by decide, by decide, by decide⟩
      reads complete (fun _ => by decide) lists)
  rcases ite_cases listed with ⟨rfl, lists⟩ | ⟨_, listed⟩
  · have same : some configCommand = some subcommand := found
    cases same
    exact Or.inl (group_path ["show"] ⟨rfl, rfl, by decide, by decide, by decide⟩
      reads complete (fun none' => by rw [none'] at lists; exact nomatch lists)
      (absentOr_of_oneOf lists))
  rcases ite_cases listed with ⟨rfl, lists⟩ | ⟨_, listed⟩
  · have same : some comfyuiCommand = some subcommand := found
    cases same
    exact Or.inl (group_path ["status", "logs", "log"]
      ⟨rfl, rfl, by decide, by decide, by decide⟩ reads complete (fun _ => by decide) lists)
  rcases ite_cases listed with ⟨rfl, previews⟩ | ⟨_, listed⟩
  · have same : some uninstallCommand = some subcommand := found
    cases same
    rw [List.contains_iff_mem] at previews
    have later : "--dry-run" ∈ rest := (List.mem_cons.mp previews).resolve_left (by decide)
    exact Or.inl (uninstall_isReadOnly reads complete later)
  rcases ite_cases listed with ⟨rfl, lists⟩ | ⟨_, listed⟩
  · have same : some storageCommand = some subcommand := found
    cases same
    exact Or.inl (group_path ["report"]
      ⟨rfl, rfl, by decide, by decide, by decide⟩ reads complete (fun _ => by decide) lists)
  rcases ite_cases listed with ⟨rfl, lists⟩ | ⟨_, listed⟩
  · have same : some setupCommand = some subcommand := found
    cases same
    exact Or.inl (group_path ["status"]
      ⟨rfl, rfl, by decide, by decide, by decide⟩ reads complete (fun _ => by decide) lists)
  rcases ite_cases listed with ⟨rfl, lists⟩ | ⟨_, listed⟩
  · have same : some remoteCommand = some subcommand := found
    cases same
    exact Or.inl (group_path ["targets", "doctor", "status"]
      ⟨rfl, rfl, by decide, by decide, by decide⟩ reads complete
      (fun none' => by rw [none'] at lists; exact nomatch lists) (absentOr_of_oneOf lists))
  exact nomatch listed

/-- The driver's command runs at once only where it reports. -/
theorem driver_isReadOnly (reports : host.installDriverOnlyReports = true)
    (install : toAsciiLowercase first = "install")
    (driver : rest.head?.map toAsciiLowercase = some "driver")
    (parsed : parseRocm ranges (withoutYes (first :: rest)) = some levels) :
    IsReadOnly host levels := by
  cases rest with
  | nil => exact nomatch driver
  | cons second others =>
      rw [List.head?_cons, Option.map_some, Option.some.injEq] at driver
      have keptFirst := not_isYes_of_lowercase install (by decide)
      have keptSecond := not_isYes_of_lowercase driver (by decide)
      have shape : withoutYes (first :: second :: others) =
          first :: second :: withoutYes others := by
        unfold withoutYes
        rw [List.filter_cons, keptFirst, List.filter_cons, keptSecond]
        rfl
      rw [shape] at parsed
      obtain ⟨token, behind, subcommand, deeper, same, found, reads, complete, rfl⟩ :=
        first_command parsed (List.cons_ne_nil _ _) (by simp)
      cases same
      rw [toAsciiLowercase_name found] at install
      rw [install] at found
      have isInstall : some installCommand = some subcommand := found
      cases isInstall
      generalize withoutYes others = kept at reads
      cases reads.group rfl rfl complete with
      | escaped => exact absurd driver (by decide)
      | @subcommand subcommand _ _ deepest found inner =>
          have lowered : toAsciiLowercase second = second := by
            have names : ((installCommand.subcommands.flatMap CommandSpec.names).all
                fun name => toAsciiLowercase name == name) = true := by decide
            obtain ⟨known, named⟩ := subcommand_mem found
            exact beq_iff_eq.mp
              (List.all_eq_true.mp names second (List.mem_flatMap.mpr ⟨_, known, named⟩))
          rw [lowered] at driver
          rw [driver] at found
          have isDriver : some installDriverCommand = some subcommand := found
          cases isDriver
          obtain ⟨items, trailing, rfl, _, _⟩ := inner.leaf rfl
          exact Or.inr (Or.inr (Or.inr (Or.inr (Or.inr ⟨rfl, reports⟩))))

end AtOnce

/-! ## The claim -/

/-- A command that runs at once is listed as read-only, as it was proposed or
with the name of ComfyUI written out, or it is the driver's report. -/
theorem runsAtOnce_cases {host : Host} {args run : List String} (runs : RunsAtOnce host args run) :
    exists first rest,
      (run = first :: rest ∧ (run = canonicalArgs args ∨ run = args) ∧
        daemonReadOnly (first :: rest) (toAsciiLowercase first)
          (rest.head?.map toAsciiLowercase) = true) ∨
      (run = withoutYes (first :: rest) ∧ host.installDriverOnlyReports = true ∧
        toAsciiLowercase first = "install" ∧ rest.head?.map toAsciiLowercase = some "driver") := by
  rcases runs with accepted | ⟨accepted, rfl⟩
  · obtain ⟨first, rest, canonical, _, arms⟩ := chatRocmCommandActionFromArgs_ok accepted
    have sorted := sortCommand_sorted arms
    refine ⟨first, rest, ?_⟩
    generalize same : ChatRocmCommandAction.readOnly run = action at sorted
    cases sorted with
    | readOnly listed =>
        cases same
        exact Or.inl ⟨rfl, Or.inl canonical.symm, listed⟩
    | approval _ _ => exact nomatch same
    | withYes _ _ => exact nomatch same
    | installSdk _ _ => exact nomatch same
    | installDriver install driver =>
        cases reports : host.installDriverOnlyReports with
        | true =>
            rw [reports] at same
            cases same
            exact Or.inr ⟨rfl, rfl, install, driver⟩
        | false =>
            rw [reports] at same
            exact nomatch same
  · unfold ensureRocmCommandIsReadOnly at accepted
    have listed := refuseIf_ok.mp accepted
    rw [Bool.not_eq_false'] at listed
    cases run with
    | nil => exact nomatch listed
    | cons first rest =>
        rw [List.head?_cons, List.getElem?_cons_succ, ← List.head?_eq_getElem?] at listed
        exact ⟨first, rest, Or.inl ⟨rfl, Or.inr rfl, listed⟩⟩

/-- Only ComfyUI is renamed. -/
theorem eq_of_canonicalArgs {args : List String} {first : String} {rest : List String}
    (canonical : first :: rest = canonicalArgs args) (other : first ≠ "comfyui") :
    first :: rest = args := by
  cases args with
  | nil => exact nomatch canonical
  | cons token others =>
      rw [canonicalArgs] at canonical
      by_cases short : Text.eqIgnoreAsciiCase token "comfy" = true
      · rw [if_pos short] at canonical
        exact absurd (List.cons.inj canonical).1 other
      · rw [if_neg short] at canonical
        exact canonical

theorem not_isReadOnly_of_path {host : Host} {levels : List Level} {path : List String}
    {long : String} (isPath : commandPath levels = path) (unset : isSet levels long = false)
    (guarded : path = ["daemon"] ∧ long = "--status" ∨
      path = ["runtimes", "uninstall"] ∧ long = "--dry-run") : ¬ IsReadOnly host levels := by
  unfold IsReadOnly
  rcases guarded with ⟨rfl, rfl⟩ | ⟨rfl, rfl⟩
  · rw [isPath, unset]
    simp [reportingPaths]
  · rw [isPath, unset]
    simp [reportingPaths]

/-- Read-only commands cannot change anything exactly when the argument list is
none of six: the bare `daemon`, which starts the supervisor, and a removal whose
preview flag stands behind `--` and so names the runtime. -/
theorem read_only_commands (host : Host) (ranges : DecimalRanges) (args : List String) :
    (forall run levels, RunsAtOnce host args run -> parseRocm ranges run = some levels ->
      IsReadOnly host levels) ↔ args ∉ supervisorLines ++ maskedRemovals := by
  constructor
  · intro safe member
    simp only [supervisorLines, maskedRemovals, List.flatMap_cons, List.flatMap_nil,
      List.append_nil, List.cons_append, List.nil_append, List.mem_cons, List.not_mem_nil,
      or_false] at member
    rcases member with rfl | rfl | rfl | rfl | rfl | rfl
    · exact not_isReadOnly_of_path rfl rfl (Or.inl ⟨rfl, rfl⟩) (safe _ _ (Or.inr ⟨rfl, rfl⟩) rfl)
    · exact not_isReadOnly_of_path rfl rfl (Or.inl ⟨rfl, rfl⟩) (safe _ _ (Or.inr ⟨rfl, rfl⟩) rfl)
    all_goals
      exact not_isReadOnly_of_path rfl rfl (Or.inr ⟨rfl, rfl⟩) (safe _ _ (Or.inr ⟨rfl, rfl⟩) rfl)
  · intro outside run levels runs parsed
    obtain ⟨first, rest, ⟨rfl, origin, listed⟩ | ⟨rfl, reports, install, driver⟩⟩ :=
      runsAtOnce_cases runs
    · rcases @listed_isReadOnly host _ _ _ _ listed parsed with readOnly | line
      · exact readOnly
      · have other : first ≠ "comfyui" := by
          rintro rfl
          exact absurd line (by simp [supervisorLines, maskedRemovals])
        rcases origin with canonical | same
        · rw [eq_of_canonicalArgs canonical other] at line
          exact absurd line outside
        · rw [same] at line
          exact absurd line outside
    · exact driver_isReadOnly reports install driver parsed

/-- The assistant may start the supervisor without approval. -/
theorem daemon_starts_supervisor :
    ¬ forall (host : Host) (ranges : DecimalRanges) (args run : List String)
      (levels : List Level), RunsAtOnce host args run -> parseRocm ranges run = some levels ->
        IsReadOnly host levels := by
  intro claimed
  have ranges : DecimalRanges := ⟨fun _ => true, fun _ => true, fun _ => true⟩
  have host : Host := ⟨.linux, .slash, none⟩
  have starts : RunsAtOnce host ["daemon"] ["daemon"] := Or.inr ⟨rfl, rfl⟩
  exact not_isReadOnly_of_path rfl rfl (Or.inl ⟨rfl, rfl⟩)
    (claimed host ranges ["daemon"] ["daemon"] _ starts rfl)

end ToolPolicy
end RocmCli
