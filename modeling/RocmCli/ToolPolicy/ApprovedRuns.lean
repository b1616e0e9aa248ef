import RocmCli.ToolPolicy.Safety

namespace RocmCli
namespace ToolPolicy

open CommandLine
open Text (splitOnce stripPrefix)

/-!
# What runs after an approval

An approval may add a flag to the proposed command and take its consents away.
Neither changes what the scans find, so that the rules hold for the command that
runs, except where the name of a model to serve is read as an option.
-/

/-! ## A flag at the end of the line -/

section Appended

variable {command : CommandSpec} {items : List Item} {trailing : Option (List String)}

/-- Nothing behind the items but a bare `--`. -/
theorem trailingTokens_of_nil (none' : trailing.getD [] = []) :
    trailingTokens trailing = [] ∨ trailingTokens trailing = ["--"] := by
  cases trailing with
  | none => exact Or.inl rfl
  | some behind =>
      rw [Option.getD_some] at none'
      rw [none']
      exact Or.inr rfl

/-- A flag at the end of a line is an item of its own. -/
theorem items_of_appended {front : List String} {name : String} (simple : Simple command)
    (bound : Bound command items) (long : isLong name = true) (noSign : splitOnce name = none)
    (notEscape : name ≠ "--") (noTrailing : trailing.getD [] = [])
    (line : front ++ [name] = items.flatMap Item.tokens ++ trailingTokens trailing) :
    exists others, items = others ++ [Item.flag name] ∧ front = others.flatMap Item.tokens := by
  have noEscape : trailingTokens trailing = [] := by
    refine (trailingTokens_of_nil noTrailing).resolve_right ?_
    intro bare
    rw [bare] at line
    exact notEscape (List.singleton_inj.mp (List.append_inj' line rfl).2)
  rw [noEscape, List.append_nil] at line
  rcases List.eq_nil_or_concat items with rfl | ⟨others, last, rfl⟩
  · exact absurd line (by simp)
  rw [List.concat_eq_append] at line bound ⊢
  rw [List.flatMap_append, List.flatMap_singleton] at line
  have isLast : last ∈ others ++ [last] := List.mem_append_right _ List.mem_cons_self
  cases bound.kind simple isLast with
  | flag _ _ =>
      obtain ⟨same, name'⟩ := List.append_inj' line rfl
      rw [List.singleton_inj.mp name']
      exact ⟨others, rfl, same⟩
  | attached split _ _ =>
      rw [← List.singleton_inj.mp (List.append_inj' line rfl).2, noSign] at split
      cases split
  | @separate option value _ _ _ plain =>
      have apart : others.flatMap Item.tokens ++ (Item.separate option value).tokens =
          (others.flatMap Item.tokens ++ [option]) ++ [value] := by simp [Item.tokens]
      rw [apart] at line
      rw [← List.singleton_inj.mp (List.append_inj' line rfl).2, long] at plain
      cases plain
  | positional plain =>
      rw [← List.singleton_inj.mp (List.append_inj' line rfl).2, long] at plain
      cases plain

theorem firstValue_flag (others : List Item) (flag name : String) :
    firstValue (others ++ [Item.flag flag]) name = firstValue others name := by
  simp [firstValue, Level.value, Level.values, Item.valueOf]

/-- A scan of a line, or of the line before a flag was put behind it, finds what
is bound. -/
theorem scan_of_line {rest : List String} {added name : String} {option : OptionSpec}
    (simple : Simple command) (bound : Bound command items) (long : isLong added = true)
    (noSign : splitOnce added = none) (notEscape : added ≠ "--")
    (noTrailing : trailing.getD [] = [])
    (line : rest = items.flatMap Item.tokens ++ trailingTokens trailing ∨
      rest ++ [added] = items.flatMap Item.tokens ++ trailingTokens trailing)
    (found : command.option name = some option) (takes : option.arity ≠ .flag)
    (named : name ≠ "--") : chatCliArgValue name rest = firstValue items name := by
  rcases line with whole | appended
  · have ends : chatCliArgValue name (trailingTokens trailing) = none := by
      rcases trailingTokens_of_nil noTrailing with none' | bare
      · rw [none']
        rfl
      · have unnamed : attachedValue name "--" = none := rfl
        rw [bare, chatCliArgValue, unnamed]
        exact if_neg named.symm
    rw [whole, chatCliArgValue_items simple bound found takes, ends, Option.or_none]
  · obtain ⟨others, rfl, rfl⟩ :=
      items_of_appended simple bound long noSign notEscape noTrailing appended
    have fewer : Bound command others :=
      ⟨fun item member => bound.legal item (List.mem_append_left _ member),
        fun long value member => bound.values long value (List.mem_append_left _ member)⟩
    have scanned := chatCliArgValue_items simple fewer found takes []
    rw [List.append_nil] at scanned
    rw [scanned, firstValue_flag]
    exact Option.or_none

end Appended

/-! ## The command behind two words -/

variable {levels : List Level}

/-- A path of a group and one of its commands names both in the line. -/
theorem subcommand_of_path {group : CommandSpec} {tokens : List String} {word : String}
    (noOptions : group.options = []) (noPositionals : group.positionals = [])
    (reads : Reads group tokens levels)
    (complete : forall level, level ∈ levels -> level.ok = true)
    (path : levels.map (fun level => level.command.name) = [group.name, word]) :
    exists subcommand token rest deeper, tokens = token :: rest ∧
      subcommand ∈ group.subcommands ∧ token ∈ subcommand.names ∧ subcommand.name = word ∧
      Reads subcommand rest deeper ∧ levels = ⟨group, [], none⟩ :: deeper ∧
      forall level, level ∈ deeper -> level.ok = true := by
  cases reads.group noOptions noPositionals complete with
  | done => exact nomatch path
  | escaped => exact nomatch path
  | @subcommand subcommand token rest deeper found inner =>
      obtain ⟨known, named⟩ := subcommand_mem found
      obtain ⟨items, trailing, deepest, rfl⟩ := inner.head
      have isWord : subcommand.name = word := by
        simp only [List.map_cons, List.cons.injEq] at path
        exact path.2.1
      exact ⟨subcommand, token, rest, _, rfl, known, named, isWord, inner, rfl,
        fun level member => complete level (List.mem_cons_of_mem _ member)⟩

/-! ## `comfyui start` -/

theorem comfyuiStart_simple : Simple comfyuiStartCommand := Simple.of_all (by decide)

/-- Without an option that takes any token, no value looks like an option. -/
theorem bound_of_never {command : CommandSpec} {items : List Item} {trailing : Option (List String)}
    (legals : forall item, item ∈ items -> Legal command item)
    (complete : Level.ok ⟨command, items, trailing⟩ = true)
    (never : (command.options.all fun option => option.hyphens != .always) = true) :
    Bound command items := by
  apply bound_of_ok legals complete
  intro option value found hyphens _ _
  have other := List.all_eq_true.mp never option (option_mem found).1
  rw [hyphens] at other
  exact absurd other (by decide)

/-- A value that is bound is one its option accepts. -/
theorem accepts_of_firstValue {command : CommandSpec} {items : List Item}
    {trailing : Option (List String)} {name value : String} {option : OptionSpec}
    (complete : Level.ok ⟨command, items, trailing⟩ = true)
    (found : command.option name = some option) (given : firstValue items name = some value) :
    option.accepts value = true := by
  obtain ⟨known, named⟩ := option_mem found
  unfold Level.ok at complete
  rw [Bool.and_eq_true, List.all_eq_true] at complete
  have single := complete.1 option known
  unfold Level.optionOk at single
  simp only [Bool.and_eq_true] at single
  have listed : value ∈ Level.values ⟨command, items, trailing⟩ option.long := by
    rw [named]
    exact List.mem_of_head? given
  exact List.all_eq_true.mp single.1.1.2 value listed

/-- The rule on the host of ComfyUI. -/
theorem safety_comfyui {host : Host} {rest : List String}
    (safe : validateChatRocmCommandSafety host ("comfyui" :: "start" :: rest) = .ok ()) :
    forall value, chatCliArgValue "--host" rest = some value -> isLoopbackHost value = true := by
  have valid : validateComfyuiStart ("comfyui" :: "start" :: rest) = .ok () := by
    unfold validateChatRocmCommandSafety at safe
    have notServe : startsWith ["serve"] ("comfyui" :: "start" :: rest) = false := by
      simp [startsWith, show Text.eqIgnoreAsciiCase "comfyui" "serve" = false by decide]
    have starts : startsWith ["comfyui", "start"] ("comfyui" :: "start" :: rest) = true := by
      simp [startsWith, Text.eqIgnoreAsciiCase_refl]
    rw [notServe, starts] at safe
    obtain ⟨⟨⟩, valid, _⟩ := bind_ok.mp safe
    exact valid
  intro value given
  unfold validateComfyuiStart at valid
  rw [chatCliArgValue_plain (by decide) (by decide), chatCliArgValue_plain (by decide) (by decide),
    given] at valid
  have local' := refuseIf_ok.mp valid
  rwa [Bool.not_eq_false'] at local'

/-- An approved start of ComfyUI stays on this machine. -/
theorem comfyui_loopback {host : Host} {rest run : List String} {root : Level}
    (safe : validateChatRocmCommandSafety host ("comfyui" :: rest) = .ok ())
    (same : run = "comfyui" :: rest ∨ run = ("comfyui" :: rest) ++ ["--yes"])
    {behind : List String} (line : run = "comfyui" :: behind)
    (reads : Reads comfyuiCommand behind levels)
    (complete : forall level, level ∈ levels -> level.ok = true)
    (path : commandPath (root :: levels) = ["comfyui", "start"]) :
    isLoopbackHost ((valueOf (root :: levels) "--host").getD comfyuiDefaultHost) = true := by
  obtain ⟨subcommand, token, tokens, deeper, rfl, known, named, isStart, inner, rfl, innerOk⟩ :=
    subcommand_of_path rfl rfl reads complete path
  have isCommand : subcommand = comfyuiStartCommand := by
    simp only [comfyuiCommand, group, List.mem_cons, List.not_mem_nil, or_false] at known
    rcases known with rfl | rfl | rfl | rfl | rfl | rfl
    · exact absurd isStart (by decide)
    · exact absurd isStart (by decide)
    · exact absurd isStart (by decide)
    · exact absurd isStart (by decide)
    · rfl
    · exact absurd isStart (by decide)
  rw [isCommand] at inner named
  have isToken : token = "start" := List.mem_singleton.mp named
  rw [isToken] at line
  obtain ⟨items, trailing, rfl, tokensAre, legals⟩ := inner.leaf rfl
  have levelOk := innerOk _ (List.mem_singleton.mpr rfl)
  have bound := bound_of_never legals levelOk (by decide)
  obtain ⟨_, noTrailing⟩ := no_positionals rfl levelOk
  obtain ⟨rest', restIs, lines⟩ : exists rest', rest = "start" :: rest' ∧
      (rest' = items.flatMap Item.tokens ++ trailingTokens trailing ∨
        rest' ++ ["--yes"] = items.flatMap Item.tokens ++ trailingTokens trailing) := by
    rw [← tokensAre]
    rcases same with same | same
    · rw [line] at same
      exact ⟨tokens, (List.cons.inj same).2.symm, Or.inl rfl⟩
    · rw [line, List.cons_append] at same
      have behind := (List.cons.inj same).2
      cases rest with
      | nil => exact absurd behind (by simp)
      | cons second rest' =>
          rw [List.cons_append] at behind
          obtain ⟨isSecond, others⟩ := List.cons.inj behind
          rw [← isSecond]
          exact ⟨rest', rfl, Or.inr others.symm⟩
  rw [restIs] at safe
  have scanned : chatCliArgValue "--host" rest' = firstValue items "--host" :=
    scan_of_line comfyuiStart_simple bound (by decide) rfl (by decide) noTrailing lines rfl
      (by decide) (by decide)
  show isLoopbackHost ((firstValue items "--host").getD comfyuiDefaultHost) = true
  cases given : firstValue items "--host" with
  | none => decide
  | some value =>
      rw [given] at scanned
      exact safety_comfyui safe value scanned

/-! ## Scans without the consents -/

theorem isYes_shape {arg : String} (yes : isYes arg = true) :
    arg = "--yes" ∨ exists back, arg.toList = "--yes".toList ++ '=' :: back := by
  unfold isYes at yes
  rw [Bool.or_eq_true, beq_iff_eq] at yes
  refine yes.imp_right ?_
  intro attached
  unfold stripPrefix at attached
  by_cases starts : "--yes=".toList <+: arg.toList
  · obtain ⟨back, whole⟩ := starts
    exact ⟨back, whole.symm⟩
  · rw [if_neg starts] at attached
    exact nomatch attached

theorem isLong_of_isYes {arg : String} (yes : isYes arg = true) : isLong arg = true := by
  rcases isYes_shape yes with rfl | ⟨back, whole⟩
  · decide
  · exact isLong_of_start (by decide) whole

/-- A consent is no other option. -/
theorem attachedValue_of_isYes {name arg : String} (other : name ≠ "--yes")
    (yes : isYes arg = true) : attachedValue name arg = none := by
  unfold attachedValue
  rcases isYes_shape yes with rfl | ⟨back, whole⟩
  · rfl
  · rw [splitOnce_of_front (by decide) whole]
    exact if_neg other.symm

section WithoutYes

variable {name : String} (other : isYes name = false)
include other

/-- Taking the consents away keeps what a scan finds, unless it finds one. -/
theorem chatCliArgValue_withoutYes (args : List String)
    (noConsent : forall value, chatCliArgValue name args = some value -> isYes value = false) :
    chatCliArgValue name (withoutYes args) = chatCliArgValue name args := by
  have notYes : name ≠ "--yes" := by
    rintro rfl
    exact absurd other (by decide)
  induction args with
  | nil => rfl
  | cons arg rest ih =>
      unfold withoutYes at ih ⊢
      rw [chatCliArgValue] at noConsent ⊢
      by_cases yes : isYes arg = true
      · have different : arg ≠ name := by
          rintro rfl
          rw [yes] at other
          cases other
        have unnamed := attachedValue_of_isYes notYes yes
        rw [unnamed] at noConsent ⊢
        dsimp only at noConsent ⊢
        rw [if_neg different] at noConsent ⊢
        rw [List.filter_cons_of_neg (by simp [yes])]
        exact ih noConsent
      · rw [List.filter_cons_of_pos (by simp [yes]), chatCliArgValue]
        cases attached : attachedValue name arg with
        | some value => rfl
        | none =>
            rw [attached] at noConsent
            dsimp only at noConsent ⊢
            by_cases same : arg = name
            · rw [if_pos same] at noConsent ⊢
              rw [if_pos same]
              cases rest with
              | nil => rfl
              | cons value rest =>
                  rw [List.filter_cons_of_pos (by simp [noConsent value rfl])]
                  rfl
            · rw [if_neg same] at noConsent ⊢
              rw [if_neg same]
              exact ih noConsent

/-- A checked scan never finds a consent. -/
theorem checked_withoutYes {args : List String} {found : Option String}
    (scanned : chatCliArgValueChecked name args = .ok found) :
    chatCliArgValue name (withoutYes args) = found := by
  have notYes : name ≠ "--yes" := by
    rintro rfl
    exact absurd other (by decide)
  induction args with
  | nil =>
      cases scanned
      rfl
  | cons arg rest ih =>
      unfold withoutYes at ih ⊢
      rw [chatCliArgValueChecked] at scanned
      by_cases yes : isYes arg = true
      · have different : arg ≠ name := by
          rintro rfl
          rw [yes] at other
          cases other
        have unnamed := attachedValue_of_isYes notYes yes
        rw [unnamed] at scanned
        dsimp only at scanned
        rw [if_neg different] at scanned
        rw [List.filter_cons_of_neg (by simp [yes])]
        exact ih scanned
      · rw [List.filter_cons_of_pos (by simp [yes]), chatCliArgValue]
        cases attached : attachedValue name arg with
        | some value =>
            rw [attached] at scanned
            rcases ite_cases scanned with ⟨_, refused⟩ | ⟨_, finished⟩
            · cases refused
            · exact Except.ok.inj finished
        | none =>
            rw [attached] at scanned
            dsimp only at scanned ⊢
            by_cases same : arg = name
            · rw [if_pos same] at scanned
              rw [if_pos same]
              cases rest with
              | nil => cases scanned
              | cons value rest =>
                  rcases ite_cases scanned with ⟨_, refused⟩ | ⟨plain, finished⟩
                  · cases refused
                  · have notConsent : isYes value = false := by
                      apply Bool.eq_false_iff.mpr
                      intro consent
                      have long := isLong_iff.mp (isLong_of_isYes consent)
                      exact plain (Bool.or_eq_true_iff.mpr (Or.inl (decide_eq_true long)))
                    rw [List.filter_cons_of_pos (by simp [notConsent])]
                    exact Except.ok.inj finished
            · rw [if_neg same] at scanned
              rw [if_neg same]
              exact ih scanned

end WithoutYes

/-! ## `install sdk` -/

theorem installSdk_simple : Simple installSdkCommand := Simple.of_all (by decide)

/-- The rules on an install, for the arguments behind the two words. -/
structure InstallRules (host : Host) (rest : List String) : Prop where
  folder : exists folder, chatCliArgValueChecked "--prefix" rest = .ok (some folder) ∧
    chatInstallPrefixIsSystem host folder = false
  versions : exists version buildDate, chatCliArgValueChecked "--version" rest = .ok version ∧
    chatCliArgValueChecked "--build-date" rest = .ok buildDate ∧
    (version = none ∨ buildDate = none) ∧
    (version.isSome ∨ buildDate.isSome ->
      Text.eqIgnoreAsciiCase ((chatCliArgValue "--format" rest).getD "wheel") "wheel" = true)

theorem chatCliArgValueChecked_plain {name token : String} (long : isLong name = true)
    (plain : isLong token = false) (rest : List String) :
    chatCliArgValueChecked name (token :: rest) = chatCliArgValueChecked name rest := by
  obtain ⟨different, unnamed, _⟩ := plain_token long plain
  rw [chatCliArgValueChecked, unnamed]
  dsimp only
  rw [if_neg different]

theorem installRules_of_safe {host : Host} {rest : List String}
    (safe : validateChatRocmCommandSafety host ("install" :: "sdk" :: rest) = .ok ()) :
    InstallRules host rest := by
  have valid : validateInstallSdk host ("install" :: "sdk" :: rest) = .ok () := by
    unfold validateChatRocmCommandSafety at safe
    have notServe : startsWith ["serve"] ("install" :: "sdk" :: rest) = false := by
      simp [startsWith, show Text.eqIgnoreAsciiCase "install" "serve" = false by decide]
    have notStart : startsWith ["comfyui", "start"] ("install" :: "sdk" :: rest) = false := by
      simp [startsWith, show Text.eqIgnoreAsciiCase "install" "comfyui" = false by decide]
    have starts : startsWith ["install", "sdk"] ("install" :: "sdk" :: rest) = true := by
      simp [startsWith, Text.eqIgnoreAsciiCase_refl]
    rw [notServe, notStart, starts] at safe
    exact safe
  unfold validateInstallSdk at valid
  obtain ⟨_, valid⟩ := refuseIf_then_ok.mp valid
  obtain ⟨version, versionScan, valid⟩ := bind_ok.mp valid
  obtain ⟨buildDate, dateScan, valid⟩ := bind_ok.mp valid
  obtain ⟨notBoth, valid⟩ := refuseIf_then_ok.mp valid
  obtain ⟨wheel, valid⟩ := refuseIf_then_ok.mp valid
  obtain ⟨_, _, valid⟩ := bind_ok.mp valid
  obtain ⟨_, _, valid⟩ := bind_ok.mp valid
  obtain ⟨found, prefixScan, valid⟩ := bind_ok.mp valid
  obtain ⟨folder, isFolder, valid⟩ := bind_ok.mp valid
  rw [required_ok] at isFolder
  rw [isFolder] at prefixScan
  rw [chatCliArgValueChecked_plain (by decide) (by decide),
    chatCliArgValueChecked_plain (by decide) (by decide)] at versionScan dateScan prefixScan
  rw [chatCliArgValue_plain (by decide) (by decide),
    chatCliArgValue_plain (by decide) (by decide)] at wheel
  refine ⟨⟨folder, prefixScan, refuseIf_ok.mp valid⟩,
    version, buildDate, versionScan, dateScan, ?_, ?_⟩
  · rw [Bool.and_eq_false_iff, Option.isSome_eq_false_iff, Option.isSome_eq_false_iff,
      Option.isNone_iff_eq_none, Option.isNone_iff_eq_none] at notBoth
    exact notBoth
  · intro given
    rw [← Bool.or_eq_true] at given
    rw [given, Bool.true_and, Bool.not_eq_false'] at wheel
    exact wheel

section InstallSdk

variable {host : Host} {root parent : Level} {args rest run tokens : List String} {items : List Item}
  {trailing : Option (List String)}
  (bound : Bound installSdkCommand items)
  (complete : Level.ok ⟨installSdkCommand, items, trailing⟩ = true)
  (rules : InstallRules host rest)
  (line : withoutYes rest = items.flatMap Item.tokens ++ trailingTokens trailing ∨
    (withoutYes rest ++ ["--approve-replacing-active-default"] =
        items.flatMap Item.tokens ++ trailingTokens trailing ∧
      "--dry-run" ∉ withoutYes rest))
include bound complete line

/-- What the scans of the line without consents find is bound. -/
theorem installSdk_scan (name : String) {option : OptionSpec}
    (found : installSdkCommand.option name = some option) (takes : option.arity ≠ .flag)
    (named : name ≠ "--") : chatCliArgValue name (withoutYes rest) = firstValue items name :=
  scan_of_line installSdk_simple bound (by decide) rfl (by decide) (no_positionals rfl complete).2
    (line.imp_right And.left) found takes named

omit bound complete in
theorem installSdk_tokens {token : String} (notApproval : token ≠ "--approve-replacing-active-default")
    (member : token ∈ items.flatMap Item.tokens) : token ∈ withoutYes rest := by
  rcases line with whole | ⟨whole, _⟩
  · rw [whole]
    exact List.mem_append_left _ member
  · have listed : token ∈ withoutYes rest ++ ["--approve-replacing-active-default"] := by
      rw [whole]
      exact List.mem_append_left _ member
    exact (List.mem_append.mp listed).resolve_right fun last =>
      notApproval (List.mem_singleton.mp last)

omit complete in
theorem installSdk_flag {name : String} {option : OptionSpec}
    (found : installSdkCommand.option name = some option) (isFlag : option.arity = .flag)
    (notApproval : name ≠ "--approve-replacing-active-default")
    (isSet : Level.isSet ⟨installSdkCommand, items, trailing⟩ name = true) :
    name ∈ withoutYes rest := by
  have member := (isSet_iff_flag installSdk_simple.noShorts bound.legal found isFlag trailing).mp
    isSet
  exact installSdk_tokens line notApproval
    (List.mem_flatMap.mpr ⟨_, member, List.mem_singleton.mpr rfl⟩)

include rules

/-- The version and the build date that are bound are the ones that were checked. -/
theorem installSdk_versions :
    (firstValue items "--version" = none ∨ firstValue items "--build-date" = none) ∧
      ((firstValue items "--version").isSome ∨ (firstValue items "--build-date").isSome ->
        (firstValue items "--format").getD "wheel" = "wheel") := by
  obtain ⟨version, buildDate, versionScan, dateScan, notBoth, wheel⟩ := rules.versions
  have isVersion := installSdk_scan bound complete line "--version" rfl (by decide) (by decide)
  have isDate := installSdk_scan bound complete line "--build-date" rfl (by decide) (by decide)
  have isFormat := installSdk_scan bound complete line "--format" rfl (by decide) (by decide)
  rw [checked_withoutYes (by decide) versionScan] at isVersion
  rw [checked_withoutYes (by decide) dateScan] at isDate
  rw [← isVersion, ← isDate]
  refine ⟨notBoth, ?_⟩
  intro given
  have isWheel := wheel given
  have noConsent : forall value, chatCliArgValue "--format" rest = some value ->
      isYes value = false := by
    intro value found
    rw [found, Option.getD_some] at isWheel
    apply Bool.eq_false_iff.mpr
    intro yes
    obtain ⟨back, whole⟩ := isLong_shape (isLong_of_isYes yes)
    have heads := congrArg List.head? (Text.eqIgnoreAsciiCase_iff.mp isWheel)
    rw [whole, List.map_cons, List.head?_cons] at heads
    exact absurd heads (by decide)
  rw [chatCliArgValue_withoutYes (by decide) rest noConsent] at isFormat
  rw [← isFormat]
  cases found : chatCliArgValue "--format" rest with
  | none => rfl
  | some value =>
      rw [found, Option.getD_some] at isWheel
      rw [Option.getD_some]
      have accepted : oneOfNames ["wheel", "tarball"] value = true :=
        @accepts_of_firstValue _ _ _ _ _ (valued "--format" (oneOfNames ["wheel", "tarball"]))
          complete rfl (isFormat.symm.trans found)
      have names := List.contains_iff_mem.mp accepted
      simp only [List.mem_cons, List.not_mem_nil, or_false] at names
      rcases names with rfl | rfl
      · rfl
      · exact absurd isWheel (by decide)

theorem installSdk_safe
    (ran : run = "install" :: "sdk" :: (items.flatMap Item.tokens ++ trailingTokens trailing))
    (asked : args = "install" :: "sdk" :: rest) :
    InstallSdkSafe host args run [root, parent, ⟨installSdkCommand, items, trailing⟩] := by
  obtain ⟨oneVersion, wheel⟩ := installSdk_versions bound complete rules line
  obtain ⟨folder, scanned, allowed⟩ := rules.folder
  refine ⟨?_, ⟨folder, ?_, ?_⟩, oneVersion, wheel, ?_⟩
  · apply Bool.eq_false_iff.mpr
    intro isSet
    have kept := installSdk_flag bound line rfl rfl (by decide) isSet
    have notYes := (List.mem_filter.mp kept).2
    exact absurd notYes (by decide)
  · have isFolder := installSdk_scan bound complete line "--prefix" rfl (by decide) (by decide)
    rw [checked_withoutYes (by decide) scanned] at isFolder
    exact isFolder.symm
  · unfold chatInstallPrefixIsSystem at allowed
    rw [Bool.or_eq_false_iff] at allowed
    exact refusedUnderNoSpelling allowed.2
  · intro isSet approved
    have previewed := installSdk_flag bound line rfl rfl (by decide) isSet
    rw [asked]
    rcases line with whole | ⟨_, noPreview⟩
    · rw [ran, ← whole] at approved
      have later := (List.mem_cons.mp ((List.mem_cons.mp approved).resolve_left
        (by decide))).resolve_left (by decide)
      exact List.mem_cons_of_mem _ (List.mem_cons_of_mem _ (List.mem_filter.mp later).1)
    · exact absurd previewed noPreview

end InstallSdk

/-! ## The command that runs -/

section Runs

variable {host : Host} {ranges : DecimalRanges} {args run : List String} {first : String}
  {rest : List String} {second : Option String} {pendingTitle commandTitle : String}

omit host in
theorem ensureFlag_cons (first : String) (rest : List String) (flag : String) :
    ensureFlag (first :: rest) flag = first :: rest ∨
      ensureFlag (first :: rest) flag = first :: rest ++ [flag] := by
  unfold ensureFlag
  by_cases given : (first :: rest).contains flag = true
  · exact Or.inl (if_pos given)
  · exact Or.inr (if_neg given)

theorem withoutYes_cons {word : String} (lowered : toAsciiLowercase first = word)
    (notHyphen : word.toList.head? ≠ some '-') :
    withoutYes (first :: rest) = first :: withoutYes rest := by
  unfold withoutYes
  rw [List.filter_cons, not_isYes_of_lowercase lowered notHyphen]
  rfl

theorem ensureFlag_head (first : String) (rest : List String) (flag : String) :
    exists behind, ensureFlag (first :: rest) flag = first :: behind := by
  rcases ensureFlag_cons first rest flag with same | added
  · exact ⟨rest, same⟩
  · exact ⟨rest ++ [flag], added⟩

variable {action : ChatRocmCommandAction}

/-- The first word stays first. -/
theorem first_of_sorted
    (sorted : Sorted host (first :: rest) (toAsciiLowercase first) second action) :
    exists behind, action.args = first :: behind := by
  cases sorted with
  | readOnly _ => exact ⟨rest, rfl⟩
  | approval _ _ => exact ⟨rest, rfl⟩
  | withYes _ _ => exact ensureFlag_head first rest "--yes"
  | installSdk install _ =>
      have kept : withoutYes (first :: rest) = first :: withoutYes rest :=
        withoutYes_cons install (by decide)
      unfold chatInstallSdkAction ChatRocmCommandAction.args
      rw [kept]
      by_cases previewed : (first :: withoutYes rest).contains "--dry-run" = true
      · exact ⟨withoutYes rest, if_pos previewed⟩
      · dsimp only
        rw [if_neg previewed]
        exact ensureFlag_head _ _ _
  | installDriver install _ =>
      have kept : withoutYes (first :: rest) = first :: withoutYes rest :=
        withoutYes_cons install (by decide)
      cases reports : host.installDriverOnlyReports with
      | true => exact ⟨withoutYes rest, kept⟩
      | false =>
          unfold chatInstallDriverAction ChatRocmCommandAction.args
          rw [kept]
          exact ensureFlag_head _ _ _

theorem sortCommand_serve (host : Host) (args : List String) (second : Option String) :
    sortCommand host args "serve" second =
      .ok (.approval args "Start local model server" "Serve") := rfl

theorem sortCommand_install (host : Host) (args : List String) (second : Option String) :
    sortCommand host args "install" second = sortInstall host args second := rfl

/-- A path that starts with a word is the path of a command with that name. -/
theorem word_of_path {deeper : List Level} {root : Level} {subcommand : CommandSpec}
    {behind path : List String} {word : String} (reads : Reads subcommand behind deeper)
    (shape : levels = root :: deeper) (isPath : commandPath levels = word :: path) :
    subcommand.name = word := by
  obtain ⟨items, trailing, deepest, rfl⟩ := reads.head
  rw [shape, commandPath, List.tail_cons, List.map_cons] at isPath
  exact (List.cons.inj isPath).1

/-- `serve` is safe exactly when the model's name is read as no option. -/
theorem serve_safe_iff (safe : validateChatRocmCommandSafety host ("serve" :: rest) = .ok ())
    (parsed : parseRocm ranges ("serve" :: rest) = some levels)
    (fraction : forall value, value ∈ valuesOf levels "--gpu-memory-utilization" ->
      parseGpuMemoryUtilization ranges value = true) :
    commandPath levels = ["serve"] ∧ (ServeSafe levels ↔ ¬ Masks ("serve" :: rest)) := by
  obtain ⟨token, behind, subcommand, deeper, same, found, reads, complete, rfl⟩ :=
    first_command parsed (by simp) (by simp)
  cases same
  have isServe : some (serveCommand ranges) = some subcommand := found
  cases isServe
  obtain ⟨items, trailing, rfl, rfl, legals⟩ := reads.leaf rfl
  have levelOk := complete _ (List.mem_singleton.mpr rfl)
  have bound := serve_bound legals levelOk fraction
  refine ⟨rfl, not_masks_of_serveSafe _ bound levelOk, ?_⟩
  exact serveSafe_of_not_masks _ bound levelOk (safety_serve safe)

theorem comfyui_safe (safe : validateChatRocmCommandSafety host (first :: rest) = .ok ())
    (sorted : Sorted host (first :: rest) (toAsciiLowercase first) second action)
    (isFirst : first = "comfyui") (parsed : parseRocm ranges action.args = some levels)
    (path : commandPath levels = ["comfyui", "start"]) :
    isLoopbackHost ((valueOf levels "--host").getD comfyuiDefaultHost) = true := by
  subst isFirst
  have notInstall : toAsciiLowercase "comfyui" ≠ "install" := by decide
  have ran : action.args = "comfyui" :: rest ∨ action.args = ("comfyui" :: rest) ++ ["--yes"] := by
    cases sorted with
    | readOnly _ => exact Or.inl rfl
    | approval _ _ => exact Or.inl rfl
    | withYes _ _ => exact ensureFlag_cons "comfyui" rest "--yes"
    | installSdk install _ => exact absurd install notInstall
    | installDriver install _ => exact absurd install notInstall
  obtain ⟨behind, starts⟩ := first_of_sorted sorted
  rw [starts] at parsed
  obtain ⟨token, others, subcommand, deeper, same, found, reads, complete, rfl⟩ :=
    first_command parsed (by simp) (by simp)
  cases same
  have isComfyui : some comfyuiCommand = some subcommand := found
  cases isComfyui
  exact comfyui_loopback safe ran starts reads complete path

theorem installSdk_args (args : List String) :
    (chatInstallSdkAction args).args = if (withoutYes args).contains "--dry-run" then withoutYes args
      else ensureFlag (withoutYes args) "--approve-replacing-active-default" := rfl

/-- The consent to replace the active runtime is all that is added, and only to
a command that is no preview. -/
theorem installSdk_line {second : String} {kept tokens : List String}
    (line : (if ("install" :: second :: kept).contains "--dry-run" then "install" :: second :: kept
      else ensureFlag ("install" :: second :: kept) "--approve-replacing-active-default") =
        "install" :: "sdk" :: tokens) :
    second = "sdk" ∧ (kept = tokens ∨
      (kept ++ ["--approve-replacing-active-default"] = tokens ∧ "--dry-run" ∉ kept)) := by
  rcases ite_cases line with ⟨_, same⟩ | ⟨notPreview, ensured⟩
  · obtain ⟨isSecond, others⟩ := List.cons.inj (List.cons.inj same).2
    exact ⟨isSecond, Or.inl others⟩
  rcases ensureFlag_cons "install" (second :: kept) "--approve-replacing-active-default" with
    same | added
  · obtain ⟨isSecond, others⟩ := List.cons.inj (List.cons.inj (same.symm.trans ensured)).2
    exact ⟨isSecond, Or.inl others⟩
  · obtain ⟨isSecond, others⟩ := List.cons.inj (List.cons.inj (added.symm.trans ensured)).2
    refine ⟨isSecond, Or.inr ⟨others, ?_⟩⟩
    intro member
    apply notPreview
    rw [List.contains_iff_mem]
    exact List.mem_cons_of_mem _ (List.mem_cons_of_mem _ member)

theorem installDriver_head {second : String} {kept : List String} (onlyReports : Bool)
    (shape : withoutYes args = "install" :: second :: kept) :
    exists tail, (chatInstallDriverAction args onlyReports).args = "install" :: second :: tail := by
  unfold chatInstallDriverAction ChatRocmCommandAction.args
  rw [shape]
  cases onlyReports with
  | true => exact ⟨kept, rfl⟩
  | false =>
      rcases ensureFlag_cons "install" (second :: kept) "--yes" with same | added
      · exact ⟨kept, same⟩
      · exact ⟨kept ++ ["--yes"], added⟩

theorem installSdk_run_safe (safe : validateChatRocmCommandSafety host (first :: rest) = .ok ())
    (sorted : sortCommand host (first :: rest) (toAsciiLowercase first)
      (rest.head?.map toAsciiLowercase) = .ok action) (isFirst : first = "install")
    (parsed : parseRocm ranges action.args = some levels)
    (path : commandPath levels = ["install", "sdk"]) :
    InstallSdkSafe host (first :: rest) action.args levels := by
  subst isFirst
  obtain ⟨behind, starts⟩ := first_of_sorted (sortCommand_sorted sorted)
  have lowered : toAsciiLowercase "install" = "install" := by decide
  rw [lowered, sortCommand_install] at sorted
  have parsed' := parsed
  rw [starts] at parsed'
  obtain ⟨token, others, subcommand, deeper, same, found, reads, complete, rfl⟩ :=
    first_command parsed' (by simp) (by simp)
  cases same
  have isInstall : some installCommand = some subcommand := found
  cases isInstall
  obtain ⟨inner, word, tokens, deepest, rfl, known, named, isSdk, readsSdk, rfl, innerOk⟩ :=
    subcommand_of_path rfl rfl reads complete path
  have isCommand : inner = installSdkCommand := by
    simp only [installCommand, group, List.mem_cons, List.not_mem_nil, or_false] at known
    rcases known with rfl | rfl
    · rfl
    · exact absurd isSdk (by decide)
  rw [isCommand] at readsSdk named
  have isWord : word = "sdk" := List.mem_singleton.mp named
  rw [isWord] at starts
  obtain ⟨items, trailing, rfl, tokensAre, legals⟩ := readsSdk.leaf rfl
  have levelOk := innerOk _ (List.mem_singleton.mpr rfl)
  have bound := bound_of_never legals levelOk (by decide)
  have keptFirst : withoutYes ("install" :: rest) = "install" :: withoutYes rest :=
    withoutYes_cons lowered (by decide)
  rcases ite_cases sorted with ⟨sdk, sorted⟩ | ⟨_, sorted⟩
  · cases rest with
    | nil => exact nomatch sdk
    | cons second rest =>
        have keptSecond : withoutYes (second :: rest) = second :: withoutYes rest :=
          withoutYes_cons (Option.some.inj (oneOf_single.mp sdk)) (by decide)
        rw [keptSecond] at keptFirst
        cases sorted
        have lines := starts
        rw [installSdk_args, keptFirst] at lines
        rw [tokensAre] at starts lines
        obtain ⟨isSecond, line⟩ := installSdk_line lines
        rw [isSecond] at safe starts ⊢
        exact installSdk_safe bound levelOk (installRules_of_safe safe) line starts rfl
  rcases ite_cases sorted with ⟨driver, sorted⟩ | ⟨_, sorted⟩
  · cases rest with
    | nil => exact nomatch driver
    | cons second rest =>
        have secondLow := Option.some.inj (oneOf_single.mp driver)
        have keptSecond : withoutYes (second :: rest) = second :: withoutYes rest :=
          withoutYes_cons secondLow (by decide)
        rw [keptSecond] at keptFirst
        cases sorted
        obtain ⟨tail, whole⟩ := installDriver_head host.installDriverOnlyReports keptFirst
        rw [whole] at starts
        rw [(List.cons.inj (List.cons.inj starts).2).1] at secondLow
        exact absurd secondLow (by decide)
  · exact unsupported_ne_ok sorted

end Runs

/-! ## The claim -/

/-- An approved command obeys the rules, except a `serve` whose model, behind a
bare `--`, is spelled like the option that a rule looks for. -/
theorem approved_commands_safe {host : Host} {ranges : DecimalRanges} {args run : List String}
    {pendingTitle commandTitle : String} {levels : List Level}
    (accepted : chatRocmCommandActionFromArgs host args =
      .ok (.approval run pendingTitle commandTitle))
    (parsed : parseRocm ranges run = some levels)
    (fraction : forall value, value ∈ valuesOf levels "--gpu-memory-utilization" ->
      parseGpuMemoryUtilization ranges value = true) :
    ApprovedSafe host args run levels ↔ ¬ (args.head? = some "serve" ∧ Masks args) := by
  obtain ⟨first, rest, canonical, safe, sorted⟩ := chatRocmCommandActionFromArgs_ok accepted
  have shapes := sortCommand_sorted sorted
  obtain ⟨behind, starts⟩ := first_of_sorted shapes
  have starts : run = first :: behind := starts
  have notEscape : run ≠ ["--"] := by
    rintro rfl
    rw [← (List.cons.inj starts).1] at sorted
    have lowered : toAsciiLowercase "--" = "--" := by decide
    rw [lowered] at sorted
    have refused : unsupported "--" = .ok (.approval ["--"] pendingTitle commandTitle) := sorted
    exact unsupported_ne_ok refused
  obtain ⟨token, others, subcommand, deeper, same, found, reads, _, isLevels⟩ :=
    first_command parsed (by rw [starts]; exact List.cons_ne_nil _ _) notEscape
  have isFirst : token = first := (List.cons.inj (same.symm.trans starts)).1
  rw [isFirst] at found
  have lowered := toAsciiLowercase_name found
  have words := commandWords_of_found found
  have unnamed : first ≠ "comfyui" -> first :: rest = args := eq_of_canonicalArgs canonical.symm
  have serves : first = "serve" -> args = "serve" :: rest ∧ commandPath levels = ["serve"] ∧
      (ServeSafe levels ↔ ¬ Masks args) := by
    intro isServe
    subst isServe
    have asked := (unnamed (by decide)).symm
    rw [lowered, sortCommand_serve] at sorted
    have ran : "serve" :: rest = run := by
      cases sorted
      rfl
    rw [← ran] at parsed
    rw [asked]
    exact ⟨rfl, serve_safe_iff safe parsed fraction⟩
  have named : forall {word path}, commandPath levels = word :: path -> subcommand.name = word :=
    fun isPath => word_of_path reads isLevels isPath
  constructor
  · rintro obeys ⟨isHead, masks⟩
    have isServe : first = "serve" := by
      cases args with
      | nil => exact nomatch isHead
      | cons arg others' =>
          rw [List.head?_cons, Option.some.injEq] at isHead
          rw [isHead] at canonical
          have kept : canonicalArgs ("serve" :: others') = "serve" :: others' := rfl
          exact (List.cons.inj (canonical.symm.trans kept)).1
    obtain ⟨_, isPath, exact'⟩ := serves isServe
    exact exact'.mp (obeys.serve isPath) masks
  · intro unmasked
    refine ⟨?_, ?_, ?_⟩
    · intro isPath
      rw [named isPath] at words
      have isServe : first = "serve" := by simpa [commandWords] using words
      obtain ⟨asked, _, exact'⟩ := serves isServe
      refine exact'.mpr fun masks => unmasked ⟨?_, masks⟩
      rw [asked]
      rfl
    · intro isPath
      rw [named isPath] at words
      have either : first = "comfyui" ∨ first = "comfy" := by simpa [commandWords] using words
      rcases either with isComfyui | short
      · exact comfyui_safe safe shapes isComfyui parsed isPath
      · rw [lowered, short] at sorted
        have refused : unsupported "comfy" = .ok (.approval run pendingTitle commandTitle) := sorted
        exact unsupported_ne_ok refused
    · intro isPath
      rw [named isPath] at words
      have isInstall : first = "install" := by simpa [commandWords] using words
      rw [← unnamed (by rw [isInstall]; decide)]
      exact installSdk_run_safe safe sorted isInstall parsed isPath

def anyRanges : DecimalRanges := ⟨fun _ => true, fun _ => true, fun _ => true⟩

theorem approved_serve_safe :
    ApprovedSafe linuxHost ["serve", "qwen", "--managed"] ["serve", "qwen", "--managed"]
      [⟨cli anyRanges, [], none⟩,
        ⟨serveCommand anyRanges, [.positional "qwen", .flag "--managed"], none⟩] := by
  have accepted : chatRocmCommandActionFromArgs linuxHost ["serve", "qwen", "--managed"] =
      .ok (.approval ["serve", "qwen", "--managed"] "Start local model server" "Serve") := rfl
  refine (approved_commands_safe accepted rfl (fun value member => nomatch member)).mpr ?_
  rintro ⟨_, early, model, split, _⟩
  have ends := congrArg List.reverse split
  rw [List.reverse_append] at ends
  exact absurd (List.cons.inj (List.cons.inj ends).2).1 (by decide)

/-- The log of a server that the rules want in the background is streamed here. -/
theorem model_named_managed :
    ¬ forall (host : Host) (ranges : DecimalRanges) (args run : List String)
      (pendingTitle commandTitle : String) (levels : List Level),
      chatRocmCommandActionFromArgs host args = .ok (.approval run pendingTitle commandTitle) ->
      parseRocm ranges run = some levels ->
      (forall value, value ∈ valuesOf levels "--gpu-memory-utilization" ->
        parseGpuMemoryUtilization ranges value = true) ->
      ApprovedSafe host args run levels := by
  intro claimed
  have safe := claimed linuxHost anyRanges ["serve", "--verbose", "--", "--managed"]
    ["serve", "--verbose", "--", "--managed"] "Start local model server" "Serve"
    [⟨cli anyRanges, [], none⟩,
      ⟨serveCommand anyRanges, [.flag "--verbose"], some ["--managed"]⟩] rfl rfl
    (fun value member => nomatch member)
  have quiet := (safe.serve rfl).notVerbose
  have streamed : isSet [⟨cli anyRanges, [], none⟩,
      ⟨serveCommand anyRanges, [.flag "--verbose"], some ["--managed"]⟩] "--verbose" = true := rfl
  rw [streamed] at quiet
  exact nomatch quiet

end ToolPolicy
end RocmCli
