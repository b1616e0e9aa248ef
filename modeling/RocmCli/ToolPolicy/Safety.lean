import RocmCli.ToolPolicy.ReadOnly
import RocmCli.ToolPolicy.Scanning
import RocmCli.Paths.Protection

namespace RocmCli
namespace ToolPolicy

open CommandLine
open Text (splitOnce)
open Paths (Denotes SamePlace InProtectedPlace StrictlyInside SameOrInside
  runtimeInstallRootIsProtected)

/-!
# The safety rules and the command that runs

What the rules on proposed commands promise of the command that the program
then parses.  They hold for `comfyui start` and `install sdk`.  For `serve`
they hold unless the model's name, behind a bare `--`, is spelled like the
option that a rule looks for.
-/

/-! ## Values that do not look like options -/

variable {value : String}

/-- Trimming keeps a text that starts with two characters that are not white
space. -/
theorem trim_keeps {first second : Char} {rest : List Char}
    (whole : value.toList = first :: second :: rest) (firstKept : Text.isWhitespace first = false)
    (secondKept : Text.isWhitespace second = false) :
    exists back, (Text.trim value).toList = first :: second :: back := by
  have headKept : forall character, ([first] ++ [second]).head? = some character ->
      Text.isWhitespace character = false := by
    intro character isHead
    rw [← Option.some.inj isHead]
    exact firstKept
  exact ⟨_, @Text.trim_kept value [first] rest second whole headKept secondKept⟩

theorem isLong_shape {token : String} (long : isLong token = true) :
    exists rest, token.toList = '-' :: '-' :: rest := by
  obtain ⟨rest, whole⟩ := isLong_iff.mp long
  exact ⟨rest, whole.symm⟩

/-- A port is no option. -/
theorem not_isLong_of_port (accepted : (parseServePort value).toBool = true) :
    isLong value = false := by
  apply Bool.eq_false_iff.mpr
  intro long
  obtain ⟨rest, whole⟩ := isLong_shape long
  obtain ⟨back, trimmed⟩ := trim_keeps whole (by decide) (by decide)
  have unread : Text.parseU64 (Text.trim value) = none := by
    unfold Text.parseU64
    rw [trimmed]
    simp
  unfold parseServePort at accepted
  rw [unread] at accepted
  exact nomatch accepted

theorem not_isLong_of_decimal (decimal : isDecimal value = true) : isLong value = false := by
  apply Bool.eq_false_iff.mpr
  intro long
  obtain ⟨rest, whole⟩ := isLong_shape long
  unfold isDecimal at decimal
  rw [whole, dropSign] at decimal
  have lowered : (toAsciiLowercase (String.ofList ('-' :: rest))).toList.head? = some '-' := by
    rw [toAsciiLowercase, String.toList_ofList, String.toList_ofList]
    rfl
  have unnamed : (["inf", "infinity", "nan"].contains
      (toAsciiLowercase (String.ofList ('-' :: rest)))) = false := by
    apply Bool.eq_false_iff.mpr
    intro named
    rw [List.contains_iff_mem] at named
    have heads : forall word, word ∈ ["inf", "infinity", "nan"] ->
        word.toList.head? ≠ some '-' := by decide
    exact heads _ named lowered
  have notNumber : isUnsignedDecimal ('-' :: rest) = false := rfl
  dsimp only at decimal
  rw [unnamed, notNumber] at decimal
  cases decimal

theorem not_isLong_of_gpuMemory {ranges : DecimalRanges}
    (accepted : parseGpuMemoryUtilization ranges value = true) : isLong value = false := by
  apply Bool.eq_false_iff.mpr
  intro long
  obtain ⟨rest, whole⟩ := isLong_shape long
  obtain ⟨back, trimmed⟩ := trim_keeps whole (by decide) (by decide)
  unfold parseGpuMemoryUtilization at accepted
  rw [Bool.and_eq_true] at accepted
  have plain := not_isLong_of_decimal accepted.1
  rw [isLong, trimmed] at plain
  exact nomatch plain

theorem not_isLong_of_negativeNumber (number : isNegativeNumber value = true) :
    isLong value = false := by
  apply Bool.eq_false_iff.mpr
  intro long
  obtain ⟨rest, whole⟩ := isLong_shape long
  unfold isNegativeNumber at number
  rw [whole] at number
  have notNumber : isNumber ('-' :: rest) = false := by
    unfold isNumber
    simp
  have taken : isNumber ('-' :: rest) = true := number
  rw [notNumber] at taken
  exact nomatch taken

/-- The separate values of a complete level do not look like options, if the
options that take any token are given values that do not. -/
theorem bound_of_ok {command : CommandSpec} {items : List Item} {trailing : Option (List String)}
    (legals : forall item, item ∈ items -> Legal command item)
    (complete : Level.ok ⟨command, items, trailing⟩ = true)
    (always : forall option value, command.option option.long = some option ->
      option.hyphens = .always -> option.accepts value = true -> value ∈ Level.values ⟨command, items, trailing⟩ option.long ->
      isLong value = false) : Bound command items := by
  refine ⟨legals, ?_⟩
  intro long value member
  cases legals _ member with
  | @separate _ _ option found _ admits =>
      obtain ⟨known, named⟩ := option_mem found
      unfold OptionSpec.admits at admits
      rw [Bool.or_eq_true, Bool.not_eq_true'] at admits
      rcases admits with plain | taken
      · exact isLong_of_plain plain
      cases hyphens : option.hyphens with
      | never =>
          rw [hyphens] at taken
          exact nomatch taken
      | numbers =>
          rw [hyphens] at taken
          exact not_isLong_of_negativeNumber taken
      | always =>
          have listed : value ∈ Level.values ⟨command, items, trailing⟩ option.long := by
            unfold Level.values
            refine List.mem_filterMap.mpr ⟨_, member, ?_⟩
            rw [named]
            simp [Item.valueOf]
          have accepted : option.accepts value = true := by
            unfold Level.ok at complete
            rw [Bool.and_eq_true, List.all_eq_true] at complete
            have single := complete.1 option known
            unfold Level.optionOk at single
            simp only [Bool.and_eq_true] at single
            exact List.all_eq_true.mp single.1.1.2 value listed
          exact always option value (by rw [named]; exact found) hyphens accepted listed

/-! ## What the rules promise -/

/-- The values of an option of the command that runs. -/
def valuesOf (levels : List Level) (long : String) : List String :=
  (levels.getLast?.map fun level => level.values long).getD []

structure ServeSafe (levels : List Level) : Prop where
  loopback : isLoopbackHost ((valueOf levels "--host").getD defaultLocalHost) = true
  notPublic : isSet levels "--allow-public-bind" = false
  notCpu : forall device, valueOf levels "--device" = some device ->
    device ≠ "cpu" ∧ device ≠ "cpu_only"
  notForeground : isSet levels "--foreground" = false
  notVerbose : isSet levels "--verbose" = false
  portOrDefault : valueOf levels "--port" = none ->
    (valueOf levels "--host").getD defaultLocalHost = defaultLocalHost

def comfyuiDefaultHost : String := "127.0.0.1"

/-- The guard refuses a folder under none of its spellings. -/
def RefusedUnderNoSpelling (host : Host) (folder : String) : Prop :=
  runtimeInstallRootIsProtected host.platform host.separator host.home folder.toList = false ∧
    forall spelling place place', Denotes host.platform folder.toList place ->
      Denotes host.platform spelling place' -> SamePlace host.platform place place' ->
      (forall home, host.home = some home -> exists owner, Denotes host.platform home owner) ->
      runtimeInstallRootIsProtected host.platform host.separator host.home spelling = false

structure InstallSdkSafe (host : Host) (args run : List String) (levels : List Level) : Prop where
  noConsent : isSet levels "--yes" = false
  folder : exists folder, valueOf levels "--prefix" = some folder ∧
    RefusedUnderNoSpelling host folder
  oneVersion : valueOf levels "--version" = none ∨ valueOf levels "--build-date" = none
  wheel : (valueOf levels "--version").isSome ∨ (valueOf levels "--build-date").isSome ->
    (valueOf levels "--format").getD "wheel" = "wheel"
  previewAlone : isSet levels "--dry-run" = true ->
    "--approve-replacing-active-default" ∈ run -> "--approve-replacing-active-default" ∈ args

/-- What runs after an approval obeys the rules. -/
structure ApprovedSafe (host : Host) (args run : List String) (levels : List Level) : Prop where
  serve : commandPath levels = ["serve"] -> ServeSafe levels
  comfyui : commandPath levels = ["comfyui", "start"] ->
    isLoopbackHost ((valueOf levels "--host").getD comfyuiDefaultHost) = true
  installSdk : commandPath levels = ["install", "sdk"] -> InstallSdkSafe host args run levels

/-! ## Spellings of one folder -/

variable {platform : Paths.RuntimePlatform}

theorem foldCase_posix (posix : platform.isWindows = false) (place : Paths.Place) :
    place.foldCase platform = place := by
  have same : Paths.foldCase platform = id := by
    funext text
    exact if_neg (by rw [posix]; decide)
  rcases place with ⟨_ | letter | ⟨server, name⟩, components⟩ <;>
    simp [Paths.Place.foldCase, Paths.Anchor.foldCase, posix, same]

theorem inProtectedPlace_iff {place place' : Paths.Place} (same : SamePlace platform place place') :
    InProtectedPlace platform place ↔ InProtectedPlace platform place' := by
  have bases : forall base, SameOrInside platform place base ↔ SameOrInside platform place' base :=
    fun base => same.sameOrInside_iff rfl
  have roots : platform.isWindows = false -> place = place' := by
    intro posix
    have folded : place.foldCase platform = place'.foldCase platform := same
    rwa [foldCase_posix posix, foldCase_posix posix] at folded
  unfold InProtectedPlace
  apply or_congr
  · exact and_congr_right fun posix => by rw [roots posix]
  · exact exists_congr fun base => and_congr_right fun _ => bases base

theorem strictlyInside_iff {place place' home : Paths.Place}
    (same : SamePlace platform place place') :
    StrictlyInside platform place home ↔ StrictlyInside platform place' home := by
  unfold StrictlyInside SamePlace
  rw [same.sameOrInside_iff rfl, show place.foldCase platform = place'.foldCase platform from same]

/-- A folder that is not refused is refused under no spelling. -/
theorem refusedUnderNoSpelling {host : Host} {folder : String}
    (free : runtimeInstallRootIsProtected host.platform host.separator host.home folder.toList =
      false) : RefusedUnderNoSpelling host folder := by
  refine ⟨free, ?_⟩
  intro spelling place place' denotes denotes' same homes
  rw [← Bool.not_eq_true] at free ⊢
  cases home : host.home with
  | none =>
      rw [home, Paths.runtimeInstallRootIsProtected_none denotes] at free
      rw [Paths.runtimeInstallRootIsProtected_none denotes', ← inProtectedPlace_iff same]
      exact free
  | some homeText =>
      obtain ⟨owner, ownerDenotes⟩ := homes homeText home
      rw [home, Paths.runtimeInstallRootIsProtected_iff denotes ownerDenotes] at free
      rw [Paths.runtimeInstallRootIsProtected_iff denotes' ownerDenotes,
        ← inProtectedPlace_iff same, ← strictlyInside_iff same]
      exact free

/-! ## The rules on `serve` -/

structure ServeRules (args : List String) : Prop where
  notPublic : chatCliHasFlag "--allow-public-bind" args = false
  notCpu : serveArgsRequestCpuDevice args = false
  loopback : isLoopbackHost ((chatCliArgValue "--host" args).getD defaultLocalHost) = true
  notForeground : chatCliHasFlag "--foreground" args = false
  managed : chatCliHasFlag "--managed" args = true
  port : chatCliArgValue "--port" args = none ->
    isCanonicalLoopbackHost ((chatCliArgValue "--host" args).getD defaultLocalHost) = true

theorem serveRules_of_ok {args : List String} (valid : validateServe args = .ok ()) :
    ServeRules args := by
  unfold validateServe at valid
  obtain ⟨⟨⟩, safe, valid⟩ := bind_ok.mp valid
  obtain ⟨port, parsed, valid⟩ := bind_ok.mp valid
  unfold validateServeCommandSafety at safe
  obtain ⟨notPublic, safe⟩ := refuseIf_then_ok.mp safe
  obtain ⟨notCpu, safe⟩ := refuseIf_then_ok.mp safe
  obtain ⟨local', safe⟩ := refuseIf_then_ok.mp safe
  have managed := refuseIf_ok.mp safe
  rw [Bool.or_eq_false_iff, Bool.not_eq_false'] at managed
  rw [Bool.not_eq_false'] at local'
  refine ⟨notPublic, notCpu, local', managed.1, managed.2, ?_⟩
  intro noPort
  rw [noPort] at parsed
  cases parsed
  exact validatePortRequest_ok.mp valid rfl

/-- The rules are checked on the words they are about. -/
theorem safety_serve {host : Host} {rest : List String}
    (safe : validateChatRocmCommandSafety host ("serve" :: rest) = .ok ()) :
    ServeRules ("serve" :: rest) := by
  have starts : startsWith ["serve"] ("serve" :: rest) = true := by
    simp [startsWith, Text.eqIgnoreAsciiCase_refl]
  unfold validateChatRocmCommandSafety at safe
  rw [if_pos starts] at safe
  obtain ⟨⟨⟩, valid, _⟩ := bind_ok.mp safe
  exact serveRules_of_ok valid

/-! ## Where the model's name is read as an option -/

/-- The model's name counts as `--managed`, while the log is streamed here. -/
def MasksManaged (early : List String) (model : String) : Prop :=
  spellsFlag "--managed" model = true ∧ "--verbose" ∈ early

/-- The model's name counts as a port, on a host that needs one. -/
def MasksPort (early : List String) (model : String) : Prop :=
  (attachedValue "--port" model).isSome = true ∧ chatCliArgValue "--port" early = none ∧
    exists host, chatCliArgValue "--host" early = some host ∧ host ≠ defaultLocalHost

/-- A rule finds its option in the model's name behind a bare `--`. -/
def Masks (args : List String) : Prop :=
  exists early model, args = early ++ ["--", model] ∧
    (MasksManaged early model ∨ MasksPort early model)

section Serve

variable {ranges : DecimalRanges} {items : List Item} {trailing : Option (List String)}

/-- A complete `serve` has one positional argument, its model. -/
theorem serve_trailing (complete : Level.ok ⟨serveCommand ranges, items, trailing⟩ = true) :
    trailingTokens trailing = [] ∨ trailingTokens trailing = ["--"] ∨
      exists model, trailingTokens trailing = ["--", model] := by
  cases trailing with
  | none => exact Or.inl rfl
  | some behind =>
      have filled := fits_of_ok complete
      rw [Option.getD_some] at filled
      cases behind with
      | nil => exact Or.inr (Or.inl rfl)
      | cons model others =>
          cases values : items.filterMap Item.positional? with
          | nil =>
              rw [values] at filled
              have noOthers : others = [] := List.isEmpty_iff.mp filled
              rw [noOthers]
              exact Or.inr (Or.inr ⟨model, rfl⟩)
          | cons value others' =>
              rw [values] at filled
              have impossible := List.isEmpty_iff.mp filled
              exact absurd impossible (by simp)

/-- The shapes of the options do not depend on the ranges. -/
theorem serve_simple : Simple (serveCommand ranges) := by
  have any : Simple (serveCommand ⟨fun _ => true, fun _ => true, fun _ => true⟩) :=
    Simple.of_all (by decide)
  apply any.of_same_shapes
  simp [serveCommand, leaf, samplingOptions, runtimeOrEnv, shapeOf, against, valued, negative,
    flag, text]

theorem serve_bound (legals : forall item, item ∈ items -> Legal (serveCommand ranges) item)
    (complete : Level.ok ⟨serveCommand ranges, items, trailing⟩ = true)
    (fraction : forall value,
      value ∈ Level.values ⟨serveCommand ranges, items, trailing⟩ "--gpu-memory-utilization" ->
      parseGpuMemoryUtilization ranges value = true) : Bound (serveCommand ranges) items := by
  apply bound_of_ok legals complete
  intro option value found hyphens accepted listed
  have two : ((serveCommand ranges).options.all fun option => option.hyphens != .always ||
      option.long == "--port" || option.long == "--gpu-memory-utilization") = true := rfl
  have shape := List.all_eq_true.mp two option (option_mem found).1
  rw [hyphens, Bool.or_eq_true, Bool.or_eq_true, beq_iff_eq, beq_iff_eq] at shape
  rcases shape with (impossible | isPort) | isFraction
  · exact absurd impossible (by decide)
  · rw [isPort] at found
    cases found
    exact not_isLong_of_port accepted
  · rw [isFraction] at listed
    exact not_isLong_of_gpuMemory (fraction value listed)

end Serve

/-- Nothing but the bare `--` itself is one. -/
theorem escape_not_mem {command : CommandSpec} (simple : Simple command) {items : List Item}
    (bound : Bound command items) (unnamed : command.option "--" = none) :
    "--" ∉ items.flatMap Item.tokens := by
  intro member
  obtain ⟨item, isItem, isToken⟩ := List.mem_flatMap.mp member
  cases bound.kind simple isItem with
  | flag found _ =>
      rw [← List.mem_singleton.mp isToken, unnamed] at found
      exact nomatch found
  | attached split _ _ =>
      rw [← List.mem_singleton.mp isToken] at split
      have whole : splitOnce "--" = none := by decide
      rw [whole] at split
      exact nomatch split
  | separate found _ plain =>
      rcases List.mem_cons.mp isToken with same | isValue
      · rw [← same, unnamed] at found
        exact nomatch found
      · rw [← List.mem_singleton.mp isValue] at plain
        exact absurd plain (by decide)
  | positional plain =>
      rw [← List.mem_singleton.mp isToken] at plain
      exact absurd plain (by decide)

theorem chatCliArgValue_plain {name token : String} (long : isLong name = true)
    (plain : isLong token = false) (rest : List String) :
    chatCliArgValue name (token :: rest) = chatCliArgValue name rest := by
  obtain ⟨different, unnamed, _⟩ := plain_token long plain
  rw [chatCliArgValue, unnamed]
  dsimp only
  rw [if_neg different]

/-- A scan that comes to a bare `--` looks at the argument behind it. -/
theorem chatCliArgValue_escaped {name model : String} (notEscape : "--" ≠ name) :
    chatCliArgValue name ["--", model] = attachedValue name model := by
  have unnamed : attachedValue name "--" = none := rfl
  rw [chatCliArgValue, unnamed]
  dsimp only
  rw [if_neg notEscape, chatCliArgValue]
  cases attached : attachedValue name model with
  | some value => rfl
  | none =>
      dsimp only
      by_cases same : model = name
      · rw [if_pos same]
        rfl
      · rw [if_neg same]
        rfl

section ServeLine

variable {ranges : DecimalRanges} {items : List Item} {trailing : Option (List String)}
  (bound : Bound (serveCommand ranges) items)
include bound

variable {option : OptionSpec}

theorem serve_value (name : String) (long : isLong name = true)
    (found : (serveCommand ranges).option name = some option) (takes : option.arity ≠ .flag)
    (behind : List String) :
    chatCliArgValue name ("serve" :: (items.flatMap Item.tokens ++ behind)) =
      (firstValue items name).or (chatCliArgValue name behind) := by
  rw [chatCliArgValue_plain long (by decide)]
  exact chatCliArgValue_items serve_simple bound found takes behind

theorem serve_isSet_iff (name : String) (found : (serveCommand ranges).option name = some option)
    (isFlag : option.arity = .flag) :
    Level.isSet ⟨serveCommand ranges, items, trailing⟩ name = true ↔ Item.flag name ∈ items :=
  isSet_iff_flag serve_simple.noShorts bound.legal found isFlag trailing

/-- A flag the parser sets was seen by the scan. -/
theorem serve_flag_unset {name : String} (found : (serveCommand ranges).option name = some option)
    (isFlag : option.arity = .flag) {behind : List String}
    (unseen : chatCliHasFlag name ("serve" :: (items.flatMap Item.tokens ++ behind)) = false) :
    Level.isSet ⟨serveCommand ranges, items, trailing⟩ name = false := by
  apply Bool.eq_false_iff.mpr
  intro isSet
  have member := (serve_isSet_iff bound name found isFlag).mp isSet
  have listed : name ∈ "serve" :: (items.flatMap Item.tokens ++ behind) :=
    List.mem_cons_of_mem _ (List.mem_append_left _
      (List.mem_flatMap.mpr ⟨_, member, List.mem_singleton.mpr rfl⟩))
  have seen : chatCliHasFlag name ("serve" :: (items.flatMap Item.tokens ++ behind)) = true :=
    List.any_eq_true.mpr ⟨name, listed, by simp [spellsFlag]⟩
  rw [seen] at unseen
  exact nomatch unseen

/-- What spells a flag in the line is the flag, or the model's name. -/
theorem serve_flag_or_model (name : String)
    (found : (serveCommand ranges).option name = some option) (isFlag : option.arity = .flag)
    (notEscape : spellsFlag name "--" = false)
    (complete : Level.ok ⟨serveCommand ranges, items, trailing⟩ = true) (seen : chatCliHasFlag name
      ("serve" :: (items.flatMap Item.tokens ++ trailingTokens trailing)) = true) :
    Item.flag name ∈ items ∨
      exists model, trailingTokens trailing = ["--", model] ∧ spellsFlag name model = true := by
  obtain ⟨known, named⟩ := option_mem found
  have long := (serve_simple.named option known).1
  rw [named] at long
  obtain ⟨token, member, spells⟩ := List.any_eq_true.mp seen
  rcases List.mem_cons.mp member with rfl | member
  · rw [(plain_token long (by decide)).2.2] at spells
    exact nomatch spells
  rcases List.mem_append.mp member with inItems | behind
  · exact Or.inl (flag_of_spells serve_simple bound found isFlag inItems spells)
  · refine Or.inr ?_
    have escape : token ≠ "--" := by
      rintro rfl
      rw [notEscape] at spells
      exact nomatch spells
    rcases serve_trailing complete with none' | bare | ⟨model, behindIs⟩
    · rw [none'] at behind
      exact nomatch behind
    · rw [bare] at behind
      exact absurd (List.mem_singleton.mp behind) escape
    · rw [behindIs] at behind
      have isModel := List.mem_singleton.mp ((List.mem_cons.mp behind).resolve_left escape)
      rw [isModel] at spells
      exact ⟨model, behindIs, spells⟩

end ServeLine

/-! ## `serve` -/

/-- The options of `serve` that exclude `--verbose` are not set beside it. -/
theorem not_managed_of_verbose {ranges : DecimalRanges} {items : List Item}
    {trailing : Option (List String)}
    (complete : Level.ok ⟨serveCommand ranges, items, trailing⟩ = true)
    (verbose : Level.isSet ⟨serveCommand ranges, items, trailing⟩ "--verbose" = true) :
    Level.isSet ⟨serveCommand ranges, items, trailing⟩ "--managed" = false := by
  have found : (serveCommand ranges).option "--verbose" =
      some (against (flag "--verbose") ["--managed"]) := rfl
  unfold Level.ok at complete
  rw [Bool.and_eq_true, List.all_eq_true] at complete
  have single := complete.1 _ (option_mem found).1
  unfold Level.optionOk at single
  simp only [Bool.and_eq_true] at single
  have together := single.2
  have name : (against (flag "--verbose") ["--managed"]).long = "--verbose" := rfl
  rw [name, verbose, Bool.not_true, Bool.false_or, Bool.and_eq_true] at together
  have unset := List.all_eq_true.mp together.1 "--managed" List.mem_cons_self
  rwa [Bool.not_eq_true'] at unset

section ServeSafety

variable {ranges : DecimalRanges} {items : List Item} {trailing : Option (List String)}
  (root : Level) (bound : Bound (serveCommand ranges) items)
  (complete : Level.ok ⟨serveCommand ranges, items, trailing⟩ = true)
include bound complete

theorem serveSafe_of_not_masks
    (rules : ServeRules ("serve" :: (items.flatMap Item.tokens ++ trailingTokens trailing)))
    (unmasked : ¬ Masks ("serve" :: (items.flatMap Item.tokens ++ trailingTokens trailing))) :
    ServeSafe [root, ⟨serveCommand ranges, items, trailing⟩] := by
  have hostScan := serve_value bound "--host" (by decide) rfl (by decide) (trailingTokens trailing)
  have boundHost : forall host, firstValue items "--host" = some host ->
      chatCliArgValue "--host"
        ("serve" :: (items.flatMap Item.tokens ++ trailingTokens trailing)) = some host := by
    intro host given
    rw [hostScan, given]
    rfl
  have loopbackHost : forall host, firstValue items "--host" = some host ->
      isLoopbackHost host = true := by
    intro host given
    have seen := rules.loopback
    rwa [boundHost host given] at seen
  have masked : forall {model}, trailingTokens trailing = ["--", model] ->
      (MasksManaged ("serve" :: items.flatMap Item.tokens) model ∨
        MasksPort ("serve" :: items.flatMap Item.tokens) model) -> False := by
    intro model behind masks
    refine unmasked ⟨"serve" :: items.flatMap Item.tokens, model, ?_, masks⟩
    rw [behind]
    rfl
  constructor
  · show isLoopbackHost ((firstValue items "--host").getD defaultLocalHost) = true
    cases given : firstValue items "--host" with
    | none => decide
    | some host => exact loopbackHost host given
  · exact serve_flag_unset bound rfl rfl rules.notPublic
  · intro device given
    have gpu := device_not_cpu serve_simple bound
      (@serveArgsRequestCpuDevice_suffix ["serve"] _ rules.notCpu) given
    refine ⟨?_, ?_⟩
    · rintro rfl
      exact absurd gpu (by decide)
    · rintro rfl
      exact absurd gpu (by decide)
  · exact serve_flag_unset bound rfl rfl rules.notForeground
  · apply Bool.eq_false_iff.mpr
    intro verbose
    have unmanaged := not_managed_of_verbose complete verbose
    rcases serve_flag_or_model bound "--managed" rfl rfl (by decide) complete
      rules.managed with isFlag | ⟨model, behind, spells⟩
    · rw [(serve_isSet_iff bound "--managed" rfl rfl).mpr isFlag] at unmanaged
      exact nomatch unmanaged
    · have isFlag := (serve_isSet_iff bound "--verbose" rfl rfl).mp verbose
      refine masked behind (Or.inl ⟨spells, List.mem_cons_of_mem _ ?_⟩)
      exact List.mem_flatMap.mpr ⟨_, isFlag, List.mem_singleton.mpr rfl⟩
  · intro noPort
    have unported : firstValue items "--port" = none := noPort
    show (firstValue items "--host").getD defaultLocalHost = defaultLocalHost
    cases given : firstValue items "--host" with
    | none => rfl
    | some host =>
        rw [Option.getD_some]
        have portScan := serve_value bound "--port" (by decide) rfl (by decide)
          (trailingTokens trailing)
        rw [unported, Option.none_or] at portScan
        have earlyPort := serve_value bound "--port" (by decide) rfl (by decide) []
        rw [unported, Option.none_or, List.append_nil] at earlyPort
        have earlyHost := serve_value bound "--host" (by decide) rfl (by decide) []
        rw [given, Option.some_or, List.append_nil] at earlyHost
        cases behind : chatCliArgValue "--port" (trailingTokens trailing) with
        | none =>
            rw [behind] at portScan
            have canonical := rules.port portScan
            rw [boundHost host given, Option.getD_some] at canonical
            rcases isLoopbackHost_iff.mp (loopbackHost host given) with rfl | rfl | rfl
            · rfl
            · exact absurd canonical (by decide)
            · exact absurd canonical (by decide)
        | some port =>
            rcases serve_trailing complete with none' | bare | ⟨model, behindIs⟩
            · rw [none'] at behind
              exact nomatch behind
            · rw [bare] at behind
              exact nomatch behind
            · rw [behindIs, chatCliArgValue_escaped (by decide)] at behind
              apply Decidable.byContradiction
              intro other
              refine masked behindIs (Or.inr ⟨?_, earlyPort, host, earlyHost, other⟩)
              rw [behind]
              rfl

theorem not_masks_of_serveSafe (safe : ServeSafe [root, ⟨serveCommand ranges, items, trailing⟩]) :
    ¬ Masks ("serve" :: (items.flatMap Item.tokens ++ trailingTokens trailing)) := by
  rintro ⟨early, model, split, masks⟩
  have unescaped : "--" ∉ "serve" :: items.flatMap Item.tokens := by
    intro member
    rcases List.mem_cons.mp member with same | later
    · exact absurd same (by decide)
    · exact escape_not_mem serve_simple bound rfl later
  rw [← List.cons_append] at split
  have earlyIs : early = "serve" :: items.flatMap Item.tokens := by
    rcases serve_trailing complete with none' | bare | ⟨name, behind⟩
    · rw [none', List.append_nil] at split
      exact absurd (by rw [split]; simp) unescaped
    · rw [bare, show early ++ ["--", model] = (early ++ ["--"]) ++ [model] by simp] at split
      have same := (List.append_inj' split rfl).1
      exact absurd (by rw [same]; simp) unescaped
    · rw [behind] at split
      exact (List.append_inj' split rfl).1.symm
  rw [earlyIs] at masks
  rcases masks with ⟨_, verbose⟩ | ⟨_, noPort, host, given, other⟩
  · have inItems := (List.mem_cons.mp verbose).resolve_left (by decide)
    have isFlag : Item.flag "--verbose" ∈ items :=
      flag_of_spells serve_simple bound rfl rfl inItems (by decide)
    have unset : Level.isSet ⟨serveCommand ranges, items, trailing⟩ "--verbose" = false :=
      safe.notVerbose
    rw [(serve_isSet_iff bound "--verbose" rfl rfl).mpr isFlag] at unset
    exact nomatch unset
  · have earlyPort := serve_value bound "--port" (by decide) rfl (by decide) []
    have earlyHost := serve_value bound "--host" (by decide) rfl (by decide) []
    rw [List.append_nil, noPort] at earlyPort
    rw [List.append_nil, given] at earlyHost
    have noPort' : firstValue items "--port" = none := (Option.or_eq_none_iff.mp earlyPort.symm).1
    have isHost : firstValue items "--host" = some host := by
      cases found : firstValue items "--host" with
      | none =>
          rw [found] at earlyHost
          exact nomatch earlyHost
      | some value =>
          rw [found] at earlyHost
          exact earlyHost.symm
    have default := safe.portOrDefault noPort'
    have hostIs : (firstValue items "--host").getD defaultLocalHost = defaultLocalHost := default
    rw [isHost, Option.getD_some] at hostIs
    exact other hostIs

end ServeSafety

end ToolPolicy
end RocmCli
