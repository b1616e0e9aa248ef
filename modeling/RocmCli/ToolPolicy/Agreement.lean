import RocmCli.ToolPolicy.ReadOnly
import RocmCli.ToolPolicy.ToolCalls

namespace RocmCli
namespace ToolPolicy

/-!
# The daemon's command tool

The daemon has a command tool of its own, with its own normaliser.  It lets
through just what the assistant runs without approval, but for the driver
command of a host where that command only reports.
-/

/-! ## The daemon's normaliser -/

def daemonNormalizedArg (value : Json) : Except ErrorChain String := do
  let text ← required "rocm_command `args` entries must be non-empty strings"
    ((value.asStr.map Text.trim).filter fun text => text != "")
  refuseIf (text.toList.any fun character =>
      character == '\x00' || character == '\n' || character == '\r')
    "rocm_command arguments must not contain control characters"
  refuseIf (512 < text.utf8ByteSize) "rocm_command argument is too long"
  .ok text

def normalizedRocmCommandArgs (arguments : JsonObject) : Except ErrorChain (List String) := do
  let values ← required "rocm_command requires `args`"
    ((arguments.lookup "args").bind Json.asArray)
  refuseIf (values.isEmpty || 64 < values.length) "rocm_command `args` must contain 1 to 64 strings"
  let args ← values.mapM daemonNormalizedArg
  let args := canonicalArgs (withoutProgramName args)
  refuseIf args.isEmpty "rocm_command args should omit the leading `rocm` program name"
  .ok args

/-! ## Both normalisers -/

theorem normalizedArg_same {value : Json} {chatText daemonText : String}
    (chat : normalizedArg value = .ok chatText) (daemon : daemonNormalizedArg value = .ok daemonText) :
    chatText = daemonText := by
  obtain ⟨text, isText, chat⟩ := bind_ok.mp chat
  obtain ⟨text', isText', daemon⟩ := bind_ok.mp daemon
  rw [required_ok] at isText isText'
  rw [isText] at isText'
  have chosen := Except.ok.inj (refuseIf_then_ok.mp (refuseIf_then_ok.mp chat).2).2
  have chosen' := Except.ok.inj (refuseIf_then_ok.mp (refuseIf_then_ok.mp daemon).2).2
  rw [← chosen, ← chosen']
  exact Option.some.inj isText'

theorem normalizedArgs_same {values : List Json} {chatTexts daemonTexts : List String}
    (chat : values.mapM normalizedArg = .ok chatTexts)
    (daemon : values.mapM daemonNormalizedArg = .ok daemonTexts) : chatTexts = daemonTexts := by
  induction values generalizing chatTexts daemonTexts with
  | nil =>
    cases chat
    cases daemon
    rfl
  | cons value values ih =>
    rw [List.mapM_cons] at chat daemon
    obtain ⟨first, isFirst, chat⟩ := bind_ok.mp chat
    obtain ⟨first', isFirst', daemon⟩ := bind_ok.mp daemon
    obtain ⟨rest, isRest, chat⟩ := bind_ok.mp chat
    obtain ⟨rest', isRest', daemon⟩ := bind_ok.mp daemon
    cases chat
    cases daemon
    rw [normalizedArg_same isFirst isFirst', ih isRest isRest']

/-- Of what both accept, the daemon sorts what the assistant does, with the name
of ComfyUI written out. -/
theorem normalized_same {call : ChatToolCall} {object : JsonObject} {chatArgs daemonArgs : List String}
    (isObject : call.arguments.asObject = some object)
    (chat : normalizedChatRocmCommandArgs call = .ok chatArgs)
    (daemon : normalizedRocmCommandArgs object = .ok daemonArgs) :
    daemonArgs = canonicalArgs chatArgs := by
  obtain ⟨object', isObject', chat⟩ := bind_ok.mp chat
  rw [required_ok, isObject] at isObject'
  cases isObject'
  obtain ⟨values, isValues, chat⟩ := bind_ok.mp chat
  obtain ⟨values', isValues', daemon⟩ := bind_ok.mp daemon
  rw [required_ok] at isValues isValues'
  rw [isValues] at isValues'
  cases isValues'
  obtain ⟨texts, isTexts, chat⟩ := bind_ok.mp (refuseIf_then_ok.mp chat).2
  obtain ⟨texts', isTexts', daemon⟩ := bind_ok.mp (refuseIf_then_ok.mp daemon).2
  cases normalizedArgs_same isTexts isTexts'
  have chosen := Except.ok.inj (refuseIf_then_ok.mp (refuseIf_then_ok.mp chat).2).2
  have chosen' := Except.ok.inj (refuseIf_then_ok.mp daemon).2
  rw [← chosen, ← chosen']

/-! ## What the daemon lists -/

section Listed

variable {host : Host} {args : List String} {second : Option String}

/-- What the daemon lists is sorted as read-only. -/
theorem sortCommand_listed {first : String} (listed : daemonReadOnly args first second = true) :
    sortCommand host args first second = readOnly args := by
  rcases ite_cases listed with ⟨reports, _⟩ | ⟨_, listed⟩
  · exact if_pos reports
  rcases ite_cases listed with ⟨rfl, listed⟩ | ⟨_, listed⟩
  · have arm : sortCommand host args "update" second = sortUpdate args := rfl
    rw [arm]
    exact if_neg (ne_true_of_eq_false ((Bool.not_eq_true' _).mp listed))
  rcases ite_cases listed with ⟨rfl, listed⟩ | ⟨_, listed⟩
  · have arm : sortCommand host args "runtimes" second = sortRuntimes args second := rfl
    rw [arm]
    by_cases lists : absentOr ["list"] second = true
    · exact if_pos lists
    · have removes := Bool.and_eq_true_iff.mp ((Bool.or_eq_true_iff.mp listed).resolve_left lists)
      exact (if_neg lists).trans ((if_pos removes.1).trans (if_pos removes.2))
  rcases ite_cases listed with ⟨rfl, listed⟩ | ⟨_, listed⟩
  · have arm : sortCommand host args "engines" second = sortEngines args second := rfl
    rw [arm]
    exact if_pos listed
  rcases ite_cases listed with ⟨rfl, listed⟩ | ⟨_, listed⟩
  · have arm : sortCommand host args "services" second = sortServices args second := rfl
    rw [arm]
    exact if_pos listed
  rcases ite_cases listed with ⟨rfl, listed⟩ | ⟨_, listed⟩
  · have arm : sortCommand host args "automations" second = sortAutomations args second := rfl
    rw [arm]
    exact if_pos listed
  rcases ite_cases listed with ⟨rfl, listed⟩ | ⟨_, listed⟩
  · have arm : sortCommand host args "config" second = sortConfig args second := rfl
    rw [arm]
    exact if_pos listed
  rcases ite_cases listed with ⟨rfl, listed⟩ | ⟨_, listed⟩
  · have arm : sortCommand host args "comfyui" second = sortComfyui args second := rfl
    rw [arm]
    exact if_pos listed
  rcases ite_cases listed with ⟨rfl, listed⟩ | ⟨_, listed⟩
  · have arm : sortCommand host args "uninstall" second = sortUninstall args := rfl
    rw [arm]
    exact if_pos listed
  rcases ite_cases listed with ⟨rfl, listed⟩ | ⟨_, listed⟩
  · have arm : sortCommand host args "storage" second = sortStorage args second := rfl
    rw [arm]
    exact if_pos listed
  rcases ite_cases listed with ⟨rfl, listed⟩ | ⟨_, listed⟩
  · have arm : sortCommand host args "setup" second = sortSetup args second := rfl
    rw [arm]
    exact if_pos listed
  rcases ite_cases listed with ⟨rfl, listed⟩ | ⟨_, listed⟩
  · have arm : sortCommand host args "remote" second = sortRemote args second := rfl
    rw [arm]
    exact if_pos listed
  cases listed

theorem lowered_of_eqIgnoreAsciiCase {word name : String}
    (same : Text.eqIgnoreAsciiCase word name = true) :
    toAsciiLowercase word = toAsciiLowercase name := by
  unfold toAsciiLowercase
  rw [Text.eqIgnoreAsciiCase_iff.mp same]

variable {first : String} {rest : List String}

/-- No rule on values is for a command that the daemon lists. -/
theorem safety_of_listed (listed : daemonReadOnly (first :: rest) (toAsciiLowercase first)
    (rest.head?.map toAsciiLowercase) = true) :
    validateChatRocmCommandSafety host (first :: rest) = .ok () := by
  have serves : startsWith ["serve"] (first :: rest) = false := by
    refine Bool.eq_false_iff.mpr fun starts => ?_
    have same := List.all_eq_true.mp (Bool.and_eq_true_iff.mp starts).2 ("serve", first)
      List.mem_cons_self
    rw [lowered_of_eqIgnoreAsciiCase same] at listed
    have unlisted : daemonReadOnly (first :: rest) (toAsciiLowercase "serve")
        (rest.head?.map toAsciiLowercase) = false := rfl
    rw [unlisted] at listed
    cases listed
  have comfyui : startsWith ["comfyui", "start"] (first :: rest) = false := by
    refine Bool.eq_false_iff.mpr fun starts => ?_
    have both := Bool.and_eq_true_iff.mp starts
    cases rest with
    | nil => exact absurd (of_decide_eq_true both.1) (by simp)
    | cons verb rest =>
      have same := List.all_eq_true.mp both.2 ("comfyui", first) List.mem_cons_self
      have same' := List.all_eq_true.mp both.2 ("start", verb)
        (List.mem_cons_of_mem _ List.mem_cons_self)
      rw [List.head?_cons, Option.map_some, lowered_of_eqIgnoreAsciiCase same,
        lowered_of_eqIgnoreAsciiCase same'] at listed
      have unlisted : daemonReadOnly (first :: verb :: rest) (toAsciiLowercase "comfyui")
          (some (toAsciiLowercase "start")) = false := rfl
      rw [unlisted] at listed
      cases listed
  have install : startsWith ["install", "sdk"] (first :: rest) = false := by
    refine Bool.eq_false_iff.mpr fun starts => ?_
    have both := Bool.and_eq_true_iff.mp starts
    cases rest with
    | nil => exact absurd (of_decide_eq_true both.1) (by simp)
    | cons verb rest =>
      have same := List.all_eq_true.mp both.2 ("install", first) List.mem_cons_self
      rw [lowered_of_eqIgnoreAsciiCase same] at listed
      have unlisted : daemonReadOnly (first :: verb :: rest) (toAsciiLowercase "install")
          ((verb :: rest).head?.map toAsciiLowercase) = false := rfl
      rw [unlisted] at listed
      cases listed
  unfold validateChatRocmCommandSafety
  rw [serves, comfyui, install]
  rfl

end Listed

/-! ## Both tools -/

theorem ensure_ok_iff {args : List String} :
    ensureRocmCommandIsReadOnly args = .ok () ↔ exists first rest, args = first :: rest ∧
      daemonReadOnly (first :: rest) (toAsciiLowercase first)
        (rest.head?.map toAsciiLowercase) = true := by
  unfold ensureRocmCommandIsReadOnly
  dsimp only
  rw [refuseIf_ok, Bool.not_eq_false']
  cases args with
  | nil => exact ⟨nofun, fun ⟨_, _, same, _⟩ => (nomatch same)⟩
  | cons first rest =>
    rw [List.head?_cons, List.getElem?_cons_succ, ← List.head?_eq_getElem?]
    constructor
    · exact fun listed => ⟨first, rest, rfl, listed⟩
    · rintro ⟨_, _, same, listed⟩
      cases same
      exact listed

/-- What the daemon lets through the assistant runs at once. -/
theorem chat_of_daemon {host : Host} {args : List String}
    (accepted : ensureRocmCommandIsReadOnly (canonicalArgs args) = .ok ()) :
    chatRocmCommandActionFromArgs host args = .ok (.readOnly (canonicalArgs args)) := by
  rcases ensure_ok_iff.mp accepted with ⟨first, rest, shape, listed⟩
  have canonicalized : canonicalizeChatRocmCommand args = .ok (canonicalArgs args) := by
    have noEngine : ((canonicalArgs args).head?.any fun first =>
        Text.eqIgnoreAsciiCase first "engine") = false := by
      rw [shape]
      refine Bool.eq_false_iff.mpr fun engine => ?_
      rw [lowered_of_eqIgnoreAsciiCase engine] at listed
      have unlisted : daemonReadOnly (first :: rest) (toAsciiLowercase "engine")
          (rest.head?.map toAsciiLowercase) = false := rfl
      rw [unlisted] at listed
      cases listed
    have passes : canonicalizeChatRocmCommand args =
        (refuseIf ((canonicalArgs args).head?.any fun first =>
          Text.eqIgnoreAsciiCase first "engine") "use `engines` for rocm engine commands" >>=
            fun _ => .ok (canonicalArgs args)) := by
      cases args <;> rfl
    rw [passes, noEngine]
    rfl
  unfold chatRocmCommandActionFromArgs
  rw [canonicalized]
  refine bind_ok.mpr ⟨_, rfl, ?_⟩
  rw [shape]
  refine bind_ok.mpr ⟨(), safety_of_listed listed, ?_⟩
  rw [List.head?_cons, List.getElem?_cons_succ, ← List.head?_eq_getElem?]
  exact sortCommand_listed listed

/-- The driver command of a host where it only reports. -/
def IsDriverReport (host : Host) (args : List String) : Prop :=
  host.installDriverOnlyReports = true ∧ exists first rest, args = first :: rest ∧
    toAsciiLowercase first = "install" ∧ rest.head?.map toAsciiLowercase = some "driver"

/-- Of a list both normalisers accept, the daemon runs what the assistant runs
without approval, the driver's report apart, and refuses what the assistant
refuses. -/
theorem daemon_agrees_with_chat (host : Host) (call : ChatToolCall) (object : JsonObject)
    (chatArgs daemonArgs : List String) (isObject : call.arguments.asObject = some object)
    (chat : normalizedChatRocmCommandArgs call = .ok chatArgs)
    (daemon : normalizedRocmCommandArgs object = .ok daemonArgs) :
    (¬ IsDriverReport host daemonArgs -> (ensureRocmCommandIsReadOnly daemonArgs = .ok () ↔
      exists run, chatRocmCommandAction host call = .ok (.readOnly run))) ∧
    forall error, chatRocmCommandAction host call = .error error ->
      exists refusal, ensureRocmCommandIsReadOnly daemonArgs = .error refusal := by
  cases normalized_same isObject chat daemon
  have action : chatRocmCommandAction host call = chatRocmCommandActionFromArgs host chatArgs := by
    unfold chatRocmCommandAction
    rw [chat]
    rfl
  rw [action]
  refine ⟨fun noReport => ⟨fun accepted => ⟨_, chat_of_daemon accepted⟩, ?_⟩, ?_⟩
  · rintro ⟨run, runs⟩
    obtain ⟨first, rest, canonical, _, arms⟩ := chatRocmCommandActionFromArgs_ok runs
    have sorted := sortCommand_sorted arms
    generalize same : ChatRocmCommandAction.readOnly run = action at sorted
    cases sorted with
    | readOnly listed => exact ensure_ok_iff.mpr ⟨first, rest, canonical, listed⟩
    | approval _ _ => exact nomatch same
    | withYes _ _ => exact nomatch same
    | installSdk _ _ => exact nomatch same
    | installDriver install driver =>
      cases reports : host.installDriverOnlyReports with
      | true => exact absurd ⟨reports, first, rest, canonical, install, driver⟩ noReport
      | false =>
        rw [reports] at same
        exact nomatch same
  · intro error refused
    cases checked : ensureRocmCommandIsReadOnly (canonicalArgs chatArgs) with
    | error refusal => exact ⟨refusal, rfl⟩
    | ok accepted =>
      rw [chat_of_daemon checked] at refused
      exact nomatch refused

/-- Removing a preview of an install, in the model's spelling. -/
def previewCall : ChatToolCall where
  id := none
  name := "rocm_command"
  arguments := .object [("args", .array [.string "ROCM", .string " Runtimes", .string "remove",
    .string "--dry-run"])]

theorem preview_agrees :
    (¬ IsDriverReport linuxHost ["Runtimes", "remove", "--dry-run"] ->
      (ensureRocmCommandIsReadOnly ["Runtimes", "remove", "--dry-run"] = .ok () ↔
        exists run, chatRocmCommandAction linuxHost previewCall = .ok (.readOnly run))) ∧
    forall error, chatRocmCommandAction linuxHost previewCall = .error error ->
      exists refusal, ensureRocmCommandIsReadOnly ["Runtimes", "remove", "--dry-run"] =
        .error refusal :=
  daemon_agrees_with_chat linuxHost previewCall _ ["Runtimes", "remove", "--dry-run"] _ rfl
    (by decide) (by decide)

end ToolPolicy
end RocmCli
