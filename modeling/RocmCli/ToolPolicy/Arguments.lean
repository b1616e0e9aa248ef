import RocmCli.ToolPolicy.Quoting

namespace RocmCli
namespace ToolPolicy

open Text (splitOnce splitOnce_toList stripPrefix stripPrefix_append)

/-!
# Reading values out of a flat argument list

The chat policy looks for an option by the first argument that spells its name.
It does not know which arguments are values of other options.
-/

def bail {R : Type u} (message : String) : Except ErrorChain R :=
  .error (ErrorChain.ofMessage message)

def refuseIf (condition : Bool) (message : String) : Except ErrorChain Unit :=
  if condition then bail message else .ok ()

/-- Report an absent value. -/
def required {R : Type u} (message : String) : Option R -> Except ErrorChain R
  | some value => .ok value
  | none => bail message

def toAsciiLowercase (value : String) : String := String.ofList (value.toList.map Char.toLower)

/-- The value of an argument `name=value`. -/
def attachedValue (name arg : String) : Option String :=
  match splitOnce arg with
  | some (option, value) => if option = name then some value else none
  | none => none

def ensureFlag (args : List String) (flag : String) : List String :=
  if args.contains flag then args else args ++ [flag]

def chatCliArgValue (name : String) : List String -> Option String
  | [] => none
  | arg :: rest =>
      match attachedValue name arg with
      | some value => some value
      | none => if arg = name then rest.head? else chatCliArgValue name rest

def chatCliArgValueChecked (name : String) : List String -> Except ErrorChain (Option String)
  | [] => .ok none
  | arg :: rest =>
      match attachedValue name arg with
      | some value =>
          if Text.trim value = "" then bail s!"local assistant provided empty value for {name}"
          else .ok (some value)
      | none =>
          if arg = name then
            match rest.head? with
            | none => bail s!"local assistant omitted the value for {name}"
            | some value =>
                if "--".toList <+: value.toList || Text.trim value = "" then
                  bail s!"local assistant omitted the value for {name}"
                else .ok (some value)
          else chatCliArgValueChecked name rest

/-- Whether an argument is the flag, with or without an attached value. -/
def spellsFlag (name arg : String) : Bool :=
  arg == name || (stripPrefix name arg).any fun rest => rest.toList.head? == some '='

def chatCliHasFlag (name : String) (args : List String) : Bool := args.any (spellsFlag name)

def devicePolicyIsCpuMode (policy : String) : Bool :=
  ["cpu", "cpu_only"].contains (toAsciiLowercase (Text.trim policy))

def serveArgsRequestCpuDevice : List String -> Bool
  | [] => false
  | arg :: rest =>
      (stripPrefix "--device=" arg).any devicePolicyIsCpuMode ||
        (arg == "--device" && rest.head?.any devicePolicyIsCpuMode) ||
        serveArgsRequestCpuDevice rest

/-! ## Results that are not refusals -/

theorem refuseIf_ok {condition : Bool} {message : String} {result : Unit} :
    refuseIf condition message = .ok result ↔ condition = false := by
  cases condition with
  | true => exact ⟨nofun, nofun⟩
  | false => exact ⟨fun _ => rfl, fun _ => rfl⟩

theorem required_ok {R : Type u} {message : String} {value : Option R} {result : R} :
    required message value = .ok result ↔ value = some result := by
  cases value with
  | none => exact ⟨nofun, nofun⟩
  | some found => simp [required]

/-- A check, then the rest. -/
theorem refuseIf_then_ok {R : Type} {condition : Bool} {message : String}
    {next : Unit -> Except ErrorChain R} {result : R} :
    (refuseIf condition message >>= next) = .ok result ↔
      condition = false ∧ next () = .ok result := by
  rw [bind_ok]
  constructor
  · rintro ⟨value, passed, finished⟩
    exact ⟨refuseIf_ok.mp passed, finished⟩
  · rintro ⟨passed, finished⟩
    exact ⟨(), refuseIf_ok.mpr passed, finished⟩

/-! ## Spelled options -/

theorem attachedValue_eq_some {name arg value : String} :
    attachedValue name arg = some value ↔ splitOnce arg = some (name, value) := by
  unfold attachedValue
  cases split : splitOnce arg with
  | none => simp
  | some parts =>
      obtain ⟨option, found⟩ := parts
      by_cases same : option = name
      · simp [same]
      · simp [same]

end ToolPolicy
end RocmCli
