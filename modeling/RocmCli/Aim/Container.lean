import RocmCli.Support.EnvFile
import RocmCli.ModelCatalog.RecipeIndex
import RocmCli.ToolPolicy.Quoting

namespace RocmCli
namespace Aim

open EnvFile Text RecipeIndex
open ToolPolicy (isControl)

/-!
# Starting an AIM container

A recipe and the command line give the variables of the container, and the engine
adds the key of the endpoint.  Values go to docker through a file, and a name
alone is taken over from the engine's own variables.
-/

/-! ## Maps of variables -/

def insertEntry (name value : String) : List (String × String) -> List (String × String)
  | [] => [(name, value)]
  | first :: rest =>
      if name < first.1 then (name, value) :: first :: rest
      else if name = first.1 then (name, value) :: rest
      else first :: insertEntry name value rest

/-- The entries are in the order of their names, and each name stands once. -/
def Sorted (entries : List (String × String)) : Prop :=
  entries.Pairwise fun first second => first.1 < second.1

theorem mem_insertEntry {name value : String} {entries : List (String × String)}
    (sorted : Sorted entries) {entry : String × String} :
    entry ∈ insertEntry name value entries ↔
      entry = (name, value) ∨ entry ∈ entries ∧ entry.1 ≠ name := by
  induction entries with
  | nil => simp [insertEntry]
  | cons first rest ih =>
      have later := (List.pairwise_cons.mp sorted).1
      have apart : forall bound : String, bound ≤ first.1 -> forall other, other ∈ rest ->
          other.1 ≠ bound :=
        fun bound below other listed => (lt_of_le_of_lt below (later other listed)).ne'
      unfold insertEntry
      split
      · next below =>
          rw [List.mem_cons]
          refine or_congr_right ⟨fun listed => ⟨listed, ?_⟩, And.left⟩
          rcases List.mem_cons.mp listed with rfl | listed
          · exact below.ne'
          · exact apart name below.le entry listed
      · split
        · next same =>
            rw [List.mem_cons]
            refine or_congr_right ⟨fun listed => ⟨.tail _ listed, ?_⟩, fun found => ?_⟩
            · exact apart name same.le entry listed
            · rcases List.mem_cons.mp found.1 with rfl | listed
              · exact absurd same.symm found.2
              · exact listed
        · next other =>
            rw [List.mem_cons, ih (List.pairwise_cons.mp sorted).2, List.mem_cons, or_left_comm,
              or_and_right]
            refine or_congr_right (or_congr_left ⟨fun same => ⟨same, ?_⟩, And.left⟩)
            exact same ▸ Ne.symm other

theorem insertEntry_sorted (name value : String) {entries : List (String × String)}
    (sorted : Sorted entries) : Sorted (insertEntry name value entries) := by
  induction entries with
  | nil => exact List.pairwise_singleton ..
  | cons first rest ih =>
      rcases List.pairwise_cons.mp sorted with ⟨later, behind⟩
      unfold insertEntry
      split
      · next below =>
          refine List.pairwise_cons.mpr ⟨fun other listed => ?_, sorted⟩
          rcases List.mem_cons.mp listed with rfl | listed
          · exact below
          · exact lt_trans below (later other listed)
      · next notBelow =>
          split
          · next same =>
              exact List.pairwise_cons.mpr ⟨fun other listed => same ▸ later other listed, behind⟩
          · next apart =>
              refine List.pairwise_cons.mpr ⟨fun other listed => ?_, ih behind⟩
              rcases (mem_insertEntry behind).mp listed with rfl | ⟨listed, _⟩
              · exact lt_of_le_of_ne (le_of_not_gt notBelow) (Ne.symm apart)
              · exact later other listed

/-- Variables by name. -/
structure EnvMap where
  entries : List (String × String)
  sorted : Sorted entries

namespace EnvMap

def empty : EnvMap := ⟨[], .nil⟩

def insert (env : EnvMap) (name value : String) : EnvMap :=
  ⟨insertEntry name value env.entries, insertEntry_sorted name value env.sorted⟩

def ofEntries (entries : List (String × String)) : EnvMap :=
  entries.foldl (fun env entry => env.insert entry.1 entry.2) empty

def get (env : EnvMap) (name : String) : Option String :=
  (env.entries.find? fun entry => entry.1 == name).map Prod.snd

end EnvMap

/-! ## The variables that are asked for -/

/-- A hint of the catalog for an engine, as far as its variables go. -/
structure EngineRecipeHint where
  contractVersion : String
  engine : String
  extraEnv : EnvMap

def engineRecipeContractVersion : String := "0.1.0"

def protocolEngineRecipeHint (engineRecipe : ModelRecipeEngineRecord) : EngineRecipeHint :=
  ⟨engineRecipeContractVersion, engineRecipe.engine, .ofEntries engineRecipe.extraEnv⟩

def reservedEngineEnvKeys : List String := ["HIP_VISIBLE_DEVICES", "VLLM_API_KEY"]

def isNameCharacter (character : Char) : Bool := character.isAlphanum || character == '_'

/-- One `--engine-env` argument; a bare name is to be taken over. -/
def readEngineEnv (entry : String) : Except ErrorChain (String × String) := do
  let (key, value) := (splitOnce entry).getD (entry, "")
  refuse ((splitOnce entry).isSome && value == "")
    ("--engine-env `" ++ entry ++ "` sets an empty value; pass `" ++ key ++
      "` alone to forward it from your environment, or `" ++ key ++ "=VALUE`")
  refuse (key == "" || !key.toList.all isNameCharacter)
    ("--engine-env expects `KEY=VALUE` (or a bare `KEY` to forward it from the environment) " ++
      "with a non-empty name of letters, digits and `_`; got `" ++ entry ++ "`")
  refuse (reservedEngineEnvKeys.contains key)
    ("--engine-env cannot set `" ++ key ++ "`; rocm-cli manages it for the engine")
  refuse (value.toList.any fun character => character == '\n' || character == '\r')
    ("--engine-env value for `" ++ key ++ "` cannot contain newlines")
  return (key, value)

def addEngineEnv (extraEnv : EnvMap) : List String -> Except ErrorChain EnvMap
  | [] => .ok extraEnv
  | entry :: rest => do
      let (key, value) <- readEngineEnv entry
      addEngineEnv (extraEnv.insert key value) rest

def engineRecipeWithExtraEnv (engine : String) (hint : Option EngineRecipeHint)
    (engineEnv : List String) : Except ErrorChain (Option EngineRecipeHint) := do
  if engineEnv.isEmpty || !eqIgnoreAsciiCase engine "aim" then return hint
  let hint := hint.getD ⟨engineRecipeContractVersion, engine, .empty⟩
  let extraEnv <- addEngineEnv hint.extraEnv engineEnv
  return some { hint with extraEnv }

/-! ## The variables of the container -/

/-- The key in a key file; none when the file is missing. -/
def endpointApiKeyFromFile (contents : Option String) : Option String :=
  contents.bind fun contents =>
    let trimmed := trim contents
    if trimmed == "" || trimmed.toList.any isControl then none else some trimmed

def reservedEnvKeys : List String := ["HIP_VISIBLE_DEVICES", "VLLM_API_KEY"]

def withApiKey (env : EnvMap) : Option String -> EnvMap
  | some apiKey => env.insert "VLLM_API_KEY" apiKey
  | none => env

/-- The map that the engine gives to docker. -/
def containerEnv (extraEnv : Option EnvMap) (apiKey : Option String) : Except ErrorChain EnvMap :=
  let env := extraEnv.getD .empty
  match reservedEnvKeys.find? fun key => (env.get key).isSome with
  | some key => .error (ErrorChain.ofMessage ("engine env `" ++ key ++
      "` is managed by rocm-cli and cannot be overridden"))
  | none => .ok (withApiKey env apiKey)

/-! ## The call of docker -/

structure RunSpec where
  name : String
  image : String
  host : String
  port : Nat
  containerPort : Nat
  useGpu : Bool
  gpuIndices : List Nat
  renderGid : Option Nat
  env : EnvMap

def fileEntries (env : EnvMap) : List (String × String) :=
  env.entries.filter fun entry => entry.2 != ""

def forwarded (env : EnvMap) : List String :=
  (env.entries.filter fun entry => entry.2 == "").map Prod.fst

def publishHost (host : String) : String :=
  if eqIgnoreAsciiCase host "localhost" then "127.0.0.1"
  else if host.toList.contains ':' && !(host.toList.head? == some '[') then "[" ++ host ++ "]"
  else host

def gpuIndicesToCsv (indices : List Nat) : Option String :=
  if indices.isEmpty then none else some (",".intercalate (indices.map toString))

def gpuDeviceArgs (wsl : Bool) (renderGid : Option Nat) : List String :=
  "--ipc=host" ::
    if wsl then ["--device=/dev/dxg", "-v", "/usr/lib/wsl/lib:/usr/lib/wsl/lib"]
    else ["--device=/dev/kfd", "--device=/dev/dri"] ++
      match renderGid with
      | some gid => ["--group-add", toString gid]
      | none => []

def gpuArgs (spec : RunSpec) (wsl : Bool) : List String :=
  if spec.useGpu then
    (match gpuIndicesToCsv spec.gpuIndices with
      | some csv => ["-e", "HIP_VISIBLE_DEVICES=" ++ csv]
      | none => []) ++ gpuDeviceArgs wsl spec.renderGid
  else []

def runArgs (spec : RunSpec) (wsl : Bool) (envFile : Option String) (forwarded : List String) :
    List String :=
  ["run", "-d", "--name", spec.name, "-p",
    publishHost spec.host ++ ":" ++ toString spec.port ++ ":" ++ toString spec.containerPort] ++
  gpuArgs spec wsl ++
  (match envFile with
    | some path => ["--env-file", path]
    | none => []) ++
  (forwarded.flatMap fun key => ["-e", key]) ++ [spec.image]

/-- The text of the env file. -/
def writeEnvFile : List (String × String) -> Except ErrorChain (List Char)
  | [] => .ok []
  | (key, value) :: rest => do
      refuse (key.toList.contains '=' || key.toList.contains '\n' || value.toList.contains '\n')
        ("engine env `" ++ key ++ "` cannot contain newlines or `=` in its name")
      let behind <- writeEnvFile rest
      return writeEntry (key, value) ++ ['\n'] ++ behind

/-! ## Docker -/

/-- What a command line of `docker run` asks for: the values of its `-e`, its env
file, and its image. -/
structure RunLine where
  flags : List String
  envFile : Option String
  image : String

/-- The options that take the next argument. -/
def takesValue (option : String) : Bool :=
  ["--name", "-p", "-e", "--env-file", "-v", "--group-add"].contains option

def RunLine.withOption (line : RunLine) (option value : String) : RunLine :=
  if option = "-e" then { line with flags := value :: line.flags }
  else if option = "--env-file" then { line with envFile := some value }
  else line

/-- The options end at the image; a line without one is refused. -/
def readRunLine : List String -> Option RunLine
  | [] => none
  | [argument] => if argument.toList.head? = some '-' then none else some ⟨[], none, argument⟩
  | argument :: value :: rest =>
      if argument.toList.head? = some '-' then
        if takesValue argument then (readRunLine rest).map fun line => line.withOption argument value
        else readRunLine (value :: rest)
      else some ⟨[], none, argument⟩

/-- The settings of the env file of a line, when the file is there. -/
def fileSettings (isBlank : Char -> Bool) (file : String × List Char) :
    Option String -> Option (List Setting)
  | some path => if path = file.1 then readFile isBlank file.2 else none
  | none => some []

/-- The variables of the container that a call of docker starts, when it starts one:
the arguments win over the file. -/
def dockerRun (isBlank : Char -> Bool) (client : Environment) (file : String × List Char) :
    List String -> Option Environment
  | "run" :: arguments => do
      let line <- readRunLine arguments
      let fromFile <- fileSettings isBlank file line.envFile
      return settle client (fromFile ++ line.flags.map fun flag => readSetting flag.toList)
  | _ => none

/-- Start the container; `path` is where the env file stands, `detail` what docker
says when it refuses. -/
def run (isBlank : Char -> Bool) (client : Environment) (path detail : String) (wsl : Bool)
    (spec : RunSpec) : Except ErrorChain Environment := do
  match (forwarded spec.env).find? fun key => (client key).isNone with
  | some key =>
      .error (ErrorChain.ofMessage ("engine env `" ++ key ++ "` was passed without a value, but `" ++
        key ++ "` is not set in this process's environment; export it before serving or pass `" ++
        key ++ "=VALUE`"))
  | none =>
      let text <- writeEnvFile (fileEntries spec.env)
      let envFile := if (fileEntries spec.env).isEmpty then none else some path
      match dockerRun isBlank client (path, text)
          (runArgs spec wsl envFile (forwarded spec.env)) with
      | some environment => .ok environment
      | none => .error (ErrorChain.ofMessage
          ("`docker run --name " ++ spec.name ++ "` failed: " ++ detail))

/-- Start the container of a service with the variables that were asked for. -/
def runContainer (isBlank : Char -> Bool) (client : Environment) (path detail : String)
    (wsl : Bool) (spec : RunSpec) (extraEnv : Option EnvMap) (apiKey : Option String) :
    Except ErrorChain Environment := do
  let env <- containerEnv extraEnv apiKey
  run isBlank client path detail wsl
    { spec with env, gpuIndices := if spec.useGpu then spec.gpuIndices else [] }

end Aim
end RocmCli
