import RocmCli.Support.FlagLists

namespace RocmCli
namespace Serve

open Text FlagList

/-!
# Overrides of a serve command

The command line can set the tool-call parser, the GPU memory fraction and the
generation defaults of a server.  Each is written into the flat list of flags that
the recipe gives to the engine.  How numbers and JSON are written is left open.
-/

/-- A hint of the catalog for an engine, as far as its flags go. -/
structure EngineRecipeHint where
  contractVersion : String
  engine : String
  requiredFlags : List String
deriving DecidableEq, Repr

def engineRecipeContractVersion : String := "0.1.0"

/-- How a number stands on a command line and in a JSON object. -/
structure Numbers (Number Value : Type) where
  display : Number -> String
  json : Number -> Value
  count : Nat -> Value

/-- How the entries of a JSON object are read, where a text is one, and written. -/
structure JsonText (Value : Type) where
  parse : String -> Option (List (String × Value))
  print : List (String × Value) -> String

structure ServeGenerationDefaults (Number : Type) where
  temperature : Option Number
  topP : Option Number
  maxTokens : Option Nat

variable {Number Value : Type} (numbers : Numbers Number Value) (text : JsonText Value)

def ServeGenerationDefaults.isEmpty (defaults : ServeGenerationDefaults Number) : Bool :=
  defaults.temperature.isNone && defaults.topP.isNone && defaults.maxTokens.isNone

def emptyHint (engine : String) : EngineRecipeHint := ⟨engineRecipeContractVersion, engine, []⟩

/-! ## Rewriting the flags -/

def toolCallParser : String := "--tool-call-parser"

def enableAutoToolChoice : String := "--enable-auto-tool-choice"

def gpuMemoryUtilization : String := "--gpu-memory-utilization"

def overrideGenerationConfig : String := "--override-generation-config"

def setVllmToolCallParser (flags : List String) (parser : String) : List String :=
  let rewritten := dropOption toolCallParser flags
  let rewritten := if rewritten.any (· == enableAutoToolChoice) then rewritten
    else rewritten ++ [enableAutoToolChoice]
  rewritten ++ [toolCallParser, parser]

/-- `value` is the fraction as it is written. -/
def setVllmGpuMemoryUtilization (flags : List String) (value : String) : List String :=
  dropOption gpuMemoryUtilization flags ++ [gpuMemoryUtilization, value]

def insertKey (key : String) (value : Value) : List (String × Value) -> List (String × Value)
  | [] => [(key, value)]
  | first :: rest =>
      if first.1 = key then (key, value) :: rest else first :: insertKey key value rest

/-- Insert the entries of a map, one after the other. -/
def insertAll (entries merged : List (String × Value)) : List (String × Value) :=
  entries.foldl (fun merged entry => insertKey entry.1 entry.2 merged) merged

/-- A value that is no object is discarded. -/
def mergeValue (merged : List (String × Value)) (value : String) : List (String × Value) :=
  match text.parse value with
  | some config => insertAll config merged
  | none => merged

def setVllmOverrideGenerationConfig (flags : List String) (overrides : List (String × Value)) :
    List String :=
  let merged := (droppedValues overrideGenerationConfig flags).foldl (mergeValue text) []
  dropOption overrideGenerationConfig flags ++
    [overrideGenerationConfig, text.print (insertAll overrides merged)]

def setLemonadeGenerationDefaults (flags : List String) (defaults : ServeGenerationDefaults Number) :
    List String :=
  [("--temperature", defaults.temperature.map numbers.display),
    ("--top-p", defaults.topP.map numbers.display),
    ("--n-predict", defaults.maxTokens.map toString)].foldl (fun flags control =>
      match control.2 with
      | some value => dropOption control.1 flags ++ [control.1, value]
      | none => flags) flags

/-! ## The transforms of the hint -/

def engineRecipeWithToolCallOverride (engine : String) (hint : Option EngineRecipeHint)
    (parser : Option String) : Option EngineRecipeHint :=
  if !eqIgnoreAsciiCase engine "vllm" then hint
  else
    match (parser.map trim).filter (· != "") with
    | none => hint
    | some parser =>
        let hint := hint.getD (emptyHint engine)
        some { hint with requiredFlags := setVllmToolCallParser hint.requiredFlags parser }

def engineRecipeWithGpuMemoryUtilizationOverride (engine : String) (hint : Option EngineRecipeHint)
    (utilization : Option Number) : Option EngineRecipeHint :=
  if !eqIgnoreAsciiCase engine "vllm" then hint
  else
    match utilization with
    | none => hint
    | some value =>
        let hint := hint.getD (emptyHint engine)
        let flags := setVllmGpuMemoryUtilization hint.requiredFlags (numbers.display value)
        some { hint with requiredFlags := flags }

/-- The generation config that the defaults set. -/
def configOverrides (defaults : ServeGenerationDefaults Number) : List (String × Value) :=
  (defaults.temperature.toList.map fun value => ("temperature", numbers.json value)) ++
    (defaults.topP.toList.map fun value => ("top_p", numbers.json value)) ++
    defaults.maxTokens.toList.map fun value =>
      ("max_new_tokens", numbers.count value)

def engineRecipeWithGenerationDefaults (engine : String) (hint : Option EngineRecipeHint)
    (defaults : ServeGenerationDefaults Number) : Except ErrorChain (Option EngineRecipeHint) :=
  if defaults.isEmpty then .ok hint
  else
    let hint := hint.getD (emptyHint engine)
    if eqIgnoreAsciiCase engine "vllm" then
      .ok (some { hint with
        requiredFlags := setVllmOverrideGenerationConfig text hint.requiredFlags
          (configOverrides numbers defaults) })
    else if eqIgnoreAsciiCase engine "lemonade" then
      .ok (some { hint with
        requiredFlags := setLemonadeGenerationDefaults numbers hint.requiredFlags defaults })
    else .error (ErrorChain.ofMessage ("generation defaults are not supported by engine `" ++ engine ++
      "`; omit --temperature/--top-p/--max-tokens or select vllm/lemonade"))

/-- What the command line sets. -/
structure Overrides (Number : Type) where
  parser : Option String
  utilization : Option Number
  generation : ServeGenerationDefaults Number

/-- The transforms in the order of a serve. -/
def applyOverrides (engine : String) (hint : Option EngineRecipeHint) (overrides : Overrides Number) :
    Except ErrorChain (Option EngineRecipeHint) :=
  let hint := engineRecipeWithToolCallOverride engine hint overrides.parser
  let hint := engineRecipeWithGpuMemoryUtilizationOverride numbers engine hint overrides.utilization
  engineRecipeWithGenerationDefaults numbers text engine hint overrides.generation

def flagsOf (hint : Option EngineRecipeHint) : List String :=
  (hint.map EngineRecipeHint.requiredFlags).getD []

end Serve
end RocmCli
