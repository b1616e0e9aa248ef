import RocmCli.Support.Json
import RocmCli.Support.PercentEncoding

namespace RocmCli
namespace Doctor

open Text (trim)

/-!
# Doctor reports

What a report says of a machine, the rule that decides whether there is one,
the reader of published reports, and the mail link a report leaves by.

Of an examination the report reads the fields named here; all its other fields
are `others`.  The JSON library's text layer is a parameter.
-/

structure Gpu where
  name : String
  gfxTarget : String
  pciId : String
  isApu : Option Bool
  isAmd : Bool

structure Examination (Others : Type u) where
  osFamily : String
  osVersion : String
  distroId : String
  distroVersion : String
  isWsl : Bool
  gpus : List Gpu
  rocmVersion : String
  rocmPath : String
  hipSdkPath : String
  hipSdkVersion : String
  framework : String
  frameworkVersion : String
  others : Others

/-! ## What was agreed -/

def reportSchemaVersion : Nat := 1

def approvedArchitecturesSource : String := "ROCm compatibility matrix, ROCm 7.1"

def cliVersion : String := "0.1.0"

def approvedArchitectures : List String :=
  ["gfx908", "gfx90a", "gfx942", "gfx950", "gfx1030", "gfx1100", "gfx1101", "gfx1102", "gfx1103",
   "gfx1150", "gfx1151", "gfx1152", "gfx1153", "gfx1200", "gfx1201"]

def approvedDistros : List String :=
  ["ubuntu", "rhel", "sles", "ol", "debian", "rocky", "azurelinux", "almalinux", "centos",
   "fedora", "opensuse-leap", "opensuse-tumbleweed", "arch", "linuxmint", "pop"]

def approvedEngines : List String := ["pytorch", "llama-cpp"]

def distroOther : String := "other"

def unknown : String := "unknown"

def none' : String := "none"

def unrecognised : String := "unrecognised"

/-- The fix ids of the catalog's recipes. -/
def recipes : List String :=
  ["fix-1-arch", "fix-2-unset-override", "fix-3-rocm-kernel", "fix-4-render-group",
   "fix-5-amdgpu-load", "fix-6-path", "fix-7-stale-repos", "fix-8-wheel-rocm",
   "fix-9-igpu-dgpu", "fix-10-container", "fix-11-iommu", "fix-12-installer",
   "fix-13-hip-sdk-missing", "fix-14-adrenalin-too-old", "fix-15-msvc-redist",
   "fix-16-vllm-oom", "fix-17-torch-dlpack", "fix-wsl-1-gpu-not-exposed",
   "fix-wsl-2-dxcore-missing", "fix-wsl-3-rocdxg-missing", "fix-wsl-4-rocdxg-not-linked",
   "fix-wsl-5-distro-too-old", "fix-wsl-6-host-driver-too-old", "fix-wsl-7-wsl1",
   "fix-18-comgr-conflict", "fix-19-shm-too-small", "fix-21-msvc-redist-outdated",
   "fix-22-display-driver-old", "info-20-gpu-no-rocm-support"]

def isCatalogId (fixId : String) : Bool := recipes.contains fixId

def isRocmSupported (gfxTarget : String) : Bool := approvedArchitectures.contains gfxTarget

inductive Refusal where
  | unreleasedHardware
  | architectureUnreadable
  | platformNotProbed
  deriving DecidableEq

def Refusal.marker : Refusal -> String
  | .unreleasedHardware => "unreleased-hardware"
  | .architectureUnreadable => "architecture-unreadable"
  | .platformNotProbed => "platform-not-probed"

def Refusal.all : List Refusal :=
  [.unreleasedHardware, .architectureUnreadable, .platformNotProbed]

structure Report where
  schema : Nat
  architecture : String
  architectureMatrix : String
  entry : String
  osFamily : String
  osMajor : String
  distro : String
  rocm : String
  engine : String
  engineVersion : String
  cliVersion : String
  fixOffered : Bool
  deriving DecidableEq

/-! ## Versions -/

/-- A text cut at its separators; there is always a first component. -/
def components (isSeparator : Char -> Bool) (value : String) : List String :=
  (value.toList.splitOnP isSeparator).map String.ofList

/-- Not empty, and ASCII digits only. -/
def isNumeric (value : String) : Bool := value ≠ "" && value.toList.all Char.isDigit

def isReleaseSeparator (character : Char) : Bool :=
  ['.', '-', '+', '_'].contains character

def majorMinor (version : String) : String :=
  match components isReleaseSeparator (trim version) with
  | [] => ""
  | major :: rest =>
      if isNumeric major then
        match rest with
        | minor :: _ => if isNumeric minor then major ++ "." ++ minor else major
        | [] => major
      else ""

def isMajorSeparator (character : Char) : Bool := ['.', '-'].contains character

def leadingDigits (version : String) : String :=
  match components isMajorSeparator version with
  | candidate :: _ => if isNumeric candidate then candidate else ""
  | [] => ""

/-- What follows the first occurrence of a text in another. -/
def afterFirst (pattern : List Char) : List Char -> Option (List Char)
  | [] => if pattern = [] then some [] else none
  | character :: rest =>
      if pattern <+: character :: rest then some ((character :: rest).drop pattern.length)
      else afterFirst pattern rest

/-- `trim_end_matches` -/
def trimEndMatches (drop : Char -> Bool) (value : List Char) : String :=
  String.ofList (value.reverse.dropWhile drop).reverse

def windowsOsMajor (verBanner : String) : String :=
  match afterFirst "Version ".toList verBanner.toList with
  | some rest => leadingDigits (trimEndMatches (· = ']') rest)
  | none => ""

def toAsciiLowercase (value : String) : String := String.ofList (value.toList.map Char.toLower)

/-! ## The report of a machine -/

section

variable {Others : Type u} (examination : Examination Others)

def osMajor : String :=
  if examination.osFamily = "linux" then leadingDigits examination.distroVersion
  else if examination.osFamily = "windows" then windowsOsMajor examination.osVersion
  else ""

def distro : String :=
  if examination.osFamily = "linux" then
    let id := toAsciiLowercase (trim examination.distroId)
    if id = "" then unknown
    else if approvedDistros.contains id then id
    else distroOther
  else if examination.osFamily = "windows" then "windows"
  else ""

def rocmRelease : String :=
  let pair :=
    if examination.osFamily = "windows" then
      (examination.hipSdkPath, examination.hipSdkVersion)
    else (examination.rocmPath, examination.rocmVersion)
  if trim pair.1 = "" then none'
  else if majorMinor pair.2 = "" then unknown
  else majorMinor pair.2

def engineAndVersion : String × String :=
  let name := toAsciiLowercase (trim examination.framework)
  if name = unknown then (none', none')
  else if approvedEngines.contains name then
    let version := majorMinor examination.frameworkVersion
    (name, if version = "" then unknown else version)
  else (unknown, unknown)

/-- The trimmed targets of the AMD GPUs. -/
def amdTargets : List String :=
  (examination.gpus.filter (·.isAmd)).map (fun gpu => trim gpu.gfxTarget)

def prepareReport (entry : Option String) (fixOffered : Bool) : Except Refusal Report :=
  let amd := amdTargets examination
  if examination.isWsl then .error .platformNotProbed
  else
    match amd with
    | [] => .error .architectureUnreadable
    | architecture :: _ =>
        if amd.any (· = "") then .error .architectureUnreadable
        else if !amd.all isRocmSupported then .error .unreleasedHardware
        else
          let entryRecognised := entry.any isCatalogId
          let (engine, engineVersion) := engineAndVersion examination
          .ok {
            schema := reportSchemaVersion
            architecture := architecture
            architectureMatrix := approvedArchitecturesSource
            entry := if entryRecognised then entry.getD unrecognised else unrecognised
            osFamily := examination.osFamily
            osMajor := osMajor examination
            distro := distro examination
            rocm := rocmRelease examination
            engine := engine
            engineVersion := engineVersion
            cliVersion := cliVersion
            fixOffered := fixOffered && entryRecognised }

end

/-! ## Groups and the vocabulary -/

def groupKey (report : Report) : List String :=
  let engine :=
    if report.engine = none' ∨ report.engine = unknown then report.engine
    else report.engine ++ "-" ++ report.engineVersion
  [report.entry, report.architecture, report.rocm, report.distro ++ "-" ++ report.osMajor, engine]

def isRelease (value : String) : Bool :=
  value = none' || value = unknown || (value ≠ "" && majorMinor value = value)

def isInVocabulary (report : Report) : Bool :=
  (report.entry = unrecognised || isCatalogId report.entry) &&
    isRocmSupported report.architecture &&
    isRelease report.rocm &&
    (approvedDistros.contains report.distro ||
      [distroOther, unknown, "windows", ""].contains report.distro) &&
    leadingDigits report.osMajor = report.osMajor &&
    (if report.engine = none' ∨ report.engine = unknown then report.engineVersion = report.engine
     else approvedEngines.contains report.engine && report.engineVersion ≠ none' &&
      isRelease report.engineVersion)

/-! ## Reading a report -/

/-- The text layer of the JSON library. -/
structure SerdeJsonText where
  fromStr : String -> Option Json
  toStringPretty : Json -> String

/-- The derived serialization, in the order of the fields. -/
def Report.entries (report : Report) : List (String × Json) :=
  [("schema", .number (.unsigned (UInt64.ofNat report.schema))),
   ("architecture", .string report.architecture),
   ("architecture_matrix", .string report.architectureMatrix),
   ("entry", .string report.entry),
   ("os_family", .string report.osFamily),
   ("os_major", .string report.osMajor),
   ("distro", .string report.distro),
   ("rocm", .string report.rocm),
   ("engine", .string report.engine),
   ("engine_version", .string report.engineVersion),
   ("cli_version", .string report.cliVersion),
   ("fix_offered", .bool report.fixOffered)]

/-- The derived deserialization: every field there, of its type. -/
def Report.fromValue (value : Json) : Option Report := do
  let text := fun key => (value.get key).bind Json.asStr
  let schema <- (value.get "schema").bind Json.asU64
  if 2 ^ 32 ≤ schema then none
  else
    let architecture <- text "architecture"
    let architectureMatrix <- text "architecture_matrix"
    let entry <- text "entry"
    let osFamily <- text "os_family"
    let osMajor <- text "os_major"
    let distro <- text "distro"
    let rocm <- text "rocm"
    let engine <- text "engine"
    let engineVersion <- text "engine_version"
    let cliVersion <- text "cli_version"
    let fixOffered <- (value.get "fix_offered").bind Json.asBool
    return {
      schema, architecture, architectureMatrix, entry, osFamily, osMajor, distro, rocm, engine,
      engineVersion, cliVersion, fixOffered }

inductive ReadOutcome where
  | understood (report : Report)
  | refused (reason : String)
  | unread (schemaSeen : Nat)
  deriving DecidableEq

/-- The schema a value names, or zero. -/
def schemaSeen (envelope : Json) : Nat :=
  match (envelope.get "schema").bind Json.asU64 with
  | some schema => if schema < 2 ^ 32 then schema else 0
  | none => 0

def readReport (serde : SerdeJsonText) (json : String) : ReadOutcome :=
  match serde.fromStr json with
  | none => .unread 0
  | some envelope =>
    let schemaSeen := schemaSeen envelope
    if schemaSeen ≠ reportSchemaVersion then .unread schemaSeen
    else
      match (envelope.get "refused").bind Json.asStr with
      | some reason =>
          if Refusal.all.any (fun refusal => refusal.marker == reason) then .refused reason
          else .unread schemaSeen
      | none =>
        match (Report.fromValue envelope).filter isInVocabulary with
        | some report => .understood report
        | none => .unread schemaSeen

/-! ## The mail link -/

def destination : String := "ROCmCLI@amd.com"

def subjectTag : String := "[rocm-doctor]"

def unrecognisedSubject : String := "unrecognised"

def subjectFor (report : Report) : String :=
  let cause := if report.entry = unrecognised then unrecognisedSubject else report.entry
  subjectTag ++ " " ++ cause ++ " on " ++ report.architecture ++ " / " ++ report.distro ++ "-" ++
    report.osMajor

/-- The JSON text of a report. -/
def reportText (serde : SerdeJsonText) (report : Report) : String :=
  serde.toStringPretty (.object report.entries)

def mailTo (serde : SerdeJsonText) (destination : String) (report : Report) : String :=
  "mailto:" ++ destination ++ "?subject=" ++ Percent.encode (subjectFor report) ++ "&body=" ++
    Percent.encode (reportText serde report)

def reportUrl (serde : SerdeJsonText) (report : Report) : String :=
  mailTo serde destination report

end Doctor
end RocmCli
