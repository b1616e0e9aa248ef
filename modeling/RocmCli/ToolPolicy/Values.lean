import RocmCli.ToolPolicy.Arguments
import RocmCli.Paths.Spelling

namespace RocmCli
namespace ToolPolicy

open Paths

/-!
# The values a proposed command may carry

Hosts, ports, versions, install folders, service ids and watchers, as the
policy judges them.
-/

/-- What the policy reads of the machine it runs on. -/
structure Host where
  platform : RuntimePlatform
  separator : PathSeparator
  home : Option PathText
  deriving DecidableEq, Repr

/-- A machine to try commands on. -/
def linuxHost : Host := ⟨.linux, .slash, some "/home/user".toList⟩

def Host.isWindows (host : Host) : Bool := host.platform.isWindows

/-- `rocm install driver` installs nothing on Windows. -/
def Host.installDriverOnlyReports (host : Host) : Bool := host.isWindows

/-! ## Hosts and ports -/

def defaultLocalHost : String := "127.0.0.1"

def isPublicBindHost (host : String) : Bool := ! ["127.0.0.1", "localhost", "::1"].contains host

def isLoopbackHost (host : String) : Bool := !isPublicBindHost host

def isCanonicalLoopbackHost (host : String) : Bool := Text.trim host == defaultLocalHost

inductive PortRequest where
  | auto
  | explicit (port : Nat)
  deriving DecidableEq, Repr

def PortRequest.fromFlag : Option Nat -> PortRequest
  | some port => explicit port
  | none => auto

/-- The largest port. -/
def maxPort : Nat := 65535

def parseServePort (value : String) : Except ErrorChain Nat :=
  let refusal := s!"port must be a number between 1 and 65535, got '{value}'"
  match Text.parseU64 (Text.trim value) with
  | some port => if 1 ≤ port && port ≤ maxPort then .ok port else bail refusal
  | none => bail refusal

def validatePortRequest (host : String) (request : PortRequest) : Except ErrorChain Unit :=
  refuseIf (request == .auto && !isCanonicalLoopbackHost host)
    (s!"`rocm serve --host {host}` needs an explicit `--port <1-65535>`. Automatic port " ++
      s!"selection is supported only on the default host {defaultLocalHost}, where ROCm " ++
      "can prove a port is free before launching; on any other address the engine owns the bind.")

/-! ## Versions and build dates -/

inductive RuntimeVersionSelector where
  | version (value : String)
  | buildDate (date : String)
  deriving DecidableEq, Repr

def isLeapYear (year : Nat) : Bool :=
  (year % 4 == 0 && year % 100 != 0) || year % 400 == 0

def daysInMonth (year month : Nat) : Nat :=
  if [1, 3, 5, 7, 8, 10, 12].contains month then 31
  else if [4, 6, 9, 11].contains month then 30
  else if month = 2 then if isLeapYear year then 29 else 28
  else 0

def validateDateComponents (year month day : Nat) : Except ErrorChain Unit := do
  refuseIf (!(2000 ≤ year && year ≤ 2099)) "year must be between 2000 and 2099"
  refuseIf (month == 0 || 12 < month) "month must be between 1 and 12"
  let maxDay := daysInMonth year month
  refuseIf (day == 0 || maxDay < day) s!"day must be between 1 and {maxDay}"

/-- The number in some digits of a date. -/
def dateNumber (digits : List Char) (start stop : Nat) : Nat :=
  ((digits.take stop).drop start).foldl
    (fun number digit => number * 10 + (digit.toNat - '0'.toNat)) 0

/-- Decimal digits, filled with zeros to the width. -/
def padded (width number : Nat) : String :=
  let digits := (toString number).toList
  String.ofList (List.replicate (width - digits.length) '0' ++ digits)

def normalizeRequestedBuildDate (value : String) : Except ErrorChain String := do
  let trimmed := Text.trim value
  refuseIf (trimmed == "") "TheRock build date cannot be empty"
  let digits := trimmed.toList.filter Char.isDigit
  let refusal :=
    s!"TheRock build date `{trimmed}` must use YYYY-MM-DD, YYYYMMDD, or MMDDYYYY"
  refuseIf (digits.length != 8) refusal
  let parsed :=
    if digits.take 2 == "20".toList then
      some (dateNumber digits 0 4, dateNumber digits 4 6, dateNumber digits 6 8)
    else if (digits.drop 4).take 2 == "20".toList then
      some (dateNumber digits 4 8, dateNumber digits 0 2, dateNumber digits 2 4)
    else none
  let (year, month, day) ← required refusal parsed
  (validateDateComponents year month day).mapError
    (ErrorChain.context s!"invalid TheRock build date `{trimmed}`")
  .ok (padded 4 year ++ "-" ++ padded 2 month ++ "-" ++ padded 2 day)

namespace RuntimeVersionSelector

def ofVersion (value : String) : Except ErrorChain RuntimeVersionSelector := do
  let trimmed := Text.trim value
  refuseIf (trimmed == "") "TheRock version cannot be empty"
  refuseIf (trimmed.toList.any fun character => isControl character || Text.isWhitespace character)
    "TheRock version must be a single version string"
  .ok (.version trimmed)

def ofBuildDate (value : String) : Except ErrorChain RuntimeVersionSelector := do
  let date ← normalizeRequestedBuildDate value
  .ok (.buildDate date)

end RuntimeVersionSelector

/-! ## Folders, services and watchers -/

def chatInstallPrefixIsSystem (host : Host) (folder : String) : Bool :=
  folder == "" ||
    runtimeInstallRootIsProtected host.platform host.separator host.home folder.toList

/-- Two dots anywhere. -/
def hasDotDot : List Char -> Bool
  | '.' :: '.' :: _ => true
  | _ :: rest => hasDotDot rest
  | [] => false

def validateServiceId (serviceId : String) : Except ErrorChain Unit := do
  refuseIf (Text.trim serviceId == "") "service id must not be empty"
  refuseIf (serviceId.toList.contains '/' || serviceId.toList.contains '\\')
    "service id must not contain path separators"
  refuseIf (hasDotDot serviceId.toList) "service id must not contain `..`"
  refuseIf (serviceId.toList.any isControl) "service id must not contain control characters"

/-- The ids of the built-in watchers. -/
def builtinWatchers : List String :=
  ["therock-update", "server-recover", "gpu-metrics", "cache-warm", "driver-upgrade",
    "gpu-thermal-protect"]

/-! ## Facts about the values -/

theorem isLoopbackHost_iff {host : String} :
    isLoopbackHost host = true ↔ host = "127.0.0.1" ∨ host = "localhost" ∨ host = "::1" := by
  unfold isLoopbackHost isPublicBindHost
  rw [Bool.not_not, List.contains_iff_mem]
  simp

theorem validatePortRequest_ok {host : String} {request : PortRequest} {result : Unit} :
    validatePortRequest host request = .ok result ↔
      (request = .auto -> isCanonicalLoopbackHost host = true) := by
  unfold validatePortRequest
  rw [refuseIf_ok]
  cases request with
  | explicit port => simp [BEq.beq]
  | auto => simp

end ToolPolicy
end RocmCli
