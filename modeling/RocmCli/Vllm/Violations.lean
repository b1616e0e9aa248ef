import RocmCli.Support.Text

namespace RocmCli
namespace Vllm

/-!
# What `uv pip check` found

A violation is kept as the line `uv` printed.  Both the command line and the
engine read its subject from that line: the package that was required, the
exact version if there is one, and the version that is installed instead.

One violation is left behind on purpose: torch at the release vLLM pins and in
the SDK's build.  It is told from a defect by the subject of its line and by
the build the runtime's manifest records.
-/

abbrev Line := List Char

/-- The text before and after the first occurrence of a separator. -/
def splitOnce (separator : Line) : Line -> Option (Line × Line)
  | [] => if separator.isEmpty then some ([], []) else none
  | character :: rest =>
      if separator.isPrefixOf (character :: rest) then
        some ([], (character :: rest).drop separator.length)
      else (splitOnce separator rest).map fun parts => (character :: parts.1, parts.2)

def trim (line : Line) : Line :=
  ((line.dropWhile Text.isWhitespace).reverse.dropWhile Text.isWhitespace).reverse

def eqIgnoreAsciiCase (left right : Line) : Bool :=
  left.map Char.toLower == right.map Char.toLower

structure DependencyViolation where
  requiring : Line
  detail : Line
  deriving DecidableEq, Repr

/-- The text after a prefix. -/
def stripPrefix (start line : Line) : Option Line :=
  if start.isPrefixOf line then some (line.drop start.length) else none

/-- A violation on one line of what `uv pip check` prints. -/
def parseViolation (line : Line) : Option DependencyViolation :=
  let line := trim line
  match stripPrefix "The package `".toList line with
  | none => none
  | some requirer =>
    match splitOnce ['`'] requirer with
    | none => none
    | some (requirer, rest) =>
        if " requires `".toList.isPrefixOf rest then some ⟨requirer, line⟩ else none

def parseDependencyViolations (stderr : List Line) : List DependencyViolation :=
  stderr.filterMap parseViolation

/-- What a run of `uv pip check` found, from its exit and what it printed. -/
def checkDependencies (success : Bool) (stderr : List Line) :
    Except ErrorChain (List DependencyViolation) :=
  let violations := parseDependencyViolations stderr
  if success then .ok []
  else if violations.isEmpty then .error (ErrorChain.ofMessage "`uv pip check` failed")
  else .ok violations

def violationsRequiring (violations : List DependencyViolation) (distribution : Line) :
    List DependencyViolation :=
  violations.filter fun violation => eqIgnoreAsciiCase violation.requiring distribution

/-- What a violation line is about. -/
structure ViolationSubject where
  package : Line
  required : Option Line
  installed : Option Line
  deriving DecidableEq, Repr

/-- A character of a distribution's name, over the letters and digits of
ASCII. -/
def isNameCharacter (character : Char) : Bool :=
  character.isAlphanum || character == '-' || character == '_' || character == '.'

/-- The version a single `==` pins. -/
def requirementPinnedVersion (requirement : Line) : Option Line :=
  match splitOnce "==".toList requirement with
  | none => none
  | some (_, version) =>
      let version := trim version
      if version.isEmpty || version.contains ',' then none else some version

def violationSubject (detail : Line) : Option ViolationSubject :=
  match splitOnce " requires `".toList detail with
  | none => none
  | some (_, rest) =>
    match splitOnce ['`'] rest with
    | none => none
    | some (spec, rest) =>
      let package := spec.takeWhile isNameCharacter
      if package.isEmpty then none
      else
        let installed :=
          match splitOnce ", but `".toList rest with
          | none => none
          | some (_, tail) => (splitOnce ['`'] tail).map Prod.fst
        some ⟨package, requirementPinnedVersion spec, installed⟩

/-- The public part of a version and its local segment, the build. -/
def splitLocalVersion (version : Line) : Line × Option Line :=
  match splitOnce ['+'] version with
  | some (base, build) => (base, some build)
  | none => (version, none)

/-! ## The repair decision -/

def torchPackage : Line := "torch".toList

def engineName : Line := "vllm".toList

def isIntendedTorchDivergence (detail : Line) (sdkTorchBuild : Option Line)
    (torchAlignmentDisabled : Bool) : Bool :=
  match violationSubject detail with
  | none => false
  | some subject =>
    if !eqIgnoreAsciiCase subject.package torchPackage then false
    else if torchAlignmentDisabled then true
    else
      match sdkTorchBuild, subject.required, subject.installed with
      | some sdkTorchBuild, some required, some installed =>
        match splitLocalVersion installed with
        | (_, none) => false
        | (installedRelease, some installedBuild) =>
            installedBuild == sdkTorchBuild && installedRelease == (splitLocalVersion required).1
      | _, _, _ => false

structure RepairAssessment where
  needed : Bool
  notes : List Line
  deriving DecidableEq, Repr

def RepairAssessment.default : RepairAssessment := ⟨false, []⟩

def repairFromViolations (violations : List DependencyViolation) (sdkTorchBuild : Option Line)
    (torchAlignmentDisabled : Bool) : RepairAssessment :=
  let owned := violationsRequiring violations engineName
  if owned.isEmpty then .default
  else
    let isIntended := fun violation : DependencyViolation =>
      isIntendedTorchDivergence violation.detail sdkTorchBuild torchAlignmentDisabled
    let intended := owned.filter isIntended
    let defects := owned.filter fun violation => !isIntended violation
    let expected := intended.map fun violation =>
      "expected divergence: ".toList ++ violation.detail
    if defects.isEmpty then
      let headline :=
        if torchAlignmentDisabled then
          "torch alignment is disabled by ROCM_CLI_DISABLE_TORCH_ALIGNMENT; the torch this runtime holds is the user's and a reinstall would replace it"
        else
          "the runtime holds the SDK's build of the torch vLLM pins; that divergence is intended and a reinstall would undo it"
      ⟨false, headline.toList :: expected⟩
    else
      let restored :=
        "the runtime environment did not satisfy vLLM's pinned dependencies; vLLM was reinstalled to restore them".toList
      let found := defects.map fun violation => "violation: ".toList ++ violation.detail
      let hint :=
        if sdkTorchBuild.isNone then
          ["if this recurs after `rocm install sdk`, the SDK torch stack is being written over vLLM's pinned torch".toList]
        else []
      ⟨true, restored :: found ++ expected ++ hint⟩

/-- A check that did not run leaves the install as it was going to be.  The
reason is told without its contexts' causes. -/
def unverifiedRepair (reason : ErrorChain) : RepairAssessment :=
  ⟨false, [("vLLM's pinned dependencies could not be verified in this environment: " ++
    reason.messages.headD "").toList]⟩

theorem repairFromViolations_nil (sdkTorchBuild : Option Line) (torchAlignmentDisabled : Bool) :
    repairFromViolations [] sdkTorchBuild torchAlignmentDisabled = .default := rfl

/-- A repair is due when vLLM has a violation that was not intended. -/
theorem repairFromViolations_needed (violations : List DependencyViolation)
    (sdkTorchBuild : Option Line) (torchAlignmentDisabled : Bool) :
    (repairFromViolations violations sdkTorchBuild torchAlignmentDisabled).needed =
      (violationsRequiring violations engineName).any fun violation =>
        !isIntendedTorchDivergence violation.detail sdkTorchBuild torchAlignmentDisabled := by
  unfold repairFromViolations
  generalize violationsRequiring violations engineName = owned
  cases owned with
  | nil => rfl
  | cons first rest =>
      rw [if_neg (show ¬ (first :: rest).isEmpty = true from Bool.false_ne_true)]
      generalize first :: rest = owned
      rcases defects : owned.filter fun violation =>
          !isIntendedTorchDivergence violation.detail sdkTorchBuild torchAlignmentDisabled
        with _ | ⟨defect, others⟩
      · dsimp only
        rw [defects, if_pos (show ([] : List DependencyViolation).isEmpty = true from rfl)]
        symm
        rw [List.any_eq_false]
        exact List.filter_eq_nil_iff.mp defects
      · dsimp only
        rw [defects, if_neg (show ¬ (defect :: others).isEmpty = true from Bool.false_ne_true)]
        symm
        have member : defect ∈ owned.filter fun violation =>
            !isIntendedTorchDivergence violation.detail sdkTorchBuild torchAlignmentDisabled := by
          rw [defects]
          exact List.mem_cons_self
        exact List.any_eq_true.mpr ⟨defect, List.mem_filter.mp member⟩

end Vllm
end RocmCli
