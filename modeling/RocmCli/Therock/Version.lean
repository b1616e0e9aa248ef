import RocmCli.Support.Text

namespace RocmCli
namespace Therock

open Text

/-!
# Ordering published versions

The parser behind "which build is the newest": the release numbers, then at
most one stage.  What it cannot read has no key, and the order on strings puts
it below everything that has one.
-/

/-- Where a version sits within its release, in increasing order. -/
inductive VersionStage where
  | dev
  | alpha
  | beta
  | rc
  | stable
  | post
  deriving DecidableEq, Repr

def VersionStage.position : VersionStage -> Nat
  | dev => 0
  | alpha => 1
  | beta => 2
  | rc => 3
  | stable => 4
  | post => 5

/-- A version's position in the order.  The release has no zeros at its end. -/
structure VersionOrderKey where
  release : List Nat
  stage : VersionStage
  stageNumber : Nat
  deriving DecidableEq, Repr

/-- The fields in their order. -/
instance : Ord VersionOrderKey where
  compare := compareLex (compareOn VersionOrderKey.release)
    (compareLex (compareOn fun key => key.stage.position) (compareOn VersionOrderKey.stageNumber))

/-! ## Reading a version -/

/-- A leading run of digits and the rest. -/
def splitLeadingNumber (value : List Char) : Option (Nat × List Char) :=
  let digits := value.takeWhile Char.isDigit
  if digits.isEmpty then none
  else
    match parseU64 (String.ofList digits) with
    | none => none
    | some number => some (number, value.drop digits.length)

/-- Whether another release number follows: a dot and a digit. -/
def nextComponent : List Char -> Option (List Char)
  | '.' :: next => if next.head?.any Char.isDigit then some next else none
  | _ => none

/-- The loop over the release numbers.  Every turn reads at least one
character, so the length of the text is enough fuel. -/
def splitRelease : Nat -> List Char -> Option (List Nat × List Char)
  | 0, _ => none
  | fuel + 1, rest =>
      match splitLeadingNumber rest with
      | none => none
      | some (number, tail) =>
          match nextComponent tail with
          | none => some ([number], tail)
          | some next =>
              match splitRelease fuel next with
              | none => none
              | some (numbers, rest) => some (number :: numbers, rest)

def isStageSeparator (character : Char) : Bool :=
  character == '.' || character == '-' || character == '_'

/-- The labels of the stages, the longer spellings first. -/
def stageLabels : List (List Char × VersionStage) :=
  [("preview".toList, .rc), ("alpha".toList, .alpha), ("beta".toList, .beta),
    ("post".toList, .post), ("pre".toList, .rc), ("dev".toList, .dev), ("rev".toList, .post),
    ("rc".toList, .rc), ("a".toList, .alpha), ("b".toList, .beta), ("c".toList, .rc),
    ("r".toList, .post)]

def stripStart (start value : List Char) : Option (List Char) :=
  if start.isPrefixOf value then some (value.drop start.length) else none

def stripStageSeparator : List Char -> List Char
  | character :: rest => if isStageSeparator character then rest else character :: rest
  | [] => []

/-- The first label in the table that the text starts with, and what follows. -/
def stageLabel (label : List Char) : Option (VersionStage × List Char) :=
  stageLabels.findSome? fun entry =>
    (stripStart entry.1 label).map fun number => (entry.2, number)

def parseVersionStage (suffix : List Char) : Option (VersionStage × Nat) :=
  if suffix.isEmpty then some (.stable, 0)
  else
    match stageLabel (stripStageSeparator suffix) with
    | none => none
    | some (stage, number) =>
        let number := number.dropWhile isStageSeparator
        if number.isEmpty then some (stage, 0)
        else (parseU64 (String.ofList number)).map fun number => (stage, number)

def stripTrailingZeros (release : List Nat) : List Nat := release.rdropWhile (· == 0)

def stripVersionPrefix : List Char -> List Char
  | 'v' :: rest => rest
  | value => value

/-- The text that is read: without local metadata, white space around it, case
and the letter that may come first. -/
def publicText (value : String) : List Char :=
  let value := (value.toList.splitOn '+').head?.getD value.toList
  let value := (trim (String.ofList value)).toList.map Char.toLower
  stripVersionPrefix value

def parseVersionForOrdering (value : String) : Option VersionOrderKey :=
  let value := publicText value
  if value.isEmpty then none
  else if value.contains '!' then none
  else
    match splitRelease value.length value with
    | none => none
    | some (release, rest) =>
        match parseVersionStage rest with
        | none => none
        | some (stage, stageNumber) =>
            some { release := stripTrailingZeros release, stage, stageNumber }

/-! ## Comparing -/

def compareVersionStrings (left right : String) : Ordering :=
  match parseVersionForOrdering left, parseVersionForOrdering right with
  | some leftParsed, some rightParsed =>
      (compare leftParsed rightParsed).then (compare left right)
  | some _, none => .gt
  | none, some _ => .lt
  | none, none => compare left right

example : parseVersionForOrdering " v7.9.0-RC.2+local" =
    some { release := [7, 9], stage := .rc, stageNumber := 2 } := by decide

end Therock
end RocmCli
