import RocmCli.Support.Text

namespace RocmCli
namespace Paths

open Text

/-!
# The text of a path

A guard in front of a recursive delete compares paths as text.  Both texts are
first normalized for the platform, then resolved lexically, and then compared
as bytes.  The platform is a parameter; so is the main separator of the host,
which the normalization writes.
-/

abbrev PathText := List Char

inductive RuntimePlatform where
  | windows
  | linux
  | other (os : String)
  deriving DecidableEq, Repr

def RuntimePlatform.isWindows : RuntimePlatform -> Bool
  | windows => true
  | linux | other _ => false

/-- The main separator of the host. -/
inductive PathSeparator where
  | slash
  | backslash
  deriving DecidableEq, Repr

def PathSeparator.char : PathSeparator -> Char
  | slash => '/'
  | backslash => '\\'

/-! ## Characters -/

def isSlash (character : Char) : Bool := character == '/'

/-- Every backslash becomes a slash. -/
def toSlashes (text : PathText) : PathText :=
  text.map fun character => if character = '\\' then '/' else character

/-- Every slash becomes a backslash. -/
def toBackslashes (text : PathText) : PathText :=
  text.map fun character => if character = '/' then '\\' else character

def trim (text : PathText) : PathText := (text.dropWhile isWhitespace).rdropWhile isWhitespace

def trimStartSlashes (text : PathText) : PathText := text.dropWhile isSlash

def trimEndSlashes (text : PathText) : PathText := text.rdropWhile isSlash

def eqIgnoreCase (left right : PathText) : Bool :=
  left.map Char.toLower == right.map Char.toLower

/-! ## Normalization on Windows -/

def formatWindowsDrivePath (drive : Char) (rest : PathText) (separator : PathSeparator) : PathText :=
  if rest.isEmpty then [drive, ':', separator.char]
  else
    [drive, ':', separator.char] ++
      match separator with
      | .backslash => toBackslashes rest
      | .slash => rest

def formatWindowsUncPath (rest : PathText) : PathSeparator -> PathText
  | .backslash => '\\' :: '\\' :: toBackslashes rest
  | .slash => '/' :: '/' :: rest

/-- A drive as POSIX shells on Windows write it, and what follows it. -/
def shellDrive : PathText -> Option (Char × PathText)
  | '/' :: letter :: rest =>
      if letter.isAlpha && (rest.isEmpty || rest.head? == some '/') then
        some (letter.toUpper, trimStartSlashes (rest.drop 1))
      else none
  | _ => none

/-- A drive with its colon, and what follows it. -/
def colonDrive : PathText -> Option (Char × PathText)
  | letter :: ':' :: rest =>
      if letter.isAlpha then some (letter.toUpper, trimStartSlashes (toSlashes rest)) else none
  | _ => none

def normalizeWindowsRuntimePathText (separator : PathSeparator) (value : PathText) : PathText :=
  let value := trim value
  let forward := toSlashes value
  match shellDrive forward, colonDrive value, forward with
  | some (drive, rest), _, _ => formatWindowsDrivePath drive rest separator
  | none, some (drive, rest), _ => formatWindowsDrivePath drive rest separator
  | none, none, '/' :: '/' :: rest => formatWindowsUncPath rest separator
  | none, none, _ =>
      match separator with
      | .slash => toSlashes value
      | .backslash => toBackslashes value

def normalizeRuntimePathTextForPlatform (platform : RuntimePlatform) (separator : PathSeparator)
    (value : PathText) : PathText :=
  if platform.isWindows then normalizeWindowsRuntimePathText separator value else value

/-! ## Lexical resolution -/

/-- Split the server and the share off; they end at the second slash. -/
def splitShare (rest : PathText) : PathText × PathText :=
  match rest.dropWhile (!isSlash ·) with
  | [] => (rest, [])
  | slash :: more =>
      (rest.takeWhile (!isSlash ·) ++ slash :: more.takeWhile (!isSlash ·),
        more.dropWhile (!isSlash ·))

/-- A root, which Windows has too. -/
def splitRoot : PathText -> PathText × PathText
  | '/' :: rest => (['/'], rest)
  | value => ([], value)

/-- Split off what `..` must not climb past. -/
def splitRuntimePathAnchor (platform : RuntimePlatform) (value : PathText) : PathText × PathText :=
  if platform.isWindows then
    match value with
    | '/' :: '/' :: rest =>
        let (share, rest) := splitShare rest
        ('/' :: '/' :: share, rest)
    | letter :: ':' :: rest =>
        if letter.isAlpha then
          match rest with
          | '/' :: rest => ([letter, ':', '/'], rest)
          | rest => ([letter, ':'], rest)
        else splitRoot value
    | value => splitRoot value
  else splitRoot value

def dot : PathText := ['.']

def dotDot : PathText := ['.', '.']

/-- The parts after one more. -/
def resolvePart (anchored : Bool) (parts : List PathText) (part : PathText) : List PathText :=
  if part = [] ∨ part = dot then parts
  else if part = dotDot then
    match parts.getLast? with
    | none => if anchored then parts else parts ++ [dotDot]
    | some last => if last = dotDot then parts ++ [dotDot] else parts.dropLast
  else parts ++ [part]

def lexicallyResolvedRuntimePathText (platform : RuntimePlatform) (value : PathText) : PathText :=
  let (anchor, rest) := splitRuntimePathAnchor platform value
  let anchored := !anchor.isEmpty
  let parts := (rest.splitOn '/').foldl (resolvePart anchored) []
  let joined := List.intercalate ['/'] parts
  if anchored then trimEndSlashes anchor ++ '/' :: joined
  else if joined.isEmpty then dot
  else joined

/-! ## Comparison -/

section Comparison

variable (platform : RuntimePlatform) (separator : PathSeparator)

def comparableRuntimePathText (path : PathText) : PathText :=
  let text := normalizeRuntimePathTextForPlatform platform separator path
  let text := if platform.isWindows then toSlashes text else text
  lexicallyResolvedRuntimePathText platform text

def runtimePathsEquivalentOn (left right : PathText) : Bool :=
  let left := comparableRuntimePathText platform separator left
  let right := comparableRuntimePathText platform separator right
  if platform.isWindows then eqIgnoreCase left right else left == right

/-- The bytes of a text. -/
def utf8 (text : PathText) : List UInt8 := text.flatMap String.utf8EncodeChar

def toAsciiLowercase (byte : UInt8) : UInt8 :=
  if 0x41 ≤ byte && byte ≤ 0x5a then byte + 0x20 else byte

def runtimePathIsSameOrInsideOn (path base : PathText) : Bool :=
  let path := comparableRuntimePathText platform separator path
  let base := comparableRuntimePathText platform separator base
  let insidePrefix := trimEndSlashes base ++ ['/']
  if (utf8 path).length ≤ (utf8 insidePrefix).length then
    runtimePathsEquivalentOn platform separator path base
  else
    let head := (utf8 path).take (utf8 insidePrefix).length
    if platform.isWindows then
      head.map toAsciiLowercase == (utf8 insidePrefix).map toAsciiLowercase
    else head == utf8 insidePrefix

end Comparison

/-! ## Protected install roots -/

def windowsSystemRoots : List PathText :=
  ["C:/Windows".toList, "C:/Program Files".toList, "C:/Program Files (x86)".toList]

def unixSystemRoots : List PathText :=
  ["/bin".toList, "/boot".toList, "/dev".toList, "/etc".toList, "/lib".toList, "/lib64".toList,
    "/opt".toList, "/proc".toList, "/root".toList, "/sbin".toList, "/sys".toList, "/usr".toList,
    "/var".toList]

def runtimeInstallRootIsProtected (platform : RuntimePlatform) (separator : PathSeparator)
    (home : Option PathText) (path : PathText) : Bool :=
  let path := normalizeRuntimePathTextForPlatform platform separator path
  let ownedByUser := home.any fun home =>
    let home := normalizeRuntimePathTextForPlatform platform separator home
    runtimePathIsSameOrInsideOn platform separator path home &&
      !runtimePathsEquivalentOn platform separator path home
  if ownedByUser then false
  else if platform.isWindows then
    windowsSystemRoots.any (runtimePathIsSameOrInsideOn platform separator path)
  else
    runtimePathsEquivalentOn platform separator path ['/'] ||
      unixSystemRoots.any (runtimePathIsSameOrInsideOn platform separator path)

example : runtimePathIsSameOrInsideOn .windows .backslash "c:\\Program Files\\..\\windows\\x".toList
    "C:/Windows".toList = true := by decide

end Paths
end RocmCli
