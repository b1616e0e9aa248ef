import RocmCli.Support.Attempts
import RocmCli.Support.Text

namespace RocmCli
namespace Lemonade

open Text Crash Crash.Attempt

/-!
# Unpacking an archive

A path without links is the list of the names from the root down, and a file
system says what is at each.  An archive is what its reader hands over: the
members in order, each with its name, kind, mode and bytes, or the error that
ends it.
-/

abbrev Bytes := List UInt8

/-- The bytes of one name, or of a whole name in an archive. -/
abbrev Name := List UInt8

abbrev Place := List Name

inductive Entry where
  | folder
  | file (mode : UInt32) (bytes : Bytes)
  | other
  deriving DecidableEq

abbrev Tree := Place -> Option Entry

def Tree.set (tree : Tree) (place : Place) (entry : Entry) : Tree :=
  fun other => if other = place then some entry else tree other

/-- Change the mode or the bytes of a file. -/
def Tree.edit (tree : Tree) (place : Place) (change : UInt32 -> Bytes -> UInt32 × Bytes) : Tree :=
  match tree place with
  | some (.file mode bytes) =>
      let (mode, bytes) := change mode bytes
      tree.set place (.file mode bytes)
  | some .folder | some .other | none => tree

/-- The root is a folder. -/
def Tree.isFolder (tree : Tree) (place : Place) : Bool :=
  place.isEmpty || tree place == some .folder

def display (place : Place) : String := "/" ++ "/".intercalate (place.map fromUtf8Lossy)

/-- What the calls of the system depend on: the bits a new file goes without,
the names it takes, and what it says when it refuses a place. -/
structure Host where
  umask : UInt32
  accepts : Name -> Bool
  refusal : Place -> ErrorChain

/-! ## Names -/

inductive Component where
  | rootDir
  | curDir
  | parentDir
  | normal (part : Name)
  deriving DecidableEq

def slash : UInt8 := 0x2f

def dot : Name := [0x2e]

def dotDot : Name := [0x2e, 0x2e]

def component (part : Name) : Option Component :=
  if part = [] ∨ part = dot then none
  else if part = dotDot then some .parentDir
  else some (.normal part)

/-- The components of a path.  A dot is one only where the path begins. -/
def components (path : Name) : List Component :=
  let parts := path.splitOn slash
  let front :=
    if path.head? = some slash then [Component.rootDir]
    else if parts.head? = some dot then [Component.curDir]
    else []
  front ++ parts.filterMap component

def extension (fileName : Name) : Option Name :=
  if fileName = dotDot then none
  else
    match fileName.splitOn 0x2e with
    | [] | [_] | [[], _] => none
    | parts => parts.getLast?

def toAsciiLowercase (byte : UInt8) : UInt8 :=
  if 0x41 ≤ byte && byte ≤ 0x5a then byte + 0x20 else byte

def isZip (archive : Place) : Bool :=
  (archive.getLast?.bind extension).any fun found =>
    found.map toAsciiLowercase == [0x7a, 0x69, 0x70]

def pushComponent (name : Name) (resolved : Place × Nat) :
    Component -> Except ErrorChain (Place × Nat)
  | .normal part =>
      let text := fromUtf8Lossy part
      if text.toList.contains '/' || text.toList.contains '\\' || text == ".." then
        .error (.ofMessage s!"archive entry has an unsafe name: {fromUtf8Lossy name}")
      else .ok (resolved.1 ++ [part], resolved.2 + 1)
  | .curDir => .ok resolved
  | .parentDir | .rootDir =>
      .error (.ofMessage s!"archive entry escapes the extraction root: {fromUtf8Lossy name}")

def archiveEntryDestination (destination : Place) (name : Name) : Except ErrorChain Place := do
  let (resolved, components) <- (components name).foldlM (pushComponent name) (destination, 0)
  if components = 0 then .error (.ofMessage "archive entry has an empty name") else .ok resolved

/-! ## Calls -/

section Calls

variable (host : Host)

/-- One folder of a chain, unless it is there. -/
def makeFolder (failed : String) (place : Place) : Attempt Tree :=
  reading fun tree =>
    if tree.isFolder place then done
    else if (tree place).isNone && (place.getLast?.all host.accepts) then
      change fun tree => tree.set place .folder
    else failWith ((host.refusal place).context failed)

def createDirAll (path : Place) : Attempt Tree :=
  each (makeFolder host s!"failed to create {display path}") path.inits

/-- Create the parent folders of an extracted entry inside the destination. -/
def createEntryParent (destination path : Place) : Attempt Tree :=
  if path = [] then done
  else if !destination.isPrefixOf path.dropLast then
    failWith (.ofMessage s!"archive entry escapes the extraction root: {display path}")
  else createDirAll host path.dropLast

/-- The bytes a reader gives, and the error it ends with. -/
structure Content where
  bytes : Bytes
  fault : Option ErrorChain

def appendByte (path : Place) (byte : UInt8) : Attempt Tree :=
  change fun tree => tree.edit path fun mode bytes => (mode, bytes ++ [byte])

/-- Write one regular file where nothing is.  A stop in the middle leaves the
bytes written so far. -/
def writeEntryFile (path : Place) (content : Content) : Attempt Tree :=
  reading fun tree =>
    if (tree path).isNone && tree.isFolder path.dropLast && path.getLast?.all host.accepts then
      andThen (change fun tree => tree.set path (.file (0o666 &&& ~~~host.umask) []))
        (andThen (each (appendByte path) content.bytes)
          (match content.fault with
          | none => done
          | some error => failWith (error.context s!"failed to write {display path}")))
    else failWith ((host.refusal path).context s!"failed to create {display path}")

def setEntryMode (path : Place) : Option UInt32 -> Attempt Tree
  | none => done
  | some mode => change fun tree => tree.edit path fun _ bytes => (mode &&& 0o755, bytes)

end Calls

/-! ## Tar archives -/

inductive EntryType where
  | regular
  | continuous
  | directory
  | gnuSparse
  | xGlobalHeader
  | other (debug : String)
  deriving DecidableEq

structure TarEntry where
  path : Except ErrorChain Name
  entryType : EntryType
  mode : Option UInt32
  content : Content

section Extraction

variable (host : Host) (archive destination : Place)

def extractTarEntry : Except ErrorChain TarEntry -> Attempt Tree
  | .error error => failWith (error.context s!"failed to read {display archive}")
  | .ok entry =>
      match entry.path with
      | .error error =>
          failWith (error.context s!"archive entry has an undecodable name in {display archive}")
      | .ok name =>
          if entry.entryType = .xGlobalHeader then done
          else
            match archiveEntryDestination destination name with
            | .error error => failWith error
            | .ok path =>
                match entry.entryType with
                | .directory => createDirAll host path
                | .regular | .continuous =>
                    andThen (createEntryParent host destination path)
                      (andThen (writeEntryFile host path entry.content)
                        (setEntryMode path entry.mode))
                | .gnuSparse =>
                    failWith (.ofMessage s!"archive contains a sparse entry at {fromUtf8Lossy name}, which is not supported")
                | .other debug =>
                    failWith (.ofMessage s!"archive contains an unsupported entry ({debug}) at {fromUtf8Lossy name}")
                | .xGlobalHeader => done

/-! ## Zip archives -/

structure ZipEntry where
  name : Except ErrorChain String
  isSymlink : Bool
  externalAttributes : UInt32
  enclosedName : Option Name
  isDir : Bool
  unixMode : Option UInt32
  content : Content

def fileTypeMask : UInt32 := 0o170000

def symlinkType : UInt32 := 0o120000

def extractZipEntry : Except ErrorChain ZipEntry × Nat -> Attempt Tree
  | (.error error, index) =>
      failWith (error.context s!"failed to read entry {index} of {display archive}")
  | (.ok entry, index) =>
      match entry.name with
      | .error error => failWith (error.context s!"failed to decode the name of entry {index}")
      | .ok raw =>
          if entry.isSymlink ||
              (entry.externalAttributes >>> 16) &&& fileTypeMask == symlinkType then
            failWith (.ofMessage s!"archive contains symlink at {raw}")
          else
            match entry.enclosedName with
            | none =>
                failWith (.ofMessage s!"archive entry escapes the extraction root: {raw}")
            | some name =>
                match archiveEntryDestination destination name with
                | .error error => failWith error
                | .ok path =>
                    if entry.isDir then createDirAll host path
                    else
                      andThen (createEntryParent host destination path)
                        (andThen (writeEntryFile host path entry.content)
                          (setEntryMode path entry.unixMode))

/-! ## Archives -/

/-- What opening an archive gives, and what the two readers make of it. -/
structure Stored where
  file : Except ErrorChain Unit
  tar : Except ErrorChain (List (Except ErrorChain TarEntry))
  zip : Except ErrorChain (List (Except ErrorChain ZipEntry))

def extractTarGz (stored : Stored) : Attempt Tree :=
  match stored.file, stored.tar with
  | .error error, _ => failWith (error.context s!"failed to open {display archive}")
  | .ok (), .error error => failWith (error.context s!"failed to read {display archive}")
  | .ok (), .ok entries => each (extractTarEntry host archive destination) entries

def extractZip (stored : Stored) : Attempt Tree :=
  match stored.file, stored.zip with
  | .error error, _ => failWith (error.context s!"failed to open {display archive}")
  | .ok (), .error error => failWith (error.context s!"failed to read {display archive}")
  | .ok (), .ok entries => each (extractZipEntry host archive destination) entries.zipIdx

def extractArchive (stored : Stored) : Attempt Tree :=
  if isZip archive then extractZip host archive destination stored
  else extractTarGz host archive destination stored

end Extraction

end Lemonade
end RocmCli
