import RocmCli.Support.Segments
import RocmCli.Support.Text

namespace RocmCli
namespace ModelCatalog

open Segments

/-!
# Where an artifact is cached

The marker of an artifact stands under a folder of its model, and its bytes next
to it.  Both names end in the bytes of what they stand for, in hexadecimal, so
that no two artifacts share a file, and neither shares one with a file that is
still being written.
-/

abbrev Name := List Char

/-- A path below the data folder. -/
abbrev FilePath := List Name

def sanitizeComponent (value : String) : Name :=
  value.toList.map fun character =>
    if character.isAlphanum then character.toLower else '-'

def hexDigits : Name := "0123456789abcdef".toList

def hexByte (byte : UInt8) : Name :=
  [hexDigits.getD (byte.toNat / 16) '0', hexDigits.getD (byte.toNat % 16) '0']

def hexEncodeLower (bytes : List UInt8) : Name := bytes.flatMap hexByte

def bytesOf (value : String) : List UInt8 := value.toUTF8.data.toList

def cacheMarkerComponent (kind value : String) : Name :=
  let dash := fun character => character == '-'
  let trimmed := (((sanitizeComponent value).dropWhile dash).reverse.dropWhile dash).reverse
  let slug := trimmed.take 32
  (if slug.isEmpty then kind.toList else slug) ++ "--x".toList ++ hexEncodeLower (bytesOf value)

def modelArtifactCacheMarkerPath (modelRef artifactId : String) : FilePath :=
  ["models".toList, "artifacts".toList, cacheMarkerComponent "model" modelRef,
    cacheMarkerComponent "artifact" artifactId ++ ".json".toList]

/-- A name with what follows its last dot replaced. -/
def withExtension (name extension : Name) : Name :=
  let stem := (upToLast '.' name).dropLast
  if stem.isEmpty then name ++ '.' :: extension else stem ++ '.' :: extension

/-- A path with another last name. -/
def changeName (change : Name -> Name) (path : FilePath) : FilePath :=
  path.dropLast ++ path.getLast?.toList.map change

def artifactBytesPathForMarker (markerPath : FilePath) : FilePath :=
  changeName (withExtension · "bin".toList) markerPath

/-- Where the bytes of a process's download are until they are complete. -/
def partialDownloadPath (pid : Nat) (destination : FilePath) : FilePath :=
  changeName (· ++ ".part-".toList ++ (toString pid).toList) destination

/-- Where a file is written before it takes its place. -/
def tempSiblingPath (suffix : Name) (path : FilePath) : FilePath :=
  changeName (· ++ ".tmp-".toList ++ suffix) path

/-! ## Names -/

theorem bytesOf_injective {first second : String} (same : bytesOf first = bytesOf second) :
    first = second := by
  have bytes : first.toByteArray = second.toByteArray :=
    ByteArray.ext (Array.toList_inj.mp same)
  exact String.toByteArray_inj.mp bytes

theorem hexDigits_injective : forall first, first < 16 -> forall second, second < 16 ->
    hexDigits.getD first '0' = hexDigits.getD second '0' -> first = second := by
  decide

theorem hexByte_injective {first second : UInt8} (same : hexByte first = hexByte second) :
    first = second := by
  have small := first.toNat_lt
  have smallToo := second.toNat_lt
  have digits := List.cons.inj same
  have high := hexDigits_injective _ (by omega) _ (by omega) digits.1
  have low := hexDigits_injective _ (by omega) _ (by omega) (List.cons.inj digits.2).1
  apply UInt8.toNat_inj.mp
  omega

theorem hexEncodeLower_injective {first second : List UInt8}
    (same : hexEncodeLower first = hexEncodeLower second) : first = second := by
  induction first generalizing second with
  | nil =>
      cases second with
      | nil => rfl
      | cons byte rest => cases same
  | cons byte rest ih =>
      cases second with
      | nil => cases same
      | cons other more =>
          have parts : hexByte byte = hexByte other ∧ hexEncodeLower rest = hexEncodeLower more :=
            List.append_inj same rfl
          rw [hexByte_injective parts.1, ih parts.2]

theorem not_mem_hexEncodeLower {character : Char} (outside : character ∉ hexDigits)
    (bytes : List UInt8) : character ∉ hexEncodeLower bytes := by
  intro member
  rcases List.mem_flatMap.mp member with ⟨byte, _, inByte⟩
  have small := byte.toNat_lt
  have digit (value : Nat) (inside : value < 16) : hexDigits.getD value '0' ∈ hexDigits := by
    have bound : value < hexDigits.length := inside
    rw [List.getD_eq_getElem?_getD, List.getElem?_eq_getElem bound]
    exact List.getElem_mem bound
  rcases List.mem_cons.mp inByte with isHigh | inLow
  · exact outside (isHigh ▸ digit _ (by omega))
  · exact outside (List.mem_singleton.mp inLow ▸ digit _ (by omega))

/-- A component ends in the hexadecimal of its value. -/
theorem lastSegment_cacheMarkerComponent (kind value : String) :
    lastSegment 'x' (cacheMarkerComponent kind value) = hexEncodeLower (bytesOf value) := by
  unfold cacheMarkerComponent
  dsimp only
  rw [show "--x".toList = ['-', '-'] ++ ['x'] from rfl, ← List.append_assoc, List.append_assoc]
  exact lastSegment_append_cons (not_mem_hexEncodeLower (by decide) _) _

theorem cacheMarkerComponent_injective {kind first second : String}
    (same : cacheMarkerComponent kind first = cacheMarkerComponent kind second) :
    first = second := by
  have ends := congrArg (lastSegment 'x') same
  rw [lastSegment_cacheMarkerComponent, lastSegment_cacheMarkerComponent] at ends
  exact bytesOf_injective (hexEncodeLower_injective ends)

/-! ## Paths -/

/-- What follows the last dot of the last name. -/
def extensionOf (path : FilePath) : Name := lastSegment '.' (path.getLast?.getD [])

variable (model artifactId otherModel otherId : String)

theorem markerPath_eq : modelArtifactCacheMarkerPath model artifactId =
    ["models".toList, "artifacts".toList, cacheMarkerComponent "model" model] ++
      [cacheMarkerComponent "artifact" artifactId ++ '.' :: "json".toList] := rfl

theorem changeName_concat (change : Name -> Name) (front : FilePath) (name : Name) :
    changeName change (front ++ [name]) = front ++ [change name] := by
  unfold changeName
  rw [List.dropLast_concat, List.getLast?_concat]
  rfl

theorem withExtension_append {stem extension other : Name} (free : '.' ∉ other)
    (some : stem ≠ []) : withExtension (stem ++ '.' :: other) extension = stem ++ '.' :: extension := by
  unfold withExtension
  rw [upToLast_append_cons free, List.dropLast_concat]
  exact if_neg (by simpa using some)

theorem cacheMarkerComponent_ne_nil (kind value : String) : cacheMarkerComponent kind value ≠ [] := by
  unfold cacheMarkerComponent
  simp

theorem bytesPath_eq : artifactBytesPathForMarker (modelArtifactCacheMarkerPath model artifactId) =
    ["models".toList, "artifacts".toList, cacheMarkerComponent "model" model] ++
      [cacheMarkerComponent "artifact" artifactId ++ '.' :: "bin".toList] := by
  rw [markerPath_eq, artifactBytesPathForMarker, changeName_concat,
    withExtension_append (by decide) (cacheMarkerComponent_ne_nil "artifact" artifactId)]

theorem extensionOf_concat {front : FilePath} {stem extension : Name} (free : '.' ∉ extension) :
    extensionOf (front ++ [stem ++ '.' :: extension]) = extension := by
  unfold extensionOf
  rw [List.getLast?_concat]
  exact lastSegment_append_cons free stem

theorem extensionOf_marker :
    extensionOf (modelArtifactCacheMarkerPath model artifactId) = "json".toList := by
  rw [markerPath_eq]
  exact extensionOf_concat (by decide)

theorem extensionOf_bytes :
    extensionOf (artifactBytesPathForMarker (modelArtifactCacheMarkerPath model artifactId)) =
      "bin".toList := by
  rw [bytesPath_eq]
  exact extensionOf_concat (by decide)

/-- No two artifacts share a marker. -/
theorem markerPath_injective {model artifactId otherModel otherId : String}
    (same : modelArtifactCacheMarkerPath model artifactId =
      modelArtifactCacheMarkerPath otherModel otherId) :
    model = otherModel ∧ artifactId = otherId := by
  rw [markerPath_eq, markerPath_eq] at same
  have parts := List.append_inj same (by simp only [List.length_cons, List.length_nil])
  have models := (List.cons.inj (List.cons.inj (List.cons.inj parts.1).2).2).1
  have artifacts := List.append_cancel_right (List.cons.inj parts.2).1
  exact ⟨cacheMarkerComponent_injective models, cacheMarkerComponent_injective artifacts⟩

/-- Nor its bytes. -/
theorem bytesPath_injective {model artifactId otherModel otherId : String}
    (same : artifactBytesPathForMarker (modelArtifactCacheMarkerPath model artifactId) =
      artifactBytesPathForMarker (modelArtifactCacheMarkerPath otherModel otherId)) :
    model = otherModel ∧ artifactId = otherId := by
  rw [bytesPath_eq, bytesPath_eq] at same
  have parts := List.append_inj same (by simp only [List.length_cons, List.length_nil])
  have models := (List.cons.inj (List.cons.inj (List.cons.inj parts.1).2).2).1
  have artifacts := List.append_cancel_right (List.cons.inj parts.2).1
  exact ⟨cacheMarkerComponent_injective models, cacheMarkerComponent_injective artifacts⟩

theorem markerPath_ne_bytesPath :
    modelArtifactCacheMarkerPath model artifactId ≠
      artifactBytesPathForMarker (modelArtifactCacheMarkerPath otherModel otherId) := by
  intro same
  have extensions := congrArg extensionOf same
  rw [extensionOf_marker, extensionOf_bytes] at extensions
  exact absurd extensions (by decide)

/-- What follows the last dot of a file that is being written begins with a
letter that neither a marker's nor that of its bytes begins with. -/
def Unfinished (path : FilePath) : Prop :=
  (extensionOf path).head? = some 'p' ∨ (extensionOf path).head? = some 't'

theorem markerPath_finished : ¬ Unfinished (modelArtifactCacheMarkerPath model artifactId) := by
  unfold Unfinished
  rw [extensionOf_marker]
  decide

theorem bytesPath_finished :
    ¬ Unfinished (artifactBytesPathForMarker (modelArtifactCacheMarkerPath model artifactId)) := by
  unfold Unfinished
  rw [extensionOf_bytes]
  decide

theorem extensionOf_changeName {front : FilePath} {name extension : Name} (free : '.' ∉ extension) :
    extensionOf (changeName (· ++ '.' :: extension) (front ++ [name])) = extension := by
  rw [changeName_concat]
  exact extensionOf_concat free

theorem partialPath_unfinished (pid : Nat) :
    Unfinished (partialDownloadPath pid
      (artifactBytesPathForMarker (modelArtifactCacheMarkerPath model artifactId))) := by
  have digits : '.' ∉ "part-".toList ++ (toString pid).toList := by
    rw [show (toString pid).toList = Nat.toDigits 10 pid from String.toList_ofList]
    exact List.not_mem_append (by decide) (Text.not_mem_toDigits rfl pid)
  have path (destination : FilePath) : partialDownloadPath pid destination =
      changeName (· ++ '.' :: ("part-".toList ++ (toString pid).toList)) destination := by
    unfold partialDownloadPath
    congr 1
    funext name
    exact List.append_assoc _ _ _
  unfold Unfinished
  rw [bytesPath_eq, path, extensionOf_changeName digits]
  exact .inl rfl

theorem tempPath_unfinished {suffix : Name} (free : '.' ∉ suffix) :
    Unfinished (tempSiblingPath suffix (modelArtifactCacheMarkerPath model artifactId)) := by
  have noDot : '.' ∉ "tmp-".toList ++ suffix := List.not_mem_append (by decide) free
  have path (destination : FilePath) : tempSiblingPath suffix destination =
      changeName (· ++ '.' :: ("tmp-".toList ++ suffix)) destination := by
    unfold tempSiblingPath
    congr 1
    funext name
    exact List.append_assoc _ _ _
  unfold Unfinished
  rw [markerPath_eq, path, extensionOf_changeName noDot]
  exact .inr rfl

end ModelCatalog
end RocmCli
