import RocmCli.Paths.Spelling
import RocmCli.Support.Segments

namespace RocmCli
namespace Paths

open Segments

/-!
# The places paths name

An absolute path names a place: an anchor and the components below it.  The
anchor is the root, a drive, or a share with its server, and `..` does not
leave it.  `Spells` says which texts name which place; `render` is the one text
the comparison reduces them to.
-/

/-- What `..` cannot leave. -/
inductive Anchor where
  | root
  | drive (letter : Char)
  | share (server name : PathText)
  deriving DecidableEq

structure Place where
  anchor : Anchor
  components : List PathText
  deriving DecidableEq

/-! ## Spellings -/

/-- The folder one part further on. -/
def descend (components : List PathText) (part : PathText) : List PathText :=
  if part = [] ∨ part = dot then components
  else if part = dotDot then components.dropLast
  else components ++ [part]

/-- The folder that the parts of a text lead to, from the anchor. -/
def walk (rest : PathText) : List PathText := (rest.splitOn '/').foldl descend []

/-- Nothing, or a separator and more. -/
def Continues (rest : PathText) : Prop := rest = [] ∨ rest.head? = some '/'

instance (rest : PathText) : Decidable (Continues rest) := by
  unfold Continues
  infer_instance

/-- The absolute paths, with slashes for separators, and the places they name.
The first argument tells the Windows forms from the POSIX one. -/
inductive Spells : Bool -> PathText -> Place -> Prop
  | root (rest : PathText) : Spells false ('/' :: rest) ⟨.root, walk rest⟩
  | drive (letter : Char) (rest : PathText) (alphabetic : letter.isAlpha = true)
      (continues : Continues rest) :
      Spells true (letter :: ':' :: rest) ⟨.drive letter.toUpper, walk rest⟩
  | shellDrive (letter : Char) (rest : PathText) (alphabetic : letter.isAlpha = true)
      (continues : Continues rest) :
      Spells true ('/' :: letter :: rest) ⟨.drive letter.toUpper, walk rest⟩
  | share (server name rest : PathText) (serverNamed : server ≠ []) (shareNamed : name ≠ [])
      (serverFree : '/' ∉ server) (shareFree : '/' ∉ name) (continues : Continues rest) :
      Spells true ('/' :: '/' :: (server ++ '/' :: name ++ rest)) ⟨.share server name, walk rest⟩

/-- A text names a place, character by character. -/
def NamesVerbatim (platform : RuntimePlatform) (text : PathText) (place : Place) : Prop :=
  if platform.isWindows then Spells true (toSlashes text) place else Spells false text place

/-- A text names a place; on Windows, white space around the text is not part
of the path. -/
def Names (platform : RuntimePlatform) (text : PathText) (place : Place) : Prop :=
  NamesVerbatim platform (if platform.isWindows then trim text else text) place

/-! ## Containment -/

section Containment

variable (platform : RuntimePlatform)

/-- Windows does not tell apart the cases of ASCII letters. -/
def foldCase (text : PathText) : PathText :=
  if platform.isWindows then text.map Char.toLower else text

def Anchor.foldCase : Anchor -> Anchor
  | root => root
  | drive letter => if platform.isWindows then drive letter.toLower else drive letter
  | share server name => share (Paths.foldCase platform server) (Paths.foldCase platform name)

def Place.foldCase (place : Place) : Place where
  anchor := place.anchor.foldCase platform
  components := place.components.map (Paths.foldCase platform)

/-- The components of the base start those of the path, on the same anchor. -/
def SameOrInside (path base : Place) : Prop :=
  (path.foldCase platform).anchor = (base.foldCase platform).anchor ∧
    (base.foldCase platform).components <+: (path.foldCase platform).components

def SamePlace (path base : Place) : Prop := path.foldCase platform = base.foldCase platform

theorem SameOrInside.refl (place : Place) : SameOrInside platform place place :=
  ⟨rfl, List.prefix_rfl⟩

variable {platform}

theorem SameOrInside.trans {path middle base : Place} (first : SameOrInside platform path middle)
    (second : SameOrInside platform middle base) : SameOrInside platform path base :=
  ⟨first.1.trans second.1, second.2.trans first.2⟩

theorem SamePlace.sameOrInside_iff {path path' base base' : Place}
    (paths : SamePlace platform path path') (bases : SamePlace platform base base') :
    SameOrInside platform path base ↔ SameOrInside platform path' base' := by
  unfold SameOrInside
  rw [show path.foldCase platform = path'.foldCase platform from paths,
    show base.foldCase platform = base'.foldCase platform from bases]

end Containment

/-! ## Well-formed places -/

/-- A part of a path: no separator in it. -/
def Plain (windows : Bool) (part : PathText) : Prop :=
  '/' ∉ part ∧ (windows = true -> '\\' ∉ part)

/-- A part that is the name of an entry. -/
structure IsName (windows : Bool) (part : PathText) : Prop where
  plain : Plain windows part
  nonempty : part ≠ []
  notDot : part ≠ dot
  notDotDot : part ≠ dotDot

def Anchor.WellFormed : Bool -> Anchor -> Prop
  | false, root => True
  | true, drive letter => letter.isAlpha = true ∧ letter.toUpper = letter
  | true, share server name =>
      (server ≠ [] ∧ Plain true server) ∧ name ≠ [] ∧ Plain true name
  | _, _ => False

structure Place.WellFormed (windows : Bool) (place : Place) : Prop where
  anchor : place.anchor.WellFormed windows
  components : forall part, part ∈ place.components -> IsName windows part

/-- No white space at the end of the last component. -/
def Place.Clean (place : Place) : Prop :=
  forall part, place.components.getLast? = some part ->
    forall character, part.getLast? = some character -> Text.isWhitespace character = false

/-! ## The text of a place -/

/-- The anchor without the separator that ends it. -/
def Anchor.stem : Anchor -> PathText
  | root => []
  | drive letter => [letter, ':']
  | share server name => '/' :: '/' :: (server ++ '/' :: name)

def Place.render (place : Place) : PathText :=
  place.anchor.stem ++ '/' :: List.intercalate ['/'] place.components

theorem mem_descend {components : List PathText} {part other : PathText}
    (member : other ∈ descend components part) :
    other ∈ components ∨ (other = part ∧ part ≠ [] ∧ part ≠ dot ∧ part ≠ dotDot) := by
  unfold descend at member
  by_cases still : part = [] ∨ part = dot
  · rw [if_pos still] at member
    exact Or.inl member
  · rw [if_neg still] at member
    by_cases up : part = dotDot
    · rw [if_pos up] at member
      exact Or.inl ((List.dropLast_sublist components).subset member)
    · rw [if_neg up] at member
      rcases List.mem_append.mp member with earlier | last
      · exact Or.inl earlier
      · exact Or.inr ⟨List.mem_singleton.mp last, fun empty => still (Or.inl empty),
          fun same => still (Or.inr same), up⟩

variable {windows : Bool} {parts : List PathText}

theorem names_foldl_descend {components : List PathText}
    (plain : forall part, part ∈ parts -> Plain windows part)
    (names : forall part, part ∈ components -> IsName windows part) :
    forall part, part ∈ parts.foldl descend components -> IsName windows part := by
  induction parts generalizing components with
  | nil => exact names
  | cons head rest ih =>
      apply ih (fun part member => plain part (List.mem_cons_of_mem head member))
      intro part member
      rcases mem_descend member with earlier | ⟨same, nonempty, notDot, notDotDot⟩
      · exact names part earlier
      · rw [same]
        exact ⟨plain head List.mem_cons_self, nonempty, notDot, notDotDot⟩

/-- A character that is not the separator is in the text if it is in a part. -/
theorem mem_of_mem_splitOn {text part : PathText} (member : part ∈ text.splitOn '/') :
    '/' ∉ part ∧ part ⊆ text := by
  induction text generalizing part with
  | nil =>
      rw [List.splitOn_nil, List.mem_singleton] at member
      rw [member]
      exact ⟨List.not_mem_nil, List.Subset.refl _⟩
  | cons head rest ih =>
      rw [List.splitOn_cons_eq_if_modifyHead] at member
      by_cases separator : head = '/'
      · rw [if_pos (by simpa using separator)] at member
        rcases List.mem_cons.mp member with first | later
        · rw [first]
          exact ⟨List.not_mem_nil, List.nil_subset _⟩
        · have read := ih later
          exact ⟨read.1, fun _ inside => List.mem_cons_of_mem head (read.2 inside)⟩
      · rw [if_neg (by simpa using separator)] at member
        rcases split : rest.splitOn '/' with _ | ⟨first, others⟩
        · exact absurd split (List.splitOn_ne_nil '/' rest)
        · rw [split, List.modifyHead_cons] at member
          rcases List.mem_cons.mp member with same | later
          · have read := ih (split ▸ List.mem_cons_self)
            rw [same]
            refine ⟨?_, fun character inside => ?_⟩
            · intro slash
              rcases List.mem_cons.mp slash with slash | slash
              · exact separator slash.symm
              · exact read.1 slash
            · rcases List.mem_cons.mp inside with same | inside
              · exact same ▸ List.mem_cons_self
              · exact List.mem_cons_of_mem head (read.2 inside)
          · have read := ih (split ▸ List.mem_cons_of_mem first later)
            exact ⟨read.1, fun _ inside => List.mem_cons_of_mem head (read.2 inside)⟩

theorem names_walk {rest : PathText} (converted : windows = true -> '\\' ∉ rest) :
    forall part, part ∈ walk rest -> IsName windows part := by
  apply names_foldl_descend
  · intro part member
    have read := mem_of_mem_splitOn member
    exact ⟨read.1, fun onWindows slash => converted onWindows (read.2 slash)⟩
  · intro part member
    exact absurd member List.not_mem_nil

/-- Entry names lead where they say. -/
theorem foldl_descend_of_names (names : forall part, part ∈ parts -> IsName windows part)
    (components : List PathText) :
    parts.foldl descend components = components ++ parts := by
  induction parts generalizing components with
  | nil => rw [List.foldl_nil, List.append_nil]
  | cons head rest ih =>
      have name := names head List.mem_cons_self
      have one : descend components head = components ++ [head] := by
        unfold descend
        rw [if_neg (not_or.mpr ⟨name.nonempty, name.notDot⟩), if_neg name.notDotDot]
      rw [List.foldl_cons, one,
        ih (fun part member => names part (List.mem_cons_of_mem head member)),
        List.append_assoc]
      rfl

/-- Separators at the start change nothing. -/
theorem walk_cons_slash (rest : PathText) : walk ('/' :: rest) = walk rest := by
  unfold walk
  rw [show '/' :: rest = [] ++ '/' :: rest from rfl, List.splitOn_append_cons_self,
    List.splitOn_nil, List.singleton_append, List.foldl_cons]
  rfl

theorem walk_trimStartSlashes (rest : PathText) : walk (trimStartSlashes rest) = walk rest := by
  induction rest with
  | nil => rfl
  | cons head tail ih =>
      by_cases separator : head = '/'
      · rw [separator, walk_cons_slash, ← ih]
        rfl
      · unfold trimStartSlashes
        rw [List.dropWhile_cons_of_neg (by simpa [isSlash] using separator)]

theorem walk_intercalate (names : forall part, part ∈ parts -> IsName windows part) :
    walk (List.intercalate ['/'] parts) = parts := by
  unfold walk
  by_cases empty : parts = []
  · rw [empty, List.intercalate_nil]
    rfl
  · rw [List.splitOn_intercalate '/' (fun part member => (names part member).plain.1) empty,
      foldl_descend_of_names names, List.nil_append]

end Paths
end RocmCli
