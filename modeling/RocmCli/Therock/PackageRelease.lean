import RocmCli.Therock.Grammar

namespace RocmCli
namespace Therock

open Text

/-!
# Package releases

The second parser of versions is for the normalised form that a package index
publishes, with an epoch and up to three segments.  Its key leaves the order to
the order of its fields.
-/

/-! ## The key and its parser -/

/-- Where a release stands before its segments.  The kinds are those of `a`, `b`
and `rc`. -/
inductive PreRelease where
  | devOnly
  | pre (kind number : Nat)
  | final
  deriving DecidableEq, Repr, Ord

inductive DevRelease where
  | dev (number : Nat)
  | absent
  deriving DecidableEq, Repr, Ord

structure PackageReleaseKey where
  epoch : Nat
  release : List Nat
  pre : PreRelease
  post : Option Nat
  dev : DevRelease
  deriving DecidableEq, Repr

/-- The fields in their order. -/
instance : Ord PackageReleaseKey where
  compare := compareLex (compareOn PackageReleaseKey.epoch)
    (compareLex (compareOn PackageReleaseKey.release)
      (compareLex (compareOn PackageReleaseKey.pre)
        (compareLex (compareOn PackageReleaseKey.post) (compareOn PackageReleaseKey.dev))))

theorem compare_preRelease (leftKind leftNumber rightKind rightNumber : Nat) :
    compare (PreRelease.pre leftKind leftNumber) (.pre rightKind rightNumber) =
      (compare leftKind rightKind).then (compare leftNumber rightNumber) :=
  congrArg (Ordering.then _) Ordering.then_eq

theorem compare_dev (left right : Nat) :
    compare (DevRelease.dev left) (.dev right) = compare left right :=
  Ordering.then_eq

/-- Drop zeros as long as something stays behind them. -/
def dropLeadingZeros : List Nat -> List Nat
  | number :: next :: rest =>
      if number = 0 then dropLeadingZeros (next :: rest) else number :: next :: rest
  | release => release

def popTrailingZeros (release : List Nat) : List Nat := (dropLeadingZeros release.reverse).reverse

/-- The epoch in front of an exclamation mark. -/
def readEpoch (text : List Char) : Option (Nat × List Char) :=
  match text.dropWhile (· != '!') with
  | [] => some (0, text)
  | _ :: rest => (parseU64 (String.ofList (text.takeWhile (· != '!')))).map fun epoch => (epoch, rest)

def preTags : List (List Char × Nat) := [(['r', 'c'], 2), (['a'], 0), (['b'], 1)]

/-- The first tag that the text starts with needs a number behind it. -/
def readPre (text : List Char) : Option (Option (Nat × Nat) × List Char) :=
  match preTags.findSome? fun tag => (stripStart tag.1 text).map fun tail => (tag.2, tail) with
  | none => some (none, text)
  | some (kind, tail) =>
      (splitLeadingNumber tail).map fun read => (some (kind, read.1), read.2)

/-- A marker that the text starts with needs a number behind it. -/
def readMarked (marker text : List Char) : Option (Option Nat × List Char) :=
  match stripStart marker text with
  | none => some (none, text)
  | some tail => (splitLeadingNumber tail).map fun read => (some read.1, read.2)

def postMarker : List Char := ".post".toList

def devMarker : List Char := ".dev".toList

def preReleaseOf : Option (Nat × Nat) -> Option Nat -> Option Nat -> PreRelease
  | some (kind, number), _, _ => .pre kind number
  | none, none, some _ => .devOnly
  | none, _, _ => .final

def packageReleaseKey (version : String) : Option PackageReleaseKey := do
  let (epoch, rest) ← readEpoch (version.toList.takeWhile (· != '+'))
  let (release, rest) ← splitRelease rest.length rest
  let (pre, rest) ← readPre rest
  let (post, rest) ← readMarked postMarker rest
  let (dev, rest) ← readMarked devMarker rest
  if rest.isEmpty then
    some
      { epoch, release := popTrailingZeros release, pre := preReleaseOf pre post dev, post
        dev := (dev.map .dev).getD .absent }
  else none

/-! ## Normalised versions -/

structure PackageRelease where
  epoch : Nat
  release : List Nat
  pre : Option (PreLabel × Nat)
  post : Option Nat
  dev : Option Nat
  deriving DecidableEq, Repr

def PreLabel.text : PreLabel -> List Char
  | a => ['a']
  | b => ['b']
  | rc => ['r', 'c']

def PreLabel.kind : PreLabel -> Nat
  | a => 0
  | b => 1
  | rc => 2

inductive SpellsEpoch : List Char -> Nat -> Prop
  | absent : SpellsEpoch [] 0
  | present (digits : List Char) (nonempty : digits ≠ []) (isDigits : IsDigits digits) :
      SpellsEpoch (digits ++ ['!']) (numberValue digits)

inductive SpellsPre : List Char -> Option (PreLabel × Nat) -> Prop
  | absent : SpellsPre [] none
  | present (label : PreLabel) (digits : List Char) (nonempty : digits ≠ [])
      (isDigits : IsDigits digits) :
      SpellsPre (label.text ++ digits) (some (label, numberValue digits))

inductive SpellsMarked (marker : List Char) : List Char -> Option Nat -> Prop
  | absent : SpellsMarked marker [] none
  | present (digits : List Char) (nonempty : digits ≠ []) (isDigits : IsDigits digits) :
      SpellsMarked marker (marker ++ digits) (some (numberValue digits))

/-- The string is `[N!]N(.N)*[{a|b|rc}N][.postN][.devN]` for the version, with
whatever local label behind a plus. -/
def Normalised (value : String) (version : PackageRelease) : Prop :=
  exists epochText releaseText preText postText devText,
    SpellsEpoch epochText version.epoch ∧ SpellsRelease releaseText version.release ∧
    SpellsPre preText version.pre ∧ SpellsMarked postMarker postText version.post ∧
    SpellsMarked devMarker devText version.dev ∧
    value.toList.takeWhile (· != '+') =
      epochText ++ (releaseText ++ (preText ++ (postText ++ devText)))

/-! ## Their order -/

/-- What a version goes through behind its release, with the place PEP 440 gives
each: a development release first, then `a`, `b` and `rc`, then the end of the
version, then a post-release. -/
def PackageRelease.phases (version : PackageRelease) : List (Nat × Nat) :=
  (version.pre.map fun pre => (pre.1.kind + 1, pre.2)).toList ++
    ((version.post.map fun number => (5, number)).toList ++
      ((version.dev.map fun number => (0, number)).toList ++ [(4, 0)]))

def comparePhases : List (Nat × Nat) -> List (Nat × Nat) -> Ordering
  | [], [] => .eq
  | [], _ :: _ => .lt
  | _ :: _, [] => .gt
  | left :: lefts, right :: rights => (comparePair left right).then (comparePhases lefts rights)

/-- PEP 440's order: by epoch, by release with zeros filled in, and then phase by
phase. -/
def comparePackageReleases (left right : PackageRelease) : Ordering :=
  (compare left.epoch right.epoch).then
    ((compareRelease left.release right.release).then (comparePhases left.phases right.phases))

/-- The key that the parser gives to a text of the version. -/
def PackageRelease.key (version : PackageRelease) : PackageReleaseKey where
  epoch := version.epoch
  release := popTrailingZeros version.release
  pre := preReleaseOf (version.pre.map fun pre => (pre.1.kind, pre.2)) version.post version.dev
  post := version.post
  dev := (version.dev.map .dev).getD .absent

/-! ## What the parser reads -/

theorem stripStart_iff {start text rest : List Char} :
    stripStart start text = some rest ↔ text = start ++ rest := by
  unfold stripStart
  by_cases starts : start.isPrefixOf text = true
  · rw [if_pos starts, Option.some.injEq]
    rcases List.isPrefixOf_iff_prefix.mp starts with ⟨behind, rfl⟩
    rw [List.drop_left]
    exact ⟨fun same => same ▸ rfl, fun same => List.append_cancel_left same⟩
  · rw [if_neg starts]
    constructor
    · exact nofun
    · rintro rfl
      exact absurd (List.isPrefixOf_iff_prefix.mpr (List.prefix_append ..)) starts

theorem stripStart_none {start text : List Char} :
    stripStart start text = none ↔ ¬ start <+: text := by
  unfold stripStart
  by_cases starts : start.isPrefixOf text = true
  · rw [if_pos starts]
    exact ⟨nofun, fun never => absurd (List.isPrefixOf_iff_prefix.mp starts) never⟩
  · rw [if_neg starts]
    exact ⟨fun _ start => starts (List.isPrefixOf_iff_prefix.mpr start), fun _ => rfl⟩

theorem readMarked_spells {marker text rest : List Char} {number : Option Nat}
    (read : readMarked marker text = some (number, rest)) :
    exists spelled, SpellsMarked marker spelled number ∧ text = spelled ++ rest := by
  unfold readMarked at read
  cases stripped : stripStart marker text with
  | none =>
    rw [stripped] at read
    cases read
    exact ⟨[], .absent, rfl⟩
  | some tail =>
    rw [stripped] at read
    rcases Option.map_eq_some_iff.mp read with ⟨⟨value, rest'⟩, split, same⟩
    cases same
    rcases splitLeadingNumber_iff.mp split with ⟨digits, ⟨nonempty, isDigits⟩, rfl, rfl, _⟩
    refine ⟨marker ++ digits, .present digits nonempty isDigits, ?_⟩
    rw [stripStart_iff.mp stripped, List.append_assoc]

theorem readMarked_of_spells {marker spelled rest : List Char} {number : Option Nat}
    (spells : SpellsMarked marker spelled number) (stops : ¬ StartsWithDigit rest)
    (other : ¬ marker <+: rest) : readMarked marker (spelled ++ rest) = some (number, rest) := by
  unfold readMarked
  cases spells with
  | absent => rw [List.nil_append, stripStart_none.mpr other]
  | present digits nonempty isDigits =>
    have stripped : stripStart marker (marker ++ digits ++ rest) = some (digits ++ rest) :=
      stripStart_iff.mpr (List.append_assoc ..)
    rw [stripped]
    dsimp only
    rw [splitLeadingNumber_iff.mpr ⟨digits, ⟨nonempty, isDigits⟩, rfl, rfl, stops⟩, Option.map_some]

theorem readPre_spells {text rest : List Char} {pre : Option (Nat × Nat)}
    (read : readPre text = some (pre, rest)) :
    exists spelled version, SpellsPre spelled version ∧
      pre = version.map (fun found => (found.1.kind, found.2)) ∧ text = spelled ++ rest := by
  unfold readPre at read
  cases found : preTags.findSome? fun tag =>
      (stripStart tag.1 text).map fun tail => (tag.2, tail) with
  | none =>
    rw [found] at read
    cases read
    exact ⟨[], none, .absent, rfl, rfl⟩
  | some tagged =>
    rw [found] at read
    rcases Option.map_eq_some_iff.mp read with ⟨⟨value, rest'⟩, split, same⟩
    cases same
    rcases splitLeadingNumber_iff.mp split with ⟨digits, ⟨nonempty, isDigits⟩, rfl, whole, _⟩
    rcases List.exists_of_findSome?_eq_some found with ⟨tag, listed, isTag⟩
    rcases Option.map_eq_some_iff.mp isTag with ⟨tail, stripped, rfl⟩
    have text' := stripStart_iff.mp stripped
    dsimp only at whole
    have labelled : exists label : PreLabel, tag.1 = label.text ∧ tag.2 = label.kind := by
      simp only [preTags, List.mem_cons, List.not_mem_nil, or_false] at listed
      rcases listed with rfl | rfl | rfl
      · exact ⟨.rc, rfl, rfl⟩
      · exact ⟨.a, rfl, rfl⟩
      · exact ⟨.b, rfl, rfl⟩
    rcases labelled with ⟨label, isText, isKind⟩
    refine ⟨label.text ++ digits, some (label, numberValue digits),
      .present label digits nonempty isDigits, ?_, ?_⟩
    · rw [Option.map_some, ← isKind]
    · rw [text', whole, isText, List.append_assoc]

/-- Nothing that can follow starts as a tag does. -/
theorem readPre_of_spells {spelled rest : List Char} {version : Option (PreLabel × Nat)}
    (spells : SpellsPre spelled version) (stops : rest.head?.all (· == '.') = true) :
    readPre (spelled ++ rest) =
      some (version.map fun found => (found.1.kind, found.2), rest) := by
  have notDigit : ¬ StartsWithDigit rest := by
    unfold StartsWithDigit
    cases rest with
    | nil => decide
    | cons head rest =>
      have dot : head = '.' := beq_iff_eq.mp stops
      rw [dot]
      simp
  unfold readPre
  cases spells with
  | absent =>
    have untagged : (preTags.findSome? fun tag =>
        (stripStart tag.1 ([] ++ rest)).map fun tail => (tag.2, tail)) = none := by
      refine List.findSome?_eq_none_iff.mpr fun tag listed => ?_
      rw [Option.map_eq_none_iff, stripStart_none, List.nil_append]
      intro starts
      have letters : preTags.all (fun tag => tag.1.head?.any (· != '.')) = true := by decide
      have letter : tag.1.head?.any (· != '.') = true := List.all_eq_true.mp letters tag listed
      cases rest with
      | nil =>
        rw [List.prefix_nil.mp starts] at letter
        cases letter
      | cons head rest =>
        have dot : head = '.' := beq_iff_eq.mp stops
        cases isTag : tag.1 with
        | nil =>
          rw [isTag] at letter
          cases letter
        | cons first more =>
          rw [isTag] at letter starts
          have same := (List.cons_prefix_cons.mp starts).1
          rw [List.head?_cons, Option.any_some, same, dot] at letter
          cases letter
    rw [untagged]
    rfl
  | present label digits nonempty isDigits =>
    have split := splitLeadingNumber_iff.mpr
      ⟨digits, ⟨nonempty, isDigits⟩, rfl, rfl, notDigit⟩
    have tagged : (preTags.findSome? fun tag =>
        (stripStart tag.1 (label.text ++ digits ++ rest)).map fun tail => (tag.2, tail)) =
          some (label.kind, digits ++ rest) := by
      rw [List.append_assoc]
      cases label <;> rfl
    rw [tagged]
    dsimp only
    rw [split]
    rfl

end Therock
end RocmCli
