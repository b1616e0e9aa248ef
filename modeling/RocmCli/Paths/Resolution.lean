import RocmCli.Paths.Places

namespace RocmCli
namespace Paths

open Segments

/-!
# What a path text is reduced to

Normalization and lexical resolution take every text that names a place to the
rendering of that place.  The rendering names the place itself, so reducing it
again changes nothing; on Windows this needs a last component without white
space at its end, since the reduction trims.
-/

/-! ## Parts below an anchor -/

theorem resolvePart_eq_descend {components : List PathText} (resolved : dotDot ∉ components)
    (part : PathText) : resolvePart true components part = descend components part := by
  unfold resolvePart descend
  by_cases still : part = [] ∨ part = dot
  · rw [if_pos still, if_pos still]
  · rw [if_neg still, if_neg still]
    by_cases up : part = dotDot
    · rw [if_pos up, if_pos up]
      rcases List.eq_nil_or_concat' components with empty | ⟨front, last, split⟩
      · rw [empty]
        rfl
      · have different : last ≠ dotDot := by
          intro same
          exact resolved (by rw [split, same]; simp)
        rw [split, List.getLast?_concat]
        exact if_neg different
    · rw [if_neg up, if_neg up]

variable {parts : List PathText}

theorem foldl_resolvePart {components : List PathText} (resolved : dotDot ∉ components) :
    parts.foldl (resolvePart true) components = parts.foldl descend components := by
  induction parts generalizing components with
  | nil => rfl
  | cons head rest ih =>
      have stays : dotDot ∉ descend components head := by
        intro member
        rcases mem_descend member with earlier | ⟨same, _, _, notDotDot⟩
        · exact resolved earlier
        · exact notDotDot same.symm
      rw [List.foldl_cons, List.foldl_cons, resolvePart_eq_descend resolved,
        ih stays]

/-! ## Anchors -/

variable {part : PathText}

theorem trimEndSlashes_append (front : PathText) (nonempty : part ≠ []) (free : '/' ∉ part) :
    trimEndSlashes (front ++ part) = front ++ part := by
  apply List.rdropWhile_eq_self_iff.mpr
  intro whole slash
  rw [List.getLast_append_of_ne_nil whole nonempty] at slash
  have same : part.getLast nonempty = '/' := by simpa [isSlash] using slash
  exact free (same ▸ List.getLast_mem nonempty)

theorem trimEndSlashes_concat (front : PathText) :
    trimEndSlashes (front ++ ['/']) = trimEndSlashes front :=
  List.rdropWhile_concat_pos _ _ _ rfl

variable {rest : PathText}

theorem takeWhile_part (free : '/' ∉ part) (continues : Continues rest) :
    (part ++ rest).takeWhile (!isSlash ·) = part := by
  have inside : forall character, character ∈ part -> (!isSlash character) = true := by
    intro character member
    have different : character ≠ '/' := fun same => free (same ▸ member)
    simpa [isSlash] using different
  rw [List.takeWhile_append_of_pos inside]
  rcases continues with empty | slash
  · rw [empty, List.takeWhile_nil, List.append_nil]
  · rcases rest with _ | ⟨head, tail⟩
    · rw [List.takeWhile_nil, List.append_nil]
    · have same : head = '/' := by simpa using slash
      rw [same, List.takeWhile_cons_of_neg (by decide), List.append_nil]

theorem dropWhile_part (free : '/' ∉ part) (continues : Continues rest) :
    (part ++ rest).dropWhile (!isSlash ·) = rest := by
  have split : (part ++ rest).takeWhile (!isSlash ·) ++ (part ++ rest).dropWhile (!isSlash ·) =
      part ++ rest := List.takeWhile_append_dropWhile
  rw [takeWhile_part free continues] at split
  exact List.append_cancel_left split

theorem splitShare_named {server name : PathText} (serverFree : '/' ∉ server)
    (nameFree : '/' ∉ name) (continues : Continues rest) :
    splitShare (server ++ '/' :: name ++ rest) = (server ++ '/' :: name, rest) := by
  have regroup : server ++ '/' :: name ++ rest = server ++ '/' :: (name ++ rest) := by simp
  have slash : Continues ('/' :: (name ++ rest)) := Or.inr rfl
  unfold splitShare
  rw [regroup, dropWhile_part serverFree slash, takeWhile_part serverFree slash]
  dsimp only
  rw [takeWhile_part nameFree continues, dropWhile_part nameFree continues]

/-! ## Resolution -/

section Resolution

variable {platform : RuntimePlatform}

/-- Resolution below an anchor that is its stem and perhaps a separator. -/
theorem lexicallyResolved_of_anchor (anchorText : PathText) {value : PathText} {anchor : Anchor}
    (split : splitRuntimePathAnchor platform value = (anchorText, rest))
    (nonempty : anchorText ≠ []) (stem : trimEndSlashes anchorText = anchor.stem) :
    lexicallyResolvedRuntimePathText platform value = Place.render ⟨anchor, walk rest⟩ := by
  have anchored : (!anchorText.isEmpty) = true := by simpa using nonempty
  unfold lexicallyResolvedRuntimePathText
  rw [split]
  dsimp only
  rw [anchored, if_pos rfl, foldl_resolvePart List.not_mem_nil, stem]
  rfl

theorem lexicallyResolved_root (posix : platform.isWindows = false) (rest : PathText) :
    lexicallyResolvedRuntimePathText platform ('/' :: rest) =
      Place.render ⟨.root, walk rest⟩ := by
  apply lexicallyResolved_of_anchor ['/']
  · unfold splitRuntimePathAnchor
    rw [posix]
    rfl
  · exact List.cons_ne_nil _ _
  · rfl

theorem trimEndSlashes_drive (letter : Char) : trimEndSlashes [letter, ':'] = [letter, ':'] :=
  trimEndSlashes_append [letter] (by simp) (by decide)

theorem not_slash_of_isAlpha {letter : Char} (alphabetic : letter.isAlpha = true) :
    letter ≠ '/' := by
  intro same
  rw [same] at alphabetic
  exact absurd alphabetic (by decide)

theorem lexicallyResolved_drive (windows : platform.isWindows = true) {letter : Char}
    (alphabetic : letter.isAlpha = true) (continues : Continues rest) :
    lexicallyResolvedRuntimePathText platform (letter :: ':' :: rest) =
      Place.render ⟨.drive letter, walk rest⟩ := by
  rcases continues with empty | slash
  · apply lexicallyResolved_of_anchor [letter, ':']
    · simp [splitRuntimePathAnchor, windows, alphabetic, empty]
    · exact List.cons_ne_nil _ _
    · exact trimEndSlashes_drive letter
  · rcases rest with _ | ⟨head, tail⟩
    · exact absurd slash (by simp)
    · have same : head = '/' := by simpa using slash
      rw [same, walk_cons_slash]
      apply lexicallyResolved_of_anchor [letter, ':', '/']
      · simp [splitRuntimePathAnchor, windows, alphabetic]
      · exact List.cons_ne_nil _ _
      · exact (trimEndSlashes_concat [letter, ':']).trans (trimEndSlashes_drive letter)

theorem lexicallyResolved_share (windows : platform.isWindows = true) {server name : PathText}
    (named : name ≠ []) (serverFree : '/' ∉ server) (nameFree : '/' ∉ name)
    (continues : Continues rest) :
    lexicallyResolvedRuntimePathText platform
        ('/' :: '/' :: (server ++ '/' :: name ++ rest)) =
      Place.render ⟨.share server name, walk rest⟩ := by
  apply lexicallyResolved_of_anchor ('/' :: '/' :: (server ++ '/' :: name))
  · unfold splitRuntimePathAnchor
    rw [windows, if_pos rfl]
    show ('/' :: '/' :: (splitShare _).1, (splitShare _).2) = _
    rw [splitShare_named serverFree nameFree continues]
  · exact List.cons_ne_nil _ _
  · have regroup : '/' :: '/' :: (server ++ '/' :: name) = ('/' :: '/' :: server ++ ['/']) ++ name := by
      simp
    rw [regroup, trimEndSlashes_append _ named nameFree, ← regroup]
    rfl

end Resolution

/-! ## Slashes and case -/

theorem backslash_not_mem_toSlashes (text : PathText) : '\\' ∉ toSlashes text := by
  intro member
  rcases List.mem_map.mp member with ⟨character, _, same⟩
  by_cases backslash : character = '\\'
  · rw [if_pos backslash] at same
    exact absurd same (by decide)
  · rw [if_neg backslash] at same
    exact backslash same

variable {text : PathText}

theorem toSlashes_of_free (free : '\\' ∉ text) : toSlashes text = text := by
  have same : toSlashes text = text.map id := by
    apply List.map_congr_left
    intro character member
    apply if_neg
    intro backslash
    exact free (backslash ▸ member)
  rw [same, List.map_id]

theorem toSlashes_toBackslashes (text : PathText) :
    toSlashes (toBackslashes text) = toSlashes text := by
  unfold toSlashes toBackslashes
  rw [List.map_map]
  apply List.map_congr_left
  intro character _
  by_cases slash : character = '/'
  · simp [slash]
  · simp [slash]

theorem toSlashes_cons (character : Char) (text : PathText) :
    toSlashes (character :: text) =
      (if character = '\\' then '/' else character) :: toSlashes text := rfl

theorem toNat_lt_of_isAlpha {letter : Char} (alphabetic : letter.isAlpha = true) :
    letter.toNat < 123 := by
  simp only [Char.isAlpha, Char.isUpper, Char.isLower, Bool.or_eq_true, Bool.and_eq_true,
    decide_eq_true_eq, ge_iff_le, UInt32.le_iff_toNat_le] at alphabetic
  have lower : 'z'.val.toNat = 122 := rfl
  have upper : 'Z'.val.toNat = 90 := rfl
  unfold Char.toNat
  omega

/-- The letters of drives, in both cases. -/
theorem upper_of_isAlpha {letter : Char} (alphabetic : letter.isAlpha = true) :
    letter.toUpper.isAlpha = true ∧ letter.toUpper.toUpper = letter.toUpper := by
  apply Text.forall_toNat_lt (fun letter => letter.isAlpha = true ->
    letter.toUpper.isAlpha = true ∧ letter.toUpper.toUpper = letter.toUpper) _
    (toNat_lt_of_isAlpha alphabetic) alphabetic
  decide

theorem isAlpha_slashed (character : Char) :
    (if character = '\\' then '/' else character).isAlpha = character.isAlpha := by
  by_cases backslash : character = '\\'
  · rw [if_pos backslash, backslash]
    rfl
  · rw [if_neg backslash]

theorem colonDrive_cons_colon (letter : Char) (rest : PathText) :
    colonDrive (letter :: ':' :: rest) =
      if letter.isAlpha then some (letter.toUpper, trimStartSlashes (toSlashes rest)) else none :=
  rfl

theorem colonDrive_of_ne {letter colon : Char} (different : colon ≠ ':') (rest : PathText) :
    colonDrive (letter :: colon :: rest) = none := by
  unfold colonDrive
  split
  · rename_i same
    exact absurd (List.cons.inj (List.cons.inj same).2).1 different
  · rfl

/-- A drive with its colon is read off before or after the conversion. -/
theorem colonDrive_toSlashes (value : PathText) : colonDrive (toSlashes value) = colonDrive value := by
  rcases value with _ | ⟨letter, _ | ⟨colon, rest⟩⟩
  · rfl
  · rfl
  · rw [toSlashes_cons, toSlashes_cons]
    by_cases isColon : colon = ':'
    · rw [isColon, if_neg (by decide : ¬ ':' = '\\'), colonDrive_cons_colon, colonDrive_cons_colon,
        isAlpha_slashed, toSlashes_of_free (backslash_not_mem_toSlashes rest)]
      by_cases alphabetic : letter.isAlpha = true
      · have notBackslash : letter ≠ '\\' := by
          intro same
          rw [same] at alphabetic
          exact absurd alphabetic (by decide)
        rw [if_pos alphabetic, if_pos alphabetic, if_neg notBackslash]
      · rw [if_neg alphabetic, if_neg alphabetic]
    · have converted : (if colon = '\\' then '/' else colon) ≠ ':' := by
        by_cases backslash : colon = '\\'
        · rw [if_pos backslash]
          decide
        · rw [if_neg backslash]
          exact isColon
      rw [colonDrive_of_ne converted, colonDrive_of_ne isColon]

/-! ## Normalization -/

section Normalization

variable (separator : PathSeparator)

theorem toSlashes_formatWindowsDrivePath {drive : Char} (alphabetic : drive.isAlpha = true)
    (free : '\\' ∉ rest) :
    toSlashes (formatWindowsDrivePath drive rest separator) = drive :: ':' :: '/' :: rest := by
  have notBackslash : drive ≠ '\\' := by
    intro same
    rw [same] at alphabetic
    exact absurd alphabetic (by decide)
  have converted := toSlashes_of_free free
  unfold formatWindowsDrivePath
  by_cases empty : rest = []
  · rw [empty]
    cases separator <;> simp [notBackslash, PathSeparator.char, toSlashes]
  · rw [if_neg (by simpa using empty)]
    cases separator
    · simp [toSlashes_cons, notBackslash, PathSeparator.char, converted]
    · simp [toSlashes_cons, notBackslash, PathSeparator.char, toSlashes_toBackslashes, converted]

theorem toSlashes_formatWindowsUncPath (free : '\\' ∉ rest) :
    toSlashes (formatWindowsUncPath rest separator) = '/' :: '/' :: rest := by
  have converted := toSlashes_of_free free
  cases separator
  · simp [formatWindowsUncPath, toSlashes_cons, converted]
  · simp [formatWindowsUncPath, toSlashes_cons, toSlashes_toBackslashes, converted]

variable {separator}

/-- What normalization makes of a drive, however it is written. -/
theorem normalize_of_drive {value : PathText} {letter : Char} (alphabetic : letter.isAlpha = true)
    (continues : Continues rest) (written : toSlashes (trim value) = letter :: ':' :: rest ∨
      toSlashes (trim value) = '/' :: letter :: rest) :
    toSlashes (normalizeWindowsRuntimePathText separator value) =
      letter.toUpper :: ':' :: '/' :: trimStartSlashes rest := by
  have alphabeticUpper := (upper_of_isAlpha alphabetic).1
  have notSlash := not_slash_of_isAlpha alphabetic
  have free : '\\' ∉ trimStartSlashes rest := by
    intro member
    have whole := backslash_not_mem_toSlashes (trim value)
    have inside : '\\' ∈ rest := (List.dropWhile_sublist _).subset member
    rcases written with same | same
    · exact whole (by rw [same]; simp [inside])
    · exact whole (by rw [same]; simp [inside])
  have restFree : toSlashes rest = rest := by
    apply toSlashes_of_free
    intro inside
    have whole := backslash_not_mem_toSlashes (trim value)
    rcases written with same | same
    · exact whole (by rw [same]; simp [inside])
    · exact whole (by rw [same]; simp [inside])
  rw [← toSlashes_formatWindowsDrivePath separator alphabeticUpper free]
  congr 1
  unfold normalizeWindowsRuntimePathText
  rcases written with same | same
  · have colon : colonDrive (trim value) = some (letter.toUpper, trimStartSlashes rest) := by
      rw [← colonDrive_toSlashes, same]
      simp [colonDrive, alphabetic, restFree]
    have shell : shellDrive (toSlashes (trim value)) = none := by
      rw [same]
      unfold shellDrive
      split
      · rename_i other
        exact absurd (List.cons.inj other).1 notSlash
      · rfl
    dsimp only
    rw [shell, colon]
  · have shell : shellDrive (toSlashes (trim value)) =
        some (letter.toUpper, trimStartSlashes rest) := by
      rw [same]
      rcases continues with empty | slash
      · simp [shellDrive, alphabetic, empty]
      · rcases rest with _ | ⟨head, tail⟩
        · simp [shellDrive, alphabetic]
        · have slashHead : head = '/' := by simpa using slash
          simp [shellDrive, alphabetic, slashHead, trimStartSlashes, isSlash]
    dsimp only
    rw [shell]

theorem normalize_of_share {value : PathText}
    (written : toSlashes (trim value) = '/' :: '/' :: rest) :
    toSlashes (normalizeWindowsRuntimePathText separator value) = '/' :: '/' :: rest := by
  have free : '\\' ∉ rest := by
    intro inside
    exact backslash_not_mem_toSlashes (trim value) (by rw [written]; simp [inside])
  have shell : shellDrive ('/' :: '/' :: rest) = none := by simp [shellDrive]
  have colon : colonDrive (trim value) = none := by
    rw [← colonDrive_toSlashes, written]
    unfold colonDrive
    split
    · rename_i other
      have first := (List.cons.inj other).1
      rw [← first]
      rfl
    · rfl
  rw [← toSlashes_formatWindowsUncPath separator free]
  unfold normalizeWindowsRuntimePathText
  dsimp only
  rw [colon, written, shell]
  rfl

end Normalization

/-! ## Renderings -/

variable {place : Place}

theorem wellFormed_of_spells {windows : Bool} (spelled : Spells windows text place)
    (converted : windows = true -> '\\' ∉ text) :
    place.WellFormed windows := by
  cases spelled with
  | root rest => exact ⟨trivial, names_walk (fun onWindows => absurd onWindows (by decide))⟩
  | drive letter rest alphabetic continues =>
      refine ⟨upper_of_isAlpha alphabetic, names_walk fun _ inside => ?_⟩
      exact converted rfl (by simp [inside])
  | shellDrive letter rest alphabetic continues =>
      refine ⟨upper_of_isAlpha alphabetic, names_walk fun _ inside => ?_⟩
      exact converted rfl (by simp [inside])
  | share server name rest serverNamed shareNamed serverFree shareFree continues =>
      have plainServer : Plain true server :=
        ⟨serverFree, fun _ inside => converted rfl (by simp [inside])⟩
      have plainName : Plain true name :=
        ⟨shareFree, fun _ inside => converted rfl (by simp [inside])⟩
      refine ⟨⟨⟨serverNamed, plainServer⟩, shareNamed, plainName⟩, names_walk fun _ inside => ?_⟩
      exact converted rfl (by simp [inside])

/-- A rendering spells its place. -/
theorem spells_render {windows : Bool} (wellFormed : place.WellFormed windows) :
    Spells windows place.render place := by
  rcases place with ⟨anchor, components⟩
  have back : walk (List.intercalate ['/'] components) = components :=
    walk_intercalate wellFormed.components
  have below : walk ('/' :: List.intercalate ['/'] components) = components :=
    (walk_cons_slash _).trans back
  have formed := wellFormed.anchor
  cases windows with
  | false =>
      cases anchor with
      | root =>
          have spelled := Spells.root (List.intercalate ['/'] components)
          rwa [back] at spelled
      | drive letter => exact formed.elim
      | share server name => exact formed.elim
  | true =>
      cases anchor with
      | root => exact formed.elim
      | drive letter =>
          have spelled := Spells.drive letter ('/' :: List.intercalate ['/'] components) formed.1
            (Or.inr rfl)
          rwa [below, formed.2] at spelled
      | share server name =>
          have spelled := Spells.share server name ('/' :: List.intercalate ['/'] components)
            formed.1.1 formed.2.1 formed.1.2.1 formed.2.2.1 (Or.inr rfl)
          rw [below] at spelled
          simpa [Place.render, Anchor.stem] using spelled

theorem mem_intercalate {character : Char} (member : character ∈ List.intercalate ['/'] parts) :
    character = '/' ∨ exists part, part ∈ parts ∧ character ∈ part := by
  induction parts with
  | nil => exact absurd member List.not_mem_nil
  | cons head rest ih =>
      by_cases last : rest = []
      · rw [last, List.intercalate_singleton] at member
        exact Or.inr ⟨head, List.mem_cons_self, member⟩
      · rw [List.intercalate_cons_of_ne_nil last, List.append_assoc] at member
        rcases List.mem_append.mp member with inside | member
        · exact Or.inr ⟨head, List.mem_cons_self, inside⟩
        · rcases List.mem_append.mp member with slash | later
          · exact Or.inl (List.mem_singleton.mp slash)
          · rcases ih later with slash | ⟨part, partMember, inside⟩
            · exact Or.inl slash
            · exact Or.inr ⟨part, List.mem_cons_of_mem head partMember, inside⟩

theorem backslash_not_mem_render (wellFormed : place.WellFormed true) : '\\' ∉ place.render := by
  rcases place with ⟨anchor, components⟩
  intro member
  rcases List.mem_append.mp member with stem | below
  · have formed := wellFormed.anchor
    cases anchor with
    | root => exact formed.elim
    | drive letter =>
        have notBackslash : letter ≠ '\\' := by
          intro same
          have alphabetic := formed.1
          rw [same] at alphabetic
          exact absurd alphabetic (by decide)
        simp [Anchor.stem, notBackslash.symm] at stem
    | share server name =>
        simp [Anchor.stem, formed.1.2.2 rfl, formed.2.2.2 rfl] at stem
  · rcases List.mem_cons.mp below with slash | inside
    · exact absurd slash (by decide)
    · rcases mem_intercalate inside with slash | ⟨part, partMember, inside⟩
      · exact absurd slash (by decide)
      · exact (wellFormed.components part partMember).plain.2 rfl inside

theorem trim_of_ends {head : Char} {tail : PathText} (front : Text.isWhitespace head = false)
    (back : forall last, (head :: tail).getLast? = some last -> Text.isWhitespace last = false) :
    trim (head :: tail) = head :: tail := by
  unfold trim
  rw [List.dropWhile_cons_of_neg (by rw [front]; decide)]
  apply List.rdropWhile_eq_self_iff.mpr
  intro nonempty white
  have last := back _ (List.getLast?_eq_some_getLast nonempty)
  rw [last] at white
  exact absurd white (by decide)

theorem isWhitespace_of_isAlpha {letter : Char} (alphabetic : letter.isAlpha = true) :
    Text.isWhitespace letter = false := by
  apply Text.forall_toNat_lt (fun letter => letter.isAlpha = true ->
    Text.isWhitespace letter = false) _ (toNat_lt_of_isAlpha alphabetic) alphabetic
  decide

theorem getLast?_intercalate {last : PathText} (isLast : parts.getLast? = some last)
    (nonempty : last ≠ []) :
    (List.intercalate ['/'] parts).getLast? = last.getLast? := by
  induction parts with
  | nil => exact absurd isLast (by simp)
  | cons head rest ih =>
      by_cases empty : rest = []
      · rw [empty, List.getLast?_singleton, Option.some.injEq] at isLast
        rw [empty, List.intercalate_singleton, isLast]
      · rw [List.getLast?_cons_of_ne_nil empty] at isLast
        have later := ih isLast
        have some : (List.intercalate ['/'] rest).getLast? ≠ none := by
          rw [later]
          simpa using nonempty
        rw [List.intercalate_cons_of_ne_nil empty, List.getLast?_append, later]
        rcases found : last.getLast? with _ | character
        · exact absurd (later.trans found) some
        · rfl

/-- Nothing is trimmed off the rendering of a place without white space at its
end. -/
theorem trim_render (wellFormed : place.WellFormed true) (clean : place.Clean) :
    trim place.render = place.render := by
  rcases place with ⟨anchor, components⟩
  have back : forall last, (Place.render ⟨anchor, components⟩).getLast? = some last ->
      Text.isWhitespace last = false := by
    intro last isLast
    unfold Place.render at isLast
    dsimp only at isLast
    rw [List.getLast?_append_of_ne_nil _ (List.cons_ne_nil _ _)] at isLast
    rcases List.eq_nil_or_concat' components with empty | ⟨front, part, split⟩
    · rw [empty, List.intercalate_nil, List.getLast?_singleton, Option.some.injEq] at isLast
      rw [← isLast]
      decide
    · have isPart : components.getLast? = some part := by rw [split, List.getLast?_concat]
      have name := wellFormed.components part (by rw [split]; simp)
      have ends := getLast?_intercalate isPart name.nonempty
      have nonempty : List.intercalate ['/'] components ≠ [] := by
        intro none
        rw [none, List.getLast?_nil] at ends
        exact name.nonempty (List.getLast?_eq_none_iff.mp ends.symm)
      rw [List.getLast?_cons_of_ne_nil nonempty, ends] at isLast
      exact clean part isPart last isLast
  have formed := wellFormed.anchor
  cases anchor with
  | root => exact formed.elim
  | drive letter => exact trim_of_ends (isWhitespace_of_isAlpha formed.1) back
  | share server name => exact trim_of_ends (by decide) back

/-! ## Reducing a path text -/

section Reducing

variable {platform : RuntimePlatform} {separator : PathSeparator}

/-- A text that names a place is reduced to the rendering of the place. -/
theorem comparable_eq_render (names : Names platform text place) :
    comparableRuntimePathText platform separator text = place.render := by
  unfold comparableRuntimePathText normalizeRuntimePathTextForPlatform
  unfold Names NamesVerbatim at names
  by_cases windows : platform.isWindows = true
  · rw [if_pos windows, if_pos windows] at names
    rw [if_pos windows]
    dsimp only
    rw [if_pos windows]
    generalize written : toSlashes (trim text) = forward at names
    cases names with
    | drive letter rest alphabetic continues =>
        rw [normalize_of_drive alphabetic continues (Or.inl written),
          lexicallyResolved_drive windows (upper_of_isAlpha alphabetic).1 (Or.inr rfl),
          walk_cons_slash, walk_trimStartSlashes]
    | shellDrive letter rest alphabetic continues =>
        rw [normalize_of_drive alphabetic continues (Or.inr written),
          lexicallyResolved_drive windows (upper_of_isAlpha alphabetic).1 (Or.inr rfl),
          walk_cons_slash, walk_trimStartSlashes]
    | share server name rest serverNamed shareNamed serverFree shareFree continues =>
        rw [normalize_of_share written,
          lexicallyResolved_share windows shareNamed serverFree shareFree continues]
  · rw [if_neg windows, if_neg windows] at names
    rw [if_neg windows]
    dsimp only
    rw [if_neg windows]
    cases names with
    | root rest => exact lexicallyResolved_root (Bool.eq_false_iff.mpr windows) rest

theorem wellFormed_of_names (names : Names platform text place) :
    place.WellFormed platform.isWindows := by
  unfold Names NamesVerbatim at names
  by_cases windows : platform.isWindows = true
  · rw [if_pos windows, if_pos windows] at names
    rw [windows]
    exact wellFormed_of_spells names fun _ => backslash_not_mem_toSlashes _
  · rw [if_neg windows, if_neg windows] at names
    rw [Bool.eq_false_iff.mpr windows]
    exact wellFormed_of_spells names fun onWindows => absurd onWindows (by decide)

/-- A rendering names its place. -/
theorem names_render (wellFormed : place.WellFormed platform.isWindows)
    (tidy : platform.isWindows = true -> place.Clean) : Names platform place.render place := by
  unfold Names NamesVerbatim
  by_cases windows : platform.isWindows = true
  · rw [windows] at wellFormed
    rw [if_pos windows, if_pos windows, trim_render wellFormed (tidy windows),
      toSlashes_of_free (backslash_not_mem_render wellFormed)]
    exact spells_render wellFormed
  · rw [Bool.eq_false_iff.mpr windows] at wellFormed
    rw [if_neg windows, if_neg windows]
    exact spells_render wellFormed

/-- Lexical resolution leaves a rendering as it is. -/
theorem lexicallyResolved_render (wellFormed : place.WellFormed platform.isWindows) :
    lexicallyResolvedRuntimePathText platform place.render = place.render := by
  by_cases windows : platform.isWindows = true
  · rw [windows] at wellFormed
    have formed := wellFormed.anchor
    rcases place with ⟨anchor, components⟩
    have below : walk ('/' :: List.intercalate ['/'] components) = components :=
      (walk_cons_slash _).trans (walk_intercalate wellFormed.components)
    have continues : Continues ('/' :: List.intercalate ['/'] components) := Or.inr rfl
    cases anchor with
    | root => exact formed.elim
    | drive letter =>
        have resolved := lexicallyResolved_drive windows formed.1 continues
        rwa [below] at resolved
    | share server name =>
        have resolved := lexicallyResolved_share windows formed.2.1 formed.1.2.1 formed.2.2.1
          continues
        rw [below] at resolved
        simpa [Place.render, Anchor.stem] using resolved
  · have posix := Bool.eq_false_iff.mpr windows
    rw [posix] at wellFormed
    have formed := wellFormed.anchor
    rcases place with ⟨anchor, components⟩
    cases anchor with
    | root =>
        have resolved := lexicallyResolved_root posix (List.intercalate ['/'] components)
        rwa [walk_intercalate wellFormed.components] at resolved
    | drive letter => exact formed.elim
    | share server name => exact formed.elim

/-- Reducing the reduced text changes nothing. -/
theorem comparable_render (wellFormed : place.WellFormed platform.isWindows)
    (tidy : platform.isWindows = true -> place.Clean) :
    comparableRuntimePathText platform separator place.render = place.render :=
  comparable_eq_render (names_render wellFormed tidy)

end Reducing

end Paths
end RocmCli
