import RocmCli.Support.Occurrences
import RocmCli.Support.Text

namespace RocmCli
namespace Gguf

open Support.Occurrences

/-!
# Names of GGUF files

A file is named by a quantization label that stands in its name between
separators, and the parts of a split model carry their index and their number
in theirs.
-/

/-! ## Labels -/

def isBoundary (character : Option Char) (extra : List Char) : Bool :=
  character.all fun character => ['-', '.', '/'].contains character || extra.contains character

def lowered (text : String) : List Char := text.toList.map Char.toLower

/-- What is before and behind an occurrence separates it from the rest. -/
def boundedAt (name label : List Char) (start : Nat) : Bool :=
  isBoundary (name.take start).getLast? ['_'] && isBoundary name[start + label.length]? []

def hasLabel (name label : String) : Bool :=
  (matchIndices (lowered label) (lowered name)).any (boundedAt (lowered name) (lowered label))

/-- The label stands between separators somewhere in the name. -/
def Labelled (name label : String) : Prop :=
  exists start, OccursAt (lowered label) (lowered name) start ∧
    boundedAt (lowered name) (lowered label) start = true

theorem labelled_of_hasLabel {name label : String} (has : hasLabel name label = true) :
    Labelled name label := by
  rcases List.any_eq_true.mp has with ⟨start, listed, bounded⟩
  exact ⟨start, occursAt_of_mem listed, bounded⟩

/-- A label that does not overlap itself is always found. -/
theorem hasLabel_of_apart {name label : String} (apart : ¬ Overlaps (lowered label))
    (labelled : Labelled name label) : hasLabel name label = true := by
  rcases labelled with ⟨start, occurs, bounded⟩
  exact List.any_eq_true.mpr ⟨start, mem_matchIndices apart occurs, bounded⟩

/-! ## Projectors and GGUF names -/

def namesProjector (name : String) : Bool :=
  (lowered name).tails.any fun tail => "mmproj".toList.isPrefixOf tail

def isGgufName (name : String) : Bool := ".gguf".toList.isSuffixOf (lowered name)

/-- What is behind the last slash of a name. -/
def lastComponent (name : String) : List Char :=
  (name.toList.reverse.takeWhile (· != '/')).reverse

/-! ## Shards -/

/-- What is before and behind the last `-of-`. -/
def splitLastOf : List Char -> Option (List Char × List Char)
  | [] => none
  | character :: rest =>
      match splitLastOf rest with
      | some (before, after) => some (character :: before, after)
      | none =>
          if "-of-".toList.isPrefixOf (character :: rest) then
            some ([], (character :: rest).drop 4)
          else none

/-- The number of five digits. -/
def digits (text : List Char) : Option Nat :=
  if text.length = 5 ∧ text.all Char.isDigit = true then some (Nat.ofDigitChars 10 text 0)
  else none

/-- What the name of a shard says: what the shards of one model share, and the
index of this one. -/
structure ShardParts where
  stem : List Char
  total : Nat
  rest : List Char
  index : Nat
deriving DecidableEq, Repr

def stripDash (text : List Char) : Option (List Char) :=
  if text.getLast? = some '-' then some text.dropLast else none

/-- The parts of a name `<stem>-00002-of-00004.gguf`.  A place inside a
character is not the start of five digits, so places are counted in characters. -/
def splitShard (name : List Char) : Option ShardParts := do
  let (before, after) ← splitLastOf name
  if before.length < 5 then none
  else
    let index ← digits (before.drop (before.length - 5))
    let stem ← stripDash (before.take (before.length - 5))
    let total ← digits (after.takeWhile (· != '.'))
    some ⟨stem, total, after.dropWhile (· != '.'), index⟩

/-- The text under which the shards of one model are gathered. -/
def ShardParts.key (parts : ShardParts) : List Char :=
  parts.stem ++ '|' :: (Nat.toDigits 10 parts.total ++ '|' :: parts.rest)

def shardParts (name : String) : Option (List Char × Nat) :=
  (splitShard name.toList).map fun parts => (parts.key, parts.index)

/-- The shards of the same model: the index aside, the names say the same. -/
def ShardParts.SameModel (parts other : ShardParts) : Prop :=
  parts.stem = other.stem ∧ parts.total = other.total ∧ parts.rest = other.rest

theorem key_of_sameModel {parts other : ShardParts} (same : parts.SameModel other) :
    parts.key = other.key := by
  unfold ShardParts.key
  rw [same.1, same.2.1, same.2.2]

/-! ## A shard's name is made of its parts -/

theorem splitLastOf_parts {text before after : List Char}
    (split : splitLastOf text = some (before, after)) :
    text = before ++ "-of-".toList ++ after := by
  induction text generalizing before with
  | nil => cases split
  | cons character rest ih =>
      unfold splitLastOf at split
      split at split
      · rename_i front back later
        cases split
        rw [ih later]
        rfl
      · split at split
        · rename_i starts
          cases split
          rcases List.isPrefixOf_iff_prefix.mp starts with ⟨back, whole⟩
          rw [← whole]
          rfl
        · cases split

theorem toNat_of_isDigit {character : Char} (digit : character.isDigit = true) :
    48 ≤ character.toNat ∧ character.toNat ≤ 57 := by
  unfold Char.isDigit at digit
  rw [Bool.and_eq_true, decide_eq_true_eq, decide_eq_true_eq] at digit
  exact digit

theorem ofDigitChars_concat (text : List Char) (last : Char) :
    Nat.ofDigitChars 10 (text ++ [last]) 0 =
      10 * Nat.ofDigitChars 10 text 0 + (last.toNat - 48) := by
  rw [Nat.ofDigitChars_append, Nat.ofDigitChars_cons, Nat.ofDigitChars_nil]
  rfl

/-- As many digits with the same value are the same digits. -/
theorem ofDigitChars_inj {text other : List Char} (sameLength : text.length = other.length)
    (allDigits : text.all Char.isDigit = true) (otherDigits : other.all Char.isDigit = true)
    (same : Nat.ofDigitChars 10 text 0 = Nat.ofDigitChars 10 other 0) : text = other := by
  induction text using List.reverseRecOn generalizing other with
  | nil => exact (List.length_eq_zero_iff.mp sameLength.symm).symm
  | append_singleton text last ih =>
      rcases other.eq_nil_or_concat with rfl | ⟨front, final, rfl⟩
      · rw [List.length_append] at sameLength
        cases sameLength
      · rw [List.concat_eq_append] at sameLength otherDigits same ⊢
        rw [List.length_append, List.length_append] at sameLength
        rw [List.all_append, Bool.and_eq_true] at allDigits otherDigits
        rw [ofDigitChars_concat, ofDigitChars_concat] at same
        have lastDigit := toNat_of_isDigit (List.all_eq_true.mp allDigits.2 last
          (List.mem_singleton_self last))
        have finalDigit := toNat_of_isDigit (List.all_eq_true.mp otherDigits.2 final
          (List.mem_singleton_self final))
        have fronts : Nat.ofDigitChars 10 text 0 = Nat.ofDigitChars 10 front 0 := by omega
        have lasts : last = final := Char.toNat_inj.mp (by omega)
        rw [ih (Nat.add_right_cancel sameLength) allDigits.1 otherDigits.1 fronts,
          lasts]

theorem digits_inj {text other : List Char} {number : Nat} (first : digits text = some number)
    (second : digits other = some number) : text = other := by
  unfold digits at first second
  split at first
  · rename_i isNumber
    split at second
    · rename_i otherNumber
      exact ofDigitChars_inj (isNumber.1.trans otherNumber.1.symm) isNumber.2 otherNumber.2
        ((Option.some.inj first).trans (Option.some.inj second).symm)
    · cases second
  · cases first

/-- A shard's name in terms of its parts. -/
theorem splitShard_parts {name : List Char} {parts : ShardParts}
    (split : splitShard name = some parts) :
    exists indexText totalText, digits indexText = some parts.index ∧
      digits totalText = some parts.total ∧
      name = parts.stem ++ '-' :: indexText ++ "-of-".toList ++ (totalText ++ parts.rest) := by
  unfold splitShard at split
  rcases Option.bind_eq_some_iff.mp split with ⟨⟨before, after⟩, whole, split⟩
  dsimp only at split
  split at split
  · cases split
  · rename_i long
    rcases Option.bind_eq_some_iff.mp split with ⟨index, isIndex, split⟩
    rcases Option.bind_eq_some_iff.mp split with ⟨stem, isStem, split⟩
    rcases Option.bind_eq_some_iff.mp split with ⟨total, isTotal, split⟩
    cases split
    refine ⟨_, _, isIndex, isTotal, ?_⟩
    have dashed : before.take (before.length - 5) = stem ++ ['-'] := by
      unfold stripDash at isStem
      split at isStem
      · rename_i ends
        rw [← Option.some.inj isStem]
        exact (List.dropLast_append_getLast? '-' ends).symm
      · cases isStem
    have front : before = stem ++ '-' :: before.drop (before.length - 5) := by
      conv_lhs => rw [← List.take_append_drop (before.length - 5) before, dashed]
      rw [List.append_assoc]
      rfl
    rw [splitLastOf_parts whole, List.takeWhile_append_dropWhile, ← front]

/-- Two shards of the same model with the same index have the same name. -/
theorem splitShard_inj {name other : List Char} {parts otherParts : ShardParts}
    (first : splitShard name = some parts) (second : splitShard other = some otherParts)
    (same : parts.SameModel otherParts) (sameIndex : parts.index = otherParts.index) :
    name = other := by
  rcases splitShard_parts first with ⟨indexText, totalText, isIndex, isTotal, whole⟩
  rcases splitShard_parts second with ⟨otherIndexText, otherTotalText, otherIndex, otherTotal,
    otherWhole⟩
  rw [← sameIndex] at otherIndex
  rw [← same.2.1] at otherTotal
  rw [whole, otherWhole, digits_inj isIndex otherIndex, digits_inj isTotal otherTotal, same.1,
    same.2.2]

/-! ## Keys -/

theorem bar_notMem_digits (number : Nat) : '|' ∉ Nat.toDigits 10 number :=
  Text.not_mem_toDigits (by decide) number

/-- Two texts that agree up to a separator that neither has before it agree in
both parts. -/
theorem append_bar_inj {front other back otherBack : List Char} (inFront : '|' ∉ front)
    (inOther : '|' ∉ other) (same : front ++ '|' :: back = other ++ '|' :: otherBack) :
    front = other ∧ back = otherBack := by
  induction front generalizing other with
  | nil =>
      cases other with
      | nil => exact ⟨rfl, (List.cons.inj same).2⟩
      | cons first rest =>
          exact absurd ((List.cons.inj same).1 ▸ List.mem_cons_self) inOther
  | cons first rest ih =>
      cases other with
      | nil => exact absurd ((List.cons.inj same).1 ▸ List.mem_cons_self) inFront
      | cons second others =>
          have parts := List.cons.inj same
          have later := ih (fun listed => inFront (List.mem_cons_of_mem _ listed))
            (fun listed => inOther (List.mem_cons_of_mem _ listed)) parts.2
          exact ⟨List.cons_eq_cons.mpr ⟨parts.1, later.1⟩, later.2⟩

/-- Where the stems have no bar, shards with one key are of one model. -/
theorem sameModel_of_key {parts other : ShardParts} (plain : '|' ∉ parts.stem)
    (otherPlain : '|' ∉ other.stem) (same : parts.key = other.key) : parts.SameModel other := by
  rcases append_bar_inj plain otherPlain same with ⟨stems, later⟩
  rcases append_bar_inj (bar_notMem_digits _) (bar_notMem_digits _) later with ⟨totals, rests⟩
  have numbers := congrArg (Nat.ofDigitChars 10 · 0) totals
  rw [Nat.ofDigitChars_toDigits (by decide) (by decide),
    Nat.ofDigitChars_toDigits (by decide) (by decide)] at numbers
  exact ⟨stems, numbers, rests⟩

end Gguf
end RocmCli
