import RocmCli.Gguf.Acceptance

namespace RocmCli
namespace Gguf

open Scan Text

/-!
# What a header content says

The meaning of a list of entries, in terms of the entries themselves: for each
thing the parser keeps, the last entry that says it.  Reading the entries one
by one finds this meaning, and fails only on too many distinct shape keys.
-/

/-! ## The meaning of values and entries -/

/-- What the last item says that says anything. -/
def lastOf {X Y : Type} (choose : X -> Option Y) (items : List X) : Option Y :=
  (items.filterMap choose).getLast?

theorem lastOf_snoc {X Y : Type} (choose : X -> Option Y) (items : List X) (item : X) :
    lastOf choose (items ++ [item]) = (choose item).or (lastOf choose items) := by
  rw [lastOf, List.filterMap_append, List.getLast?_append]
  congr 1
  cases isChosen : choose item with
  | none => simp [isChosen]
  | some chosen => simp [isChosen]

/-- The widest figure of all layers. -/
def PerLayer.widest : PerLayer -> Option Nat
  | uniform value => some value
  | each values => values.max?

namespace MetadataValue

variable {levels : Nat}

/-- The text of a string that is short enough to be kept. -/
def text : MetadataValue levels -> Option String
  | string text => if text.length ≤ maxKeptString then some (fromUtf8Lossy text) else none
  | scalar _ _ | array _ => none

/-- A non-negative integer. -/
def number : MetadataValue levels -> Option Nat
  | scalar type bits => type.integer bits
  | string _ | array _ => none

/-- A non-negative integer, or a short list of them. -/
def figure : MetadataValue levels -> Option PerLayer
  | scalar type bits => (type.integer bits).map .uniform
  | string _ => none
  | array elements =>
      if arrayCount levels elements ≤ maxKeptArray then
        (arrayIntegers levels elements).map .each
      else none

theorem readArray_eq (keep : Bool) (elements : NestedArray levels) :
    readArray levels keep elements =
      if keep && arrayCount levels elements ≤ maxKeptArray then
        (arrayIntegers levels elements).elim .skipped .ints
      else .skipped := by
  cases levels <;> rfl

/-- An array reads as a list or not at all. -/
theorem readArray_cases (keep : Bool) (elements : NestedArray levels) :
    (exists values, readArray levels keep elements = .ints values) ∨
      readArray levels keep elements = .skipped := by
  rw [readArray_eq]
  split
  · cases arrayIntegers levels elements with
    | none => exact Or.inr rfl
    | some values => exact Or.inl ⟨values, rfl⟩
  · exact Or.inr rfl

theorem read_str {keep : Bool} {value : MetadataValue levels} {name : String} :
    value.read keep = .str name ↔ value.text = some name := by
  cases value with
  | scalar type bits =>
      rw [read, text]
      cases type.integer bits <;> simp
  | string content =>
      rw [read, text, readString]
      split <;> split <;> simp <;> omega
  | array elements =>
      rw [read, text]
      rcases readArray_cases keep elements with ⟨values, isRead⟩ | isRead <;> simp [isRead]

theorem read_uint {keep : Bool} {value : MetadataValue levels} {found : Nat} :
    value.read keep = .uint found ↔ value.number = some found := by
  cases value with
  | scalar type bits =>
      rw [read, number]
      cases type.integer bits <;> simp
  | string content =>
      rw [read, number]
      cases readString maxKeptString content <;> simp
  | array elements =>
      rw [read, number]
      rcases readArray_cases keep elements with ⟨values, isRead⟩ | isRead <;> simp [isRead]

theorem perLayer_read (keep : Bool) (value : MetadataValue levels) :
    perLayer (some (value.read keep)) =
      if keep then value.figure else value.number.map .uniform := by
  cases value with
  | scalar type bits =>
      rw [read, figure, number, ite_self]
      cases type.integer bits <;> rfl
  | string content =>
      rw [read, figure, number, Option.map_none, ite_self]
      cases readString maxKeptString content <;> rfl
  | array elements =>
      rw [read, figure, number, readArray_eq]
      cases keep with
      | false => rfl
      | true =>
          rw [Bool.true_and, if_pos rfl]
          by_cases short : arrayCount levels elements ≤ maxKeptArray
          · rw [if_pos short, if_pos (decide_eq_true short)]
            cases arrayIntegers levels elements <;> rfl
          · rw [if_neg short, if_neg (mt of_decide_eq_true short)]
            rfl

end MetadataValue

/-- What an entry says of the shape: a list counts only under a key that is
kept. -/
def Entry.figure {levels : Nat} (entry : Entry levels) : Option PerLayer :=
  if isKeptKey entry.text then entry.value.figure else entry.value.number.map .uniform

theorem uint_eq (value : Option Value) : uint value = (perLayer value).bind PerLayer.widest := by
  rcases value with _ | _ | _ | _ | _ <;> rfl

theorem perLayer_entry {levels : Nat} (entry : Entry levels) :
    perLayer (some entry.read) = entry.figure :=
  MetadataValue.perLayer_read _ _

section Entries

variable {levels : Nat}

/-- What an entry of this key says. -/
def Entry.under {Y : Type} (key : String) (what : Entry levels -> Option Y) (entry : Entry levels) :
    Option Y :=
  if entry.text = key then what entry else none

def architecture : List (Entry levels) -> Option String :=
  lastOf (Entry.under "general.architecture" fun entry => entry.value.text)

def alignment (entries : List (Entry levels)) : Nat :=
  (lastOf (Entry.under "general.alignment" fun entry => entry.value.number) entries).getD
    defaultAlignment

def splitCount : List (Entry levels) -> Option Nat :=
  lastOf (Entry.under "split.count" fun entry => entry.value.number)

/-- The figure of a key. -/
def figureOf (key : String) : List (Entry levels) -> Option PerLayer :=
  lastOf (Entry.under key Entry.figure)

/-- The shape keys that have a figure. -/
def shapeKeys (entries : List (Entry levels)) : List String :=
  entries.filterMap fun entry =>
    if Metadata.isShapeKey entry.text && entry.figure.isSome then some entry.text else none

/-- Some figure under a key of this ending is above the bound. -/
def exceeds (suffix : String) (bound : Nat) (entries : List (Entry levels)) : Bool :=
  entries.any fun entry =>
    endsWith entry.text suffix && (entry.figure.bind PerLayer.widest).any fun figure => bound < figure

end Entries

/-! ## One entry -/

def Value.asText : Value -> Option String
  | .str text => some text
  | .uint _ | .ints _ | .skipped => none

def Value.asNumber : Value -> Option Nat
  | .uint number => some number
  | .str _ | .ints _ | .skipped => none

theorem asText_entry {levels : Nat} (entry : Entry levels) :
    entry.read.asText = entry.value.text := by
  apply Option.ext
  intro name
  have isText : entry.read.asText = some name ↔ entry.read = .str name := by
    cases entry.read <;> simp [Value.asText]
  exact isText.trans MetadataValue.read_str

theorem asNumber_entry {levels : Nat} (entry : Entry levels) :
    entry.read.asNumber = entry.value.number := by
  apply Option.ext
  intro number
  have isNumber : entry.read.asNumber = some number ↔ entry.read = .uint number := by
    cases entry.read <;> simp [Value.asNumber]
  exact isNumber.trans MetadataValue.read_uint

namespace Metadata

/-- A key and a value that are kept. -/
def isKept (key : String) (value : Value) : Bool := isShapeKey key && isFigure value

/-- The metadata after one more entry, if there is room for it. -/
def taken (metadata : Metadata) (key : String) (value : Value) : Metadata where
  architecture := (if key = "general.architecture" then value.asText else none).or
    metadata.architecture
  alignment := (if key = "general.alignment" then value.asNumber else none).getD metadata.alignment
  splitCount := (if key = "split.count" then value.asNumber else none).or metadata.splitCount
  ssm := (metadata.withFlags key value).ssm
  latentAttention := (metadata.withFlags key value).latentAttention
  moe := (metadata.withFlags key value).moe
  slidingWindow := (metadata.withFlags key value).slidingWindow
  kept := if isKept key value then (metadata.insert key value).kept else metadata.kept

/-- There is no room for one more key. -/
def full (metadata : Metadata) (key : String) (value : Value) : Bool :=
  isKept key value && (maxKeptKeys ≤ metadata.kept.length && (metadata.get key).isNone)

/-- The keys that are told apart by name are no shape keys and raise no flag. -/
def raisesNothing (key : String) : Bool :=
  !isShapeKey key && !contains key ".ssm." && !endsWith key ".attention.kv_lora_rank" &&
    !endsWith key ".expert_count" && !endsWith key ".attention.sliding_window"

variable {key : String} {value : Value}

theorem withFlags_raisesNothing {metadata : Metadata} (noMore : raisesNothing key = true) :
    metadata.withFlags key value = metadata := by
  simp only [raisesNothing, Bool.and_eq_true, Bool.not_eq_true'] at noMore
  rcases noMore with ⟨⟨⟨⟨-, noSsm⟩, noLatent⟩, noExperts⟩, noWindow⟩
  simp only [withFlags, noSsm, noLatent, noExperts, noWindow, Bool.false_and, Bool.or_false]

theorem isKept_raisesNothing (noMore : raisesNothing key = true) :
    isKept key value = false := by
  simp only [raisesNothing, Bool.and_eq_true, Bool.not_eq_true'] at noMore
  rw [isKept, noMore.1.1.1.1, Bool.false_and]

theorem architecture_raisesNothing : raisesNothing "general.architecture" = true := by decide +kernel

theorem alignment_raisesNothing : raisesNothing "general.alignment" = true := by decide +kernel

theorem splitCount_raisesNothing : raisesNothing "split.count" = true := by decide +kernel

theorem absorb_eq (metadata : Metadata) (key : String) (value : Value) :
    metadata.absorb key value =
      if metadata.full key value then
        .error (.malformed
          s!"more than {maxKeptKeys} distinct model-shape keys is not a plausible header")
      else .ok (metadata.taken key value) := by
  unfold absorb
  split
  next name =>
    rw [full, isKept_raisesNothing architecture_raisesNothing, taken,
      withFlags_raisesNothing architecture_raisesNothing, isKept_raisesNothing architecture_raisesNothing]
    rfl
  next number =>
    rw [full, isKept_raisesNothing alignment_raisesNothing, taken,
      withFlags_raisesNothing alignment_raisesNothing, isKept_raisesNothing alignment_raisesNothing]
    rfl
  next number =>
    rw [full, isKept_raisesNothing splitCount_raisesNothing, taken,
      withFlags_raisesNothing splitCount_raisesNothing, isKept_raisesNothing splitCount_raisesNothing]
    rfl
  next noArchitecture noAlignment noSplit =>
    have architectureStays : (if key = "general.architecture" then value.asText else none) = none := by
      refine ite_eq_right_iff.mpr fun isKey => ?_
      cases value with
      | str name => exact (noArchitecture name isKey rfl).elim
      | uint number | ints values | skipped => rfl
    have alignmentStays : (if key = "general.alignment" then value.asNumber else none) = none := by
      refine ite_eq_right_iff.mpr fun isKey => ?_
      cases value with
      | uint number => exact (noAlignment number isKey rfl).elim
      | str name | ints values | skipped => rfl
    have splitStays : (if key = "split.count" then value.asNumber else none) = none := by
      refine ite_eq_right_iff.mpr fun isKey => ?_
      cases value with
      | uint number => exact (noSplit number isKey rfl).elim
      | str name | ints values | skipped => rfl
    rw [full, taken, architectureStays, alignmentStays, splitStays]
    change keep _ key value = _
    rw [keep]
    change (if isKept key value then _ else _) = _
    cases isKept key value with
    | false => rfl
    | true =>
        rw [if_pos rfl, Bool.true_and]
        rfl

theorem absorb_ok_iff {metadata next : Metadata} :
    metadata.absorb key value = .ok next ↔
      metadata.full key value = false ∧ metadata.taken key value = next := by
  rw [absorb_eq]
  cases metadata.full key value with
  | true => exact ⟨nofun, fun isOk => (nomatch isOk.1)⟩
  | false => exact ⟨fun isOk => ⟨rfl, Except.ok.inj isOk⟩, fun isOk => congrArg Except.ok isOk.2⟩

/-! ## The kept figures -/

def keys (metadata : Metadata) : List String := metadata.kept.map Prod.fst

theorem keys_insert (metadata : Metadata) (key : String) (value : Value) :
    (metadata.insert key value).keys = (metadata.keys.filter (· ≠ key)) ++ [key] := by
  rw [keys, insert, List.map_append, keys, List.filter_map]
  rfl

theorem get_isNone (metadata : Metadata) (key : String) :
    (metadata.get key).isNone = true ↔ key ∉ metadata.keys := by
  rw [get, Option.isNone_map, Option.isNone_iff_eq_none, List.find?_eq_none, keys, List.mem_map]
  constructor
  · rintro absent ⟨entry, isEntry, isKey⟩
    exact absent entry isEntry (decide_eq_true isKey)
  · intro absent entry isEntry isKey
    exact absent ⟨entry, isEntry, of_decide_eq_true isKey⟩

theorem get_insert (metadata : Metadata) (key other : String) (value : Value) :
    (metadata.insert key value).get other = if key = other then some value else metadata.get other := by
  rw [get, insert, List.find?_append]
  split
  next same =>
    subst same
    have absent : (metadata.kept.filter fun entry => entry.1 ≠ key).find?
        (fun entry => entry.1 = key) = none := by
      rw [List.find?_eq_none]
      intro entry isEntry isKey
      exact of_decide_eq_true (List.mem_filter.mp isEntry).2 (of_decide_eq_true isKey)
    rw [absent]
    simp
  next differs =>
    have unaffected : (metadata.kept.filter fun entry => entry.1 ≠ key).find?
        (fun entry => entry.1 = other) = metadata.kept.find? fun entry => entry.1 = other := by
      rw [List.find?_filter]
      congr 1
      funext entry
      by_cases isOther : entry.1 = other
      · simp [isOther, Ne.symm differs]
      · simp [isOther]
    rw [unaffected, get]
    simp [differs]

theorem get_taken (metadata : Metadata) (key other : String) (value : Value) :
    (metadata.taken key value).get other =
      if isKept key value = true ∧ key = other then some value else metadata.get other := by
  by_cases kept : isKept key value = true
  · have sameKept : (metadata.taken key value).kept = (metadata.insert key value).kept := if_pos kept
    rw [get, sameKept, ← get, get_insert]
    simp only [kept, true_and]
  · have sameKept : (metadata.taken key value).kept = metadata.kept := if_neg kept
    rw [get, sameKept, ← get, if_neg fun both => kept both.1]

theorem keys_taken (metadata : Metadata) (key : String) (value : Value) :
    (metadata.taken key value).keys =
      if isKept key value then (metadata.keys.filter (· ≠ key)) ++ [key] else metadata.keys := by
  by_cases kept : isKept key value = true
  · have sameKept : (metadata.taken key value).kept = (metadata.insert key value).kept := if_pos kept
    rw [keys, sameKept, ← keys, keys_insert, if_pos kept]
  · have sameKept : (metadata.taken key value).kept = metadata.kept := if_neg kept
    rw [keys, sameKept, ← keys, if_neg kept]

end Metadata

theorem isKept_entry {levels : Nat} (entry : Entry levels) :
    Metadata.isKept entry.text entry.read =
      (Metadata.isShapeKey entry.text && entry.figure.isSome) := by
  rw [Metadata.isKept, ← perLayer_entry]
  cases entry.read <;> rfl

theorem mem_shapeKeys_snoc {levels : Nat} {entries : List (Entry levels)} {entry : Entry levels}
    {key : String} : key ∈ shapeKeys (entries ++ [entry]) ↔
      key ∈ shapeKeys entries ∨
        (Metadata.isKept entry.text entry.read = true ∧ entry.text = key) := by
  rw [shapeKeys, List.filterMap_append, List.mem_append, isKept_entry]
  apply or_congr_right
  simp only [List.mem_filterMap, List.mem_singleton, exists_eq_left, Option.ite_none_right_eq_some,
    Option.some.injEq]

/-! ## All entries -/

/-- The metadata say what the entries say. -/
structure Recorded {levels : Nat} (entries : List (Entry levels)) (metadata : Metadata) : Prop where
  architecture : metadata.architecture = architecture entries
  alignment : metadata.alignment = alignment entries
  splitCount : metadata.splitCount = splitCount entries
  ssm : metadata.ssm = entries.any fun entry => contains entry.text ".ssm."
  latentAttention : metadata.latentAttention =
    entries.any fun entry => endsWith entry.text ".attention.kv_lora_rank"
  moe : metadata.moe = exceeds ".expert_count" 1 entries
  slidingWindow : metadata.slidingWindow = exceeds ".attention.sliding_window" 0 entries
  figures : forall key, Metadata.isShapeKey key = true ->
    perLayer (metadata.get key) = figureOf key entries
  distinct : metadata.keys.Nodup
  keys : forall key, key ∈ metadata.keys ↔ key ∈ shapeKeys entries

theorem recorded_nil (levels : Nat) : Recorded ([] : List (Entry levels)) Metadata.initial where
  architecture := rfl
  alignment := rfl
  splitCount := rfl
  ssm := rfl
  latentAttention := rfl
  moe := rfl
  slidingWindow := rfl
  figures := fun _ _ => rfl
  distinct := List.nodup_nil
  keys := fun _ => Iff.rfl

theorem recorded_snoc {levels : Nat} {entries : List (Entry levels)} {metadata : Metadata}
    (recorded : Recorded entries metadata) (entry : Entry levels) :
    Recorded (entries ++ [entry]) (metadata.taken entry.text entry.read) where
  architecture := by
    rw [RocmCli.Gguf.architecture, lastOf_snoc, Metadata.taken, recorded.architecture, asText_entry]
    rfl
  alignment := by
    change (if _ then _ else _ : Option Nat).getD metadata.alignment = _
    rw [RocmCli.Gguf.alignment, lastOf_snoc, recorded.alignment, asNumber_entry, Entry.under]
    exact (Option.getD_or ..).symm
  splitCount := by
    rw [RocmCli.Gguf.splitCount, lastOf_snoc, Metadata.taken, recorded.splitCount, asNumber_entry]
    rfl
  ssm := by
    rw [List.any_append, ← recorded.ssm]
    simp [Metadata.taken, Metadata.withFlags]
  latentAttention := by
    rw [List.any_append, ← recorded.latentAttention]
    simp [Metadata.taken, Metadata.withFlags]
  moe := by
    rw [exceeds, List.any_append, ← exceeds, ← recorded.moe]
    simp [Metadata.taken, Metadata.withFlags, uint_eq, perLayer_entry]
  slidingWindow := by
    rw [exceeds, List.any_append, ← exceeds, ← recorded.slidingWindow]
    simp [Metadata.taken, Metadata.withFlags, uint_eq, perLayer_entry]
  figures := by
    intro key isShape
    rw [Metadata.get_taken, figureOf, lastOf_snoc, ← figureOf, ← recorded.figures key isShape,
      Entry.under]
    by_cases isKey : entry.text = key
    · subst isKey
      rw [if_pos rfl, isKept_entry, isShape, Bool.true_and]
      cases isFigure : entry.figure with
      | none => simp
      | some figure => simp [perLayer_entry, isFigure]
    · rw [if_neg isKey, if_neg fun both => isKey both.2]
      rfl
  distinct := by
    rw [Metadata.keys_taken]
    split
    · rw [List.nodup_append]
      refine ⟨recorded.distinct.filter _, List.nodup_singleton _, ?_⟩
      intro key isOther last isLast same
      rw [List.mem_singleton.mp isLast] at same
      exact of_decide_eq_true (List.mem_filter.mp isOther).2 same
    · exact recorded.distinct
  keys := by
    intro key
    rw [mem_shapeKeys_snoc, ← recorded.keys, Metadata.keys_taken]
    split
    next kept =>
      rw [List.mem_append, List.mem_filter, List.mem_singleton]
      by_cases isKey : entry.text = key
      · subst isKey
        simp [kept]
      · simp [isKey, Ne.symm isKey]
    next notKept => simp [notKept]

theorem Recorded.length_kept {levels : Nat} {entries : List (Entry levels)} {metadata : Metadata}
    (recorded : Recorded entries metadata) :
    metadata.kept.length = (shapeKeys entries).dedup.length := by
  have same : metadata.keys.Perm (shapeKeys entries).dedup := by
    apply (List.perm_ext_iff_of_nodup recorded.distinct (List.nodup_dedup _)).mpr
    intro key
    rw [recorded.keys, List.mem_dedup]
  rw [← same.length_eq, Metadata.keys, List.length_map]

/-- There is room for an entry as long as there are not too many keys after it. -/
theorem full_iff {metadata : Metadata} {key : String} {value : Value}
    (distinct : metadata.keys.Nodup) (few : metadata.kept.length ≤ maxKeptKeys) :
    metadata.full key value = false ↔ (metadata.taken key value).kept.length ≤ maxKeptKeys := by
  have sameLength (metadata : Metadata) : metadata.kept.length = metadata.keys.length :=
    (List.length_map _).symm
  rw [sameLength, Metadata.keys_taken, Metadata.full]
  cases Metadata.isKept key value with
  | false =>
      rw [Bool.false_and, if_neg (by decide), ← sameLength]
      exact ⟨fun _ => few, fun _ => rfl⟩
  | true =>
      rw [Bool.true_and, if_pos rfl, List.length_append, List.length_singleton]
      by_cases isOld : key ∈ metadata.keys
      · have notNew : (metadata.get key).isNone = false := by
          rw [← Bool.not_eq_true, Metadata.get_isNone]
          exact not_not.mpr isOld
        have others : (metadata.keys.filter (· ≠ key)).length = metadata.keys.length - 1 := by
          rw [← List.length_erase_of_mem isOld, distinct.erase_eq_filter]
          congr 2
          funext other
          by_cases same : other = key <;> simp [same]
        have some : 0 < metadata.keys.length := List.length_pos_of_mem isOld
        rw [notNew, others, Bool.and_false, ← sameLength]
        rw [← sameLength] at some
        exact ⟨fun _ => by omega, fun _ => rfl⟩
      · have isNew : (metadata.get key).isNone = true := (Metadata.get_isNone metadata key).mpr isOld
        have others : metadata.keys.filter (· ≠ key) = metadata.keys := by
          apply List.filter_eq_self.mpr
          intro other isOther
          exact decide_eq_true fun same => isOld (same ▸ isOther)
        rw [isNew, others, Bool.and_true, ← sameLength, decide_eq_false_iff_not]
        omega

/-- Absorb the entries one by one. -/
def absorbAll {levels : Nat} (entries : List (Entry levels)) : Except GgufError Metadata :=
  entries.foldlM (fun metadata entry => metadata.absorb entry.text entry.read) Metadata.initial

theorem absorbAll_snoc {levels : Nat} (entries : List (Entry levels)) (entry : Entry levels) :
    absorbAll (entries ++ [entry]) =
      (absorbAll entries).bind fun metadata => metadata.absorb entry.text entry.read := by
  rw [absorbAll, List.foldlM_append, ← absorbAll]
  cases absorbAll entries with
  | error error => rfl
  | ok metadata => exact bind_pure (metadata.absorb entry.text entry.read)

theorem absorbAll_recorded {levels : Nat} {entries : List (Entry levels)} {metadata : Metadata}
    (absorbed : absorbAll entries = .ok metadata) :
    Recorded entries metadata ∧ metadata.kept.length ≤ maxKeptKeys := by
  induction entries using List.reverseRecOn generalizing metadata with
  | nil =>
      cases absorbed
      exact ⟨recorded_nil levels, Nat.zero_le _⟩
  | append_singleton entries entry ih =>
      rw [absorbAll_snoc] at absorbed
      cases before : absorbAll entries with
      | error error =>
          rw [before] at absorbed
          cases absorbed
      | ok middle =>
          rw [before] at absorbed
          rcases ih before with ⟨recorded, few⟩
          rcases Metadata.absorb_ok_iff.mp absorbed with ⟨room, rfl⟩
          exact ⟨recorded_snoc recorded entry, (full_iff recorded.distinct few).mp room⟩

theorem absorbAll_ok {levels : Nat} {entries : List (Entry levels)}
    (few : (shapeKeys entries).dedup.length ≤ maxKeptKeys) :
    exists metadata, absorbAll entries = .ok metadata := by
  induction entries using List.reverseRecOn with
  | nil => exact ⟨Metadata.initial, rfl⟩
  | append_singleton entries entry ih =>
      have fewer : (shapeKeys entries).dedup.length ≤ (shapeKeys (entries ++ [entry])).dedup.length := by
        apply List.Subperm.length_le
        apply (List.nodup_dedup _).subperm
        intro key isKey
        rw [List.mem_dedup] at isKey ⊢
        exact mem_shapeKeys_snoc.mpr (Or.inl isKey)
      rcases ih (Nat.le_trans fewer few) with ⟨middle, before⟩
      rcases absorbAll_recorded before with ⟨recorded, fewBefore⟩
      have after := (recorded_snoc recorded entry).length_kept
      refine ⟨middle.taken entry.text entry.read, ?_⟩
      rw [absorbAll_snoc, before]
      apply Metadata.absorb_ok_iff.mpr
      exact ⟨(full_iff recorded.distinct fewBefore).mpr (after ▸ few), rfl⟩

end Gguf
end RocmCli
