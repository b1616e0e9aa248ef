import RocmCli.ToolPolicy.Cli

namespace RocmCli
namespace ToolPolicy

open CommandLine
open Text (splitOnce splitOnce_toList stripPrefix stripPrefix_append)

/-!
# Scanning sees what the parser binds

The policy finds the value of an option by scanning; the parser binds it by
position.  The two find the same value in front of a bare `--`, as long as no
value looks like an option.
-/

/-! ## Texts that look like options -/

variable {token : String}

theorem isLong_iff : isLong token = true ↔ "--".toList <+: token.toList :=
  List.isPrefixOf_iff_prefix

theorem isLong_of_start {name : String} {back : List Char} (long : isLong name = true)
    (whole : token.toList = name.toList ++ back) : isLong token = true := by
  rw [isLong_iff] at long ⊢
  rw [whole]
  exact long.trans (List.prefix_append _ _)

theorem isHyphened_of_isLong (long : isLong token = true) :
    isHyphened token = true := by
  obtain ⟨back, whole⟩ := isLong_iff.mp long
  unfold isHyphened
  rw [Bool.and_eq_true, beq_iff_eq, bne_iff_ne, ← whole]
  refine ⟨rfl, ?_⟩
  rintro rfl
  exact absurd (congrArg List.length whole) (by simp)

theorem isLong_of_plain (plain : isHyphened token = false) :
    isLong token = false := by
  apply Bool.eq_false_iff.mpr
  intro long
  rw [isHyphened_of_isLong long] at plain
  exact nomatch plain

variable {value : String}

theorem no_sign_of_splitOnce (split : splitOnce value = none) :
    '=' ∉ value.toList := by
  intro member
  unfold splitOnce at split
  cases dropped : value.toList.dropWhile (· != '=') with
  | nil =>
      have every := List.dropWhile_eq_nil_iff.mp dropped '=' member
      exact absurd every (by decide)
  | cons sign back =>
      rw [dropped] at split
      exact nomatch split

/-- The first sign of a text is where its start without signs ends. -/
theorem splitOnce_of_front {front : String} {back : List Char} (free : '=' ∉ front.toList)
    (whole : value.toList = front.toList ++ '=' :: back) :
    splitOnce value = some (front, String.ofList back) := by
  have kept : forall character, character ∈ front.toList -> (character != '=') = true := by
    intro character member
    have different : character ≠ '=' := fun same => free (same ▸ member)
    simpa using different
  unfold splitOnce
  rw [whole, List.dropWhile_append_of_pos kept, List.takeWhile_append_of_pos kept,
    List.dropWhile_cons_of_neg (by decide), List.takeWhile_cons_of_neg (by decide), List.append_nil,
    String.ofList_toList]

theorem spellsFlag_shape {name : String} (spells : spellsFlag name token = true) :
    token = name ∨ exists back, token.toList = name.toList ++ '=' :: back := by
  unfold spellsFlag at spells
  rw [Bool.or_eq_true, beq_iff_eq] at spells
  refine spells.imp_right ?_
  intro attached
  unfold stripPrefix at attached
  by_cases starts : name.toList <+: token.toList
  · obtain ⟨rest, whole⟩ := starts
    rw [if_pos ⟨rest, whole⟩, ← whole, ← String.length_toList, List.drop_left, Option.any_some,
      String.toList_ofList, beq_iff_eq] at attached
    cases rest with
    | nil => exact nomatch attached
    | cons sign back =>
        rw [Option.some.inj attached] at whole
        exact ⟨back, whole.symm⟩
  · rw [if_neg starts] at attached
    exact nomatch attached

/-- A token that does not look like an option is passed over. -/
theorem plain_token {name : String} (long : isLong name = true) (plain : isLong token = false) :
    token ≠ name ∧ attachedValue name token = none ∧ spellsFlag name token = false := by
  refine ⟨?_, ?_, ?_⟩
  · rintro rfl
    rw [long] at plain
    exact nomatch plain
  · cases attached : attachedValue name token with
    | none => rfl
    | some value =>
        have whole := splitOnce_toList (attachedValue_eq_some.mp attached)
        rw [isLong_of_start long whole] at plain
        exact nomatch plain
  · apply Bool.eq_false_iff.mpr
    intro spells
    rcases spellsFlag_shape spells with rfl | ⟨back, whole⟩
    · rw [long] at plain
      exact nomatch plain
    · rw [isLong_of_start long whole] at plain
      exact nomatch plain

/-! ## Commands without short names and lists -/

/-- Each option has a long name without an equals sign and takes at most one
value. -/
structure Simple (command : CommandSpec) : Prop where
  noShorts : forall option, option ∈ command.options -> option.short = none
  arity : forall option, option ∈ command.options ->
    option.arity = .flag ∨ option.arity = .single ∨ option.arity = .repeated
  named : forall option, option ∈ command.options ->
    isLong option.long = true ∧ splitOnce option.long = none

theorem Simple.of_all {command : CommandSpec}
    (all : (command.options.all fun option => option.short == none &&
      (option.arity == .flag || option.arity == .single || option.arity == .repeated) &&
      isLong option.long && (splitOnce option.long).isNone) = true) : Simple command := by
  have each : forall option, option ∈ command.options -> option.short = none ∧
      (option.arity = .flag ∨ option.arity = .single ∨ option.arity = .repeated) ∧
      isLong option.long = true ∧ splitOnce option.long = none := by
    intro option member
    have holds := List.all_eq_true.mp all option member
    simp only [Bool.and_eq_true, Bool.or_eq_true, beq_iff_eq, Option.isNone_iff_eq_none] at holds
    exact ⟨holds.1.1.1, or_assoc.mp holds.1.1.2, holds.1.2, holds.2⟩
  exact ⟨fun option member => (each option member).1, fun option member => (each option member).2.1,
    fun option member => (each option member).2.2⟩

/-- What `Simple` depends on. -/
def shapeOf (option : OptionSpec) : String × Option Char × Arity :=
  (option.long, option.short, option.arity)

theorem Simple.of_same_shapes {command other : CommandSpec} (simple : Simple other)
    (same : command.options.map shapeOf = other.options.map shapeOf) : Simple command := by
  have shared : forall option, option ∈ command.options ->
      exists like, like ∈ other.options ∧ shapeOf like = shapeOf option := by
    intro option member
    have listed : shapeOf option ∈ command.options.map shapeOf := List.mem_map_of_mem member
    rw [same] at listed
    exact List.mem_map.mp listed
  constructor
  · intro option member
    obtain ⟨like, known, shape⟩ := shared option member
    have shorts : like.short = option.short := congrArg (fun shape => shape.2.1) shape
    rw [← shorts, simple.noShorts like known]
  · intro option member
    obtain ⟨like, known, shape⟩ := shared option member
    have arities : like.arity = option.arity := congrArg (fun shape => shape.2.2) shape
    rw [← arities]
    exact simple.arity like known
  · intro option member
    obtain ⟨like, known, shape⟩ := shared option member
    have longs : like.long = option.long := congrArg Prod.fst shape
    rw [← longs]
    exact simple.named like known

/-- The items of a line in which no separate value looks like an option. -/
structure Bound (command : CommandSpec) (items : List Item) : Prop where
  legal : forall item, item ∈ items -> Legal command item
  values : forall long value, Item.separate long value ∈ items -> isLong value = false

theorem Bound.tail {command : CommandSpec} {item : Item} {items : List Item}
    (bound : Bound command (item :: items)) : Bound command items :=
  ⟨fun other member => bound.legal other (List.mem_cons_of_mem _ member),
    fun long value member => bound.values long value (List.mem_cons_of_mem _ member)⟩

/-- The kinds of items in such a line. -/
inductive Kind (command : CommandSpec) : Item -> Prop
  | flag {long : String} {option : OptionSpec} (found : command.option long = some option)
      (isFlag : option.arity = .flag) : Kind command (.flag long)
  | attached {token long value : String} {option : OptionSpec}
      (split : splitOnce token = some (long, value)) (found : command.option long = some option)
      (takes : option.arity ≠ .flag) : Kind command (.attached token long value)
  | separate {long value : String} {option : OptionSpec}
      (found : command.option long = some option) (takes : option.arity ≠ .flag)
      (plain : isLong value = false) : Kind command (.separate long value)
  | positional {value : String} (plain : isLong value = false) : Kind command (.positional value)

theorem Bound.kind {command : CommandSpec} {items : List Item} (simple : Simple command)
    (bound : Bound command items) {item : Item} (member : item ∈ items) : Kind command item := by
  cases bound.legal item member with
  | flag found isFlag => exact .flag found isFlag
  | attached split found takes => exact .attached split found takes
  | separate found takes _ => exact .separate found takes (bound.values _ _ member)
  | bare found optional =>
      have known := simple.arity _ (option_mem found).1
      rw [optional] at known
      exact absurd known (by decide)
  | more known several _ =>
      have known := simple.arity _ known
      rw [several] at known
      exact absurd known (by decide)
  | cluster shape short => exact absurd (Legal.cluster shape short) (not_legal_cluster simple.noShorts)
  | positional plain => exact .positional (isLong_of_plain plain)

section Scans

variable {command : CommandSpec} {items : List Item} {name : String} {option : OptionSpec}

/-- The first value an option is given in some items. -/
def firstValue (items : List Item) (name : String) : Option String :=
  Level.value ⟨⟨[], [], [], [], false⟩, items, none⟩ name

theorem firstValue_cons (item : Item) (items : List Item) (name : String) :
    firstValue (item :: items) name =
      match item.valueOf with
      | some (long, value) => if long = name then some value else firstValue items name
      | none => firstValue items name := by
  unfold firstValue Level.value Level.values
  cases valued : item.valueOf with
  | none => simp [valued]
  | some pair =>
      obtain ⟨long, value⟩ := pair
      by_cases same : long = name
      · simp [valued, same]
      · simp [valued, same]

/-- Scanning finds the value that is bound, or goes on behind the items. -/
theorem chatCliArgValue_items (simple : Simple command) (bound : Bound command items)
    (found : command.option name = some option) (takes : option.arity ≠ .flag)
    (behind : List String) :
    chatCliArgValue name (items.flatMap Item.tokens ++ behind) =
      (firstValue items name).or (chatCliArgValue name behind) := by
  obtain ⟨known, sameName⟩ := option_mem found
  obtain ⟨isLongName, noSign⟩ := simple.named option known
  rw [sameName] at isLongName noSign
  have notAttached : forall long other, command.option long = some other ->
      attachedValue name long = none := by
    intro long other foundOther
    obtain ⟨knownOther, sameOther⟩ := option_mem foundOther
    have free := (simple.named other knownOther).2
    rw [sameOther] at free
    unfold attachedValue
    rw [free]
  induction items with
  | nil => rfl
  | cons item items ih =>
      have later := ih bound.tail
      rw [List.flatMap_cons, List.append_assoc, firstValue_cons]
      cases bound.kind simple List.mem_cons_self with
      | @flag long other foundOther isFlag =>
          have different : long ≠ name := by
            rintro rfl
            rw [found] at foundOther
            cases foundOther
            exact takes isFlag
          show chatCliArgValue name (long :: (items.flatMap Item.tokens ++ behind)) = _
          rw [chatCliArgValue, notAttached long other foundOther]
          dsimp only
          rw [if_neg different, later]
          rfl
      | @attached token long value other split foundOther _ =>
          show chatCliArgValue name (token :: (items.flatMap Item.tokens ++ behind)) = _
          by_cases same : long = name
          · rw [chatCliArgValue, attachedValue_eq_some.mpr (same ▸ split)]
            simp [Item.valueOf, same]
          · have unnamed : attachedValue name token = none := by
              unfold attachedValue
              rw [split]
              exact if_neg same
            have different : token ≠ name := by
              rintro rfl
              rw [noSign] at split
              exact nomatch split
            rw [chatCliArgValue, unnamed]
            dsimp only [Item.valueOf]
            rw [if_neg different, if_neg same, later]
      | @separate long value other foundOther _ plain =>
          show chatCliArgValue name (long :: value :: (items.flatMap Item.tokens ++ behind)) = _
          rw [chatCliArgValue, notAttached long other foundOther]
          dsimp only [Item.valueOf]
          by_cases same : long = name
          · rw [if_pos same, if_pos same]
            rfl
          · obtain ⟨different, unnamed, _⟩ := plain_token isLongName plain
            rw [if_neg same, if_neg same, chatCliArgValue, unnamed]
            dsimp only
            rw [if_neg different, later]
      | @positional value plain =>
          obtain ⟨different, unnamed, _⟩ := plain_token isLongName plain
          show chatCliArgValue name (value :: (items.flatMap Item.tokens ++ behind)) = _
          rw [chatCliArgValue, unnamed]
          dsimp only [Item.valueOf]
          rw [if_neg different, later]

/-- What spells a flag among the items is the flag. -/
theorem flag_of_spells (simple : Simple command) (bound : Bound command items)
    (found : command.option name = some option) (isFlag : option.arity = .flag)
    (member : token ∈ items.flatMap Item.tokens) (spells : spellsFlag name token = true) :
    Item.flag name ∈ items := by
  obtain ⟨known, sameName⟩ := option_mem found
  obtain ⟨isLongName, noSign⟩ := simple.named option known
  rw [sameName] at isLongName noSign
  have isName : forall long other, command.option long = some other ->
      spellsFlag name long = true -> long = name := by
    intro long other foundOther spellsLong
    obtain ⟨knownOther, sameOther⟩ := option_mem foundOther
    have free := no_sign_of_splitOnce (simple.named other knownOther).2
    rw [sameOther] at free
    rcases spellsFlag_shape spellsLong with same | ⟨back, whole⟩
    · exact same
    · rw [whole] at free
      exact absurd (List.mem_append_right _ List.mem_cons_self) free
  have notTaken : forall other, command.option name = some other -> other.arity = .flag := by
    intro other foundOther
    rw [found] at foundOther
    cases foundOther
    exact isFlag
  obtain ⟨item, isItem, isToken⟩ := List.mem_flatMap.mp member
  cases bound.kind simple isItem with
  | @flag long other foundOther _ =>
      rw [List.mem_singleton.mp isToken] at spells
      rwa [← isName long other foundOther spells]
  | @attached written long value other split foundOther takes =>
      rw [List.mem_singleton.mp isToken] at spells
      rcases spellsFlag_shape spells with same | ⟨back, whole⟩
      · rw [same, noSign] at split
        exact nomatch split
      · rw [splitOnce_of_front (no_sign_of_splitOnce noSign) whole] at split
        rw [← (Prod.mk.inj (Option.some.inj split)).1] at foundOther
        exact absurd (notTaken other foundOther) takes
  | @separate long value other foundOther takes plain =>
      rcases List.mem_cons.mp isToken with rfl | isValue
      · rw [isName _ other foundOther spells] at foundOther
        exact absurd (notTaken other foundOther) takes
      · rw [List.mem_singleton.mp isValue, (plain_token isLongName plain).2.2] at spells
        exact nomatch spells
  | @positional value plain =>
      rw [List.mem_singleton.mp isToken, (plain_token isLongName plain).2.2] at spells
      exact nomatch spells

end Scans

/-! ## A device request anywhere -/

theorem serveArgsRequestCpuDevice_suffix {front back : List String}
    (free : serveArgsRequestCpuDevice (front ++ back) = false) :
    serveArgsRequestCpuDevice back = false := by
  induction front with
  | nil => exact free
  | cons arg front ih =>
      rw [List.cons_append, serveArgsRequestCpuDevice, Bool.or_eq_false_iff] at free
      exact ih free.2

/-- A device that is bound was seen by the scan. -/
theorem device_not_cpu {command : CommandSpec} {items : List Item} (simple : Simple command)
    (bound : Bound command items) {behind : List String}
    (free : serveArgsRequestCpuDevice (items.flatMap Item.tokens ++ behind) = false)
    (isValue : firstValue items "--device" = some value) :
    devicePolicyIsCpuMode value = false := by
  induction items with
  | nil => exact nomatch isValue
  | cons item items ih =>
      rw [List.flatMap_cons, List.append_assoc] at free
      have later := serveArgsRequestCpuDevice_suffix free
      rw [firstValue_cons] at isValue
      cases bound.kind simple List.mem_cons_self with
      | flag _ _ => exact ih bound.tail later isValue
      | @attached token long found _ split _ _ =>
          dsimp only [Item.valueOf] at isValue
          by_cases same : long = "--device"
          · rw [if_pos same] at isValue
            cases isValue
            have whole : token.toList = "--device=".toList ++ value.toList := by
              have sign : "--device=".toList = "--device".toList ++ ['='] := by decide
              rw [splitOnce_toList split, same, sign, List.append_assoc, List.singleton_append]
            simp only [Item.tokens, List.cons_append, List.nil_append] at free
            rw [serveArgsRequestCpuDevice, Bool.or_eq_false_iff, Bool.or_eq_false_iff,
              stripPrefix_append _ _ whole, Option.any_some, String.ofList_toList] at free
            exact free.1.1
          · rw [if_neg same] at isValue
            exact ih bound.tail later isValue
      | @separate long found _ _ _ _ =>
          dsimp only [Item.valueOf] at isValue
          by_cases same : long = "--device"
          · rw [if_pos same] at isValue
            cases isValue
            simp only [Item.tokens, List.cons_append, List.nil_append] at free
            rw [serveArgsRequestCpuDevice, Bool.or_eq_false_iff, Bool.or_eq_false_iff, same,
              beq_self_eq_true, Bool.true_and, List.head?_cons, Option.any_some] at free
            exact free.1.2
          · rw [if_neg same] at isValue
            exact ih bound.tail later isValue
      | positional _ => exact ih bound.tail later isValue

end ToolPolicy
end RocmCli
