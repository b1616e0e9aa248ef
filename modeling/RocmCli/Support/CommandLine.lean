import RocmCli.Support.Text

namespace RocmCli
namespace CommandLine

open Text (splitOnce splitOnce_toList)

/-!
# Reading a command line with options

A grammar of commands, options and positional arguments, and the reader that
gives each token its role.  Long names are exact, a value is attached or the
next token, a token that starts with a hyphen is a value only where the option
asks for it, and everything after a bare `--` is positional.
-/

/-! ## The grammar -/

/-- How many values an option takes. -/
inductive Arity where
  | flag
  | single
  | repeated
  | several
  | optional
  deriving DecidableEq, Repr

/-- Which tokens with a hyphen in front an option takes as its value. -/
inductive Hyphens where
  | never
  | numbers
  | always
  deriving DecidableEq, Repr

/-- An option under its long name, hyphens included.  A short name is another
name of a flag. -/
structure OptionSpec where
  long : String
  arity : Arity
  short : Option Char := none
  hyphens : Hyphens := .never
  accepts : String -> Bool := fun _ => true
  required : Bool := false
  conflicts : List String := []
  needs : List String := []

structure PositionalSpec where
  accepts : String -> Bool := fun _ => true
  required : Bool := true
  many : Bool := false

/-- A command with its own name first and its other names behind it. -/
structure CommandSpec where
  names : List String
  options : List OptionSpec := []
  positionals : List PositionalSpec := []
  subcommands : List CommandSpec := []
  subcommandRequired : Bool := false

namespace CommandSpec

def name (command : CommandSpec) : String := command.names.headD ""

def option (command : CommandSpec) (long : String) : Option OptionSpec :=
  command.options.find? fun option => option.long == long

/-- The flag with a short name. -/
def shortFlag (command : CommandSpec) (short : Char) : Option String :=
  (command.options.find? fun option => option.short == some short && option.arity == .flag).map
    OptionSpec.long

def subcommand (command : CommandSpec) (token : String) : Option CommandSpec :=
  command.subcommands.find? fun command => command.names.contains token

end CommandSpec

/-! ## Tokens -/

/-- A single hyphen is a value. -/
def isHyphened (token : String) : Bool := token.toList.head? == some '-' && token != "-"

def isLong (token : String) : Bool := "--".toList.isPrefixOf token.toList

/-- What may follow the hyphen of a negative number: digits, at most one dot and
at most one exponent that is not the last character. -/
def isNumber (text : List Char) : Bool :=
  let beforeExponent := text.takeWhile (· != 'e')
  let exponent := text.dropWhile (· != 'e')
  beforeExponent.all (fun character => character.isDigit || character == '.') &&
    decide (beforeExponent.count '.' ≤ 1) && beforeExponent.head? != some '.' &&
    (exponent.isEmpty || (!beforeExponent.isEmpty && 1 < exponent.length &&
      exponent.tail.all Char.isDigit))

def isNegativeNumber (token : String) : Bool :=
  match token.toList with
  | '-' :: text => isNumber text
  | _ => false

/-- Whether an option takes a token as its value. -/
def OptionSpec.admits (option : OptionSpec) (token : String) : Bool :=
  !isHyphened token ||
    match option.hyphens with
    | .never => false
    | .numbers => isNegativeNumber token
    | .always => true

/-! ## Roles -/

/-- The role of one token, or of two. -/
inductive Item where
  | flag (long : String)
  | cluster (token : String) (longs : List String)
  | attached (token long value : String)
  | separate (long value : String)
  | bare (long : String)
  | more (long value : String)
  | positional (value : String)
  deriving DecidableEq, Repr

namespace Item

def tokens : Item -> List String
  | flag long | bare long => [long]
  | cluster token _ | attached token _ _ => [token]
  | separate long value => [long, value]
  | more _ value | positional value => [value]

/-- The options that an item begins. -/
def begins : Item -> List String
  | flag long | bare long | attached _ long _ | separate long _ => [long]
  | cluster _ longs => longs
  | more _ _ | positional _ => []

def valueOf : Item -> Option (String × String)
  | attached _ long value | separate long value | more long value => some (long, value)
  | flag _ | cluster _ _ | bare _ | positional _ => none

def positional? : Item -> Option String
  | positional value => some value
  | _ => none

end Item

/-- A command in the line, its items, and what follows a bare `--`. -/
structure Level where
  command : CommandSpec
  items : List Item
  trailing : Option (List String)

namespace Level

def isSet (level : Level) (long : String) : Bool := (level.items.flatMap Item.begins).contains long

def values (level : Level) (long : String) : List String :=
  level.items.filterMap fun item => item.valueOf.bind fun pair =>
    if pair.1 = long then some pair.2 else none

def value (level : Level) (long : String) : Option String := (level.values long).head?

def positionals (level : Level) : List String :=
  level.items.filterMap Item.positional? ++ level.trailing.getD []

end Level

/-- Put an item in front of the level that the rest of the line continues. -/
def push (item : Item) : List Level -> List Level
  | [] => []
  | level :: deeper => { level with items := item :: level.items } :: deeper

/-- The levels of a line.  `collecting` is the option that takes more values. -/
def read : CommandSpec -> Option OptionSpec -> List String -> Option (List Level)
  | command, _, [] => some [⟨command, [], none⟩]
  | command, collecting, token :: rest =>
      if token = "--" then some [⟨command, [], some rest⟩]
      else if isLong token then
        match splitOnce token with
        | some (long, value) =>
            match command.option long with
            | none => none
            | some option =>
                if option.arity = .flag then none
                else (read command none rest).map (push (.attached token long value))
        | none =>
            match command.option token with
            | none => none
            | some option =>
                if option.arity = .flag then (read command none rest).map (push (.flag token))
                else
                  match rest with
                  | [] =>
                      if option.arity = .optional then
                        some (push (.bare token) [⟨command, [], none⟩])
                      else none
                  | value :: others =>
                      if option.admits value then
                        (read command (if option.arity = .several then some option else none)
                          others).map (push (.separate token value))
                      else if option.arity = .optional then
                        (read command none (value :: others)).map (push (.bare token))
                      else none
      else if isHyphened token then
        match (token.toList.drop 1).mapM command.shortFlag with
        | none => none
        | some longs => (read command none rest).map (push (.cluster token longs))
      else
        match collecting with
        | some option => (read command collecting rest).map (push (.more option.long token))
        | none =>
            match command.subcommand token with
            | some subcommand =>
                (read subcommand none rest).map fun levels => ⟨command, [], none⟩ :: levels
            | none => (read command none rest).map (push (.positional token))

/-! ## What a complete level must satisfy -/

/-- Whether the values fill the positional arguments. -/
def fits : List PositionalSpec -> List String -> Bool
  | [], values => values.isEmpty
  | spec :: specs, values =>
      if spec.many then values.all spec.accepts && (!spec.required || !values.isEmpty)
      else
        match values with
        | [] => !spec.required && fits specs []
        | value :: others => spec.accepts value && fits specs others

namespace Level

/-- An option that is not repeated stands once. -/
def onceOk (level : Level) (option : OptionSpec) : Bool :=
  option.arity == .repeated || option.arity == .several ||
    decide ((level.items.flatMap Item.begins).count option.long ≤ 1)

def optionOk (level : Level) (option : OptionSpec) : Bool :=
  level.onceOk option && (level.values option.long).all option.accepts &&
    (!option.required || level.isSet option.long) &&
    (!level.isSet option.long ||
      (option.conflicts.all (fun other => !level.isSet other) && option.needs.all level.isSet))

def ok (level : Level) : Bool :=
  level.command.options.all level.optionOk && fits level.command.positionals level.positionals

end Level

/-- The levels of a line that the grammar accepts. -/
def parse (command : CommandSpec) (tokens : List String) : Option (List Level) :=
  match read command none tokens with
  | none => none
  | some levels =>
      if levels.all Level.ok &&
          levels.getLast?.all (fun level => !level.command.subcommandRequired) then some levels
      else none

/-! ## Lines as derivations -/

/-- The items that a command can give a token. -/
inductive Legal (command : CommandSpec) : Item -> Prop
  | flag {long : String} {option : OptionSpec} (found : command.option long = some option)
      (isFlag : option.arity = .flag) : Legal command (.flag long)
  | attached {token long value : String} {option : OptionSpec}
      (split : splitOnce token = some (long, value)) (found : command.option long = some option)
      (takes : option.arity ≠ .flag) : Legal command (.attached token long value)
  | separate {long value : String} {option : OptionSpec}
      (found : command.option long = some option) (takes : option.arity ≠ .flag)
      (admits : option.admits value = true) : Legal command (.separate long value)
  | bare {long : String} {option : OptionSpec} (found : command.option long = some option)
      (optional : option.arity = .optional) : Legal command (.bare long)
  | more {option : OptionSpec} {value : String} (known : option ∈ command.options)
      (several : option.arity = .several) (plain : isHyphened value = false) :
      Legal command (.more option.long value)
  | cluster {token : String} {first : Char} {others : List Char} {longs : List String}
      (shape : token.toList = '-' :: first :: others)
      (short : (first :: others).mapM command.shortFlag = some longs) :
      Legal command (.cluster token longs)
  | positional {value : String} (plain : isHyphened value = false) :
      Legal command (.positional value)

/-- How a line is read, item by item. -/
inductive Reads : CommandSpec -> List String -> List Level -> Prop
  | done (command : CommandSpec) : Reads command [] [⟨command, [], none⟩]
  | escaped (command : CommandSpec) (rest : List String) :
      Reads command ("--" :: rest) [⟨command, [], some rest⟩]
  | item {command : CommandSpec} {item : Item} {rest : List String} {levels : List Level}
      (legal : Legal command item) (reads : Reads command rest levels) :
      Reads command (item.tokens ++ rest) (push item levels)
  | subcommand {command subcommand : CommandSpec} {token : String} {rest : List String}
      {levels : List Level} (found : command.subcommand token = some subcommand)
      (reads : Reads subcommand rest levels) :
      Reads command (token :: rest) (⟨command, [], none⟩ :: levels)

variable {long : String} {option : OptionSpec}

theorem option_mem {command : CommandSpec} (found : command.option long = some option) :
    option ∈ command.options ∧ option.long = long := by
  have named : (option.long == long) = true :=
    List.find?_some (p := fun option : OptionSpec => option.long == long) found
  exact ⟨List.mem_of_find?_eq_some found, beq_iff_eq.mp named⟩

variable {token : String}

theorem subcommand_mem {command subcommand : CommandSpec}
    (found : command.subcommand token = some subcommand) :
    subcommand ∈ command.subcommands ∧ token ∈ subcommand.names := by
  have named : subcommand.names.contains token = true :=
    List.find?_some (p := fun command : CommandSpec => command.names.contains token) found
  exact ⟨List.mem_of_find?_eq_some found, List.contains_iff_mem.mp named⟩

theorem hyphened_shape (hyphened : isHyphened token = true) :
    exists first others, token.toList = '-' :: first :: others := by
  unfold isHyphened at hyphened
  rw [Bool.and_eq_true, beq_iff_eq, bne_iff_ne] at hyphened
  cases characters : token.toList with
  | nil =>
      rw [characters] at hyphened
      exact nomatch hyphened.1
  | cons hyphen text =>
      rw [characters] at hyphened
      have isHyphen := Option.some.inj hyphened.1
      cases text with
      | nil =>
          have single : token = "-" := by
            rw [← String.toList_inj, characters, isHyphen]
            rfl
          exact absurd single hyphened.2
      | cons first others => exact ⟨first, others, by rw [isHyphen]⟩

/-- An option collects values only when it takes several. -/
def Collects (command : CommandSpec) (collecting : Option OptionSpec) : Prop :=
  forall option, collecting = some option -> option ∈ command.options ∧ option.arity = .several

theorem collects_none (command : CommandSpec) : Collects command none :=
  nofun

variable {levels : List Level}

/-- The item in front of a derivation. -/
theorem reads_push {command : CommandSpec} {item : Item} {rest : List String}
    {found : Option (List Level)} (legal : Legal command item)
    (reads : forall {inner}, found = some inner -> Reads command rest inner)
    (readable : found.map (push item) = some levels) :
    Reads command (item.tokens ++ rest) levels := by
  obtain ⟨inner, isInner, rfl⟩ := Option.map_eq_some_iff.mp readable
  exact .item legal (reads isInner)

variable {tokens : List String}

/-- A line that is read has a derivation. -/
theorem reads_of_read {command : CommandSpec} {collecting : Option OptionSpec}
    (collects : Collects command collecting)
    (readable : read command collecting tokens = some levels) : Reads command tokens levels := by
  fun_induction read command collecting tokens generalizing levels with
  | case1 command =>
      cases readable
      exact .done command
  | case2 command collecting rest =>
      cases readable
      exact .escaped command rest
  | case5 command collecting token rest _ _ long value split option found takes
      ih =>
      exact reads_push (.attached split found takes)
        (fun isInner => ih (collects_none command) isInner) readable
  | case7 command collecting token rest _ _ _ option found isFlag ih =>
      exact reads_push (.flag found isFlag)
        (fun isInner => ih (collects_none command) isInner) readable
  | case8 command collecting token _ _ _ option found _ optional =>
      cases readable
      exact .item (.bare found optional) (.done command)
  | case10 command collecting token _ _ _ option found takes value others admits
      ih =>
      have next : Collects command (if option.arity = .several then some option else none) := by
        intro other chosen
        by_cases several : option.arity = .several
        · rw [if_pos several] at chosen
          cases chosen
          exact ⟨(option_mem found).1, several⟩
        · rw [if_neg several] at chosen
          exact nomatch chosen
      exact reads_push (.separate found takes admits)
        (fun isInner => ih next isInner) readable
  | case11 command collecting token _ _ _ option found _ value others _ optional
      ih =>
      exact reads_push (.bare found optional)
        (fun isInner => ih (collects_none command) isInner) readable
  | case14 command collecting token rest _ _ hyphened longs short ih =>
      obtain ⟨first, others, shape⟩ := hyphened_shape hyphened
      rw [shape] at short
      exact reads_push (.cluster shape short)
        (fun isInner => ih (collects_none command) isInner) readable
  | case15 command token rest _ _ plain option ih =>
      obtain ⟨known, several⟩ := collects option rfl
      exact reads_push (.more known several (Bool.eq_false_iff.mpr plain))
        (fun isInner => ih collects isInner) readable
  | case16 command token rest _ _ _ subcommand found ih =>
      obtain ⟨inner, isInner, rfl⟩ := Option.map_eq_some_iff.mp readable
      exact .subcommand found (ih (collects_none subcommand) isInner)
  | case17 command token rest _ _ plain _ ih =>
      exact reads_push (.positional (Bool.eq_false_iff.mpr plain))
        (fun isInner => ih (collects_none command) isInner) readable
  | _ => exact nomatch readable

/-- A line that is accepted has a derivation, and each of its levels is complete. -/
theorem reads_of_parse {command : CommandSpec} (parsed : parse command tokens = some levels) :
    Reads command tokens levels ∧ (forall level, level ∈ levels -> level.ok = true) ∧
      forall level, levels.getLast? = some level -> level.command.subcommandRequired = false := by
  unfold parse at parsed
  cases readable : read command none tokens with
  | none =>
      rw [readable] at parsed
      exact nomatch parsed
  | some found =>
      rw [readable] at parsed
      dsimp only at parsed
      by_cases complete : (found.all Level.ok &&
          found.getLast?.all fun level => !level.command.subcommandRequired) = true
      · rw [if_pos complete] at parsed
        cases parsed
        rw [Bool.and_eq_true, List.all_eq_true] at complete
        refine ⟨reads_of_read (collects_none command) readable, complete.1, ?_⟩
        intro level isLast
        rw [isLast, Option.all_some, Bool.not_eq_true'] at complete
        exact complete.2
      · rw [if_neg complete] at parsed
        exact nomatch parsed

/-! ## Groups and leaves -/

/-- The tokens from the bare `--` on. -/
def trailingTokens : Option (List String) -> List String
  | none => []
  | some rest => "--" :: rest

theorem Reads.head {command : CommandSpec} (reads : Reads command tokens levels) :
    exists items trailing deeper, levels = ⟨command, items, trailing⟩ :: deeper := by
  induction reads with
  | done command => exact ⟨[], none, [], rfl⟩
  | escaped command rest => exact ⟨[], some rest, [], rfl⟩
  | @item command item rest levels legal reads ih =>
      obtain ⟨items, trailing, deeper, rfl⟩ := ih
      exact ⟨item :: items, trailing, deeper, rfl⟩
  | @subcommand command subcommand token rest levels found reads _ => exact ⟨[], none, levels, rfl⟩

/-- A command without subcommands reads the whole line itself. -/
theorem Reads.leaf {command : CommandSpec} (noSubcommands : command.subcommands = [])
    (reads : Reads command tokens levels) :
    exists items trailing, levels = [⟨command, items, trailing⟩] ∧
      tokens = items.flatMap Item.tokens ++ trailingTokens trailing ∧
      forall item, item ∈ items -> Legal command item := by
  induction reads with
  | done command => exact ⟨[], none, rfl, rfl, nofun⟩
  | escaped command rest => exact ⟨[], some rest, rfl, rfl, nofun⟩
  | @item command item rest levels legal reads ih =>
      obtain ⟨items, trailing, rfl, tokens, legals⟩ := ih noSubcommands
      refine ⟨item :: items, trailing, rfl, ?_, ?_⟩
      · rw [tokens, List.flatMap_cons, List.append_assoc]
      · intro other member
        rcases List.mem_cons.mp member with rfl | later
        · exact legal
        · exact legals other later
  | @subcommand command subcommand token rest levels found reads _ =>
      have listed := (subcommand_mem found).1
      rw [noSubcommands] at listed
      exact nomatch listed

/-- Where a line stops at a command that only holds others. -/
inductive GroupReads (command : CommandSpec) : List String -> List Level -> Prop
  | done : GroupReads command [] [⟨command, [], none⟩]
  | escaped : GroupReads command ["--"] [⟨command, [], some []⟩]
  | subcommand {subcommand : CommandSpec} {token : String} {rest : List String}
      {levels : List Level} (found : command.subcommand token = some subcommand)
      (reads : Reads subcommand rest levels) :
      GroupReads command (token :: rest) (⟨command, [], none⟩ :: levels)

theorem Reads.group {command : CommandSpec} (noOptions : command.options = [])
    (noPositionals : command.positionals = []) (reads : Reads command tokens levels)
    (complete : forall level, level ∈ levels -> level.ok = true) :
    GroupReads command tokens levels := by
  have noOption : forall long option, command.option long ≠ some option := by
    intro long option found
    have known := (option_mem found).1
    rw [noOptions] at known
    exact nomatch known
  have empty : forall items trailing deeper, levels = ⟨command, items, trailing⟩ :: deeper ->
      items.filterMap Item.positional? ++ trailing.getD [] = [] := by
    intro items trailing deeper shape
    have headOk := complete ⟨command, items, trailing⟩ (by rw [shape]; exact List.mem_cons_self)
    unfold Level.ok at headOk
    rw [Bool.and_eq_true, noPositionals, fits, List.isEmpty_iff] at headOk
    exact headOk.2
  cases reads with
  | done => exact .done
  | escaped command rest =>
      have none' : rest = [] := empty [] (some rest) [] rfl
      rw [none']
      exact .escaped
  | @subcommand command subcommand token rest levels found reads =>
      exact .subcommand found reads
  | @item command item rest levels legal reads =>
      obtain ⟨items, trailing, deeper, rfl⟩ := reads.head
      have noneLeft := empty (item :: items) trailing deeper rfl
      cases legal with
      | flag found _ => exact absurd found (noOption _ _)
      | attached _ found _ => exact absurd found (noOption _ _)
      | separate found _ _ => exact absurd found (noOption _ _)
      | bare found _ => exact absurd found (noOption _ _)
      | more known _ _ =>
          rw [noOptions] at known
          exact nomatch known
      | @cluster token first others longs _ short =>
          have noShort : command.shortFlag first = none := by
            unfold CommandSpec.shortFlag
            rw [noOptions]
            rfl
          rw [List.mapM_cons, noShort] at short
          exact nomatch short
      | positional _ =>
          rw [List.filterMap_cons] at noneLeft
          exact nomatch noneLeft

/-! ## What is set -/

section Leaf

variable {command : CommandSpec} {items : List Item}

section

variable (noShorts : forall option, option ∈ command.options -> option.short = none)
include noShorts

/-- Without short names no token stands for several flags. -/
theorem not_legal_cluster {longs : List String} : ¬ Legal command (.cluster token longs) := by
  intro legal
  cases legal with
  | @cluster token first others longs _ short =>
      have noShort : command.shortFlag first = none := by
        unfold CommandSpec.shortFlag
        have noneFound : (command.options.find? fun option =>
            option.short == some first && option.arity == .flag) = none := by
          apply List.find?_eq_none.mpr
          intro option member
          rw [noShorts option member]
          simp
        rw [noneFound]
        rfl
      rw [List.mapM_cons, noShort] at short
      exact nomatch short

/-- A flag that is set stands in the line under its own name. -/
theorem flag_of_begins {item : Item} (legal : Legal command item)
    (found : command.option long = some option) (isFlag : option.arity = .flag)
    (begins : long ∈ item.begins) : item = .flag long := by
  have contradicts : forall {other : OptionSpec}, command.option long = some other ->
      other.arity = .flag := by
    intro other alsoFound
    rw [found] at alsoFound
    cases alsoFound
    exact isFlag
  cases legal with
  | flag _ _ => rw [List.mem_singleton.mp begins]
  | attached _ other takes =>
      rw [← List.mem_singleton.mp begins] at other
      exact absurd (contradicts other) takes
  | separate other takes _ =>
      rw [← List.mem_singleton.mp begins] at other
      exact absurd (contradicts other) takes
  | bare other optional =>
      rw [← List.mem_singleton.mp begins] at other
      rw [contradicts other] at optional
      exact nomatch optional
  | more _ _ _ => exact nomatch begins
  | cluster shape short => exact absurd (Legal.cluster shape short) (not_legal_cluster noShorts)
  | positional _ => exact nomatch begins

theorem isSet_iff_flag (legals : forall item, item ∈ items -> Legal command item)
    (found : command.option long = some option) (isFlag : option.arity = .flag)
    (trailing : Option (List String)) :
    Level.isSet ⟨command, items, trailing⟩ long = true ↔ Item.flag long ∈ items := by
  unfold Level.isSet
  rw [List.contains_iff_mem, List.mem_flatMap]
  constructor
  · rintro ⟨item, member, begins⟩
    rwa [← flag_of_begins noShorts (legals item member) found isFlag begins]
  · exact fun member => ⟨.flag long, member, List.mem_singleton.mpr rfl⟩

end

/-- A command with flags only reads flags and positional arguments. -/
theorem flag_or_positional (onlyFlags : forall option, option ∈ command.options ->
      option.arity = .flag ∧ option.short = none) {item : Item} (legal : Legal command item) :
    (exists option, option ∈ command.options ∧ item = .flag option.long) ∨
      exists value, item = .positional value ∧ isHyphened value = false := by
  cases legal with
  | flag found _ =>
      obtain ⟨known, named⟩ := option_mem found
      exact Or.inl ⟨_, known, by rw [named]⟩
  | attached _ found takes => exact absurd (onlyFlags _ (option_mem found).1).1 takes
  | separate found takes _ => exact absurd (onlyFlags _ (option_mem found).1).1 takes
  | bare found optional =>
      rw [(onlyFlags _ (option_mem found).1).1] at optional
      exact nomatch optional
  | more known several _ =>
      rw [(onlyFlags _ known).1] at several
      exact nomatch several
  | cluster shape short =>
      exact absurd (Legal.cluster shape short)
        (not_legal_cluster fun option member => (onlyFlags option member).2)
  | positional plain => exact Or.inr ⟨_, rfl, plain⟩

end Leaf

end CommandLine
end RocmCli
