import RocmCli.Support.Text

namespace RocmCli
namespace FlagList

open Text (splitOnce)

/-!
# Flat lists of options

An option is a token that starts with a hyphen and is no negative number.  Its
value is the next token, or stands behind an equals sign where the grammar has that
form; an option is no value.  The last occurrence of an option decides.
-/

inductive Form where
  | bare
  | separate (value : String)
  | inline (value : String)
deriving DecidableEq, Repr

structure Item where
  name : String
  form : Form
deriving DecidableEq, Repr

def Item.value (item : Item) : Option String :=
  match item.form with
  | .bare => none
  | .separate value => some value
  | .inline value => some value

def Item.isSeparate (item : Item) (name : String) : Bool :=
  match item.form with
  | .separate _ => item.name == name
  | _ => false

def Item.tokens (item : Item) : List String :=
  match item.form with
  | .bare => [item.name]
  | .separate value => [item.name, value]
  | .inline value => [item.name ++ "=" ++ value]

/-- Whether values may stand behind an equals sign, and which options have one. -/
structure Grammar where
  inline : Bool
  takesValue : String -> Bool

def isOption (token : String) : Bool :=
  match token.toList with
  | '-' :: next :: _ => !next.isDigit && next != '.' && next != '='
  | _ => false

/-- The item is what its tokens are read as. -/
def Grammar.Fits (grammar : Grammar) (item : Item) : Prop :=
  isOption item.name = true ∧ (grammar.inline = true -> '=' ∉ item.name.toList) ∧
    match item.form with
    | .bare => grammar.takesValue item.name = false
    | .separate value => isOption value = false
    | .inline _ => grammar.inline = true

def Grammar.isInline (grammar : Grammar) (token : String) : Bool :=
  grammar.inline && token.toList.contains '='

/-- The item of a token that has no other behind it. -/
def Grammar.single (grammar : Grammar) (token : String) : Option Item :=
  if isOption token = false then none
  else if grammar.isInline token then
    (splitOnce token).map fun parts => ⟨parts.1, .inline parts.2⟩
  else if grammar.takesValue token then none
  else some ⟨token, .bare⟩

/-- Read a list; none when a token has no place in it or an option lacks its value. -/
def Grammar.read (grammar : Grammar) : List String -> Option (List Item)
  | [] => some []
  | [token] => (grammar.single token).map fun item => [item]
  | token :: next :: rest =>
      if isOption token = true ∧ grammar.isInline token = false ∧ isOption next = false then
        (grammar.read rest).map (⟨token, .separate next⟩ :: ·)
      else (grammar.single token).bind fun item => (grammar.read (next :: rest)).map (item :: ·)

/-- What decides an option: the value of its last occurrence. -/
def valueOf (name : String) (items : List Item) : Option (Option String) :=
  ((items.filter fun item => item.name == name).getLast?).map Item.value

/-- Drop a token and the one behind it wherever it is the name. -/
def dropOption (name : String) : List String -> List String
  | [] => []
  | [flag] => if flag = name then [] else [flag]
  | flag :: next :: rest =>
      if flag = name then dropOption name rest else flag :: dropOption name (next :: rest)

/-- The tokens that are dropped behind the name. -/
def droppedValues (name : String) : List String -> List String
  | [] => []
  | [_] => []
  | flag :: next :: rest =>
      if flag = name then next :: droppedValues name rest else droppedValues name (next :: rest)

/-- Put an option at the end of a list, in the place of its separate occurrences. -/
def replace (name value : String) (items : List Item) : List Item :=
  (items.filter fun item => !item.isSeparate name) ++ [⟨name, .separate value⟩]

variable {grammar : Grammar}

/-! ## Reading -/

theorem isOption_cons {token : String} (option : isOption token = true) :
    exists next rest, token.toList = '-' :: next :: rest := by
  unfold isOption at option
  split at option
  · next next rest isToken => exact ⟨next, rest, isToken⟩
  · cases option

variable {name : String}

theorem isOption_append (option : isOption name = true) (behind : String) :
    isOption (name ++ behind) = true := by
  rcases isOption_cons option with ⟨next, rest, isName⟩
  have isWhole : (name ++ behind).toList = '-' :: next :: (rest ++ behind.toList) := by
    simp [String.toList_append, isName]
  unfold isOption at option ⊢
  rw [isName] at option
  rw [isWhole]
  exact option

theorem splitOnce_cut (cut : '=' ∉ name.toList) (value : String) :
    splitOnce (name ++ "=" ++ value) = some (name, value) := by
  have text : (name ++ "=" ++ value).toList = name.toList ++ '=' :: value.toList := by
    simp [String.toList_append]
  have before : forall character, character ∈ name.toList -> (character != '=') = true :=
    fun character listed => bne_iff_ne.mpr fun same => cut (same ▸ listed)
  unfold splitOnce
  rw [text, List.dropWhile_append_of_pos before, List.takeWhile_append_of_pos before]
  simp

/-- An item that fits stands before any list that begins with an option. -/
theorem read_cons {item : Item} (fits : grammar.Fits item) {rest : List String}
    (apart : forall next, rest.head? = some next -> isOption next = true) :
    grammar.read (item.tokens ++ rest) = (grammar.read rest).map (item :: ·) := by
  rcases item with ⟨name, form⟩
  rcases fits with ⟨option, cut, rightForm⟩
  have plain : grammar.isInline name = false := by
    unfold Grammar.isInline
    cases inline : grammar.inline with
    | false => rfl
    | true => simpa using cut inline
  cases form with
  | separate value =>
      change grammar.read (name :: value :: rest) = _
      rw [Grammar.read, if_pos ⟨option, plain, rightForm⟩]
  | bare =>
      have single : grammar.single name = some ⟨name, .bare⟩ := by
        simp [Grammar.single, option, plain, show grammar.takesValue name = false from rightForm]
      cases rest with
      | nil =>
          exact congrArg (Option.map fun item => [item]) single
      | cons next rest =>
          change grammar.read (name :: next :: rest) = _
          rw [Grammar.read, if_neg (by simp [apart next rfl]), single]
          rfl
  | inline value =>
      have inline : grammar.isInline (name ++ "=" ++ value) = true := by
        simp [Grammar.isInline, show grammar.inline = true from rightForm, String.toList_append]
      have single : grammar.single (name ++ "=" ++ value) = some ⟨name, .inline value⟩ := by
        unfold Grammar.single
        rw [String.append_assoc, if_neg (by simp [isOption_append option]), ← String.append_assoc,
          if_pos inline, splitOnce_cut (cut rightForm)]
        rfl
      cases rest with
      | nil =>
          exact congrArg (Option.map fun item => [item]) single
      | cons next rest =>
          change grammar.read ((name ++ "=" ++ value) :: next :: rest) = _
          rw [Grammar.read, if_neg (by simp [inline]), single]
          rfl

variable {items : List Item}

theorem head_tokens (fits : forall item, item ∈ items -> grammar.Fits item) :
    forall next, (items.flatMap Item.tokens).head? = some next -> isOption next = true := by
  intro next isNext
  cases items with
  | nil => exact nomatch isNext
  | cons item rest =>
      have option := (fits item List.mem_cons_self).1
      rcases item with ⟨name, form⟩
      cases form with
      | inline value =>
          have same : name ++ "=" ++ value = next := Option.some.inj isNext
          rw [← same, String.append_assoc]
          exact isOption_append option _
      | bare => exact Option.some.inj isNext ▸ option
      | separate value => exact Option.some.inj isNext ▸ option

theorem read_tokens (fits : forall item, item ∈ items -> grammar.Fits item) :
    grammar.read (items.flatMap Item.tokens) = some items := by
  induction items with
  | nil => rfl
  | cons item rest ih =>
      have others : forall other, other ∈ rest -> grammar.Fits other :=
        fun other listed => fits other (.tail _ listed)
      rw [List.flatMap_cons, read_cons (fits item List.mem_cons_self) (head_tokens others), ih others]
      rfl

theorem splitOnce_name {token value : String} (cut : splitOnce token = some (name, value)) :
    name.toList = token.toList.takeWhile (· != '=') := by
  unfold splitOnce at cut
  split at cut
  · cases cut
  · rw [← (Prod.mk.inj (Option.some.inj cut)).1, String.toList_ofList]

theorem single_fits {token : String} {item : Item} (single : grammar.single token = some item) :
    item.tokens = [token] ∧ grammar.Fits item := by
  unfold Grammar.single at single
  split at single
  · cases single
  · next option =>
      rw [Bool.not_eq_false] at option
      split at single
      · next inline =>
          rcases Option.map_eq_some_iff.mp single with ⟨⟨name, value⟩, cut, rfl⟩
          have text := Text.splitOnce_toList cut
          have whole : name ++ "=" ++ value = token := String.toList_injective (by
            simp [String.toList_append, text])
          have inlines : grammar.inline = true := by
            unfold Grammar.isInline at inline
            exact (Bool.and_eq_true _ _ ▸ inline).1
          have isName := splitOnce_name cut
          refine ⟨congrArg (fun text => [text]) whole, ?_, fun _ listed => ?_, inlines⟩
          · rcases isOption_cons option with ⟨next, rest, isToken⟩
            unfold isOption at option ⊢
            rw [isToken] at option
            have apart : (next != '=') = true := (Bool.and_eq_true _ _ ▸ option).2
            rw [isName, isToken, List.takeWhile_cons_of_pos (by decide)]
            simpa [List.takeWhile_cons, apart] using option
          · rw [isName] at listed
            exact absurd (List.mem_takeWhile_imp listed) (by decide)
      · next plain =>
          split at single
          · cases single
          · next free =>
              cases single
              refine ⟨rfl, option, fun inlines => ?_, Bool.eq_false_iff.mpr free⟩
              rw [Grammar.isInline, inlines] at plain
              simpa using plain

theorem read_fits {tokens : List String} (read : grammar.read tokens = some items) :
    items.flatMap Item.tokens = tokens ∧ forall item, item ∈ items -> grammar.Fits item := by
  induction tokens using Grammar.read.induct grammar generalizing items with
  | case1 =>
      cases read
      exact ⟨rfl, nofun⟩
  | case2 token =>
      rcases Option.map_eq_some_iff.mp read with ⟨item, single, rfl⟩
      rcases single_fits single with ⟨tokens, fits⟩
      exact ⟨by simp [tokens], by simpa using fits⟩
  | case3 token next rest separate ih =>
      rw [Grammar.read, if_pos separate] at read
      rcases Option.map_eq_some_iff.mp read with ⟨others, readRest, rfl⟩
      rcases ih readRest with ⟨rfl, fits⟩
      refine ⟨rfl, List.forall_mem_cons.mpr ⟨⟨separate.1, fun inlines => ?_, separate.2.2⟩, fits⟩⟩
      have plain := separate.2.1
      rw [Grammar.isInline, inlines] at plain
      simpa using plain
  | case4 token next rest other ih =>
      rw [Grammar.read, if_neg other] at read
      rcases Option.bind_eq_some_iff.mp read with ⟨item, single, read⟩
      rcases Option.map_eq_some_iff.mp read with ⟨others, readRest, rfl⟩
      rcases single_fits single with ⟨tokens, fits⟩
      rcases ih readRest with ⟨same, othersFit⟩
      exact ⟨by rw [List.flatMap_cons, tokens, same]; rfl,
        List.forall_mem_cons.mpr ⟨fits, othersFit⟩⟩

/-! ## Rewriting -/

theorem dropOption_keep {flag : String} (other : flag ≠ name) (rest : List String) :
    dropOption name (flag :: rest) = flag :: dropOption name rest := by
  cases rest with
  | nil => exact if_neg other
  | cons next rest => rw [dropOption, if_neg other]

theorem droppedValues_keep {flag : String} (other : flag ≠ name) (rest : List String) :
    droppedValues name (flag :: rest) = droppedValues name rest := by
  cases rest with
  | nil => rfl
  | cons next rest => rw [droppedValues, if_neg other]

/-- An option that has a value under the grammar. -/
structure Grammar.Valued (grammar : Grammar) (name : String) : Prop where
  option : isOption name = true
  cut : '=' ∉ name.toList
  valued : grammar.takesValue name = true

section

variable (valued : grammar.Valued name)
include valued

/-- An item that is no separate occurrence keeps its tokens. -/
theorem dropOption_item {item : Item} (fits : grammar.Fits item) (rest : List String) :
    dropOption name (item.tokens ++ rest) =
        (if item.isSeparate name then [] else item.tokens) ++ dropOption name rest ∧
      droppedValues name (item.tokens ++ rest) =
        (if item.isSeparate name then item.value.toList else []) ++ droppedValues name rest := by
  rcases item with ⟨named, form⟩
  rcases fits with ⟨_, _, rightForm⟩
  cases form with
  | bare =>
      have other : named ≠ name := by
        rintro rfl
        exact nomatch valued.valued.symm.trans rightForm
      exact ⟨dropOption_keep other rest, droppedValues_keep other rest⟩
  | inline value =>
      have other : named ++ "=" ++ value ≠ name := by
        rintro rfl
        exact valued.cut (by simp [String.toList_append])
      exact ⟨dropOption_keep other rest, droppedValues_keep other rest⟩
  | separate value =>
      by_cases same : named = name
      · simp [Item.isSeparate, Item.tokens, Item.value, same, dropOption, droppedValues]
      · have plain : value ≠ name := by
          rintro rfl
          exact nomatch valued.option.symm.trans rightForm
        have kept : Item.isSeparate ⟨named, .separate value⟩ name = false := by
          simpa [Item.isSeparate] using same
        rw [kept]
        exact ⟨(dropOption_keep same _).trans (congrArg _ (dropOption_keep plain _)),
          (droppedValues_keep same _).trans (droppedValues_keep plain _)⟩

/-- Dropping an option drops its occurrences with a separate value. -/
theorem dropOption_append (fits : forall item, item ∈ items -> grammar.Fits item)
    (rest : List String) :
    dropOption name (items.flatMap Item.tokens ++ rest) =
        (items.filter fun item => !item.isSeparate name).flatMap Item.tokens ++
          dropOption name rest ∧
      droppedValues name (items.flatMap Item.tokens ++ rest) =
        ((items.filter fun item => item.isSeparate name).flatMap fun item => item.value.toList) ++
          droppedValues name rest := by
  induction items with
  | nil => exact ⟨rfl, rfl⟩
  | cons item items ih =>
      rcases ih fun other listed => fits other (.tail _ listed) with ⟨kept, dropped⟩
      rcases dropOption_item valued (fits item List.mem_cons_self)
        (items.flatMap Item.tokens ++ rest) with ⟨keptHere, droppedHere⟩
      rw [List.flatMap_cons, List.append_assoc, keptHere, droppedHere, kept, dropped]
      cases separate : item.isSeparate name <;> simp [separate]

theorem dropOption_tokens (fits : forall item, item ∈ items -> grammar.Fits item) (value : String) :
    dropOption name (items.flatMap Item.tokens) ++ [name, value] =
      (replace name value items).flatMap Item.tokens := by
  have dropped := (dropOption_append valued fits []).1
  rw [List.append_nil, dropOption, List.append_nil] at dropped
  rw [dropped, replace, List.flatMap_append]
  rfl

/-- An option that takes a value may follow with one that is no option. -/
theorem fits_concat {value : String} (plain : isOption value = false)
    (fits : forall item, item ∈ items -> grammar.Fits item) :
    forall item, item ∈ items ++ [⟨name, .separate value⟩] -> grammar.Fits item := by
  intro item listed
  rcases List.mem_append.mp listed with kept | added
  · exact fits item kept
  · rw [List.mem_singleton.mp added]
    exact ⟨valued.option, fun _ => valued.cut, plain⟩

theorem replace_fits {value : String} (plain : isOption value = false)
    (fits : forall item, item ∈ items -> grammar.Fits item) :
    forall item, item ∈ replace name value items -> grammar.Fits item :=
  fits_concat valued plain fun item kept => fits item (List.mem_of_mem_filter kept)

/-- An option without the value it needs is refused, whatever stands before it. -/
theorem read_stuck (fits : forall item, item ∈ items -> grammar.Fits item) {rest : List String}
    (apart : forall next, rest.head? = some next -> isOption next = true) :
    grammar.read (items.flatMap Item.tokens ++ name :: rest) = none := by
  have single : grammar.single name = none := by
    simp [Grammar.single, Grammar.isInline, valued.option, valued.cut, valued.valued]
  have stuck : grammar.read (name :: rest) = none := by
    cases rest with
    | nil => exact congrArg (Option.map fun item => [item]) single
    | cons next rest =>
        rw [Grammar.read, if_neg (by simp [apart next rfl]), single]
        rfl
  induction items with
  | nil => exact stuck
  | cons item items ih =>
      have others : forall other, other ∈ items -> grammar.Fits other :=
        fun other listed => fits other (.tail _ listed)
      have headed : forall next, (items.flatMap Item.tokens ++ name :: rest).head? = some next ->
          isOption next = true := by
        intro next isNext
        rcases List.head?_append ▸ isNext with isNext
        cases front : (items.flatMap Item.tokens).head? with
        | none =>
            rw [front] at isNext
            exact Option.some.inj isNext ▸ valued.option
        | some head =>
            rw [front] at isNext
            exact Option.some.inj isNext ▸ head_tokens others head front
      rw [List.flatMap_cons, List.append_assoc, read_cons (fits item List.mem_cons_self) headed,
        ih others]
      rfl

end

/-! ## What decides -/

theorem valueOf_append_other {behind : List Item}
    (others : forall item, item ∈ behind -> item.name ≠ name) :
    valueOf name (items ++ behind) = valueOf name items := by
  have none_ : (behind.filter fun item => item.name == name) = [] :=
    List.filter_eq_nil_iff.mpr fun item listed => by simpa using others item listed
  rw [valueOf, List.filter_append, none_, List.append_nil, valueOf]

theorem valueOf_append_self (items : List Item) (name value : String) :
    valueOf name (items ++ [⟨name, .separate value⟩]) = some (some value) := by
  simp [valueOf, Item.value]

theorem valueOf_replace_self (name value : String) (items : List Item) :
    valueOf name (replace name value items) = some (some value) := valueOf_append_self ..

theorem valueOf_drop_other {dropped : String} (other : name ≠ dropped) (items : List Item) :
    valueOf name (items.filter fun item => !item.isSeparate dropped) = valueOf name items := by
  unfold valueOf
  rw [List.filter_filter]
  congr 2
  refine List.filter_congr fun item _ => ?_
  by_cases same : item.name = name
  · have kept : item.isSeparate dropped = false := by
      unfold Item.isSeparate
      split
      · simpa [same] using other
      · rfl
    simp [kept]
  · simp [same]

theorem valueOf_replace_other {replaced : String} (other : name ≠ replaced) (value : String)
    (items : List Item) : valueOf name (replace replaced value items) = valueOf name items := by
  rw [replace, valueOf_append_other, valueOf_drop_other other]
  intro item listed
  rw [List.mem_singleton.mp listed]
  exact Ne.symm other

end FlagList
end RocmCli
