import RocmCli.Serve.Overrides

namespace RocmCli
namespace Serve

open Text FlagList

/-!
# What the overrides change

A list of flags means the value that the last occurrence gives each option.  The
overrides change what they are asked to change, except that the generation config
is merged from other occurrences than the one that decides, and that a parser
whose name starts like an option is not read as a value.
-/

/-! ## What a list of flags means -/

def vllm : Grammar :=
  ⟨true, fun name => [toolCallParser, gpuMemoryUtilization, overrideGenerationConfig].contains name⟩

def lemonade : Grammar :=
  ⟨false, fun name => ["--temperature", "--top-p", "--n-predict"].contains name⟩

variable {Number Value : Type} {numbers : Numbers Number Value} {text : JsonText Value}

/-- A number is no option. -/
def Numbers.Lawful (numbers : Numbers Number Value) : Prop :=
  forall number, isOption (numbers.display number) = false

/-- An object that was written reads as one with the same entries, and starts with no
hyphen. -/
structure JsonText.Lawful (text : JsonText Value) : Prop where
  prints : forall entries, (entries.map Prod.fst).Nodup -> exists read,
    text.parse (text.print entries) = some read ∧ (read.map Prod.fst).Nodup ∧
      forall key, read.lookup key = entries.lookup key
  plain : forall entries, isOption (text.print entries) = false

/-- The generation config in force. -/
def configOf (text : JsonText Value) (items : List Item) : List (String × Value) :=
  match valueOf overrideGenerationConfig items with
  | some (some value) => (text.parse value).getD []
  | _ => []

/-- The entries of all the configs that stand as a separate value. -/
def mergedOf (text : JsonText Value) (items : List Item) : List (String × Value) :=
  ((items.filter fun item => item.isSeparate overrideGenerationConfig).flatMap fun item =>
    item.value.toList).foldl (mergeValue text) []

/-- What is given, as it is written. -/
structure Given (Value : Type) where
  parser : Option String
  controls : List (String × String)
  config : List (String × Value)

/-- What is given to vLLM. -/
def Overrides.toVllm (numbers : Numbers Number Value) (overrides : Overrides Number) : Given Value :=
  ⟨(overrides.parser.map trim).filter (· != ""),
    overrides.utilization.toList.map fun value => (gpuMemoryUtilization, numbers.display value),
    configOverrides numbers overrides.generation⟩

/-- What is given to llama.cpp, which has no parser and no memory fraction. -/
def Overrides.toLemonade (numbers : Numbers Number Value) (overrides : Overrides Number) : Given Value :=
  ⟨none, (overrides.generation.temperature.toList.map fun value =>
      ("--temperature", numbers.display value)) ++
    (overrides.generation.topP.toList.map fun value => ("--top-p", numbers.display value)) ++
    overrides.generation.maxTokens.toList.map fun value => ("--n-predict", toString value), []⟩

/-- The options that are given. -/
def Given.Names (given : Given Value) (name : String) : Prop :=
  given.parser ≠ none ∧ (name = toolCallParser ∨ name = enableAutoToolChoice) ∨
    name ∈ given.controls.map Prod.fst ∨ given.config ≠ [] ∧ name = overrideGenerationConfig

/-- What was given holds behind the overrides, and nothing else has changed. -/
structure Applied (text : JsonText Value) (given : Given Value) (before after : List Item) : Prop where
  parser : forall parser, given.parser = some parser ->
    valueOf toolCallParser after = some (some parser) ∧
      enableAutoToolChoice ∈ after.flatMap Item.tokens
  controls : forall control, control ∈ given.controls ->
    valueOf control.1 after = some (some control.2)
  others : forall name, ¬ given.Names name -> valueOf name after = valueOf name before
  config : forall key, (configOf text after).lookup key =
    (given.config.lookup key).or ((configOf text before).lookup key)

structure SameEffect (text : JsonText Value) (first second : List Item) : Prop where
  values : forall name, name ≠ overrideGenerationConfig -> valueOf name second = valueOf name first
  config : forall key, (configOf text second).lookup key = (configOf text first).lookup key

/-- The overrides change what is given and nothing else; once more, they change nothing. -/
def Exact (numbers : Numbers Number Value) (text : JsonText Value) (grammar : Grammar) (given : Given Value)
    (engine : String) (hint : Option EngineRecipeHint) (overrides : Overrides Number) : Prop :=
  exists before after again first second, grammar.read (flagsOf hint) = some before ∧
    applyOverrides numbers text engine hint overrides = .ok after ∧
    applyOverrides numbers text engine after overrides = .ok again ∧
    grammar.read (flagsOf after) = some first ∧ grammar.read (flagsOf again) = some second ∧
    Applied text given before first ∧ SameEffect text first second ∧
    (given = ⟨none, [], []⟩ -> after = hint)

/-- The parser is no option, and the configs that are merged agree with the one in
force wherever the command line gives nothing. -/
structure Right (text : JsonText Value) (given : Given Value) (items : List Item) : Prop where
  parser : forall parser, given.parser = some parser -> isOption parser = false
  config : given.config ≠ [] -> forall key, given.config.lookup key = none ->
    (mergedOf text items).lookup key = (configOf text items).lookup key

/-! ## Maps -/

theorem lookup_cons_if (name : String) (value : Value) (rest : List (String × Value)) (key : String) :
    ((name, value) :: rest).lookup key = if key = name then some value else rest.lookup key := by
  rw [List.lookup_cons]
  by_cases same : key = name
  · simp [same]
  · simp [same, beq_eq_false_iff_ne.mpr same]

theorem lookup_insertKey (key : String) (value : Value) (entries : List (String × Value))
    (other : String) : (insertKey key value entries).lookup other =
      if other = key then some value else entries.lookup other := by
  induction entries with
  | nil => exact lookup_cons_if ..
  | cons first rest ih =>
      rcases first with ⟨name, stored⟩
      unfold insertKey
      by_cases here : name = key
      · subst here
        rw [if_pos rfl, lookup_cons_if, lookup_cons_if]
        by_cases same : other = name <;> simp [same]
      · rw [if_neg here, lookup_cons_if, lookup_cons_if, ih]
        by_cases same : other = name
        · simp [same, here]
        · simp [same]

theorem keys_insertKey (key : String) (value : Value) (entries : List (String × Value))
    (name : String) : name ∈ (insertKey key value entries).map Prod.fst ↔
      name = key ∨ name ∈ entries.map Prod.fst := by
  induction entries with
  | nil => simp [insertKey]
  | cons first rest ih =>
      unfold insertKey
      split
      · next same => simp [same]
      · rw [List.map_cons, List.mem_cons, ih, List.map_cons, List.mem_cons, or_left_comm]

theorem nodup_insertKey (key : String) (value : Value) {entries : List (String × Value)}
    (nodup : (entries.map Prod.fst).Nodup) : ((insertKey key value entries).map Prod.fst).Nodup := by
  induction entries with
  | nil => simp [insertKey]
  | cons first rest ih =>
      rcases List.nodup_cons.mp nodup with ⟨fresh, others⟩
      unfold insertKey
      split
      · next same => exact List.nodup_cons.mpr ⟨same ▸ fresh, others⟩
      · next other =>
          refine List.nodup_cons.mpr ⟨fun listed => ?_, ih others⟩
          exact ((keys_insertKey ..).mp listed).elim other fresh

theorem nodup_insertAll (entries : List (String × Value)) {merged : List (String × Value)}
    (nodup : (merged.map Prod.fst).Nodup) : ((insertAll entries merged).map Prod.fst).Nodup := by
  induction entries generalizing merged with
  | nil => exact nodup
  | cons entry rest ih => exact ih (nodup_insertKey _ _ nodup)

theorem lookup_insertAll {entries : List (String × Value)} (nodup : (entries.map Prod.fst).Nodup)
    (merged : List (String × Value)) (key : String) :
    (insertAll entries merged).lookup key = (entries.lookup key).or (merged.lookup key) := by
  induction entries generalizing merged with
  | nil => rfl
  | cons entry rest ih =>
      rcases entry with ⟨name, value⟩
      rcases List.nodup_cons.mp nodup with ⟨fresh, others⟩
      change (insertAll rest (insertKey name value merged)).lookup key = _
      rw [ih others, lookup_insertKey, lookup_cons_if]
      by_cases same : key = name
      · subst same
        have absent : rest.lookup key = none :=
          List.lookup_eq_none_iff.mpr fun entry listed =>
            bne_iff_ne.mpr fun same => fresh (List.mem_map.mpr ⟨entry, listed, same.symm⟩)
        simp [absent]
      · simp [same]

theorem nodup_mergeAll (values : List String) {merged : List (String × Value)}
    (nodup : (merged.map Prod.fst).Nodup) :
    ((values.foldl (mergeValue text) merged).map Prod.fst).Nodup := by
  induction values generalizing merged with
  | nil => exact nodup
  | cons value rest ih =>
      refine ih ?_
      unfold mergeValue
      split
      · exact nodup_insertAll _ nodup
      · exact nodup

theorem nodup_mergedOf (text : JsonText Value) (items : List Item) :
    ((mergedOf text items).map Prod.fst).Nodup := nodup_mergeAll _ (by simp)

/-! ## The steps -/

/-- What a grammar has to know of what is given. -/
structure Given.Fits (given : Given Value) (grammar : Grammar) : Prop where
  parser : given.parser ≠ none ->
    grammar.Valued toolCallParser ∧ grammar.Fits ⟨enableAutoToolChoice, .bare⟩
  controls : forall control, control ∈ given.controls -> grammar.Valued control.1 ∧
    isOption control.2 = false ∧ control.1 ≠ toolCallParser ∧ control.1 ≠ enableAutoToolChoice ∧
      control.1 ≠ overrideGenerationConfig
  apart : (given.controls.map Prod.fst).Nodup
  config : given.config ≠ [] -> grammar.Valued overrideGenerationConfig
  keys : (given.config.map Prod.fst).Nodup

def controlledFlags (controls : List (String × String)) (flags : List String) : List String :=
  controls.foldl (fun flags control => dropOption control.1 flags ++ [control.1, control.2]) flags

/-- The flags behind all the steps. -/
def appliedFlags (text : JsonText Value) (given : Given Value) (flags : List String) : List String :=
  let parsed := match given.parser with
    | some parser => setVllmToolCallParser flags parser
    | none => flags
  let stepped := controlledFlags given.controls parsed
  if given.config = [] then stepped else setVllmOverrideGenerationConfig text stepped given.config

/-- The items behind the parser's step, without the parser. -/
def enabled (items : List Item) : List Item :=
  let kept := items.filter fun item => !item.isSeparate toolCallParser
  if enableAutoToolChoice ∈ kept.flatMap Item.tokens then kept
  else kept ++ [⟨enableAutoToolChoice, .bare⟩]

def parsedItems (given : Given Value) (items : List Item) : List Item :=
  match given.parser with
  | some parser => enabled items ++ [⟨toolCallParser, .separate parser⟩]
  | none => items

def controlledItems (controls : List (String × String)) (items : List Item) : List Item :=
  controls.foldl (fun items control => replace control.1 control.2 items) items

def steppedItems (given : Given Value) (items : List Item) : List Item :=
  controlledItems given.controls (parsedItems given items)

/-- The items behind all the steps. -/
def appliedItems (text : JsonText Value) (given : Given Value) (items : List Item) : List Item :=
  let stepped := steppedItems given items
  if given.config = [] then stepped
  else replace overrideGenerationConfig
    (text.print (insertAll given.config (mergedOf text items))) stepped

variable {grammar : Grammar} {items : List Item} {given : Given Value}

theorem enabled_mem (items : List Item) :
    enableAutoToolChoice ∈ (enabled items).flatMap Item.tokens := by
  unfold enabled
  dsimp only
  split
  · assumption
  · simp [Item.tokens]

/-- What fits behind the parser's step, without the parser. -/
theorem enabled_fits (fits : forall item, item ∈ items -> grammar.Fits item)
    (choice : grammar.Fits ⟨enableAutoToolChoice, .bare⟩) :
    forall item, item ∈ enabled items -> grammar.Fits item := by
  intro item listed
  unfold enabled at listed
  dsimp only at listed
  split at listed
  · exact fits item (List.mem_of_mem_filter listed)
  · rcases List.mem_append.mp listed with kept | added
    · exact fits item (List.mem_of_mem_filter kept)
    · exact List.mem_singleton.mp added ▸ choice

theorem setVllmToolCallParser_tokens (fits : forall item, item ∈ items -> grammar.Fits item)
    (valued : grammar.Valued toolCallParser) (parser : String) :
    setVllmToolCallParser (items.flatMap Item.tokens) parser =
      (enabled items).flatMap Item.tokens ++ [toolCallParser, parser] := by
  have dropped := (dropOption_append valued fits []).1
  rw [List.append_nil, dropOption, List.append_nil] at dropped
  have there : forall flags : List String,
      flags.any (· == enableAutoToolChoice) = true ↔ enableAutoToolChoice ∈ flags := by simp
  unfold setVllmToolCallParser enabled
  dsimp only
  rw [dropped]
  simp only [there]
  split
  · rfl
  · rw [List.flatMap_append]
    rfl

variable {controls : List (String × String)}

theorem controlled_tokens (fits : forall item, item ∈ items -> grammar.Fits item)
    (valued : forall control, control ∈ controls ->
      grammar.Valued control.1 ∧ isOption control.2 = false) :
    controlledFlags controls (items.flatMap Item.tokens) =
        (controlledItems controls items).flatMap Item.tokens ∧
      forall item, item ∈ controlledItems controls items -> grammar.Fits item := by
  induction controls generalizing items with
  | nil => exact ⟨rfl, fits⟩
  | cons control rest ih =>
      rcases valued control List.mem_cons_self with ⟨named, plain⟩
      rw [controlledFlags, List.foldl_cons, dropOption_tokens named fits control.2]
      exact ih (replace_fits named plain fits) fun other listed => valued other (.tail _ listed)

variable {name : String}

theorem valueOf_controlled (other : name ∉ controls.map Prod.fst) (items : List Item) :
    valueOf name (controlledItems controls items) = valueOf name items := by
  induction controls generalizing items with
  | nil => rfl
  | cons control rest ih =>
      rw [List.map_cons, List.mem_cons, not_or] at other
      exact (ih other.2 _).trans (valueOf_replace_other other.1 _ _)

theorem valueOf_control (apart : (controls.map Prod.fst).Nodup) {control : String × String}
    (listed : control ∈ controls) (items : List Item) :
    valueOf control.1 (controlledItems controls items) = some (some control.2) := by
  induction controls generalizing items with
  | nil => exact nomatch listed
  | cons first rest ih =>
      rcases List.nodup_cons.mp apart with ⟨fresh, others⟩
      rcases List.mem_cons.mp listed with rfl | behind
      · exact (valueOf_controlled fresh _).trans (valueOf_replace_self ..)
      · exact ih others behind _

/-! ## What the steps keep -/

theorem mem_choice (other : name ≠ enableAutoToolChoice)
    (fits : forall item, item ∈ items -> grammar.Fits item)
    (present : enableAutoToolChoice ∈ items.flatMap Item.tokens) :
    enableAutoToolChoice ∈
      (items.filter fun item => !item.isSeparate name).flatMap Item.tokens := by
  rcases List.mem_flatMap.mp present with ⟨item, listed, isToken⟩
  refine List.mem_flatMap.mpr ⟨item, List.mem_filter.mpr ⟨listed, ?_⟩, isToken⟩
  have right := (fits item listed).2.2
  rcases item with ⟨named, form⟩
  cases form with
  | bare => rfl
  | inline value => rfl
  | separate value =>
      rcases List.mem_pair.mp isToken with same | same
      · have kept : named ≠ name := fun isName => other (isName.symm.trans same.symm)
        simpa [Item.isSeparate] using kept
      · have plain : isOption enableAutoToolChoice = false := same ▸ right
        exact absurd plain (by decide)

theorem mem_choice_controlled (fits : forall item, item ∈ items -> grammar.Fits item)
    (valued : forall control, control ∈ controls -> grammar.Valued control.1 ∧
      isOption control.2 = false ∧ control.1 ≠ enableAutoToolChoice)
    (present : enableAutoToolChoice ∈ items.flatMap Item.tokens) :
    enableAutoToolChoice ∈ (controlledItems controls items).flatMap Item.tokens := by
  induction controls generalizing items with
  | nil => exact present
  | cons control rest ih =>
      rcases valued control List.mem_cons_self with ⟨named, plain, other⟩
      refine ih (replace_fits named plain fits) (fun other listed => valued other (.tail _ listed)) ?_
      change enableAutoToolChoice ∈ (FlagList.replace control.1 control.2 items).flatMap Item.tokens
      rw [FlagList.replace, List.flatMap_append]
      exact List.mem_append_left _ (mem_choice other fits present)

theorem merged_drop (other : name ≠ overrideGenerationConfig) (items : List Item) :
    mergedOf text (items.filter fun item => !item.isSeparate name) = mergedOf text items := by
  unfold mergedOf
  rw [List.filter_filter]
  congr 2
  refine List.filter_congr fun item _ => ?_
  rcases item with ⟨named, form⟩
  cases form with
  | bare => rfl
  | inline value => rfl
  | separate value =>
      by_cases same : named = overrideGenerationConfig
      · simp [Item.isSeparate, same, Ne.symm other]
      · simp [Item.isSeparate, same]

theorem merged_append {behind : List Item}
    (others : forall item, item ∈ behind -> item.isSeparate overrideGenerationConfig = false) :
    mergedOf text (items ++ behind) = mergedOf text items := by
  have none_ : (behind.filter fun item => item.isSeparate overrideGenerationConfig) = [] :=
    List.filter_eq_nil_iff.mpr fun item listed => by simp [others item listed]
  rw [mergedOf, List.filter_append, none_, List.append_nil, mergedOf]

theorem merged_parsed : mergedOf text (parsedItems given items) = mergedOf text items := by
  unfold parsedItems
  split
  · rw [merged_append (by simp [Item.isSeparate, toolCallParser, overrideGenerationConfig])]
    unfold enabled
    dsimp only
    split
    · exact merged_drop (by decide) items
    · rw [merged_append (by simp [Item.isSeparate]), merged_drop (by decide)]
  · rfl

theorem merged_stepped (fits : given.Fits grammar) :
    mergedOf text (steppedItems given items) = mergedOf text items := by
  have controls := fits.controls
  refine Eq.trans ?_ (merged_parsed : mergedOf text (parsedItems given items) = _)
  unfold steppedItems
  generalize given.controls = asked at controls ⊢
  generalize parsedItems given items = parsed
  induction asked generalizing parsed with
  | nil => rfl
  | cons control rest ih =>
      have other := (controls control List.mem_cons_self).2.2.2.2
      refine (ih (fun other listed => controls other (.tail _ listed)) _).trans ?_
      change mergedOf text (FlagList.replace control.1 control.2 parsed) = mergedOf text parsed
      rw [FlagList.replace, merged_append (by simp [Item.isSeparate, other]), merged_drop other]

variable (fits : given.Fits grammar)

include fits in
theorem parsedItems_fit (itemsFit : forall item, item ∈ items -> grammar.Fits item)
    (plain : forall parser, given.parser = some parser -> isOption parser = false) :
    forall item, item ∈ parsedItems given items -> grammar.Fits item := by
  unfold parsedItems
  cases isParser : given.parser with
  | none => exact itemsFit
  | some parser =>
      rcases fits.parser (by simp [isParser]) with ⟨valued, choice⟩
      exact fits_concat valued (plain parser isParser) (enabled_fits itemsFit choice)

include fits in
theorem steppedItems_tokens (itemsFit : forall item, item ∈ items -> grammar.Fits item)
    (plain : forall parser, given.parser = some parser -> isOption parser = false) :
    controlledFlags given.controls ((parsedItems given items).flatMap Item.tokens) =
        (steppedItems given items).flatMap Item.tokens ∧
      forall item, item ∈ steppedItems given items -> grammar.Fits item :=
  controlled_tokens (parsedItems_fit fits itemsFit plain) fun control listed =>
    ⟨(fits.controls control listed).1, (fits.controls control listed).2.1⟩

include fits in
/-- The steps on the tokens are the steps on the items, for a parser that is no option. -/
theorem appliedFlags_tokens (lawful : text.Lawful)
    (itemsFit : forall item, item ∈ items -> grammar.Fits item)
    (plain : forall parser, given.parser = some parser -> isOption parser = false) :
    appliedFlags text given (items.flatMap Item.tokens) =
        (appliedItems text given items).flatMap Item.tokens ∧
      forall item, item ∈ appliedItems text given items -> grammar.Fits item := by
  have parsed : (match given.parser with
        | some parser => setVllmToolCallParser (items.flatMap Item.tokens) parser
        | none => items.flatMap Item.tokens) = (parsedItems given items).flatMap Item.tokens := by
    unfold parsedItems
    cases isParser : given.parser with
    | none => rfl
    | some parser =>
        have valued := (fits.parser (by simp [isParser])).1
        simp [setVllmToolCallParser_tokens itemsFit valued, Item.tokens]
  have stepped := steppedItems_tokens fits itemsFit plain
  unfold appliedFlags appliedItems
  dsimp only
  rw [parsed, stepped.1]
  split
  · exact ⟨rfl, stepped.2⟩
  · next asked =>
      have valued := fits.config asked
      have dropped := (dropOption_append valued stepped.2 []).2
      rw [List.append_nil, droppedValues, List.append_nil] at dropped
      have merged : mergedOf text (steppedItems given items) = mergedOf text items :=
        merged_stepped fits
      refine ⟨?_, replace_fits valued (lawful.plain _) stepped.2⟩
      rw [← merged, mergedOf]
      unfold setVllmOverrideGenerationConfig
      rw [dropped]
      exact dropOption_tokens valued stepped.2 _

theorem valueOf_applied (other : name ≠ overrideGenerationConfig) :
    valueOf name (appliedItems text given items) = valueOf name (steppedItems given items) := by
  unfold appliedItems
  dsimp only
  split
  · rfl
  · exact valueOf_replace_other other _ _

theorem valueOf_parsed (noParser : name ≠ toolCallParser)
    (noChoice : given.parser = none ∨ name ≠ enableAutoToolChoice) :
    valueOf name (parsedItems given items) = valueOf name items := by
  unfold parsedItems
  split
  · next isParser =>
      have other : name ≠ enableAutoToolChoice := by simpa [isParser] using noChoice
      rw [valueOf_append_other (by simp [Ne.symm noParser])]
      unfold enabled
      dsimp only
      split
      · exact valueOf_drop_other noParser items
      · rw [valueOf_append_other (by simp [Ne.symm other]), valueOf_drop_other noParser]
  · rfl

include fits in
theorem parser_applied {parser : String} (isParser : given.parser = some parser) :
    valueOf toolCallParser (appliedItems text given items) = some (some parser) := by
  have notControl : toolCallParser ∉ given.controls.map Prod.fst := by
    intro listed
    rcases List.mem_map.mp listed with ⟨control, isControl, same⟩
    exact (fits.controls control isControl).2.2.1 same
  rw [valueOf_applied (by decide), steppedItems, valueOf_controlled notControl, parsedItems, isParser]
  exact valueOf_append_self ..

include fits in
theorem applied_control {control : String × String} (listed : control ∈ given.controls) :
    valueOf control.1 (appliedItems text given items) = some (some control.2) := by
  rw [valueOf_applied (fits.controls control listed).2.2.2.2]
  exact valueOf_control fits.apart listed _

theorem applied_others (notGiven : ¬ given.Names name) :
    valueOf name (appliedItems text given items) = valueOf name items := by
  rw [Given.Names, not_or, not_or] at notGiven
  rcases notGiven with ⟨noParser, noControl, noConfig⟩
  have stepped : valueOf name (steppedItems given items) = valueOf name items := by
    rw [steppedItems, valueOf_controlled noControl]
    cases isParser : given.parser with
    | none => rw [parsedItems, isParser]
    | some parser =>
        simp only [isParser, ne_eq, reduceCtorEq, not_false_eq_true, true_and, not_or] at noParser
        exact valueOf_parsed noParser.1 (.inr noParser.2)
  unfold appliedItems
  dsimp only
  split
  · exact stepped
  · next asked => exact (valueOf_replace_other (fun same => noConfig ⟨asked, same⟩) _ _).trans stepped

include fits in
theorem mem_choice_applied (itemsFit : forall item, item ∈ items -> grammar.Fits item)
    {parser : String} (isParser : given.parser = some parser) (plain : isOption parser = false) :
    enableAutoToolChoice ∈ (appliedItems text given items).flatMap Item.tokens := by
  have plainGiven : forall other, given.parser = some other -> isOption other = false :=
    fun other isOther => Option.some.inj (isParser.symm.trans isOther) ▸ plain
  have parsed : enableAutoToolChoice ∈ (parsedItems given items).flatMap Item.tokens := by
    rw [parsedItems, isParser]
    dsimp only
    rw [List.flatMap_append]
    exact List.mem_append_left _ (enabled_mem items)
  have stepped := mem_choice_controlled (parsedItems_fit fits itemsFit plainGiven)
    (fun control listed =>
      have known := fits.controls control listed
      ⟨known.1, known.2.1, known.2.2.2.1⟩) parsed
  have steppedFit := (steppedItems_tokens fits itemsFit plainGiven).2
  unfold appliedItems
  dsimp only
  split
  · exact stepped
  · rw [FlagList.replace, List.flatMap_append]
    exact List.mem_append_left _ (mem_choice (by decide) steppedFit stepped)

include fits in
/-- Where tool choice is enabled already, it stays as it is. -/
theorem applied_choice (itemsFit : forall item, item ∈ items -> grammar.Fits item)
    (present : enableAutoToolChoice ∈ items.flatMap Item.tokens) :
    valueOf enableAutoToolChoice (appliedItems text given items) =
      valueOf enableAutoToolChoice items := by
  have notControl : enableAutoToolChoice ∉ given.controls.map Prod.fst := by
    intro listed
    rcases List.mem_map.mp listed with ⟨control, isControl, same⟩
    exact (fits.controls control isControl).2.2.2.1 same
  rw [valueOf_applied (by decide), steppedItems, valueOf_controlled notControl]
  unfold parsedItems
  split
  · rw [valueOf_append_other (by simp [toolCallParser, enableAutoToolChoice])]
    unfold enabled
    dsimp only
    rw [if_pos (mem_choice (by decide) itemsFit present)]
    exact valueOf_drop_other (by decide) items
  · rfl

/-! ## The generation config -/

include fits in
theorem config_applied (lawful : text.Lawful) (asked : given.config ≠ []) (key : String) :
    (configOf text (appliedItems text given items)).lookup key =
      (given.config.lookup key).or ((mergedOf text items).lookup key) := by
  have nodup := nodup_insertAll given.config (nodup_mergedOf text items)
  rcases lawful.prints _ nodup with ⟨read, parsed, _, same⟩
  rw [appliedItems, if_neg asked, configOf, valueOf_replace_self]
  change ((text.parse _).getD []).lookup key = _
  rw [parsed]
  exact (same key).trans (lookup_insertAll fits.keys _ key)

/-- Behind the overrides, the only config is the one in force. -/
theorem merged_applied (lawful : text.Lawful) (asked : given.config ≠ []) (key : String) :
    (mergedOf text (appliedItems text given items)).lookup key =
      (configOf text (appliedItems text given items)).lookup key := by
  have nodup := nodup_insertAll given.config (nodup_mergedOf text items)
  rcases lawful.prints _ nodup with ⟨read, parsed, readNodup, same⟩
  rw [appliedItems, if_neg asked, configOf, valueOf_replace_self, mergedOf]
  have only : forall value, (FlagList.replace overrideGenerationConfig value
      (steppedItems given items)).filter (fun item => item.isSeparate overrideGenerationConfig) =
        [⟨overrideGenerationConfig, .separate value⟩] := by
    intro value
    simp [FlagList.replace, List.filter_append, List.filter_filter, Item.isSeparate]
  have step : mergeValue text [] (text.print (insertAll given.config (mergedOf text items))) =
      insertAll read [] := by
    rw [mergeValue.eq_def, parsed]
  rw [only]
  change (mergeValue text [] (text.print _)).lookup key = ((text.parse _).getD []).lookup key
  rw [step, parsed]
  exact (lookup_insertAll readNodup _ key).trans Option.or_none

/-! ## The engines -/

theorem configOverrides_nil {defaults : ServeGenerationDefaults Number} :
    configOverrides numbers defaults = [] ↔ defaults.isEmpty = true := by
  rcases defaults with ⟨temperature, topP, maxTokens⟩
  cases temperature <;> cases topP <;> cases maxTokens <;>
    simp [configOverrides, ServeGenerationDefaults.isEmpty]

theorem configOverrides_keys (defaults : ServeGenerationDefaults Number) :
    ((configOverrides numbers defaults).map Prod.fst).Nodup := by
  rcases defaults with ⟨temperature, topP, maxTokens⟩
  cases temperature <;> cases topP <;> cases maxTokens <;> simp [configOverrides]

variable {engine : String} {hint : Option EngineRecipeHint} {overrides : Overrides Number}

theorem applyOverrides_vllm (isVllm : eqIgnoreAsciiCase engine "vllm" = true)
    (hint : Option EngineRecipeHint) (overrides : Overrides Number) :
    exists after, applyOverrides numbers text engine hint overrides = .ok after ∧
      flagsOf after = appliedFlags text (overrides.toVllm numbers) (flagsOf hint) ∧
      (overrides.toVllm numbers = ⟨none, [], []⟩ -> after = hint) := by
  rcases overrides with ⟨parser, utilization, generation⟩
  unfold applyOverrides engineRecipeWithGenerationDefaults appliedFlags
    engineRecipeWithToolCallOverride engineRecipeWithGpuMemoryUtilizationOverride
  simp only [isVllm, Bool.not_true, Bool.false_eq_true, if_false, if_true, Overrides.toVllm,
    configOverrides_nil]
  cases (parser.map trim).filter (· != "") <;> cases utilization <;>
    cases isEmpty : generation.isEmpty <;>
    simp [configOverrides_nil, isEmpty, flagsOf, controlledFlags, setVllmGpuMemoryUtilization, emptyHint]
  all_goals cases hint <;> rfl

theorem applyOverrides_lemonade (isLemonade : eqIgnoreAsciiCase engine "lemonade" = true)
    (hint : Option EngineRecipeHint) (overrides : Overrides Number) :
    exists after, applyOverrides numbers text engine hint overrides = .ok after ∧
      flagsOf after = appliedFlags text (overrides.toLemonade numbers) (flagsOf hint) ∧
      (overrides.toLemonade numbers = ⟨none, [], []⟩ -> after = hint) := by
  have other : eqIgnoreAsciiCase engine "vllm" = false := by
    rw [Bool.eq_false_iff, ne_eq, eqIgnoreAsciiCase_iff]
    rw [eqIgnoreAsciiCase_iff] at isLemonade
    intro same
    exact absurd (same.symm.trans isLemonade) (by decide)
  rcases overrides with ⟨parser, utilization, temperature, topP, maxTokens⟩
  unfold applyOverrides engineRecipeWithGenerationDefaults appliedFlags
    engineRecipeWithToolCallOverride engineRecipeWithGpuMemoryUtilizationOverride
  simp only [other, isLemonade, Bool.not_false, Bool.false_eq_true, if_false, if_true,
    Overrides.toLemonade]
  cases temperature <;> cases topP <;> cases maxTokens <;>
    simp [ServeGenerationDefaults.isEmpty, flagsOf, controlledFlags, setLemonadeGenerationDefaults,
      emptyHint]
  all_goals cases hint <;> rfl

theorem parser_valued : vllm.Valued toolCallParser := ⟨by decide, by decide, by decide⟩

theorem valued_utilization : vllm.Valued gpuMemoryUtilization :=
  ⟨by decide, by decide, by decide⟩

theorem valued_config : vllm.Valued overrideGenerationConfig :=
  ⟨by decide, by decide, by decide⟩

theorem fits_choice : vllm.Fits ⟨enableAutoToolChoice, .bare⟩ :=
  ⟨by decide, fun _ => by decide, by decide⟩

theorem toVllm_fits (lawful : numbers.Lawful) (overrides : Overrides Number) :
    (overrides.toVllm numbers).Fits vllm where
  parser _ := ⟨parser_valued, fits_choice⟩
  controls control listed := by
    have apart : gpuMemoryUtilization ≠ toolCallParser ∧
        gpuMemoryUtilization ≠ enableAutoToolChoice ∧
          gpuMemoryUtilization ≠ overrideGenerationConfig := by decide
    rcases List.mem_map.mp listed with ⟨number, _, rfl⟩
    exact ⟨valued_utilization, lawful number, apart⟩
  apart := by
    unfold Overrides.toVllm
    cases overrides.utilization <;> simp
  config _ := valued_config
  keys := configOverrides_keys _

theorem isOption_toString (number : Nat) : isOption (toString number) = false := by
  unfold isOption
  split
  · next next rest isText =>
      have listed : '-' ∈ Nat.toDigits 10 number := by
        have first : '-' ∈ (toString number).toList := isText ▸ List.mem_cons_self
        simpa using first
      exact absurd listed (not_mem_toDigits (by decide) number)
  · rfl

theorem toLemonade_fits (lawful : numbers.Lawful) (overrides : Overrides Number) :
    (overrides.toLemonade numbers).Fits lemonade where
  parser given := absurd rfl given
  controls control listed := by
    have valued : lemonade.Valued "--temperature" ∧ lemonade.Valued "--top-p" ∧
        lemonade.Valued "--n-predict" :=
      ⟨⟨by decide, by decide, by decide⟩,
        ⟨by decide, by decide, by decide⟩,
        ⟨by decide, by decide, by decide⟩⟩
    have apart : forall name, name ∈ ["--temperature", "--top-p", "--n-predict"] ->
        name ≠ toolCallParser ∧ name ≠ enableAutoToolChoice ∧ name ≠ overrideGenerationConfig := by
      decide
    unfold Overrides.toLemonade at listed
    simp only [List.mem_append, List.mem_map] at listed
    rcases listed with (⟨number, _, rfl⟩ | ⟨number, _, rfl⟩) | ⟨number, _, rfl⟩
    · exact ⟨valued.1, lawful number, apart _ (by simp)⟩
    · exact ⟨valued.2.1, lawful number, apart _ (by simp)⟩
    · exact ⟨valued.2.2, isOption_toString number, apart _ (by simp)⟩
  apart := by
    rcases overrides with ⟨parser, utilization, temperature, topP, maxTokens⟩
    cases temperature <;> cases topP <;> cases maxTokens <;> simp [Overrides.toLemonade]
  config given := absurd rfl given
  keys := List.nodup_nil

/-! ## Exact overrides -/

include fits in
theorem applied_right (lawful : text.Lawful)
    (itemsFit : forall item, item ∈ items -> grammar.Fits item) (right : Right text given items) :
    Applied text given items (appliedItems text given items) where
  parser parser isParser := ⟨parser_applied fits isParser,
    mem_choice_applied fits itemsFit isParser (right.parser parser isParser)⟩
  controls _ listed := applied_control fits listed
  others _ notGiven := applied_others notGiven
  config key := by
    by_cases asked : given.config = []
    · have notGiven : ¬ given.Names overrideGenerationConfig := by
        rintro (⟨_, same | same⟩ | listed | ⟨given_, _⟩)
        · exact absurd same (by decide)
        · exact absurd same (by decide)
        · rcases List.mem_map.mp listed with ⟨control, isControl, same⟩
          exact (fits.controls control isControl).2.2.2.2 same
        · exact given_ asked
      rw [configOf, applied_others notGiven, asked]
      rfl
    · rw [config_applied fits lawful asked]
      cases found : given.config.lookup key with
      | some value => rfl
      | none => exact right.config asked key found

include fits in
theorem applied_again (lawful : text.Lawful)
    (itemsFit : forall item, item ∈ items -> grammar.Fits item) (right : Right text given items) :
    Right text given (appliedItems text given items) ∧
      SameEffect text (appliedItems text given items)
        (appliedItems text given (appliedItems text given items)) := by
  have firstFit := (appliedFlags_tokens fits lawful itemsFit right.parser).2
  have again : Right text given (appliedItems text given items) :=
    ⟨right.parser, fun asked key _ => merged_applied lawful asked key⟩
  have second := applied_right fits lawful firstFit again
  refine ⟨again, fun name other => ?_, fun key => ?_⟩
  · by_cases isGiven : given.Names name
    · rcases isGiven with ⟨present, same | same⟩ | listed | ⟨_, same⟩
      · rcases Option.ne_none_iff_exists'.mp present with ⟨parser, isParser⟩
        rw [same, parser_applied fits isParser, parser_applied fits isParser]
      · rcases Option.ne_none_iff_exists'.mp present with ⟨parser, isParser⟩
        rw [same]
        exact applied_choice fits firstFit
          (mem_choice_applied fits itemsFit isParser (right.parser parser isParser))
      · rcases List.mem_map.mp listed with ⟨control, isControl, rfl⟩
        rw [applied_control fits isControl, applied_control fits isControl]
      · exact absurd same other
    · exact applied_others isGiven
  · rw [second.config, (applied_right fits lawful itemsFit right).config]
    cases given.config.lookup key <;> simp

include fits in
theorem exact_of_right (lawful : text.Lawful)
    (steps : forall hint, exists after, applyOverrides numbers text engine hint overrides = .ok after ∧
      flagsOf after = appliedFlags text given (flagsOf hint) ∧
      (given = ⟨none, [], []⟩ -> after = hint))
    (read : grammar.read (flagsOf hint) = some items) (right : Right text given items) :
    Exact numbers text grammar given engine hint overrides := by
  rcases read_fits read with ⟨tokens, itemsFit⟩
  rcases steps hint with ⟨after, isAfter, flags, unchanged⟩
  rcases steps after with ⟨again, isAgain, flagsAgain, _⟩
  rcases applied_again fits lawful itemsFit right with ⟨rightAgain, same⟩
  rcases appliedFlags_tokens fits lawful itemsFit right.parser with ⟨firstTokens, firstFit⟩
  rcases appliedFlags_tokens fits lawful firstFit right.parser with ⟨secondTokens, secondFit⟩
  have first := read_tokens firstFit
  rw [← firstTokens, tokens, ← flags] at first
  have second := read_tokens secondFit
  rw [← secondTokens, ← firstTokens, tokens, ← flags, ← flagsAgain] at second
  exact ⟨items, after, again, _, _, read, isAfter, isAgain, first, second,
    applied_right fits lawful itemsFit right, same, unchanged⟩

/-! ## A parser that is an option -/

theorem parser_stuck (itemsFit : forall item, item ∈ items -> vllm.Fits item) {next : String}
    (option : isOption next = true) (rest : List String) :
    vllm.read (items.flatMap Item.tokens ++ toolCallParser :: next :: rest) = none :=
  read_stuck parser_valued itemsFit fun _ isNext => Option.some.inj isNext ▸ option

theorem parser_taken (itemsFit : forall item, item ∈ items -> vllm.Fits item)
    {value written : String} (plain : isOption value = false) (plainWritten : isOption written = false)
    {after : List Item} (read : vllm.read (items.flatMap Item.tokens ++
      toolCallParser :: ([value] ++ [overrideGenerationConfig, written])) = some after) :
    valueOf toolCallParser after = some (some value) := by
  have same := read_tokens
    (fits_concat valued_config plainWritten (fits_concat parser_valued plain itemsFit))
  rw [List.flatMap_append, List.flatMap_append, List.append_assoc] at same
  rw [← Option.some.inj (same.symm.trans read), valueOf_append_other (by
    simp [toolCallParser, overrideGenerationConfig])]
  exact valueOf_append_self ..

/-- Such a parser is not read as the value of its option. -/
theorem parser_spoiled (lawful : text.Lawful)
    (itemsFit : forall item, item ∈ items -> vllm.Fits item) {parser : String}
    (isParser : given.parser = some parser) (option : isOption parser = true)
    (controls : given.controls = [] ∨ exists value, isOption value = false ∧
      given.controls = [(gpuMemoryUtilization, value)]) {after : List Item}
    (read : vllm.read (appliedFlags text given (items.flatMap Item.tokens)) = some after) :
    valueOf toolCallParser after ≠ some (some parser) := by
  have apart : toolCallParser ≠ gpuMemoryUtilization ∧ toolCallParser ≠ overrideGenerationConfig ∧
    gpuMemoryUtilization ≠ overrideGenerationConfig := by decide
  -- Before the config's step the parser's option has another option behind it.
  have stepped : exists (kept : List Item) (tail : List String), (forall item, item ∈ kept -> vllm.Fits item) ∧
      controlledFlags given.controls (setVllmToolCallParser (items.flatMap Item.tokens) parser) =
        kept.flatMap Item.tokens ++ toolCallParser :: tail ∧
      (tail = [parser] ∨ exists value, isOption value = false ∧
        (tail = [gpuMemoryUtilization, value] ∨ tail = [parser, gpuMemoryUtilization, value])) := by
    have enabledFit := enabled_fits itemsFit fits_choice
    rw [setVllmToolCallParser_tokens itemsFit parser_valued]
    rcases controls with none_ | ⟨value, plain, one⟩
    · rw [none_]
      exact ⟨enabled items, [parser], enabledFit, rfl, .inl rfl⟩
    · rw [one, controlledFlags, List.foldl_cons, List.foldl_nil,
        (dropOption_append valued_utilization enabledFit _).1, dropOption_keep apart.1]
      refine ⟨_, _, fun item listed => enabledFit item (List.mem_of_mem_filter listed),
        List.append_assoc .., .inr ⟨value, plain, ?_⟩⟩
      by_cases same : parser = gpuMemoryUtilization
      · exact .inl (by simp [dropOption, same])
      · exact .inr (by simp [dropOption, same])
  rcases stepped with ⟨kept, tail, keptFit, isStepped, shape⟩
  rw [appliedFlags, isParser] at read
  dsimp only at read
  rw [isStepped] at read
  split at read
  · rcases shape with rfl | ⟨value, _, rfl | rfl⟩
    · cases (parser_stuck keptFit option _).symm.trans read
    · cases (parser_stuck keptFit valued_utilization.option _).symm.trans read
    · cases (parser_stuck keptFit option _).symm.trans read
  · unfold setVllmOverrideGenerationConfig at read
    dsimp only at read
    rw [(dropOption_append valued_config keptFit _).1, dropOption_keep apart.2.1,
      List.append_assoc, List.cons_append] at read
    have lessFit : forall item, item ∈ kept.filter (fun item =>
        !item.isSeparate overrideGenerationConfig) -> vllm.Fits item :=
      fun item listed => keptFit item (List.mem_of_mem_filter listed)
    rcases shape with rfl | ⟨value, plain, rfl | rfl⟩
    · by_cases same : parser = overrideGenerationConfig
      · rw [dropOption, if_pos same] at read
        cases (parser_stuck lessFit valued_config.option _).symm.trans read
      · rw [dropOption, if_neg same] at read
        cases (parser_stuck lessFit option _).symm.trans read
    · rw [dropOption_keep apart.2.2] at read
      cases (parser_stuck lessFit valued_utilization.option _).symm.trans read
    · by_cases same : parser = overrideGenerationConfig
      · -- The memory fraction becomes the parser.
        have other : value ≠ overrideGenerationConfig := by
          rintro rfl
          cases valued_config.option.symm.trans plain
        rw [dropOption, if_pos same, dropOption, if_neg other] at read
        have taken := parser_taken lessFit plain (lawful.plain _) read
        rw [taken]
        intro isValue
        rw [Option.some.inj (Option.some.inj isValue), option] at plain
        cases plain
      · rw [dropOption_keep same] at read
        cases (parser_stuck lessFit option _).symm.trans read

/-! ## When the overrides are exact -/

theorem right_of_exact (numbersLawful : numbers.Lawful) (lawful : text.Lawful)
    (isVllm : eqIgnoreAsciiCase engine "vllm" = true) (read : vllm.read (flagsOf hint) = some items)
    (exact_ : Exact numbers text vllm (overrides.toVllm numbers) engine hint overrides) :
    Right text (overrides.toVllm numbers) items := by
  rcases exact_ with ⟨before, after, _, first, _, readBefore, isAfter, _, readAfter, _, applied, _, _⟩
  rcases Option.some.inj (read.symm.trans readBefore) with rfl
  rcases read_fits read with ⟨tokens, itemsFit⟩
  rcases @applyOverrides_vllm _ _ numbers text _ isVllm hint overrides with
    ⟨same, isSame, flags, _⟩
  rcases Except.ok.inj (isAfter.symm.trans isSame) with rfl
  rw [flags, ← tokens] at readAfter
  have controls : (overrides.toVllm numbers).controls = [] ∨ exists value, isOption value = false ∧
      (overrides.toVllm numbers).controls = [(gpuMemoryUtilization, value)] := by
    unfold Overrides.toVllm
    cases overrides.utilization with
    | none => exact .inl rfl
    | some number => exact .inr ⟨_, numbersLawful number, rfl⟩
  have plain : forall parser, (overrides.toVllm numbers).parser = some parser ->
      isOption parser = false := by
    intro parser isParser
    by_contra isAnOption
    rw [Bool.not_eq_false] at isAnOption
    exact parser_spoiled lawful itemsFit isParser isAnOption controls readAfter
      (applied.parser parser isParser).1
  have fits := toVllm_fits numbersLawful overrides
  rcases appliedFlags_tokens fits lawful itemsFit plain with ⟨sameTokens, fit⟩
  rw [sameTokens, read_tokens fit] at readAfter
  rcases Option.some.inj readAfter with rfl
  refine ⟨plain, fun asked key missing => ?_⟩
  have kept := applied.config key
  rw [config_applied fits lawful asked, missing] at kept
  exact kept

/-- The overrides of a serve are exact on vLLM just when the parser is no option and
the configs that are merged agree with the one in force; on llama.cpp they always are. -/
theorem applyOverrides_exact_iff (numbersLawful : numbers.Lawful) (lawful : text.Lawful)
    (engine : String) (hint : Option EngineRecipeHint) (overrides : Overrides Number)
    (items : List Item) :
    (eqIgnoreAsciiCase engine "vllm" = true -> vllm.read (flagsOf hint) = some items ->
      (Exact numbers text vllm (overrides.toVllm numbers) engine hint overrides ↔
        Right text (overrides.toVllm numbers) items)) ∧
    (eqIgnoreAsciiCase engine "lemonade" = true -> lemonade.read (flagsOf hint) = some items ->
      Exact numbers text lemonade (overrides.toLemonade numbers) engine hint overrides) := by
  refine ⟨fun isVllm read => ⟨right_of_exact numbersLawful lawful isVllm read, fun right => ?_⟩,
    fun isLemonade read => ?_⟩
  · exact exact_of_right (toVllm_fits numbersLawful overrides) lawful
      (fun hint => applyOverrides_vllm isVllm hint overrides) read right
  · refine exact_of_right (toLemonade_fits numbersLawful overrides) lawful
      (fun hint => applyOverrides_lemonade isLemonade hint overrides) read
      ⟨fun parser isParser => (nomatch isParser), fun asked => absurd rfl asked⟩

/-! ## A recipe with a sampling key -/

/-- Numbers as the command line writes them. -/
def writtenNumbers : Numbers { value : String // isOption value = false } Nat :=
  ⟨Subtype.val, fun _ => 0, id⟩

def recipeConfig : List (String × Nat) := [("top_k", 20)]

def recipeText : String := "\x7b\"top_k\":20\x7d"

def mergedConfig : List (String × Nat) := [("top_k", 20), ("max_new_tokens", 64)]

def mergedText : String := "\x7b\"max_new_tokens\":64,\"top_k\":20\x7d"

/-- Objects of counts: the two above as JSON, the others as so many blanks. -/
def countText : JsonText Nat where
  parse value :=
    if value = recipeText then some recipeConfig
    else if value = mergedText then some mergedConfig
    else (@Encodable.decode (List (List Nat × Nat)) _ (value.toList.length - 1)).map
      (List.map fun entry => (String.ofList (entry.1.map Char.ofNat), entry.2))
  print entries :=
    if entries = mergedConfig then mergedText
    else String.ofList ('\x7b' :: List.replicate
      (Encodable.encode (entries.map fun entry => (entry.1.toList.map Char.toNat, entry.2))) ' ')

theorem writtenNumbers_lawful : writtenNumbers.Lawful := Subtype.property

theorem countText_lawful : countText.Lawful where
  prints entries nodup := by
    refine ⟨entries, ?_, nodup, fun _ => rfl⟩
    by_cases same : entries = mergedConfig
    · rw [same]
      decide
    · have blanks : forall count, '"' ∉ ('\x7b' :: List.replicate count ' ') := by
        intro count listed
        simp [List.mem_replicate] at listed
      have apart : forall count text, '"' ∈ text.toList ->
          String.ofList ('\x7b' :: List.replicate count ' ') ≠ text := by
        rintro count _ listed rfl
        rw [String.toList_ofList] at listed
        exact blanks count listed
      dsimp only [countText]
      rw [if_neg same, if_neg (apart _ recipeText (by decide)),
        if_neg (apart _ mergedText (by decide))]
      simp [Function.comp_def]
  plain entries := by
    dsimp only [countText]
    split
    · decide
    · simp [isOption]

theorem applyOverrides_exact_recipe :
    Exact writtenNumbers countText vllm
      (Overrides.toVllm writtenNumbers ⟨some "hermes", some ⟨"0.5", by decide⟩, ⟨none, none, some 64⟩⟩)
      "vllm" (some ⟨"0.1.0", "vllm", ["--max-model-len", "8192", "--override-generation-config",
        recipeText]⟩)
      ⟨some "hermes", some ⟨"0.5", by decide⟩, ⟨none, none, some 64⟩⟩ :=
  ((applyOverrides_exact_iff writtenNumbers_lawful countText_lawful "vllm" _ _
    [⟨"--max-model-len", .separate "8192"⟩, ⟨overrideGenerationConfig, .separate recipeText⟩]).1
      (by decide) (by decide)).mpr
    ⟨fun parser isParser => by
      have same : some "hermes" = some parser := isParser
      exact Option.some.inj same ▸ by decide,
    fun _ key _ => congrArg (List.lookup key) (by decide)⟩

/-- The sampling key of a recipe that writes it behind an equals sign is lost. -/
theorem inline_config_lost : writtenNumbers.Lawful ∧ countText.Lawful ∧
    vllm.read ["--override-generation-config=" ++ recipeText] =
      some [⟨overrideGenerationConfig, .inline recipeText⟩] ∧
    ¬ Exact writtenNumbers countText vllm
      (Overrides.toVllm writtenNumbers ⟨none, none, ⟨none, none, some 64⟩⟩) "vllm"
      (some ⟨"0.1.0", "vllm", ["--override-generation-config=" ++ recipeText]⟩)
      ⟨none, none, ⟨none, none, some 64⟩⟩ := by
  have read : vllm.read ["--override-generation-config=" ++ recipeText] =
      some [⟨overrideGenerationConfig, .inline recipeText⟩] := by decide
  refine ⟨writtenNumbers_lawful, countText_lawful, read, fun exact_ => ?_⟩
  have readHint : vllm.read (flagsOf (some ⟨"0.1.0", "vllm",
      ["--override-generation-config=" ++ recipeText]⟩)) =
        some [⟨overrideGenerationConfig, .inline recipeText⟩] := read
  have right := right_of_exact writtenNumbers_lawful countText_lawful (by decide) readHint exact_
  exact absurd (right.config (by decide) "top_k" (by decide)) (by decide)

end Serve
end RocmCli
