import RocmCli.Aim.Container

namespace RocmCli
namespace Aim

open EnvFile Text RecipeIndex

/-!
# The decided environment

A container gets the variables that were decided unless the reader of the env
file takes one of its lines for another: a name behind white space or a `#`, a
byte order mark before the first name, or a value that ends in a carriage return.
-/

/-! ## Maps -/

namespace EnvMap

variable {env : EnvMap} {name value : String}

theorem unique (env : EnvMap) {first second : String × String} (isFirst : first ∈ env.entries)
    (isSecond : second ∈ env.entries) (same : first.1 = second.1) : first = second := by
  have once : (env.entries.map Prod.fst).Nodup := List.pairwise_map.mpr (env.sorted.imp ne_of_lt)
  exact List.inj_on_of_nodup_map once isFirst isSecond same

theorem get_eq_some : env.get name = some value ↔ (name, value) ∈ env.entries := by
  unfold get
  rw [Option.map_eq_some_iff]
  constructor
  · rintro ⟨entry, found, rfl⟩
    have tested := List.find?_some found
    have isName : entry.1 = name := beq_iff_eq.mp tested
    exact isName ▸ List.mem_of_find?_eq_some found
  · intro listed
    cases found : env.entries.find? fun entry => entry.1 == name with
    | none =>
        exact absurd (beq_self_eq_true name) (List.find?_eq_none.mp found _ listed)
    | some entry =>
        have tested := List.find?_some found
        have isName : entry.1 = name := beq_iff_eq.mp tested
        exact ⟨entry, rfl, by rw [env.unique (List.mem_of_find?_eq_some found) listed isName]⟩

theorem get_insert (env : EnvMap) (name value other : String) :
    (env.insert name value).get other = if other = name then some value else env.get other := by
  have listed : forall found, (other, found) ∈ (env.insert name value).entries ↔
      (other, found) = (name, value) ∨ (other, found) ∈ env.entries ∧ other ≠ name :=
    fun found => mem_insertEntry env.sorted
  split
  · next same => exact get_eq_some.mpr ((listed value).mpr (.inl (by rw [same])))
  · next apart =>
      refine Option.ext fun found => ?_
      rw [get_eq_some, listed, get_eq_some]
      refine ⟨fun either => ?_, fun found => .inr ⟨found, apart⟩⟩
      exact (either.resolve_left fun same => apart (Prod.mk.inj same).1).1

/-- A name that is to be taken over can stand on docker's command line. -/
def Named (env : EnvMap) : Prop :=
  forall name, env.get name = some "" -> '=' ∉ name.toList

theorem Named.insert (named : env.Named) (fits : value = "" -> '=' ∉ name.toList) :
    (env.insert name value).Named := by
  intro other isEmpty
  rw [get_insert] at isEmpty
  split at isEmpty
  · next same => exact same ▸ fits (Option.some.inj isEmpty)
  · exact named other isEmpty

end EnvMap

/-! ## What the validators let through -/

theorem checkAll_ok {Item : Type} {check : Item -> Except ErrorChain Unit} {items : List Item}
    (passed : checkAll check items = .ok ()) : forall item, item ∈ items -> check item = .ok () := by
  induction items with
  | nil => exact nofun
  | cons item rest ih =>
      rcases bind_ok.mp passed with ⟨_, first, others⟩
      exact List.forall_mem_cons.mpr ⟨first, ih others⟩

theorem protocolEngineRecipeHint_named {engineRecipe : ModelRecipeEngineRecord}
    {canonicalModelId : String}
    (accepted : validateModelRecipeEngineRecord engineRecipe canonicalModelId = .ok ()) :
    (protocolEngineRecipeHint engineRecipe).extraEnv.Named := by
  rcases bind_ok.mp accepted with ⟨_, _, accepted⟩
  rcases bind_ok.mp accepted with ⟨_, _, accepted⟩
  rcases bind_ok.mp accepted with ⟨_, _, accepted⟩
  rcases bind_ok.mp accepted with ⟨_, entries, _⟩
  have nonempty : forall entry, entry ∈ engineRecipe.extraEnv -> entry.2 ≠ "" := by
    intro entry listed isEmpty
    rcases bind_ok.mp (checkAll_ok entries entry listed) with ⟨_, _, value⟩
    rw [isEmpty] at value
    exact nomatch value
  have folded : forall (entries : List (String × String)) (env : EnvMap),
      (forall entry, entry ∈ entries -> entry.2 ≠ "") -> env.Named ->
      (entries.foldl (fun env entry => env.insert entry.1 entry.2) env).Named := by
    intro entries
    induction entries with
    | nil => exact fun _ _ named => named
    | cons entry rest ih =>
        intro env nonempty named
        refine ih _ (fun other listed => nonempty other (.tail _ listed)) (named.insert ?_)
        exact fun isEmpty => absurd isEmpty (nonempty entry List.mem_cons_self)
  exact folded _ _ nonempty nofun

theorem refuse_ok_iff {wrong : Bool} {message : String} :
    refuse wrong message = .ok () ↔ wrong = false := by
  unfold refuse
  cases wrong <;> simp

theorem readEngineEnv_name {entry key value : String}
    (read : readEngineEnv entry = .ok (key, value)) : '=' ∉ key.toList := by
  unfold readEngineEnv at read
  generalize (splitOnce entry).getD (entry, "") = parts at read
  rcases parts with ⟨key', value'⟩
  rcases bind_ok.mp read with ⟨_, _, read⟩
  rcases bind_ok.mp read with ⟨_, isName, read⟩
  rcases bind_ok.mp read with ⟨_, _, read⟩
  rcases bind_ok.mp read with ⟨_, _, read⟩
  cases read
  have characters : key.toList.all isNameCharacter = true := by
    have passed := refuse_ok_iff.mp isName
    rw [Bool.or_eq_false_iff, Bool.not_eq_false'] at passed
    exact passed.2
  exact fun listed => absurd (List.all_eq_true.mp characters _ listed) (by decide)

theorem addEngineEnv_named {engineEnv : List String} {before after : EnvMap}
    (added : addEngineEnv before engineEnv = .ok after) (named : before.Named) : after.Named := by
  induction engineEnv generalizing before with
  | nil =>
      cases added
      exact named
  | cons entry rest ih =>
      rcases bind_ok.mp added with ⟨⟨key, value⟩, read, later⟩
      exact ih later (named.insert fun _ => readEngineEnv_name read)

/-- A name is taken over only where the command line asks for it. -/
theorem engineRecipeWithExtraEnv_named {engine : String} {engineEnv : List String}
    {recipe : Option ModelRecipeEngineRecord} {canonicalModelId : String}
    (accepted : forall engineRecipe, engineRecipe ∈ recipe ->
      validateModelRecipeEngineRecord engineRecipe canonicalModelId = .ok ())
    {hint : Option EngineRecipeHint}
    (given : engineRecipeWithExtraEnv engine (recipe.map protocolEngineRecipeHint) engineEnv =
      .ok hint) : ((hint.map EngineRecipeHint.extraEnv).getD .empty).Named := by
  have emptyNamed : EnvMap.empty.Named := nofun
  have authored : forall engineRecipe, recipe = some engineRecipe ->
      (protocolEngineRecipeHint engineRecipe).extraEnv.Named :=
    fun engineRecipe isRecipe => protocolEngineRecipeHint_named (accepted engineRecipe isRecipe)
  unfold engineRecipeWithExtraEnv at given
  split at given
  · cases given
    cases recipe with
    | none => exact emptyNamed
    | some engineRecipe => exact authored engineRecipe rfl
  · rcases bind_ok.mp given with ⟨extraEnv, added, given⟩
    cases given
    refine addEngineEnv_named added ?_
    cases recipe with
    | none => exact emptyNamed
    | some engineRecipe => exact authored engineRecipe rfl

theorem endpointApiKeyFromFile_nonempty {contents : Option String} {apiKey : String}
    (read : endpointApiKeyFromFile contents = some apiKey) : apiKey ≠ "" := by
  rcases Option.bind_eq_some_iff.mp read with ⟨text, _, read⟩
  dsimp only at read
  split at read
  · cases read
  · next sound =>
      cases read
      rw [Bool.or_eq_true, not_or] at sound
      exact fun isEmpty => sound.1 (beq_iff_eq.mpr isEmpty)

/-! ## The command line -/

/-- Docker takes the variables and the env file of the line as stated, when it takes
the line. -/
def Reads (arguments flags : List String) (envFile : Option String) : Prop :=
  forall line, readRunLine arguments = some line -> line.flags = flags ∧ line.envFile = envFile

theorem reads_image (image : String) : Reads [image] [] none := by
  intro line read
  unfold readRunLine at read
  split at read
  · cases read
  · cases read
    exact ⟨rfl, rfl⟩

variable {option : String}

theorem readRunLine_value (isOption : option.toList.head? = some '-')
    (takes : takesValue option = true) (value : String) (rest : List String) :
    readRunLine (option :: value :: rest) =
      (readRunLine rest).map fun line => line.withOption option value := by
  rw [readRunLine, if_pos isOption, if_pos takes]

section Options

variable {rest flags : List String} {envFile : Option String} (reads : Reads rest flags envFile)
include reads

theorem Reads.flag (value : String) : Reads ("-e" :: value :: rest) (value :: flags) envFile := by
  intro line read
  rw [readRunLine_value (by decide) (by decide)] at read
  rcases Option.map_eq_some_iff.mp read with ⟨behind, readRest, rfl⟩
  rcases reads behind readRest with ⟨rfl, rfl⟩
  exact ⟨rfl, rfl⟩

theorem Reads.flagged (values : List String) :
    Reads ((values.flatMap fun value => ["-e", value]) ++ rest) (values ++ flags) envFile := by
  induction values with
  | nil => exact reads
  | cons value values ih => exact ih.flag value

theorem Reads.file (path : String) : Reads ("--env-file" :: path :: rest) flags (some path) := by
  intro line read
  rw [readRunLine_value (by decide) (by decide)] at read
  rcases Option.map_eq_some_iff.mp read with ⟨behind, readRest, rfl⟩
  rcases reads behind readRest with ⟨rfl, rfl⟩
  exact ⟨rfl, rfl⟩

theorem Reads.passed (isOption : option.toList.head? = some '-') (takes : takesValue option = true)
    (noFlag : option ≠ "-e") (noFile : option ≠ "--env-file") (value : String) :
    Reads (option :: value :: rest) flags envFile := by
  intro line read
  rw [readRunLine_value isOption takes] at read
  rcases Option.map_eq_some_iff.mp read with ⟨behind, readRest, rfl⟩
  unfold RunLine.withOption
  rw [if_neg noFlag, if_neg noFile]
  exact reads behind readRest

theorem Reads.switch (isOption : option.toList.head? = some '-')
    (alone : takesValue option = false) : Reads (option :: rest) flags envFile := by
  intro line read
  cases rest with
  | nil =>
      rw [readRunLine, if_pos isOption] at read
      cases read
  | cons value rest =>
      rw [readRunLine, if_pos isOption, alone, if_neg Bool.false_ne_true] at read
      exact reads line read

theorem Reads.devices (wsl : Bool) (renderGid : Option Nat) :
    Reads (gpuDeviceArgs wsl renderGid ++ rest) flags envFile := by
  unfold gpuDeviceArgs
  refine Reads.switch ?_ (by decide) (by decide)
  cases wsl with
  | true =>
      exact ((reads.passed (by decide) (by decide) (by decide) (by decide) _).switch
        (by decide) (by decide))
  | false =>
      cases renderGid with
      | none => exact (reads.switch (by decide) (by decide)).switch (by decide) (by decide)
      | some gid =>
          exact ((reads.passed (by decide) (by decide) (by decide) (by decide) _).switch
            (by decide) (by decide)).switch (by decide) (by decide)

end Options

/-- The GPUs that the container is held to. -/
def visibleDevices (spec : RunSpec) : Option String :=
  if spec.useGpu then gpuIndicesToCsv spec.gpuIndices else none

def gpuFlags (spec : RunSpec) : List String :=
  (visibleDevices spec).toList.map fun csv => "HIP_VISIBLE_DEVICES=" ++ csv

theorem reads_runArgs (spec : RunSpec) (wsl : Bool) (envFile : Option String) (names : List String) :
    exists arguments, runArgs spec wsl envFile names = "run" :: arguments ∧
      Reads arguments (gpuFlags spec ++ names) envFile := by
  have image := (reads_image spec.image).flagged names
  rw [List.append_nil] at image
  have withFile {options : List String}
      (given : options = envFile.elim [] fun path => ["--env-file", path]) :
      Reads (options ++ ((names.flatMap fun key => ["-e", key]) ++ [spec.image])) names envFile := by
    subst given
    cases envFile with
    | none => exact image
    | some path => exact image.file path
  unfold runArgs
  simp only [List.append_assoc, List.cons_append, List.nil_append]
  refine ⟨_, rfl, ?_⟩
  refine Reads.switch (Reads.passed (Reads.passed ?_ ?_ ?_ ?_ ?_ _) ?_ ?_ ?_ ?_ _) ?_ ?_
  · unfold gpuArgs gpuFlags visibleDevices
    cases spec.useGpu with
    | false => exact withFile (by cases envFile <;> rfl)
    | true =>
        rw [if_pos rfl, if_pos rfl, List.append_assoc]
        cases gpuIndicesToCsv spec.gpuIndices with
        | none => exact (withFile (by cases envFile <;> rfl)).devices wsl spec.renderGid
        | some csv => exact ((withFile (by cases envFile <;> rfl)).devices wsl spec.renderGid).flag _
  all_goals decide

/-! ## What docker is given -/

theorem writeEnvFile_ok {entries : List (String × String)} {text : List Char}
    (written : writeEnvFile entries = .ok text) :
    text = (entries.flatMap fun entry => writeEntry entry ++ ['\n']) ∧
      forall entry, entry ∈ entries -> IsLine entry := by
  induction entries generalizing text with
  | nil =>
      cases written
      exact ⟨rfl, nofun⟩
  | cons entry rest ih =>
      rcases bind_ok.mp written with ⟨_, plain, written⟩
      rcases bind_ok.mp written with ⟨behind, others, written⟩
      cases written
      rcases ih others with ⟨rfl, lines⟩
      have passed := refuse_ok_iff.mp plain
      simp only [Bool.or_eq_false_iff, List.contains_eq_mem, decide_eq_false_iff_not] at passed
      exact ⟨rfl, List.forall_mem_cons.mpr ⟨⟨passed.1.1, passed.1.2, passed.2⟩, lines⟩⟩

variable {isBlank : Char -> Bool} {client : Environment}

/-- A container that starts has the settings of the file, then those of the flags. -/
theorem run_started (equals : isBlank '=' = false) {path detail : String} {wsl : Bool}
    {spec : RunSpec} {environment : Environment}
    (started : run isBlank client path detail wsl spec = .ok environment) :
    exists fromFile,
      collectAll (readEntry isBlank) (unmarked (fileEntries spec.env)) = some fromFile ∧
      environment = settle client (fromFile ++
        (gpuFlags spec ++ forwarded spec.env).map fun flag => readSetting flag.toList) := by
  unfold run at started
  split at started
  · cases started
  · rcases bind_ok.mp started with ⟨text, written, started⟩
    rcases writeEnvFile_ok written with ⟨isText, lines⟩
    dsimp only at started
    split at started
    · next environment' accepted =>
        cases started
        rcases reads_runArgs spec wsl
          (if (fileEntries spec.env).isEmpty then none else some path) (forwarded spec.env)
          with ⟨arguments, isRun, reads⟩
        rw [isRun] at accepted
        rcases Option.bind_eq_some_iff.mp accepted with ⟨line, isLine, accepted⟩
        rcases reads line isLine with ⟨flags, envFile⟩
        rcases Option.bind_eq_some_iff.mp accepted with ⟨fromFile, isFile, accepted⟩
        cases accepted
        refine ⟨fromFile, ?_, by rw [flags]⟩
        rw [envFile] at isFile
        cases entries : fileEntries spec.env with
        | nil =>
            rw [entries] at isFile
            exact isFile
        | cons first rest =>
            rw [entries] at isFile isText lines
            rw [← readFile_entries equals lines, ← isText]
            exact (if_pos rfl).symm.trans isFile
    · cases started

theorem mem_fileEntries {env : EnvMap} {entry : String × String} :
    entry ∈ fileEntries env ↔ env.get entry.1 = some entry.2 ∧ entry.2 ≠ "" := by
  rw [EnvMap.get_eq_some]
  exact List.mem_filter.trans (and_congr_right' bne_iff_ne)

theorem mem_forwarded {env : EnvMap} {name : String} :
    name ∈ forwarded env ↔ env.get name = some "" := by
  rw [EnvMap.get_eq_some]
  unfold forwarded
  rw [List.mem_map]
  constructor
  · rintro ⟨entry, listed, rfl⟩
    rcases List.mem_filter.mp listed with ⟨listed, isEmpty⟩
    exact (beq_iff_eq.mp isEmpty) ▸ listed
  · exact fun listed => ⟨_, List.mem_filter.mpr ⟨listed, rfl⟩, rfl⟩

theorem flags_eq {spec : RunSpec} (named : spec.env.Named) :
    ((gpuFlags spec ++ forwarded spec.env).map fun flag => readSetting flag.toList) =
      ((visibleDevices spec).toList.map fun csv => ⟨"HIP_VISIBLE_DEVICES", some csv⟩) ++
        (forwarded spec.env).map fun name => ⟨name, none⟩ := by
  have devices : forall csv : String, readSetting ("HIP_VISIBLE_DEVICES=" ++ csv).toList =
      ⟨"HIP_VISIBLE_DEVICES", some csv⟩ := by
    intro csv
    have cut : "HIP_VISIBLE_DEVICES=".toList = "HIP_VISIBLE_DEVICES".toList ++ ['='] := by
      decide
    have read := @readSetting_cut "HIP_VISIBLE_DEVICES".toList (by decide) csv.toList
    rw [String.toList_append, cut, List.append_assoc]
    rwa [String.ofList_toList, String.ofList_toList] at read
  have taken : forall name, name ∈ forwarded spec.env ->
      readSetting name.toList = ⟨name, none⟩ := by
    intro name listed
    rw [readSetting_whole (named name (mem_forwarded.mp listed)), String.ofList_toList]
  rw [List.map_append, gpuFlags, List.map_map]
  congr 1
  · exact List.map_congr_left fun csv _ => devices csv
  · exact List.map_congr_left taken

/-! ## What the container has -/

/-- The reader of the env file takes each entry for what it is. -/
structure Undisturbed (isBlank : Char -> Bool) (entries : List (String × String)) : Prop where
  start : forall entry, entry ∈ entries -> forall first, entry.1.toList.head? = some first ->
    isBlank first = false ∧ first ≠ '#'
  mark : forall first, entries.head? = some first -> first.1.toList.head? ≠ some byteOrderMark
  ending : forall entry, entry ∈ entries -> entry.2.toList.getLast? ≠ some '\r'

/-- The variables of a map and the GPUs, each value as it is read back. -/
def asRead (reading : String -> String) (client : Environment) (env : EnvMap)
    (devices : Option String) : Environment := fun name =>
  match env.get name with
  | some value => if value = "" then client name else some (reading value)
  | none => if name = "HIP_VISIBLE_DEVICES" then devices else none

def withoutReturn (value : String) : String := String.ofList (dropReturn value.toList)

theorem withoutReturn_eq_iff {value : String} :
    withoutReturn value = value ↔ value.toList.getLast? ≠ some '\r' := by
  have asLists : withoutReturn value = value ↔ dropReturn value.toList = value.toList :=
    ⟨fun same => (String.toList_ofList ..).symm.trans (congrArg String.toList same),
      fun same => (congrArg String.ofList same).trans String.ofList_toList⟩
  rw [asLists]
  unfold dropReturn
  split
  · next ends =>
      refine iff_of_false (fun same => ?_) (not_not_intro ends)
      have shorter := congrArg List.length same
      rw [List.length_dropLast] at shorter
      cases text : value.toList with
      | nil => simp [text] at ends
      | cons first rest => simp [text] at shorter
  · next noEnd => exact iff_of_true rfl noEnd

theorem names_nodup (env : EnvMap) (keep : String × String -> Bool) :
    ((env.entries.filter keep).map Prod.fst).Nodup := by
  have sorted : (env.entries.map Prod.fst).Pairwise fun first second => first < second :=
    List.pairwise_map.mpr env.sorted
  have kept : ((env.entries.filter keep).map Prod.fst).Sublist (env.entries.map Prod.fst) :=
    List.filter_sublist.map _
  exact (sorted.sublist kept).imp ne_of_lt

variable {env : EnvMap} {devices : Option String}

/-- With every name read as it was written, only the ends of the values differ. -/
theorem settle_asRead (free : env.get "HIP_VISIBLE_DEVICES" = none) :
    settle client (((fileEntries env).map fun entry => ⟨entry.1, some (withoutReturn entry.2)⟩) ++
      ((devices.toList.map fun csv => ⟨"HIP_VISIBLE_DEVICES", some csv⟩) ++
        (forwarded env).map fun name => ⟨name, none⟩)) =
      asRead withoutReturn client env devices := by
  have inFile : forall name, name ∈ (fileEntries env).map Prod.fst ->
      exists value, env.get name = some value ∧ value ≠ "" := by
    intro name listed
    rcases List.mem_map.mp listed with ⟨entry, inMap, rfl⟩
    exact ⟨entry.2, mem_fileEntries.mp inMap⟩
  have isDevices : forall name, name ∈ devices.toList.map (fun _ => "HIP_VISIBLE_DEVICES") ->
      env.get name = none := by
    intro name listed
    rcases List.mem_map.mp listed with ⟨_, _, rfl⟩
    exact free
  refine settle_eq client ?_ ?_ ?_
  · simp only [List.map_append, List.map_map, Function.comp_def, List.map_id']
    refine List.nodup_append.mpr ⟨names_nodup env _, List.nodup_append.mpr ⟨?_, ?_, ?_⟩, ?_⟩
    · cases devices with
      | none => exact List.nodup_nil
      | some csv => exact List.nodup_singleton _
    · exact names_nodup env _
    · intro name isDevice other listed same
      subst same
      exact nomatch (mem_forwarded.mp listed).symm.trans (isDevices name isDevice)
    · intro name listed other behind same
      rcases inFile name listed with ⟨value, isValue, nonempty⟩
      subst same
      rcases List.mem_append.mp behind with isDevice | listed
      · exact nomatch (isDevices name isDevice).symm.trans isValue
      · exact nonempty (Option.some.inj (isValue.symm.trans (mem_forwarded.mp listed)))
  · intro setting listed
    unfold asRead
    rcases List.mem_append.mp listed with listed | listed
    · rcases List.mem_map.mp listed with ⟨entry, inFile, rfl⟩
      rcases mem_fileEntries.mp inFile with ⟨isValue, nonempty⟩
      simp [isValue, nonempty]
    · rcases List.mem_append.mp listed with listed | listed
      · rcases List.mem_map.mp listed with ⟨csv, isCsv, rfl⟩
        rw [Option.mem_toList] at isCsv
        cases isCsv
        simp [free]
      · rcases List.mem_map.mp listed with ⟨name, isForwarded, rfl⟩
        simp [mem_forwarded.mp isForwarded]
  · intro name untouched
    unfold asRead
    cases isValue : env.get name with
    | some value =>
        by_cases isEmpty : value = ""
        · subst isEmpty
          refine absurd rfl (untouched ⟨name, none⟩ ?_)
          simp [mem_forwarded.mpr isValue]
        · refine absurd rfl (untouched ⟨name, some (withoutReturn value)⟩ ?_)
          refine List.mem_append_left _ (List.mem_map.mpr ⟨(name, value), ?_, rfl⟩)
          exact mem_fileEntries.mpr ⟨isValue, isEmpty⟩
    | none =>
        by_cases isDevices : name = "HIP_VISIBLE_DEVICES"
        · subst isDevices
          cases devices with
          | none => rfl
          | some csv =>
              refine absurd rfl (untouched ⟨"HIP_VISIBLE_DEVICES", some csv⟩ ?_)
              simp
        · exact if_neg isDevices

variable {fromFile : List Setting}

/-- A variable of the file that no line sets is missing. -/
theorem settle_missing (free : env.get "HIP_VISIBLE_DEVICES" = none) {entry : String × String}
    (listed : entry ∈ fileEntries env)
    (unset : forall setting, setting ∈ fromFile -> setting.name ≠ entry.1) :
    settle client (fromFile ++
      ((devices.toList.map fun csv => ⟨"HIP_VISIBLE_DEVICES", some csv⟩) ++
        (forwarded env).map fun name => ⟨name, none⟩)) entry.1 = none := by
  rcases mem_fileEntries.mp listed with ⟨isValue, nonempty⟩
  refine settle_untouched client fun setting isSetting same => ?_
  rcases List.mem_append.mp isSetting with inFile | isSetting
  · exact unset setting inFile same
  · rcases List.mem_append.mp isSetting with isDevice | isForwarded
    · rcases List.mem_map.mp isDevice with ⟨csv, _, rfl⟩
      have isName : "HIP_VISIBLE_DEVICES" = entry.1 := same
      rw [← isName, free] at isValue
      cases isValue
    · rcases List.mem_map.mp isForwarded with ⟨name, isName, rfl⟩
      have isEmpty : env.get entry.1 = some "" := same ▸ mem_forwarded.mp isName
      exact nonempty (Option.some.inj (isValue.symm.trans isEmpty))

/-- Names that the reader leaves alone come back as they are. -/
theorem fromFile_eq {entries : List (String × String)}
    (read : collectAll (readEntry isBlank) (unmarked entries) = some fromFile)
    (start : forall entry, entry ∈ entries -> forall first, entry.1.toList.head? = some first ->
      isBlank first = false ∧ first ≠ '#') (mark : forall first, entries.head? = some first ->
      first.1.toList.head? ≠ some byteOrderMark) :
    fromFile = entries.map fun entry => ⟨entry.1, some (withoutReturn entry.2)⟩ := by
  have whole : unmarked entries = entries := by
    cases entries with
    | nil => rfl
    | cons first rest =>
        have noMark := mark first rfl
        have same : dropMark first.1.toList = first.1.toList := by
          cases text : first.1.toList with
          | nil => rfl
          | cons character name =>
              rw [text, List.head?_cons] at noMark
              exact if_neg fun isMark => noMark (congrArg some isMark)
        unfold unmarked
        dsimp only
        rw [same, String.ofList_toList]
  rw [whole] at read
  refine collectAll_single (fun entry listed part isPart => ?_) read
  have sound := start entry listed
  unfold readEntry at isPart
  cases text : entry.1.toList with
  | nil => simp [text] at isPart
  | cons first rest =>
      rcases sound first (by rw [text]; rfl) with ⟨noBlank, noComment⟩
      have kept : entry.1.toList.dropWhile isBlank = entry.1.toList := by
        rw [text, List.dropWhile_cons_of_neg (by simp [noBlank])]
      rw [kept] at isPart
      dsimp only at isPart
      split at isPart
      · next isComment =>
          rw [text] at isComment
          exact absurd (Option.some.inj isComment) noComment
      · split at isPart
        · cases isPart
        · cases isPart
          rw [String.ofList_toList]
          rfl

/-- A name that the reader takes for another is set by no line. -/
theorem exists_unset
    (read : collectAll (readEntry isBlank) (unmarked (fileEntries env)) = some fromFile)
    (disturbed : ¬ ((forall entry, entry ∈ fileEntries env -> forall first,
        entry.1.toList.head? = some first -> isBlank first = false ∧ first ≠ '#') ∧
      forall first, (fileEntries env).head? = some first ->
        first.1.toList.head? ≠ some byteOrderMark)) :
    exists entry, entry ∈ fileEntries env ∧
      forall setting, setting ∈ fromFile -> setting.name ≠ entry.1 := by
  have origin : forall setting, setting ∈ fromFile -> exists item,
      item ∈ unmarked (fileEntries env) ∧
      setting.name.toList = item.1.toList.dropWhile isBlank ∧
      setting.name.toList.head? ≠ some '#' ∧ setting.name.toList.any isBlank = false := by
    intro setting listed
    rcases mem_collectAll read listed with ⟨item, part, isItem, isPart, inPart⟩
    rcases readEntry_setting isPart inPart with ⟨isName, noComment, noBlank, _⟩
    exact ⟨item, isItem, isName, noComment, noBlank⟩
  by_cases start : forall entry, entry ∈ fileEntries env -> forall first,
      entry.1.toList.head? = some first -> isBlank first = false ∧ first ≠ '#'
  · have marked : exists first, (fileEntries env).head? = some first ∧
        first.1.toList.head? = some byteOrderMark := by
      by_contra none_
      exact disturbed ⟨start, fun first isFirst isMark => none_ ⟨first, isFirst, isMark⟩⟩
    rcases marked with ⟨first, isFirst, isMark⟩
    rcases List.head?_eq_some_iff.mp isFirst with ⟨rest, entries⟩
    have once := names_nodup env fun entry => entry.2 != ""
    change ((fileEntries env).map Prod.fst).Nodup at once
    refine ⟨first, by rw [entries]; exact List.mem_cons_self, fun setting listed same => ?_⟩
    rcases origin setting listed with ⟨item, isItem, isName, _, _⟩
    rw [same] at isName
    rw [entries] at isItem once start
    rcases List.mem_cons.mp isItem with rfl | later
    · have shorter := congrArg List.length isName
      have bound := (List.dropWhile_sublist (p := isBlank) (l := dropMark first.1.toList)).length_le
      rw [String.toList_ofList] at shorter
      rcases List.head?_eq_some_iff.mp isMark with ⟨name, text⟩
      rw [text, dropMark, if_pos rfl] at bound shorter
      rw [← shorter, List.length_cons] at bound
      exact absurd bound (Nat.not_succ_le_self _)
    · have apart : item.1 ≠ first.1 := fun same =>
        (List.nodup_cons.mp once).1 (same ▸ List.mem_map_of_mem later)
      cases text : item.1.toList with
      | nil =>
          rw [text, List.dropWhile_nil] at isName
          simp [isName] at isMark
      | cons character name =>
          have sound := (start item (.tail _ later) character (by rw [text]; rfl)).1
          rw [text, List.dropWhile_cons_of_neg (by simp [sound]), ← text] at isName
          exact apart (String.toList_injective isName.symm)
  · rw [not_forall] at start
    rcases start with ⟨entry, start⟩
    rw [Classical.not_imp, not_forall] at start
    rcases start with ⟨listed, first, start⟩
    rw [Classical.not_imp] at start
    rcases start with ⟨isFirst, unsound⟩
    refine ⟨entry, listed, fun setting isSetting same => unsound ?_⟩
    rcases origin setting isSetting with ⟨item, _, _, noComment, noBlank⟩
    rw [same, isFirst] at noComment
    rw [same, List.any_eq_false] at noBlank
    exact ⟨Bool.eq_false_iff.mpr (noBlank first (List.mem_of_head? isFirst)),
      fun isComment => noComment (congrArg some isComment)⟩

/-! ## The decision -/

/-- The variables that were decided for a container. -/
def decidedEnv (client : Environment) (extraEnv : EnvMap) (apiKey devices : Option String) :
    Environment := fun name =>
  if name = "VLLM_API_KEY" then apiKey
  else if name = "HIP_VISIBLE_DEVICES" then devices
  else (extraEnv.get name).bind fun value => if value = "" then client name else some value

variable {apiKey : Option String}

theorem containerEnv_ok {extraEnv : Option EnvMap} {env : EnvMap}
    (built : containerEnv extraEnv apiKey = .ok env) :
    env = withApiKey (extraEnv.getD .empty) apiKey ∧
      (extraEnv.getD .empty).get "HIP_VISIBLE_DEVICES" = none ∧
      (extraEnv.getD .empty).get "VLLM_API_KEY" = none := by
  unfold containerEnv at built
  dsimp only at built
  split at built
  · cases built
  · next unreserved =>
      cases built
      have absent : forall key, key ∈ reservedEnvKeys -> (extraEnv.getD .empty).get key = none :=
        fun key listed => Option.not_isSome_iff_eq_none.mp (List.find?_eq_none.mp unreserved key listed)
      exact ⟨rfl, absent _ (by decide), absent _ (by decide)⟩

theorem withApiKey_get {extraEnv : EnvMap} {name : String} (other : name ≠ "VLLM_API_KEY") :
    (withApiKey extraEnv apiKey).get name = extraEnv.get name := by
  cases apiKey with
  | none => rfl
  | some key => exact (EnvMap.get_insert ..).trans (if_neg other)

theorem decidedEnv_eq {extraEnv : EnvMap} (free : extraEnv.get "HIP_VISIBLE_DEVICES" = none)
    (open_ : extraEnv.get "VLLM_API_KEY" = none)
    (nonempty : forall key, apiKey = some key -> key ≠ "") :
    decidedEnv client extraEnv apiKey devices =
      asRead id client (withApiKey extraEnv apiKey) devices := by
  funext name
  unfold decidedEnv asRead
  by_cases isKey : name = "VLLM_API_KEY"
  · subst isKey
    rw [if_pos rfl]
    cases apiKey with
    | none =>
        rw [withApiKey, open_]
        rfl
    | some key =>
        rw [withApiKey, EnvMap.get_insert, if_pos rfl]
        exact (if_neg (nonempty key rfl)).symm
  · rw [if_neg isKey, withApiKey_get isKey]
    by_cases isDevices : name = "HIP_VISIBLE_DEVICES"
    · rw [if_pos isDevices, isDevices, free]
      rfl
    · rw [if_neg isDevices]
      cases extraEnv.get name with
      | none => exact (if_neg isDevices).symm
      | some value => rfl

/-- A container that starts has the decided variables exactly when the reader of the
env file takes each of its entries for what it is. -/
theorem container_has_decided_env (equals : isBlank '=' = false)
    {recipe : Option ModelRecipeEngineRecord} {canonicalModelId : String}
    (accepted : forall engineRecipe, engineRecipe ∈ recipe ->
      validateModelRecipeEngineRecord engineRecipe canonicalModelId = .ok ())
    {engine : String} {engineEnv : List String} {hint : Option EngineRecipeHint}
    (given : engineRecipeWithExtraEnv engine (recipe.map protocolEngineRecipeHint) engineEnv =
      .ok hint)
    {keyFile : Option String} {path detail : String} {wsl : Bool} {spec : RunSpec}
    {environment : Environment}
    (started : runContainer isBlank client path detail wsl spec
      (hint.map EngineRecipeHint.extraEnv) (endpointApiKeyFromFile keyFile) = .ok environment) :
    environment = decidedEnv client ((hint.map EngineRecipeHint.extraEnv).getD .empty)
        (endpointApiKeyFromFile keyFile) (visibleDevices spec) ↔
      Undisturbed isBlank (fileEntries
        (withApiKey ((hint.map EngineRecipeHint.extraEnv).getD .empty)
          (endpointApiKeyFromFile keyFile))) := by
  have named := engineRecipeWithExtraEnv_named accepted given
  have keyNonempty : forall key, endpointApiKeyFromFile keyFile = some key -> key ≠ "" :=
    fun key read => endpointApiKeyFromFile_nonempty read
  rcases bind_ok.mp started with ⟨env, built, ran⟩
  rcases containerEnv_ok built with ⟨isEnv, free, noKey⟩
  generalize endpointApiKeyFromFile keyFile = apiKey at *
  generalize (hint.map EngineRecipeHint.extraEnv).getD .empty = extraEnv at *
  rw [decidedEnv_eq free noKey keyNonempty, ← isEnv]
  have envFree : env.get "HIP_VISIBLE_DEVICES" = none :=
    isEnv ▸ (withApiKey_get (by decide)).trans free
  have envNamed : env.Named := by
    subst isEnv
    cases apiKey with
    | none => exact named
    | some key => exact named.insert fun _ => by decide
  rcases run_started equals ran with ⟨fromFile, read, isEnvironment⟩
  have devices : visibleDevices { spec with
      env, gpuIndices := if spec.useGpu then spec.gpuIndices else [] } = visibleDevices spec := by
    unfold visibleDevices
    cases spec.useGpu <;> rfl
  rw [flags_eq (by exact envNamed), devices] at isEnvironment
  subst isEnvironment
  by_cases whole : (forall entry, entry ∈ fileEntries env -> forall first,
      entry.1.toList.head? = some first -> isBlank first = false ∧ first ≠ '#') ∧
      forall first, (fileEntries env).head? = some first ->
        first.1.toList.head? ≠ some byteOrderMark
  · rw [fromFile_eq read whole.1 whole.2, settle_asRead envFree]
    constructor
    · refine fun same => ⟨whole.1, whole.2, fun entry listed => withoutReturn_eq_iff.mp ?_⟩
      rcases mem_fileEntries.mp listed with ⟨isValue, nonempty⟩
      have here := congrFun same entry.1
      unfold asRead at here
      rw [isValue] at here
      dsimp only at here
      rw [if_neg nonempty, if_neg nonempty] at here
      exact Option.some.inj here
    · intro undisturbed
      funext name
      unfold asRead
      cases isValue : env.get name with
      | none => rfl
      | some value =>
          dsimp only
          by_cases isEmpty : value = ""
          · rw [if_pos isEmpty, if_pos isEmpty]
          · have ends := undisturbed.ending (name, value) (mem_fileEntries.mpr ⟨isValue, isEmpty⟩)
            rw [if_neg isEmpty, if_neg isEmpty, withoutReturn_eq_iff.mpr ends]
            rfl
  · refine iff_of_false (fun same => ?_) fun undisturbed => whole ⟨undisturbed.start, undisturbed.mark⟩
    rcases exists_unset read whole with ⟨entry, listed, unset⟩
    rcases mem_fileEntries.mp listed with ⟨isValue, nonempty⟩
    have here := congrFun same entry.1
    rw [settle_missing envFree listed unset] at here
    unfold asRead at here
    rw [isValue] at here
    dsimp only at here
    rw [if_neg nonempty] at here
    cases here

/-! ## A name behind white space -/

/-- What the reader of docker trims and refuses in names. -/
def isDockerBlank (character : Char) : Bool := character == ' ' || character == '\t'

/-- A recipe that sets one variable. -/
def settingRecipe (name value : String) : ModelRecipeEngineRecord :=
  { engine := "aim", requiredFlags := [], parserSettings := [], extraEnv := [(name, value)],
    preferredEndpoint := none, unsupportedCombinations := [], notes := [], modelIdOverride := none,
    imageDigest := none, generatedAtUnixMs := none, supportedGfxFamilies := [], profileIds := [],
    requiresHfToken := false, supportedBoards := [], minGpuCounts := [] }

def gpuSpec : RunSpec :=
  ⟨"rocm-aim-s", "aim", "localhost", 8000, 8000, true, [0, 1], none, .empty⟩

/-- The client of docker has a token. -/
def tokenClient : Environment := fun name => if name = "HF_TOKEN" then some "t" else none

/-- The token is forwarded into the container of a recipe that sets a variable. -/
def forwardingHint : Option EngineRecipeHint :=
  some ⟨engineRecipeContractVersion, "aim", (EnvMap.ofEntries [("A", "1")]).insert "HF_TOKEN" ""⟩

/-- Start that container with a key and two devices. -/
def startForwarding : Except ErrorChain Environment :=
  runContainer isDockerBlank tokenClient "/tmp/env" "" false gpuSpec
    (forwardingHint.map EngineRecipeHint.extraEnv) (endpointApiKeyFromFile (some "k\n"))

theorem startForwarding_as_decided :
    exists environment, startForwarding = .ok environment ∧
      (environment = decidedEnv tokenClient
          ((forwardingHint.map EngineRecipeHint.extraEnv).getD .empty)
          (endpointApiKeyFromFile (some "k\n")) (visibleDevices gpuSpec) ↔
        Undisturbed isDockerBlank (fileEntries (withApiKey
          ((forwardingHint.map EngineRecipeHint.extraEnv).getD .empty)
          (endpointApiKeyFromFile (some "k\n"))))) ∧
      ["A", "HF_TOKEN", "VLLM_API_KEY", "HIP_VISIBLE_DEVICES"].map environment =
        [some "1", some "t", some "k", some "0,1"] := by
  have accepted : validateModelRecipeEngineRecord (settingRecipe "A" "1") "m" = .ok () := by
    decide
  have given : engineRecipeWithExtraEnv "aim"
      ((some (settingRecipe "A" "1")).map protocolEngineRecipeHint) ["HF_TOKEN"] =
        .ok forwardingHint := by
    rfl
  have sets : startForwarding.toOption.map (["A", "HF_TOKEN", "VLLM_API_KEY",
      "HIP_VISIBLE_DEVICES"].map ·) = some [some "1", some "t", some "k", some "0,1"] := by
    decide
  cases started : startForwarding with
  | error error =>
      rw [started] at sets
      cases sets
  | ok environment =>
      rw [started] at sets
      exact ⟨environment, rfl, @container_has_decided_env isDockerBlank tokenClient (by decide)
        (some (settingRecipe "A" "1")) "m"
        (fun engineRecipe isRecipe => (Option.some.inj isRecipe) ▸ accepted) "aim" ["HF_TOKEN"] _
        given (some "k\n") "/tmp/env" "" false gpuSpec environment started, Option.some.inj sets⟩

def cpuSpec : RunSpec :=
  ⟨"rocm-aim-s", "aim", "localhost", 8000, 8000, false, [], none, .empty⟩

/-- Start the container of a recipe that sets one variable, without a key. -/
def startSetting (name value : String) : Except ErrorChain Environment :=
  runContainer isDockerBlank (fun _ => none) "/tmp/env" "" false cpuSpec
    (some (protocolEngineRecipeHint (settingRecipe name value)).extraEnv)
    (endpointApiKeyFromFile none)

/-- Behind a blank, a recipe sets the very variable that is reserved for the key. -/
theorem blank_name_sets_reserved :
    validateModelRecipeEngineRecord (settingRecipe " VLLM_API_KEY" "x") "m" = .ok () ∧
      exists environment, startSetting " VLLM_API_KEY" "x" = .ok environment ∧
        environment "VLLM_API_KEY" = some "x" ∧
        environment ≠ decidedEnv (fun _ => none)
          (protocolEngineRecipeHint (settingRecipe " VLLM_API_KEY" "x")).extraEnv none none := by
  refine ⟨by decide, ?_⟩
  have sets : (startSetting " VLLM_API_KEY" "x").toOption.map (fun environment =>
      environment "VLLM_API_KEY") = some (some "x") := by decide
  cases started : startSetting " VLLM_API_KEY" "x" with
  | error error =>
      rw [started] at sets
      cases sets
  | ok environment =>
      rw [started] at sets
      have isSet : environment "VLLM_API_KEY" = some "x" := Option.some.inj sets
      refine ⟨environment, rfl, isSet, fun same => ?_⟩
      rw [same] at isSet
      exact nomatch isSet

end Aim
end RocmCli
