import RocmCli.ModelCatalog.RecipeIndex
import RocmCli.Support.Runs

namespace RocmCli
namespace SignedIndex

open Text RecipeIndex Runs

/-!
# Loading a signed recipe index

The loader verifies the bytes of the index against a signature and a key, and
then reads the index once more to parse it.  Other processes may replace a file
between any two of its reads; what keeps the two reads of the index together is
that none of them replaces the index in between.
-/

abbrev Bytes := List UInt8

/-! ## Signatures -/

/-- Every line ending becomes a line feed. -/
def unifyLines : List Char -> List Char
  | [] => []
  | '\r' :: '\n' :: rest => '\n' :: unifyLines rest
  | '\r' :: rest => '\n' :: unifyLines rest
  | character :: rest => character :: unifyLines rest

/-- A line without the blanks and tabs at its end. -/
def trimLineEnd (line : List Char) : List Char :=
  (line.reverse.dropWhile fun character => character == ' ' || character == '\t').reverse

def normalizePem (pem : String) : String :=
  let withoutBom := (stripPrefix "\ufeff" pem).getD pem
  let lines := (((unifyLines withoutBom.toList).splitOn '\n').map trimLineEnd).filter
    (!·.isEmpty)
  String.ofList (['\n'].intercalate lines ++ ['\n'])

/-- The operations of the RSA library. -/
structure RsaLibrary where
  Key : Type
  Signature : Type
  fromPublicKeyPem : String -> Except String Key
  signatureTryFrom : Bytes -> Except String Signature
  verify : Key -> Bytes -> Signature -> Except String Unit

def verifyRsaPkcs1Sha256Signature (rsa : RsaLibrary) (publicKeyPem : String)
    (payload signature : Bytes) (label : String) : Except ErrorChain Unit :=
  match rsa.fromPublicKeyPem (normalizePem publicKeyPem) with
  | .error error =>
      .error ((ErrorChain.ofMessage error).context
        (label ++ " public key is not a valid RSA public key"))
  | .ok publicKey =>
      match rsa.signatureTryFrom signature with
      | .error error =>
          .error ((ErrorChain.ofMessage error).context (label ++ " signature is malformed"))
      | .ok signature =>
          match rsa.verify publicKey payload signature with
          | .error error =>
              .error (ErrorChain.ofMessage
                (label ++ " signature verification failed: " ++ error))
          | .ok () => .ok ()

/-! ## Files -/

/-- The contents of the files, by their paths. -/
abbrev Files := String -> Option Bytes

/-- Read a file, with a message for where it fails. -/
def readFile (files : Files) (path message : String) : Except ErrorChain Bytes :=
  match files path with
  | some bytes => .ok bytes
  | none => .error ((ErrorChain.ofMessage "No such file or directory (os error 2)").context message)

def readToString (files : Files) (path message : String) : Except ErrorChain String := do
  let bytes ← readFile files path message
  if isUtf8 bytes then .ok (fromUtf8Lossy bytes)
  else .error ((ErrorChain.ofMessage "stream did not contain valid UTF-8").context message)

/-! ## The loader -/

/-- What a call of the loader is given, with the libraries it relies on. -/
structure Loader where
  rsa : RsaLibrary
  fromSlice : Bytes -> Except String ModelRecipeIndexDocument
  indexPath : String
  signaturePath : String
  publicKeyPath : String

/-- The verification of the bytes of an index. -/
def Loader.verify (loader : Loader) (publicKeyPem : String) (payload signature : Bytes) :
    Except ErrorChain Unit :=
  verifyRsaPkcs1Sha256Signature loader.rsa publicKeyPem payload signature "model recipe index"

/-- The step the loader takes next, with what it has read. -/
inductive Phase where
  | checkSignature
  | checkPublicKey
  | readPublicKey
  | readSignature (publicKeyPem : String)
  | readPayload (publicKeyPem : String) (signature : Bytes)
  | readIndex
  | finished (result : Except ErrorChain ModelRecipeIndexDocument)

/-- Go on with what a step returned, or finish with its error. -/
def orFail {R : Type} (result : Except ErrorChain R) (next : R -> Phase) : Phase :=
  match result with
  | .ok value => next value
  | .error error => .finished (.error error)

/-- Parse and validate the bytes of an index. -/
def Loader.parse (loader : Loader) (bytes : Bytes) :
    Except ErrorChain ModelRecipeIndexDocument :=
  match loader.fromSlice bytes with
  | .error error =>
      .error ((ErrorChain.ofMessage error).context
        ("failed to parse model recipe index " ++ loader.indexPath))
  | .ok document => do
      validate document
      return document

def loadModelRecipeIndex (loader : Loader) (files : Files) :
    Except ErrorChain ModelRecipeIndexDocument := do
  let bytes ← readFile files loader.indexPath
    ("failed to read model recipe index " ++ loader.indexPath)
  loader.parse bytes

/-- The last part of the loader; what reading has validated is validated again. -/
def Loader.readAndValidate (loader : Loader) (files : Files) :
    Except ErrorChain ModelRecipeIndexDocument := do
  let document ← loadModelRecipeIndex loader files
  validate document
  return document

/-- One step of the loader: one look at one file. -/
def Loader.advance (loader : Loader) (files : Files) : Phase -> Phase
  | .checkSignature =>
      orFail (refuse (files loader.signaturePath).isNone
        ("model recipe index signature is missing: " ++ loader.signaturePath))
        fun _ => .checkPublicKey
  | .checkPublicKey =>
      orFail (refuse (files loader.publicKeyPath).isNone
        ("model recipe index public key is missing: " ++ loader.publicKeyPath))
        fun _ => .readPublicKey
  | .readPublicKey =>
      orFail (readToString files loader.publicKeyPath
        ("failed to read model recipe index public key: " ++ loader.publicKeyPath))
        .readSignature
  | .readSignature publicKeyPem =>
      orFail (readFile files loader.signaturePath
        ("failed to read model recipe index signature: " ++ loader.signaturePath))
        (.readPayload publicKeyPem)
  | .readPayload publicKeyPem signature =>
      orFail (readFile files loader.indexPath
        ("failed to read model recipe index: " ++ loader.indexPath))
        fun payload => orFail (loader.verify publicKeyPem payload signature) fun _ => .readIndex
  | .readIndex =>
      .finished (loader.readAndValidate files)
  | .finished result => .finished result

/-- The loader together with the files of its processes. -/
structure State where
  files : Files
  phase : Phase

/-- The loader goes on, or a process replaces or removes a file at once. -/
inductive Action where
  | load
  | replace (path : String) (content : Option Bytes)

def step (loader : Loader) (state : State) : Action -> State
  | .load => { state with phase := loader.advance state.files state.phase }
  | .replace path content => { state with files := Function.update state.files path content }

/-- The state a call begins in. -/
def called (files : Files) : State := ⟨files, .checkSignature⟩

/-! ## The loader alone -/

def verifyModelRecipeIndexSignature (loader : Loader) (files : Files) : Except ErrorChain Unit := do
  refuse (files loader.signaturePath).isNone
    ("model recipe index signature is missing: " ++ loader.signaturePath)
  refuse (files loader.publicKeyPath).isNone
    ("model recipe index public key is missing: " ++ loader.publicKeyPath)
  let publicKeyPem ← readToString files loader.publicKeyPath
    ("failed to read model recipe index public key: " ++ loader.publicKeyPath)
  let signature ← readFile files loader.signaturePath
    ("failed to read model recipe index signature: " ++ loader.signaturePath)
  let payload ← readFile files loader.indexPath
    ("failed to read model recipe index: " ++ loader.indexPath)
  loader.verify publicKeyPem payload signature

def loadSignedModelRecipeIndex (loader : Loader) (files : Files) :
    Except ErrorChain ModelRecipeIndexDocument := do
  verifyModelRecipeIndexSignature loader files
  loader.readAndValidate files

variable {loader : Loader} {files : Files}

/-- A step that fails ends the loader with its error, whatever would follow. -/
theorem advance_orFail {R : Type} (steps : Nat) {result : Except ErrorChain R} {next : R -> Phase}
    {finish : R -> Except ErrorChain ModelRecipeIndexDocument}
    (goes : forall value, (loader.advance files)^[steps] (next value) = .finished (finish value)) :
    (loader.advance files)^[steps] (orFail result next) = .finished (result >>= finish) := by
  cases result with
  | error error => exact Function.iterate_fixed rfl steps
  | ok value => exact goes value

/-- Left alone, the loader returns what it returns on files that stand still. -/
theorem load_alone (loader : Loader) (files : Files) :
    finalState (step loader) (called files) (List.replicate 6 .load) =
      ⟨files, .finished (loadSignedModelRecipeIndex loader files)⟩ := by
  change State.mk files ((loader.advance files)^[6] .checkSignature) = _
  unfold loadSignedModelRecipeIndex verifyModelRecipeIndexSignature
  simp only [bind_assoc]
  refine congrArg (State.mk files) (advance_orFail 5 fun _ => ?_)
  refine advance_orFail 4 fun _ => ?_
  refine advance_orFail 3 fun publicKeyPem => ?_
  refine advance_orFail 2 fun signature => ?_
  refine advance_orFail 1 fun payload => ?_
  exact advance_orFail 1 fun _ => rfl

/-! ## The registry -/

/-- The settings of the environment that name an index. -/
structure IndexSettings where
  indexPath : Option String
  signaturePath : Option String
  publicKeyPath : Option String
  requireSignature : Bool

inductive ModelRecipeRegistrySource where
  | builtIn
  | signedIndex (indexPath signaturePath publicKeyPath : String)

structure ModelRecipeRegistry where
  recipes : List ModelRecipeRecord
  platforms : List ModelCatalogPlatform
  source : ModelRecipeRegistrySource

def modelRecipeIndexSignaturePath (indexPath : String) : String := indexPath ++ ".sig"

/-- The registry: the built-in catalog, or the index the settings name, loaded
from its three paths. -/
def loadModelRecipeRegistry (settings : IndexSettings) (builtin : ModelRecipeIndexDocument)
    (load : String -> String -> String -> Except ErrorChain ModelRecipeIndexDocument) :
    Except ErrorChain ModelRecipeRegistry :=
  match settings.indexPath with
  | none => do
      refuse settings.requireSignature ("signed model recipe index is required but " ++
        "ROCM_CLI_MODEL_RECIPE_INDEX_PATH is not configured")
      return ⟨builtin.recipes, builtin.platforms, .builtIn⟩
  | some indexPath =>
      let signaturePath :=
        settings.signaturePath.getD (modelRecipeIndexSignaturePath indexPath)
      match settings.publicKeyPath with
      | none => .error (ErrorChain.ofMessage ("signed model recipe index requires " ++
          "ROCM_CLI_MODEL_RECIPE_INDEX_PUBLIC_KEY_PATH"))
      | some publicKeyPath => do
          let document ← load indexPath signaturePath publicKeyPath
          let platforms :=
            if document.platforms.isEmpty then builtin.platforms else document.platforms
          return ⟨document.recipes, platforms,
            .signedIndex indexPath signaturePath publicKeyPath⟩

def resolveModelRecipe (registry : Except ErrorChain ModelRecipeRegistry) (modelRef : String) :
    Except ErrorChain (Option ModelRecipeRecord) := do
  let registry ← registry
  return resolveIn registry.recipes modelRef

/-! ## What the loader may return -/

/-- A file held some bytes at some moment of a run. -/
def Held (loader : Loader) (start : State) (actions : List Action) (path : String)
    (bytes : Bytes) : Prop :=
  exists before after, actions = before ++ after ∧
    (finalState (step loader) start before).files path = some bytes

/-- A returned document is that of bytes which the index held and which a
signature and a key that the files held verify. -/
def UsedAsSigned (loader : Loader) (start : State) (actions : List Action) : Prop :=
  forall document, (finalState (step loader) start actions).phase = .finished (.ok document) ->
    exists payload signature publicKey,
      Held loader start actions loader.indexPath payload ∧
      Held loader start actions loader.signaturePath signature ∧
      Held loader start actions loader.publicKeyPath publicKey ∧ isUtf8 publicKey = true ∧
      loader.verify (fromUtf8Lossy publicKey) payload signature = .ok () ∧
      loader.fromSlice payload = .ok document

/-- Between the loader's two reads of the index, nobody gives the index other
bytes. -/
def IndexUndisturbed (loader : Loader) (state : State) (action : Action) : Prop :=
  state.phase = .readIndex -> forall content, action = .replace loader.indexPath content ->
    content = state.files loader.indexPath

/-! ## Steps -/

theorem readFile_ok {path message : String} {bytes : Bytes} :
    readFile files path message = .ok bytes ↔ files path = some bytes := by
  unfold readFile
  split
  · rename_i content held
    rw [held, Option.some.injEq, Except.ok.injEq]
  · rename_i missing
    rw [missing]
    exact ⟨nofun, nofun⟩

theorem readToString_ok {path message text : String}
    (decoded : readToString files path message = .ok text) :
    exists bytes, files path = some bytes ∧ isUtf8 bytes = true ∧ text = fromUtf8Lossy bytes := by
  rcases bind_ok.mp decoded with ⟨bytes, wasRead, decoded⟩
  split at decoded
  · rename_i valid
    cases decoded
    exact ⟨bytes, readFile_ok.mp wasRead, valid, rfl⟩
  · cases decoded

variable {document : ModelRecipeIndexDocument}

theorem parse_ok {bytes : Bytes} (parsed : loader.parse bytes = .ok document) :
    loader.fromSlice bytes = .ok document ∧ validate document = .ok () := by
  unfold Loader.parse at parsed
  split at parsed
  · cases parsed
  · rename_i read parsesTo
    rcases bind_ok.mp parsed with ⟨_, valid, parsed⟩
    cases parsed
    exact ⟨parsesTo, valid⟩

/-- A document that was read stems from the bytes the index held. -/
theorem readAndValidate_ok (returned : loader.readAndValidate files = .ok document) :
    exists bytes, files loader.indexPath = some bytes ∧ loader.fromSlice bytes = .ok document ∧
      validate document = .ok () := by
  rcases bind_ok.mp returned with ⟨other, loaded, returned⟩
  rcases bind_ok.mp returned with ⟨_, _, returned⟩
  cases returned
  rcases bind_ok.mp loaded with ⟨bytes, wasRead, parsed⟩
  exact ⟨bytes, readFile_ok.mp wasRead, parse_ok parsed⟩

/-! ## Runs -/

/-- What the loader remembers was held, and what it has verified is what the
index holds. -/
def Sound (loader : Loader) (held : String -> Bytes -> Prop) (state : State) : Prop :=
  match state.phase with
  | .readSignature publicKeyPem =>
      exists publicKey, held loader.publicKeyPath publicKey ∧ isUtf8 publicKey = true ∧
        publicKeyPem = fromUtf8Lossy publicKey
  | .readPayload publicKeyPem signature =>
      held loader.signaturePath signature ∧
        exists publicKey, held loader.publicKeyPath publicKey ∧ isUtf8 publicKey = true ∧
          publicKeyPem = fromUtf8Lossy publicKey
  | .readIndex =>
      exists payload signature publicKey, state.files loader.indexPath = some payload ∧
        held loader.indexPath payload ∧ held loader.signaturePath signature ∧
        held loader.publicKeyPath publicKey ∧ isUtf8 publicKey = true ∧
        loader.verify (fromUtf8Lossy publicKey) payload signature = .ok ()
  | .finished (.ok document) =>
      exists payload signature publicKey, held loader.indexPath payload ∧
        held loader.signaturePath signature ∧ held loader.publicKeyPath publicKey ∧
        isUtf8 publicKey = true ∧
        loader.verify (fromUtf8Lossy publicKey) payload signature = .ok () ∧
        loader.fromSlice payload = .ok document
  | _ => True

variable {held : String -> Bytes -> Prop}

/-- A step that fails has nothing to keep. -/
theorem orFail_sound {R : Type} {result : Except ErrorChain R} {next : R -> Phase}
    (goes : forall value, result = .ok value -> Sound loader held ⟨files, next value⟩) :
    Sound loader held ⟨files, orFail result next⟩ := by
  cases result with
  | error error => trivial
  | ok value => exact goes value rfl

/-- A step of the loader keeps what it remembers sound. -/
theorem load_sound {state : State}
    (present : forall path bytes, state.files path = some bytes -> held path bytes)
    (sound : Sound loader held state) : Sound loader held (step loader state .load) := by
  rcases state with ⟨files, phase⟩
  cases phase with
  | checkSignature => exact orFail_sound fun _ _ => trivial
  | checkPublicKey => exact orFail_sound fun _ _ => trivial
  | readPublicKey =>
      refine orFail_sound fun publicKeyPem wasRead => ?_
      rcases readToString_ok wasRead with ⟨publicKey, there, valid, decoded⟩
      exact ⟨publicKey, present _ _ there, valid, decoded⟩
  | readSignature publicKeyPem =>
      refine orFail_sound fun signature wasRead => ?_
      exact ⟨present _ _ (readFile_ok.mp wasRead), sound⟩
  | readPayload publicKeyPem signature =>
      rcases sound with ⟨heldSignature, publicKey, heldKey, valid, rfl⟩
      refine orFail_sound fun payload wasRead => ?_
      refine orFail_sound fun _ verified => ?_
      have there := readFile_ok.mp wasRead
      exact ⟨payload, signature, publicKey, there, present _ _ there, heldSignature, heldKey,
        valid, verified⟩
  | readIndex =>
      rcases sound with ⟨payload, signature, publicKey, there, heldIndex, heldSignature, heldKey,
        valid, verified⟩
      change Sound loader held ⟨files, .finished (loader.readAndValidate files)⟩
      rcases returned : loader.readAndValidate files with error | document
      · trivial
      · rcases readAndValidate_ok returned with ⟨bytes, holds, parses, _⟩
        have same : bytes = payload := Option.some.inj (holds.symm.trans there)
        subst same
        exact ⟨bytes, signature, publicKey, heldIndex, heldSignature, heldKey, valid, verified,
          parses⟩
  | finished result => exact sound

/-- A replacement keeps what the loader remembers sound, unless it changes the
index between the two reads of it. -/
theorem replace_sound {state : State} {path : String} {content : Option Bytes}
    (undisturbed : IndexUndisturbed loader state (.replace path content))
    (sound : Sound loader held state) :
    Sound loader held (step loader state (.replace path content)) := by
  rcases state with ⟨files, phase⟩
  cases phase with
  | readIndex =>
      rcases sound with ⟨payload, signature, publicKey, there, remembered⟩
      refine ⟨payload, signature, publicKey, ?_, remembered⟩
      change Function.update files path content loader.indexPath = some payload
      by_cases isIndex : path = loader.indexPath
      · subst isIndex
        rw [Function.update_self, undisturbed rfl content rfl]
        exact there
      · rw [Function.update_of_ne (Ne.symm isIndex)]
        exact there
  | checkSignature => trivial
  | checkPublicKey => trivial
  | readPublicKey => trivial
  | readSignature publicKeyPem => exact sound
  | readPayload publicKeyPem signature => exact sound
  | finished result =>
      cases result with
      | error error => trivial
      | ok document => exact sound

/-- Along a run whose steps leave the index alone between the two reads, what
the loader remembers stays sound. -/
theorem run_sound {actions : List Action}
    (undisturbed : Guarded (step loader) (IndexUndisturbed loader) (called files) actions) :
    Sound loader (Held loader (called files) actions)
      (finalState (step loader) (called files) actions) := by
  have prefixes : forall before after, actions = before ++ after ->
      Sound loader (Held loader (called files) actions)
        (finalState (step loader) (called files) before) := by
    intro before
    induction before using List.reverseRecOn with
    | nil => exact fun _ _ => trivial
    | append_singleton before action ih =>
        intro after whole
        rw [List.append_assoc] at whole
        have sound := ih _ whole
        have guarded := undisturbed
        rw [whole] at guarded
        have allowed := ((guarded_append (called files) before _).mp guarded).2.1
        rw [finalState_append]
        cases action with
        | load =>
            refine load_sound ?_ sound
            exact fun path bytes there => ⟨before, _, whole, there⟩
        | replace path content => exact replace_sound allowed sound
  exact prefixes actions [] (List.append_nil actions).symm

/-- An index is used as signed in every run that does not change it between the
loader's two reads of it, and every reference into an accepted index is
answered by the same recipe in whatever order the recipes stand. -/
theorem usedAsSigned (loader : Loader) :
    (forall files actions,
      Guarded (step loader) (IndexUndisturbed loader) (called files) actions ->
        UsedAsSigned loader (called files) actions) ∧
      forall document, validate document = .ok () -> forall modelRef,
        (document.recipes.filter (·.matchesRef modelRef)).length ≤ 1 ∧
          forall reordered, reordered.Perm document.recipes ->
            forall platforms source,
              resolveModelRecipe (.ok ⟨reordered, platforms, source⟩) modelRef =
                resolveModelRecipe (.ok ⟨document.recipes, platforms, source⟩) modelRef := by
  constructor
  · intro files actions undisturbed document returned
    have sound := run_sound undisturbed
    unfold Sound at sound
    rw [returned] at sound
    exact sound
  · intro document accepted modelRef
    have single := matching_le_one (validate_distinct accepted) modelRef
    refine ⟨single, fun reordered order platforms source => ?_⟩
    have same : resolveIn reordered modelRef = resolveIn document.recipes modelRef :=
      find?_perm single order
    exact congrArg Except.ok same

/-! ## The registry from an index -/

/-- On files that stand still the loader returns what the signature vouches for. -/
theorem loaded_sound (returned : loadSignedModelRecipeIndex loader files = .ok document) :
    Sound loader (files · = some ·) ⟨files, .finished (.ok document)⟩ := by
  have sound : forall steps, Sound loader (files · = some ·)
      (finalState (step loader) (called files) (List.replicate steps .load)) ∧
      (finalState (step loader) (called files) (List.replicate steps .load)).files = files := by
    intro steps
    induction steps with
    | zero => exact ⟨trivial, rfl⟩
    | succ steps ih =>
        rw [List.replicate_succ', finalState_append]
        exact ⟨load_sound (fun path bytes there => ih.2 ▸ there) ih.1, ih.2⟩
  rw [← returned, ← load_alone]
  exact (sound 6).1

/-- The recipes are those of a document that the key of the settings verifies. -/
def ModelRecipeRegistry.Signed (registry : ModelRecipeRegistry) (settings : IndexSettings)
    (loader : Loader) (files : Files) : Prop :=
  exists index key payload signature publicKey document,
    settings.indexPath = some index ∧ settings.publicKeyPath = some key ∧
    files index = some payload ∧
    files (settings.signaturePath.getD (modelRecipeIndexSignaturePath index)) = some signature ∧
    files key = some publicKey ∧ loader.verify (fromUtf8Lossy publicKey) payload signature = .ok () ∧
    loader.fromSlice payload = .ok document ∧ registry.recipes = document.recipes

/-- A registry is the built-in one, where no index is named or required, or it
is signed. -/
theorem registry_signed (settings : IndexSettings) (builtin : ModelRecipeIndexDocument)
    (loader : Loader) (files : Files) (registry : ModelRecipeRegistry)
    (loaded : loadModelRecipeRegistry settings builtin (fun index signature publicKey =>
      loadSignedModelRecipeIndex ⟨loader.rsa, loader.fromSlice, index, signature, publicKey⟩
        files) = .ok registry) :
    (settings.indexPath = none ∧ settings.requireSignature = false ∧
      registry = ⟨builtin.recipes, builtin.platforms, .builtIn⟩) ∨
    registry.Signed settings loader files := by
  unfold loadModelRecipeRegistry at loaded
  split at loaded
  next unnamed =>
    cases required : settings.requireSignature <;> rw [required] at loaded <;> cases loaded
    exact .inl ⟨unnamed, rfl, rfl⟩
  next index named =>
    dsimp only at loaded
    split at loaded
    · cases loaded
    next key keyed =>
      rcases bind_ok.mp loaded with ⟨document, returned, made⟩
      cases made
      rcases loaded_sound returned with
        ⟨payload, signature, publicKey, there, signed, keyThere, _, verified, parses⟩
      exact .inr ⟨index, key, payload, signature, publicKey, document, named, keyed, there,
        signed, keyThere, verified, parses, rfl⟩

/-! ## A replaced index -/

/-- A recipe under one id. -/
def sampleRecipe (id : String) : ModelRecipeRecord :=
  ⟨id, [], "chat", "huggingface", "main", "transformers", "bfloat16", "gpu_required", [], [],
    "default"⟩

def sampleDocument (id : String) : ModelRecipeIndexDocument := ⟨1, [], [sampleRecipe id]⟩

/-- The bytes of an index with one recipe. -/
def sampleBytes (id : String) : Bytes :=
  asciiBytes "\x7b\"schema_version\":1,\"recipes\":[\x7b\"canonical_model_id\":\"" ++
    asciiBytes id ++
    asciiBytes "\",\"aliases\":[],\"task\":\"chat\",\"source\":\"huggingface\"," ++
    asciiBytes "\"revision\":\"main\",\"loader\":\"transformers\"," ++
    asciiBytes "\"trust_remote_code\":false,\"dtype\":\"bfloat16\"," ++
    asciiBytes "\"device_policy\":\"gpu_required\",\"chat_template_mode\":\"default\"," ++
    asciiBytes "\"preferred_engines\":[],\"warnings\":[]\x7d]\x7d"

/-- A library in which one signature was ever made. -/
def sampleRsa (signed signature : Bytes) : RsaLibrary where
  Key := String
  Signature := Bytes
  fromPublicKeyPem pem := .ok pem
  signatureTryFrom bytes := .ok bytes
  verify _ payload given :=
    if payload = signed ∧ given = signature then .ok () else .error "verification error"

/-- A call on an index whose maker signed the recipe `org/signed`. -/
def sampleLoader : Loader where
  rsa := sampleRsa (sampleBytes "org/signed") [1, 2, 3]
  fromSlice bytes :=
    if bytes = sampleBytes "org/signed" then .ok (sampleDocument "org/signed")
    else if bytes = sampleBytes "org/other" then .ok (sampleDocument "org/other")
    else .error "expected value at line 1 column 1"
  indexPath := "index.json"
  signaturePath := "index.json.sig"
  publicKeyPath := "index.pub"

def sampleFiles : Files
  | "index.json" => some (sampleBytes "org/signed")
  | "index.json.sig" => some [1, 2, 3]
  | "index.pub" => some (asciiBytes "key")
  | _ => none

/-- The document a call has returned. -/
def State.returned (state : State) : Option ModelRecipeIndexDocument :=
  match state.phase with
  | .finished (.ok document) => some document
  | _ => none

theorem phase_of_returned {state : State} (returned : state.returned = some document) :
    state.phase = .finished (.ok document) := by
  rcases state with ⟨files, phase⟩
  cases phase with
  | finished result =>
      cases result with
      | error error => cases returned
      | ok other =>
          cases returned
          rfl
  | _ => cases returned

/-- The index is replaced after its verification and before it is read again. -/
def replacedBetweenReads : List Action :=
  List.replicate 5 Action.load ++
    [Action.replace "index.json" (some (sampleBytes "org/other")), .load]

/-- The loader returns what nobody signed. -/
theorem replaced_unsigned :
    ¬ UsedAsSigned sampleLoader (called sampleFiles) replacedBetweenReads := by
  intro used
  have returned : (finalState (step sampleLoader) (called sampleFiles)
      replacedBetweenReads).returned = some (sampleDocument "org/other") := by decide +kernel
  rcases used _ (phase_of_returned returned) with
    ⟨payload, signature, publicKey, _, _, _, _, verified, parsed⟩
  have signed : payload = sampleBytes "org/signed" := by
    unfold Loader.verify verifyRsaPkcs1Sha256Signature at verified
    dsimp only [sampleLoader, sampleRsa] at verified
    split at verified
    · cases verified
    · rename_i accepted
      split at accepted
      · rename_i both
        exact both.1
      · cases accepted
  have original : sampleLoader.fromSlice (sampleBytes "org/signed") =
      .ok (sampleDocument "org/signed") := by
    dsimp only [sampleLoader]
    rw [if_pos rfl]
  rw [signed, original] at parsed
  have same := congrArg (fun document => document.recipes.map (·.canonicalModelId))
    (Except.ok.inj parsed)
  revert same
  decide

/-- The index is signed anew before its signature is read, and the key removed
after that was read. -/
def signedAnew : List Action :=
  [.load, .load, .load, .replace "index.json.sig" (some [1, 2, 3]), .load,
    .replace "index.pub" none, .load, .load]

/-- The call returns the signed recipe. -/
theorem usedAsSigned_anew :
    UsedAsSigned sampleLoader
        (called (Function.update sampleFiles "index.json.sig" (some [9]))) signedAnew ∧
      (finalState (step sampleLoader)
        (called (Function.update sampleFiles "index.json.sig" (some [9]))) signedAnew).returned =
          some (sampleDocument "org/signed") ∧
      ((sampleDocument "org/signed").recipes.filter (·.matchesRef " ORG/Signed")).length ≤ 1 := by
  refine ⟨(usedAsSigned sampleLoader).1 _ signedAnew ?_, by decide +kernel,
    ((usedAsSigned sampleLoader).2 (sampleDocument "org/signed") (by decide)
      " ORG/Signed").1⟩
  have load : forall state, IndexUndisturbed sampleLoader state .load :=
    fun _ _ content no => nomatch no
  have beside : forall state path content, path ≠ "index.json" ->
      IndexUndisturbed sampleLoader state (.replace path content) :=
    fun _ _ _ apart _ _ same => absurd (Action.replace.inj same).1 apart
  exact ⟨load _, load _, load _, beside _ _ _ (by decide), load _, beside _ _ _ (by decide), load _,
    load _, trivial⟩

set_option maxRecDepth 4000 in
theorem sample_registry_signed :
    ModelRecipeRegistry.Signed
      ⟨[sampleRecipe "org/signed"], [], .signedIndex "index.json" "index.json.sig" "index.pub"⟩
      ⟨some "index.json", none, some "index.pub", true⟩ sampleLoader sampleFiles := by
  have loaded := registry_signed ⟨some "index.json", none, some "index.pub", true⟩
    (sampleDocument "org/other") sampleLoader sampleFiles _ (by rfl)
  exact loaded.resolve_left fun builtIn => nomatch builtIn.1

end SignedIndex
end RocmCli
