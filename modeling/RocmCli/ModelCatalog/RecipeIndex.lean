import RocmCli.ModelCatalog.SourcePolicy

namespace RocmCli
namespace RecipeIndex

open Text ModelCatalog

/-!
# The recipe index

An index is a list of recipes, each known under an id and aliases.  Validation
refuses an index that spells one reference twice, so a reference is answered by
one recipe wherever it stands in the list.  A map is the list of its entries in
the order of its keys.
-/

/-! ## The document -/

/-- An artifact of a recipe; the notes are those of its source policy. -/
structure RecipeArtifact extends ModelRecipeArtifactRecord where
  notes : List String
deriving DecidableEq, Repr

structure ModelRecipeEndpointRecord where
  endpointMode : String
  settings : List (String × String)
deriving DecidableEq, Repr

structure UnsupportedCombinationRecord where
  combination : String
  reason : String
deriving DecidableEq, Repr

structure ModelRecipeEngineRecord where
  engine : String
  requiredFlags : List String
  parserSettings : List (String × String)
  extraEnv : List (String × String)
  preferredEndpoint : Option ModelRecipeEndpointRecord
  unsupportedCombinations : List UnsupportedCombinationRecord
  notes : List String
  modelIdOverride : Option String
  imageDigest : Option String
  generatedAtUnixMs : Option Nat
  supportedGfxFamilies : List String
  profileIds : List (String × String)
  requiresHfToken : Bool
  supportedBoards : List String
  minGpuCounts : List (String × Nat)
deriving DecidableEq, Repr

/-- A recipe, as far as validation and lookup read it. -/
structure ModelRecipeRecord where
  canonicalModelId : String
  aliases : List String
  task : String
  source : String
  revision : String
  loader : String
  dtype : String
  devicePolicy : String
  artifacts : List RecipeArtifact
  engineRecipes : List ModelRecipeEngineRecord
  chatTemplateMode : String
deriving DecidableEq, Repr

structure ModelCatalogPlatform where
  label : String
  engines : List String
  gfxFamilies : List String
deriving DecidableEq, Repr

structure ModelRecipeIndexDocument where
  schemaVersion : Nat
  platforms : List ModelCatalogPlatform
  recipes : List ModelRecipeRecord
deriving DecidableEq, Repr

/-! ## Looking a reference up -/

def normalizeModelRef (modelRef : String) : String := toAsciiLowercase (trim modelRef)

/-- The normalized references a recipe is known under. -/
def ModelRecipeRecord.refs (recipe : ModelRecipeRecord) : List String :=
  (recipe.canonicalModelId :: recipe.aliases).map normalizeModelRef

def ModelRecipeRecord.matchesRef (recipe : ModelRecipeRecord) (modelRef : String) : Bool :=
  normalizeModelRef recipe.canonicalModelId == normalizeModelRef modelRef ||
    recipe.aliases.any fun name => normalizeModelRef name == normalizeModelRef modelRef

theorem ModelRecipeRecord.matchesRef_iff {recipe : ModelRecipeRecord} {modelRef : String} :
    recipe.matchesRef modelRef = true ↔ normalizeModelRef modelRef ∈ recipe.refs := by
  unfold matchesRef refs
  rw [Bool.or_eq_true, beq_iff_eq, List.any_eq_true, List.map_cons, List.mem_cons, List.mem_map]
  constructor
  · rintro (same | ⟨name, listed, same⟩)
    · exact Or.inl same.symm
    · exact Or.inr ⟨name, listed, beq_iff_eq.mp same⟩
  · rintro (same | ⟨name, listed, same⟩)
    · exact Or.inl same.symm
    · exact Or.inr ⟨name, listed, beq_iff_eq.mpr same⟩

/-- The recipe a reference is answered by, the first that matches. -/
def resolveIn (recipes : List ModelRecipeRecord) (modelRef : String) : Option ModelRecipeRecord :=
  recipes.find? fun recipe => recipe.matchesRef modelRef

/-! ## Checks -/

/-- Fail with a message where something is wrong. -/
def refuse (wrong : Bool) (message : String) : Except ErrorChain Unit :=
  if wrong then .error (ErrorChain.ofMessage message) else .ok ()

/-- Check the items of a list in their order. -/
def checkAll {Item : Type} (check : Item -> Except ErrorChain Unit) :
    List Item -> Except ErrorChain Unit
  | [] => .ok ()
  | item :: rest => do
      check item
      checkAll check rest

/-- Check that neither side of an entry is empty. -/
def checkEntry (kind : String) (entry : String × String) : Except ErrorChain Unit := do
  requireNonempty entry.1 (kind ++ " key")
  requireNonempty entry.2 (kind ++ " value")

def validateModelDevicePolicy : String -> Except ErrorChain Unit
  | "gpu_required" => .ok ()
  | "gpu_preferred" => .ok ()
  | "cpu_only" => .ok ()
  | other => .error (ErrorChain.ofMessage ("model recipe device_policy `" ++ other ++
      "` is unsupported; expected gpu_required, gpu_preferred, or cpu_only"))

def isAsciiHexdigit (character : Char) : Bool :=
  character.isDigit || ('a' ≤ character && character ≤ 'f') ||
    ('A' ≤ character && character ≤ 'F')

/-- Sixty-four hexadecimal digits. -/
def isHexDigest (text : String) : Bool :=
  text.utf8ByteSize == 64 && text.toList.all isAsciiHexdigit

def isSha256Digest (value : String) : Bool := (stripPrefix "sha256:" value).any isHexDigest

/-! ## Artifacts -/

/-- The start of a message about an artifact. -/
def artifactOf (artifact : RecipeArtifact) (canonicalModelId : String) : String :=
  "artifact `" ++ artifact.artifactId ++ "` for `" ++ canonicalModelId ++ "` "

def validatePrefetchIntegrityMetadata (artifact : RecipeArtifact) (canonicalModelId : String) :
    Except ErrorChain Unit := do
  refuse artifact.sha256.isNone
    (artifactOf artifact canonicalModelId ++ "source_policy requires sha256 metadata")
  refuse artifact.sizeBytes.isNone
    (artifactOf artifact canonicalModelId ++ "source_policy requires size_bytes metadata")

def validateHuggingfaceSourcePolicyUri (sourcePolicy : SourcePolicyRecord)
    (artifact : RecipeArtifact) (canonicalModelId : String) : Except ErrorChain Unit := do
  refuse (!startsWith artifact.uri "https://")
    (artifactOf artifact canonicalModelId ++ "source_policy " ++ sourcePolicy.policy ++
      " requires an HTTPS Hugging Face uri")
  refuse (!isHuggingfaceUrl artifact.uri)
    (artifactOf artifact canonicalModelId ++ "source_policy " ++ sourcePolicy.policy ++
      " requires a Hugging Face uri")

def validateRequiredHost (artifact : RecipeArtifact) (canonicalModelId host : String) :
    Except ErrorChain Unit := do
  requireNonempty host "artifact source_policy required_host"
  refuse (host.toList.any fun character => ['/', '@', ':'].contains character)
    (artifactOf artifact canonicalModelId ++ "has invalid source_policy required_host `" ++ host ++
      "`")

/-- The artifact comes from one of the hosts its policy requires, if any. -/
def validateRequiredHosts (sourcePolicy : SourcePolicyRecord) (artifact : RecipeArtifact)
    (canonicalModelId : String) : Except ErrorChain Unit :=
  if sourcePolicy.requiredHosts.isEmpty then .ok ()
  else
    match httpUrlHost artifact.uri with
    | none => .error (ErrorChain.ofMessage (artifactOf artifact canonicalModelId ++
        "declares required source hosts but its uri is not HTTP(S)"))
    | some host =>
        refuse (!sourcePolicy.requiredHosts.any (eqIgnoreAsciiCase · host))
          (artifactOf artifact canonicalModelId ++ "uri host `" ++ host ++
            "` is not allowed by source_policy")

def validateNamedPolicy (sourcePolicy : SourcePolicyRecord) (artifact : RecipeArtifact)
    (canonicalModelId : String) : Except ErrorChain Unit :=
  match sourcePolicy.policy with
  | "direct_https_sha256" => do
      refuse (!startsWith artifact.uri "https://")
        (artifactOf artifact canonicalModelId ++
          "source_policy direct_https_sha256 requires an HTTPS uri")
      validatePrefetchIntegrityMetadata artifact canonicalModelId
  | "huggingface_public" => do
      refuse (artifact.gated.getD false)
        (artifactOf artifact canonicalModelId ++
          "source_policy huggingface_public cannot be used for a gated artifact")
      validateHuggingfaceSourcePolicyUri sourcePolicy artifact canonicalModelId
      validatePrefetchIntegrityMetadata artifact canonicalModelId
  | "huggingface_authenticated" => do
      validateHuggingfaceSourcePolicyUri sourcePolicy artifact canonicalModelId
      validatePrefetchIntegrityMetadata artifact canonicalModelId
  | "manual_only" => .ok ()
  | other => .error (ErrorChain.ofMessage (artifactOf artifact canonicalModelId ++
      "has unsupported source_policy `" ++ other ++ "`"))

def validateModelRecipeArtifactSourcePolicy (sourcePolicy : SourcePolicyRecord)
    (artifact : RecipeArtifact) (canonicalModelId : String) : Except ErrorChain Unit := do
  requireNonempty sourcePolicy.policy "artifact source_policy policy"
  checkAll (validateRequiredHost artifact canonicalModelId) sourcePolicy.requiredHosts
  checkAll (requireNonempty · "artifact source_policy note") artifact.notes
  validateRequiredHosts sourcePolicy artifact canonicalModelId
  validateNamedPolicy sourcePolicy artifact canonicalModelId

def validateModelRecipeArtifact (canonicalModelId : String) (artifact : RecipeArtifact) :
    Except ErrorChain Unit := do
  requireNonempty artifact.artifactId "artifact_id"
  requireNonempty artifact.kind "artifact kind"
  requireNonempty artifact.uri "artifact uri"
  refuse (artifact.sha256.any fun digest => !isHexDigest digest)
    (artifactOf artifact canonicalModelId ++ "has invalid sha256")
  match artifact.sourcePolicy with
  | none => .ok ()
  | some sourcePolicy =>
      validateModelRecipeArtifactSourcePolicy sourcePolicy artifact canonicalModelId

/-! ## Engines -/

def knownTherockFamilies : List String :=
  ["gfx90X-dgpu", "gfx90X-dcgpu", "gfx900", "gfx906", "gfx908", "gfx90a", "gfx94X-dcgpu",
    "gfx950-dcgpu", "gfx101X-dgpu", "gfx103X-dgpu", "gfx110X-all", "gfx1150", "gfx1151",
    "gfx1152", "gfx1153", "gfx120X-all", "gfx125X-dcgpu"]

/-- The start of a message about an engine of a recipe. -/
def engineOf (engineRecipe : ModelRecipeEngineRecord) (canonicalModelId : String) : String :=
  "engine recipe for `" ++ engineRecipe.engine ++ "` on `" ++ canonicalModelId ++ "` "

def ModelRecipeEngineRecord.isAim (engineRecipe : ModelRecipeEngineRecord) : Bool :=
  eqIgnoreAsciiCase engineRecipe.engine "aim"

def validateEndpoint (endpoint : ModelRecipeEndpointRecord) : Except ErrorChain Unit := do
  requireNonempty endpoint.endpointMode "engine preferred endpoint mode"
  checkAll (checkEntry "engine endpoint setting") endpoint.settings

def validateCombination (item : UnsupportedCombinationRecord) : Except ErrorChain Unit := do
  requireNonempty item.combination "engine unsupported combination"
  requireNonempty item.reason "engine unsupported combination reason"

def validateImageDigest (engineRecipe : ModelRecipeEngineRecord) (canonicalModelId digest : String) :
    Except ErrorChain Unit := do
  refuse (!engineRecipe.isAim)
    (engineOf engineRecipe canonicalModelId ++
      "sets image_digest, which only applies to container engines (aim)")
  refuse (!isSha256Digest digest)
    ("engine recipe image_digest `" ++ digest ++ "` on `" ++ canonicalModelId ++
      "` must be `sha256:` followed by 64 hex characters")

def validateProfileId (engineRecipe : ModelRecipeEngineRecord) (canonicalModelId : String)
    (entry : String × String) : Except ErrorChain Unit := do
  requireNonempty entry.2 "engine profile id"
  refuse (!engineRecipe.supportedGfxFamilies.contains entry.1)
    ("engine recipe profile_ids for `" ++ entry.1 ++ "` on `" ++ canonicalModelId ++
      "` must also be listed in supported_gfx_families")
  refuse (engineRecipe.extraEnv.any fun variable_ => variable_.1 == "AIM_PROFILE_ID")
    ("engine recipe on `" ++ canonicalModelId ++
      "` sets both profile_ids and extra_env AIM_PROFILE_ID")

def validateMinGpuCount (engineRecipe : ModelRecipeEngineRecord) (canonicalModelId : String)
    (entry : String × Nat) : Except ErrorChain Unit :=
  refuse (!engineRecipe.supportedGfxFamilies.contains entry.1 || entry.2 < 2)
    ("engine recipe min_gpu_counts for `" ++ entry.1 ++ "` on `" ++ canonicalModelId ++
      "` must be a listed supported_gfx_families entry with a count of at least 2")

/-- The record uses a field that only means something for `aim`. -/
def ModelRecipeEngineRecord.needsAim (engineRecipe : ModelRecipeEngineRecord) : Bool :=
  !engineRecipe.supportedGfxFamilies.isEmpty || !engineRecipe.minGpuCounts.isEmpty ||
    !engineRecipe.profileIds.isEmpty || engineRecipe.requiresHfToken ||
    !engineRecipe.supportedBoards.isEmpty

def ModelRecipeEngineRecord.isEmpty (engineRecipe : ModelRecipeEngineRecord) : Bool :=
  engineRecipe.requiredFlags.isEmpty && engineRecipe.parserSettings.isEmpty &&
    engineRecipe.preferredEndpoint.isNone && engineRecipe.unsupportedCombinations.isEmpty &&
    engineRecipe.notes.isEmpty && engineRecipe.modelIdOverride.isNone &&
    engineRecipe.imageDigest.isNone && engineRecipe.extraEnv.isEmpty &&
    engineRecipe.supportedGfxFamilies.isEmpty && engineRecipe.generatedAtUnixMs.isNone &&
    engineRecipe.profileIds.isEmpty && !engineRecipe.requiresHfToken &&
    engineRecipe.supportedBoards.isEmpty && engineRecipe.minGpuCounts.isEmpty

def validateModelRecipeEngineRecord (engineRecipe : ModelRecipeEngineRecord)
    (canonicalModelId : String) : Except ErrorChain Unit := do
  requireNonempty engineRecipe.engine "engine recipe engine"
  checkAll (requireNonempty · "engine required flag") engineRecipe.requiredFlags
  checkAll (checkEntry "engine parser setting") engineRecipe.parserSettings
  checkAll (checkEntry "engine extra_env") engineRecipe.extraEnv
  checkAll validateEndpoint engineRecipe.preferredEndpoint.toList
  checkAll validateCombination engineRecipe.unsupportedCombinations
  checkAll (requireNonempty · "engine recipe note") engineRecipe.notes
  checkAll (requireNonempty · "engine model id override") engineRecipe.modelIdOverride.toList
  checkAll (validateImageDigest engineRecipe canonicalModelId) engineRecipe.imageDigest.toList
  checkAll (fun family => refuse (!knownTherockFamilies.contains family)
    (engineOf engineRecipe canonicalModelId ++ "lists unknown gfx family `" ++ family ++ "`"))
    engineRecipe.supportedGfxFamilies
  checkAll (validateProfileId engineRecipe canonicalModelId) engineRecipe.profileIds
  checkAll (validateMinGpuCount engineRecipe canonicalModelId) engineRecipe.minGpuCounts
  refuse (engineRecipe.needsAim && !engineRecipe.isAim)
    (engineOf engineRecipe canonicalModelId ++
      "sets supported_gfx_families, profile_ids, min_gpu_counts, requires_hf_token or " ++
      "supported_boards, which only apply to aim")
  refuse engineRecipe.isEmpty (engineOf engineRecipe canonicalModelId ++ "must not be empty")

/-- Check the engines of a recipe; each may be named once. -/
def validateEngines (canonicalModelId : String) :
    List (String × String) -> List ModelRecipeEngineRecord -> Except ErrorChain Unit
  | _, [] => .ok ()
  | engines, engineRecipe :: rest => do
      validateModelRecipeEngineRecord engineRecipe canonicalModelId
      match engines.lookup (normalizeModelRef engineRecipe.engine) with
      | some existing => .error (ErrorChain.ofMessage (engineOf engineRecipe canonicalModelId ++
          "is duplicated by `" ++ existing ++ "`"))
      | none =>
          let engines := (normalizeModelRef engineRecipe.engine, engineRecipe.engine) :: engines
          validateEngines canonicalModelId engines rest

/-! ## Recipes -/

/-- The references seen so far, each with the id of the recipe it stands for. -/
abbrev Refs := List (String × String)

def insertUniqueModelRef (refs : Refs) (modelRef canonicalModelId : String) :
    Except ErrorChain Refs :=
  match refs.lookup (normalizeModelRef modelRef) with
  | some existing => .error (ErrorChain.ofMessage ("model recipe ref `" ++ modelRef ++
      "` is duplicated by `" ++ existing ++ "` and `" ++ canonicalModelId ++ "`"))
  | none => .ok ((normalizeModelRef modelRef, canonicalModelId) :: refs)

def insertAliases (canonicalModelId : String) : Refs -> List String -> Except ErrorChain Refs
  | refs, [] => .ok refs
  | refs, name :: rest => do
      requireNonempty name "alias"
      let refs ← insertUniqueModelRef refs name canonicalModelId
      insertAliases canonicalModelId refs rest

def validateRecipe (refs : Refs) (recipe : ModelRecipeRecord) : Except ErrorChain Refs := do
  requireNonempty recipe.canonicalModelId "canonical_model_id"
  requireNonempty recipe.task "task"
  requireNonempty recipe.source "source"
  requireNonempty recipe.revision "revision"
  requireNonempty recipe.loader "loader"
  requireNonempty recipe.dtype "dtype"
  requireNonempty recipe.devicePolicy "device_policy"
  requireNonempty recipe.chatTemplateMode "chat_template_mode"
  validateModelDevicePolicy recipe.devicePolicy
  let refs ← insertUniqueModelRef refs recipe.canonicalModelId recipe.canonicalModelId
  let refs ← insertAliases recipe.canonicalModelId refs recipe.aliases
  checkAll (validateModelRecipeArtifact recipe.canonicalModelId) recipe.artifacts
  validateEngines recipe.canonicalModelId [] recipe.engineRecipes
  return refs

def validateRecipes : Refs -> List ModelRecipeRecord -> Except ErrorChain Unit
  | _, [] => .ok ()
  | refs, recipe :: rest => do
      let refs ← validateRecipe refs recipe
      validateRecipes refs rest

def validate (document : ModelRecipeIndexDocument) : Except ErrorChain Unit := do
  refuse (document.schemaVersion != 1)
    ("model recipe index schema_version " ++ toString document.schemaVersion ++
      " is unsupported; expected 1")
  refuse document.recipes.isEmpty "model recipe index must contain at least one recipe"
  validateRecipes [] document.recipes

/-! ## One recipe for a reference -/

variable {refs inserted : Refs}

/-- An accepted reference is new and becomes the only one with its spelling. -/
theorem insertUniqueModelRef_ok {modelRef canonicalModelId : String}
    (accepted : insertUniqueModelRef refs modelRef canonicalModelId = .ok inserted) :
    normalizeModelRef modelRef ∉ refs.map Prod.fst ∧
      inserted.map Prod.fst = normalizeModelRef modelRef :: refs.map Prod.fst := by
  unfold insertUniqueModelRef at accepted
  split at accepted
  · cases accepted
  · rename_i unseen
    cases accepted
    refine ⟨?_, rfl⟩
    rw [List.mem_map]
    rintro ⟨entry, listed, same⟩
    have differs := List.lookup_eq_none_iff.mp unseen entry listed
    rw [same, bne_self_eq_false] at differs
    cases differs

theorem insertAliases_ok {canonicalModelId : String} {aliases : List String}
    (distinct : (refs.map Prod.fst).Nodup)
    (accepted : insertAliases canonicalModelId refs aliases = .ok inserted) :
    (inserted.map Prod.fst).Nodup ∧
      inserted.map Prod.fst = (aliases.map normalizeModelRef).reverse ++ refs.map Prod.fst := by
  induction aliases generalizing refs with
  | nil =>
      cases accepted
      exact ⟨distinct, rfl⟩
  | cons name rest ih =>
      rcases bind_ok.mp accepted with ⟨_, _, accepted⟩
      rcases bind_ok.mp accepted with ⟨middle, first, later⟩
      rcases insertUniqueModelRef_ok first with ⟨new, keys⟩
      have distinctMiddle : (middle.map Prod.fst).Nodup := by
        rw [keys]
        exact List.nodup_cons.mpr ⟨new, distinct⟩
      rcases ih distinctMiddle later with ⟨distinctEnd, keysEnd⟩
      refine ⟨distinctEnd, ?_⟩
      rw [keysEnd, keys, List.map_cons, List.reverse_cons, List.append_assoc]
      rfl

/-- An accepted recipe adds its references, none of which was there. -/
theorem validateRecipe_ok {recipe : ModelRecipeRecord} (distinct : (refs.map Prod.fst).Nodup)
    (accepted : validateRecipe refs recipe = .ok inserted) :
    (inserted.map Prod.fst).Nodup ∧
      inserted.map Prod.fst = recipe.refs.reverse ++ refs.map Prod.fst := by
  unfold validateRecipe at accepted
  iterate 9
    rcases bind_ok.mp accepted with ⟨_, _, accepted⟩
  rcases bind_ok.mp accepted with ⟨middle, first, accepted⟩
  rcases bind_ok.mp accepted with ⟨last, aliases, accepted⟩
  rcases bind_ok.mp accepted with ⟨_, _, accepted⟩
  rcases bind_ok.mp accepted with ⟨_, _, accepted⟩
  cases accepted
  rcases insertUniqueModelRef_ok first with ⟨new, keys⟩
  have distinctMiddle : (middle.map Prod.fst).Nodup := by
    rw [keys]
    exact List.nodup_cons.mpr ⟨new, distinct⟩
  rcases insertAliases_ok distinctMiddle aliases with ⟨distinctEnd, keysEnd⟩
  refine ⟨distinctEnd, ?_⟩
  rw [keysEnd, keys, ModelRecipeRecord.refs, List.map_cons, List.reverse_cons, List.append_assoc]
  rfl

/-- The references of an accepted list of recipes are distinct, and new. -/
theorem validateRecipes_ok {recipes : List ModelRecipeRecord}
    (distinct : (refs.map Prod.fst).Nodup) (accepted : validateRecipes refs recipes = .ok ()) :
    (recipes.flatMap ModelRecipeRecord.refs).Nodup ∧
      forall ref, ref ∈ recipes.flatMap ModelRecipeRecord.refs -> ref ∉ refs.map Prod.fst := by
  induction recipes generalizing refs with
  | nil => exact ⟨List.nodup_nil, nofun⟩
  | cons recipe rest ih =>
      rcases bind_ok.mp accepted with ⟨middle, first, later⟩
      rcases validateRecipe_ok distinct first with ⟨distinctMiddle, keys⟩
      rcases ih distinctMiddle later with ⟨distinctRest, apart⟩
      rw [keys] at distinctMiddle apart
      rcases List.nodup_append.mp distinctMiddle with ⟨distinctRecipe, _, new⟩
      rw [List.flatMap_cons]
      constructor
      · refine List.nodup_append.mpr ⟨List.nodup_reverse.mp distinctRecipe, distinctRest, ?_⟩
        rintro ref inRecipe _ inRest rfl
        exact apart ref inRest (List.mem_append_left _ (List.mem_reverse.mpr inRecipe))
      · intro ref listed
        rcases List.mem_append.mp listed with inRecipe | inRest
        · intro old
          exact new ref (List.mem_reverse.mpr inRecipe) ref old rfl
        · intro old
          exact apart ref inRest (List.mem_append_right _ old)

theorem validate_distinct {document : ModelRecipeIndexDocument}
    (accepted : validate document = .ok ()) :
    (document.recipes.flatMap ModelRecipeRecord.refs).Nodup := by
  unfold validate at accepted
  rcases bind_ok.mp accepted with ⟨_, _, accepted⟩
  rcases bind_ok.mp accepted with ⟨_, _, accepted⟩
  have noRefs : (List.map Prod.fst ([] : Refs)).Nodup := List.nodup_nil
  exact (validateRecipes_ok noRefs accepted).1

/-- At most one recipe of a list with distinct references matches one. -/
theorem matching_le_one {recipes : List ModelRecipeRecord}
    (distinct : (recipes.flatMap ModelRecipeRecord.refs).Nodup) (modelRef : String) :
    (recipes.filter (·.matchesRef modelRef)).length ≤ 1 := by
  induction recipes with
  | nil => exact Nat.zero_le _
  | cons recipe rest ih =>
      rw [List.flatMap_cons] at distinct
      rcases List.nodup_append.mp distinct with ⟨_, distinctRest, apart⟩
      rw [List.filter_cons]
      split
      · rename_i matched
        have none_ : rest.filter (·.matchesRef modelRef) = [] := by
          rw [List.filter_eq_nil_iff]
          intro other listed matchedOther
          refine apart _ (ModelRecipeRecord.matchesRef_iff.mp matched) _ ?_ rfl
          exact List.mem_flatMap.mpr
            ⟨other, listed, ModelRecipeRecord.matchesRef_iff.mp matchedOther⟩
        rw [none_]
        exact Nat.le_refl _
      · exact ih distinctRest

/-- Where at most one item passes, the first that passes does not depend on the
order. -/
theorem find?_perm {Item : Type} {test : Item -> Bool} {items reordered : List Item}
    (single : (items.filter test).length ≤ 1) (order : reordered.Perm items) :
    reordered.find? test = items.find? test := by
  rw [← List.head?_filter, ← List.head?_filter]
  have kept := order.filter test
  match passing : items.filter test, single with
  | [], _ =>
      rw [passing] at kept
      rw [List.perm_nil.mp kept]
  | [item], _ =>
      rw [passing] at kept
      rw [List.perm_singleton.mp kept]

end RecipeIndex
end RocmCli
