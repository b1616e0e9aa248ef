import RocmCli.Support.Text

namespace RocmCli
namespace ModelCatalog

open Text

/-!
# What may be downloaded

A recipe's artifact is downloaded only by a caller that has approved its source
and only under the rules its record declares, with the bytes' size and digest
named in advance.
-/

structure SourcePolicyRecord where
  policy : String
  requiredHosts : List String
  deriving DecidableEq, Repr

structure ModelRecipeArtifactRecord where
  artifactId : String
  kind : String
  uri : String
  sha256 : Option String
  sizeBytes : Option Nat
  gated : Option Bool
  sourcePolicy : Option SourcePolicyRecord
  deriving DecidableEq, Repr

structure SandboxToolPolicy where
  allowArtifactDownload : Bool
  artifactMaxBytes : Option Nat
  allowHuggingfaceDownload : Bool
  huggingfaceToken : Option String
  deriving DecidableEq, Repr

def startsWith (text start : String) : Bool := start.toList.isPrefixOf text.toList

def endsWith (text suffix : String) : Bool := suffix.toList.isSuffixOf text.toList

def toAsciiLowercase (text : String) : String := String.ofList (text.toList.map Char.toLower)

/-! ## Hosts -/

/-- What follows the scheme of an HTTP(S) URL. -/
def afterScheme (url : String) : Option (List Char) :=
  if startsWith url "https://" then some (url.toList.drop 8)
  else if startsWith url "http://" then some (url.toList.drop 7)
  else none

def trimEndDots (text : List Char) : List Char :=
  (text.reverse.dropWhile (· == '.')).reverse

/-- What is before a closing bracket, if there is one. -/
def bracketed : List Char -> Option (List Char)
  | '[' :: rest => if ']' ∈ rest then some (rest.takeWhile (· != ']')) else none
  | _ => none

def httpUrlHost (url : String) : Option String := do
  let rest ← afterScheme url
  let authority := (trim (String.ofList (rest.takeWhile fun character =>
    !(['/', '?', '#'].contains character)))).toList
  if authority.isEmpty || authority.contains '@' then none
  else
    let host := (bracketed authority).getD (authority.takeWhile (· != ':'))
    let host := toAsciiLowercase (String.ofList
      (trimEndDots (trim (String.ofList host)).toList))
    if host = "" then none else some host

def isHuggingfaceUrl (url : String) : Bool :=
  (httpUrlHost url).any fun host =>
    host == "huggingface.co" || endsWith host ".huggingface.co" || host == "hf.co" ||
      endsWith host ".hf.co"

/-! ## Rules -/

def artifactIsHuggingface (artifact : ModelRecipeArtifactRecord) : Bool :=
  ["huggingface", "hf", "hugging_face"].contains (toAsciiLowercase artifact.kind) ||
    isHuggingfaceUrl artifact.uri

def artifactDeclaresHuggingfaceAuthenticatedPolicy (artifact : ModelRecipeArtifactRecord) : Bool :=
  artifact.sourcePolicy.any fun policy => policy.policy == "huggingface_authenticated"

def huggingfacePolicyUriBlockMessage (artifact : ModelRecipeArtifactRecord) (policy : String) :
    Option String :=
  if !startsWith artifact.uri "https://" then
    some s!"recipe source policy {policy} requires an HTTPS Hugging Face artifact URI"
  else if !isHuggingfaceUrl artifact.uri then
    some s!"recipe source policy {policy} requires a Hugging Face artifact URI"
  else none

def requiredHostsBlockMessage (artifact : ModelRecipeArtifactRecord)
    (policy : SourcePolicyRecord) : Option String :=
  if policy.requiredHosts.isEmpty then none
  else
    match httpUrlHost artifact.uri with
    | none =>
        some "recipe source policy declares required hosts but the artifact URI is not HTTP(S)"
    | some host =>
        if policy.requiredHosts.any (eqIgnoreAsciiCase · host) then none
        else some ("artifact host `" ++ host ++ "` is not allowed by the recipe source policy")

def namedPolicyBlockMessage (artifact : ModelRecipeArtifactRecord) : String -> Option String
  | "direct_https_sha256" =>
      if startsWith artifact.uri "https://" then none
      else some "recipe source policy direct_https_sha256 requires an HTTPS artifact URI"
  | "huggingface_public" =>
      if artifact.gated.getD false then
        some ("recipe source policy marks this as public Hugging Face, but the artifact is " ++
          "gated")
      else huggingfacePolicyUriBlockMessage artifact "huggingface_public"
  | "huggingface_authenticated" =>
      huggingfacePolicyUriBlockMessage artifact "huggingface_authenticated"
  | "manual_only" =>
      some ("recipe source policy marks this artifact as manual-only; rocm-cli will not " ++
        "download it")
  | other =>
      some ("recipe source policy `" ++ other ++ "` is not supported by this rocm-cli build")

def declaredSourcePolicyBlockMessage (artifact : ModelRecipeArtifactRecord) : Option String :=
  artifact.sourcePolicy.bind fun policy =>
    (requiredHostsBlockMessage artifact policy).or (namedPolicyBlockMessage artifact policy.policy)

/-! ## Plans -/

/-- What a download is made with. -/
structure PrefetchPlan where
  sourcePolicy : String
  authorization : Option String
  expectedSha256 : String
  sizeBytes : Nat
  maxBytes : Nat
  deriving DecidableEq, Repr

/-- The policy a download comes under, and the token it sends. -/
def sourcePolicyOf (artifact : ModelRecipeArtifactRecord) (policy : SandboxToolPolicy) :
    Except String (String × Option String) :=
  if artifactIsHuggingface artifact && (artifact.gated.getD false ||
      policy.allowHuggingfaceDownload ||
      artifactDeclaresHuggingfaceAuthenticatedPolicy artifact) then
    if !policy.allowHuggingfaceDownload then
      .error ("Hugging Face artifacts require --allow-huggingface-download before rocm-cli may " ++
        "use an authentication token")
    else if !startsWith artifact.uri "https://" then
      .error ("rocm-cli will not send a Hugging Face token over plain HTTP; use an HTTPS " ++
        "Hugging Face artifact URI")
    else if !isHuggingfaceUrl artifact.uri then
      .error "rocm-cli will not send a Hugging Face token to a non-Hugging Face URL"
    else
      match (policy.huggingfaceToken.map trim).filter (· ≠ "") with
      | none =>
          .error ("Hugging Face artifact prefetch needs ROCM_CLI_HUGGINGFACE_TOKEN, HF_TOKEN, " ++
            "or HUGGING_FACE_HUB_TOKEN")
      | some token => .ok ("huggingface_authenticated", some s!"Bearer {token}")
  else .ok ("explicit_allow_artifact_download", none)

def isHexDigit (character : Char) : Bool :=
  character.isDigit || ('a' ≤ character && character ≤ 'f') ||
    ('A' ≤ character && character ≤ 'F')

def validSha256 (artifact : ModelRecipeArtifactRecord) : Option String :=
  (artifact.sha256.map fun value => toAsciiLowercase (trim value)).filter fun value =>
    value.utf8ByteSize = 64 && value.toList.all isHexDigit

def kindBlockMessage (artifact : ModelRecipeArtifactRecord) : Option String :=
  let huggingface := artifactIsHuggingface artifact
  let direct := ["url", "http", "https", "direct"].contains (toAsciiLowercase artifact.kind)
  if artifact.gated.getD false && !huggingface then
    some "gated artifacts require a source-specific authentication policy before download"
  else if !direct && !huggingface then
    some "approved live prefetch currently supports direct HTTP(S) artifacts only"
  else if !startsWith artifact.uri "https://" && !startsWith artifact.uri "http://" then
    some (if huggingface then
      "authenticated Hugging Face prefetch requires an HTTP(S) artifact URI in the signed " ++
        "recipe metadata"
    else "approved live prefetch requires an HTTP(S) artifact URI")
  else none

def blocked : Option String -> Except String Unit
  | some message => .error message
  | none => .ok ()

/-- What a download is made with, or why none is. -/
def prefetchPlan (artifact : ModelRecipeArtifactRecord) (policy : SandboxToolPolicy) :
    Except String PrefetchPlan := do
  blocked (declaredSourcePolicyBlockMessage artifact)
  blocked (kindBlockMessage artifact)
  let (sourcePolicy, authorization) ← sourcePolicyOf artifact policy
  match validSha256 artifact with
  | none =>
      .error "approved live prefetch requires a valid sha256 in the recipe artifact metadata"
  | some expectedSha256 =>
    match artifact.sizeBytes with
    | none =>
        .error "approved live prefetch requires size_bytes in the recipe artifact metadata"
    | some sizeBytes =>
        let maxBytes := policy.artifactMaxBytes.getD sizeBytes
        if maxBytes < sizeBytes then
          .error "artifact size exceeds the approved download byte limit"
        else .ok ⟨sourcePolicy, authorization, expectedSha256, sizeBytes, maxBytes⟩

/-- A download is made with the size and the digest of its record. -/
theorem prefetchPlan_names {artifact : ModelRecipeArtifactRecord} {policy : SandboxToolPolicy}
    {plan : PrefetchPlan} (planned : prefetchPlan artifact policy = .ok plan) :
    artifact.sizeBytes = some plan.sizeBytes ∧ validSha256 artifact = some plan.expectedSha256 := by
  unfold prefetchPlan at planned
  cases declared : blocked (declaredSourcePolicyBlockMessage artifact) with
  | error message => rw [declared] at planned; cases planned
  | ok _ =>
    cases kind : blocked (kindBlockMessage artifact) with
    | error message => rw [declared, kind] at planned; cases planned
    | ok _ =>
      cases source : sourcePolicyOf artifact policy with
      | error message => rw [declared, kind, source] at planned; cases planned
      | ok found =>
        rw [declared, kind, source] at planned
        change (match validSha256 artifact with | none => _ | some _ => _) = _ at planned
        split at planned
        next => cases planned
        next expected isExpected =>
          split at planned
          next => cases planned
          next size isSize =>
            dsimp only at planned
            split at planned
            next => cases planned
            next =>
              cases planned
              exact ⟨isSize, isExpected⟩

example : httpUrlHost "https://[::1]:80/a" = some "::1" := by decide

end ModelCatalog
end RocmCli
