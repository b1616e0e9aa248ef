import RocmCli.Support.CrashSteps
import RocmCli.Support.Text

namespace RocmCli
namespace MetadataCache

open Text Crash

/-!
# Cached metadata downloads

A download asks the server, with the tag of the generation it has, and stores
the generation it is given.  Texts are the bytes they are made of, a cache file
is the value it decodes to, and the check of a signature is a parameter.
-/

abbrev Bytes := List UInt8

structure CachedHttpSignatureMetadata where
  url : String
  verifiedAtUnixMs : Nat
  publicKeySource : String
  deriving DecidableEq

structure CachedHttpMetadata where
  url : String
  etag : Option String
  lastModified : Option String
  signature : Option CachedHttpSignatureMetadata
  fetchedAtUnixMs : Nat
  deriving DecidableEq

structure CachedHttpCacheEntry where
  metadata : CachedHttpMetadata
  body : Bytes
  signatureBytes : Option Bytes
  deriving DecidableEq

structure HttpResponseBody where
  status : Nat
  headers : String
  body : Bytes

/-- What a metadata file decodes to.  Older generations hold the metadata
alone, with the body and the signature in files of their own. -/
inductive MetadataFile where
  | entry (entry : CachedHttpCacheEntry)
  | metadata (metadata : CachedHttpMetadata)
  | unreadable

/-- The files of a cache, by the name that a cache key is turned into. -/
structure CacheFiles where
  metadata : String -> Option MetadataFile
  body : String -> Option Bytes
  signature : String -> Option Bytes

def CacheFiles.empty : CacheFiles := ⟨fun _ => none, fun _ => none, fun _ => none⟩

inductive KeyFile where
  | missing
  | unreadable
  | text (pem : String)

/-- What a server sends: its status, its headers and its body. -/
structure RawResponse where
  status : Nat
  headers : List (String × String)
  body : Bytes

abbrev Verifier := String -> Bytes -> Bytes -> Except ErrorChain Unit

/-- What one download finds around it. -/
structure Machine where
  environment : String -> Option String
  keyFile : String -> KeyFile
  http : String -> List (String × String) -> Except ErrorChain RawResponse
  now : Nat
  verify : Verifier

def fail {R : Type} (message : String) : Except ErrorChain R := .error (.ofMessage message)

/-! ## The signature policy -/

structure MetadataSignaturePolicy where
  required : Bool
  publicKeyPath : Option String
  publicKeyPem : Option String

def pinnedMetadataPublicKeyPem : String := ""

def pinnedMetadataPublicKey : Option String :=
  let pem := trim pinnedMetadataPublicKeyPem
  if pem = "" then none else some pem

def truthyEnv (environment : String -> Option String) (name : String) : Bool :=
  (environment name).any fun value =>
    ["1", "true", "TRUE", "yes", "YES", "on", "ON"].contains (trim value)

def envNonempty (environment : String -> Option String) (name : String) : Option String :=
  ((environment name).map trim).filter (· ≠ "")

namespace MetadataSignaturePolicy

/-- A key of the environment wins over the pinned one. -/
def resolve (envRequired : Bool) (envPath envPem pinnedPem : Option String) :
    MetadataSignaturePolicy :=
  let pinned := if envPath.isNone && envPem.isNone then pinnedPem else none
  { required := envRequired || pinned.isSome
    publicKeyPath := envPath
    publicKeyPem := envPem.or pinned }

def fromEnv (environment : String -> Option String) : MetadataSignaturePolicy :=
  resolve (truthyEnv environment "ROCM_CLI_REQUIRE_METADATA_SIGNATURE")
    (envNonempty environment "ROCM_CLI_METADATA_PUBLIC_KEY_PATH")
    (envNonempty environment "ROCM_CLI_METADATA_PUBLIC_KEY_PEM") pinnedMetadataPublicKey

def active (policy : MetadataSignaturePolicy) : Bool :=
  policy.required || policy.publicKeyPath.isSome || policy.publicKeyPem.isSome

def noKeyMessage : String :=
  "metadata signature verification requires ROCM_CLI_METADATA_PUBLIC_KEY_PATH or ROCM_CLI_METADATA_PUBLIC_KEY_PEM"

def validateConfiguration (policy : MetadataSignaturePolicy) (keyFile : String -> KeyFile) :
    Except ErrorChain Unit :=
  if !policy.active then .ok ()
  else
    match policy.publicKeyPath, policy.publicKeyPem with
    | some path, _ =>
        match keyFile path with
        | .missing => fail s!"metadata public key not found: {path}"
        | .unreadable | .text _ => .ok ()
    | none, some _ => .ok ()
    | none, none => fail noKeyMessage

end MetadataSignaturePolicy

/-- Where a key is read from: its own file, or one staged for it. -/
inductive KeyPlace where
  | path (path : String)
  | staged (pem : String)

def readPublicKey (keyFile : String -> KeyFile) : KeyPlace -> Except ErrorChain String
  | .staged pem => .ok pem
  | .path path =>
      match keyFile path with
      | .text pem => .ok pem
      | .missing | .unreadable => fail s!"failed to read metadata public key: {path}"

def withMetadataPublicKey {R : Type} (policy : MetadataSignaturePolicy)
    (keyFile : String -> KeyFile) (verify : KeyPlace -> String -> Except ErrorChain R) :
    Except ErrorChain (Option R) :=
  if !policy.active then .ok none
  else
    match policy.publicKeyPath, policy.publicKeyPem with
    | some path, _ => do
        policy.validateConfiguration keyFile
        let value <- verify (.path path) "path"
        .ok (some value)
    | none, some pem => do
        let value <- verify (.staged pem) "env-pem"
        .ok (some value)
    | none, none => fail MetadataSignaturePolicy.noKeyMessage

/-! ## Requests -/

def therockMaxMetadataBytes : Nat := 16 * 1024 * 1024

def headerText (headers : List (String × String)) : String :=
  "\n".intercalate (headers.map fun header => s!"{header.1}: {header.2}")

def lowercase (text : List Char) : List Char := text.map Char.toLower

/-- The value of the last line for a header, unless it is blank. -/
def httpHeaderValue (headers name : String) : Option String :=
  let start := lowercase name.toList ++ [':']
  (headers.toList.splitOn '\n').foldl (fun value line =>
    let trimmed := (trim (String.ofList line)).toList
    if start.isPrefixOf (lowercase trimmed) then
      some (trim (String.ofList ((trimmed.dropWhile (· ≠ ':')).drop 1))) |>.filter (· ≠ "")
    else value) none

section Machine

variable (machine : Machine)

def httpGet (url : String) (headers : List (String × String)) :
    Except ErrorChain HttpResponseBody :=
  match machine.http url headers with
  | .error error => .error (error.context s!"HTTP request failed for {url}")
  | .ok response =>
      if therockMaxMetadataBytes < response.body.length then
        fail s!"HTTP response body for {url} exceeded the approved metadata limit of {therockMaxMetadataBytes} bytes"
      else .ok ⟨response.status, headerText response.headers, response.body⟩

def metadataSignatureUrl (url : String) : String := url ++ ".sig"

def verifyMetadataSignatureBytes (payload signature : Bytes) (place : KeyPlace) :
    Except ErrorChain Unit := do
  let pem <- readPublicKey machine.keyFile place
  machine.verify pem payload signature

def fetchAndVerifyMetadataSignature (policy : MetadataSignaturePolicy) (url : String)
    (payload : Bytes) : Except ErrorChain (Option (CachedHttpSignatureMetadata × Bytes)) :=
  if !policy.active then .ok none
  else do
    let signatureUrl := metadataSignatureUrl url
    let response <- httpGet machine signatureUrl []
    if response.status ≠ 200 then
      fail s!"HTTP {response.status} while fetching metadata signature {signatureUrl}"
    else
      let verified <- withMetadataPublicKey policy machine.keyFile fun place source => do
        verifyMetadataSignatureBytes machine payload response.body place
        .ok source
      match verified with
      | none =>
          fail "metadata signature policy was active but no public key was resolved"
      | some publicKeySource =>
          .ok (some (⟨signatureUrl, machine.now, publicKeySource⟩, response.body))

/-! ## The cache -/

def slugify (value : String) : String :=
  String.ofList (value.toList.map fun character =>
    if character.isAlphanum then character.toLower else '-')

def loadCachedHttpEntry (files : CacheFiles) (name : String) : Option CachedHttpCacheEntry :=
  match files.metadata name with
  | none | some .unreadable => none
  | some (.entry entry) => some entry
  | some (.metadata metadata) => do
      let body <- files.body name
      match metadata.signature with
      | none => some ⟨metadata, body, none⟩
      | some _ => do
          let signature <- files.signature name
          some ⟨metadata, body, some signature⟩

def cachedHttpEntryCanRevalidate (entry : CachedHttpCacheEntry)
    (policy : MetadataSignaturePolicy) : Bool :=
  !policy.active || (entry.metadata.signature.isSome && entry.signatureBytes.isSome)

def verifyCachedHttpEntrySignature (policy : MetadataSignaturePolicy)
    (entry : CachedHttpCacheEntry) : Except ErrorChain Unit :=
  if !policy.active then .ok ()
  else
    match entry.signatureBytes with
    | none =>
        fail "metadata signature verification requested but cached signature bytes are missing"
    | some signature => do
        let _ <- withMetadataPublicKey policy machine.keyFile fun place _ =>
          verifyMetadataSignatureBytes machine entry.body signature place
        .ok ()

/-! ## Downloads -/

/-- The generation that the cache has for a url. -/
def previousEntry (files : CacheFiles) (cacheKey url : String) : Option CachedHttpCacheEntry :=
  (loadCachedHttpEntry files (slugify cacheKey)).filter (·.metadata.url == url)

def revalidationHeaders (policy : MetadataSignaturePolicy)
    (previous : Option CachedHttpCacheEntry) : List (String × String) :=
  match (previous.filter (cachedHttpEntryCanRevalidate · policy)).bind (·.metadata.etag) with
  | none => []
  | some etag => [("If-None-Match", etag)]

/-- A generation that the server sent in full, with its signature. -/
def fetchedEntry (policy : MetadataSignaturePolicy) (url : String) (response : HttpResponseBody) :
    Except ErrorChain CachedHttpCacheEntry :=
  if response.status ≠ 200 then fail s!"HTTP {response.status} while fetching {url}"
  else if !isUtf8 response.body then fail "metadata response body was not valid UTF-8"
  else do
    let fetched <- fetchAndVerifyMetadataSignature machine policy url response.body
    let metadata : CachedHttpMetadata :=
      { url := url
        etag := httpHeaderValue response.headers "etag"
        lastModified := httpHeaderValue response.headers "last-modified"
        signature := fetched.map Prod.fst
        fetchedAtUnixMs := machine.now }
    .ok ⟨metadata, response.body, fetched.map Prod.snd⟩

/-- What a response comes to: the text, and the generation to store. -/
def answerTo (policy : MetadataSignaturePolicy) (previous : Option CachedHttpCacheEntry)
    (url : String) (response : HttpResponseBody) :
    Except ErrorChain (Bytes × Option CachedHttpCacheEntry) :=
  if response.status = 304 then
    match previous with
    | none =>
        fail "metadata cache returned 304 but no complete cached generation is available"
    | some entry => do
        verifyCachedHttpEntrySignature machine policy entry
        .ok (entry.body, none)
  else do
    let entry <- fetchedEntry machine policy url response
    .ok (entry.body, some entry)

def answer (files : CacheFiles) (cacheKey url : String) :
    Except ErrorChain (Bytes × Option CachedHttpCacheEntry) := do
  let policy := MetadataSignaturePolicy.fromEnv machine.environment
  policy.validateConfiguration machine.keyFile
  let previous := previousEntry files cacheKey url
  let response <- httpGet machine url (revalidationHeaders policy previous)
  answerTo machine policy previous url response

def clear (name : String) (stored : String -> Option Bytes) : String -> Option Bytes :=
  fun other => if other = name then none else stored other

/-- The new generation in one step, then the files of an older one. -/
def storeEntry (name : String) (entry : CachedHttpCacheEntry) : Program CacheFiles :=
  Program.seq
    (Program.step fun files => { files with
      metadata := fun other => if other = name then some (.entry entry) else files.metadata other })
    (Program.seq
      (Program.step fun files => { files with body := clear name files.body })
      (Program.step fun files => { files with signature := clear name files.signature }))

/-- The changes a download makes to the cache. -/
def changes (cacheKey url : String) : Program CacheFiles := fun files =>
  match answer machine files cacheKey url with
  | .ok (_, some entry) => storeEntry (slugify cacheKey) entry files
  | .ok (_, none) | .error _ => []

def downloadTextCached (files : CacheFiles) (cacheKey url : String) : Except ErrorChain Bytes :=
  (answer machine files cacheKey url).map Prod.fst

end Machine

end MetadataCache
end RocmCli
