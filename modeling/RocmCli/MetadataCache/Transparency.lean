import RocmCli.MetadataCache.Fetch

namespace RocmCli
namespace MetadataCache

open Text Crash

/-!
# What the cache changes

A history is a list of downloads, each with the machine it ran on and the
number of its steps that were taken.  After any history every generation in the
cache is one that a server sent for its url.  The next download returns what it
would return with an empty cache, unless the server confirms a generation whose
signature does not verify under the key of the day.
-/

/-- One download, with what it found around it. -/
structure Call where
  machine : Machine
  cacheKey : String
  url : String

/-- The cache after downloads that were stopped after so many steps. -/
def after (history : List (Call × Nat)) : CacheFiles :=
  history.foldl (fun files stopped =>
    (changes stopped.1.machine stopped.1.cacheKey stopped.1.url).stoppedAfter stopped.2 files)
    CacheFiles.empty

namespace Call

variable (call : Call)

def policy : MetadataSignaturePolicy := .fromEnv call.machine.environment

/-- The public key that is configured, if it can be read. -/
def key : Option String :=
  match call.policy.publicKeyPath, call.policy.publicKeyPem with
  | some path, _ =>
      match call.machine.keyFile path with
      | .text pem => some pem
      | .missing | .unreadable => none
  | none, some pem => some pem
  | none, none => none

def result (files : CacheFiles) : Except ErrorChain Bytes :=
  downloadTextCached call.machine files call.cacheKey call.url

end Call

def etagOf (response : RawResponse) : Option String :=
  httpHeaderValue (headerText response.headers) "etag"

/-- A server that answers from one representation of a url, and has a signature
for it under the key that is configured. -/
structure Serves (call : Call) (current : RawResponse) : Prop where
  status : current.status = 200
  plain : call.machine.http call.url [] = .ok current
  changed : forall etag, etagOf current ≠ some etag ->
    call.machine.http call.url [("If-None-Match", etag)] = .ok current
  unchanged : forall etag, etagOf current = some etag ->
    exists response, call.machine.http call.url [("If-None-Match", etag)] = .ok response ∧
      response.status = 304 ∧ response.body = []
  signature : forall pem, call.key = some pem ->
    exists response, call.machine.http (metadataSignatureUrl call.url) [] = .ok response ∧
      response.status = 200 ∧ response.body.length ≤ therockMaxMetadataBytes ∧
      call.machine.verify pem current.body response.body = .ok ()

/-- Whatever was sent for the url under the tag of the current representation
is the current representation. -/
def EtagIdentifies (history : List (Call × Nat)) (url : String) (current : RawResponse) : Prop :=
  forall stopped, stopped ∈ history -> stopped.1.url = url -> forall headers response,
    stopped.1.machine.http url headers = .ok response -> response.status = 200 ->
    etagOf response = etagOf current -> etagOf current ≠ none -> response.body = current.body

/-- The cache has the current representation, with a signature that the key of
the day does not accept. -/
def ConfirmsUnverifiable (call : Call) (files : CacheFiles) (current : RawResponse) : Prop :=
  call.policy.active = true ∧
    exists pem entry signature, call.key = some pem ∧
      previousEntry files call.cacheKey call.url = some entry ∧
      entry.metadata.signature ≠ none ∧ entry.signatureBytes = some signature ∧
      entry.metadata.etag ≠ none ∧ entry.metadata.etag = etagOf current ∧
      call.machine.verify pem entry.body signature ≠ .ok ()

/-! ## What histories leave -/

/-- A generation that a server sent for its url. -/
def Sent (history : List (Call × Nat)) (entry : CachedHttpCacheEntry) : Prop :=
  exists stopped headers response, stopped ∈ history ∧ stopped.1.url = entry.metadata.url ∧
    stopped.1.machine.http entry.metadata.url headers = .ok response ∧ response.status = 200 ∧
    response.body = entry.body ∧ entry.metadata.etag = etagOf response ∧
    isUtf8 entry.body = true ∧ entry.body.length ≤ therockMaxMetadataBytes

def Recorded (history : List (Call × Nat)) (files : CacheFiles) : Prop :=
  forall name file, files.metadata name = some file ->
    exists entry, file = .entry entry ∧ Sent history entry

variable {machine : Machine} {url : String}

theorem httpGet_ok {headers : List (String × String)} {body : HttpResponseBody}
    (isBody : httpGet machine url headers = .ok body) :
    exists response, machine.http url headers = .ok response ∧
      response.body.length ≤ therockMaxMetadataBytes ∧
      body = ⟨response.status, headerText response.headers, response.body⟩ := by
  unfold httpGet at isBody
  rcases sent : machine.http url headers with error | response
  · rw [sent] at isBody
    cases isBody
  · rw [sent] at isBody
    dsimp only at isBody
    by_cases large : therockMaxMetadataBytes < response.body.length
    · rw [if_pos large] at isBody
      cases isBody
    · rw [if_neg large] at isBody
      exact ⟨response, rfl, Nat.le_of_not_lt large, (Except.ok.inj isBody).symm⟩

theorem fetchedEntry_ok {policy : MetadataSignaturePolicy} {response : HttpResponseBody}
    {entry : CachedHttpCacheEntry}
    (isEntry : fetchedEntry machine policy url response = .ok entry) :
    response.status = 200 ∧ isUtf8 response.body = true ∧ entry.body = response.body ∧
      entry.metadata.url = url ∧
      entry.metadata.etag = httpHeaderValue response.headers "etag" ∧
      exists fetched, fetchAndVerifyMetadataSignature machine policy url response.body =
        .ok fetched := by
  unfold fetchedEntry at isEntry
  by_cases status : response.status ≠ 200
  · rw [if_pos status] at isEntry
    cases isEntry
  · rw [if_neg status] at isEntry
    by_cases invalid : (!isUtf8 response.body) = true
    · rw [if_pos invalid] at isEntry
      cases isEntry
    · rw [if_neg invalid] at isEntry
      rcases fetched : fetchAndVerifyMetadataSignature machine policy url response.body with
        error | found
      · rw [fetched] at isEntry
        cases isEntry
      · rw [fetched] at isEntry
        have same := Except.ok.inj isEntry
        refine ⟨not_not.mp status, by simpa using invalid, ?_, ?_, ?_, ⟨found, rfl⟩⟩
        · exact congrArg CachedHttpCacheEntry.body same.symm
        · exact congrArg (fun entry => entry.metadata.url) same.symm
        · exact congrArg (fun entry => entry.metadata.etag) same.symm

/-- What a download stores was sent for its url. -/
theorem answer_stores {files : CacheFiles} {cacheKey : String} {text : Bytes}
    {entry : CachedHttpCacheEntry}
    (stores : answer machine files cacheKey url = .ok (text, some entry)) :
    entry.metadata.url = url ∧ exists headers response,
      machine.http url headers = .ok response ∧ response.status = 200 ∧
        response.body = entry.body ∧ entry.metadata.etag = etagOf response ∧
        isUtf8 entry.body = true ∧ entry.body.length ≤ therockMaxMetadataBytes := by
  rcases bind_ok.mp stores with ⟨_, _, afterValidation⟩
  rcases bind_ok.mp afterValidation with ⟨body, isBody, answered⟩
  rcases httpGet_ok isBody with ⟨response, sent, small, rfl⟩
  unfold answerTo at answered
  dsimp only at answered
  by_cases unchanged : response.status = 304
  · rw [if_pos unchanged] at answered
    rcases isPrevious : previousEntry files cacheKey url with _ | previous
    · rw [isPrevious] at answered
      cases answered
    · rw [isPrevious] at answered
      rcases bind_ok.mp answered with ⟨_, _, same⟩
      cases same
  · rw [if_neg unchanged] at answered
    rcases bind_ok.mp answered with ⟨fetched, isFetched, same⟩
    have isEntry : fetched = entry := Option.some.inj (Prod.mk.inj (Except.ok.inj same)).2
    rw [isEntry] at isFetched
    rcases fetchedEntry_ok isFetched with ⟨status, valid, isText, sameUrl, etag, _⟩
    refine ⟨sameUrl, _, response, sent, status, isText.symm, etag, ?_, ?_⟩
    · rw [isText]
      exact valid
    · rw [isText]
      exact small

variable {history : List (Call × Nat)}

theorem Sent.more {more : List (Call × Nat)} {entry : CachedHttpCacheEntry}
    (sent : Sent history entry) : Sent (history ++ more) entry := by
  rcases sent with ⟨stopped, headers, response, member, rest⟩
  exact ⟨stopped, headers, response, List.mem_append_left more member, rest⟩

/-- Each state on the way has the old generation of a name or the new one. -/
theorem storeEntry_metadata {name : String} {entry : CachedHttpCacheEntry}
    {files state : CacheFiles} (member : state ∈ storeEntry name entry files) (other : String)
    (file : MetadataFile) (there : state.metadata other = some file) :
    file = .entry entry ∨ files.metadata other = some file := by
  have same : forall written : CacheFiles, written ∈ storeEntry name entry files ->
      written.metadata = fun other =>
        if other = name then some (.entry entry) else files.metadata other := by
    intro written inside
    rcases Program.mem_seq.mp inside with first | later
    · rw [List.mem_singleton.mp first]
    · rcases Program.mem_seq.mp later with second | third
      · rw [List.mem_singleton.mp second]
        rfl
      · rw [List.mem_singleton.mp third]
        rfl
  rw [same state member] at there
  dsimp only at there
  by_cases written : other = name
  · rw [if_pos written] at there
    exact Or.inl (Option.some.inj there).symm
  · rw [if_neg written] at there
    exact Or.inr there

theorem recorded_step {files : CacheFiles} (recorded : Recorded history files) (call : Call)
    (steps : Nat) :
    Recorded (history ++ [(call, steps)])
      ((changes call.machine call.cacheKey call.url).stoppedAfter steps files) := by
  have kept : Recorded (history ++ [(call, steps)]) files := by
    intro name file there
    rcases recorded name file there with ⟨entry, isEntry, sent⟩
    exact ⟨entry, isEntry, sent.more⟩
  rcases Program.stoppedAfter_mem (changes call.machine call.cacheKey call.url) steps files with
    same | passed
  · rw [same]
    exact kept
  · intro name file there
    rcases stores : answer call.machine files call.cacheKey call.url with error | ⟨text, stored⟩
    · unfold changes at passed
      rw [stores] at passed
      exact absurd passed List.not_mem_nil
    · rcases stored with _ | entry
      · unfold changes at passed
        rw [stores] at passed
        exact absurd passed List.not_mem_nil
      · have inside : (changes call.machine call.cacheKey call.url).stoppedAfter steps files ∈
            storeEntry (slugify call.cacheKey) entry files := by
          unfold changes at passed
          rw [stores] at passed
          exact passed
        rcases storeEntry_metadata inside name file there with isEntry | old
        · rcases answer_stores stores with ⟨sameUrl, headers, response, sent, rest⟩
          refine ⟨entry, isEntry, (call, steps), headers, response,
            List.mem_append_right _ List.mem_cons_self, sameUrl.symm, ?_, rest⟩
          rw [sameUrl]
          exact sent
        · exact kept name file old

theorem recorded_after (history : List (Call × Nat)) : Recorded history (after history) := by
  induction history using List.reverseRecOn with
  | nil => exact fun name file there => nomatch there
  | append_singleton history stopped ih =>
      unfold after
      rw [List.foldl_append]
      exact recorded_step ih stopped.1 stopped.2

/-- The generation that a download has was sent for its url. -/
theorem previousEntry_sent {cacheKey : String} {entry : CachedHttpCacheEntry}
    (isPrevious : previousEntry (after history) cacheKey url = some entry) :
    entry.metadata.url = url ∧ Sent history entry := by
  rcases Option.filter_eq_some_iff.mp isPrevious with ⟨loaded, sameUrl⟩
  refine ⟨by simpa using sameUrl, ?_⟩
  unfold loadCachedHttpEntry at loaded
  rcases there : (after history).metadata (slugify cacheKey) with _ | file
  · rw [there] at loaded
    cases loaded
  · rcases recorded_after history _ file there with ⟨stored, rfl, sent⟩
    rw [there] at loaded
    rw [← Option.some.inj loaded]
    exact sent

/-! ## The key of the day -/

section Keys

variable {call : Call} {R : Type}

variable {pem : String}

theorem validate_of_key (isKey : call.key = some pem) :
    call.policy.validateConfiguration call.machine.keyFile = .ok () := by
  unfold Call.key at isKey
  unfold MetadataSignaturePolicy.validateConfiguration
  by_cases inactive : (!call.policy.active) = true
  · exact if_pos inactive
  · rw [if_neg inactive]
    rcases hasPath : call.policy.publicKeyPath with _ | path
    · rw [hasPath] at isKey
      rcases hasPem : call.policy.publicKeyPem with _ | text
      · rw [hasPem] at isKey
        cases isKey
      · rfl
    · rw [hasPath] at isKey
      dsimp only at isKey ⊢
      rcases found : call.machine.keyFile path with _ | _ | text
      · rw [found] at isKey
        cases isKey
      · rfl
      · rfl

theorem not_inactive (active : call.policy.active = true) : ¬ (!call.policy.active) = true := by
  rw [active]
  exact Bool.false_ne_true

/-- With a key, what is verified is verified with it. -/
theorem withMetadataPublicKey_of_key (active : call.policy.active = true)
    (isKey : call.key = some pem) :
    exists place source, readPublicKey call.machine.keyFile place = .ok pem ∧
      forall verify : KeyPlace -> String -> Except ErrorChain R,
        withMetadataPublicKey call.policy call.machine.keyFile verify =
          (verify place source >>= fun value => .ok (some value)) := by
  have valid := validate_of_key isKey
  have going := not_inactive active
  unfold Call.key at isKey
  rcases hasPath : call.policy.publicKeyPath with _ | path
  · rw [hasPath] at isKey
    rcases hasPem : call.policy.publicKeyPem with _ | text
    · rw [hasPem] at isKey
      cases isKey
    · rw [hasPem] at isKey
      refine ⟨.staged text, "env-pem", congrArg Except.ok (Option.some.inj isKey), fun verify => ?_⟩
      unfold withMetadataPublicKey
      rw [if_neg going, hasPath, hasPem]
  · rw [hasPath] at isKey
    dsimp only at isKey
    refine ⟨.path path, "path", ?_, fun verify => ?_⟩
    · rcases found : call.machine.keyFile path with _ | _ | text
      · rw [found] at isKey
        cases isKey
      · rw [found] at isKey
        cases isKey
      · rw [found] at isKey
        unfold readPublicKey
        dsimp only
        rw [found]
        exact congrArg Except.ok (Option.some.inj isKey)
    · unfold withMetadataPublicKey
      rw [if_neg going, hasPath]
      dsimp only
      rw [valid]
      rfl

/-- A check that succeeds under an active policy was made with the key. -/
theorem withMetadataPublicKey_ok {verify : KeyPlace -> String -> Except ErrorChain R}
    {result : Option R} (active : call.policy.active = true)
    (isOk : withMetadataPublicKey call.policy call.machine.keyFile verify = .ok result) :
    exists place source value, verify place source = .ok value ∧
      forall pem, readPublicKey call.machine.keyFile place = .ok pem -> call.key = some pem := by
  have going := not_inactive active
  unfold withMetadataPublicKey at isOk
  rw [if_neg going] at isOk
  unfold Call.key
  rcases hasPath : call.policy.publicKeyPath with _ | path
  · rw [hasPath] at isOk
    rcases hasPem : call.policy.publicKeyPem with _ | text
    · rw [hasPem] at isOk
      cases isOk
    · rw [hasPem] at isOk
      rcases bind_ok.mp isOk with ⟨value, verified, _⟩
      exact ⟨_, _, value, verified, fun pem read => congrArg some (Except.ok.inj read)⟩
  · rw [hasPath] at isOk
    rcases bind_ok.mp isOk with ⟨_, _, afterValidation⟩
    rcases bind_ok.mp afterValidation with ⟨value, verified, _⟩
    refine ⟨_, _, value, verified, fun pem read => ?_⟩
    unfold readPublicKey at read
    dsimp only at read ⊢
    rcases found : call.machine.keyFile path with _ | _ | text
    · rw [found] at read
      cases read
    · rw [found] at read
      cases read
    · rw [found] at read
      exact congrArg some (Except.ok.inj read)

theorem verifyMetadataSignatureBytes_of_key {payload signature : Bytes} {place : KeyPlace}
    (read : readPublicKey call.machine.keyFile place = .ok pem) :
    verifyMetadataSignatureBytes call.machine payload signature place =
      call.machine.verify pem payload signature := by
  unfold verifyMetadataSignatureBytes
  rw [read]
  rfl

/-- A cached generation is accepted if its signature verifies under the key. -/
theorem verifyCached_iff {entry : CachedHttpCacheEntry} {signature : Bytes}
    (active : call.policy.active = true) (isKey : call.key = some pem)
    (isSignature : entry.signatureBytes = some signature) :
    verifyCachedHttpEntrySignature call.machine call.policy entry = .ok () ↔
      call.machine.verify pem entry.body signature = .ok () := by
  have going := not_inactive active
  rcases withMetadataPublicKey_of_key (R := Unit) active isKey with ⟨place, source, read, verifies⟩
  unfold verifyCachedHttpEntrySignature
  rw [if_neg going, isSignature]
  dsimp only
  rw [verifies, verifyMetadataSignatureBytes_of_key read]
  rcases call.machine.verify pem entry.body signature with error | ⟨⟩
  · exact iff_of_false nofun nofun
  · exact iff_of_true rfl rfl

/-- An accepted generation has a signature that verifies under the key. -/
theorem verifyCached_ok {entry : CachedHttpCacheEntry} (active : call.policy.active = true)
    (accepted : verifyCachedHttpEntrySignature call.machine call.policy entry = .ok ()) :
    exists pem signature, call.key = some pem ∧
      call.machine.verify pem entry.body signature = .ok () := by
  have going := not_inactive active
  unfold verifyCachedHttpEntrySignature at accepted
  rw [if_neg going] at accepted
  rcases stored : entry.signatureBytes with _ | signature
  · rw [stored] at accepted
    cases accepted
  · rw [stored] at accepted
    rcases bind_ok.mp accepted with ⟨_, checked, _⟩
    rcases withMetadataPublicKey_ok active checked with ⟨place, _, _, verified, keyed⟩
    rcases bind_ok.mp verified with ⟨pem, read, isOk⟩
    exact ⟨pem, signature, keyed pem read, isOk⟩

/-- A fetched signature that is accepted verifies under the key. -/
theorem fetchAndVerify_ok {payload : Bytes}
    {fetched : Option (CachedHttpSignatureMetadata × Bytes)} (active : call.policy.active = true)
    (accepted : fetchAndVerifyMetadataSignature call.machine call.policy url payload =
      .ok fetched) :
    exists pem signature, call.key = some pem ∧
      call.machine.verify pem payload signature = .ok () := by
  have going := not_inactive active
  unfold fetchAndVerifyMetadataSignature at accepted
  rw [if_neg going] at accepted
  rcases bind_ok.mp accepted with ⟨response, _, checked⟩
  by_cases status : response.status ≠ 200
  · rw [if_pos status] at checked
    cases checked
  · rw [if_neg status] at checked
    rcases bind_ok.mp checked with ⟨_, found, _⟩
    rcases withMetadataPublicKey_ok active found with ⟨place, source, value, verified, keyed⟩
    rcases bind_ok.mp verified with ⟨_, bytes, _⟩
    rcases bind_ok.mp bytes with ⟨pem, read, isOk⟩
    exact ⟨pem, response.body, keyed pem read, isOk⟩

/-- The signature that is served is accepted, if there is a key. -/
theorem fetchAndVerify_served {current : RawResponse} (serves : Serves call current)
    (keyed : call.policy.active = true -> exists pem, call.key = some pem) :
    exists fetched, fetchAndVerifyMetadataSignature call.machine call.policy call.url
      current.body = .ok fetched := by
  by_cases inactive : (!call.policy.active) = true
  · exact ⟨none, if_pos inactive⟩
  · have active : call.policy.active = true := by simpa using inactive
    rcases keyed active with ⟨pem, isKey⟩
    rcases serves.signature pem isKey with ⟨response, sent, status, small, verified⟩
    rcases withMetadataPublicKey_of_key (R := String) active isKey with
      ⟨place, source, read, verifies⟩
    have got : httpGet call.machine (metadataSignatureUrl call.url) [] =
        .ok ⟨response.status, headerText response.headers, response.body⟩ := by
      unfold httpGet
      rw [sent]
      exact if_neg (Nat.not_lt.mpr small)
    refine ⟨some (⟨metadataSignatureUrl call.url, call.machine.now, source⟩, response.body), ?_⟩
    unfold fetchAndVerifyMetadataSignature
    rw [if_neg inactive]
    apply bind_ok.mpr
    refine ⟨_, got, ?_⟩
    dsimp only
    rw [if_neg (not_not.mpr status), verifies, verifyMetadataSignatureBytes_of_key read, verified]
    rfl

end Keys

/-! ## Downloads -/

section Downloads

variable {call : Call} {files : CacheFiles} {current : RawResponse}

/-- A text that is returned under an active policy verifies under the key. -/
theorem result_verifies {text : Bytes} (active : call.policy.active = true)
    (returned : call.result files = .ok text) :
    exists pem signature, call.key = some pem ∧
      call.machine.verify pem text signature = .ok () := by
  rcases answered : answer call.machine files call.cacheKey call.url with error | ⟨found, stored⟩
  · unfold Call.result downloadTextCached at returned
    rw [answered] at returned
    cases returned
  · have isText : found = text := by
      unfold Call.result downloadTextCached at returned
      rw [answered] at returned
      exact Except.ok.inj returned
    rcases bind_ok.mp answered with ⟨_, _, afterValidation⟩
    rcases bind_ok.mp afterValidation with ⟨response, _, decided⟩
    unfold answerTo at decided
    by_cases unchanged : response.status = 304
    · rw [if_pos unchanged] at decided
      rcases isPrevious : previousEntry files call.cacheKey call.url with _ | entry
      · rw [isPrevious] at decided
        cases decided
      · rw [isPrevious] at decided
        rcases bind_ok.mp decided with ⟨_, accepted, same⟩
        have isBody : entry.body = found := (Prod.mk.inj (Except.ok.inj same)).1
        rw [← isText, ← isBody]
        exact verifyCached_ok active accepted
    · rw [if_neg unchanged] at decided
      rcases bind_ok.mp decided with ⟨entry, isEntry, same⟩
      have isBody : entry.body = found := (Prod.mk.inj (Except.ok.inj same)).1
      rcases fetchedEntry_ok isEntry with ⟨_, _, isResponse, _, _, fetched, accepted⟩
      rw [← isText, ← isBody, isResponse]
      exact fetchAndVerify_ok active accepted

/-- An answer that is decided once the response is there. -/
theorem answer_of_valid (valid : call.policy.validateConfiguration call.machine.keyFile = .ok ()) :
    answer call.machine files call.cacheKey call.url =
      (httpGet call.machine call.url
          (revalidationHeaders call.policy (previousEntry files call.cacheKey call.url)) >>=
        answerTo call.machine call.policy (previousEntry files call.cacheKey call.url)
          call.url) := by
  change (call.policy.validateConfiguration call.machine.keyFile >>= _) = _
  rw [valid]
  rfl

theorem ok_bind {R S : Type} (value : R) (next : R -> Except ErrorChain S) :
    (Except.ok value >>= next) = next value := rfl

theorem previousEntry_empty (cacheKey url : String) :
    previousEntry .empty cacheKey url = none := rfl

/-- Where the server sends the representation in full, the cache has no part. -/
theorem result_of_full (serves : Serves call current)
    (valid : call.policy.validateConfiguration call.machine.keyFile = .ok ())
    (full : call.machine.http call.url
      (revalidationHeaders call.policy (previousEntry files call.cacheKey call.url)) =
        .ok current) :
    call.result files = call.result .empty := by
  have sameResponse : httpGet call.machine call.url
      (revalidationHeaders call.policy (previousEntry files call.cacheKey call.url)) =
      httpGet call.machine call.url [] := by
    unfold httpGet
    rw [full, serves.plain]
  unfold Call.result downloadTextCached
  rw [answer_of_valid valid, answer_of_valid valid, previousEntry_empty, sameResponse]
  have noHeaders : revalidationHeaders call.policy none = [] := rfl
  rw [noHeaders]
  rcases got : httpGet call.machine call.url [] with error | body
  · rfl
  · rcases httpGet_ok got with ⟨response, sent, _, rfl⟩
    rw [serves.plain] at sent
    have notUnchanged : ¬ response.status = 304 := by
      rw [← Except.ok.inj sent, serves.status]
      decide
    rw [ok_bind, ok_bind]
    unfold answerTo
    rw [if_neg notUnchanged, if_neg notUnchanged]

/-- Where the server confirms the cached generation, an empty cache gives the
same text if its signature is accepted, and otherwise there is none. -/
theorem result_of_confirmed {entry : CachedHttpCacheEntry} {response : RawResponse}
    (valid : call.policy.validateConfiguration call.machine.keyFile = .ok ())
    (isPrevious : previousEntry files call.cacheKey call.url = some entry)
    (sent : call.machine.http call.url (revalidationHeaders call.policy (some entry)) =
      .ok response) (unchanged : response.status = 304) (noBody : response.body = []) :
    call.result files =
      (verifyCachedHttpEntrySignature call.machine call.policy entry).map fun _ => entry.body := by
  have got : httpGet call.machine call.url (revalidationHeaders call.policy (some entry)) =
      .ok ⟨response.status, headerText response.headers, response.body⟩ := by
    unfold httpGet
    rw [sent]
    dsimp only
    rw [noBody]
    rfl
  unfold Call.result downloadTextCached
  rw [answer_of_valid valid, isPrevious, got]
  rw [ok_bind]
  unfold answerTo
  rw [if_pos unchanged]
  dsimp only
  rcases verifyCachedHttpEntrySignature call.machine call.policy entry with error | ⟨⟩
  · rfl
  · rfl

/-- With an empty cache the current representation is returned, if it is a text
of an accepted size and there is a key where the policy asks for one. -/
theorem result_empty (serves : Serves call current)
    (valid : call.policy.validateConfiguration call.machine.keyFile = .ok ())
    (isText : isUtf8 current.body = true) (small : current.body.length ≤ therockMaxMetadataBytes)
    (keyed : call.policy.active = true -> exists pem, call.key = some pem) :
    call.result .empty = .ok current.body := by
  have got : httpGet call.machine call.url [] =
      .ok ⟨current.status, headerText current.headers, current.body⟩ := by
    unfold httpGet
    rw [serves.plain]
    exact if_neg (Nat.not_lt.mpr small)
  rcases fetchAndVerify_served serves keyed with ⟨fetched, accepted⟩
  unfold Call.result downloadTextCached
  rw [answer_of_valid valid, previousEntry_empty]
  have noHeaders : revalidationHeaders call.policy none = [] := rfl
  rw [noHeaders, got, ok_bind]
  unfold answerTo fetchedEntry
  dsimp only
  have notUnchanged : ¬ current.status = 304 := by
    rw [serves.status]
    decide
  rw [if_neg notUnchanged, if_neg (not_not.mpr serves.status), if_neg (by rw [isText]; decide),
    accepted]
  rfl

/-- A download whose key cannot be read under an active policy returns nothing. -/
theorem result_of_no_key (active : call.policy.active = true) (noKey : call.key = none) :
    (call.result files).toOption = none := by
  rcases returned : call.result files with error | text
  · rfl
  · rcases result_verifies active returned with ⟨pem, _, isKey, _⟩
    rw [noKey] at isKey
    cases isKey

/-! ## The next download -/

/-- What is returned is what an empty cache gives, exactly if no generation is
confirmed that does not verify. -/
def Transparent (call : Call) (files : CacheFiles) (current : RawResponse) : Prop :=
  (call.result files).toOption = (call.result .empty).toOption ↔
    ¬ ConfirmsUnverifiable call files current

/-- A policy that is refused stops every download. -/
theorem transparent_of_refused {error : ErrorChain}
    (refused : call.policy.validateConfiguration call.machine.keyFile = .error error) :
    Transparent call files current := by
  have nothing : forall files, (call.result files).toOption = none := by
    intro files
    unfold Call.result downloadTextCached answer
    change ((call.policy.validateConfiguration call.machine.keyFile >>= _).map
      Prod.fst).toOption = none
    rw [refused]
    rfl
  refine iff_of_true ((nothing _).trans (nothing _).symm) ?_
  rintro ⟨_, pem, _, _, isKey, _⟩
  rw [validate_of_key isKey] at refused
  cases refused

/-- Nothing is offered for confirmation. -/
theorem transparent_of_not_offered (serves : Serves call current)
    (valid : call.policy.validateConfiguration call.machine.keyFile = .ok ())
    (notOffered : ((previousEntry files call.cacheKey call.url).filter
      (cachedHttpEntryCanRevalidate · call.policy)).bind (·.metadata.etag) = none) :
    Transparent call files current := by
  refine iff_of_true (congrArg Except.toOption (result_of_full serves valid ?_)) ?_
  · unfold revalidationHeaders
    rw [notOffered]
    exact serves.plain
  · rintro ⟨_, pem, entry, signature, _, isPrevious, signed, isSignature, tagged, _⟩
    have canRevalidate : cachedHttpEntryCanRevalidate entry call.policy = true := by
      unfold cachedHttpEntryCanRevalidate
      rw [isSignature, Option.isSome_iff_ne_none.mpr signed]
      exact Bool.or_true _
    rw [isPrevious, Option.filter_some, if_pos canRevalidate] at notOffered
    exact tagged notOffered

section Offered

variable {entry : CachedHttpCacheEntry} {etag : String}

theorem headers_of_offered (canRevalidate : cachedHttpEntryCanRevalidate entry call.policy = true)
    (isTag : entry.metadata.etag = some etag) :
    revalidationHeaders call.policy (some entry) = [("If-None-Match", etag)] := by
  unfold revalidationHeaders
  rw [Option.filter_some, if_pos canRevalidate, Option.bind_some, isTag]

/-- The server sends another representation than the one that is offered. -/
theorem transparent_of_changed (serves : Serves call current)
    (valid : call.policy.validateConfiguration call.machine.keyFile = .ok ())
    (isPrevious : previousEntry files call.cacheKey call.url = some entry)
    (canRevalidate : cachedHttpEntryCanRevalidate entry call.policy = true)
    (isTag : entry.metadata.etag = some etag) (notCurrent : etagOf current ≠ some etag) :
    Transparent call files current := by
  refine iff_of_true (congrArg Except.toOption (result_of_full serves valid ?_)) ?_
  · rw [isPrevious, headers_of_offered canRevalidate isTag]
    exact serves.changed etag notCurrent
  · rintro ⟨_, _, other, _, _, isOther, _, _, _, sameTag, _⟩
    rw [isPrevious] at isOther
    cases isOther
    exact notCurrent (sameTag.symm.trans isTag)

/-- A generation under the tag of the current representation is that
representation. -/
theorem body_of_current (identifies : EtagIdentifies history call.url current)
    (isPrevious : previousEntry (after history) call.cacheKey call.url = some entry)
    (isTag : entry.metadata.etag = some etag) (isCurrent : etagOf current = some etag) :
    entry.body = current.body ∧ isUtf8 current.body = true ∧
      current.body.length ≤ therockMaxMetadataBytes := by
  rcases previousEntry_sent isPrevious with ⟨sameUrl, stopped, sentHeaders, old, member, asked,
    answered, status, isOld, oldTag, isText, small⟩
  rw [sameUrl] at asked answered
  have sameBody : entry.body = current.body := by
    rw [← isOld]
    refine identifies stopped member asked sentHeaders old answered status ?_ ?_
    · rw [← oldTag, isTag, isCurrent]
    · rw [isCurrent]
      exact Option.some_ne_none etag
  rw [sameBody] at isText small
  exact ⟨sameBody, isText, small⟩

/-- Without an active policy a confirmed generation is returned as it is. -/
theorem transparent_of_inactive (inactive : ¬ call.policy.active = true)
    (confirmed : call.result files =
      (verifyCachedHttpEntrySignature call.machine call.policy entry).map fun _ => entry.body)
    (sameBody : entry.body = current.body) (whole : call.result .empty = .ok current.body) :
    Transparent call files current := by
  have accepted : verifyCachedHttpEntrySignature call.machine call.policy entry = .ok () :=
    if_pos (by simpa using inactive)
  unfold Transparent
  rw [confirmed, whole, accepted]
  exact iff_of_true (congrArg some sameBody) fun confirms => inactive confirms.1

/-- Under an active one it is returned if its signature verifies under the key. -/
theorem transparent_of_key (active : call.policy.active = true) {pem : String}
    (isKey : call.key = some pem)
    (isPrevious : previousEntry files call.cacheKey call.url = some entry)
    (canRevalidate : cachedHttpEntryCanRevalidate entry call.policy = true)
    (isTag : entry.metadata.etag = some etag) (isCurrent : etagOf current = some etag)
    (confirmed : call.result files =
      (verifyCachedHttpEntrySignature call.machine call.policy entry).map fun _ => entry.body)
    (sameBody : entry.body = current.body) (whole : call.result .empty = .ok current.body) :
    Transparent call files current := by
  unfold cachedHttpEntryCanRevalidate at canRevalidate
  rw [active] at canRevalidate
  rcases Bool.and_eq_true_iff.mp canRevalidate with ⟨hasSignature, hasBytes⟩
  have signed : entry.metadata.signature ≠ none := Option.isSome_iff_ne_none.mp hasSignature
  rcases Option.isSome_iff_exists.mp hasBytes with ⟨signature, isSignature⟩
  have accepts := verifyCached_iff active isKey isSignature
  unfold Transparent
  rw [confirmed, whole]
  rcases checked : verifyCachedHttpEntrySignature call.machine call.policy entry with error | ⟨⟩
  · refine iff_of_false (by rintro ⟨⟩) (not_not.mpr ?_)
    refine ⟨active, pem, entry, signature, isKey, isPrevious, signed, isSignature, ?_, ?_,
      fun verified => ?_⟩
    · rw [isTag]
      exact Option.some_ne_none etag
    · rw [isTag, isCurrent]
    · rw [accepts.mpr verified] at checked
      cases checked
  · refine iff_of_true (congrArg some sameBody) ?_
    rintro ⟨_, otherPem, other, otherSignature, otherKey, isOther, _, otherBytes, _, _, refused⟩
    rw [isPrevious] at isOther
    rw [isKey] at otherKey
    cases isOther
    cases otherKey
    rw [isSignature] at otherBytes
    cases otherBytes
    exact refused (accepts.mp checked)

end Offered

/-- The server confirms the generation that is offered. -/
theorem transparent_of_confirmed {entry : CachedHttpCacheEntry} {etag : String}
    (serves : Serves call current) (identifies : EtagIdentifies history call.url current)
    (valid : call.policy.validateConfiguration call.machine.keyFile = .ok ())
    (isPrevious : previousEntry (after history) call.cacheKey call.url = some entry)
    (canRevalidate : cachedHttpEntryCanRevalidate entry call.policy = true)
    (isTag : entry.metadata.etag = some etag) (isCurrent : etagOf current = some etag) :
    Transparent call (after history) current := by
  rcases serves.unchanged etag isCurrent with ⟨response, sent, unchanged, noBody⟩
  rw [← headers_of_offered canRevalidate isTag] at sent
  have confirmed := result_of_confirmed valid isPrevious sent unchanged noBody
  rcases body_of_current identifies isPrevious isTag isCurrent with ⟨sameBody, isText, small⟩
  by_cases active : call.policy.active = true
  · rcases isKey : call.key with _ | pem
    · refine iff_of_true ((result_of_no_key active isKey).trans
        (result_of_no_key active isKey).symm) ?_
      rintro ⟨_, pem, _, _, found, _⟩
      rw [isKey] at found
      cases found
    · exact transparent_of_key active isKey isPrevious canRevalidate isTag isCurrent confirmed
        sameBody (result_empty serves valid isText small fun _ => ⟨pem, isKey⟩)
  · exact transparent_of_inactive active confirmed sameBody
      (result_empty serves valid isText small fun isActive => absurd isActive active)

end Downloads

/-- A download after any history returns what it would return with an empty
cache exactly if the cache does not have the current representation with a
signature that the key of the day refuses; and what it returns under an active
policy verifies under that key. -/
theorem cache_transparent_iff (history : List (Call × Nat)) (call : Call) :
    (forall current, Serves call current -> EtagIdentifies history call.url current ->
      ((call.result (after history)).toOption = (call.result .empty).toOption ↔
        ¬ ConfirmsUnverifiable call (after history) current)) ∧
    (call.policy.active = true -> forall text, call.result (after history) = .ok text ->
      exists pem signature, call.key = some pem ∧
        call.machine.verify pem text signature = .ok ()) := by
  refine ⟨fun current serves identifies => ?_, fun active text => result_verifies active⟩
  change Transparent call (after history) current
  rcases validated : call.policy.validateConfiguration call.machine.keyFile with error | ⟨⟩
  · exact transparent_of_refused validated
  · rcases offered : ((previousEntry (after history) call.cacheKey call.url).filter
        (cachedHttpEntryCanRevalidate · call.policy)).bind (·.metadata.etag) with _ | etag
    · exact transparent_of_not_offered serves validated offered
    · rcases Option.bind_eq_some_iff.mp offered with ⟨entry, isOffered, isTag⟩
      rcases Option.filter_eq_some_iff.mp isOffered with ⟨isPrevious, canRevalidate⟩
      by_cases isCurrent : etagOf current = some etag
      · exact transparent_of_confirmed serves identifies validated isPrevious canRevalidate isTag
          isCurrent
      · exact transparent_of_changed serves validated isPrevious canRevalidate isTag isCurrent

/-! ## A key that is replaced -/

def sampleUrl : String := "https://repo.amd.com/rocm/whl/index.html"

def sampleCurrent : RawResponse := ⟨200, [("etag", "v1")], [0x61, 0x62]⟩

/-- A check that takes what was signed, behind the name of the key. -/
def sampleVerify : Verifier := fun pem payload signature =>
  if signature = asciiBytes pem ++ payload then .ok () else fail "signature does not verify"

/-- A server of one page that signs it with the key in use. -/
def sampleHttp (pem url : String) (headers : List (String × String)) :
    Except ErrorChain RawResponse :=
  if url = sampleUrl then
    if headers = [("If-None-Match", "v1")] then .ok ⟨304, [], []⟩ else .ok sampleCurrent
  else if url = metadataSignatureUrl sampleUrl then
    .ok ⟨200, [], asciiBytes pem ++ sampleCurrent.body⟩
  else fail "not found"

def sampleCall (pem : String) : Call where
  machine :=
    { environment := fun name =>
        if name = "ROCM_CLI_METADATA_PUBLIC_KEY_PEM" then some pem else none
      keyFile := fun _ => .missing
      http := sampleHttp pem
      now := 0
      verify := sampleVerify }
  cacheKey := "index"
  url := sampleUrl

theorem etagOf_sampleCurrent : etagOf sampleCurrent = some "v1" := by decide

theorem sampleServes {pem : String} (isKey : (sampleCall pem).key = some pem)
    (short : (asciiBytes pem).length ≤ 100) :
    Serves (sampleCall pem) sampleCurrent where
  status := rfl
  plain := rfl
  changed := by
    intro etag differs
    rw [etagOf_sampleCurrent] at differs
    have notTag : ¬ [("If-None-Match", etag)] = [("If-None-Match", "v1")] := by
      intro same
      injection same with same
      exact differs (congrArg some (Prod.mk.inj same).2.symm)
    exact if_neg notTag
  unchanged := by
    intro etag same
    rw [etagOf_sampleCurrent] at same
    cases same
    exact ⟨⟨304, [], []⟩, rfl, rfl, rfl⟩
  signature := by
    intro other isOther
    rw [isKey] at isOther
    cases isOther
    refine ⟨⟨200, [], asciiBytes pem ++ sampleCurrent.body⟩, ?_, rfl, ?_, if_pos rfl⟩
    · change sampleHttp pem (metadataSignatureUrl sampleUrl) [] = _
      unfold sampleHttp
      rw [if_neg (by decide), if_pos rfl]
    · have two : sampleCurrent.body.length = 2 := rfl
      rw [List.length_append, two]
      unfold therockMaxMetadataBytes
      omega

theorem sampleIdentifies (pem : String) (steps : Nat) :
    EtagIdentifies [(sampleCall pem, steps)] sampleUrl sampleCurrent := by
  intro stopped member _ headers response answered status _ _
  rw [List.mem_singleton.mp member] at answered
  change sampleHttp pem sampleUrl headers = .ok response at answered
  unfold sampleHttp at answered
  rw [if_pos rfl] at answered
  by_cases confirmed : headers = [("If-None-Match", "v1")]
  · rw [if_pos confirmed] at answered
    cases answered
    cases status
  · rw [if_neg confirmed] at answered
    cases answered
    rfl

/-- The page was stored and is confirmed under one key. -/
theorem sample_transparent :
    ((sampleCall "first").result (after [(sampleCall "first", 3)])).toOption =
      ((sampleCall "first").result .empty).toOption := by
  have isKey : (sampleCall "first").key = some "first" := by decide
  have serves := sampleServes isKey (by decide)
  have identifies := sampleIdentifies "first" 3
  refine ((cache_transparent_iff [(sampleCall "first", 3)] (sampleCall "first")).1 sampleCurrent
    serves identifies).mpr ?_
  rintro ⟨_, pem, entry, signature, otherKey, isPrevious, _, isSignature, _, _, refused⟩
  have cached : (previousEntry (after [(sampleCall "first", 3)]) "index" sampleUrl).map
      (fun entry => (entry.body, entry.signatureBytes)) =
        some ([0x61, 0x62], some (asciiBytes "first" ++ [0x61, 0x62])) := by decide
  change previousEntry (after [(sampleCall "first", 3)]) "index" sampleUrl = some entry at isPrevious
  rw [isPrevious, Option.map_some, isSignature] at cached
  rw [isKey] at otherKey
  cases otherKey
  have parts := Prod.mk.inj (Option.some.inj cached)
  apply refused
  rw [parts.1, Option.some.inj parts.2]
  change sampleVerify "first" [0x61, 0x62] (asciiBytes "first" ++ [0x61, 0x62]) = .ok ()
  unfold sampleVerify
  exact if_pos rfl

/-- The page was stored under one key and is confirmed under the next: the
download fails, though the server has the page and a signature for it. -/
theorem replaced_key_fails :
    (Serves (sampleCall "second") sampleCurrent ∧
      EtagIdentifies [(sampleCall "first", 3)] sampleUrl sampleCurrent) ∧
    ((sampleCall "second").result (after [(sampleCall "first", 3)])).toOption = none ∧
    ((sampleCall "second").result .empty).toOption = some [0x61, 0x62] :=
  ⟨⟨sampleServes (by decide) (by decide), sampleIdentifies "first" 3⟩, by decide,
    by decide⟩

end MetadataCache
end RocmCli
