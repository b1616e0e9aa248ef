import RocmCli.Doctor.Releases

namespace RocmCli
namespace Doctor

open Text (trim)

/-!
# What a report discloses

A report is a function of what was agreed about the machine, so no other field
of an examination reaches it.  What the writer writes is in the vocabulary the
reader checks, and what the reader accepts can be named in a group.

An engine that was looked for and not found is told apart from one that is not
approved, so two machines without an approved engine must also agree on that.
-/

/-! ## What was agreed about a machine -/

inductive DistroSeen where
  | absent
  | approved (id : String)
  | unapproved
  deriving DecidableEq

def distroSeen (id : String) : DistroSeen :=
  let lowered := toAsciiLowercase (trim id)
  if lowered = "" then .absent
  else if approvedDistros.contains lowered then .approved lowered
  else .unapproved

/-- The text that holds the release of the operating system. -/
def osRelease (examination : Examination Others) : String :=
  if examination.osFamily = "linux" then examination.distroVersion
  else if examination.osFamily = "windows" then
    match afterFirst "Version ".toList examination.osVersion.toList with
    | some rest => trimEndMatches (· = ']') rest
    | none => ""
  else ""

/-- The path and the version of the installed ROCm. -/
def rocmInstall (examination : Examination Others) : String × String :=
  if examination.osFamily = "windows" then (examination.hipSdkPath, examination.hipSdkVersion)
  else (examination.rocmPath, examination.rocmVersion)

def engineName (examination : Examination Others) : String :=
  toAsciiLowercase (trim examination.framework)

/-- The approved engine and its numeric release. -/
def approvedEngine (examination : Examination Others) : Option (String × String) :=
  if approvedEngines.contains (engineName examination) then
    some (engineName examination, majorMinor examination.frameworkVersion)
  else none

structure Disclosed where
  osFamily : String
  isWsl : Bool
  amdTargets : List String
  osMajor : String
  distro : DistroSeen
  rocm : Option String
  engine : Option (String × String)
  deriving DecidableEq

def disclosed (examination : Examination Others) : Disclosed where
  osFamily := examination.osFamily
  isWsl := examination.isWsl
  amdTargets := amdTargets examination
  osMajor := leadingDigits (osRelease examination)
  distro := distroSeen examination.distroId
  rocm :=
    if trim (rocmInstall examination).1 = "" then none
    else some (majorMinor (rocmInstall examination).2)
  engine := approvedEngine examination

/-- The examination found no engine. -/
def noEngine (examination : Examination Others) : Bool := engineName examination = unknown

/-! ## Each field is a function of it -/

section

variable {Others : Type u}

theorem osMajor_eq (examination : Examination Others) :
    osMajor examination = leadingDigits (osRelease examination) := by
  have nothing : leadingDigits "" = "" := by decide
  unfold osMajor osRelease
  split
  · rfl
  · split
    · unfold windowsOsMajor
      cases afterFirst "Version ".toList examination.osVersion.toList with
      | none => exact nothing.symm
      | some rest => rfl
    · exact nothing.symm

theorem distro_eq (examination : Examination Others) :
    distro examination =
      if examination.osFamily = "linux" then
        match distroSeen examination.distroId with
        | .absent => unknown
        | .approved id => id
        | .unapproved => distroOther
      else if examination.osFamily = "windows" then "windows"
      else "" := by
  unfold distro distroSeen
  split
  · dsimp only
    split
    · rfl
    · split <;> rfl
  · rfl

theorem rocmRelease_eq (examination : Examination Others) :
    rocmRelease examination =
      match
        if trim (rocmInstall examination).1 = "" then none
        else some (majorMinor (rocmInstall examination).2) with
      | none => none'
      | some release => if release = "" then unknown else release := by
  have samePair : rocmRelease examination =
      if trim (rocmInstall examination).1 = "" then none'
      else if majorMinor (rocmInstall examination).2 = "" then unknown
      else majorMinor (rocmInstall examination).2 := rfl
  rw [samePair]
  split <;> rfl

theorem engineAndVersion_eq (examination : Examination Others) :
    engineAndVersion examination =
      if noEngine examination then (none', none')
      else
        match approvedEngine examination with
        | some (name, release) => (name, if release = "" then unknown else release)
        | none => (unknown, unknown) := by
  have unfolded : engineAndVersion examination =
      if engineName examination = unknown then (none', none')
      else if approvedEngines.contains (engineName examination) then
        (engineName examination,
          if majorMinor examination.frameworkVersion = "" then unknown
          else majorMinor examination.frameworkVersion)
      else (unknown, unknown) := rfl
  rw [unfolded]
  unfold noEngine approvedEngine
  by_cases absent : engineName examination = unknown
  · rw [if_pos absent, if_pos (decide_eq_true absent)]
  · rw [if_neg absent, if_neg fun holds => absent (of_decide_eq_true holds)]
    split <;> rfl

/-- Machines of which the same was agreed have the same report. -/
theorem prepareReport_congr {left right : Examination Others}
    (same : disclosed left = disclosed right) (sameAbsence : noEngine left = noEngine right)
    (entry : Option String) (fixOffered : Bool) :
    prepareReport left entry fixOffered = prepareReport right entry fixOffered := by
  unfold disclosed at same
  rcases Disclosed.mk.inj same with
    ⟨sameFamily, sameWsl, sameTargets, sameRelease, sameSeen, sameInstall, sameApproved⟩
  have sameMajor : osMajor left = osMajor right := by
    rw [osMajor_eq, osMajor_eq, sameRelease]
  have sameDistro : distro left = distro right := by
    rw [distro_eq, distro_eq, sameFamily, sameSeen]
  have sameRocm : rocmRelease left = rocmRelease right := by
    rw [rocmRelease_eq, rocmRelease_eq, sameInstall]
  have sameEngine : engineAndVersion left = engineAndVersion right := by
    rw [engineAndVersion_eq, engineAndVersion_eq, sameAbsence, sameApproved]
  unfold prepareReport
  rw [sameFamily, sameWsl, sameTargets, sameMajor, sameDistro, sameRocm, sameEngine]

/-! ## When there is a report -/

/-- A report is only made of a machine outside WSL whose AMD GPUs, of which
there is one, are all approved. -/
structure Reportable (examination : Examination Others) : Prop where
  notWsl : examination.isWsl = false
  hasAmd : exists gpu, gpu ∈ examination.gpus ∧ gpu.isAmd = true
  approved : forall gpu, gpu ∈ examination.gpus -> gpu.isAmd = true ->
    trim gpu.gfxTarget ∈ approvedArchitectures

/-- What a report says, field by field. -/
theorem prepareReport_ok {examination : Examination Others} {entry : Option String}
    {fixOffered : Bool} {report : Report}
    (isReport : prepareReport examination entry fixOffered = .ok report) :
    Reportable examination ∧ report.schema = reportSchemaVersion ∧
      report.architecture ∈ approvedArchitectures ∧
      (report.entry = unrecognised ∨ isCatalogId report.entry = true) ∧
      report.osMajor = osMajor examination ∧ report.distro = distro examination ∧
      report.rocm = rocmRelease examination ∧
      (report.engine, report.engineVersion) = engineAndVersion examination := by
  rcases isEngine : engineAndVersion examination with ⟨name, version⟩
  unfold prepareReport at isReport
  rw [isEngine] at isReport
  dsimp only at isReport
  split at isReport
  · exact nomatch isReport
  · next notWsl =>
      split at isReport
      · exact nomatch isReport
      · next architecture others targets =>
          split at isReport
          · exact nomatch isReport
          · split at isReport
            · exact nomatch isReport
            · next allApproved =>
                rw [Bool.not_eq_true, Bool.not_eq_false'] at allApproved
                have approved := List.all_eq_true.mp allApproved
                have supported : forall target, target ∈ architecture :: others ->
                    target ∈ approvedArchitectures := fun target member =>
                  List.contains_iff_mem.mp (approved target (targets ▸ member))
                have isFirst : architecture ∈ amdTargets examination :=
                  targets ▸ List.mem_cons_self
                rcases List.mem_map.mp isFirst with ⟨first, isAmdGpu, _⟩
                rcases List.mem_filter.mp isAmdGpu with ⟨listed, isAmd⟩
                obtain rfl := Except.ok.inj isReport
                refine ⟨⟨Bool.eq_false_iff.mpr notWsl, ⟨first, listed, isAmd⟩, ?_⟩, rfl,
                  supported architecture List.mem_cons_self, ?_, ?_, ?_, ?_, ?_⟩
                · intro gpu isListed amd
                  refine supported _ ?_
                  rw [← targets]
                  exact List.mem_map.mpr ⟨gpu, List.mem_filter.mpr ⟨isListed, amd⟩, rfl⟩
                · cases entry with
                  | none => exact Or.inl rfl
                  | some id =>
                      by_cases recognised : isCatalogId id = true
                      · exact Or.inr (by rwa [Option.any_some, if_pos recognised])
                      · exact Or.inl (by rw [Option.any_some, if_neg recognised])
                all_goals dsimp only

/-! ## The vocabulary -/

theorem isRelease_of_cut {version : String} (notEmpty : majorMinor version ≠ "") :
    isRelease (majorMinor version) = true := by
  unfold isRelease
  rw [majorMinor_idem, decide_eq_true rfl, Bool.and_true, Bool.or_eq_true]
  exact Or.inr (decide_eq_true notEmpty)

theorem isRelease_rocmRelease (examination : Examination Others) :
    isRelease (rocmRelease examination) = true := by
  rw [rocmRelease_eq]
  split
  · rfl
  · split
    · rfl
    · next isInstall notEmpty =>
        split at isInstall
        · exact nomatch isInstall
        · obtain rfl := Option.some.inj isInstall
          exact isRelease_of_cut notEmpty

theorem distro_known (examination : Examination Others) :
    (approvedDistros.contains (distro examination) ||
      [distroOther, unknown, "windows", ""].contains (distro examination)) = true := by
  unfold distro
  split
  · dsimp only
    split
    · rfl
    · split
      · next approved => rw [approved, Bool.true_or]
      · rfl
  · split <;> rfl

/-- The engine a report names, and its version, are a pair the reader takes. -/
theorem engine_known (examination : Examination Others) {name version : String}
    (isEngine : engineAndVersion examination = (name, version)) :
    (if name = none' ∨ name = unknown then decide (version = name)
      else approvedEngines.contains name && decide (version ≠ none') && isRelease version) =
        true := by
  unfold engineAndVersion at isEngine
  dsimp only at isEngine
  split at isEngine
  · obtain ⟨rfl, rfl⟩ := Prod.mk.inj isEngine
    rfl
  · split at isEngine
    · next approved =>
        obtain ⟨isName, isVersion⟩ := Prod.mk.inj isEngine
        rw [isName] at approved
        have named : name ≠ none' ∧ name ≠ unknown := by
          constructor <;> (rintro rfl; exact nomatch approved)
        rw [if_neg (not_or.mpr named), approved, Bool.true_and, Bool.and_eq_true, ← isVersion]
        split
        · exact ⟨rfl, rfl⟩
        · next notEmpty =>
            refine ⟨decide_eq_true ?_, isRelease_of_cut notEmpty⟩
            intro isNone
            have kept := majorMinor_idem examination.frameworkVersion
            rw [isNone] at kept
            exact nomatch kept
    · obtain ⟨rfl, rfl⟩ := Prod.mk.inj isEngine
      rfl

/-- Every report is in the vocabulary. -/
theorem isInVocabulary_of_prepared {examination : Examination Others} {entry : Option String}
    {fixOffered : Bool} {report : Report}
    (isReport : prepareReport examination entry fixOffered = .ok report) :
    isInVocabulary report = true := by
  rcases prepareReport_ok isReport with
    ⟨_, _, architecture, isEntry, isMajor, isDistro, isRocm, isEngine⟩
  have supported : isRocmSupported report.architecture = true :=
    List.contains_iff_mem.mpr architecture
  have entryKnown : (decide (report.entry = unrecognised) || isCatalogId report.entry) = true := by
    rw [Bool.or_eq_true, decide_eq_true_iff]
    exact isEntry
  have majorKept : leadingDigits report.osMajor = report.osMajor := by
    rw [isMajor, osMajor_eq, leadingDigits_idem]
  unfold isInVocabulary
  rw [entryKnown, supported, isRocm, isRelease_rocmRelease, isDistro, distro_known,
    decide_eq_true majorKept, engine_known examination isEngine.symm]
  rfl

/-! ## Reading a report back -/

/-- The JSON library reads the text of this report as an object with the values
that were written. -/
def ReadsBack (serde : SerdeJsonText) (report : Report) : Prop :=
  exists read, serde.fromStr (reportText serde report) = some (.object read) ∧
    forall key, read.lookup key = report.entries.lookup key

theorem fromValue_entries {report : Report} {read : List (String × Json)}
    (small : report.schema < 2 ^ 32)
    (same : forall key, read.lookup key = report.entries.lookup key) :
    Report.fromValue (.object read) = some report := by
  have found : forall key, (Json.object read).get key = report.entries.lookup key := same
  have schema : (UInt64.ofNat report.schema).toNat = report.schema :=
    UInt64.toNat_ofNat_of_lt (Nat.lt_trans small (by decide))
  have unread : ¬ 2 ^ 32 ≤ report.schema := Nat.not_le_of_lt small
  unfold Report.fromValue
  simp only [found]
  have readSchema : (report.entries.lookup "schema").bind Json.asU64 = some report.schema :=
    congrArg some schema
  rw [readSchema]
  exact if_neg unread

theorem readReport_reportText {serde : SerdeJsonText} {report : Report}
    (isSchema : report.schema = reportSchemaVersion) (known : isInVocabulary report = true)
    (readsBack : ReadsBack serde report) :
    readReport serde (reportText serde report) = .understood report := by
  rcases readsBack with ⟨read, isRead, same⟩
  have small : report.schema < 2 ^ 32 := by
    rw [isSchema]
    decide
  have whole := fromValue_entries small same
  have envelopeSchema : ((Json.object read).get "schema").bind Json.asU64 = some 1 := by
    have found : (Json.object read).get "schema" = report.entries.lookup "schema" := same "schema"
    rw [found]
    have isOne : Json.number (.unsigned (UInt64.ofNat report.schema)) =
        .number (.unsigned (UInt64.ofNat 1)) := by rw [isSchema]; rfl
    exact congrArg Json.asU64 isOne
  have seen : schemaSeen (.object read) = reportSchemaVersion := by
    unfold schemaSeen
    rw [envelopeSchema]
    rfl
  have notRefused : ((Json.object read).get "refused").bind Json.asStr = none := by
    have found : (Json.object read).get "refused" = report.entries.lookup "refused" :=
      same "refused"
    rw [found]
    rfl
  unfold readReport
  rw [isRead]
  dsimp only
  rw [seen, notRefused, whole, Option.filter_some, if_pos known]
  rfl

/-! ## The mail link -/

/-- The decoded subject and body of a mail link to the destination. -/
def readMailto (url : String) : Option (String × String) := do
  let query <- Text.stripPrefix ("mailto:" ++ destination ++ "?subject=") url
  let subject := query.toList.takeWhile (· ≠ '&')
  let body <- Text.stripPrefix "&body=" (String.ofList (query.toList.dropWhile (· ≠ '&')))
  let subject <- Percent.decode (String.ofList subject)
  let body <- Percent.decode body
  return (subject, body)

theorem readMailto_reportUrl (serde : SerdeJsonText) (report : Report) :
    readMailto (reportUrl serde report) = some (subjectFor report, reportText serde report) := by
  have noSign : forall character, character ∈ (Percent.encode (subjectFor report)).toList ->
      decide (character ≠ '&') = true := by
    intro character member
    refine decide_eq_true fun isSign => ?_
    rw [isSign] at member
    exact nomatch Percent.isWritten_encode member
  have whole : (reportUrl serde report).toList =
      ("mailto:" ++ destination ++ "?subject=").toList ++
        ((Percent.encode (subjectFor report)).toList ++
          ('&' :: ("body=".toList ++ (Percent.encode (reportText serde report)).toList))) := by
    have sign : "&body=".toList = '&' :: "body=".toList := by decide
    unfold reportUrl mailTo
    simp only [String.toList_append, List.append_assoc, sign, List.cons_append]
  have query := Text.stripPrefix_append ("mailto:" ++ destination ++ "?subject=") _ whole
  have subject : ((Percent.encode (subjectFor report)).toList ++
      ('&' :: ("body=".toList ++ (Percent.encode (reportText serde report)).toList))).takeWhile
        (· ≠ '&') = (Percent.encode (subjectFor report)).toList := by
    rw [List.takeWhile_append_of_pos noSign, List.takeWhile_cons_of_neg (by decide),
      List.append_nil]
  have rest : ((Percent.encode (subjectFor report)).toList ++
      ('&' :: ("body=".toList ++ (Percent.encode (reportText serde report)).toList))).dropWhile
        (· ≠ '&') = "&body=".toList ++ (Percent.encode (reportText serde report)).toList := by
    rw [List.dropWhile_append_of_pos noSign, List.dropWhile_cons_of_neg (by decide)]
    rfl
  have body : Text.stripPrefix "&body=" (String.ofList
      ("&body=".toList ++ (Percent.encode (reportText serde report)).toList)) =
        some (Percent.encode (reportText serde report)) := by
    rw [Text.stripPrefix_append "&body=" _ (String.toList_ofList ..), String.ofList_toList]
  unfold readMailto
  rw [query]
  simp only [Option.bind_eq_bind, Option.bind_some, String.toList_ofList, subject, rest, body,
    String.ofList_toList, Percent.decode_encode]
  rfl

/-! ## Groups -/

def isGroupCharacter (character : Char) : Bool :=
  character.isLower || character.isDigit || character == '.' || character == '-'

/-- A text made of the characters of a group. -/
def IsGroupText (value : String) : Prop :=
  forall character, character ∈ value.toList -> isGroupCharacter character = true

theorem IsGroupText.append {left right : String} (leftGroup : IsGroupText left)
    (rightGroup : IsGroupText right) : IsGroupText (left ++ right) := by
  intro character member
  rw [String.toList_append, List.mem_append] at member
  rcases member with inLeft | inRight
  · exact leftGroup character inLeft
  · exact rightGroup character inRight

theorem isGroupText_of_listed {names : List String} {value : String}
    (all : names.all (fun name => name.toList.all isGroupCharacter) = true)
    (listed : names.contains value = true) : IsGroupText value := fun character member =>
  List.all_eq_true.mp (List.all_eq_true.mp all value (List.contains_iff_mem.mp listed))
    character member

theorem isGroupText_of_numeric {value : String} (numeric : isNumeric value = true) :
    IsGroupText value := by
  intro character member
  have digit := (isNumeric_iff.mp numeric).2 character member
  rw [isGroupCharacter, digit, Bool.or_true, Bool.true_or, Bool.true_or]

theorem isGroupText_of_kept {value : String} (kept : Kept value) : IsGroupText value := by
  cases kept with
  | nothing => exact nofun
  | major numeric => exact isGroupText_of_numeric numeric
  | pair majorNumeric minorNumeric =>
      have dot : IsGroupText "." := @isGroupText_of_listed ["."] _ (by decide) (by decide)
      exact ((isGroupText_of_numeric majorNumeric).append dot).append
        (isGroupText_of_numeric minorNumeric)

theorem isGroupText_of_release {value : String} (release : isRelease value = true) :
    IsGroupText value := by
  rw [isRelease, Bool.or_eq_true, Bool.or_eq_true, Bool.and_eq_true, decide_eq_true_iff,
    decide_eq_true_iff, decide_eq_true_iff, decide_eq_true_iff] at release
  rcases release with (isNone | isUnknown) | ⟨_, cut⟩
  · rw [isNone]
    exact @isGroupText_of_listed [none'] _ (by decide) (by decide)
  · rw [isUnknown]
    exact @isGroupText_of_listed [unknown] _ (by decide) (by decide)
  · rw [← cut]
    exact isGroupText_of_kept (kept_majorMinor value)

/-- A report in the vocabulary is grouped by texts of group characters. -/
theorem isGroupText_groupKey {report : Report} (known : isInVocabulary report = true)
    {component : String} (isComponent : component ∈ groupKey report) : IsGroupText component := by
  have dash : IsGroupText "-" := @isGroupText_of_listed ["-"] _ (by decide) (by decide)
  unfold isInVocabulary at known
  simp only [Bool.and_eq_true, Bool.or_eq_true] at known
  rcases known with ⟨⟨⟨⟨⟨entry, architecture⟩, rocm⟩, distro⟩, osMajor⟩, engine⟩
  have entryText : IsGroupText report.entry := by
    rcases entry with isUnrecognised | isId
    · rw [of_decide_eq_true isUnrecognised]
      exact @isGroupText_of_listed [unrecognised] _ (by decide) (by decide)
    · exact isGroupText_of_listed (by decide +kernel) isId
  have distroText : IsGroupText report.distro := by
    rcases distro with isApproved | isFallback
    · exact isGroupText_of_listed (by decide +kernel) isApproved
    · exact isGroupText_of_listed (by decide +kernel) isFallback
  have majorText : IsGroupText report.osMajor := by
    rw [← of_decide_eq_true osMajor]
    rcases leadingDigits_cases report.osMajor with nothing | numeric
    · rw [nothing]
      exact isGroupText_of_kept .nothing
    · exact isGroupText_of_numeric numeric
  have engineText : IsGroupText (if report.engine = none' ∨ report.engine = unknown then
      report.engine else report.engine ++ "-" ++ report.engineVersion) := by
    split
    · next fallback =>
        rcases fallback with isNone | isUnknown
        · rw [isNone]
          exact @isGroupText_of_listed [none'] _ (by decide) (by decide)
        · rw [isUnknown]
          exact @isGroupText_of_listed [unknown] _ (by decide) (by decide)
    · next named =>
        rw [if_neg named, Bool.and_eq_true, Bool.and_eq_true] at engine
        rcases engine with ⟨⟨approved, _⟩, release⟩
        have nameText : IsGroupText report.engine :=
          isGroupText_of_listed (by decide +kernel) approved
        exact (nameText.append dash).append (isGroupText_of_release release)
  unfold groupKey at isComponent
  simp only [List.mem_cons, List.not_mem_nil, or_false] at isComponent
  rcases isComponent with rfl | rfl | rfl | rfl | rfl
  · exact entryText
  · exact isGroupText_of_listed (by decide +kernel) architecture
  · exact isGroupText_of_release rocm
  · exact (distroText.append dash).append majorText
  · exact engineText

theorem isInVocabulary_of_understood {serde : SerdeJsonText} {text : String} {report : Report}
    (understood : readReport serde text = .understood report) : isInVocabulary report = true := by
  unfold readReport at understood
  split at understood
  · exact nomatch understood
  · dsimp only at understood
    split at understood
    · exact nomatch understood
    · split at understood
      · split at understood <;> exact nomatch understood
      · split at understood
        · next accepted =>
            cases understood
            exact (Option.filter_eq_some_iff.mp accepted).2
        · exact nomatch understood

/-! ## Disclosure -/

/-- A report is made only of a reportable machine and only of what was agreed,
goes through the reader and the mail link unchanged, and what the reader
accepts is grouped by texts of group characters. -/
theorem report_says_what_was_agreed (serde : SerdeJsonText) :
    (forall (examination : Examination Others) entry fixOffered report,
      prepareReport examination entry fixOffered = .ok report ->
        Reportable examination ∧ isInVocabulary report = true ∧
          (ReadsBack serde report ->
            readReport serde (reportText serde report) = .understood report) ∧
          readMailto (reportUrl serde report) =
            some (subjectFor report, reportText serde report)) ∧
      (forall (left right : Examination Others), disclosed left = disclosed right ->
        noEngine left = noEngine right -> forall entry fixOffered,
          prepareReport left entry fixOffered = prepareReport right entry fixOffered) ∧
      forall text report, readReport serde text = .understood report ->
        forall component, component ∈ groupKey report -> IsGroupText component := by
  refine ⟨?_, ?_, ?_⟩
  · intro examination entry fixOffered report isReport
    rcases prepareReport_ok isReport with ⟨reportable, isSchema, _⟩
    have known := isInVocabulary_of_prepared isReport
    exact ⟨reportable, known, readReport_reportText isSchema known,
      readMailto_reportUrl serde report⟩
  · intro left right same sameAbsence entry fixOffered
    exact prepareReport_congr same sameAbsence entry fixOffered
  · intro text report understood component isComponent
    exact isGroupText_groupKey (isInVocabulary_of_understood understood) isComponent

end

/-- A machine with one approved GPU, by its framework field and user name. -/
def healthyMachine (framework userName : String) : Examination String where
  osFamily := "linux"
  osVersion := "#1 SMP PREEMPT_DYNAMIC"
  distroId := "ubuntu"
  distroVersion := "22.04"
  isWsl := false
  gpus := [⟨"Radeon", " gfx1100", "0000:03:00.0", some false, true⟩]
  rocmVersion := "7.1.0-42"
  rocmPath := "/opt/rocm"
  hipSdkPath := ""
  hipSdkVersion := ""
  framework := framework
  frameworkVersion := ""
  others := userName

/-- A probe that found no engine and one that was not run are not told apart by
the approved engine, and give different reports. -/
theorem skipped_probe_is_told_apart :
    ¬ forall (left right : Examination String), disclosed left = disclosed right ->
      forall entry fixOffered,
        prepareReport left entry fixOffered = prepareReport right entry fixOffered := by
  intro always
  have same := always (healthyMachine "unknown" "ada") (healthyMachine "skipped" "ada")
    (by decide +kernel) none false
  have engines := congrArg (fun result => result.toOption.map Report.engine) same
  have differ : (prepareReport (healthyMachine "unknown" "ada") none false).toOption.map
      Report.engine ≠ (prepareReport (healthyMachine "skipped" "ada") none false).toOption.map
        Report.engine := by decide +kernel
  exact differ engines

def healthyReport : Report where
  schema := 1
  architecture := "gfx1100"
  architectureMatrix := approvedArchitecturesSource
  entry := "fix-6-path"
  osFamily := "linux"
  osMajor := "22"
  distro := "ubuntu"
  rocm := "7.1"
  engine := "none"
  engineVersion := "none"
  cliVersion := "0.1.0"
  fixOffered := true

def healthyText : String :=
  "\x7b\n  \"schema\": 1,\n  \"architecture\": \"gfx1100\",\n  \"architecture_matrix\": " ++
    "\"ROCm compatibility matrix, ROCm 7.1\",\n  \"entry\": \"fix-6-path\",\n" ++
    "  \"os_family\": \"linux\",\n  \"os_major\": \"22\",\n  \"distro\": \"ubuntu\",\n" ++
    "  \"rocm\": \"7.1\",\n  \"engine\": \"none\",\n  \"engine_version\": \"none\",\n" ++
    "  \"cli_version\": \"0.1.0\",\n  \"fix_offered\": true\n\x7d"

/-- A JSON library that knows the text of one object. -/
def serdeOf (text : String) (entries : List (String × Json)) : SerdeJsonText where
  fromStr := fun read => if read = text then some (.object entries) else none
  toStringPretty := fun _ => text

theorem readsBack_serdeOf (text : String) (report : Report) :
    ReadsBack (serdeOf text report.entries) report :=
  ⟨report.entries, if_pos rfl, fun _ => rfl⟩

/-- The report of a healthy machine is read back, and is that of any machine
that differs in its user only. -/
theorem healthy_report_is_understood :
    readReport (serdeOf healthyText healthyReport.entries) healthyText =
        .understood healthyReport ∧
      prepareReport (healthyMachine "unknown" "ada") (some "fix-6-path") true =
        prepareReport (healthyMachine "unknown" "grace") (some "fix-6-path") true := by
  have isReport : prepareReport (healthyMachine "unknown" "ada") (some "fix-6-path") true =
      .ok healthyReport := by decide +kernel
  have agreed := @report_says_what_was_agreed String (serdeOf healthyText healthyReport.entries)
  exact ⟨(agreed.1 _ _ _ _ isReport).2.2.1 (readsBack_serdeOf healthyText healthyReport),
    agreed.2.1 _ _ (by decide +kernel) (by decide +kernel) _ _⟩

end Doctor
end RocmCli
