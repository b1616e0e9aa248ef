import RocmCli.Process.PowerShellScripts
import RocmCli.Support.Text

namespace RocmCli
namespace Process

open Text (isWhitespace)

/-!
# Fixing the user PATH

The fix reads the user PATH, decides by a search in its text whether the folder is
there, and otherwise replaces the whole value.  A PATH means its entries, so the
fix is right only where the search and the replacement respect them.
-/

/-! ## What a PATH means -/

def entriesOf (path : ScriptText) : List ScriptText := if path = [] then [] else path.splitOn ';'

def dropBackslash (entry : ScriptText) : ScriptText :=
  if entry.getLast? = some '\\' then entry.dropLast else entry

/-- Some entry is the folder, up to case and a backslash at the end. -/
def IsEntry (toLowercase : ScriptText -> ScriptText) (folder path : ScriptText) : Prop :=
  exists entry, entry ∈ entriesOf path ∧
    toLowercase (dropBackslash entry) = toLowercase (dropBackslash folder)

/-- Lower case as it is documented: it is taken word by word, and makes no semicolon. -/
structure LowerCase (toLowercase : ScriptText -> ScriptText) : Prop where
  cut : forall front back separator, isWhitespace separator = true ∨ separator = ';' ->
    toLowercase (front ++ separator :: back) = toLowercase front ++ separator :: toLowercase back
  single : forall text, ';' ∉ text -> ';' ∉ toLowercase text

/-! ## A run of the fix -/

def trimText (text : ScriptText) : ScriptText :=
  (text.dropWhile isWhitespace).rdropWhile isWhitespace

/-- Read a variable by a script; none when the script fails. -/
def psEnvScope (exitCode : Nat) (output : ScriptText) : Option ScriptText :=
  if exitCode = 0 then some (trimText output) else none

/-- How a run goes: its options, the answer to its prompt, and its reading of the
PATH, which comes with white space around it. -/
structure Attempt where
  dryRun : Bool
  confirmed : Bool
  readCode : Nat
  before : ScriptText
  after : ScriptText
  blank : forall character, character ∈ before ++ after -> isWhitespace character = true

/-- What PowerShell makes of a script and the stored PATH: its exit code, and the
PATH behind it. -/
abbrev Shell := ScriptText -> ScriptText -> Nat × ScriptText

/-- A script that is read as the one call stores the value or fails. -/
def Shell.Lawful (shell : Shell) : Prop :=
  forall binDir userPath stored,
    statementsOf (pathExportScript binDir userPath) =
      some [setPathStatement (windowsPathPrepend binDir userPath)] ->
    ((shell (pathExportScript binDir userPath) stored).1 = 0 ->
      (shell (pathExportScript binDir userPath) stored).2 = windowsPathPrepend binDir userPath) ∧
    ((shell (pathExportScript binDir userPath) stored).1 ≠ 0 ->
      (shell (pathExportScript binDir userPath) stored).2 = stored)

variable (toLowercase : ScriptText -> ScriptText)

/-- One run: its code, and the PATH behind it. -/
def runPathExport (shell : Shell) (attempt : Attempt) (binDir stored : ScriptText) :
    Nat × ScriptText :=
  let read := psEnvScope attempt.readCode (attempt.before ++ stored ++ attempt.after)
  let exitCode := (shell (pathExportScript binDir (read.getD [])) stored).1
  let outcome := pathExportWindows toLowercase attempt.dryRun attempt.confirmed exitCode binDir read
  (outcome.code, (outcome.ran.map fun script => (shell script stored).2).getD stored)

/-- The run does what it reports. -/
structure Fixes (shell : Shell) (attempt : Attempt) (binDir stored : ScriptText) : Prop where
  fixed : (runPathExport toLowercase shell attempt binDir stored).1 = 0 -> attempt.dryRun = false ->
    IsEntry toLowercase binDir (runPathExport toLowercase shell attempt binDir stored).2 ∧
      (entriesOf stored).Sublist
        (entriesOf (runPathExport toLowercase shell attempt binDir stored).2)
  untouched : (runPathExport toLowercase shell attempt binDir stored).1 ≠ 0 ∨
    attempt.dryRun = true -> (runPathExport toLowercase shell attempt binDir stored).2 = stored
  settled : (runPathExport toLowercase shell attempt binDir stored).1 = 0 ->
    attempt.dryRun = false -> forall again,
    (runPathExport toLowercase shell again binDir
        (runPathExport toLowercase shell attempt binDir stored).2).2 =
      (runPathExport toLowercase shell attempt binDir stored).2

/-- The search finds the folder in the text. -/
def Mentions (binDir userPath : ScriptText) : Prop :=
  userPath ≠ [] ∧ toLowercase binDir <:+: toLowercase userPath

/-- The value that is to be stored is read as it is meant, and comes back as it is. -/
structure Clean (binDir stored : ScriptText) : Prop where
  plain : Plain (windowsPathPrepend binDir stored)
  single : ';' ∉ binDir
  start : forall first, binDir.head? = some first -> isWhitespace first = false
  trimmed : trimText stored = stored

/-- What the fix relies on. -/
def Sound (attempt : Attempt) (binDir stored : ScriptText) : Prop :=
  attempt.readCode = 0 -> attempt.dryRun = false ->
    (Mentions toLowercase binDir (trimText stored) -> IsEntry toLowercase binDir stored) ∧
    (¬ Mentions toLowercase binDir (trimText stored) -> attempt.confirmed = true ->
      Clean binDir stored)

/-! ## Texts -/

variable {text part : ScriptText}

theorem contains_iff : contains text part = true ↔ part <:+: text := by
  unfold contains
  rw [List.any_eq_true, List.infix_iff_prefix_suffix]
  simp only [List.mem_tails, List.isPrefixOf_iff_prefix]
  exact exists_congr fun tail => And.comm

theorem prefix_cut {front back : ScriptText} {separator : Char} (free : separator ∉ part)
    (starts : part <+: front ++ separator :: back) : part <+: front := by
  have other : front ++ [separator] <+: front ++ separator :: back := by simp
  rcases List.prefix_or_prefix_of_prefix starts other with within | beyond
  · rcases List.prefix_concat_iff.mp within with rfl | within
    · simp at free
    · exact within
  · exact absurd (beyond.subset (by simp)) free

theorem infix_cut {front back : ScriptText} {separator : Char} (free : separator ∉ part)
    (inside : part <:+: front ++ separator :: back) : part <:+: front ∨ part <:+: back := by
  induction front with
  | nil =>
      rcases List.infix_cons_iff.mp inside with starts | later
      · exact .inl (@prefix_cut part [] back separator free starts).isInfix
      · exact .inr later
  | cons first front ih =>
      rcases List.infix_cons_iff.mp inside with starts | later
      · exact .inl (@prefix_cut part (first :: front) back separator free starts).isInfix
      · exact (ih later).imp_left List.infix_cons

theorem length_splitOn (text : ScriptText) : (text.splitOn ';').length = text.count ';' + 1 := by
  induction text with
  | nil => rfl
  | cons first rest ih =>
      rw [List.splitOn_cons_eq_if_modifyHead, List.count_cons]
      split <;> simp [ih]

variable {drop : Char -> Bool}

theorem rdropWhile_cut {stop : Char} (stops : drop stop = false) (front back : ScriptText) :
    (front ++ stop :: back).rdropWhile drop = front ++ stop :: back.rdropWhile drop := by
  induction back using List.reverseRecOn with
  | nil => simp [stops]
  | append_singleton back last ih =>
      rw [← List.cons_append, ← List.append_assoc, List.rdropWhile_concat, List.rdropWhile_concat, ih]
      split <;> simp

theorem dropWhile_start (start : forall first, text.head? = some first -> drop first = false) :
    text.dropWhile drop = text := by
  cases text with
  | nil => rfl
  | cons first rest => rw [List.dropWhile_cons_of_neg (by simp [start first rfl])]

theorem trimText_pad {before after : ScriptText}
    (blank : forall character, character ∈ before ++ after -> isWhitespace character = true)
    (text : ScriptText) : trimText (before ++ text ++ after) = trimText text := by
  have front : forall character, character ∈ before -> isWhitespace character = true :=
    fun character listed => blank character (List.mem_append_left _ listed)
  have back : forall character, character ∈ after -> isWhitespace character = true :=
    fun character listed => blank character (List.mem_append_right _ listed)
  unfold trimText
  rw [List.append_assoc, List.dropWhile_append_of_pos front, List.dropWhile_append]
  have dropped : forall text : ScriptText,
      (text ++ after).rdropWhile isWhitespace = text.rdropWhile isWhitespace := by
    intro text
    unfold List.rdropWhile
    rw [List.reverse_append, List.dropWhile_append_of_pos fun character listed =>
      back character (List.mem_reverse.mp listed)]
  split
  · next none_ =>
      rw [List.isEmpty_iff.mp none_, List.dropWhile_eq_nil_iff.mpr back]
  · exact dropped _

/-- A text is its trimmed form between white space. -/
theorem trimText_parts (text : ScriptText) : exists before after,
    (forall character, character ∈ before ++ after -> isWhitespace character = true) ∧
      text = before ++ trimText text ++ after := by
  refine ⟨text.takeWhile isWhitespace, (text.dropWhile isWhitespace).rtakeWhile isWhitespace, ?_, ?_⟩
  · intro character listed
    rcases List.mem_append.mp listed with first | last
    · exact List.mem_takeWhile_imp first
    · exact List.mem_rtakeWhile_imp last
  · unfold trimText
    rw [List.append_assoc, List.rdropWhile_append_rtakeWhile, List.takeWhile_append_dropWhile]

theorem trimText_last (text : ScriptText) : forall last, (trimText text).getLast? = some last ->
    isWhitespace last = false := by
  intro last isLast
  unfold trimText at isLast
  have nonempty : (text.dropWhile isWhitespace).rdropWhile isWhitespace ≠ [] := by
    intro none_
    simp [none_] at isLast
  have stops := List.rdropWhile_last_not _ _ nonempty
  rw [List.getLast?_eq_some_getLast nonempty] at isLast
  rw [Option.some.inj isLast] at stops
  exact Bool.eq_false_iff.mpr stops

theorem rdropWhile_last (last : forall last, text.getLast? = some last -> drop last = false) :
    text.rdropWhile drop = text :=
  List.rdropWhile_eq_self_iff.mpr fun nonempty => by
    simp [last _ (List.getLast?_eq_some_getLast nonempty)]

theorem windowsPathPrepend_nil (binDir : ScriptText) : windowsPathPrepend binDir [] = binDir := rfl

theorem windowsPathPrepend_cons (binDir : ScriptText) (first : Char) (rest : ScriptText) :
    windowsPathPrepend binDir (first :: rest) = binDir ++ ';' :: first :: rest := by
  simp [windowsPathPrepend, textOf]

theorem length_prepend (binDir userPath : ScriptText) :
    (windowsPathPrepend binDir userPath).length =
      binDir.length + if userPath = [] then 0 else userPath.length + 1 := by
  cases userPath with
  | nil => rfl
  | cons first rest => simp [windowsPathPrepend_cons]

variable {userPath : ScriptText}

theorem mem_prepend {character : Char} {binDir : ScriptText} :
    character ∈ windowsPathPrepend binDir userPath ↔
      character ∈ binDir ∨ (userPath ≠ [] ∧ character = ';') ∨ character ∈ userPath := by
  cases userPath with
  | nil => simp [windowsPathPrepend_nil]
  | cons first rest => simp [windowsPathPrepend_cons]

/-! ## Bin folders -/

section Folder

variable {binDir : ScriptText} (isBin : textOf "bin" <:+ binDir)
include isBin

theorem bin_last : binDir.getLast? = some 'n' := by
  rcases isBin with ⟨front, rfl⟩
  exact List.getLast?_append_of_ne_nil front (by decide)

theorem bin_ne_nil : binDir ≠ [] := by
  rintro rfl
  exact nomatch bin_last isBin

/-- What is left of the folder without white space at its start. -/
theorem bin_trimmed : (binDir.dropWhile isWhitespace).getLast? = some 'n' := by
  rcases isBin with ⟨front, rfl⟩
  rw [List.dropWhile_append]
  split
  · decide
  · exact List.getLast?_append_of_ne_nil _ (by decide)

theorem trimText_prepend
    (ends : forall last, userPath.getLast? = some last -> isWhitespace last = false) :
    trimText (windowsPathPrepend binDir userPath) =
      windowsPathPrepend (binDir.dropWhile isWhitespace) userPath := by
  have last := bin_trimmed isBin
  have nonempty : binDir.dropWhile isWhitespace ≠ [] := by
    intro none_
    simp [none_] at last
  unfold trimText
  cases userPath with
  | nil =>
      refine rdropWhile_last fun character isLast => ?_
      rw [windowsPathPrepend_nil, last] at isLast
      exact Option.some.inj isLast ▸ by decide
  | cons first rest =>
      rw [windowsPathPrepend_cons, windowsPathPrepend_cons, List.dropWhile_append,
        if_neg (by simpa using nonempty), rdropWhile_cut (by decide), rdropWhile_last ends]

theorem entriesOf_prepend (single : ';' ∉ binDir) (userPath : ScriptText) :
    entriesOf (windowsPathPrepend binDir userPath) = binDir :: entriesOf userPath := by
  have nonempty := bin_ne_nil isBin
  unfold entriesOf
  cases userPath with
  | nil => simp [windowsPathPrepend_nil, nonempty, List.splitOn_eq_singleton single]
  | cons first rest =>
      rw [windowsPathPrepend_cons, if_neg (by simp), if_neg (List.cons_ne_nil _ _)]
      exact List.splitOn_append_cons_self_of_not_mem single _

end Folder

/-! ## The run, case by case -/

section Runs

variable {toLowercase} {shell : Shell} {attempt : Attempt} {binDir stored : ScriptText}

theorem mentions_iff :
    (!userPath.isEmpty && contains (toLowercase userPath) (toLowercase binDir)) = true ↔
      Mentions toLowercase binDir userPath := by
  simp [Mentions, contains_iff]

theorem run_unread (unread : attempt.readCode ≠ 0) :
    runPathExport toLowercase shell attempt binDir stored = (4, stored) := by
  simp [runPathExport, psEnvScope, unread, pathExportWindows]

theorem psEnvScope_read (read : attempt.readCode = 0) :
    psEnvScope attempt.readCode (attempt.before ++ stored ++ attempt.after) =
      some (trimText stored) := by
  rw [psEnvScope, if_pos read, trimText_pad attempt.blank]

theorem run_mentioned (read : attempt.readCode = 0)
    (mentions : Mentions toLowercase binDir (trimText stored)) :
    runPathExport toLowercase shell attempt binDir stored = (0, stored) := by
  unfold runPathExport pathExportWindows
  rw [psEnvScope_read read]
  dsimp only
  rw [if_pos (mentions_iff.mpr mentions)]
  rfl

theorem run_absent (read : attempt.readCode = 0)
    (absent : ¬ Mentions toLowercase binDir (trimText stored)) :
    runPathExport toLowercase shell attempt binDir stored =
      if attempt.dryRun = true then (0, stored)
      else if attempt.confirmed = false then (5, stored)
      else
        let outcome := shell (pathExportScript binDir (trimText stored)) stored
        (if outcome.1 = 0 then 0 else 4, outcome.2) := by
  unfold runPathExport pathExportWindows
  rw [psEnvScope_read read]
  dsimp only [Option.getD_some]
  rw [if_neg (mentions_iff.not.mpr absent)]
  cases attempt.dryRun <;> cases attempt.confirmed <;> rfl

theorem settled_of_mentions (mentions : Mentions toLowercase binDir (trimText stored))
    (again : Attempt) : (runPathExport toLowercase shell again binDir stored).2 = stored := by
  by_cases read : again.readCode = 0
  · rw [run_mentioned read mentions]
  · rw [run_unread read]

theorem mentions_prepend (lowercase : LowerCase toLowercase) (isBin : textOf "bin" <:+ binDir)
    (userPath : ScriptText) :
    Mentions toLowercase binDir (windowsPathPrepend binDir userPath) := by
  have nonempty := bin_ne_nil isBin
  cases userPath with
  | nil => exact ⟨nonempty, List.infix_rfl⟩
  | cons first rest =>
      rw [windowsPathPrepend_cons]
      refine ⟨by simp, ?_⟩
      rw [lowercase.cut binDir (first :: rest) ';' (.inr rfl)]
      exact (List.prefix_append ..).isInfix

/-- A run does what it reports where the search and the value are right. -/
theorem fixes_of_sound (lowercase : LowerCase toLowercase) (isBin : textOf "bin" <:+ binDir)
    (lawful : shell.Lawful) (sound : Sound toLowercase attempt binDir stored) :
    Fixes toLowercase shell attempt binDir stored := by
  by_cases read : attempt.readCode = 0
  · by_cases mentions : Mentions toLowercase binDir (trimText stored)
    · have isRun : runPathExport toLowercase shell attempt binDir stored = _ :=
        run_mentioned read mentions
      refine ⟨fun _ wet => ?_, fun _ => by rw [isRun], fun _ _ again => ?_⟩
      · rw [isRun]
        exact ⟨(sound read wet).1 mentions, List.Sublist.refl _⟩
      · rw [isRun]
        exact settled_of_mentions mentions again
    · have isRun : runPathExport toLowercase shell attempt binDir stored = _ :=
        run_absent read mentions
      cases wet : attempt.dryRun with
      | true =>
          rw [wet, if_pos rfl] at isRun
          exact ⟨fun _ dry => (nomatch wet.symm.trans dry), fun _ => by rw [isRun],
            fun _ dry => (nomatch wet.symm.trans dry)⟩
      | false =>
          rw [wet, if_neg (by decide)] at isRun
          cases confirmed : attempt.confirmed with
          | false =>
              rw [confirmed, if_pos rfl] at isRun
              refine ⟨fun ok => ?_, fun _ => by rw [isRun], fun ok => ?_⟩ <;>
                (rw [isRun] at ok; cases ok)
          | true =>
              have clean := (sound read wet).2 mentions confirmed
              rw [confirmed, if_neg (by decide), clean.trimmed] at isRun
              have stores := lawful binDir stored stored ((pathExport_meant_iff ..).mpr clean.plain)
              by_cases ok : (shell (pathExportScript binDir stored) stored).1 = 0
              · dsimp only at isRun
                rw [if_pos ok, stores.1 ok] at isRun
                refine ⟨fun _ _ => ?_, fun failed => ?_, fun _ _ again => ?_⟩
                · rw [isRun, entriesOf_prepend isBin clean.single]
                  refine ⟨⟨binDir, ?_, rfl⟩, List.sublist_cons_self ..⟩
                  rw [entriesOf_prepend isBin clean.single]
                  exact List.mem_cons_self
                · rw [isRun, wet] at failed
                  simp at failed
                · rw [isRun]
                  refine settled_of_mentions ?_ again
                  rw [trimText_prepend isBin (fun last isLast => trimText_last stored last
                    (clean.trimmed.symm ▸ isLast)), dropWhile_start clean.start]
                  exact mentions_prepend lowercase isBin stored
              · dsimp only at isRun
                rw [if_neg ok, stores.2 ok] at isRun
                refine ⟨fun ok => ?_, fun _ => by rw [isRun], fun ok => ?_⟩ <;>
                  (rw [isRun] at ok; cases ok)
  · have isRun : runPathExport toLowercase shell attempt binDir stored = _ := run_unread read
    refine ⟨fun ok => ?_, fun _ => by rw [isRun], fun ok => ?_⟩ <;> (rw [isRun] at ok; cases ok)

end Runs

/-! ## What the reports need -/

/-- A shell that stores the value of the one call, and fails on every other script. -/
def storing : Shell := fun script stored =>
  match statementsOf script with
  | some [[_, _, _, _, .string value, _, _, _]] => (0, value)
  | _ => (1, stored)

theorem storing_meant {script value : ScriptText}
    (meant : statementsOf script = some [setPathStatement value]) (stored : ScriptText) :
    storing script stored = (0, value) := by
  unfold storing
  rw [meant]
  rfl

theorem storing_lawful : storing.Lawful := by
  intro binDir userPath stored meant
  rw [storing_meant meant]
  exact ⟨fun _ => rfl, fun failed => absurd rfl failed⟩

/-- A shell that reads one script as one that empties the PATH. -/
def emptying (misread : ScriptText) : Shell := fun script stored =>
  if script = misread then (0, []) else (1, stored)

theorem curly_mem_script {character : Char} (curly : isCurlyQuote character = true)
    (binDir userPath : ScriptText) : character ∈ pathExportScript binDir userPath ↔
      character ∈ windowsPathPrepend binDir userPath := by
  have straight : character ≠ '\'' := by
    rintro rfl
    exact absurd curly (by decide)
  have constants : Plain (textOf "[Environment]::SetEnvironmentVariable('PATH', '") ∧
      Plain (textOf "', 'User')") := by decide
  have notIn : forall value : ScriptText, Plain value -> character ∉ value :=
    fun value plain listed => absurd curly (Bool.eq_false_iff.mp (plain character listed))
  have escaped : forall value : ScriptText, character ∈ psSingleQuoteEscape value ↔
      character ∈ value := by
    intro value
    unfold psSingleQuoteEscape
    rw [List.mem_flatMap]
    constructor
    · rintro ⟨original, listed, inside⟩
      split at inside
      · simp [straight] at inside
      · rwa [List.mem_singleton.mp inside]
    · exact fun listed => ⟨character, listed, by simp [straight]⟩
  unfold pathExportScript
  rw [List.mem_append, List.mem_append, escaped]
  simp [notIn _ constants.1, notIn _ constants.2]

theorem emptying_lawful {binDir : ScriptText}
    (misread : ¬ Plain (windowsPathPrepend binDir userPath)) :
    (emptying (pathExportScript binDir userPath)).Lawful := by
  intro binDir' userPath' stored meant
  have plain := (pathExport_meant_iff ..).mp meant
  have other : pathExportScript binDir' userPath' ≠ pathExportScript binDir userPath := by
    intro same
    refine misread fun character listed => Bool.eq_false_iff.mpr fun curly => ?_
    have inOther := (curly_mem_script curly binDir' userPath').mp
      (same ▸ (curly_mem_script curly binDir userPath).mpr listed)
    exact absurd curly (Bool.eq_false_iff.mp (plain character inOther))
  unfold emptying
  rw [if_neg other]
  exact ⟨nofun, fun _ => rfl⟩

theorem not_mem_entry {path entry : ScriptText} (listed : entry ∈ entriesOf path) :
    ';' ∉ entry := by
  have parts : forall text : ScriptText, forall part, part ∈ text.splitOn ';' -> ';' ∉ part := by
    intro text
    induction text with
    | nil => simp [List.splitOn_eq_singleton]
    | cons first rest ih =>
        rw [List.splitOn_cons_eq_if_modifyHead]
        split
        · exact List.forall_mem_cons.mpr ⟨List.not_mem_nil, ih⟩
        · next other =>
            cases split : rest.splitOn ';' with
            | nil => exact nofun
            | cons head tail =>
                rw [split] at ih
                rcases List.forall_mem_cons.mp ih with ⟨isHead, isTail⟩
                refine List.forall_mem_cons.mpr ⟨fun inHead => ?_, isTail⟩
                rcases List.mem_cons.mp inHead with same | later
                · exact other (beq_iff_eq.mpr same.symm)
                · exact isHead later
  unfold entriesOf at listed
  split at listed
  · exact nomatch listed
  · exact parts path entry listed

section Needs

variable {toLowercase} {attempt : Attempt} {binDir stored : ScriptText}
  (lowercase : LowerCase toLowercase) (isBin : textOf "bin" <:+ binDir)
include lowercase isBin

theorem single_of_isEntry {path : ScriptText} (isEntry : IsEntry toLowercase binDir path) :
    ';' ∉ binDir := by
  rcases isEntry with ⟨entry, listed, same⟩
  intro cut
  have whole : dropBackslash binDir = binDir := by
    rw [dropBackslash, bin_last isBin]
    exact if_neg (by decide)
  have part : ';' ∉ dropBackslash entry := by
    intro inside
    refine not_mem_entry listed ?_
    unfold dropBackslash at inside
    split at inside
    · exact List.mem_of_mem_dropLast inside
    · exact inside
  rcases List.append_of_mem cut with ⟨front, back, isCut⟩
  refine lowercase.single _ part ?_
  rw [same, whole, isCut, lowercase.cut front back ';' (.inr rfl)]
  simp

omit isBin in
/-- A folder behind white space is not found again in the value that was stored. -/
theorem absent_of_blank {first : Char} (isFirst : binDir.head? = some first)
    (blank : isWhitespace first = true) (single : ';' ∉ binDir)
    (absent : ¬ Mentions toLowercase binDir userPath) :
    ¬ Mentions toLowercase binDir
      (windowsPathPrepend (binDir.dropWhile isWhitespace) userPath) := by
  have shorter : ¬ toLowercase binDir <:+: toLowercase (binDir.dropWhile isWhitespace) := by
    intro inside
    have parts := @List.takeWhile_append_dropWhile Char isWhitespace binDir
    rcases List.head?_eq_some_iff.mp isFirst with ⟨rest, isRest⟩
    have nonempty : binDir.takeWhile isWhitespace ≠ [] := by
      rw [isRest, List.takeWhile_cons_of_pos blank]
      exact List.cons_ne_nil _ _
    rcases List.eq_nil_or_concat (binDir.takeWhile isWhitespace) with none_ | ⟨front, last, isTaken⟩
    · exact nonempty none_
    have lastBlank : isWhitespace last = true :=
      List.mem_takeWhile_imp (show last ∈ binDir.takeWhile isWhitespace by simp [isTaken])
    have long := inside.length_le
    conv at long => lhs; rw [← parts, isTaken, List.concat_eq_append, List.append_assoc,
      List.singleton_append, lowercase.cut front _ last (.inl lastBlank)]
    simp only [List.length_append, List.length_cons] at long
    omega
  rintro ⟨_, inside⟩
  cases userPath with
  | nil => exact shorter inside
  | cons head tail =>
      rw [windowsPathPrepend_cons, lowercase.cut _ _ ';' (.inr rfl)] at inside
      rcases infix_cut (lowercase.single _ single) inside with here | later
      · exact shorter here
      · exact absent ⟨List.cons_ne_nil _ _, later⟩

/-- An entry that the trimming changed is missing, unless the search finds the folder. -/
theorem trimmed_of_sublist
    (start : forall first, binDir.head? = some first -> isWhitespace first = false)
    (single : ';' ∉ binDir) (absent : ¬ Mentions toLowercase binDir (trimText stored))
    (kept : (entriesOf stored).Sublist
      (entriesOf (windowsPathPrepend binDir (trimText stored)))) : trimText stored = stored := by
  rcases trimText_parts stored with ⟨before, after, blank, whole⟩
  by_cases none_ : stored = []
  · rw [none_]
    rfl
  rw [entriesOf_prepend isBin single] at kept
  have found : forall rest, stored ≠ binDir ++ rest ∨ ¬ (rest = [] ∨ rest.head? = some ';') := by
    intro rest
    by_contra both
    rw [not_or, not_not, not_not] at both
    rcases both with ⟨isStored, isRest⟩
    refine absent ?_
    have noBlank : stored.dropWhile isWhitespace = stored := by
      refine dropWhile_start fun first isFirst => start first ?_
      rwa [isStored, List.head?_append_of_ne_nil _ (bin_ne_nil isBin)] at isFirst
    rw [trimText, noBlank, isStored]
    rcases isRest with rfl | isRest
    · rw [List.append_nil, rdropWhile_last fun last isLast => by
        rw [bin_last isBin] at isLast
        exact Option.some.inj isLast ▸ by decide]
      exact mentions_prepend lowercase isBin []
    · rcases List.head?_eq_some_iff.mp isRest with ⟨tail, rfl⟩
      rw [rdropWhile_cut (by decide)]
      refine ⟨by simp, ?_⟩
      rw [lowercase.cut _ _ ';' (.inr rfl)]
      exact (List.prefix_append ..).isInfix
  have entries : entriesOf stored = stored.splitOn ';' := if_neg none_
  have joined : [';'].intercalate (entriesOf stored) = stored := by
    rw [entries, List.intercalate_splitOn]
  rcases List.sublist_cons_iff.mp kept with within | ⟨rest, isRest, _⟩
  · by_cases emptied : trimText stored = []
    · rw [emptied, entries] at within
      exact absurd (List.sublist_nil.mp within) (List.splitOn_ne_nil _ _)
    · have trimmed : entriesOf (trimText stored) = (trimText stored).splitOn ';' := if_neg emptied
      have noCut : forall text : ScriptText,
          (forall character, character ∈ text -> isWhitespace character = true) ->
          text.count ';' = 0 := fun text isBlank =>
        List.count_eq_zero.mpr fun listed => absurd (isBlank _ listed) (by decide)
      have lengths : (entriesOf stored).length = (entriesOf (trimText stored)).length := by
        rw [entries, trimmed, length_splitOn, length_splitOn]
        conv => lhs; rw [whole]
        rw [List.count_append, List.count_append,
          noCut before fun character listed => blank character (List.mem_append_left _ listed),
          noCut after fun character listed => blank character (List.mem_append_right _ listed)]
        omega
      have joinedTrimmed : [';'].intercalate (entriesOf (trimText stored)) = trimText stored := by
        rw [trimmed, List.intercalate_splitOn]
      rw [← within.eq_of_length lengths, joined] at joinedTrimmed
      exact joinedTrimmed.symm
  · rw [isRest] at joined
    cases rest with
    | nil =>
        rw [List.intercalate_singleton] at joined
        exact absurd ((found []).resolve_left (by simp [joined])) (by simp)
    | cons next others =>
        rw [List.intercalate_cons_cons] at joined
        exact absurd ((found (';' :: [';'].intercalate (next :: others))).resolve_left
          (by simp [← joined])) (by simp)

/-- Runs that report truly under every shell have a right search and a right value. -/
theorem sound_of_fixes (all : forall shell : Shell, shell.Lawful ->
    Fixes toLowercase shell attempt binDir stored) : Sound toLowercase attempt binDir stored := by
  intro read wet
  refine ⟨fun mentions => ?_, fun absent confirmed => ?_⟩
  · have fixed := (all storing storing_lawful).fixed
    rw [run_mentioned read mentions] at fixed
    exact (fixed rfl wet).1
  have isRun : forall shell : Shell, runPathExport toLowercase shell attempt binDir stored =
      let outcome := shell (pathExportScript binDir (trimText stored)) stored
      (if outcome.1 = 0 then 0 else 4, outcome.2) := by
    intro shell
    rw [run_absent read absent, wet, confirmed]
    rfl
  have plain : Plain (windowsPathPrepend binDir (trimText stored)) := by
    by_contra misread
    have fixed := (all _ (emptying_lawful misread)).fixed
    rw [isRun, emptying, if_pos rfl] at fixed
    rcases (fixed rfl wet).1 with ⟨entry, listed, _⟩
    exact nomatch listed
  have stored_ : runPathExport toLowercase storing attempt binDir stored =
      (0, windowsPathPrepend binDir (trimText stored)) := by
    rw [isRun, storing_meant ((pathExport_meant_iff ..).mpr plain)]
    rfl
  rcases all storing storing_lawful with ⟨fixed, _, settled⟩
  rw [stored_] at fixed settled
  rcases fixed rfl wet with ⟨isEntry, kept⟩
  have single := single_of_isEntry lowercase isBin isEntry
  have start : forall first, binDir.head? = some first -> isWhitespace first = false := by
    intro first isFirst
    by_contra blank
    rw [Bool.not_eq_false] at blank
    -- a second run does not find the folder, and prepends it again
    have again := settled rfl wet ⟨false, true, 0, [], [], nofun⟩
    have behind := trimText_prepend isBin (trimText_last stored)
    rw [run_absent rfl (behind ▸ absent_of_blank lowercase isFirst blank single absent)] at again
    have plainAgain : Plain (windowsPathPrepend binDir
        (windowsPathPrepend (binDir.dropWhile isWhitespace) (trimText stored))) := by
      intro character listed
      rcases mem_prepend.mp listed with inFolder | ⟨_, rfl⟩ | inRest
      · exact plain character (mem_prepend.mpr (.inl inFolder))
      · decide
      · refine plain character (mem_prepend.mpr ?_)
        exact (mem_prepend.mp inRest).imp_left fun dropped =>
          (List.dropWhile_sublist isWhitespace).subset dropped
    rw [behind] at again
    dsimp only at again
    rw [if_neg (by decide), if_neg (by decide),
      storing_meant ((pathExport_meant_iff ..).mpr plainAgain)] at again
    have longer := congrArg List.length again
    rw [length_prepend, length_prepend, length_prepend] at longer
    have nonempty : windowsPathPrepend (binDir.dropWhile isWhitespace) (trimText stored) ≠ [] := by
      intro none_
      have last := bin_trimmed isBin
      have dropped : binDir.dropWhile isWhitespace = [] := by
        rw [List.eq_nil_iff_forall_not_mem]
        exact fun character listed =>
          List.not_mem_nil (none_ ▸ mem_prepend.mpr (.inl listed) : character ∈ [])
      simp [dropped] at last
    rw [if_neg nonempty] at longer
    omega
  have trimmed := trimmed_of_sublist lowercase isBin start single absent kept
  exact ⟨trimmed ▸ plain, single, start, trimmed⟩

end Needs

/-! ## A neighbour of the folder -/

/-- Lower case for the letters `A` to `Z`. -/
def lowerAscii (text : ScriptText) : ScriptText := text.map Char.toLower

theorem lowerAscii_lowercase : LowerCase lowerAscii := by
  constructor
  · intro front back separator isSeparator
    have same : separator.toLower = separator := by
      by_cases wide : 127 < separator.toNat
      · exact Text.toLower_of_wide wide
      · have narrow : separator.toNat < 128 := by omega
        exact Text.forall_toNat_lt (fun separator => isWhitespace separator = true ∨
          separator = ';' -> separator.toLower = separator) (by decide) narrow isSeparator
    simp [lowerAscii, same]
  · intro text free listed
    rcases List.mem_map.mp listed with ⟨character, isListed, lower⟩
    have same : character = ';' := Text.eq_of_toLower_eq (by decide) lower
    exact free (same ▸ isListed)

/-- A run that reads the PATH with a line end behind it, and that is agreed to. -/
def agreedAttempt : Attempt where
  dryRun := false
  confirmed := true
  readCode := 0
  before := []
  after := ['\r', '\n']
  blank character listed := by rcases List.mem_pair.mp listed with rfl | rfl <;> decide

end Process
end RocmCli
