import RocmCli.Support.InclusiveLines
import RocmCli.Support.Text

namespace RocmCli
namespace EnvFile

open InclusiveLines (splitInclusive splitInclusive_line)

/-!
# Environment files

A container's variables come from the lines of a file and from arguments, the
later of which wins.  The reader of the file trims and skips, so a line may set
another variable than the one it was written for.  Which characters are white
space to it is left open.
-/

/-- The variables of a process. -/
abbrev Environment := String -> Option String

/-- A variable with its value, or one whose value the client has. -/
structure Setting where
  name : String
  value : Option String
deriving DecidableEq, Repr

/-- Cut a text at its first `=`; a text without one names a variable of the client. -/
def readSetting (text : List Char) : Setting :=
  match text.dropWhile (· != '=') with
  | [] => ⟨String.ofList text, none⟩
  | _ :: value => ⟨String.ofList (text.takeWhile (· != '=')), some (String.ofList value)⟩

/-! ## The reader -/

/-- Read each item, all of them or none. -/
def collectAll {Item Result : Type} (read : Item -> Option (List Result)) :
    List Item -> Option (List Result)
  | [] => some []
  | item :: rest =>
      match read item, collectAll read rest with
      | some first, some others => some (first ++ others)
      | _, _ => none

def byteOrderMark : Char := Char.ofNat 0xFEFF

def dropMark : List Char -> List Char
  | [] => []
  | first :: rest => if first = byteOrderMark then rest else first :: rest

def dropReturn (line : List Char) : List Char :=
  if line.getLast? = some '\r' then line.dropLast else line

/-- Read a line without its newline; a line that is refused refuses its file. -/
def readLine (isBlank : Char -> Bool) (line : List Char) : Option (List Setting) :=
  let trimmed := (dropReturn line).dropWhile isBlank
  if trimmed = [] ∨ trimmed.head? = some '#' then some []
  else if (readSetting trimmed).name = "" ∨ (readSetting trimmed).name.toList.any isBlank = true then
    none
  else some [readSetting trimmed]

def readFile (isBlank : Char -> Bool) (text : List Char) : Option (List Setting) :=
  collectAll (readLine isBlank)
    ((splitInclusive '\n' (dropMark text)).map fun line => line.takeWhile (· != '\n'))

/-! ## Reading entries -/

/-- The line of an entry. -/
def writeEntry (entry : String × String) : List Char :=
  entry.1.toList ++ '=' :: entry.2.toList

/-- What the reader makes of the line of an entry. -/
def readEntry (isBlank : Char -> Bool) (entry : String × String) : Option (List Setting) :=
  let trimmed := entry.1.toList.dropWhile isBlank
  if trimmed.head? = some '#' then some []
  else if trimmed = [] ∨ trimmed.any isBlank = true then none
  else some [⟨String.ofList trimmed, some (String.ofList (dropReturn entry.2.toList))⟩]

/-- The entries of a file as the reader finds them behind a byte order mark. -/
def unmarked : List (String × String) -> List (String × String)
  | [] => []
  | first :: rest => (String.ofList (dropMark first.1.toList), first.2) :: rest

/-- The entry can be a line of a file. -/
structure IsLine (entry : String × String) : Prop where
  cut : '=' ∉ entry.1.toList
  oneName : '\n' ∉ entry.1.toList
  oneValue : '\n' ∉ entry.2.toList

variable {Item Result : Type} {items : List Item} {read : Item -> Option (List Result)}

theorem mem_collectAll {results : List Result} (collected : collectAll read items = some results)
    {result : Result} (listed : result ∈ results) :
    exists item part, item ∈ items ∧ read item = some part ∧ result ∈ part := by
  induction items generalizing results with
  | nil =>
      cases collected
      exact nomatch listed
  | cons item rest ih =>
      unfold collectAll at collected
      cases first : read item with
      | none => simp [first] at collected
      | some part =>
          cases others : collectAll read rest with
          | none => simp [first, others] at collected
          | some more =>
              rw [first, others] at collected
              cases collected
              rcases List.mem_append.mp listed with here | later
              · exact ⟨item, part, List.mem_cons_self, first, here⟩
              · rcases ih others later with ⟨found, some_, isItem, read_, isResult⟩
                exact ⟨found, some_, List.mem_cons_of_mem _ isItem, read_, isResult⟩

theorem collectAll_map {Source : Type} (read : Item -> Option (List Result))
    (write : Source -> Item) (sources : List Source) :
    collectAll read (sources.map write) = collectAll (fun source => read (write source)) sources := by
  induction sources with
  | nil => rfl
  | cons source rest ih =>
      unfold List.map collectAll
      rw [ih]

theorem collectAll_congr {read' : Item -> Option (List Result)}
    (same : forall item, item ∈ items -> read item = read' item) :
    collectAll read items = collectAll read' items := by
  induction items with
  | nil => rfl
  | cons item rest ih =>
      unfold collectAll
      rw [same item List.mem_cons_self, ih fun other listed => same other (.tail _ listed)]

/-- When each item is refused or read as one result, a collection has the results in order. -/
theorem collectAll_single {result : Item -> Result}
    (single : forall item, item ∈ items -> forall part, read item = some part ->
      part = [result item]) {results : List Result}
    (collected : collectAll read items = some results) :
    results = items.map result := by
  induction items generalizing results with
  | nil =>
      cases collected
      rfl
  | cons item rest ih =>
      unfold collectAll at collected
      cases first : read item with
      | none => simp [first] at collected
      | some part =>
          cases others : collectAll read rest with
          | none => simp [first, others] at collected
          | some more =>
              rw [first, others] at collected
              cases collected
              rw [single item List.mem_cons_self part first,
                ih (fun other listed => single other (.tail _ listed)) others]
              rfl

theorem dropReturn_entry (name value : List Char) :
    dropReturn (name ++ '=' :: value) = name ++ '=' :: dropReturn value := by
  unfold dropReturn
  cases value with
  | nil => simp
  | cons first rest =>
      have last : (name ++ '=' :: first :: rest).getLast? = (first :: rest).getLast? := by
        rw [List.getLast?_append_of_ne_nil _ (List.cons_ne_nil _ _), List.getLast?_cons_cons]
      rw [last]
      split
      · rw [List.dropLast_append_of_ne_nil (List.cons_ne_nil _ _), List.dropLast_cons_cons]
      · rfl

theorem readSetting_cut {name : List Char} (cut : '=' ∉ name) (value : List Char) :
    readSetting (name ++ '=' :: value) = ⟨String.ofList name, some (String.ofList value)⟩ := by
  have before : forall character, character ∈ name -> (character != '=') = true :=
    fun character listed => bne_iff_ne.mpr fun same => cut (same ▸ listed)
  unfold readSetting
  rw [List.dropWhile_append_of_pos before, List.takeWhile_append_of_pos before]
  simp

theorem readSetting_whole {name : List Char} (cut : '=' ∉ name) :
    readSetting name = ⟨String.ofList name, none⟩ := by
  have before : forall character, character ∈ name -> (character != '=') = true :=
    fun character listed => bne_iff_ne.mpr fun same => cut (same ▸ listed)
  unfold readSetting
  rw [List.dropWhile_eq_nil_iff.mpr before]

variable {isBlank : Char -> Bool}

theorem readLine_entry (equals : isBlank '=' = false) {entry : String × String}
    (cut : '=' ∉ entry.1.toList) : readLine isBlank (writeEntry entry) = readEntry isBlank entry := by
  unfold readLine readEntry writeEntry
  rw [dropReturn_entry, Text.dropWhile_stop equals]
  have uncut : '=' ∉ entry.1.toList.dropWhile isBlank :=
    fun listed => cut ((List.dropWhile_sublist _).subset listed)
  dsimp only
  rw [readSetting_cut uncut]
  generalize entry.1.toList.dropWhile isBlank = trimmed
  cases trimmed with
  | nil => simp
  | cons first rest => simp

theorem dropMark_append (front back : List Char) (nonempty : front ≠ []) :
    dropMark (front ++ back) = dropMark front ++ back := by
  cases front with
  | nil => exact absurd rfl nonempty
  | cons first rest =>
      unfold dropMark
      dsimp only [List.cons_append]
      split <;> rfl

/-- A file of entries is read entry by entry, the first without its byte order mark. -/
theorem readFile_entries (equals : isBlank '=' = false) {entries : List (String × String)}
    (lines : forall entry, entry ∈ entries -> IsLine entry) :
    readFile isBlank (entries.flatMap fun entry => writeEntry entry ++ ['\n']) =
      collectAll (readEntry isBlank) (unmarked entries) := by
  have cutLines : forall (rest : List (String × String)),
      (forall entry, entry ∈ rest -> '\n' ∉ writeEntry entry) ->
      ((splitInclusive '\n' (rest.flatMap fun entry => writeEntry entry ++ ['\n'])).map
        fun line => line.takeWhile (· != '\n')) = rest.map writeEntry := by
    intro rest plain
    induction rest with
    | nil => rfl
    | cons entry rest ih =>
        have here := plain entry List.mem_cons_self
        have before : forall character, character ∈ writeEntry entry -> (character != '\n') = true :=
          fun character listed => bne_iff_ne.mpr fun same => here (same ▸ listed)
        rw [List.flatMap_cons, List.append_assoc, List.singleton_append, splitInclusive_line here,
          List.map_cons, List.map_cons, ih fun other listed => plain other (.tail _ listed),
          List.takeWhile_append_of_pos before]
        simp
  have noNewline : forall entry, IsLine entry -> '\n' ∉ writeEntry entry := by
    intro entry line listed
    rcases List.mem_append.mp listed with inName | inRest
    · exact line.oneName inName
    · rcases List.mem_cons.mp inRest with same | inValue
      · exact absurd same (by decide)
      · exact line.oneValue inValue
  cases entries with
  | nil => rfl
  | cons first rest =>
      have stillLine : IsLine (String.ofList (dropMark first.1.toList), first.2) := by
        have line := lines first List.mem_cons_self
        have part : forall character, character ∈ dropMark first.1.toList ->
            character ∈ first.1.toList := by
          intro character listed
          unfold dropMark at listed
          split at listed
          · exact nomatch listed
          · next head tail same =>
              rw [same]
              split at listed
              · exact .tail _ listed
              · exact listed
        refine ⟨?_, ?_, line.oneValue⟩
        · rw [String.toList_ofList]
          exact fun listed => line.cut (part _ listed)
        · rw [String.toList_ofList]
          exact fun listed => line.oneName (part _ listed)
      have allLines : forall entry, entry ∈ unmarked (first :: rest) -> IsLine entry := by
        intro entry listed
        rcases List.mem_cons.mp listed with same | later
        · exact same ▸ stillLine
        · exact lines entry (.tail _ later)
      have text : dropMark ((first :: rest).flatMap fun entry => writeEntry entry ++ ['\n']) =
          (unmarked (first :: rest)).flatMap fun entry => writeEntry entry ++ ['\n'] := by
        unfold unmarked writeEntry
        rw [List.flatMap_cons, List.flatMap_cons, String.toList_ofList]
        cases first.1.toList with
        | nil =>
            simp only [List.nil_append, List.cons_append, dropMark]
            rw [if_neg (by decide)]
        | cons character name =>
            rw [List.append_assoc, List.append_assoc, dropMark_append _ _ (List.cons_ne_nil _ _)]
            simp
      unfold readFile
      rw [text, cutLines _ fun entry listed => noNewline entry (allLines entry listed),
        collectAll_map]
      exact collectAll_congr fun entry listed => readLine_entry equals (allLines entry listed).cut

/-- A name that was read is not empty, does not open a comment and has no white space. -/
theorem readEntry_setting {entry : String × String} {part : List Setting}
    (read : readEntry isBlank entry = some part) {setting : Setting} (listed : setting ∈ part) :
    setting.name.toList = entry.1.toList.dropWhile isBlank ∧
      setting.name.toList.head? ≠ some '#' ∧ setting.name.toList.any isBlank = false ∧
      setting.value = some (String.ofList (dropReturn entry.2.toList)) := by
  unfold readEntry at read
  dsimp only at read
  split at read
  · cases read
    exact nomatch listed
  · next noComment =>
      split at read
      · cases read
      · next sound =>
          cases read
          rw [List.mem_singleton] at listed
          subst listed
          rw [not_or, Bool.not_eq_true] at sound
          rw [String.toList_ofList]
          exact ⟨rfl, noComment, sound.2, rfl⟩

/-! ## The variables of a container -/

/-- Apply the settings in their order. -/
def settle (client : Environment) (settings : List Setting) : Environment :=
  settings.foldl (fun environment setting =>
    Function.update environment setting.name (setting.value <|> client setting.name))
    fun _ => none

theorem settle_concat (client : Environment) (settings : List Setting) (setting : Setting) :
    settle client (settings ++ [setting]) =
      Function.update (settle client settings) setting.name
        (setting.value <|> client setting.name) :=
  List.foldl_concat ..

theorem settle_untouched (client : Environment) {settings : List Setting} {name : String}
    (untouched : forall setting, setting ∈ settings -> setting.name ≠ name) :
    settle client settings name = none := by
  induction settings using List.reverseRecOn with
  | nil => rfl
  | append_singleton settings last ih =>
      rw [settle_concat, Function.update_of_ne (untouched last (by simp)).symm]
      exact ih fun setting listed => untouched setting (List.mem_append_left _ listed)

/-- With each name set once, the variables are those that each setting gives. -/
theorem settle_eq (client : Environment) {settings : List Setting} {target : Environment}
    (once : (settings.map Setting.name).Nodup)
    (given : forall setting, setting ∈ settings ->
      (setting.value <|> client setting.name) = target setting.name)
    (others : forall name, (forall setting, setting ∈ settings -> setting.name ≠ name) ->
      target name = none) : settle client settings = target := by
  have each : forall name, (exists setting, setting ∈ settings ∧ setting.name = name) ->
      settle client settings name = target name := by
    clear others
    intro name
    induction settings using List.reverseRecOn with
    | nil => exact fun found => nomatch found.choose_spec.1
    | append_singleton settings last ih =>
        rintro ⟨setting, listed, isName⟩
        rw [settle_concat]
        rw [List.map_append, List.nodup_append] at once
        by_cases same : last.name = name
        · rw [← same, Function.update_self]
          exact given last (by simp)
        · rw [Function.update_of_ne (Ne.symm same)]
          refine ih once.1 (fun other listed => given other (List.mem_append_left _ listed)) ?_
          rcases List.mem_append.mp listed with early | isLast
          · exact ⟨setting, early, isName⟩
          · exact absurd (List.mem_singleton.mp isLast ▸ isName) same
  funext name
  by_cases found : exists setting, setting ∈ settings ∧ setting.name = name
  · exact each name found
  · have untouched : forall setting, setting ∈ settings -> setting.name ≠ name :=
      fun setting listed same => found ⟨setting, listed, same⟩
    rw [settle_untouched client untouched, others name untouched]

end EnvFile
end RocmCli
