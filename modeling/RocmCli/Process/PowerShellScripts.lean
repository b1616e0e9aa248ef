import RocmCli.Process.PowerShell

namespace RocmCli
namespace Process

/-!
# The scripts that are handed to PowerShell

ComfyUI is started on Windows by a launcher script that runs a runner script,
and the user PATH is changed by a script of one call.  All three carry paths of
the user.  Each is made of lines whose own text is fixed, so it consists of the
statements that were meant exactly where every value in it is plain.
-/

/-! ## Lines -/

/-- A line of a script, with the statement that it is meant to be. -/
structure Line where
  fragments : List Fragment
  statement : List Token
  put : WellPut fragments
  opensRaw : forall fragment, fragments.head? = some fragment -> fragment.value? = none
  nonempty : statement ≠ []
  oneStatement : Token.separator ∉ statement
  tokens : fragments.flatMap Fragment.tokens = statement ++ [Token.separator]

namespace Line

/-- The values in a line are plain. -/
def IsPlain (line : Line) : Prop := forall value, Fragment.quoted value ∈ line.fragments -> Plain value

end Line

def renderLines (lines : List Line) : ScriptText := render (lines.flatMap Line.fragments)

theorem splitStatements_line {statement : List Token} (oneStatement : Token.separator ∉ statement)
    (front rest : List Token) (nonempty : front ++ statement ≠ []) :
    splitStatements front (statement ++ Token.separator :: rest) =
      (front ++ statement) :: splitStatements [] rest := by
  induction statement generalizing front with
  | nil =>
      have some' : front.isEmpty = false := by
        rw [List.append_nil] at nonempty
        exact List.isEmpty_eq_false_iff.mpr nonempty
      rw [List.nil_append, splitStatements, if_pos rfl, some', if_neg Bool.false_ne_true,
        List.append_nil]
  | cons token statement ih =>
      have different : token ≠ .separator := fun same => oneStatement (same ▸ List.mem_cons_self)
      have later : Token.separator ∉ statement :=
        fun member => oneStatement (List.mem_cons_of_mem _ member)
      have step := ih later (front ++ [token]) (by simp)
      rw [List.append_assoc, List.singleton_append] at step
      rw [List.cons_append, splitStatements, if_neg different, step]

theorem splitStatements_lines (lines : List Line) :
    splitStatements [] ((lines.flatMap Line.fragments).flatMap Fragment.tokens) =
      lines.map Line.statement := by
  induction lines with
  | nil => rfl
  | cons line lines ih =>
      rw [List.flatMap_cons, List.flatMap_append, line.tokens, List.append_assoc,
        List.singleton_append, splitStatements_line line.oneStatement [] _ line.nonempty,
        ih, List.map_cons, List.nil_append]

theorem wellPut_lines (lines : List Line) :
    WellPut (lines.flatMap Line.fragments) ∧
      forall fragment, (lines.flatMap Line.fragments).head? = some fragment ->
        fragment.value? = none := by
  induction lines with
  | nil => exact ⟨trivial, nofun⟩
  | cons line lines ih =>
      rw [List.flatMap_cons]
      refine ⟨line.put.append ih.1 ih.2, ?_⟩
      intro fragment isHead
      rw [List.head?_append] at isHead
      cases first : line.fragments.head? with
      | none =>
          rw [first] at isHead
          exact ih.2 fragment isHead
      | some other =>
          rw [first] at isHead
          exact line.opensRaw fragment (first.trans isHead)

/-- Lines are read as their statements exactly where their values are plain. -/
theorem statementsOf_renderLines_iff (lines : List Line) :
    statementsOf (renderLines lines) = some (lines.map Line.statement) ↔
      forall line, line ∈ lines -> line.IsPlain := by
  unfold renderLines
  rw [← splitStatements_lines, statementsOf_render_iff (wellPut_lines lines).1]
  constructor
  · intro plain line member value inLine
    exact plain value (List.mem_flatMap.mpr ⟨line, member, inLine⟩)
  · intro plain value member
    obtain ⟨line, isLine, inLine⟩ := List.mem_flatMap.mp member
    exact plain line isLine value inLine

/-! ## The scripts of ComfyUI -/

def rawText (text : String) : Fragment := .raw text.toList

def textOf (text : String) : ScriptText := text.toList

structure ComfyuiManifest where
  sourcePath : ScriptText
  pythonExecutable : ScriptText

structure ComfyuiStartOptions where
  host : ScriptText
  port : UInt16

structure ComfyuiRuntimeEnvironment where
  venvRoot : Option ScriptText
  rocmRoot : Option ScriptText
  pathEntries : List ScriptText
  libraryEntries : List ScriptText

inductive AssignedKey where
  | virtualEnv
  | rocmPath
  | path
  deriving DecidableEq, Repr

def AssignedKey.text : AssignedKey -> ScriptText
  | virtualEnv => textOf "VIRTUAL_ENV"
  | rocmPath => textOf "ROCM_PATH"
  | path => textOf "PATH"

/-- The variables of a runtime on Windows.  `path` is the new PATH, if there is
one. -/
def runtimeEnvironmentAssignments (env : ComfyuiRuntimeEnvironment) (path : Option ScriptText) :
    List (AssignedKey × ScriptText) :=
  (env.venvRoot.map fun root => (AssignedKey.virtualEnv, root)).toList ++
    (env.rocmRoot.map fun root => (AssignedKey.rocmPath, root)).toList ++
    (path.map fun value => (AssignedKey.path, value)).toList

section Scripts

variable (childPathString : ScriptText -> ScriptText) (manifest : ComfyuiManifest)
  (options : ComfyuiStartOptions) (env : ComfyuiRuntimeEnvironment) (path : Option ScriptText)
  (logPath : ScriptText)

def portText (options : ComfyuiStartOptions) : ScriptText := (toString options.port.toNat).toList

def pathPrefix : ScriptText :=
  List.intercalate [';'] ((env.pathEntries ++ env.libraryEntries).map childPathString)

/-- One statement of the runner for a variable.  PATH is set below the others. -/
def assignmentText (assignment : AssignedKey × ScriptText) : ScriptText :=
  if assignment.1 = .path then []
  else
    textOf "$env:" ++ assignment.1.text ++ textOf " = " ++ powershellQuote assignment.2 ++
      textOf "\n"

/-- The command that runs ComfyUI, each argument quoted. -/
def commandLine : ScriptText :=
  powershellQuote (childPathString manifest.pythonExecutable) ++
    [textOf "main.py", textOf "--listen", options.host, textOf "--port", portText options].flatMap
      fun arg => ' ' :: powershellQuote arg

def runnerScript : ScriptText :=
  textOf "$ErrorActionPreference = 'Continue'\n" ++
    (textOf "Set-Location -LiteralPath " ++ powershellQuote (childPathString manifest.sourcePath) ++
      textOf "\n") ++
    (runtimeEnvironmentAssignments env path).flatMap assignmentText ++
    (if (pathPrefix childPathString env).isEmpty then []
      else textOf "$env:PATH = " ++ powershellQuote (pathPrefix childPathString env) ++
        textOf " + ';' + $env:PATH\n") ++
    (textOf "& " ++ commandLine childPathString manifest options ++ textOf " *>> " ++
      powershellQuote (childPathString logPath) ++ textOf "\n")

def launcherScript (runnerPath pidPath : ScriptText) : ScriptText :=
  textOf "$p = Start-Process -FilePath 'powershell.exe' -ArgumentList @('-NoProfile','-ExecutionPolicy','Bypass','-File'," ++
    powershellQuote (childPathString runnerPath) ++
    textOf ") -WindowStyle Hidden -PassThru\nSet-Content -LiteralPath " ++
    powershellQuote (childPathString pidPath) ++ textOf " -Value $p.Id -Encoding ASCII\n"

end Scripts

/-! ## The user PATH -/

def windowsPathPrepend (binDir userPath : ScriptText) : ScriptText :=
  if userPath.isEmpty then binDir else binDir ++ textOf ";" ++ userPath

def pathExportScript (binDir userPath : ScriptText) : ScriptText :=
  textOf "[Environment]::SetEnvironmentVariable('PATH', '" ++
    psSingleQuoteEscape (windowsPathPrepend binDir userPath) ++ textOf "', 'User')"

/-- Whether one text occurs in another. -/
def contains (text part : ScriptText) : Bool := text.tails.any part.isPrefixOf

/-- What came of a change of the user PATH: the exit code, and the script if
one was run. -/
structure PathExport where
  code : Nat
  ran : Option ScriptText

/-- `toLowercase` is the lower case of a text, `confirmed` the answer to the
prompt and `exitCode` what PowerShell returns. -/
def pathExportWindows (toLowercase : ScriptText -> ScriptText) (dryRun confirmed : Bool)
    (exitCode : Nat) (binDir : ScriptText) (readUserPath : Option ScriptText) : PathExport :=
  match readUserPath with
  | none => ⟨4, none⟩
  | some userPath =>
      if !userPath.isEmpty && contains (toLowercase userPath) (toLowercase binDir) then ⟨0, none⟩
      else if dryRun then ⟨0, none⟩
      else if !confirmed then ⟨5, none⟩
      else ⟨if exitCode = 0 then 0 else 4, some (pathExportScript binDir userPath)⟩

/-! ## The statements that are meant -/

def wordOf (text : String) : Token := .word text.toList

def stringOf (text : String) : Token := .string text.toList

theorem apart_raw (text : ScriptText) (rest : List Fragment) :
    forall fragment, (Fragment.raw text :: rest).head? = some fragment -> fragment.value? = none := by
  intro fragment isHead
  obtain rfl := Option.some.inj isHead
  rfl

def preferenceLine : Line where
  fragments := [rawText "$ErrorActionPreference = ", .quoted (textOf "Continue"), rawText "\n"]
  statement := [wordOf "$ErrorActionPreference", wordOf "=", stringOf "Continue"]
  put := ⟨by decide, by decide, apart_raw _ _, by decide, by decide, trivial⟩
  opensRaw := apart_raw _ _
  nonempty := by simp
  oneStatement := by decide
  tokens := rfl

def locationLine (sourcePath : ScriptText) : Line where
  fragments := [rawText "Set-Location -LiteralPath ", .quoted sourcePath, rawText "\n"]
  statement := [wordOf "Set-Location", wordOf "-LiteralPath", .string sourcePath]
  put := ⟨by decide, by decide, apart_raw _ _, by decide, by decide, trivial⟩
  opensRaw := apart_raw _ _
  nonempty := by simp
  oneStatement := by simp [wordOf]
  tokens := rfl

/-- The text in front of a variable's value. -/
def assignmentStart (key : AssignedKey) : Fragment :=
  .raw (textOf "$env:" ++ key.text ++ textOf " = ")

theorem assignmentStart_put (key : AssignedKey) :
    textOf "$env:" ++ key.text ++ textOf " = " ≠ [] ∧
      Fragment.Closed (textOf "$env:" ++ key.text ++ textOf " = ") := by
  cases key with
  | virtualEnv => decide
  | rocmPath => decide
  | path => decide

def assignmentLine (assignment : AssignedKey × ScriptText) : Line where
  fragments := [assignmentStart assignment.1, .quoted assignment.2, rawText "\n"]
  statement := [.word (textOf "$env:" ++ assignment.1.text), wordOf "=", .string assignment.2]
  put := ⟨(assignmentStart_put assignment.1).1, (assignmentStart_put assignment.1).2,
    apart_raw _ _, by decide, by decide, trivial⟩
  opensRaw := apart_raw _ _
  nonempty := by simp
  oneStatement := by simp [wordOf]
  tokens := by
    obtain ⟨key, value⟩ := assignment
    cases key <;> rfl

def pathLine (value : ScriptText) : Line where
  fragments := [rawText "$env:PATH = ", .quoted value, rawText " + ", .quoted [';'],
    rawText " + $env:PATH\n"]
  statement := [wordOf "$env:PATH", wordOf "=", .string value, wordOf "+", stringOf ";", wordOf "+",
    wordOf "$env:PATH"]
  put := ⟨by decide, by decide, apart_raw _ _, by decide, by decide, apart_raw _ _, by decide,
    by decide, trivial⟩
  opensRaw := apart_raw _ _
  nonempty := by simp
  oneStatement := by simp [wordOf, stringOf]
  tokens := rfl

def runLine (python host port logPath : ScriptText) : Line where
  fragments := [rawText "& ", .quoted python, rawText " ", .quoted (textOf "main.py"), rawText " ",
    .quoted (textOf "--listen"), rawText " ", .quoted host, rawText " ", .quoted (textOf "--port"),
    rawText " ", .quoted port, rawText " *>> ", .quoted logPath, rawText "\n"]
  statement := [wordOf "&", .string python, stringOf "main.py", stringOf "--listen", .string host,
    stringOf "--port", .string port, wordOf "*>>", .string logPath]
  put := ⟨by decide, by decide, apart_raw _ _, by decide, by decide, apart_raw _ _, by decide,
    by decide, apart_raw _ _, by decide, by decide, apart_raw _ _, by decide, by decide,
    apart_raw _ _, by decide, by decide, apart_raw _ _, by decide, by decide, apart_raw _ _,
    by decide, by decide, trivial⟩
  opensRaw := apart_raw _ _
  nonempty := by simp
  oneStatement := by simp [wordOf, stringOf]
  tokens := rfl

def startLine (runnerPath : ScriptText) : Line where
  fragments := [rawText "$p = Start-Process -FilePath ", .quoted (textOf "powershell.exe"),
    rawText " -ArgumentList @(", .quoted (textOf "-NoProfile"), rawText ",",
    .quoted (textOf "-ExecutionPolicy"), rawText ",", .quoted (textOf "Bypass"), rawText ",",
    .quoted (textOf "-File"), rawText ",", .quoted runnerPath,
    rawText ") -WindowStyle Hidden -PassThru\n"]
  statement := [wordOf "$p", wordOf "=", wordOf "Start-Process", wordOf "-FilePath",
    stringOf "powershell.exe", wordOf "-ArgumentList", wordOf "@", .symbol '(',
    stringOf "-NoProfile", .symbol ',', stringOf "-ExecutionPolicy", .symbol ',', stringOf "Bypass",
    .symbol ',', stringOf "-File", .symbol ',', .string runnerPath, .symbol ')',
    wordOf "-WindowStyle", wordOf "Hidden", wordOf "-PassThru"]
  put := ⟨by decide, by decide, apart_raw _ _, by decide, by decide, apart_raw _ _, by decide,
    by decide, apart_raw _ _, by decide, by decide, apart_raw _ _, by decide, by decide,
    apart_raw _ _, by decide, by decide, apart_raw _ _, by decide, by decide, trivial⟩
  opensRaw := apart_raw _ _
  nonempty := by simp
  oneStatement := by simp [wordOf, stringOf]
  tokens := rfl

def recordLine (pidPath : ScriptText) : Line where
  fragments := [rawText "Set-Content -LiteralPath ", .quoted pidPath,
    rawText " -Value $p.Id -Encoding ASCII\n"]
  statement := [wordOf "Set-Content", wordOf "-LiteralPath", .string pidPath, wordOf "-Value",
    wordOf "$p.Id", wordOf "-Encoding", wordOf "ASCII"]
  put := ⟨by decide, by decide, apart_raw _ _, by decide, by decide, trivial⟩
  opensRaw := apart_raw _ _
  nonempty := by simp
  oneStatement := by simp [wordOf]
  tokens := rfl

/-- The one call that sets the user PATH. -/
def setPathStatement (value : ScriptText) : List Token :=
  [wordOf "[Environment]::SetEnvironmentVariable", .symbol '(', stringOf "PATH", .symbol ',',
    .string value, .symbol ',', stringOf "User", .symbol ')']

section Meant

variable (childPathString : ScriptText -> ScriptText) (manifest : ComfyuiManifest)
  (options : ComfyuiStartOptions) (env : ComfyuiRuntimeEnvironment) (path : Option ScriptText)
  (logPath : ScriptText)

def runnerLines : List Line :=
  [preferenceLine, locationLine (childPathString manifest.sourcePath)] ++
    ((runtimeEnvironmentAssignments env path).filter fun assignment => assignment.1 ≠ .path).map
      assignmentLine ++
    (if (pathPrefix childPathString env).isEmpty then []
      else [pathLine (pathPrefix childPathString env)]) ++
    [runLine (childPathString manifest.pythonExecutable) options.host (portText options)
      (childPathString logPath)]

def launcherLines (runnerPath pidPath : ScriptText) : List Line :=
  [startLine (childPathString runnerPath), recordLine (childPathString pidPath)]

theorem renderLines_cons (line : Line) (lines : List Line) :
    renderLines (line :: lines) = render line.fragments ++ renderLines lines := List.flatMap_append

theorem renderLines_append (front back : List Line) :
    renderLines (front ++ back) = renderLines front ++ renderLines back := by
  unfold renderLines render
  rw [List.flatMap_append, List.flatMap_append]

theorem assignments_eq (assignments : List (AssignedKey × ScriptText)) :
    assignments.flatMap assignmentText =
      renderLines ((assignments.filter fun assignment => assignment.1 ≠ .path).map
        assignmentLine) := by
  induction assignments with
  | nil => rfl
  | cons assignment assignments ih =>
      rw [List.flatMap_cons, ih]
      by_cases isPath : assignment.1 = .path
      · rw [List.filter_cons_of_neg (by simp [isPath]), assignmentText, if_pos isPath]
        rfl
      · rw [List.filter_cons_of_pos (by simp [isPath]), List.map_cons, renderLines_cons,
          assignmentText, if_neg isPath]
        simp [assignmentLine, assignmentStart, render, Fragment.render, rawText, textOf]

theorem commandLine_eq :
    textOf "& " ++ commandLine childPathString manifest options ++ textOf " *>> " ++
        powershellQuote (childPathString logPath) ++ textOf "\n" =
      renderLines [runLine (childPathString manifest.pythonExecutable) options.host
        (portText options) (childPathString logPath)] := by
  simp [commandLine, renderLines, runLine, render, Fragment.render, rawText, textOf]

theorem runnerScript_eq :
    runnerScript childPathString manifest options env path logPath =
      renderLines (runnerLines childPathString manifest options env path logPath) := by
  have preference : textOf "$ErrorActionPreference = 'Continue'\n" =
      render preferenceLine.fragments := by decide
  have location : textOf "Set-Location -LiteralPath " ++
      powershellQuote (childPathString manifest.sourcePath) ++ textOf "\n" =
        renderLines [locationLine (childPathString manifest.sourcePath)] := by
    simp [renderLines, locationLine, render, Fragment.render, rawText, textOf]
  have prepended : (if (pathPrefix childPathString env).isEmpty then []
      else textOf "$env:PATH = " ++ powershellQuote (pathPrefix childPathString env) ++
        textOf " + ';' + $env:PATH\n") =
      renderLines (if (pathPrefix childPathString env).isEmpty then []
        else [pathLine (pathPrefix childPathString env)]) := by
    by_cases empty : (pathPrefix childPathString env).isEmpty = true
    · rw [if_pos empty, if_pos empty]
      rfl
    · have tail : textOf " + ';' + $env:PATH\n" =
          textOf " + " ++ powershellQuote [';'] ++ textOf " + $env:PATH\n" := by decide
      rw [if_neg empty, if_neg empty, tail]
      simp [renderLines, pathLine, render, Fragment.render, rawText, textOf]
  unfold runnerScript runnerLines
  rw [preference, location, assignments_eq, prepended, commandLine_eq, renderLines_append,
    renderLines_append, renderLines_append, renderLines_cons preferenceLine]

theorem launcherScript_eq (runnerPath pidPath : ScriptText) :
    launcherScript childPathString runnerPath pidPath =
      renderLines (launcherLines childPathString runnerPath pidPath) := by
  have head : textOf "$p = Start-Process -FilePath 'powershell.exe' -ArgumentList @('-NoProfile','-ExecutionPolicy','Bypass','-File'," =
      render [rawText "$p = Start-Process -FilePath ", .quoted (textOf "powershell.exe"),
        rawText " -ArgumentList @(", .quoted (textOf "-NoProfile"), rawText ",",
        .quoted (textOf "-ExecutionPolicy"), rawText ",", .quoted (textOf "Bypass"), rawText ",",
        .quoted (textOf "-File"), rawText ","] := by decide +kernel
  have middle : textOf ") -WindowStyle Hidden -PassThru\nSet-Content -LiteralPath " =
      textOf ") -WindowStyle Hidden -PassThru\n" ++ textOf "Set-Content -LiteralPath " := by
    decide +kernel
  unfold launcherScript launcherLines
  rw [head, middle]
  simp [renderLines, startLine, recordLine, render, Fragment.render, rawText, textOf]

/-! ## What is read -/

theorem plain_repr (number : Nat) : Plain (toString number).toList := by
  intro character member
  have digits : (toString number).toList = Nat.toDigits 10 number := Nat.toList_repr
  rw [digits] at member
  have isDigit := Nat.isDigit_of_mem_toDigits (by decide) (by decide) member
  apply Bool.eq_false_iff.mpr
  intro curly
  unfold isCurlyQuote at curly
  simp only [Bool.or_eq_true, beq_iff_eq] at curly
  rcases curly with ((rfl | rfl) | rfl) | rfl <;> exact absurd isDigit (by decide)

/-- The values of the user in the runner. -/
structure RunnerPlain : Prop where
  sourcePath : Plain (childPathString manifest.sourcePath)
  assignments : forall assignment, assignment ∈ runtimeEnvironmentAssignments env path ->
    assignment.1 ≠ .path -> Plain assignment.2
  pathPrefix : Plain (pathPrefix childPathString env)
  pythonExecutable : Plain (childPathString manifest.pythonExecutable)
  host : Plain options.host
  logPath : Plain (childPathString logPath)

theorem runner_meant_iff :
    statementsOf (runnerScript childPathString manifest options env path logPath) =
        some ((runnerLines childPathString manifest options env path logPath).map Line.statement) ↔
      RunnerPlain childPathString manifest options env path logPath := by
  rw [runnerScript_eq, statementsOf_renderLines_iff]
  unfold runnerLines
  constructor
  · intro plain
    have runPlain := plain (runLine (childPathString manifest.pythonExecutable) options.host
      (portText options) (childPathString logPath)) (by simp)
    refine ⟨?_, ?_, ?_, runPlain _ (by simp [runLine]), runPlain _ (by simp [runLine]),
      runPlain _ (by simp [runLine])⟩
    · exact plain (locationLine (childPathString manifest.sourcePath)) (by simp) _
        (by simp [locationLine])
    · intro assignment member notPath
      refine plain (assignmentLine assignment) ?_ _ (by simp [assignmentLine])
      apply List.mem_append_left
      apply List.mem_append_left
      apply List.mem_append_right
      exact List.mem_map_of_mem (List.mem_filter.mpr ⟨member, by simpa using notPath⟩)
    · by_cases empty : (Process.pathPrefix childPathString env).isEmpty = true
      · rw [List.isEmpty_iff.mp empty]
        exact nofun
      · exact plain (pathLine (Process.pathPrefix childPathString env)) (by simp [empty]) _
          (by simp [pathLine])
  · intro plain line member
    rcases List.mem_append.mp member with inFront | isRun
    · rcases List.mem_append.mp inFront with inFirst | isPath
      · rcases List.mem_append.mp inFirst with isFixed | isAssignment
        · rcases List.mem_cons.mp isFixed with rfl | isLocation
          · intro value inLine
            have same : value = textOf "Continue" := by
              simpa [preferenceLine, rawText] using inLine
            rw [same]
            decide
          · rw [List.mem_singleton.mp isLocation]
            intro value inLine
            have same : value = childPathString manifest.sourcePath := by
              simpa [locationLine, rawText] using inLine
            rw [same]
            exact plain.sourcePath
        · obtain ⟨assignment, kept, rfl⟩ := List.mem_map.mp isAssignment
          obtain ⟨inside, notPath⟩ := List.mem_filter.mp kept
          intro value inLine
          have same : value = assignment.2 := by
            simpa [assignmentLine, assignmentStart, rawText] using inLine
          rw [same]
          exact plain.assignments assignment inside (by simpa using notPath)
      · by_cases empty : (Process.pathPrefix childPathString env).isEmpty = true
        · rw [if_pos empty] at isPath
          exact nomatch isPath
        · rw [if_neg empty] at isPath
          rw [List.mem_singleton.mp isPath]
          intro value inLine
          have same : value = Process.pathPrefix childPathString env ∨ value = [';'] := by
            simpa [pathLine, rawText] using inLine
          rcases same with rfl | rfl
          · exact plain.pathPrefix
          · decide
    · rw [List.mem_singleton.mp isRun]
      intro value inLine
      simp only [runLine, rawText, List.mem_cons, Fragment.quoted.injEq, reduceCtorEq, false_or,
        List.not_mem_nil, or_false] at inLine
      rcases inLine with rfl | rfl | rfl | rfl | rfl | rfl | rfl
      · exact plain.pythonExecutable
      · decide
      · decide
      · exact plain.host
      · decide
      · exact plain_repr _
      · exact plain.logPath

theorem launcher_meant_iff (runnerPath pidPath : ScriptText) :
    statementsOf (launcherScript childPathString runnerPath pidPath) =
        some ((launcherLines childPathString runnerPath pidPath).map Line.statement) ↔
      Plain (childPathString runnerPath) ∧ Plain (childPathString pidPath) := by
  rw [launcherScript_eq, statementsOf_renderLines_iff]
  unfold launcherLines
  constructor
  · intro plain
    exact ⟨plain _ List.mem_cons_self _ (by simp [startLine]),
      plain _ (List.mem_cons_of_mem _ List.mem_cons_self) _ (by simp [recordLine])⟩
  · rintro ⟨runnerPlain, pidPlain⟩ line member value inLine
    rcases List.mem_cons.mp member with rfl | isRecord
    · simp only [startLine, rawText, List.mem_cons, Fragment.quoted.injEq, reduceCtorEq, false_or,
        List.not_mem_nil, or_false] at inLine
      rcases inLine with rfl | rfl | rfl | rfl | rfl | rfl
      · decide
      · decide
      · decide
      · decide
      · decide
      · exact runnerPlain
    · rw [List.mem_singleton.mp isRecord] at inLine
      have same : value = childPathString pidPath := by
        simpa [recordLine, rawText] using inLine
      rw [same]
      exact pidPlain

end Meant

def pathExportFragments (value : ScriptText) : List Fragment :=
  [rawText "[Environment]::SetEnvironmentVariable(", .quoted (textOf "PATH"), rawText ", ",
    .quoted value, rawText ", ", .quoted (textOf "User"), rawText ")"]

theorem pathExportScript_eq (binDir userPath : ScriptText) :
    pathExportScript binDir userPath =
      render (pathExportFragments (windowsPathPrepend binDir userPath)) := by
  have head : textOf "[Environment]::SetEnvironmentVariable('PATH', '" =
      textOf "[Environment]::SetEnvironmentVariable(" ++ powershellQuote (textOf "PATH") ++
        textOf ", '" := by decide
  have tail : textOf "', 'User')" =
      '\'' :: (textOf ", " ++ powershellQuote (textOf "User") ++ textOf ")") := by decide
  unfold pathExportScript
  rw [head, tail]
  simp [pathExportFragments, render, Fragment.render, rawText, textOf, powershellQuote]

theorem pathExport_meant_iff (binDir userPath : ScriptText) :
    statementsOf (pathExportScript binDir userPath) =
        some [setPathStatement (windowsPathPrepend binDir userPath)] ↔
      Plain (windowsPathPrepend binDir userPath) := by
  have put : WellPut (pathExportFragments (windowsPathPrepend binDir userPath)) :=
    ⟨by decide, by decide, apart_raw _ _, by decide, by decide, apart_raw _ _, by decide, by decide,
      apart_raw _ _, by decide, by decide, trivial⟩
  have meant : splitStatements []
      ((pathExportFragments (windowsPathPrepend binDir userPath)).flatMap Fragment.tokens) =
        [setPathStatement (windowsPathPrepend binDir userPath)] := rfl
  rw [pathExportScript_eq, ← meant, statementsOf_render_iff put]
  constructor
  · intro plain
    exact plain _ (by simp [pathExportFragments])
  · intro plain value member
    simp only [pathExportFragments, rawText, List.mem_cons, Fragment.quoted.injEq, reduceCtorEq, false_or,
      List.not_mem_nil, or_false] at member
    rcases member with rfl | rfl | rfl
    · decide
    · exact plain
    · decide

/-! ## Quoting for PowerShell, exactly -/

/-- What is quoted is read back, and the scripts consist of the statements that
were meant, exactly where no value holds a curly quote. -/
theorem powershell_quoting (value : ScriptText) (childPathString : ScriptText -> ScriptText)
    (manifest : ComfyuiManifest) (options : ComfyuiStartOptions) (env : ComfyuiRuntimeEnvironment)
    (path : Option ScriptText) (logPath runnerPath pidPath binDir userPath : ScriptText) :
    (ReadsBack value ↔ Plain value) ∧
      (statementsOf (runnerScript childPathString manifest options env path logPath) =
          some ((runnerLines childPathString manifest options env path logPath).map
            Line.statement) ↔
        RunnerPlain childPathString manifest options env path logPath) ∧
      (statementsOf (launcherScript childPathString runnerPath pidPath) =
          some ((launcherLines childPathString runnerPath pidPath).map Line.statement) ↔
        Plain (childPathString runnerPath) ∧ Plain (childPathString pidPath)) ∧
      (statementsOf (pathExportScript binDir userPath) =
          some [setPathStatement (windowsPathPrepend binDir userPath)] ↔
        Plain (windowsPathPrepend binDir userPath)) :=
  ⟨readsBack_iff value, runner_meant_iff childPathString manifest options env path logPath,
    launcher_meant_iff childPathString runnerPath pidPath, pathExport_meant_iff binDir userPath⟩

/-- A value with two curly quotes in it is read as a string, the end of its
statement and a command. -/
theorem curly_quote_runs_command :
    statementsOf (powershellQuote ['C', '\u2019', ';', 'x', ' ', '\u2018']) =
        some [[stringOf "C"], [wordOf "x", stringOf ""]] ∧
      ¬ forall value, ReadsBack value := by
  refine ⟨by decide, ?_⟩
  intro back
  have plain := (readsBack_iff ['\u2019']).mp (back _)
  exact absurd plain (by decide)

end Process
end RocmCli
