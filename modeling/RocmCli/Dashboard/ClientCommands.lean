import RocmCli.Support.Runs
import Mathlib.Data.List.Basic

namespace RocmCli
namespace Dashboard

open Runs

/-!
# Commands of a dashboard client

The daemon reads a client's commands line by line, and in the same loop passes
on what the runner broadcasts.  The future that reads a line holds what it has
taken from the socket; it is dropped with its bytes whenever a broadcast event
is ready before the line is whole.
-/

/-- Sent by the TUI to the daemon, one per line. -/
inductive Command where
  | hello (protocolVersion : Nat) (client : String) (token : Option String)
  | subscribe
  | requestSnapshot
  | rescanInstances
  | pause
  | resume
  | goodbye
  deriving DecidableEq, Repr

abbrev Byte := UInt8

def newline : Byte := 10

/-- How the task of a client ends. -/
inductive Ending where
  | clientClosed
  | parseError
  | bye
  | writeFailed
  | channelClosed
  deriving DecidableEq, Repr

/-- What the receiver of the broadcast channel gives when it is ready. -/
inductive Received where
  | event (written : Bool)
  | lagged
  | closed
  deriving DecidableEq, Repr

/-- A connection: what the client has yet to send, what arrived and is not yet
taken, what the reading future has taken, and what was processed. -/
structure Connection where
  unsent : List Byte
  arrived : List Byte
  taken : List Byte
  closed : Bool
  subscribed : Bool
  processed : List Command
  ending : Option Ending
  deriving DecidableEq, Repr

/-- What can happen to a connection.  A poll runs the loop of `handle_client`
once, and says what the receiver has ready at that time. -/
inductive Action where
  | arrive (count : Nat)
  | close
  | poll (received : Option Received)
  deriving DecidableEq, Repr

/-- A line with its newline, and what follows it. -/
def splitLine : List Byte -> Option (List Byte × List Byte)
  | [] => none
  | byte :: rest =>
      if byte = newline then some ([byte], rest)
      else (splitLine rest).map fun (line, after) => (byte :: line, after)

section Machine

variable (parse : List Byte -> Option Command)

def Connection.finish (connection : Connection) (ending : Ending) : Connection :=
  { connection with ending := some ending }

def Connection.process (connection : Connection) (command : Command) : Connection :=
  let connection := { connection with processed := connection.processed ++ [command] }
  match command with
  | .subscribe => { connection with subscribed := true }
  | .goodbye => connection.finish .bye
  | .hello _ _ _ | .requestSnapshot | .rescanInstances | .pause | .resume => connection

/-- A line that was read, through `read_line` and the `match` on the command. -/
def Connection.line (connection : Connection) (line : List Byte) : Connection :=
  match parse line with
  | some command => connection.process command
  | none => connection.finish .parseError

/-- What is done with what the receiver gave. -/
def Connection.receive (connection : Connection) : Received -> Connection
  | .event written =>
      if connection.subscribed && !written then connection.finish .writeFailed else connection
  | .lagged => connection
  | .closed => connection.finish .channelClosed

/-- One turn of the loop.  The read comes first; when it is not ready and the
receiver is, the reading future is dropped with what it has taken. -/
def Connection.poll (connection : Connection) (received : Option Received) : Connection :=
  let bytes := connection.taken ++ connection.arrived
  match splitLine bytes with
  | some (line, after) =>
      { connection with taken := [], arrived := after }.line parse line
  | none =>
      if connection.closed then
        match bytes with
        | [] => connection.finish .clientClosed
        | _ :: _ => { connection with taken := [], arrived := [] }.line parse bytes
      else
        match received with
        | none => { connection with taken := bytes, arrived := [] }
        | some received => { connection with taken := [], arrived := [] }.receive received

def step (connection : Connection) : Action -> Connection
  | .arrive count =>
      { connection with
        arrived := connection.arrived ++ connection.unsent.take count
        unsent := connection.unsent.drop count }
  | .close => if connection.unsent = [] then { connection with closed := true } else connection
  | .poll received =>
      if connection.ending = none then connection.poll parse received else connection

variable (encode : Command -> List Byte)

/-- The bytes of commands as lines. -/
def stream (commands : List Command) : List Byte :=
  commands.flatMap fun command => encode command ++ [newline]

def accepted (commands : List Command) : Connection where
  unsent := stream encode commands
  arrived := []
  taken := []
  closed := false
  subscribed := false
  processed := []
  ending := none

/-- A command is written on one line and read back from it. -/
structure Wire (commands : List Command) : Prop where
  oneLine : forall command, command ∈ commands -> newline ∉ encode command
  readsBack : forall command, command ∈ commands ->
    parse (encode command ++ [newline]) = some command

/-- No broadcast event is taken while part of a line is held. -/
def keepsLine (connection : Connection) : Action -> Prop
  | .poll (some _) =>
      newline ∈ connection.taken ++ connection.arrived ∨
        connection.taken ++ connection.arrived = []
  | .poll none | .arrive _ | .close => True

/-- The commands are processed as they were written: each once, in order, up to
a goodbye, and all of them when the client closes. -/
structure Served (commands : List Command) (connection : Connection) : Prop where
  inOrder : connection.processed <+: commands
  noParseError : connection.ending ≠ some .parseError
  complete : connection.ending = some .clientClosed -> connection.processed = commands
  goodbye : forall command, command ∈ connection.processed.dropLast -> command ≠ .goodbye
  openUntil : connection.ending = none -> .goodbye ∉ connection.processed
  progress : connection.ending = none -> connection.unsent = [] ->
    connection.processed ≠ commands -> forall received, exists command,
      (step parse connection (.poll received)).processed = connection.processed ++ [command]

end Machine

/-! ## Lines -/

section Lines

variable {line rest : List Byte}

theorem splitLine_append (free : newline ∉ line) :
    splitLine (line ++ newline :: rest) = some (line ++ [newline], rest) := by
  induction line with
  | nil => rfl
  | cons byte line ih =>
      rw [List.mem_cons, not_or] at free
      rw [List.cons_append, splitLine, if_neg (Ne.symm free.1), ih free.2]
      rfl

theorem splitLine_eq_none_iff {bytes : List Byte} : splitLine bytes = none ↔ newline ∉ bytes := by
  induction bytes with
  | nil => simp [splitLine]
  | cons byte bytes ih =>
      rw [splitLine, List.mem_cons, not_or]
      by_cases isNewline : byte = newline
      · simp [isNewline]
      · rw [if_neg isNewline, Option.map_eq_none_iff, ih]
        exact ⟨fun free => ⟨Ne.symm isNewline, free⟩, fun free => free.2⟩

theorem splitLine_append_right {bytes after : List Byte} (split : splitLine bytes = some (line, after))
    (more : List Byte) : splitLine (bytes ++ more) = some (line, after ++ more) := by
  induction bytes generalizing line with
  | nil => exact (nomatch split)
  | cons byte bytes ih =>
      rw [List.cons_append, splitLine]
      rw [splitLine] at split
      by_cases isNewline : byte = newline
      · rw [if_pos isNewline] at split ⊢
        rcases Option.some.inj split with ⟨rfl, rfl⟩
        rfl
      · rw [if_neg isNewline] at split ⊢
        rcases Option.map_eq_some_iff.mp split with ⟨⟨front, back⟩, inner, same⟩
        rcases Prod.mk.inj same with ⟨isLine, isAfter⟩
        rw [isAfter] at inner
        rw [ih inner, ← isLine]
        rfl

end Lines

/-! ## Runs -/

section Runs

variable {parse : List Byte -> Option Command} {encode : Command -> List Byte}
variable {commands : List Command} {connection : Connection}

/-- What is still to be processed is what the client wrote and no turn has
finished reading. -/
structure Reading (encode : Command -> List Byte) (commands : List Command)
    (connection : Connection) (rest : List Command) : Prop where
  split : commands = connection.processed ++ rest
  bytes : connection.ending = none ->
    connection.taken ++ connection.arrived ++ connection.unsent = stream encode rest
  closed : connection.closed = true -> connection.unsent = []
  noParseError : connection.ending ≠ some .parseError
  complete : connection.ending = some .clientClosed -> rest = []
  goodbye : forall command, command ∈ connection.processed.dropLast -> command ≠ .goodbye
  openUntil : connection.ending = none -> .goodbye ∉ connection.processed

theorem newline_mem_stream {command : Command} {more : List Command} :
    newline ∈ stream encode (command :: more) := by
  unfold stream
  rw [List.flatMap_cons]
  simp

/-- The first whole line that arrived is the next command. -/
theorem next_line (wire : Wire parse encode commands) {rest : List Command}
    (reading : Reading encode commands connection rest) (isOpen : connection.ending = none)
    {line after : List Byte}
    (split : splitLine (connection.taken ++ connection.arrived) = some (line, after)) :
    exists command more, rest = command :: more ∧ parse line = some command ∧
      after ++ connection.unsent = stream encode more := by
  have bytes := reading.bytes isOpen
  cases rest with
  | nil =>
      have nothing : connection.taken ++ connection.arrived = [] :=
        (List.append_eq_nil_iff.mp bytes).1
      rw [nothing] at split
      exact (nomatch split)
  | cons command more =>
      have member : command ∈ commands := by
        rw [reading.split]
        exact List.mem_append_right _ List.mem_cons_self
      have whole : stream encode (command :: more) =
          encode command ++ newline :: stream encode more := by
        unfold stream
        rw [List.flatMap_cons, List.append_assoc]
        rfl
      have first := splitLine_append_right split connection.unsent
      rw [bytes, whole, splitLine_append (wire.oneLine command member)] at first
      rcases Prod.mk.inj (Option.some.inj first) with ⟨isLine, isRest⟩
      refine ⟨command, more, rfl, ?_, isRest.symm⟩
      rw [← isLine]
      exact wire.readsBack command member

theorem ending_process (command : Command) (isOpen : connection.ending = none) :
    (connection.process command).ending = if command = .goodbye then some .bye else none := by
  cases command <;> first | exact isOpen | rfl

theorem fields_process (command : Command) :
    (connection.process command).processed = connection.processed ++ [command] ∧
      (connection.process command).taken = connection.taken ∧
      (connection.process command).arrived = connection.arrived ∧
      (connection.process command).unsent = connection.unsent ∧
      (connection.process command).closed = connection.closed := by
  cases command <;> exact ⟨rfl, rfl, rfl, rfl, rfl⟩

/-- Processing the next command of a whole line. -/
theorem reading_process {command : Command} {more : List Command} {after : List Byte}
    (reading : Reading encode commands connection (command :: more))
    (isOpen : connection.ending = none) (bytes : after ++ connection.unsent = stream encode more) :
    Reading encode commands
      (Connection.process { connection with taken := [], arrived := after } command) more := by
  have fields := @fields_process { connection with taken := [], arrived := after }
    command
  have ending := @ending_process { connection with taken := [], arrived := after }
    command isOpen
  rcases fields with ⟨processed, taken, arrived, unsent, closed⟩
  constructor
  case split =>
    rw [processed, reading.split, List.append_assoc]
    rfl
  case bytes =>
    intro _
    rw [taken, arrived, unsent]
    exact bytes
  case closed =>
    rw [closed, unsent]
    exact reading.closed
  case noParseError =>
    rw [ending]
    split <;> exact nofun
  case complete =>
    rw [ending]
    intro isEnded
    split at isEnded <;> exact (nomatch isEnded)
  case goodbye =>
    rw [processed, List.dropLast_concat]
    intro earlier member same
    rw [same] at member
    exact reading.openUntil isOpen member
  case openUntil =>
    rw [ending, processed]
    intro stillOpen member
    rcases List.mem_append.mp member with earlier | isLast
    · exact reading.openUntil isOpen earlier
    · rw [← List.mem_singleton.mp isLast, if_pos rfl] at stillOpen
      exact (nomatch stillOpen)

/-- A turn of the loop in which no held bytes are dropped. -/
theorem reading_poll (wire : Wire parse encode commands) {rest : List Command}
    {received : Option Received} (reading : Reading encode commands connection rest)
    (isOpen : connection.ending = none) (keeps : keepsLine connection (.poll received)) :
    exists rest, Reading encode commands (connection.poll parse received) rest := by
  have bytes := reading.bytes isOpen
  unfold Connection.poll
  dsimp only
  rcases split : splitLine (connection.taken ++ connection.arrived) with _ | ⟨line, after⟩
  · have noNewline := splitLine_eq_none_iff.mp split
    dsimp only
    by_cases isClosed : connection.closed = true
    · rw [if_pos isClosed]
      rw [reading.closed isClosed, List.append_nil] at bytes
      cases rest with
      | nil =>
          have nothing : connection.taken ++ connection.arrived = [] := bytes
          rw [nothing]
          refine ⟨[], reading.split, nofun, reading.closed, nofun, fun _ => rfl,
            reading.goodbye, nofun⟩
      | cons command more =>
          rw [bytes] at noNewline
          exact absurd newline_mem_stream noNewline
    · rw [if_neg isClosed]
      cases received with
      | none =>
          refine ⟨rest, reading.split, fun _ => ?_, reading.closed, reading.noParseError,
            reading.complete, reading.goodbye, reading.openUntil⟩
          rw [List.append_nil]
          exact bytes
      | some received =>
          have nothing : connection.taken ++ connection.arrived = [] :=
            keeps.resolve_left noNewline
          rw [nothing, List.nil_append] at bytes
          have dropped : Reading encode commands { connection with taken := [], arrived := [] } rest :=
            ⟨reading.split, fun _ => bytes, reading.closed, reading.noParseError, reading.complete,
              reading.goodbye, reading.openUntil⟩
          have ended : forall ending, ending ≠ .parseError -> ending ≠ .clientClosed ->
              Reading encode commands
                (Connection.finish { connection with taken := [], arrived := [] } ending) rest :=
            fun ending notParse notClosed => ⟨reading.split, nofun, reading.closed,
              fun same => notParse (Option.some.inj same),
              fun same => absurd (Option.some.inj same) notClosed, reading.goodbye, nofun⟩
          refine ⟨rest, ?_⟩
          cases received with
          | event written =>
              dsimp only [Connection.receive]
              split
              · exact ended .writeFailed (by decide) (by decide)
              · exact dropped
          | lagged => exact dropped
          | closed => exact ended .channelClosed (by decide) (by decide)
  · rcases next_line wire reading isOpen split with ⟨command, more, isRest, parsed, after'⟩
    rw [isRest] at reading
    refine ⟨more, ?_⟩
    dsimp only [Connection.line]
    rw [parsed]
    exact reading_process reading isOpen after'

theorem reading_step (wire : Wire parse encode commands) {action : Action}
    (holds : exists rest, Reading encode commands connection rest)
    (keeps : keepsLine connection action) :
    exists rest, Reading encode commands (step parse connection action) rest := by
  rcases holds with ⟨rest, reading⟩
  cases action with
  | arrive count =>
      refine ⟨rest, reading.split, fun isOpen => ?_, fun isClosed => ?_, reading.noParseError,
        reading.complete, reading.goodbye, reading.openUntil⟩
      · have bytes := reading.bytes isOpen
        dsimp only [step]
        rw [← bytes]
        simp only [List.append_assoc, List.take_append_drop]
      · dsimp only [step]
        rw [reading.closed isClosed, List.drop_nil]
  | close =>
      dsimp only [step]
      split
      next sent =>
        exact ⟨rest, reading.split, reading.bytes, fun _ => sent, reading.noParseError,
          reading.complete, reading.goodbye, reading.openUntil⟩
      next => exact ⟨rest, reading⟩
  | poll received =>
      dsimp only [step]
      split
      next isOpen => exact reading_poll wire reading isOpen keeps
      next => exact ⟨rest, reading⟩

theorem served_of_reading (wire : Wire parse encode commands) {rest : List Command}
    (reading : Reading encode commands connection rest) : Served parse commands connection := by
  constructor
  case inOrder => exact ⟨rest, reading.split.symm⟩
  case noParseError => exact reading.noParseError
  case complete =>
    intro isEnded
    have split := reading.split
    rw [reading.complete isEnded, List.append_nil] at split
    exact split.symm
  case goodbye => exact reading.goodbye
  case openUntil => exact reading.openUntil
  case progress =>
    intro isOpen sent unfinished received
    have bytes := reading.bytes isOpen
    rw [sent, List.append_nil] at bytes
    cases rest with
    | nil =>
        have split := reading.split
        rw [List.append_nil] at split
        exact absurd split.symm unfinished
    | cons command more =>
        have hasLine : splitLine (connection.taken ++ connection.arrived) ≠ none := by
          rw [ne_eq, splitLine_eq_none_iff, bytes]
          exact fun free => free newline_mem_stream
        rcases Option.ne_none_iff_exists'.mp hasLine with ⟨⟨line, after⟩, split⟩
        rcases next_line wire reading isOpen split with ⟨next, _, _, parsed, _⟩
        refine ⟨next, ?_⟩
        dsimp only [step]
        rw [if_pos isOpen]
        unfold Connection.poll
        dsimp only
        rw [split]
        dsimp only [Connection.line]
        rw [parsed]
        exact (fields_process next).1

theorem reading_accepted : Reading encode commands (accepted encode commands) commands where
  split := rfl
  bytes _ := rfl
  closed isClosed := (nomatch isClosed)
  noParseError := nofun
  complete isEnded := (nomatch isEnded)
  goodbye _ member := absurd member List.not_mem_nil
  openUntil _ := List.not_mem_nil

/-- In every run in which no broadcast event is taken while part of a line is
held, the client's commands are served. -/
theorem commands_served (wire : Wire parse encode commands) {actions : List Action}
    (keeps : Guarded (step parse) keepsLine (accepted encode commands) actions) :
    Served parse commands (finalState (step parse) (accepted encode commands) actions) := by
  have holds : exists rest, Reading encode commands
      (finalState (step parse) (accepted encode commands) actions) rest :=
    @invariant_of_step Connection Action (step parse) keepsLine
      (fun connection => exists rest, Reading encode commands connection rest) _ actions
      (fun _ _ reading allowed => reading_step wire reading allowed)
      ⟨commands, reading_accepted⟩ keeps
  rcases holds with ⟨rest, reading⟩
  exact served_of_reading wire reading

end Runs

/-! ## A line that is cut by a broadcast -/

def asciiBytes (text : String) : List Byte := text.toList.map fun character => character.toNat.toUInt8

def writtenSubscribe : List Byte := asciiBytes "\x7b\"kind\":\"subscribe\"\x7d"

/-- Writing and reading of the one command that is sent. -/
def encodeSubscribe (_ : Command) : List Byte := writtenSubscribe

def parseSubscribe (line : List Byte) : Option Command :=
  if line = writtenSubscribe ++ [newline] then some .subscribe else none

theorem subscribe_served : Served parseSubscribe [.subscribe] (finalState (step parseSubscribe)
    (accepted encodeSubscribe [.subscribe])
    [.arrive 5, .poll none, .arrive 16, .poll (some .lagged)]) := by
  have wire : Wire parseSubscribe encodeSubscribe [.subscribe] := by
    constructor
    · intro command _
      change newline ∉ writtenSubscribe
      decide
    · intro command member
      rw [List.mem_singleton.mp member]
      exact if_pos rfl
  exact commands_served wire ⟨trivial, trivial, trivial, Or.inl (by decide), trivial⟩

/-- An event that is ready when five bytes of a line have arrived takes them
away, and the rest of the line ends the connection with a parse error. -/
theorem subscribe_torn :
    (finalState (step parseSubscribe) (accepted encodeSubscribe [.subscribe])
        [.arrive 5, .poll (some (.event true)), .arrive 16, .poll none]).ending =
      some .parseError ∧
    (finalState (step parseSubscribe) (accepted encodeSubscribe [.subscribe])
        [.arrive 5, .poll (some (.event true)), .arrive 16, .poll none]).processed = [] := by
  decide

end Dashboard
end RocmCli
