import RocmCli.Support.Programs
import Mathlib

namespace RocmCli
namespace Lifecycle

open Programs

/-!
# A process table

Processes fork, exit, are reparented and reaped, and their PIDs are taken again,
at any moment.  A process is known by its PID and its start time, and no two
processes that ever held one PID started at the same time.  What a caller sends
is kept in a ledger, and so is what it has captured of the processes it accounts
for.
-/

structure ProcessIdentity where
  pid : Nat
  startTicks : Option Nat
  deriving DecidableEq, Repr

inductive Signal where
  | term
  | kill
  deriving DecidableEq, Repr

inductive TerminationOutcome where
  | alreadyGone
  | identityMismatch
  | unverified
  | graceful
  | forced
  | timedOut
  deriving DecidableEq, Repr

/-- A process until it is reaped; `exited` is one that waits for that.  A caller
may signal the processes it owns. -/
structure Process where
  start : Nat
  parent : Nat
  exited : Bool
  owned : Bool
  deriving DecidableEq, Repr

/-- A signal and the process that held the PID when it was sent.  A walked signal
is sent to a PID of a tree that has just been walked from its root, any other
directly to the PID. -/
structure Sent where
  caller : Nat
  pid : Nat
  start : Nat
  signal : Signal
  walked : Bool
  deriving DecidableEq, Repr

/-- The table, the time, and of each caller what it has sent, captured and
concluded; `looked` is when it last read a start time, in start ticks. -/
structure World where
  table : Nat -> Option Process
  clock : Nat
  time : Nat
  sent : List Sent
  captured : Nat -> List ProcessIdentity
  looked : Nat -> Nat
  outcome : Nat -> Option TerminationOutcome

namespace World

/-- The signals of a caller. -/
def sentBy (world : World) (who : Nat) : List Sent :=
  world.sent.filter (·.caller = who)

/-- A process with this PID and start time has exited. -/
def Exited (world : World) (pid start : Nat) : Prop :=
  start < world.clock ∧ forall process, world.table pid = some process ->
    process.start = start -> process.exited = true

/-- What a caller has captured accounts for the process. -/
def Names (world : World) (who pid start : Nat) : Prop :=
  exists identity, identity ∈ world.captured who ∧ identity.pid = pid ∧
    (identity.startTicks = none ∨ identity.startTicks = some start)

end World

/-! ## Operations -/

inductive Op where
  /-- Signal 0: whether the PID is taken. -/
  | signalZero (pid : Nat)
  /-- The state and the parent, from the process's `stat` file. -/
  | readStat (pid : Nat)
  /-- The start time, from the same file. -/
  | startTicks (pid : Nat)
  /-- The start time of a process that will be accounted for. -/
  | capture (pid : Nat)
  /-- The PIDs listed in `/proc`. -/
  | readDir
  | kill (pid : Nat) (signal : Signal) (walked : Bool)
  | now
  | sleep (duration : Nat)
  /-- The call returns. -/
  | finish (outcome : TerminationOutcome)
  deriving DecidableEq, Repr

abbrev Answer : Op -> Type
  | .signalZero _ => Bool
  | .readStat _ => Option Process
  | .startTicks _ => Option Nat
  | .capture _ => Option Nat
  | .readDir => List Nat
  | .kill _ _ _ => Bool
  | .now => Nat
  | .sleep _ => Unit
  | .finish _ => Unit

/-- A `stat` file may be unreadable, a directory is listed as it is read, and
time passes. -/
structure Choice where
  readable : Bool
  listed : List Nat
  delay : Nat
  deriving DecidableEq, Repr

namespace World

def stat (world : World) (choice : Choice) (pid : Nat) : Option Process :=
  if choice.readable then world.table pid else none

def perform (world : World) (who : Nat) (choice : Choice) : (op : Op) -> Option (Answer op × World)
  | .signalZero pid => some ((world.table pid).isSome, world)
  | .readStat pid => some (world.stat choice pid, world)
  | .startTicks pid => some ((world.stat choice pid).map (·.start),
      { world with looked := Function.update world.looked who world.clock })
  | .capture pid =>
      let start := (world.stat choice pid).map (·.start)
      some (start, { world with
        captured := Function.update world.captured who (world.captured who ++ [⟨pid, start⟩]) })
  | .readDir => some (choice.listed, world)
  -- no such process is as good as delivered, and without permission nothing is sent
  | .kill pid signal walked =>
    match world.table pid with
    | none => some (true, world)
    | some process =>
        if process.owned then
          some (true, { world with sent := world.sent ++ [⟨who, pid, process.start, signal, walked⟩] })
        else some (false, world)
  | .now => some (world.time + choice.delay, { world with time := world.time + choice.delay })
  | .sleep duration => some ((), { world with time := world.time + duration + choice.delay })
  | .finish outcome => some ((), { world with
      outcome := Function.update world.outcome who (some outcome) })

end World

/-! ## Events -/

inductive Event where
  | fork (parent pid : Nat) (owned : Bool)
  /-- A process exits, and its children are given to another. -/
  | exit (pid heir : Nat)
  | reap (pid : Nat)
  deriving DecidableEq, Repr

def World.happens (world : World) : Event -> Option World
  | .fork parent pid owned =>
      if 0 < pid ∧ pid < 2 ^ 31 ∧ world.table pid = none ∧
          (world.table parent).any (!·.exited) = true then
        some { world with
          table := Function.update world.table pid (some ⟨world.clock, parent, false, owned⟩)
          clock := world.clock + 1 }
      else none
  | .exit pid heir =>
    match world.table pid with
    | none => none
    | some _ => some { world with
        table := fun other => (world.table other).map fun process =>
          if other = pid then { process with exited := true }
          else if process.parent = pid then { process with parent := heir }
          else process }
  | .reap pid =>
      if (world.table pid).any (·.exited) = true then
        some { world with table := Function.update world.table pid none }
      else none

end Lifecycle
end RocmCli
