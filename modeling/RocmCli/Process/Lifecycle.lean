import RocmCli.Process.ProcessTable
import RocmCli.Process.Tree

namespace RocmCli
namespace Lifecycle

open Programs

/-!
# Verified termination

A recorded process is signalled only while its PID still has its start time.
What a tree's termination accounts for is captured before the first signal; both
signals to the tree walk it again.
-/

abbrev Run (R : Type) := Program Answer R

abbrev perform (op : Op) : Run (Answer op) := Programs.perform op

/-! ## Process trees -/

/-- Run an operation for each of a list. -/
def forEach {A B : Type} (action : A -> Run B) : List A -> Run (List B)
  | [] => return []
  | first :: rest => do
      let done ← action first
      let more ← forEach action rest
      return done :: more

def readParentPid (pid : Nat) : Run (Option Nat) := do
  let stat ← perform (.readStat pid)
  return stat.map (·.parent)

def readWithParent (pid : Nat) : Run (Option (Nat × Nat)) := do
  let parent ← readParentPid pid
  return parent.map fun parent => (pid, parent)

def collectProcessTree (root : Nat) : Run (List Nat) := do
  let pids ← perform .readDir
  let reads ← forEach readWithParent pids
  return ProcessTree.collectProcessTree root (reads.filterMap id)

def signalProcessScope (pid : Nat) (signal : Signal) (includeTree : Bool) : Run Bool := do
  let targets ← (if includeTree then collectProcessTree pid else pure [pid] : Run (List Nat))
  let delivered ← forEach (fun target => perform (.kill target signal includeTree)) targets
  return delivered.all id

def processIsRunning (pid : Nat) : Run Bool :=
  if pid = 0 ∨ 2 ^ 31 ≤ pid then return false else perform (.signalZero pid)

/-! ## Identities -/

inductive KillScope where
  | single
  | tree
  deriving DecidableEq, Repr

inductive IdentityState where
  | isMatch
  | recycled
  | indeterminate
  | gone
  deriving DecidableEq, Repr

def processHasExited (pid : Nat) : Run Bool := do
  let stat ← perform (.readStat pid)
  return stat.any (·.exited)

def identityState (id : ProcessIdentity) : Run IdentityState := do
  if !(← processIsRunning id.pid) then return .gone
  else
    if ← processHasExited id.pid then return .gone
    else
      let actual ← perform (.startTicks id.pid)
      return match id.startTicks, actual with
      | some expected, some actual => if expected = actual then .isMatch else .recycled
      | some _, none => .indeterminate
      | none, _ => .isMatch

def IdentityState.isExited : IdentityState -> Bool
  | .gone | .recycled => true
  | .isMatch | .indeterminate => false

def capture (pid : Nat) : Run ProcessIdentity := do
  let start ← perform (.capture pid)
  return ⟨pid, start⟩

/-! ## Termination -/

/-- In nanoseconds. -/
def pollInterval : Nat := 25 * 1000 * 1000

def allExited : List ProcessIdentity -> Run Bool
  | [] => return true
  | member :: rest => do
      if (← identityState member).isExited then allExited rest else return false

/-- Poll until the deadline.  A round that goes on sleeps for the interval or up
to the deadline, so that the rounds allowed are more than there can be. -/
def pollExits (members : List ProcessIdentity) (deadline : Nat) : Nat -> Run Bool
  | 0 => return false
  | rounds + 1 => do
      if ← allExited members then return true
      else
        let now ← perform .now
        if deadline ≤ now then return false
        else
          perform (.sleep (min pollInterval (deadline - now)))
          pollExits members deadline rounds

def waitForAllExit (members : List ProcessIdentity) (grace : Nat) : Run Bool := do
  let start ← perform .now
  pollExits members (start + grace) (grace / pollInterval + 2)

def sendSignal (pid : Nat) (signal : Signal) (tree : Bool) : Run Bool :=
  signalProcessScope pid signal tree

/-- Kill a member that is still the process that was captured. -/
def killSurvivor (root : Nat) (member : ProcessIdentity) : Run Unit := do
  if member.pid = root ∨ member.startTicks = none then return ()
  else
    if (← identityState member) = .isMatch then
      let _ ← sendSignal member.pid .kill false
      return ()
    else return ()

def captureMembers (id : ProcessIdentity) (tree : Bool) : Run (List ProcessIdentity) :=
  if tree then do
    let pids ← collectProcessTree id.pid
    forEach capture pids
  else return [id]

def escalate (id : ProcessIdentity) (members : List ProcessIdentity) (tree : Bool) (grace : Nat) :
    Run TerminationOutcome := do
  if (← identityState id) = .isMatch then
    let _ ← sendSignal id.pid .kill tree
  let _ ← forEach (killSurvivor id.pid) members
  if ← waitForAllExit members grace then return .forced else return .timedOut

def terminateMatching (id : ProcessIdentity) (scope : KillScope) (grace : Nat) (force : Bool) :
    Run TerminationOutcome := do
  let tree := scope == .tree
  let members ← captureMembers id tree
  let _ ← sendSignal id.pid .term tree
  if ← waitForAllExit members grace then return .graceful
  else
    if !force then return .timedOut
    else escalate id members tree grace

def terminateVerified (id : ProcessIdentity) (scope : KillScope) (grace : Nat) (force : Bool) :
    Run TerminationOutcome := do
  match ← identityState id with
  | .gone => return .alreadyGone
  | .recycled => return .identityMismatch
  | .indeterminate => return .unverified
  | .isMatch => terminateMatching id scope grace force

/-! ## The machine -/

/-- A call on a recorded process with a known start time, for its whole tree. -/
structure Command where
  pid : Nat
  startTicks : Nat
  grace : Nat
  force : Bool
  deriving DecidableEq, Repr

def Command.run (command : Command) : Run Unit := do
  let outcome ← terminateVerified ⟨command.pid, some command.startTicks⟩ .tree command.grace
    command.force
  perform (.finish outcome)

/-- A caller makes one call. -/
def World.begins (world : World) (who : Nat) : Option World :=
  if world.outcome who = none ∧ world.captured who = [] ∧ world.sentBy who = [] then some world
  else none

def machine : Machine Answer where
  World := World
  Command := Command
  Event := Event
  Choice := Choice
  body _ := Command.run
  starts world who _ := world.begins who
  happens := World.happens
  performs := World.perform

end Lifecycle
end RocmCli
