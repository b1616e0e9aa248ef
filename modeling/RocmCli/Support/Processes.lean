import Mathlib.Logic.Function.Basic

namespace RocmCli
namespace Processes

/-!
# Processes and their PIDs

A process is told from all others by the number of its birth.  It has its PID from
its birth until it is reaped, which is some time after its exit; then the PID can go
to another process.  A family is a process with all that descend from it.
-/

structure Machine where
  births : Nat
  owner : Nat -> Option Nat
  running : Nat -> Bool
  family : Nat -> Nat
  sameUser : Nat -> Bool

namespace Machine

def empty : Machine := ⟨0, fun _ => none, fun _ => false, fun _ => 0, fun _ => false⟩

/-- A process is born with a PID that is free. -/
def birth (machine : Machine) (pid family : Nat) (sameUser : Bool) : Machine :=
  if pid = 0 ∨ machine.owner pid ≠ none then machine
  else
    { births := machine.births + 1
      owner := Function.update machine.owner pid (some machine.births)
      running := Function.update machine.running machine.births true
      family := Function.update machine.family machine.births family
      sameUser := Function.update machine.sameUser machine.births sameUser }

/-- A running process has a child. -/
def fork (machine : Machine) (parent pid : Nat) (sameUser : Bool) : Machine :=
  if machine.running parent then machine.birth pid (machine.family parent) sameUser else machine

def exit (machine : Machine) (process : Nat) : Machine :=
  { machine with running := Function.update machine.running process false }

/-- A process that has exited gives its PID back. -/
def reap (machine : Machine) (pid : Nat) : Machine :=
  match machine.owner pid with
  | none => machine
  | some process =>
      if machine.running process then machine
      else { machine with owner := Function.update machine.owner pid none }

/-- The process that a signal to the PID reaches. -/
def reached (machine : Machine) (pid : Nat) : Option Nat :=
  (machine.owner pid).filter machine.sameUser

/-! ## What becomes of a process -/

/-- A process that has its PID as long as it runs. -/
structure Has (machine : Machine) (process pid : Nat) : Prop where
  born : process < machine.births
  numbered : pid ≠ 0
  founder : machine.family process = process
  user : machine.sameUser process = true
  owned : machine.running process = true -> machine.owner pid = some process

variable {machine : Machine} {process pid : Nat}

theorem Has.reached (has : machine.Has process pid) (runs : machine.running process = true) :
    machine.reached pid = some process := by
  rw [Machine.reached, has.owned runs, Option.filter_some, if_pos has.user]

/-- A birth leaves the processes that are there as they are. -/
theorem birth_keeps (has : machine.Has process pid) (other family : Nat) (user : Bool) :
    (machine.birth other family user).Has process pid ∧
      (machine.birth other family user).running process = machine.running process := by
  unfold birth
  split
  · exact ⟨has, rfl⟩
  · next free =>
      have apart : process ≠ machine.births := Nat.ne_of_lt has.born
      rw [not_or, not_not] at free
      refine ⟨⟨Nat.lt_succ_of_lt has.born, has.numbered, ?_, ?_, fun runs => ?_⟩, ?_⟩
      · exact (Function.update_of_ne apart ..).trans has.founder
      · exact (Function.update_of_ne apart ..).trans has.user
      · have owned := has.owned ((Function.update_of_ne apart ..).symm.trans runs)
        have different : pid ≠ other := by
          rintro rfl
          exact nomatch free.2.symm.trans owned
        exact (Function.update_of_ne different ..).trans owned
      · exact Function.update_of_ne apart ..

theorem exit_keeps (has : machine.Has process pid) (gone : Nat) :
    (machine.exit gone).Has process pid ∧ ((machine.exit gone).running process = true ->
      machine.running process = true) := by
  have before : (machine.exit gone).running process = true -> machine.running process = true := by
    intro runs
    by_cases same : process = gone
    · rw [exit, same] at runs
      simp at runs
    · exact (Function.update_of_ne same ..).symm.trans runs
  exact ⟨⟨has.born, has.numbered, has.founder, has.user, fun runs => has.owned (before runs)⟩, before⟩

theorem reap_keeps (has : machine.Has process pid) (freed : Nat) :
    (machine.reap freed).Has process pid ∧
      (machine.reap freed).running process = machine.running process := by
  unfold reap
  split
  · exact ⟨has, rfl⟩
  · next gone owned =>
      split
      · exact ⟨has, rfl⟩
      · next exited =>
          refine ⟨⟨has.born, has.numbered, has.founder, has.user, fun runs => ?_⟩, rfl⟩
          have different : pid ≠ freed := by
            rintro rfl
            rw [has.owned runs] at owned
            exact exited (Option.some.inj owned ▸ runs)
          exact (Function.update_of_ne different ..).trans (has.owned runs)

/-- The founder of a family has the PID it was born with. -/
theorem birth_has (free : machine.owner pid = none) (numbered : pid ≠ 0) :
    (machine.birth pid machine.births true).Has machine.births pid := by
  rw [birth, if_neg (by simp [free, numbered])]
  exact ⟨Nat.lt_succ_self _, numbered, Function.update_self .., Function.update_self ..,
    fun _ => Function.update_self ..⟩

end Machine
end Processes
end RocmCli
