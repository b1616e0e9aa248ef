import RocmCli.Support.CrashSteps
import RocmCli.Support.ErrorChain

namespace RocmCli
namespace Crash

/-!
# Programs that may fail

An attempt is a program whose state carries the error that ended it, if one
did.  What follows an error is not run.  What an attempt achieves is what holds
of every state on the way, and of the last one if there was no error.
-/

structure Progress (State : Type u) where
  state : State
  error : Option ErrorChain

abbrev Attempt (State : Type u) := Program (Progress State)

namespace Attempt

open Program

variable {State : Type u} {Item : Type v}

def start (state : State) : Progress State := ⟨state, none⟩

def done : Attempt State := skip

def change (update : State -> State) : Attempt State :=
  step fun progress => { progress with state := update progress.state }

def failWith (error : ErrorChain) : Attempt State :=
  step fun progress => { progress with error := some error }

/-- Run the second part if the first did not fail. -/
def andThen (first second : Attempt State) : Attempt State :=
  seq first fun progress => if progress.error.isSome then [] else second progress

/-- What to run is decided by the state it starts in. -/
def reading (program : State -> Attempt State) : Attempt State :=
  fun progress => program progress.state progress

def each (body : Item -> Attempt State) : List Item -> Attempt State
  | [] => done
  | item :: rest => andThen (body item) (each body rest)

/-- From a state that satisfies `pre`, every state on the way satisfies
`during`, and the last one satisfies `post` unless the attempt failed. -/
structure Achieves (pre during post : State -> Prop) (program : Attempt State) : Prop where
  passes : forall state, pre state -> forall progress, progress ∈ program (start state) ->
    during progress.state
  ends : forall state, pre state -> (program.last (start state)).error = none ->
    post (program.last (start state)).state

variable {pre middle during post : State -> Prop} {first second program : Attempt State}

theorem progress_eq (progress : Progress State) (noError : progress.error = none) :
    progress = start progress.state := by
  obtain ⟨state, error⟩ := progress
  cases noError
  rfl

theorem achieves_done (implied : forall state, pre state -> post state) :
    Achieves pre during post (done : Attempt State) where
  passes _ _ _ member := absurd member List.not_mem_nil
  ends state holds _ := implied state holds

theorem achieves_change {update : State -> State}
    (passes : forall state, pre state -> during (update state))
    (ends : forall state, pre state -> post (update state)) :
    Achieves pre during post (change update) where
  passes state holds _ member := List.mem_singleton.mp member ▸ passes state holds
  ends state holds _ := ends state holds

theorem achieves_failWith (error : ErrorChain) (passes : forall state, pre state -> during state) :
    Achieves pre during post (failWith error) where
  passes state holds _ member := List.mem_singleton.mp member ▸ passes state holds
  ends _ _ noError := nomatch noError

theorem last_andThen (first second : Attempt State) (progress : Progress State) :
    (andThen first second).last progress =
      if (first.last progress).error.isSome then first.last progress
      else second.last (first.last progress) := by
  unfold andThen
  rw [last_seq]
  by_cases failed : (first.last progress).error.isSome = true
  · rw [if_pos failed]
    change (if _ then [] else _ : List (Progress State)).getLastD _ = _
    rw [if_pos failed]
    rfl
  · rw [if_neg failed]
    change (if _ then [] else _ : List (Progress State)).getLastD _ = _
    rw [if_neg failed]
    rfl

theorem achieves_andThen (left : Achieves pre during middle first)
    (right : Achieves middle during post second) :
    Achieves pre during post (andThen first second) where
  passes := by
    intro state holds progress member
    rcases mem_seq.mp member with early | late
    · exact left.passes state holds progress early
    · by_cases failed : (first.last (start state)).error.isSome = true
      · rw [if_pos failed] at late
        exact absurd late List.not_mem_nil
      · have noError : (first.last (start state)).error = none := by simpa using failed
        rw [if_neg failed, progress_eq _ noError] at late
        exact right.passes _ (left.ends state holds noError) progress late
  ends := by
    intro state holds noError
    rw [last_andThen] at noError ⊢
    by_cases failed : (first.last (start state)).error.isSome = true
    · rw [if_pos failed] at noError
      rw [noError] at failed
      exact nomatch failed
    · have firstOk : (first.last (start state)).error = none := by simpa using failed
      rw [if_neg failed, progress_eq _ firstOk] at noError ⊢
      exact right.ends _ (left.ends state holds firstOk) noError

theorem achieves_reading {program : State -> Attempt State}
    (each : forall state, pre state -> Achieves (fun other => other = state) during post
      (program state)) : Achieves pre during post (reading program) where
  passes state holds := (each state holds).passes state rfl
  ends state holds := (each state holds).ends state rfl

/-- A loop, with an invariant that speaks of the items that are done. -/
theorem achieves_each (during : State -> Prop) (body : Item -> Attempt State)
    (invariant : List Item -> State -> Prop) (items : List Item)
    (step : forall before item rest, items = before ++ item :: rest ->
      Achieves (invariant before) during (invariant (before ++ [item])) (body item)) :
    Achieves (invariant []) during (invariant items) (each body items) := by
  suffices general : forall before rest, items = before ++ rest ->
      Achieves (invariant before) during (invariant items) (each body rest) from general [] items rfl
  intro before rest split
  induction rest generalizing before with
  | nil =>
      rw [List.append_nil] at split
      rw [← split]
      exact achieves_done fun _ holds => holds
  | cons item rest ih =>
      refine achieves_andThen (step before item rest split) ?_
      exact ih (before ++ [item]) (by rw [split, List.append_assoc]; rfl)

theorem Achieves.consequence {pre' during' post' : State -> Prop}
    (achieves : Achieves pre during post program) (stronger : forall state, pre' state -> pre state)
    (passes : forall state, during state -> during' state)
    (weaker : forall state, post state -> post' state) : Achieves pre' during' post' program where
  passes state holds progress member :=
    passes _ (achieves.passes state (stronger state holds) progress member)
  ends state holds noError := weaker _ (achieves.ends state (stronger state holds) noError)

/-! ## Loops in parts -/

theorem andThen_of_failed {progress : Progress State}
    (failed : (first.last progress).error.isSome = true) :
    andThen first second progress = first progress := by
  change first progress ++ (if (first.last progress).error.isSome then [] else _) = _
  rw [if_pos failed, List.append_nil]

theorem andThen_of_not_failed (second : Attempt State) {progress : Progress State}
    (going : ¬ (first.last progress).error.isSome = true) :
    andThen first second progress = first progress ++ second (first.last progress) := by
  change first progress ++ (if (first.last progress).error.isSome then [] else _) = _
  rw [if_neg going]

theorem andThen_assoc (first second third : Attempt State) :
    andThen (andThen first second) third = andThen first (andThen second third) := by
  funext progress
  have ends := last_andThen first second progress
  by_cases failed : (first.last progress).error.isSome = true
  · rw [if_pos failed] at ends
    rw [andThen_of_failed (by rw [ends]; exact failed), andThen_of_failed failed,
      andThen_of_failed failed]
  · rw [if_neg failed] at ends
    rw [andThen_of_not_failed _ failed]
    by_cases stopped : (second.last (first.last progress)).error.isSome = true
    · rw [andThen_of_failed (by rw [ends]; exact stopped), andThen_of_failed stopped,
        andThen_of_not_failed _ failed]
    · rw [andThen_of_not_failed _ (by rw [ends]; exact stopped), andThen_of_not_failed _ stopped,
        andThen_of_not_failed _ failed, ends, List.append_assoc]

theorem andThen_done (first : Attempt State) : andThen first done = first := by
  funext progress
  by_cases failed : (first.last progress).error.isSome = true
  · exact andThen_of_failed failed
  · rw [andThen_of_not_failed _ failed]
    exact List.append_nil _

theorem each_map {Other : Type w} (body : Item -> Attempt State) (find : Other -> Item)
    (items : List Other) : each body (items.map find) = each (fun item => body (find item)) items := by
  induction items with
  | nil => rfl
  | cons item rest ih =>
      rw [List.map_cons]
      change andThen (body (find item)) (each body (rest.map find)) = _
      rw [ih]
      rfl

/-- A loop over two lists runs the second part from where the first ends. -/
theorem each_append (body : Item -> Attempt State) (front back : List Item) (state : State) :
    each body (front ++ back) (start state) =
      andThen (each body front) (each body back) (start state) := by
  suffices general : forall progress : Progress State, progress.error = none ->
      each body (front ++ back) progress = andThen (each body front) (each body back) progress from
    general (start state) rfl
  induction front with
  | nil =>
      intro progress noError
      change each body back progress = [] ++ (if progress.error.isSome then [] else _)
      rw [noError]
      rfl
  | cons item front ih =>
      intro progress _
      change andThen (body item) (each body (front ++ back)) progress =
        andThen (andThen (body item) (each body front)) (each body back) progress
      rw [andThen_assoc]
      by_cases failed : ((body item).last progress).error.isSome = true
      · rw [andThen_of_failed failed, andThen_of_failed failed]
      · have noError : ((body item).last progress).error = none := by simpa using failed
        rw [andThen_of_not_failed _ failed, andThen_of_not_failed _ failed,
          ih _ noError]

end Attempt

end Crash
end RocmCli
