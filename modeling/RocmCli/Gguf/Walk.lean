import RocmCli.Gguf.Script

namespace RocmCli
namespace Gguf

open Scan

/-!
# What a parser reads of its source

A source has a length and a byte at every offset below it; most of it may be a
hole.  A script over a source reads some of its bytes, and either fails or ends
with a result at a position.  A triple bounds the bytes that are read and says
what holds at the end; it composes as the script does.
-/

/-- A source of bytes: what is read past its length is not there. -/
structure Source where
  length : Nat
  byte : Nat -> UInt8

namespace Source

def slice (source : Source) : Nat -> Nat -> Bytes
  | _, 0 => []
  | position, count + 1 => source.byte position :: source.slice (position + 1) count

end Source

namespace Script

variable {R S : Type} (source : Source)

/-! ## Runs -/

def run : Script R -> Nat -> Except GgufError (R × Nat)
  | done result, position => .ok (result, position)
  | fail error, _ => .error error
  | readExact count next, position =>
      if count ≤ source.length - position then
        (next (source.slice position count)).run (position + count)
      else .error .truncated
  | seekForward count next, position => next.run (position + count)
  | streamPosition next, position => (next position).run position

/-- Whether the byte at the offset is read.  A read that the data is too short
for reads what there is. -/
def readsByte (offset : Nat) : Script R -> Nat -> Bool
  | done _, _ => false
  | fail _, _ => false
  | readExact count next, position =>
      (decide (position ≤ offset) && decide (offset < position + count) &&
        decide (offset < source.length)) ||
      (decide (count ≤ source.length - position) &&
        (next (source.slice position count)).readsByte offset (position + count))
  | seekForward count next, position => next.readsByte offset (position + count)
  | streamPosition next, position => (next position).readsByte offset position

variable {source}

variable {count : Nat}

theorem run_readExact {position : Nat} {next : Bytes -> Script R} :
    (readExact count next).run source position =
      if count ≤ source.length - position then
        (next (source.slice position count)).run source (position + count)
      else .error .truncated := rfl

theorem readsByte_readExact {position offset : Nat} {next : Bytes -> Script R} :
    (readExact count next).readsByte source offset position =
      ((decide (position ≤ offset) && decide (offset < position + count) &&
          decide (offset < source.length)) ||
        (decide (count ≤ source.length - position) &&
          (next (source.slice position count)).readsByte source offset (position + count))) := rfl

variable {script : Script R}

theorem run_bind_eq_ok {after : R -> Script S} {position : Nat} {result : S × Nat} :
    (script >>= after).run source position = .ok result ↔
      exists middle between, script.run source position = .ok (middle, between) ∧
        (after middle).run source between = .ok result := by
  change (script.bind after).run source position = _ ↔ _
  induction script generalizing position with
  | done middle =>
      constructor
      · intro runs
        exact ⟨middle, position, rfl, runs⟩
      · rintro ⟨_, _, same, runs⟩
        cases same
        exact runs
  | fail error =>
      constructor
      · nofun
      · rintro ⟨_, _, same, _⟩
        cases same
  | readExact count next ih =>
      unfold bind
      rw [run_readExact, run_readExact]
      split
      · exact ih _
      · constructor
        · nofun
        · rintro ⟨_, _, same, _⟩
          cases same
  | seekForward count next ih =>
      exact @ih (position + count)
  | streamPosition next ih =>
      exact @ih position position

/-- A script and what follows it read what the script reads and, where it ends,
what what follows reads from there. -/
theorem readsByte_bind {after : R -> Script S} {position offset : Nat} :
    (script >>= after).readsByte source offset position = true ↔
      script.readsByte source offset position = true ∨
        exists middle between, script.run source position = .ok (middle, between) ∧
          (after middle).readsByte source offset between = true := by
  change (script.bind after).readsByte source offset position = true ↔ _
  induction script generalizing position with
  | done middle =>
      constructor
      · intro reads
        exact .inr ⟨middle, position, rfl, reads⟩
      · rintro (none | ⟨_, _, same, reads⟩)
        · cases none
        · cases same
          exact reads
  | fail error =>
      constructor
      · nofun
      · rintro (none | ⟨_, _, same, _⟩)
        · cases none
        · cases same
  | readExact count next ih =>
      unfold bind
      rw [readsByte_readExact, readsByte_readExact, run_readExact, Bool.or_eq_true,
        Bool.or_eq_true, or_assoc]
      refine or_congr Iff.rfl ?_
      by_cases inside : count ≤ source.length - position
      · rw [if_pos inside, decide_eq_true inside, Bool.true_and, Bool.true_and]
        exact ih _
      · rw [if_neg inside, decide_eq_false inside, Bool.false_and, Bool.false_and]
        constructor
        · nofun
        · rintro (none | ⟨_, _, same, _⟩)
          · cases none
          · cases same
  | seekForward count next ih =>
      exact @ih (position + count)
  | streamPosition next ih =>
      exact @ih position position

/-- A loop reads what each of its rounds reads. -/
theorem readsByte_forRange {body : Nat -> S -> Script S} {first done position between offset : Nat}
    {state reached : S} (more : done < count)
    (runs : (forRange body done first state).run source position = .ok (reached, between))
    (reads : (body (first + done) reached).readsByte source offset between = true) :
    (forRange body count first state).readsByte source offset position = true := by
  induction done generalizing count first state position with
  | zero =>
      cases count with
      | zero => exact absurd more (Nat.lt_irrefl 0)
      | succ count =>
          cases runs
          unfold forRange
          exact readsByte_bind.mpr (.inl reads)
  | succ done ih =>
      cases count with
      | zero => exact absurd more (Nat.not_lt_zero _)
      | succ count =>
          unfold forRange at runs ⊢
          rcases run_bind_eq_ok.mp runs with ⟨next, middle, firstRun, rest⟩
          refine readsByte_bind.mpr (.inr ⟨next, middle, firstRun, ?_⟩)
          refine ih (Nat.lt_of_succ_lt_succ more) rest ?_
          rwa [Nat.add_right_comm, Nat.add_assoc]

/-! ## Bounded reads -/

/-- No byte at these offsets is there at or past the limit. -/
def Clear (source : Source) (limit position count : Nat) : Prop :=
  forall offset, position ≤ offset -> offset < position + count -> offset < source.length ->
    offset < limit

theorem Clear.of_le {limit position : Nat} (inside : position + count ≤ limit) :
    Clear source limit position count :=
  fun _ _ before _ => Nat.lt_of_lt_of_le before inside

theorem Clear.part {limit position first width : Nat} (clear : Clear source limit position count)
    (fits : first + width ≤ count) :
    Clear source limit (position + first) width :=
  fun offset after before => clear offset (by omega) (by omega)

theorem Clear.first {limit position width : Nat} (clear : Clear source limit position count)
    (fits : width ≤ count) :
    Clear source limit position width :=
  fun offset after before => clear offset after (by omega)

/-- From the position the script reads nothing at or past the limit, and this
holds where it ends. -/
structure Bounded (source : Source) (limit : Nat) (script : Script R) (position : Nat)
    (post : R -> Nat -> Prop) : Prop where
  reads : forall offset, script.readsByte source offset position = true -> offset < limit
  post : forall result reached, script.run source position = .ok (result, reached) ->
    post result reached

namespace Bounded

variable {limit position : Nat} {post : R -> Nat -> Prop}

theorem mono {weaker : R -> Nat -> Prop} (bounded : Bounded source limit script position post)
    (weakens : forall result reached, post result reached -> weaker result reached) :
    Bounded source limit script position weaker :=
  ⟨bounded.reads, fun result reached runs => weakens result reached (bounded.post _ _ runs)⟩

/-- What a script ends with is what it runs to. -/
theorem known (bounded : Bounded source limit script position post) :
    Bounded source limit script position fun result reached =>
      script.run source position = .ok (result, reached) ∧ post result reached :=
  ⟨bounded.reads, fun _ _ runs => ⟨runs, bounded.post _ _ runs⟩⟩

theorem pure {result : R} (holds : post result position) :
    Bounded source limit (pure result : Script R) position post := by
  refine ⟨nofun, fun _ _ runs => ?_⟩
  cases runs
  exact holds

theorem fail {error : GgufError} : Bounded source limit (.fail error) position post :=
  ⟨nofun, nofun⟩

theorem ofExcept {decided : Except GgufError R} (post : R -> Nat -> Prop)
    (holds : forall result, decided = .ok result -> post result position) :
    Bounded source limit (Script.ofExcept decided) position post := by
  cases decided with
  | error error => exact fail
  | ok result => exact pure (holds result rfl)

theorem bind {after : R -> Script S} {last : S -> Nat -> Prop}
    (bounded : Bounded source limit script position post)
    (follows : forall result reached, post result reached ->
      Bounded source limit (after result) reached last) :
    Bounded source limit (script >>= after) position last := by
  refine ⟨fun offset reads => ?_, fun result reached runs => ?_⟩
  · rcases readsByte_bind.mp reads with reads | ⟨middle, between, runs, reads⟩
    · exact bounded.reads offset reads
    · exact (follows middle between (bounded.post middle between runs)).reads offset reads
  · rcases run_bind_eq_ok.mp runs with ⟨middle, between, runs, rest⟩
    exact (follows middle between (bounded.post middle between runs)).post result reached rest

theorem bytes (clear : Clear source limit position count) :
    Bounded source limit (Script.bytes count) position fun _ reached =>
      reached = position + count := by
  refine ⟨fun offset reads => ?_, fun result reached runs => ?_⟩
  · unfold Script.bytes at reads
    rw [readsByte_readExact, Bool.or_eq_true, Bool.and_eq_true, Bool.and_eq_true] at reads
    rcases reads with ⟨⟨after, before⟩, inside⟩ | nothing
    · exact clear offset (of_decide_eq_true after) (of_decide_eq_true before)
        (of_decide_eq_true inside)
    · cases (Bool.and_eq_true_iff.mp nothing).2
  · unfold Script.bytes at runs
    rw [run_readExact] at runs
    split at runs
    · cases runs
      rfl
    · cases runs

theorem seekForward :
    Bounded source limit (Script.seekForward count (.done ())) position fun _ reached =>
      reached = position + count := by
  refine ⟨nofun, fun _ _ runs => ?_⟩
  cases runs
  rfl

theorem streamPosition :
    Bounded source limit (Script.streamPosition .done) position fun found reached =>
      found = position ∧ reached = position := by
  refine ⟨nofun, fun _ _ runs => ?_⟩
  cases runs
  exact ⟨rfl, rfl⟩

/-- A loop, by what holds before each round; what ran before a round is known. -/
theorem forRange {body : Nat -> S -> Script S} {first : Nat} {state : S}
    (invariant : Nat -> S -> Nat -> Prop) (start : invariant 0 state position)
    (round : forall done middle between, done < count ->
      (Script.forRange body done first state).run source position = .ok (middle, between) ->
      invariant done middle between ->
      Bounded source limit (body (first + done) middle) between (invariant (done + 1))) :
    Bounded source limit (Script.forRange body count first state) position (invariant count) := by
  induction count generalizing first state position invariant with
  | zero => exact pure start
  | succ count ih =>
      unfold Script.forRange
      have bounded := round 0 state position (Nat.succ_pos count) rfl start
      refine bounded.known.bind ?_
      rintro next reached ⟨firstRun, held⟩
      refine ih (fun done => invariant (done + 1)) held ?_
      intro done middle between more runs held
      have whole : (Script.forRange body (done + 1) first state).run source position =
          .ok (middle, between) := by
        unfold Script.forRange
        exact run_bind_eq_ok.mpr ⟨next, reached, firstRun, runs⟩
      have further := round (done + 1) middle between (Nat.succ_lt_succ more) whole held
      have sameRound : first + (done + 1) = first + 1 + done := by omega
      rwa [sameRound] at further

end Bounded

end Script

end Gguf
end RocmCli
