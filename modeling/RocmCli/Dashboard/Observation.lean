import RocmCli.Support.Runs
import RocmCli.Support.SlidingWindow
import Mathlib.Data.Rat.Floor

namespace RocmCli
namespace Observation

open Runs SlidingWindow

/-!
# Throughput of an engine

How many tokens a second an engine generates is computed from samples of a
counter that only grows, or reported by the engine.  A value is held for a while
after it was observed, and forgotten with the samples it came from.  Times are
in seconds and exact, and so are totals; `none` is one that is not finite.
-/

/-! ## Timing -/

def rateWindow (instanceTick : Rat) : Rat := max 10 (min (instanceTick * 5) 30)

def observationValidity (instanceTick : Rat) : Rat := max 6 (min (instanceTick * 3) 30)

def maxCapacity : Nat := 64

def deriveCapacity (window instanceTick : Rat) : Nat :=
  if instanceTick = 0 then maxCapacity
  else max 3 (min ((window / instanceTick).ceil.toNat + 2) maxCapacity)

/-- A span of time in milliseconds, what is less than one dropped. -/
def numMilliseconds (span : Rat) : Int :=
  if 0 ≤ span then (span * 1000).floor else (span * 1000).ceil

/-! ## The tracker -/

structure Sample where
  time : Rat
  total : Rat
  deriving DecidableEq, Repr

inductive ObservationFreshness where
  | fresh
  | held
  deriving DecidableEq, Repr

structure ObservationMetadata where
  observedAt : Rat
  freshness : ObservationFreshness
  deriving DecidableEq, Repr

structure Tracker where
  rateWindow : Rat
  validity : Rat
  capacity : Nat
  samples : List Sample
  currentValue : Option Rat
  lastObservedAt : Option Rat
  deriving DecidableEq, Repr

/-- A sample that is too old to count beside another. -/
def outside (window : Rat) (newest old : Sample) : Bool := decide (window < newest.time - old.time)

/-- The rate over the samples retained, if they span a millisecond. -/
def rateOver (samples : List Sample) (newest : Sample) : Option Rat :=
  match samples with
  | oldest :: _ :: _ =>
      let milliseconds := numMilliseconds (newest.time - oldest.time)
      if 0 < milliseconds then
        let rate := (newest.total - oldest.total) / (milliseconds / 1000)
        if 0 ≤ rate then some rate else none
      else none
  | _ => none

namespace Tracker

def new (instanceTick : Rat) : Tracker :=
  { rateWindow := Observation.rateWindow instanceTick
    validity := observationValidity instanceTick
    capacity := deriveCapacity (Observation.rateWindow instanceTick) instanceTick
    samples := []
    currentValue := none
    lastObservedAt := none }

variable (tracker : Tracker)

def invalidate : Tracker :=
  { tracker with samples := [], currentValue := none, lastObservedAt := none }

/-- A sample that is newer than the others. -/
def addSample (sample : Sample) : Tracker :=
  let samples := push (outside tracker.rateWindow) tracker.capacity tracker.samples sample
  match rateOver samples sample with
  | some rate =>
      { tracker with
        samples := samples, currentValue := some rate, lastObservedAt := some sample.time }
  | none => { tracker with samples := samples }

def observeCounter (total : Option Rat) (observedAt : Rat) : Tracker :=
  match total with
  | none => tracker
  | some total =>
    if total < 0 then tracker
    else
      match tracker.samples.getLast? with
      | none => tracker.addSample ⟨observedAt, total⟩
      | some back =>
        if observedAt ≤ back.time then tracker
        else if total < back.total then
          -- The counter was reset: what was sampled before says nothing now.
          { tracker.invalidate with samples := [⟨observedAt, total⟩] }
        else tracker.addSample ⟨observedAt, total⟩

def observeDirect (rate : Option Rat) (observedAt : Rat) : Tracker :=
  match rate with
  | none => tracker
  | some rate =>
    if rate < 0 then tracker
    else { tracker with currentValue := some rate, lastObservedAt := some observedAt }

/-- The value for a moment, and the tracker after it was asked. -/
def snapshot (now : Rat) : Tracker × (Option Rat × Option ObservationMetadata) :=
  match tracker.currentValue, tracker.lastObservedAt with
  | some value, some observedAt =>
    if tracker.validity < now - observedAt then (tracker.invalidate, (none, none))
    else
      let freshness := if observedAt = now then .fresh else .held
      (tracker, (some value, some ⟨observedAt, freshness⟩))
  | _, _ => (tracker, (none, none))

end Tracker

inductive Call where
  | observeCounter (total : Option Rat) (observedAt : Rat)
  | observeDirect (rate : Option Rat) (observedAt : Rat)
  | invalidate
  | snapshot (now : Rat)
  deriving DecidableEq, Repr

def step (tracker : Tracker) : Call -> Tracker
  | .observeCounter total observedAt => tracker.observeCounter total observedAt
  | .observeDirect rate observedAt => tracker.observeDirect rate observedAt
  | .invalidate => tracker.invalidate
  | .snapshot now => (tracker.snapshot now).1

/-- The tracker after a sequence of calls. -/
def tracked (instanceTick : Rat) (calls : List Call) : Tracker :=
  finalState step (Tracker.new instanceTick) calls

/-! ## What the tracker is for -/

/-- All that was accepted since something was last discarded, and the value that
was produced last with its time. -/
structure History where
  accepted : List Sample
  latest : Option (Rat × Rat)
  deriving DecidableEq, Repr

/-- What is to be retained of the samples accepted. -/
def retained (instanceTick : Rat) (accepted : List Sample) : List Sample :=
  recent (outside (rateWindow instanceTick)) (deriveCapacity (rateWindow instanceTick) instanceTick)
    accepted

namespace History

variable (instanceTick : Rat) (history : History)

def accept (sample : Sample) : History where
  accepted := history.accepted ++ [sample]
  latest := ((rateOver (retained instanceTick (history.accepted ++ [sample])) sample).map
    (·, sample.time)).or history.latest

def step : Call -> History
  | .observeCounter none _ => history
  | .observeCounter (some total) observedAt =>
    if total < 0 then history
    else
      match history.accepted.getLast? with
      | none => history.accept instanceTick ⟨observedAt, total⟩
      | some last =>
        if observedAt ≤ last.time then history
        else if total < last.total then ⟨[⟨observedAt, total⟩], none⟩
        else history.accept instanceTick ⟨observedAt, total⟩
  | .observeDirect none _ => history
  | .observeDirect (some rate) observedAt =>
    if rate < 0 then history else { history with latest := some (rate, observedAt) }
  | .invalidate => ⟨[], none⟩
  | .snapshot now =>
    match history.latest with
    | none => history
    | some (_, observedAt) =>
      if observationValidity instanceTick < now - observedAt then ⟨[], none⟩ else history

/-- What a call of `snapshot` is to answer. -/
def answer (now : Rat) : Option Rat × Option ObservationMetadata :=
  match history.latest with
  | none => (none, none)
  | some (value, observedAt) =>
    if now - observedAt ≤ observationValidity instanceTick then
      (some value, some ⟨observedAt, if now = observedAt then .fresh else .held⟩)
    else (none, none)

def run (calls : List Call) : History := finalState (step instanceTick) ⟨[], none⟩ calls

/-- The tracker that knows this much. -/
def tracker : Tracker :=
  { Tracker.new instanceTick with
    samples := retained instanceTick history.accepted
    currentValue := history.latest.map Prod.fst
    lastObservedAt := history.latest.map Prod.snd }

/-- Times and totals grow. -/
structure Sound (history : History) : Prop where
  increasing : history.accepted.Pairwise (Sample.time · < Sample.time ·)
  growing : history.accepted.Pairwise (Sample.total · ≤ Sample.total ·)

end History

/-! ## Windows -/

theorem rateWindow_pos (instanceTick : Rat) : 0 < rateWindow instanceTick :=
  lt_of_lt_of_le (by norm_num) (le_max_left _ _)

theorem deriveCapacity_pos (window instanceTick : Rat) : 0 < deriveCapacity window instanceTick := by
  unfold deriveCapacity
  split
  · decide
  · exact Nat.lt_of_lt_of_le (by decide) (Nat.le_max_left _ _)

theorem outside_self {window : Rat} (positive : 0 < window) (sample : Sample) :
    outside window sample sample = false := by
  unfold outside
  rw [sub_self]
  exact decide_eq_false (not_lt_of_gt positive)

variable {newest : Sample}

/-- What is too old stays too old. -/
theorem outside_later {window : Rat} {later old : Sample} (order : newest.time ≤ later.time)
    (isOutside : outside window newest old = true) : outside window later old = true := by
  unfold outside at isOutside ⊢
  exact decide_eq_true ((of_decide_eq_true isOutside).trans_le (sub_le_sub_right order _))

theorem retained_getLast? (instanceTick : Rat) (accepted : List Sample) :
    (retained instanceTick accepted).getLast? = accepted.getLast? := by
  cases isNewest : accepted.getLast? with
  | none =>
    rw [List.getLast?_eq_none_iff.mp isNewest]
    rfl
  | some newest =>
    exact recent_getLast? (deriveCapacity_pos _ _) isNewest (outside_self (rateWindow_pos _) newest)

variable {sample : Sample}

/-- A sample later than the others is retained with what it leaves of them. -/
theorem push_retained (instanceTick : Rat) {accepted : List Sample}
    (later : forall last, accepted.getLast? = some last -> last.time < sample.time) :
    push (outside (rateWindow instanceTick))
        (deriveCapacity (rateWindow instanceTick) instanceTick) (retained instanceTick accepted)
        sample =
      retained instanceTick (accepted ++ [sample]) :=
  push_recent (deriveCapacity_pos _ _) (outside_self (rateWindow_pos _) sample)
    fun newest isNewest _ => outside_later (later newest isNewest).le

theorem retained_singleton (instanceTick : Rat) (sample : Sample) :
    retained instanceTick [sample] = [sample] := by
  have room := deriveCapacity_pos (rateWindow instanceTick) instanceTick
  have whole : 1 - deriveCapacity (rateWindow instanceTick) instanceTick = 0 := by omega
  unfold retained
  rw [recent_eq (List.getLast?_singleton), List.length_singleton, whole, List.drop_zero,
    List.dropWhile_cons_of_neg (Bool.eq_false_iff.mp (outside_self (rateWindow_pos _) sample))]

/-! ## The tracker keeps to it -/

namespace History

variable {instanceTick : Rat} {history : History}

theorem Sound.accept (sound : history.Sound)
    (later : forall last, history.accepted.getLast? = some last ->
      last.time < sample.time ∧ last.total ≤ sample.total) :
    (history.accept instanceTick sample).Sound := by
  have above {relation : Sample -> Sample -> Prop}
      (trans : forall first second third, relation first second -> relation second third ->
        relation first third) (sorted : history.accepted.Pairwise relation)
      (last : forall last, history.accepted.getLast? = some last -> relation last sample) :
      (history.accepted ++ [sample]).Pairwise relation := by
    refine List.pairwise_append.mpr ⟨sorted, List.pairwise_singleton _ _, ?_⟩
    intro old isOld new isNew
    rw [List.mem_singleton.mp isNew]
    rcases List.eq_nil_or_concat history.accepted with nothing | ⟨earlier, newest, concat⟩
    · rw [nothing] at isOld
      cases isOld
    · rw [List.concat_eq_append] at concat
      have isLast : history.accepted.getLast? = some newest := by
        rw [concat]
        exact List.getLast?_concat
      rw [concat] at isOld sorted
      rcases List.mem_append.mp isOld with isEarlier | isNewest
      · have first := (List.pairwise_append.mp sorted).2.2 old isEarlier newest
          (List.mem_singleton.mpr rfl)
        exact trans _ _ _ first (last newest isLast)
      · rw [List.mem_singleton.mp isNewest]
        exact last newest isLast
  exact ⟨above (fun _ _ _ => lt_trans) sound.increasing fun last isLast => (later last isLast).1,
    above (fun _ _ _ => le_trans) sound.growing fun last isLast => (later last isLast).2⟩

theorem Sound.step (sound : history.Sound) (call : Call) : (history.step instanceTick call).Sound := by
  have nothing : History.Sound ⟨[], none⟩ := ⟨List.Pairwise.nil, List.Pairwise.nil⟩
  cases call with
  | observeCounter total observedAt =>
    cases total with
    | none => exact sound
    | some total =>
      unfold History.step
      dsimp only
      split
      · exact sound
      · split
        next isLast =>
          refine sound.accept fun last some => ?_
          rw [isLast] at some
          cases some
        next last isLast =>
          split
          · exact sound
          next later =>
            split
            · exact ⟨List.pairwise_singleton _ _, List.pairwise_singleton _ _⟩
            next grown =>
              refine sound.accept fun other isOther => ?_
              cases Option.some.inj (isLast.symm.trans isOther)
              exact ⟨not_le.mp later, not_lt.mp grown⟩
  | observeDirect rate observedAt =>
    cases rate with
    | none => exact sound
    | some rate =>
      unfold History.step
      dsimp only
      split
      · exact sound
      · exact ⟨sound.increasing, sound.growing⟩
  | invalidate => exact nothing
  | snapshot now =>
    unfold History.step
    dsimp only
    split
    · exact sound
    · split
      · exact nothing
      · exact sound

theorem tracker_addSample
    (later : forall last, history.accepted.getLast? = some last -> last.time < sample.time) :
    (history.tracker instanceTick).addSample sample =
      (history.accept instanceTick sample).tracker instanceTick := by
  unfold Tracker.addSample
  have pushed : push (outside (history.tracker instanceTick).rateWindow)
      (history.tracker instanceTick).capacity (history.tracker instanceTick).samples sample =
      retained instanceTick (history.accepted ++ [sample]) := push_retained instanceTick later
  rw [pushed]
  unfold History.accept History.tracker
  dsimp only
  split
  next rate isRate =>
    rw [isRate]
    rfl
  next isNone =>
    rw [isNone]
    rfl

/-- Every call on the tracker is the call on what it knows. -/
theorem tracker_step (history : History) (call : Call) :
    Observation.step (history.tracker instanceTick) call =
      (history.step instanceTick call).tracker instanceTick := by
  cases call with
  | observeCounter total observedAt =>
    cases total with
    | none => rfl
    | some total =>
      have same : (history.tracker instanceTick).samples.getLast? = history.accepted.getLast? :=
        retained_getLast? instanceTick history.accepted
      unfold Observation.step Tracker.observeCounter History.step
      dsimp only
      rw [same]
      split
      · rfl
      · split
        next isLast =>
          refine tracker_addSample fun last some => ?_
          rw [isLast] at some
          cases some
        next last isLast =>
          split
          · rfl
          next later =>
            split
            · unfold History.tracker
              rw [retained_singleton]
              rfl
            · refine tracker_addSample fun other isOther => ?_
              cases Option.some.inj (isLast.symm.trans isOther)
              exact not_le.mp later
  | observeDirect rate observedAt =>
    cases rate with
    | none => rfl
    | some rate =>
      unfold Observation.step Tracker.observeDirect History.step
      dsimp only
      split <;> rfl
  | invalidate => rfl
  | snapshot now =>
    rcases history with ⟨accepted, latest⟩
    cases latest with
    | none => rfl
    | some latest =>
      rcases latest with ⟨value, observedAt⟩
      by_cases expired : observationValidity instanceTick < now - observedAt
      · have forgotten : (History.tracker instanceTick ⟨accepted, some (value, observedAt)⟩).snapshot now =
            ((History.tracker instanceTick ⟨accepted, some (value, observedAt)⟩).invalidate,
              (none, none)) := if_pos expired
        have step : History.step instanceTick ⟨accepted, some (value, observedAt)⟩ (.snapshot now) =
            ⟨[], none⟩ := if_pos expired
        rw [Observation.step, forgotten, step]
        rfl
      · have held : (History.tracker instanceTick ⟨accepted, some (value, observedAt)⟩).snapshot now =
            (History.tracker instanceTick ⟨accepted, some (value, observedAt)⟩, (some value,
              some ⟨observedAt, if observedAt = now then .fresh else .held⟩)) := if_neg expired
        have step : History.step instanceTick ⟨accepted, some (value, observedAt)⟩ (.snapshot now) =
            ⟨accepted, some (value, observedAt)⟩ := if_neg expired
        rw [Observation.step, held, step]

/-- What `snapshot` answers is what the history says. -/
theorem tracker_snapshot (history : History) (now : Rat) :
    ((history.tracker instanceTick).snapshot now).2 = history.answer instanceTick now := by
  rcases history with ⟨accepted, latest⟩
  cases latest with
  | none => rfl
  | some latest =>
    rcases latest with ⟨value, observedAt⟩
    show (if observationValidity instanceTick < now - observedAt then _ else _ :
      Tracker × (Option Rat × Option ObservationMetadata)).2 = if _ then _ else _
    by_cases expired : observationValidity instanceTick < now - observedAt
    · rw [if_pos expired, if_neg (not_le.mpr expired)]
    · rw [if_neg expired, if_pos (not_lt.mp expired)]
      simp only [eq_comm]

end History

/-- The tracker after any calls is that of what it was told. -/
theorem tracked_eq (instanceTick : Rat) (calls : List Call) :
    tracked instanceTick calls = (History.run instanceTick calls).tracker instanceTick := by
  have shown : forall history call, (fun _ => True) history ->
      step (History.tracker instanceTick history) call =
        History.tracker instanceTick (History.step instanceTick history call) :=
    fun history call _ => History.tracker_step history call
  show finalState step (History.tracker instanceTick ⟨[], none⟩) calls = _
  exact finalState_shown (History.tracker instanceTick) (fun _ _ _ => trivial) shown trivial calls

theorem History.run_sound (instanceTick : Rat) (calls : List Call) :
    (History.run instanceTick calls).Sound := by
  have empty : History.Sound ⟨[], none⟩ := ⟨List.Pairwise.nil, List.Pairwise.nil⟩
  have kept : forall history call, History.Sound history ->
      History.Sound (History.step instanceTick history call) :=
    fun _ call sound => sound.step call
  exact invariant_of_every_step kept empty calls

/-! ## Rates -/

theorem rateOver_some {samples : List Sample} {rate : Rat}
    (isRate : rateOver samples newest = some rate) : exists oldest second rest,
      samples = oldest :: second :: rest ∧
      0 < numMilliseconds (newest.time - oldest.time) ∧
      rate = (newest.total - oldest.total) /
        ((numMilliseconds (newest.time - oldest.time) : Rat) / 1000) ∧
      0 ≤ rate := by
  unfold rateOver at isRate
  split at isRate
  next oldest second rest =>
    dsimp only at isRate
    split at isRate
    next spans =>
      split at isRate
      next nonneg =>
        cases isRate
        exact ⟨oldest, second, rest, rfl, spans, rfl, nonneg⟩
      next => cases isRate
    next => cases isRate
  next => cases isRate

theorem rateOver_none {samples : List Sample} {oldest : Sample}
    (isOldest : samples.head? = some oldest) (isNewest : samples.getLast? = some newest)
    (growing : samples.Pairwise (Sample.total · ≤ Sample.total ·))
    (isNone : rateOver samples newest = none) :
    numMilliseconds (newest.time - oldest.time) ≤ 0 := by
  match samples, isOldest with
  | [only], rfl =>
    cases isNewest
    have still : only.time - only.time = 0 := sub_self only.time
    show numMilliseconds (only.time - only.time) ≤ 0
    rw [still]
    decide +kernel
  | first :: second :: rest, rfl =>
    by_contra spans
    rw [not_le] at spans
    have grown : first.total ≤ newest.total := by
      rw [List.getLast?_cons_cons] at isNewest
      exact (List.pairwise_cons.mp growing).1 newest (List.mem_of_getLast? isNewest)
    have positive : (0 : Rat) < (numMilliseconds (newest.time - first.time) : Rat) / 1000 :=
      div_pos (Int.cast_pos.mpr spans) (by norm_num)
    have nonneg := div_nonneg (sub_nonneg.mpr grown) positive.le
    unfold rateOver at isNone
    dsimp only at isNone
    rw [if_pos spans, if_pos nonneg] at isNone
    cases isNone

/-- What a counter sample comes to: the value is kept, or given up after a reset,
or computed from the oldest sample retained. -/
inductive CounterOutcome (before after : Tracker) (total : Option Rat) (observedAt : Rat) : Prop
  | kept (value : after.currentValue = before.currentValue)
      (time : after.lastObservedAt = before.lastObservedAt)
      (idle : after = before ∨ forall oldest, after.samples.head? = some oldest ->
        numMilliseconds (observedAt - oldest.time) ≤ 0)
  | reset (newest : Rat) (isTotal : total = some newest) (value : after.currentValue = none)
      (time : after.lastObservedAt = none) (samples : after.samples = [⟨observedAt, newest⟩])
      (lower : exists last, before.samples.getLast? = some last ∧ newest < last.total)
  | produced (newest rate : Rat) (oldest : Sample) (isTotal : total = some newest)
      (isOldest : after.samples.head? = some oldest)
      (isNewest : after.samples.getLast? = some ⟨observedAt, newest⟩)
      (isRate : rate = (newest - oldest.total) /
        ((numMilliseconds (observedAt - oldest.time) : Rat) / 1000))
      (value : after.currentValue = some rate) (time : after.lastObservedAt = some observedAt)
      (nonneg : 0 ≤ rate)
      (steep : exists early late, [early, late] <:+: after.samples ∧
        rate * ((numMilliseconds (observedAt - oldest.time) : Rat) / 1000) ≤
          slope Sample.time Sample.total early late * (observedAt - oldest.time))

namespace History

variable {instanceTick : Rat} {history : History}

theorem retained_increasing (sound : history.Sound) :
    (retained instanceTick history.accepted).Pairwise (Sample.time · < Sample.time ·) :=
  sound.increasing.sublist (recent_suffix history.accepted).sublist

theorem accept_outcome (sound : (history.accept instanceTick sample).Sound) :
    CounterOutcome (history.tracker instanceTick)
      ((history.accept instanceTick sample).tracker instanceTick) (some sample.total) sample.time := by
  have isNewest : (retained instanceTick (history.accepted ++ [sample])).getLast? = some sample := by
    rw [retained_getLast?]
    exact List.getLast?_concat
  have increasing : (retained instanceTick (history.accepted ++ [sample])).Pairwise
      (Sample.time · < Sample.time ·) := retained_increasing sound
  have growing : (retained instanceTick (history.accepted ++ [sample])).Pairwise
      (Sample.total · ≤ Sample.total ·) :=
    sound.growing.sublist (recent_suffix _).sublist
  cases rate : rateOver (retained instanceTick (history.accepted ++ [sample])) sample with
  | none =>
    have same : (history.accept instanceTick sample).latest = history.latest := by
      unfold History.accept
      rw [rate]
      rfl
    refine .kept (congrArg (Option.map Prod.fst) same) (congrArg (Option.map Prod.snd) same)
      (Or.inr fun oldest isOldest => rateOver_none isOldest isNewest growing rate)
  | some rate' =>
    have latest : (history.accept instanceTick sample).latest = some (rate', sample.time) := by
      unfold History.accept
      rw [rate]
      rfl
    rcases rateOver_some rate with ⟨oldest, second, rest, samples, spans, isRate, nonneg⟩
    have isOldest : (retained instanceTick (history.accepted ++ [sample])).head? = some oldest := by
      rw [samples]
      rfl
    have two : 2 ≤ (retained instanceTick (history.accepted ++ [sample])).length := by
      rw [samples]
      exact Nat.le_add_left 2 rest.length
    have later : oldest.time < sample.time := by
      rw [samples] at increasing isNewest
      rw [List.getLast?_cons_cons] at isNewest
      exact (List.pairwise_cons.mp increasing).1 sample (List.mem_of_getLast? isNewest)
    rcases exists_steep Sample.time Sample.total increasing isOldest isNewest two with
      ⟨early, late, inside, steep⟩
    refine .produced sample.total rate' oldest rfl isOldest isNewest isRate
      (congrArg (Option.map Prod.fst) latest) (congrArg (Option.map Prod.snd) latest) nonneg
      ⟨early, late, inside, ?_⟩
    have positive : (0 : Rat) < (numMilliseconds (sample.time - oldest.time) : Rat) / 1000 :=
      div_pos (Int.cast_pos.mpr spans) (by norm_num)
    have span : 0 < sample.time - oldest.time := sub_pos.mpr later
    calc rate' * ((numMilliseconds (sample.time - oldest.time) : Rat) / 1000)
        = sample.total - oldest.total := by rw [isRate, div_mul_cancel₀ _ positive.ne']
      _ = slope Sample.time Sample.total oldest sample * (sample.time - oldest.time) :=
          (div_mul_cancel₀ _ span.ne').symm
      _ ≤ slope Sample.time Sample.total early late * (sample.time - oldest.time) :=
          mul_le_mul_of_nonneg_right steep span.le

theorem observeCounter_outcome (sound : history.Sound) (total : Option Rat) (observedAt : Rat) :
    CounterOutcome (history.tracker instanceTick)
      ((history.tracker instanceTick).observeCounter total observedAt) total observedAt := by
  have shown := @tracker_step instanceTick history (.observeCounter total observedAt)
  have next : (history.step instanceTick (.observeCounter total observedAt)).Sound := sound.step _
  have unchanged : CounterOutcome (history.tracker instanceTick) (history.tracker instanceTick) total
      observedAt := .kept rfl rfl (Or.inl rfl)
  show CounterOutcome _ (Observation.step (history.tracker instanceTick)
    (.observeCounter total observedAt)) total observedAt
  rw [shown]
  cases total with
  | none => exact unchanged
  | some total =>
    unfold History.step at next ⊢
    dsimp only at next ⊢
    split
    next => exact unchanged
    next notNegative =>
      rw [if_neg notNegative] at next
      split
      next isLast =>
        rw [isLast] at next
        exact accept_outcome next
      next last isLast =>
        rw [isLast] at next
        dsimp only at next
        split
        next => exact unchanged
        next later =>
          rw [if_neg later] at next
          split
          next lower =>
            refine .reset total rfl rfl rfl (retained_singleton _ _) ⟨last, ?_, lower⟩
            exact (retained_getLast? instanceTick history.accepted).trans isLast
          next grown =>
            rw [if_neg grown] at next
            exact accept_outcome next

end History

/-! ## What is discarded -/

/-- A call that discards what was sampled: a lower total, an invalidation, or a
snapshot after the value has expired. -/
def discards (tracker : Tracker) : Call -> Bool
  | .observeCounter (some total) observedAt =>
      0 ≤ total && tracker.samples.getLast?.any fun back => back.time < observedAt && total < back.total
  | .invalidate => true
  | .snapshot now => tracker.currentValue.isSome &&
      tracker.lastObservedAt.any fun observedAt => tracker.validity < now - observedAt
  | _ => false

/-- The sample that a call brings. -/
def sampled : Call -> Option Sample
  | .observeCounter (some total) observedAt => some ⟨observedAt, total⟩
  | _ => none

variable {kept : Sample}

theorem mem_addSample {tracker : Tracker} {added : Sample}
    (member : kept ∈ (tracker.addSample added).samples) :
    kept ∈ tracker.samples ∨ kept = added := by
  have samples : (tracker.addSample added).samples =
      push (outside tracker.rateWindow) tracker.capacity tracker.samples added := by
    unfold Tracker.addSample
    dsimp only
    split <;> rfl
  exact mem_push (samples ▸ member)

/-- A call keeps samples and brings its own, and one that discards keeps none. -/
theorem mem_step {tracker : Tracker} {call : Call} (member : kept ∈ (step tracker call).samples) :
    sampled call = some kept ∨ (kept ∈ tracker.samples ∧ discards tracker call = false) := by
  cases call with
  | observeCounter total observedAt =>
    cases total with
    | none => exact Or.inr ⟨member, rfl⟩
    | some total =>
      unfold step Tracker.observeCounter at member
      unfold sampled discards
      dsimp only at member ⊢
      split at member
      next negative =>
        refine Or.inr ⟨member, ?_⟩
        rw [decide_eq_false (not_le.mpr negative)]
        rfl
      next =>
        have added (isAdded : kept ∈ (tracker.addSample ⟨observedAt, total⟩).samples) :
            kept ∈ tracker.samples ∨ some (⟨observedAt, total⟩ : Sample) = some kept :=
          (mem_addSample isAdded).imp_right fun isOwn => congrArg some isOwn.symm
        split at member
        next isLast =>
          rcases added member with older | own
          · rw [List.getLast?_eq_none_iff.mp isLast] at older
            cases older
          · exact Or.inl own
        next last isLast =>
          rw [isLast]
          split at member
          next early =>
            refine Or.inr ⟨member, ?_⟩
            simp [not_lt.mpr early]
          next =>
            split at member
            next => exact Or.inl (congrArg some (List.mem_singleton.mp member).symm)
            next grown =>
              rcases added member with older | own
              · refine Or.inr ⟨older, ?_⟩
                simp [grown]
              · exact Or.inl own
  | observeDirect rate observedAt =>
    refine Or.inr ⟨?_, rfl⟩
    have samples : (step tracker (.observeDirect rate observedAt)).samples = tracker.samples := by
      unfold step Tracker.observeDirect
      cases rate with
      | none => rfl
      | some rate =>
        dsimp only
        split <;> rfl
    exact samples ▸ member
  | invalidate => cases member
  | snapshot now =>
    unfold step Tracker.snapshot at member
    unfold discards
    dsimp only at member ⊢
    split at member
    next value observedAt isValue isTime =>
      rw [isValue, isTime]
      split at member
      next => cases member
      next held => exact Or.inr ⟨member, decide_eq_false held⟩
    next notBoth =>
      refine Or.inr ⟨member, ?_⟩
      cases isValue : tracker.currentValue with
      | none => rfl
      | some value =>
        cases isTime : tracker.lastObservedAt with
        | none => rfl
        | some observedAt => exact absurd isTime (notBoth value observedAt isValue)

theorem mem_run {start : Tracker} {calls : List Call}
    (member : kept ∈ (finalState step start calls).samples) :
    kept ∈ start.samples ∨ kept ∈ calls.filterMap sampled := by
  induction calls generalizing start with
  | nil => exact Or.inl member
  | cons call rest ih =>
    rw [List.mem_filterMap]
    rcases ih member with now | later
    · rcases mem_step now with own | ⟨older, _⟩
      · exact Or.inr ⟨call, List.mem_cons_self, own⟩
      · exact Or.inl older
    · rcases List.mem_filterMap.mp later with ⟨other, isOther, own⟩
      exact Or.inr ⟨other, List.mem_cons_of_mem call isOther, own⟩

/-- Nothing is retained from before something was discarded. -/
theorem samples_since (instanceTick : Rat) (before after : List Call) (call : Call)
    (isDiscarded : discards (tracked instanceTick before) call = true) :
    forall kept, kept ∈ (tracked instanceTick (before ++ call :: after)).samples ->
      kept ∈ (call :: after).filterMap sampled := by
  intro kept member
  unfold tracked at member isDiscarded
  rw [finalState_append] at member
  have fromCall : kept ∈ (finalState step (step (finalState step (Tracker.new instanceTick) before)
    call) after).samples := member
  rw [List.mem_filterMap]
  rcases mem_run fromCall with now | later
  · rcases mem_step now with own | ⟨_, keeps⟩
    · exact ⟨call, List.mem_cons_self, own⟩
    · rw [isDiscarded] at keeps
      cases keeps
  · rcases List.mem_filterMap.mp later with ⟨other, isOther, own⟩
    exact ⟨other, List.mem_cons_of_mem call isOther, own⟩

/-! ## What holds after any calls -/

structure Tracked (instanceTick : Rat) (calls : List Call) : Prop where
  /-- The tracker is that of all it was told. -/
  known : tracked instanceTick calls = (History.run instanceTick calls).tracker instanceTick
  increasing : (tracked instanceTick calls).samples.Pairwise (Sample.time · < Sample.time ·)
  bounded : (tracked instanceTick calls).samples.length ≤
    deriveCapacity (rateWindow instanceTick) instanceTick
  within : forall newest, (tracked instanceTick calls).samples.getLast? = some newest ->
    forall sample, sample ∈ (tracked instanceTick calls).samples ->
      newest.time - sample.time ≤ rateWindow instanceTick
  since : forall before call after, calls = before ++ call :: after ->
    discards (tracked instanceTick before) call = true ->
    forall sample, sample ∈ (tracked instanceTick calls).samples ->
      sample ∈ (call :: after).filterMap sampled
  counter : forall total observedAt, CounterOutcome (tracked instanceTick calls)
    (tracked instanceTick (calls ++ [Call.observeCounter total observedAt])) total observedAt
  answer : forall now, ((tracked instanceTick calls).snapshot now).2 =
    (History.run instanceTick calls).answer instanceTick now
  both : (tracked instanceTick calls).currentValue.isSome =
    (tracked instanceTick calls).lastObservedAt.isSome

/-- The tracker does what it is for, whatever it is told. -/
theorem tracker_meets_spec (instanceTick : Rat) (calls : List Call) :
    Tracked instanceTick calls := by
  have known := tracked_eq instanceTick calls
  have sound := History.run_sound instanceTick calls
  refine ⟨known, ?_, ?_, ?_, ?_, ?_, ?_, ?_⟩
  · rw [known]
    exact History.retained_increasing sound
  · rw [known]
    exact recent_length_le _
  · rw [known]
    intro newest isNewest sample member
    have isLast : (History.run instanceTick calls).accepted.getLast? = some newest :=
      (retained_getLast? _ _).symm.trans isNewest
    have current := recent_current isLast (sound.increasing.imp fun older isOutside =>
      decide_eq_true ((of_decide_eq_true isOutside).trans (sub_lt_sub_left older newest.time)))
      sample member
    exact not_lt.mp (of_decide_eq_false current)
  · rintro before call after rfl isDiscarded
    exact samples_since instanceTick before after call isDiscarded
  · intro total observedAt
    have next : tracked instanceTick (calls ++ [Call.observeCounter total observedAt]) =
        (tracked instanceTick calls).observeCounter total observedAt := finalState_append _ _ _
    rw [next, known]
    exact History.observeCounter_outcome sound total observedAt
  · intro now
    rw [known]
    exact History.tracker_snapshot _ now
  · rw [known]
    cases latest : (History.run instanceTick calls).latest <;> simp [History.tracker, latest]

/-- Two samples that are one and a half milliseconds apart: the rate is that of
one millisecond. -/
theorem rate_above_every_slope :
    ¬ forall instanceTick calls total observedAt rate,
      (tracked instanceTick (calls ++ [Call.observeCounter (some total) observedAt])).currentValue =
        some rate ->
      (tracked instanceTick
        (calls ++ [Call.observeCounter (some total) observedAt])).lastObservedAt =
          some observedAt ->
      exists early late,
        [early, late] <:+: (tracked instanceTick
          (calls ++ [Call.observeCounter (some total) observedAt])).samples ∧
        rate ≤ slope Sample.time Sample.total early late := by
  intro always
  rcases always 1 [.observeCounter (some 0) 0] 3 (3 / 2000) 3000 (by decide +kernel)
    (by decide +kernel) with ⟨early, late, inside, steep⟩
  have samples : (tracked 1 ([Call.observeCounter (some 0) 0] ++
      [Call.observeCounter (some 3) (3 / 2000)])).samples = [⟨0, 0⟩, ⟨3 / 2000, 3⟩] := by
    decide +kernel
  rw [samples] at inside
  have same : [early, late] = [⟨0, 0⟩, ⟨3 / 2000, 3⟩] := inside.eq_of_length rfl
  cases same
  unfold SlidingWindow.slope at steep
  norm_num at steep

end Observation
end RocmCli
