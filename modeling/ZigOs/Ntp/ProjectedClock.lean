/-
This file models the clock that the time service sets. The clock remembers a time, the tick
at which it was right and a tick rate, and reads any later tick forward from there. Its
arithmetic is exact and stays within its widths, so the times that are read follow the
ticks, also over responses that set the clock anew.
-/

import Mathlib.Algebra.Group.Nat.Defs
import Mathlib.Tactic.ByContra
import ZigOs.Lib.Checked
import ZigOs.Lib.Outcome

namespace ZigOs.Ntp

open Checked List

structure UnixTime where
  seconds : UInt64
  fraction : UInt32
  deriving DecidableEq, Repr

inductive ClockApplyResult where
  | accepted | stale
  deriving DecidableEq, Repr

structure Clock where
  synchronized : Bool := false
  unixSeconds : UInt64 := 0
  unixFraction : UInt32 := 0
  stratum : UInt8 := 0
  referenceId : List UInt8 := [0, 0, 0, 0]
  acceptedSamples : Nat := 0
  staleSamples : Nat := 0
  deriving DecidableEq, Repr

structure ProjectedClock where
  clock : Clock := {}
  anchorTick : UInt64 := 0
  ticksPerSecond : UInt64 := 0
  deriving DecidableEq, Repr

/-- What the clock takes from a response. -/
structure Response where
  stratum : UInt8 := 0
  referenceId : List UInt8 := [0, 0, 0, 0]
  unixSeconds : UInt64
  unixFraction : UInt32
  deriving DecidableEq, Repr

def Response.time (response : Response) : UnixTime := ⟨response.unixSeconds, response.unixFraction⟩

def timeAfter (candidate current : UnixTime) : Bool :=
  current.seconds < candidate.seconds ||
    (candidate.seconds == current.seconds && current.fraction < candidate.fraction)

/-- An addition of counters stops at the last value. -/
def saturatingIncrement (count : Nat) : Nat := min (count + 1) (2 ^ 64 - 1)

def readProjectedClockAt (projected : ProjectedClock) (currentTick : UInt64) :
    Outcome (Option UnixTime) :=
  if projected.clock.synchronized = false ∨ projected.ticksPerSecond = 0 ∨
      currentTick < projected.anchorTick then .ok none
  else
    sub currentTick.toNat projected.anchorTick.toNat >>= fun elapsedTicks =>
    let elapsedSeconds := elapsedTicks / projected.ticksPerSecond.toNat
    let remainderTicks := elapsedTicks % projected.ticksPerSecond.toNat
    fit 64 (remainderTicks * 2 ^ 32 % 2 ^ 128 / projected.ticksPerSecond.toNat) >>= fun increment =>
    add 64 projected.clock.unixFraction.toNat increment >>= fun fractionSum =>
    let totalIncrement := min (elapsedSeconds + fractionSum / 2 ^ 32) (2 ^ 64 - 1)
    if 2 ^ 64 - 1 - projected.clock.unixSeconds.toNat < totalIncrement then .ok none
    else
      add 64 projected.clock.unixSeconds.toNat totalIncrement >>= fun seconds =>
      .ok (some ⟨UInt64.ofNat seconds, UInt32.ofNat fractionSum⟩)

def ProjectedClock.markStale (projected : ProjectedClock) : ProjectedClock :=
  { projected with
    clock := { projected.clock with staleSamples := saturatingIncrement projected.clock.staleSamples } }

def ProjectedClock.setTo (projected : ProjectedClock) (response : Response)
    (monotonicTick ticksPerSecond : UInt64) : ProjectedClock where
  clock :=
    { projected.clock with
      synchronized := true
      unixSeconds := response.unixSeconds
      unixFraction := response.unixFraction
      stratum := response.stratum
      referenceId := response.referenceId
      acceptedSamples := saturatingIncrement projected.clock.acceptedSamples }
  anchorTick := monotonicTick
  ticksPerSecond

def applyResponseAt (projected : ProjectedClock) (response : Response)
    (monotonicTick ticksPerSecond : UInt64) : Outcome (Option ClockApplyResult × ProjectedClock) :=
  if ticksPerSecond = 0 then .ok (none, projected)
  else if projected.clock.synchronized then
    readProjectedClockAt projected monotonicTick >>= fun current =>
    .ok (current.elim (none, projected) fun current =>
      if timeAfter response.time current then
        (some .accepted, projected.setTo response monotonicTick ticksPerSecond)
      else (some .stale, projected.markStale))
  else .ok (some .accepted, projected.setTo response monotonicTick ticksPerSecond)

/-! ### Times as numbers -/

/-- A time in units of the fraction. -/
def UnixTime.units (time : UnixTime) : Nat := time.seconds.toNat * 2 ^ 32 + time.fraction.toNat

def UnixTime.ofUnits (units : Nat) : UnixTime := ⟨UInt64.ofNat (units / 2 ^ 32), UInt32.ofNat units⟩

theorem UnixTime.units_ofUnits {units : Nat} (fits : units < 2 ^ 96) :
    (ofUnits units).units = units := by
  show (UInt64.ofNat (units / 2 ^ 32)).toNat * 2 ^ 32 + (UInt32.ofNat units).toNat = units
  rw [UInt64.toNat_ofNat', UInt32.toNat_ofNat', Nat.mod_eq_of_lt (by omega)]
  omega

theorem timeAfter_iff {candidate current : UnixTime} :
    timeAfter candidate current = true ↔ current.units < candidate.units := by
  have first := current.fraction.toNat_lt
  have second := candidate.fraction.toNat_lt
  unfold timeAfter UnixTime.units
  rw [Bool.or_eq_true, Bool.and_eq_true, beq_iff_eq, decide_eq_true_iff, decide_eq_true_iff,
    UInt64.lt_iff_toNat_lt, UInt32.lt_iff_toNat_lt, ← UInt64.toNat_inj]
  omega

namespace ProjectedClock

/-- The time the clock was set to. -/
def anchor (projected : ProjectedClock) : UnixTime :=
  ⟨projected.clock.unixSeconds, projected.clock.unixFraction⟩

/-- The clock is set, runs, and was set by the given tick. -/
structure Running (projected : ProjectedClock) (tick : UInt64) : Prop where
  synchronized : projected.clock.synchronized = true
  rate : 0 < projected.ticksPerSecond.toNat
  reached : projected.anchorTick.toNat ≤ tick.toNat

/-- The time at a tick, in units. -/
def unitsAt (projected : ProjectedClock) (tick : UInt64) : Nat :=
  projected.anchor.units +
    (tick.toNat - projected.anchorTick.toNat) * 2 ^ 32 / projected.ticksPerSecond.toNat

variable {projected : ProjectedClock} {tick later : UInt64}

theorem unitsAt_mono (ordered : tick.toNat ≤ later.toNat) :
    projected.unitsAt tick ≤ projected.unitsAt later :=
  Nat.add_le_add_left (Nat.div_le_div_right (Nat.mul_le_mul_right _ (by omega))) _

end ProjectedClock

section Read

variable {projected : ProjectedClock} {tick : UInt64}

/-- Whole seconds and the rest of the ticks make up the exact product. -/
theorem scaled_eq {elapsed rate : Nat} (positive : 0 < rate) :
    elapsed * 2 ^ 32 / rate = elapsed / rate * 2 ^ 32 + elapsed % rate * 2 ^ 32 / rate := by
  have whole : elapsed * 2 ^ 32 = rate * (elapsed / rate * 2 ^ 32) + elapsed % rate * 2 ^ 32 := by
    rw [← Nat.mul_assoc, ← Nat.add_mul, Nat.div_add_mod]
  rw [whole, Nat.mul_add_div positive]

/-- The seconds cannot be all used up and still be owed a carry. -/
theorem seconds_add_carry_lt {elapsed rate fraction : Nat} (elapsedFits : elapsed < 2 ^ 64)
    (positive : 0 < rate) (fractionFits : fraction < 2 ^ 32)
    (increment : elapsed % rate * 2 ^ 32 / rate < 2 ^ 32) :
    elapsed / rate + (fraction + elapsed % rate * 2 ^ 32 / rate) / 2 ^ 32 < 2 ^ 64 := by
  rcases Nat.lt_or_ge 1 rate with several | one
  · have half : elapsed / rate ≤ elapsed / 2 := Nat.div_le_div_left several (by decide)
    omega
  · obtain rfl : rate = 1 := by omega
    rw [Nat.mod_one, Nat.div_one, Nat.zero_mul, Nat.zero_div]
    omega

theorem readProjectedClockAt_idle (idle : ¬projected.Running tick) :
    readProjectedClockAt projected tick = .ok none := by
  refine if_pos ?_
  by_contra working
  simp only [not_or, Bool.not_eq_false, UInt64.not_lt] at working
  refine idle ⟨working.1, Nat.pos_of_ne_zero fun zero => working.2.1 ?_, working.2.2⟩
  exact UInt64.toNat_inj.mp zero

/-- The clock reads the exact time, rounded down, as long as the seconds fit. -/
theorem readProjectedClockAt_running (running : projected.Running tick) :
    readProjectedClockAt projected tick =
      .ok (if projected.unitsAt tick < 2 ^ 96 then some (.ofUnits (projected.unitsAt tick))
        else none) := by
  obtain ⟨synchronized, positive, reached⟩ := running
  have tickFits := tick.toNat_lt
  have rateFits := projected.ticksPerSecond.toNat_lt
  have secondsFit := projected.clock.unixSeconds.toNat_lt
  have fractionFits := projected.clock.unixFraction.toNat_lt
  have scaled := @scaled_eq (tick.toNat - projected.anchorTick.toNat) _ positive
  have remainder := Nat.mod_lt (tick.toNat - projected.anchorTick.toNat) positive
  have incrementFits : (tick.toNat - projected.anchorTick.toNat) %
      projected.ticksPerSecond.toNat * 2 ^ 32 / projected.ticksPerSecond.toNat < 2 ^ 32 :=
    Nat.div_lt_of_lt_mul (Nat.mul_lt_mul_of_pos_right remainder (by decide))
  have unsaturated := seconds_add_carry_lt (show tick.toNat - projected.anchorTick.toNat < 2 ^ 64
    by omega) positive fractionFits incrementFits
  have exactly : projected.unitsAt tick = projected.clock.unixSeconds.toNat * 2 ^ 32 +
      projected.clock.unixFraction.toNat +
      (tick.toNat - projected.anchorTick.toNat) * 2 ^ 32 / projected.ticksPerSecond.toNat := rfl
  have working : ¬(projected.clock.synchronized = false ∨ projected.ticksPerSecond = 0 ∨
      tick < projected.anchorTick) := by
    rintro (unset | stopped | early)
    · rw [synchronized] at unset
      cases unset
    · rw [stopped] at positive
      cases positive
    · exact absurd (UInt64.lt_iff_toNat_lt.mp early) (Nat.not_lt.mpr reached)
  unfold readProjectedClockAt
  rw [if_neg working, sub_bind reached]
  dsimp only
  rw [Nat.mod_eq_of_lt (show _ * 2 ^ 32 < 2 ^ 128 by omega), fit,
    if_pos (show _ < 2 ^ 64 by omega), Except.ok_bind, add_bind (by omega)]
  rw [scaled] at exactly
  generalize (tick.toNat - projected.anchorTick.toNat) / projected.ticksPerSecond.toNat = whole
    at exactly unsaturated ⊢
  generalize (tick.toNat - projected.anchorTick.toNat) % projected.ticksPerSecond.toNat * 2 ^ 32 /
    projected.ticksPerSecond.toNat = increment at exactly unsaturated incrementFits ⊢
  rw [Nat.min_eq_left (by omega)]
  by_cases fits : projected.unitsAt tick < 2 ^ 96
  · rw [if_neg (by omega), if_pos fits, add_bind (by omega), exactly]
    refine congrArg (fun time => Except.ok (some time)) ?_
    show UnixTime.mk _ _ = UnixTime.mk _ _
    congr 1
    · congr 1
      omega
    · refine UInt32.toNat_inj.mp ?_
      rw [UInt32.toNat_ofNat', UInt32.toNat_ofNat']
      omega
  · rw [if_pos (by omega), if_neg fits]

theorem readProjectedClockAt_ok (projected : ProjectedClock) (tick : UInt64) :
    ∃ time, readProjectedClockAt projected tick = .ok time := by
  by_cases running : projected.Running tick
  · exact ⟨_, readProjectedClockAt_running running⟩
  · exact ⟨_, readProjectedClockAt_idle running⟩

theorem units_of_read {time : UnixTime}
    (read : readProjectedClockAt projected tick = .ok (some time)) :
    projected.Running tick ∧ time.units = projected.unitsAt tick := by
  by_cases running : projected.Running tick
  · rw [readProjectedClockAt_running running] at read
    split at read
    · rename_i fits
      cases read
      exact ⟨running, UnixTime.units_ofUnits fits⟩
    · cases read
  · rw [readProjectedClockAt_idle running] at read
    cases read

end Read

/-! ### Runs -/

/-- What is asked of the clock, and at which tick. -/
inductive Request where
  | read (tick : UInt64)
  | apply (tick : UInt64) (response : Response) (ticksPerSecond : UInt64)

def Request.tick : Request → UInt64
  | read tick => tick
  | apply tick _ _ => tick

inductive Reply where
  | time (time : Option UnixTime)
  | applied (result : Option ClockApplyResult)

def perform (projected : ProjectedClock) : Request → Outcome (Reply × ProjectedClock)
  | .read tick => (fun time => (.time time, projected)) <$> readProjectedClockAt projected tick
  | .apply tick response ticksPerSecond =>
    (fun done => (.applied done.1, done.2)) <$>
      applyResponseAt projected response tick ticksPerSecond

structure Step where
  before : ProjectedClock
  request : Request
  reply : Reply
  after : ProjectedClock

def run (projected : ProjectedClock) : List Request → Outcome (List Step)
  | [] => .ok []
  | request :: rest =>
    perform projected request >>= fun done =>
    (fun steps => ⟨projected, request, done.1, done.2⟩ :: steps) <$> run done.2 rest

/-- The time that a step reads. -/
def Step.timeRead (step : Step) : Option UnixTime :=
  match step.reply with
  | .time time => time
  | .applied _ => none

namespace ProjectedClock

/-- The same time, anchor and rate. -/
def SameTime (before after : ProjectedClock) : Prop :=
  after.anchor = before.anchor ∧ after.anchorTick = before.anchorTick ∧
    after.ticksPerSecond = before.ticksPerSecond ∧
    after.clock.synchronized = before.clock.synchronized

/-- From a tick on the clock reads no time before the given one. -/
def NotBefore (projected : ProjectedClock) (tick : UInt64) (units : Nat) : Prop :=
  (projected.clock.synchronized = false → units = 0) ∧
    ∀ later, tick.toNat ≤ later.toNat → projected.Running later → units ≤ projected.unitsAt later

end ProjectedClock

/-- What one step does to the clock. -/
inductive Step.Sound (step : Step) : Prop where
  | read (time : Option UnixTime) (asked : step.request = .read step.request.tick)
    (reads : readProjectedClockAt step.before step.request.tick = .ok time)
    (replied : step.reply = .time time) (same : step.after = step.before)
  | accepted (response : Response) (rate : UInt64) (positive : 0 < rate.toNat)
    (asked : step.request = .apply step.request.tick response rate)
    (later : step.before.clock.synchronized = true → step.before.Running step.request.tick ∧
      step.before.unitsAt step.request.tick < response.time.units)
    (replied : step.reply = .applied (some .accepted))
    (set : step.after = step.before.setTo response step.request.tick rate)
  | declined (result : Option ClockApplyResult) (declines : result ≠ some .accepted)
    (replied : step.reply = .applied result) (same : step.before.SameTime step.after)

section Sound

variable {projected : ProjectedClock}

theorem perform_sound (projected : ProjectedClock) (request : Request) :
    ∃ reply after, perform projected request = .ok (reply, after) ∧
      Step.Sound ⟨projected, request, reply, after⟩ := by
  have same : projected.SameTime projected := ⟨rfl, rfl, rfl, rfl⟩
  cases request with
  | read tick =>
    obtain ⟨time, read⟩ := readProjectedClockAt_ok projected tick
    refine ⟨.time time, projected, ?_, .read time rfl read rfl rfl⟩
    rw [perform, read]
    rfl
  | apply tick response ticksPerSecond =>
    by_cases zero : ticksPerSecond = 0
    · refine ⟨.applied none, projected, ?_, .declined none (by decide) rfl same⟩
      rw [perform, applyResponseAt, if_pos zero]
      rfl
    have positive : 0 < ticksPerSecond.toNat :=
      Nat.pos_of_ne_zero fun none => zero (UInt64.toNat_inj.mp none)
    by_cases synchronized : projected.clock.synchronized = true
    · obtain ⟨current, read⟩ := readProjectedClockAt_ok projected tick
      have applied : applyResponseAt projected response tick ticksPerSecond = .ok
          (current.elim (none, projected) fun current =>
            if timeAfter response.time current then
              (some .accepted, projected.setTo response tick ticksPerSecond)
            else (some .stale, projected.markStale)) := by
        rw [applyResponseAt, if_neg zero, if_pos synchronized, read]
        rfl
      rw [perform, applied]
      cases current with
      | none => exact ⟨.applied none, projected, rfl, .declined none (by decide) rfl same⟩
      | some current =>
        obtain ⟨running, units⟩ := units_of_read read
        rw [Option.elim_some]
        by_cases after : timeAfter response.time current = true
        · rw [if_pos after]
          refine ⟨_, _, rfl, .accepted response ticksPerSecond positive rfl (fun _ => ⟨running, ?_⟩) rfl
            rfl⟩
          show projected.unitsAt tick < response.time.units
          rw [← units]
          exact timeAfter_iff.mp after
        · rw [if_neg after]
          exact ⟨_, _, rfl, .declined (some .stale) (by decide) rfl ⟨rfl, rfl, rfl, rfl⟩⟩
    · refine ⟨.applied (some .accepted), projected.setTo response tick ticksPerSecond, ?_,
        .accepted response ticksPerSecond positive rfl (fun set => absurd set synchronized) rfl rfl⟩
      rw [perform, applyResponseAt, if_neg zero, if_neg synchronized]
      rfl

theorem ProjectedClock.unitsAt_congr {before after : ProjectedClock} (same : before.SameTime after)
    (tick : UInt64) : after.unitsAt tick = before.unitsAt tick ∧
      (after.Running tick → before.Running tick) := by
  obtain ⟨anchor, anchorTick, rate, synchronized⟩ := same
  unfold unitsAt
  rw [anchor, anchorTick, rate]
  exact ⟨rfl, fun running => ⟨synchronized ▸ running.1, rate ▸ running.2, anchorTick ▸ running.3⟩⟩

/-- A step reads no time before the bound, and leaves a bound that no later time is before. -/
theorem Step.Sound.notBefore {step : Step} {tick : UInt64} {units : Nat} (sound : step.Sound)
    (bound : step.before.NotBefore tick units) (ordered : tick.toNat ≤ step.request.tick.toNat) :
    ∃ next, units ≤ next ∧ (∀ time ∈ step.timeRead, time.units = next) ∧
      step.after.NotBefore step.request.tick next := by
  have still {after : ProjectedClock} (same : step.before.SameTime after) :
      after.NotBefore step.request.tick units := by
    refine ⟨fun unset => bound.1 (same.2.2.2 ▸ unset), fun later reached running => ?_⟩
    obtain ⟨unitsSame, runs⟩ := ProjectedClock.unitsAt_congr same later
    rw [unitsSame]
    exact bound.2 later (Nat.le_trans ordered reached) (runs running)
  have silent (result : Option ClockApplyResult) (replied : step.reply = .applied result) :
      step.timeRead = none := by
    rw [Step.timeRead, replied]
  cases sound with
  | read time asked reads replied same =>
    rw [same]
    have isRead : step.timeRead = time := by
      rw [Step.timeRead, replied]
    cases time with
    | none => exact ⟨units, Nat.le_refl _, by simp [isRead], still ⟨rfl, rfl, rfl, rfl⟩⟩
    | some time =>
      obtain ⟨running, timeUnits⟩ := units_of_read reads
      refine ⟨time.units, ?_, by simp [isRead], fun unset => ?_, fun later reached _ => ?_⟩
      · rw [timeUnits]
        exact bound.2 _ ordered running
      · rw [running.synchronized] at unset
        cases unset
      · rw [timeUnits]
        exact ProjectedClock.unitsAt_mono reached
  | accepted response rate positive asked later replied set =>
    refine ⟨units, Nat.le_refl _, by simp [silent _ replied], ?_⟩
    rw [set]
    refine ⟨fun unset => (by cases unset), fun tick _ _ => ?_⟩
    have reached : units ≤ response.time.units := by
      rcases synchronized : step.before.clock.synchronized with _ | _
      · rw [bound.1 synchronized]
        exact Nat.zero_le _
      · obtain ⟨running, less⟩ := later synchronized
        exact Nat.le_trans (bound.2 _ ordered running) (Nat.le_of_lt less)
    exact Nat.le_trans reached (Nat.le_add_right _ _)
  | declined result declines replied same =>
    exact ⟨units, Nat.le_refl _, by simp [silent _ replied], still same⟩

/-- Over a run whose ticks never fall, the times that are read never do, and every step is sound. -/
theorem run_sound (requests : List Request) {tick : UInt64} {units : Nat}
    (bound : projected.NotBefore tick units)
    (ordered : (tick :: requests.map Request.tick).Pairwise (·.toNat ≤ ·.toNat)) :
    ∃ steps, run projected requests = .ok steps ∧
      (units :: (steps.filterMap Step.timeRead).map UnixTime.units).Pairwise (· ≤ ·) ∧
      ∀ step ∈ steps, step.Sound := by
  induction requests generalizing projected tick units with
  | nil => exact ⟨[], rfl, by simp, by simp⟩
  | cons request rest hypothesis =>
    obtain ⟨first, others⟩ := pairwise_cons.mp ordered
    obtain ⟨reply, after, performed, sound⟩ := perform_sound projected request
    obtain ⟨next, more, read, bounded⟩ := sound.notBefore bound (first _ mem_cons_self)
    obtain ⟨steps, ran, times, sounds⟩ := hypothesis bounded others
    refine ⟨⟨projected, request, reply, after⟩ :: steps, ?_, ?_, forall_mem_cons.mpr ⟨sound, sounds⟩⟩
    · rw [run, performed, Except.ok_bind, ran]
      rfl
    · obtain ⟨least, sorted⟩ := pairwise_cons.mp times
      have above : ∀ time ∈ (steps.filterMap Step.timeRead).map UnixTime.units, units ≤ time :=
        fun time member => Nat.le_trans more (least time member)
      rw [filterMap_cons]
      cases isRead : Step.timeRead ⟨projected, request, reply, after⟩ with
      | none => exact pairwise_cons.mpr ⟨above, sorted⟩
      | some time =>
        have same := read time isRead
        rw [map_cons, same]
        refine pairwise_cons.mpr ⟨forall_mem_cons.mpr ⟨more, above⟩, times⟩

end Sound

/-- The clock reads the exact time, and over any run whose ticks do not fall the times it reads do
not fall. It accepts only later times, and what it does not accept changes nothing. -/
theorem projectedClock_exact :
    (∀ (projected : ProjectedClock) (tick : UInt64), projected.Running tick →
      readProjectedClockAt projected tick =
        .ok (if projected.unitsAt tick < 2 ^ 96 then some (.ofUnits (projected.unitsAt tick))
          else none)) ∧
    ∀ (projected : ProjectedClock) (requests : List Request),
      (requests.map Request.tick).Pairwise (·.toNat ≤ ·.toNat) →
        ∃ steps, run projected requests = .ok steps ∧
          ((steps.filterMap Step.timeRead).map UnixTime.units).Pairwise (· ≤ ·) ∧
          ∀ step ∈ steps, step.Sound := by
  refine ⟨fun _ _ running => readProjectedClockAt_running running, fun projected requests ordered => ?_⟩
  have bound : projected.NotBefore 0 0 := ⟨fun _ => rfl, fun _ _ _ => Nat.zero_le _⟩
  obtain ⟨steps, ran, times, sound⟩ := run_sound requests bound
    (pairwise_cons.mpr ⟨fun _ _ => Nat.zero_le _, ordered⟩)
  exact ⟨steps, ran, (pairwise_cons.mp times).2, sound⟩

/-- A clock set twice, at two rates; the second response is stale at its tick. -/
theorem threeReads_exact : ∃ steps, run {}
    [.apply 10 ⟨2, [0, 0, 0, 0], 100, 0⟩ 1000, .read 510, .apply 1510 ⟨2, [0, 0, 0, 0], 101, 0⟩ 500,
      .read 2010] = .ok steps ∧
    ((steps.filterMap Step.timeRead).map UnixTime.units).Pairwise (· ≤ ·) ∧
      ∀ step ∈ steps, step.Sound :=
  projectedClock_exact.2 {} _ (by decide)

end ZigOs.Ntp
