/-
This file bounds the retransmission of a handshake. From an accepted open on, any
ticks of the clock, forward or backward, and any segments may come in between one
another. The timer sends the handshake segment again at most as often as the
policy allows, waits longer each time, gives up once, and is silent as soon as the
handshake is over.
-/

import ZigOs.TcpConnection.Accounting

namespace ZigOs.TcpConnection

open List ControlBlock

namespace Handshake

/-! ### Runs after an open -/

/-- What can happen to a connection after it was opened. The clock reads any 64-bit word. -/
inductive Event where
  | tick (tick : UInt64)
  | segment (segment : SegmentView)
  | send (payloadLength : Nat)
  | close
  | timeWaitExpires

/-- The block after an event. -/
def next (control : ControlBlock) : Event → ControlBlock
  | .tick tick => (control.onTimer tick.toNat).2
  | .segment segment => (control.handleSegment segment).2
  | .send payloadLength =>
    ((control.beginApplicationSend payloadLength).map Prod.snd).getD control
  | .close => control.beginClose.2
  | .timeWaitExpires => control.expireTimeWait.2

def after (control : ControlBlock) (events : List Event) : ControlBlock := events.foldl next control

/-- What the timer reports on the way, one report for each tick. -/
def reports (control : ControlBlock) : List Event → List TimerResult
  | [] => []
  | .tick tick :: events =>
    (control.onTimer tick.toNat).1 :: reports (control.onTimer tick.toNat).2 events
  | event :: events => reports (next control event) events

/-- The timer sent the handshake segment again. -/
def isRetransmission (report : TimerResult) : Bool :=
  report.action == .retransmitSyn || report.action == .retransmitSynAck

/-- The timer gave up. -/
def isTimeout (report : TimerResult) : Bool := report.action == .timedOut

def retransmitted (control : ControlBlock) (events : List Event) : Nat :=
  (reports control events).countP isRetransmission

def timeouts (control : ControlBlock) (events : List Event) : Nat :=
  (reports control events).countP isTimeout

/-- The fields of the policy are machine words: the two times have 64 bits, the number of retries
has 8. -/
structure FitsWords (policy : RetransmissionPolicy) : Prop where
  initialTimeout : policy.initialTimeoutTicks < 2 ^ 64
  maximumTimeout : policy.maximumTimeoutTicks < 2 ^ 64
  maximumRetries : policy.maximumRetries < 2 ^ 8

/-- The block that an accepted open leaves, from either side. -/
inductive Opened (policy : RetransmissionPolicy) : ControlBlock → Prop
  | active {control opened : ControlBlock} {transition : Transition} {initialSequence : Sequence}
      {tick : UInt64} (begun : control.beginActiveOpenAt initialSequence tick.toNat policy =
        (transition, opened)) (accepted : transition.accepted = true) : Opened policy opened
  | passive {control opened : ControlBlock} {transition : Transition} {initialSequence : Sequence}
      {segment : SegmentView} {tick : UInt64}
      (begun : control.beginPassiveOpenAt initialSequence segment tick.toNat policy =
        (transition, opened)) (accepted : transition.accepted = true) : Opened policy opened

/-- The time to wait after so many retransmissions. -/
def waitAfter (policy : RetransmissionPolicy) (count : Nat) : Nat :=
  min (policy.initialTimeoutTicks * 2 ^ count) policy.maximumTimeoutTicks

/-! ### The timer between ticks -/

/-- Everything but a tick leaves the timer alone, or stops it as the handshake ends. -/
structure LeavesTimer (control following : ControlBlock) : Prop where
  policy : following.retransmissionPolicy = control.retransmissionPolicy
  deadline : following.retransmissionDeadline = control.retransmissionDeadline
  interval : following.retransmissionInterval = control.retransmissionInterval
  retransmissions : following.retransmissions = control.retransmissions
  lastTick : following.lastTimerTick = control.lastTimerTick
  opening : following.state.isOpening = true →
    control.state.isOpening = true ∧ following.retransmissionActive = control.retransmissionActive
  timedOut : following.state = .timedOut ↔ control.state = .timedOut

variable {control : ControlBlock} {segment : SegmentView} {policy : RetransmissionPolicy}

theorem LeavesTimer.refl (control : ControlBlock) : LeavesTimer control control :=
  ⟨rfl, rfl, rfl, rfl, rfl, fun opening => ⟨opening, rfl⟩, Iff.rfl⟩

theorem leavesTimer_ite {condition : Prop} [Decidable condition]
    {first second : Transition × ControlBlock} (holds : LeavesTimer control first.2)
    (fails : LeavesTimer control second.2) :
    LeavesTimer control (if condition then first else second).2 := by
  split
  · exact holds
  · exact fails

/-- A block that has the same timer and is in a state past the handshake. -/
theorem leavesTimer_past {following : ControlBlock} (alive : control.state ≠ .timedOut)
    (policy : following.retransmissionPolicy = control.retransmissionPolicy)
    (deadline : following.retransmissionDeadline = control.retransmissionDeadline)
    (interval : following.retransmissionInterval = control.retransmissionInterval)
    (retransmissions : following.retransmissions = control.retransmissions)
    (lastTick : following.lastTimerTick = control.lastTimerTick)
    (past : following.state.isOpening = false) (going : following.state ≠ .timedOut) :
    LeavesTimer control following where
  policy := policy
  deadline := deadline
  interval := interval
  retransmissions := retransmissions
  lastTick := lastTick
  opening := fun opening => by
    rw [past] at opening
    cases opening
  timedOut := ⟨fun given => absurd given going, fun given => absurd given alive⟩

theorem handleSynchronizedReset_leaves (alive : control.state ≠ .timedOut) :
    LeavesTimer control (control.handleSynchronizedReset segment).2 :=
  leavesTimer_ite (LeavesTimer.refl _) (leavesTimer_ite (LeavesTimer.refl _)
    (leavesTimer_past alive rfl rfl rfl rfl rfl rfl (by rintro ⟨⟩)))

theorem handleSynSent_leaves (alive : control.state ≠ .timedOut) :
    LeavesTimer control (control.handleSynSent segment).2 := by
  rcases handled : control.handleSynSent segment with ⟨transition, following⟩
  rcases handleSynSent_cases handled with
    ⟨-, rfl⟩ | ⟨-, -, rfl⟩ | ⟨-, -, rfl, -⟩
  · exact LeavesTimer.refl _
  · exact leavesTimer_past alive rfl rfl rfl rfl rfl rfl (by rintro ⟨⟩)
  · exact leavesTimer_past alive rfl rfl rfl rfl rfl rfl (by rintro ⟨⟩)

theorem handleSynReceived_leaves (alive : control.state ≠ .timedOut) :
    LeavesTimer control (control.handleSynReceived segment).2 := by
  rcases handled : control.handleSynReceived segment with ⟨transition, following⟩
  rcases handleSynReceived_cases handled with
    ⟨-, rfl⟩ | ⟨-, -, rfl⟩ | ⟨-, -, rfl⟩ | ⟨-, -, rfl⟩
  · exact LeavesTimer.refl _
  · exact LeavesTimer.refl _
  · exact leavesTimer_past alive rfl rfl rfl rfl rfl rfl (by rintro ⟨⟩)
  · exact leavesTimer_past alive rfl rfl rfl rfl rfl rfl (by rintro ⟨⟩)

theorem advanced_leaves (established : control.state = .established) :
    LeavesTimer control (control.advanced segment) := by
  have alive : control.state ≠ .timedOut := by
    rw [established]
    rintro ⟨⟩
  have past : control.state.isOpening = false := by rw [established]; rfl
  unfold advanced
  dsimp only
  by_cases ends : hasFlag segment.flags flagFin = true
  · rw [if_pos ends]
    by_cases carries : segment.payloadLength ≠ 0
    · rw [if_pos carries]
      exact leavesTimer_past alive rfl rfl rfl rfl rfl rfl (by rintro ⟨⟩)
    · rw [if_neg carries]
      exact leavesTimer_past alive rfl rfl rfl rfl rfl rfl (by rintro ⟨⟩)
  · rw [if_neg ends]
    by_cases carries : segment.payloadLength ≠ 0
    · rw [if_pos carries]
      exact leavesTimer_past alive rfl rfl rfl rfl rfl past alive
    · rw [if_neg carries]
      exact leavesTimer_past alive rfl rfl rfl rfl rfl past alive

theorem handleEstablished_leaves (established : control.state = .established) :
    LeavesTimer control (control.handleEstablished segment).2 := by
  have alive : control.state ≠ .timedOut := by
    rw [established]
    rintro ⟨⟩
  rcases handled : control.handleEstablished segment with ⟨transition, following⟩
  rcases handleEstablished_cases handled with
    ⟨-, rfl⟩ | ⟨-, -, -, rfl⟩ | ⟨-, rfl, -⟩
  · exact LeavesTimer.refl _
  · exact leavesTimer_past alive rfl rfl rfl rfl rfl rfl (by rintro ⟨⟩)
  · exact advanced_leaves established

/-- No segment touches the timer of a handshake that goes on, and none starts a handshake. -/
theorem handleSegment_leaves (control : ControlBlock) (segment : SegmentView) :
    LeavesTimer control (control.handleSegment segment).2 := by
  have going : ∀ {state : State}, control.state = state → state ≠ .timedOut →
      control.state ≠ .timedOut := fun given other => given ▸ other
  unfold handleSegment
  cases state : control.state with
  | synSent => exact handleSynSent_leaves (going state (by rintro ⟨⟩))
  | synReceived => exact handleSynReceived_leaves (going state (by rintro ⟨⟩))
  | established => exact handleEstablished_leaves state
  | finWait1 =>
    have alive := going state (by rintro ⟨⟩)
    refine leavesTimer_ite (handleSynchronizedReset_leaves alive) (leavesTimer_ite
      (LeavesTimer.refl _) (leavesTimer_ite (LeavesTimer.refl _) (leavesTimer_ite
        (LeavesTimer.refl _) (leavesTimer_ite ?_ ?_))))
    · exact leavesTimer_past alive rfl rfl rfl rfl rfl rfl (by rintro ⟨⟩)
    · exact leavesTimer_past alive rfl rfl rfl rfl rfl rfl (by rintro ⟨⟩)
  | finWait2 =>
    have alive := going state (by rintro ⟨⟩)
    have past : control.state.isOpening = false := by rw [state]; rfl
    refine leavesTimer_ite (handleSynchronizedReset_leaves alive) (leavesTimer_ite
      (LeavesTimer.refl _) (leavesTimer_ite (LeavesTimer.refl _) (leavesTimer_ite
        (leavesTimer_ite (LeavesTimer.refl _) ?_) (leavesTimer_ite (LeavesTimer.refl _) ?_))))
    · exact leavesTimer_past alive rfl rfl rfl rfl rfl past alive
    · exact leavesTimer_past alive rfl rfl rfl rfl rfl rfl (by rintro ⟨⟩)
  | closeWait =>
    exact leavesTimer_ite (handleSynchronizedReset_leaves (going state (by rintro ⟨⟩)))
      (LeavesTimer.refl _)
  | lastAck =>
    have alive := going state (by rintro ⟨⟩)
    refine leavesTimer_ite (handleSynchronizedReset_leaves alive) (leavesTimer_ite
      (LeavesTimer.refl _) (leavesTimer_ite (LeavesTimer.refl _) (leavesTimer_ite
        (LeavesTimer.refl _) ?_)))
    exact leavesTimer_past alive rfl rfl rfl rfl rfl rfl (by rintro ⟨⟩)
  | timeWait =>
    exact leavesTimer_ite (handleSynchronizedReset_leaves (going state (by rintro ⟨⟩)))
      (leavesTimer_ite (LeavesTimer.refl _) (LeavesTimer.refl _))
  | closed => exact LeavesTimer.refl _
  | reset => exact LeavesTimer.refl _
  | timedOut => exact LeavesTimer.refl _

theorem beginApplicationSend_leaves (control : ControlBlock) (payloadLength : Nat) :
    LeavesTimer control
      (((control.beginApplicationSend payloadLength).map Prod.snd).getD control) := by
  cases sent : control.beginApplicationSend payloadLength with
  | none => exact LeavesTimer.refl _
  | some result =>
    obtain ⟨outbound, following⟩ := result
    obtain ⟨-, -, -, rfl⟩ := beginApplicationSend_cases sent
    exact ⟨rfl, rfl, rfl, rfl, rfl, fun opening => ⟨opening, rfl⟩, Iff.rfl⟩

theorem beginClose_leaves (control : ControlBlock) : LeavesTimer control control.beginClose.2 := by
  unfold beginClose
  cases state : control.state with
  | established | closeWait =>
    have alive : control.state ≠ .timedOut := by
      rw [state]
      rintro ⟨⟩
    exact leavesTimer_past alive rfl rfl rfl rfl rfl rfl (by rintro ⟨⟩)
  | _ => exact LeavesTimer.refl _

theorem expireTimeWait_leaves (control : ControlBlock) :
    LeavesTimer control control.expireTimeWait.2 := by
  unfold expireTimeWait
  by_cases other : control.state ≠ .timeWait
  · rw [if_pos other]
    exact LeavesTimer.refl _
  · rw [if_neg other]
    have alive : control.state ≠ .timedOut := by
      rw [not_not.mp other]
      rintro ⟨⟩
    exact leavesTimer_past alive rfl rfl rfl rfl rfl rfl (by rintro ⟨⟩)

/-! ### Waiting longer -/

theorem waitAfter_lt (fits : FitsWords policy) (count : Nat) : waitAfter policy count < 2 ^ 64 :=
  lt_of_le_of_lt (min_le_right _ _) fits.maximumTimeout

theorem waitAfter_pos (valid : policy.valid = true) (count : Nat) : 0 < waitAfter policy count := by
  unfold RetransmissionPolicy.valid at valid
  simp only [Bool.and_eq_true, bne_iff_ne, ne_eq, decide_eq_true_eq, ge_iff_le] at valid
  have initial : 0 < policy.initialTimeoutTicks := Nat.pos_of_ne_zero valid.1.1
  exact lt_min (Nat.mul_pos initial (Nat.two_pow_pos count)) (lt_of_lt_of_le initial valid.1.2)

theorem waitAfter_zero (valid : policy.valid = true) :
    waitAfter policy 0 = policy.initialTimeoutTicks := by
  unfold RetransmissionPolicy.valid at valid
  simp only [Bool.and_eq_true, bne_iff_ne, ne_eq, decide_eq_true_eq, ge_iff_le] at valid
  unfold waitAfter
  rw [pow_zero, Nat.mul_one]
  exact min_eq_left valid.1.2

/-- Doubling and capping the last wait is the same as capping the doubled first one. -/
theorem nextRetransmissionInterval_waitAfter (policy : RetransmissionPolicy) (count : Nat) :
    nextRetransmissionInterval (waitAfter policy count) policy.maximumTimeoutTicks =
      waitAfter policy (count + 1) := by
  unfold nextRetransmissionInterval waitAfter
  rw [pow_succ, ← Nat.mul_assoc]
  by_cases capped : policy.maximumTimeoutTicks ≤ policy.initialTimeoutTicks * 2 ^ count
  · rw [min_eq_right capped, if_pos (le_refl _)]
    exact (min_eq_right (capped.trans (Nat.le_mul_of_pos_right _ Nat.two_pos))).symm
  · rw [min_eq_left (le_of_not_ge capped), if_neg capped]

theorem le_saturatingAdd {width lhs : Nat} (fits : lhs < 2 ^ width) (rhs : Nat) :
    lhs ≤ saturatingAdd width lhs rhs :=
  le_min (Nat.le_add_right _ _) (Nat.le_sub_one_of_lt fits)

/-- Something added makes the sum larger until it saturates. -/
theorem lt_saturatingAdd {width lhs rhs : Nat} (positive : 0 < rhs) :
    lhs < saturatingAdd width lhs rhs ∨ saturatingAdd width lhs rhs = 2 ^ width - 1 := by
  unfold saturatingAdd
  rcases min_choice (lhs + rhs) (2 ^ width - 1) with sum | largest
  · rw [sum]
    exact .inl (Nat.lt_add_of_pos_right positive)
  · exact .inr largest

/-! ### What a tick does -/

variable {count expirations tick : Nat}

theorem onTimer_past (past : control.state.isOpening = false) (tick : Nat) :
    control.onTimer tick = control.timerNoop tick .invalidState := by
  unfold onTimer
  rw [if_pos]
  constructor
  all_goals
    intro opening
    rw [opening] at past
    cases past

/-- Before the deadline nothing happens, whether the clock went on or back. -/
theorem onTimer_early (early : tick < control.retransmissionDeadline) :
    ∃ reason, control.onTimer tick = control.timerNoop tick reason := by
  unfold onTimer
  split
  · exact ⟨_, rfl⟩
  · split
    · exact ⟨_, rfl⟩
    · split
      · exact ⟨_, rfl⟩
      · exact ⟨_, rfl⟩

theorem onTimer_due (opening : control.state.isOpening = true)
    (active : control.retransmissionActive = true)
    (lastTick : control.lastTimerTick ≤ control.retransmissionDeadline)
    (due : control.retransmissionDeadline ≤ tick) :
    control.onTimer tick =
      if control.retransmissions ≥ control.retransmissionPolicy.maximumRetries then
        control.expire tick
      else control.retransmit tick := by
  have handshake : ¬ (control.state ≠ .synSent ∧ control.state ≠ .synReceived) := by
    rintro ⟨notSent, notReceived⟩
    unfold State.isOpening at opening
    split at opening
    · rename_i sent
      exact notSent sent
    · rename_i received
      exact notReceived received
    · cases opening
  unfold onTimer
  rw [if_neg handshake, if_neg (by rw [active]; exact Bool.noConfusion),
    if_neg (not_lt.mpr (lastTick.trans due)), if_neg (not_lt.mpr due)]

/-- The timer after so many retransmissions and so many timeouts. -/
structure Timed (policy : RetransmissionPolicy) (count expirations : Nat) (control : ControlBlock) :
    Prop where
  keepsPolicy : control.retransmissionPolicy = policy
  counted : control.retransmissions = count
  bounded : count ≤ policy.maximumRetries
  interval : control.retransmissionInterval = waitAfter policy count
  lastTick : control.state.isOpening = true →
    control.lastTimerTick ≤ control.retransmissionDeadline
  active : control.state.isOpening = true → control.retransmissionActive = true
  expired : expirations = if control.state = .timedOut then 1 else 0
  exhausted : control.state = .timedOut → count = policy.maximumRetries

theorem Timed.leaves {following : ControlBlock} (timed : Timed policy count expirations control)
    (leaves : LeavesTimer control following) : Timed policy count expirations following where
  keepsPolicy := leaves.policy.trans timed.keepsPolicy
  counted := leaves.retransmissions.trans timed.counted
  bounded := timed.bounded
  interval := leaves.interval.trans timed.interval
  lastTick := fun opening => by
    rw [leaves.lastTick, leaves.deadline]
    exact timed.lastTick (leaves.opening opening).1
  active := fun opening => by
    obtain ⟨before, same⟩ := leaves.opening opening
    rw [same]
    exact timed.active before
  expired := timed.expired.trans (if_congr leaves.timedOut.symm rfl rfl)
  exhausted := fun timedOut => timed.exhausted (leaves.timedOut.mp timedOut)

/-- What a tick does is settled by the state, the deadline and the number of retries. -/
theorem Timed.onTimer (timed : Timed policy count expirations control) (tick : Nat) :
    (∃ reason, control.onTimer tick = control.timerNoop tick reason ∧
        ¬ (control.state.isOpening = true ∧ control.retransmissionDeadline ≤ tick)) ∨
      (control.state.isOpening = true ∧ control.retransmissionDeadline ≤ tick ∧
        count = policy.maximumRetries ∧ control.onTimer tick = control.expire tick) ∨
      (control.state.isOpening = true ∧ control.retransmissionDeadline ≤ tick ∧
        count < policy.maximumRetries ∧ control.onTimer tick = control.retransmit tick) := by
  by_cases opening : control.state.isOpening = true
  · by_cases due : control.retransmissionDeadline ≤ tick
    · have handled := onTimer_due opening (timed.active opening) (timed.lastTick opening) due
      rw [timed.keepsPolicy, timed.counted] at handled
      rcases Nat.lt_or_ge count policy.maximumRetries with more | exhausted
      · rw [if_neg (not_le.mpr more)] at handled
        exact .inr (.inr ⟨opening, due, more, handled⟩)
      · rw [if_pos exhausted] at handled
        exact .inr (.inl ⟨opening, due, Nat.le_antisymm timed.bounded exhausted, handled⟩)
    · obtain ⟨reason, handled⟩ := onTimer_early (not_le.mp due)
      exact .inl ⟨reason, handled, fun both => due both.2⟩
  · exact .inl ⟨_, onTimer_past (Bool.not_eq_true _ ▸ opening) tick, fun both => opening both.1⟩

theorem isRetransmission_retransmit (control : ControlBlock) (tick : Nat) :
    isRetransmission (control.retransmit tick).1 = true := by
  unfold isRetransmission retransmit
  by_cases sent : control.state = .synSent
  · simp [sent]
  · simp [sent]

theorem isTimeout_retransmit (control : ControlBlock) (tick : Nat) :
    isTimeout (control.retransmit tick).1 = false := by
  unfold isTimeout retransmit
  by_cases sent : control.state = .synSent
  · simp [sent]
  · simp [sent]

/-- One more retransmission doubles the wait and moves the deadline. -/
theorem Timed.retransmit (fits : FitsWords policy) (timed : Timed policy count expirations control)
    (inRange : tick < 2 ^ 64) (opening : control.state.isOpening = true)
    (more : count < policy.maximumRetries) :
    Timed policy (count + 1) expirations (control.retransmit tick).2 := by
  have alive : control.state ≠ .timedOut := by
    intro timedOut
    rw [timedOut] at opening
    cases opening
  exact {
    keepsPolicy := timed.keepsPolicy
    counted := by
      show saturatingAdd 8 control.retransmissions 1 = count + 1
      rw [timed.counted]
      have byte := fits.maximumRetries
      exact min_eq_left (by omega)
    bounded := more
    interval := by
      show nextRetransmissionInterval control.retransmissionInterval
        control.retransmissionPolicy.maximumTimeoutTicks = _
      rw [timed.interval, timed.keepsPolicy]
      exact nextRetransmissionInterval_waitAfter policy count
    lastTick := fun _ => le_saturatingAdd inRange _
    active := fun _ => timed.active opening
    expired := timed.expired
    exhausted := fun timedOut => absurd timedOut alive }

/-- Giving up ends the handshake, and it happens once. -/
theorem Timed.expire (timed : Timed policy count expirations control)
    (opening : control.state.isOpening = true) (last : count = policy.maximumRetries) :
    Timed policy count (expirations + 1) (control.expire tick).2 where
  keepsPolicy := timed.keepsPolicy
  counted := timed.counted
  bounded := timed.bounded
  interval := timed.interval
  lastTick := by rintro ⟨⟩
  active := by rintro ⟨⟩
  expired := by
    have alive : control.state ≠ .timedOut := by
      intro timedOut
      rw [timedOut] at opening
      cases opening
    rw [timed.expired, if_neg alive]
    rfl
  exhausted := fun _ => last

/-! ### Whole runs -/

theorem Timed.afterTick (fits : FitsWords policy) (timed : Timed policy count expirations control)
    (inRange : tick < 2 ^ 64) :
    Timed policy (count + if isRetransmission (control.onTimer tick).1 then 1 else 0)
      (expirations + if isTimeout (control.onTimer tick).1 then 1 else 0)
      (control.onTimer tick).2 := by
  rcases timed.onTimer tick with
    ⟨reason, handled, -⟩ | ⟨opening, -, last, handled⟩ | ⟨opening, -, more, handled⟩
  · rwa [handled]
  · rw [handled]
    exact timed.expire opening last
  · rw [handled, isRetransmission_retransmit, isTimeout_retransmit]
    exact timed.retransmit fits inRange opening more

theorem Timed.after (fits : FitsWords policy) (timed : Timed policy count expirations control)
    (events : List Event) :
    Timed policy (count + retransmitted control events) (expirations + timeouts control events)
      (after control events) := by
  induction events generalizing control count expirations with
  | nil => exact timed
  | cons event events hypothesis =>
    cases event with
    | tick tick =>
      have following := hypothesis (timed.afterTick fits tick.toNat_lt)
      unfold retransmitted timeouts reports
      rw [countP_cons, countP_cons, Nat.add_comm (List.countP _ _),
        Nat.add_comm (List.countP _ _), ← Nat.add_assoc, ← Nat.add_assoc]
      exact following
    | segment segment =>
      exact hypothesis (timed.leaves (handleSegment_leaves control segment))
    | send payloadLength =>
      exact hypothesis (timed.leaves (beginApplicationSend_leaves control payloadLength))
    | close => exact hypothesis (timed.leaves (beginClose_leaves control))
    | timeWaitExpires =>
      exact hypothesis (timed.leaves (expireTimeWait_leaves control))

/-- Past the handshake nothing begins one again. -/
theorem next_past (past : control.state.isOpening = false) (event : Event) :
    (next control event).state.isOpening = false := by
  have kept : ∀ {following : ControlBlock}, LeavesTimer control following →
      following.state.isOpening = false := by
    intro following leaves
    by_contra opening
    have before := (leaves.opening (Bool.not_eq_false _ ▸ opening)).1
    rw [past] at before
    cases before
  cases event with
  | tick tick =>
    show (control.onTimer tick.toNat).2.state.isOpening = false
    rwa [onTimer_past past]
  | segment segment => exact kept (handleSegment_leaves control segment)
  | send payloadLength => exact kept (beginApplicationSend_leaves control payloadLength)
  | close => exact kept (beginClose_leaves control)
  | timeWaitExpires => exact kept (expireTimeWait_leaves control)

theorem reports_past (past : control.state.isOpening = false) (events : List Event) :
    ∀ report ∈ reports control events, report.action = .none := by
  induction events generalizing control with
  | nil => exact fun _ member => absurd member not_mem_nil
  | cons event events hypothesis =>
    have following := hypothesis (next_past past event)
    cases event with
    | tick tick =>
      intro report member
      rcases mem_cons.mp member with rfl | later
      · rw [onTimer_past past]
        rfl
      · exact following report later
    | _ => exact following

/-- A segment goes out exactly when the timer sends the handshake segment again. -/
theorem onTimer_segment (control : ControlBlock) (tick : Nat) :
    (control.onTimer tick).1.outbound.isSome = isRetransmission (control.onTimer tick).1 := by
  unfold onTimer
  repeat' split
  any_goals rfl
  exact (isRetransmission_retransmit control tick).symm

theorem reports_segments (control : ControlBlock) (events : List Event) :
    ∀ report ∈ reports control events, report.outbound.isSome = isRetransmission report := by
  induction events generalizing control with
  | nil => exact fun _ member => absurd member not_mem_nil
  | cons event events hypothesis =>
    cases event with
    | tick tick =>
      intro report member
      rcases mem_cons.mp member with rfl | later
      · exact onTimer_segment control tick.toNat
      · exact hypothesis _ report later
    | _ => exact hypothesis _

/-! ### From an accepted open on -/

theorem Opened.valid {opened : ControlBlock} (isOpened : Opened policy opened) :
    policy.valid = true := by
  by_contra invalid
  rw [Bool.not_eq_true] at invalid
  cases isOpened with
  | active begun accepted =>
    unfold beginActiveOpenAt at begun
    rw [if_pos invalid] at begun
    cases begun
    cases accepted
  | passive begun accepted =>
    unfold beginPassiveOpenAt at begun
    split at begun
    · cases begun
      cases accepted
    · cases begun
      cases accepted

theorem Opened.timed {opened : ControlBlock} (isOpened : Opened policy opened) :
    Timed policy 0 0 opened := by
  have first := waitAfter_zero isOpened.valid
  cases isOpened with
  | @active control opened transition initialSequence tick begun accepted =>
    rcases beginActiveOpenAt_cases begun with ⟨refused, -⟩ | ⟨-, rfl⟩
    · rw [refused] at accepted
      cases accepted
    · exact ⟨rfl, rfl, Nat.zero_le _, first.symm, fun _ => le_saturatingAdd tick.toNat_lt _,
        fun _ => rfl, rfl, by rintro ⟨⟩⟩
  | @passive control opened transition initialSequence segment tick begun accepted =>
    rcases beginPassiveOpenAt_cases begun with refused | ⟨-, rfl, -⟩
    · rw [refused] at accepted
      cases accepted
    · exact ⟨rfl, rfl, Nat.zero_le _, first.symm, fun _ => le_saturatingAdd tick.toNat_lt _,
        fun _ => rfl, rfl, by rintro ⟨⟩⟩

/-- How the timer of an opened connection behaves, after any events. -/
structure RetransmitsBoundedly (policy : RetransmissionPolicy) (opened : ControlBlock) : Prop where
  /-- The timer sends no more segments than the policy has retries. -/
  retries : ∀ events, retransmitted opened events ≤ policy.maximumRetries
  /-- A report carries a segment exactly if it is a retransmission. -/
  segments : ∀ events, ∀ report ∈ reports opened events,
    report.outbound.isSome = isRetransmission report
  /-- The wait is the doubled first one, capped, and it fits a machine word. -/
  interval : ∀ events, (after opened events).retransmissionInterval =
      min (policy.initialTimeoutTicks * 2 ^ retransmitted opened events)
        policy.maximumTimeoutTicks ∧
    (after opened events).retransmissionInterval < 2 ^ 64
  /-- The timer acts in the handshake at its deadline: it sends again while retries are left, and
  else it gives up. -/
  acts : ∀ events (tick : UInt64),
    ((after opened events).onTimer tick.toNat).1.action =
      if (after opened events).state.isOpening = true ∧
          (after opened events).retransmissionDeadline ≤ tick.toNat then
        if retransmitted opened events < policy.maximumRetries then
          if (after opened events).state = .synSent then .retransmitSyn else .retransmitSynAck
        else .timedOut
      else .none
  /-- A retransmission is due and moves the deadline, unless that is the last tick there is. -/
  deadline : ∀ events (tick : UInt64),
    isRetransmission ((after opened events).onTimer tick.toNat).1 = true →
      (after opened events).retransmissionDeadline ≤ tick.toNat ∧
        ((after opened events).retransmissionDeadline <
            ((after opened events).onTimer tick.toNat).2.retransmissionDeadline ∨
          ((after opened events).onTimer tick.toNat).2.retransmissionDeadline = 2 ^ 64 - 1)
  /-- The connection has timed out once if that is its state, and else it never has. -/
  timeouts : ∀ events,
    timeouts opened events = if (after opened events).state = .timedOut then 1 else 0
  /-- It times out only when every retry was used. -/
  exhausted : ∀ events, (after opened events).state = .timedOut →
    retransmitted opened events = policy.maximumRetries
  /-- Past the handshake the timer does nothing any more. -/
  silent : ∀ events, (after opened events).state.isOpening = false →
    ∀ following, ∀ report ∈ reports (after opened events) following, report.action = .none

/-- The deadline moves on with a retransmission. -/
theorem Timed.deadline (valid : policy.valid = true)
    (timed : Timed policy count expirations control)
    (again : isRetransmission (control.onTimer tick).1 = true) :
    control.retransmissionDeadline ≤ tick ∧
      (control.retransmissionDeadline < (control.onTimer tick).2.retransmissionDeadline ∨
        (control.onTimer tick).2.retransmissionDeadline = 2 ^ 64 - 1) := by
  rcases timed.onTimer tick with
    ⟨reason, handled, -⟩ | ⟨-, -, -, handled⟩ | ⟨-, due, -, handled⟩
  · rw [handled] at again
    cases again
  · rw [handled] at again
    cases again
  · rw [handled]
    refine ⟨due, ?_⟩
    show control.retransmissionDeadline < saturatingAdd 64 tick (nextRetransmissionInterval
        control.retransmissionInterval control.retransmissionPolicy.maximumTimeoutTicks) ∨
      saturatingAdd 64 tick (nextRetransmissionInterval control.retransmissionInterval
        control.retransmissionPolicy.maximumTimeoutTicks) = 2 ^ 64 - 1
    rw [timed.interval, timed.keepsPolicy, nextRetransmissionInterval_waitAfter]
    exact (lt_saturatingAdd (waitAfter_pos valid (count + 1))).imp_left (lt_of_le_of_lt due)

/-- The retransmission of a handshake is bounded, whichever side opened the connection. -/
theorem Opened.retransmitsBoundedly {policy : RetransmissionPolicy} {opened : ControlBlock}
    (fits : FitsWords policy) (isOpened : Opened policy opened) :
    RetransmitsBoundedly policy opened := by
  have timed : ∀ events, Timed policy (retransmitted opened events) (Handshake.timeouts opened events)
      (after opened events) := fun events => by
    have following := isOpened.timed.after fits events
    rw [Nat.zero_add, Nat.zero_add] at following
    exact following
  exact {
    retries := fun events => (timed events).bounded
    segments := fun events => reports_segments opened events
    interval := fun events => ⟨(timed events).interval, by
      rw [(timed events).interval]
      exact waitAfter_lt fits _⟩
    acts := fun events tick => by
      rcases (timed events).onTimer tick.toNat with
        ⟨reason, handled, idle⟩ | ⟨opening, due, last, handled⟩ | ⟨opening, due, more, handled⟩
      · rw [handled, if_neg idle]
        rfl
      · rw [handled, if_pos ⟨opening, due⟩, if_neg (last ▸ lt_irrefl _)]
        rfl
      · rw [handled, if_pos ⟨opening, due⟩, if_pos more]
        rfl
    deadline := fun events tick again => (timed events).deadline isOpened.valid again
    timeouts := fun events => (timed events).expired
    exhausted := fun events => (timed events).exhausted
    silent := fun events past following => reports_past past following }

/-- Wait 10 ticks at first and 40 at most, and try again three times. -/
def threeRetries : RetransmissionPolicy where
  initialTimeoutTicks := 10
  maximumTimeoutTicks := 40
  maximumRetries := 3

def firstSyn : SegmentView where
  sequenceNumber := 0x10203040
  acknowledgementNumber := 0
  flags := flagSyn
  windowSize := 24000

/-- A listener's end that is opened at tick 100. -/
def openAt100 : Transition × ControlBlock :=
  beginPassiveOpenAt { receiveWindow := 32768 } 0x50607080 firstSyn 100 threeRetries

theorem openAt100_bounded : RetransmitsBoundedly threeRetries openAt100.2 :=
  Opened.retransmitsBoundedly ⟨by decide, by decide, by decide⟩
    (@Opened.passive threeRetries { receiveWindow := 32768 } openAt100.2 openAt100.1 0x50607080
      firstSyn 100 rfl rfl)

example : (reports openAt100.2
    [.tick 90, .tick 109, .tick 110, .tick 105, .tick 130, .tick 170, .tick 209, .tick 210, .tick 300]).map
      (fun report => (report.action, report.nextDeadline)) =
    [(.none, 110), (.none, 110), (.retransmitSynAck, 130), (.none, 130), (.retransmitSynAck, 170),
      (.retransmitSynAck, 210), (.none, 210), (.timedOut, 210), (.none, 210)] := by
  decide

end Handshake

end ZigOs.TcpConnection
