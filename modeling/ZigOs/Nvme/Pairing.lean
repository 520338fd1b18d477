/-
This file shows when the commands of the driver pair with their completions. The
driver keeps no record of a command it has given up on: the next completion it
reads counts for the command it waits for, and the page is filled again for the
next call. So everything goes well as long as no call starts before the last
command was answered and the answer was read, and no deadline passes over an
answer that has arrived. Then the one command underway is in one of three
places: with the device, executed, or answered.
-/

import ZigOs.Nvme.Controller

namespace ZigOs.Nvme

open Function

/-! ### The completion ring -/

/-- Slots below the position carry the phase of this lap, the others that of the last one. -/
def Laps (completions : Nat → Completion) (depth slot : Nat) (phase : Bool) : Prop :=
  ∀ index < depth, (completions index).phase = if index < slot then phase else !phase

/-- The next slot is filled with the phase of this lap. -/
theorem Laps.fill {completions : Nat → Completion} {depth slot : Nat} {phase : Bool}
    (laps : Laps completions depth slot phase) (below : slot < depth) {completion : Completion}
    (current : completion.phase = phase) :
    Laps (update completions slot completion) depth
      (if slot + 1 = depth then 0 else slot + 1) (phase != decide (slot + 1 = depth)) := by
  intro index inside
  have before := laps index inside
  obtain rfl | here := eq_or_ne index slot
  · rw [update_self, current]
    by_cases wraps : index + 1 = depth
    · simp [wraps]
    · simp [wraps]
  · rw [update_of_ne here, before]
    by_cases wraps : slot + 1 = depth
    · have low : index < slot := by omega
      simp [wraps, low]
    · by_cases low : index < slot
      · have still : index < slot + 1 := by omega
        simp [wraps, low, still]
      · have still : ¬ index < slot + 1 := by omega
        simp [wraps, low, still]

/-- The reader moves over the ring as the writer does. -/
theorem Queue.advanceCompletion_position (queue : Queue) :
    queue.advanceCompletion.completionHead =
        (if queue.completionHead + 1 = queue.depth then 0 else queue.completionHead + 1) ∧
      queue.advanceCompletion.completionPhase =
        (queue.completionPhase != decide (queue.completionHead + 1 = queue.depth)) := by
  unfold advanceCompletion
  by_cases wraps : queue.completionHead + 1 = queue.depth
  · rw [if_pos wraps, if_pos wraps]
    simp [wraps]
  · rw [if_neg wraps, if_neg wraps]
    simp [wraps]

/-! ### The command underway -/

/-- What both sides share while a command is underway. -/
structure View where
  geometry : Geometry
  queue : Queue
  device : Device
  pages : Nat → Nat → UInt8
  completions : Nat → Completion

def System.view (system : System) : View where
  geometry := system.geometry
  queue := system.controller.ioQueue
  device := system.device
  pages := system.pages
  completions := system.completions

/-- The command of a job, as the device takes it in. -/
def Geometry.orderOf (geometry : Geometry) (job : Job) : Order where
  ticket := job.ticket
  submission := { geometry.command job.call job.injectFailure with commandId := job.commandId }

namespace View

/-- Both sides are at the same slot, and nothing is there to be read. -/
structure Aligned (view : View) : Prop where
  slot : view.device.postSlot = view.queue.completionHead
  phase : view.device.postPhase = view.queue.completionPhase
  laps : Laps view.completions view.queue.depth view.queue.completionHead view.queue.completionPhase

/-- The device is one slot ahead, and there is its answer to a command. -/
structure Unread (view : View) (commandId code : Nat) : Prop where
  slot : view.device.postSlot = view.queue.advanceCompletion.completionHead
  phase : view.device.postPhase = view.queue.advanceCompletion.completionPhase
  laps : Laps view.completions view.queue.depth view.queue.advanceCompletion.completionHead
    view.queue.advanceCompletion.completionPhase
  head : view.completions view.queue.completionHead =
    { submissionQueueId := view.queue.queueId
      commandId := commandId
      status := 2 * code + view.queue.completionPhase.toNat }

/-- The tickets are answered as given, each at most once. -/
def Answered (view : View) (ticket : Nat) (answer : Option Nat) : Prop :=
  ∀ code, (ticket, code) ∈ view.device.posted ↔ answer = some code

/-- The page holds what a write is going to take from it. -/
def Filled (view : View) (job : Job) : Prop :=
  ∀ lba input forceUnitAccess, job.call = .writeBlock lba input forceUnitAccess →
    (List.range view.geometry.logicalBlockSize).map (view.pages view.geometry.ioBufferAddress) = input

/-- A command that succeeded was not turned into a failure, and a read has left its block in the page. -/
def Delivered (view : View) (job : Job) (code : Nat) : Prop :=
  code = 0 → job.injectFailure = false ∧ ∀ lba length, job.call = .readBlock lba length →
    (List.range length).map (view.pages view.geometry.ioBufferAddress) =
      (List.range view.geometry.logicalBlockSize).map (view.device.medium lba)

/-- Nothing is underway. -/
structure Clear (view : View) : Prop where
  pending : view.device.pending = []
  executed : view.device.executed = []
  aligned : view.Aligned

/-- How far the command of a job has come. -/
inductive Progress (view : View) (job : Job) : Prop where
  | pending (pending : view.device.pending = [view.geometry.orderOf job])
    (executed : view.device.executed = []) (aligned : view.Aligned) (filled : view.Filled job)
    (answered : view.Answered job.ticket none)
  | executed (code : Nat) (pending : view.device.pending = [])
    (executed : view.device.executed = [(view.geometry.orderOf job, code)]) (aligned : view.Aligned)
    (delivered : view.Delivered job code) (answered : view.Answered job.ticket none)
  | posted (code : Nat) (pending : view.device.pending = []) (executed : view.device.executed = [])
    (unread : view.Unread job.commandId code) (delivered : view.Delivered job code)
    (answered : view.Answered job.ticket (some code))

end View

/-- The call of a job passed the checks of the driver. -/
def Geometry.Accepts (geometry : Geometry) : Call → Prop
  | .readBlock lba length =>
    lba < geometry.namespaceSizeLbas ∧ length = geometry.logicalBlockSize
  | .writeBlock lba input _ =>
    lba < geometry.namespaceSizeLbas ∧ input.length = geometry.logicalBlockSize
  | .flush => True

/-- The job the driver waits for. -/
def Stage.job? : Stage → Option Job
  | .idle => none
  | .awaitingInterrupt job _ => some job
  | .polling job => some job

namespace System

/-- The driver waits for the job or has given it up. -/
structure Serves (system : System) (job : Job) : Prop where
  stage : system.stage = .idle ∨ system.stage.job? = some job
  accepted : system.geometry.Accepts job.call
  plain : job.call = .flush → job.injectFailure = false
  called : system.calls[job.ticket]? = some job.call

/-- At most one command is underway. -/
structure OneAtATime (system : System) : Prop where
  rung : system.device.doorbell = system.controller.ioQueue.submissionTail
  depth : system.controller.ioQueue.depth = system.geometry.depth
  headBelow : system.controller.ioQueue.completionHead < system.geometry.depth
  known : ∀ answer ∈ system.device.posted, answer.1 < system.calls.length
  load : (system.stage = .idle ∧ system.view.Clear) ∨
    ∃ job, system.Serves job ∧ system.view.Progress job

/-- Nothing is with the device, and no answer is left to be read. -/
structure Quiet (system : System) : Prop where
  pending : system.device.pending = []
  executed : system.device.executed = []
  read : ¬ system.Arrived

end System

/-- No call starts before the last command was answered and the answer was read, and no deadline
passes over an answer. -/
def Timely : Action → System → Prop
  | .call _, system => system.Quiet
  | .expire, system => ¬ system.Arrived
  | _, _ => True

/-! ### Looking at the ring -/

theorem status_phase (code : Nat) (phase : Bool) :
    (2 * code + phase.toNat) % 2 = phase.toNat ∧ (2 * code + phase.toNat) / 2 = code := by
  cases phase <;> simp only [Bool.toNat_false, Bool.toNat_true] <;> omega

theorem phase_of_status (queueId commandId code : Nat) (phase : Bool) :
    Completion.phase
      { submissionQueueId := queueId, commandId := commandId, status := 2 * code + phase.toNat } =
        phase := by
  unfold Completion.phase
  rw [(status_phase code phase).1]
  cases phase <;> rfl

namespace System

variable {system : System}

theorem not_arrived_of_aligned (aligned : system.view.Aligned)
    (below : system.controller.ioQueue.completionHead < system.controller.ioQueue.depth) :
    ¬ system.Arrived := by
  intro arrived
  have stale : system.headCompletion.phase = !system.controller.ioQueue.completionPhase :=
    (aligned.laps _ below).trans (if_neg (Nat.lt_irrefl _))
  have current : system.headCompletion.phase = system.controller.ioQueue.completionPhase := arrived
  rw [current] at stale
  exact (Bool.eq_not_self _).mp stale

theorem arrived_of_unread {commandId code : Nat} (unread : system.view.Unread commandId code) :
    system.Arrived := by
  have head : system.headCompletion = _ := unread.head
  unfold Arrived
  rw [head]
  exact phase_of_status _ _ _ _

theorem OneAtATime.below (orderly : system.OneAtATime) :
    system.controller.ioQueue.completionHead < system.controller.ioQueue.depth := by
  rw [orderly.depth]
  exact orderly.headBelow

/-- An answer has arrived exactly when the command underway was answered. -/
theorem OneAtATime.arrived (orderly : system.OneAtATime) (arrived : system.Arrived) :
    ∃ job code, system.Serves job ∧ system.view.Unread job.commandId code ∧
      system.view.Delivered job code ∧ system.view.Answered job.ticket (some code) ∧
        system.device.pending = [] ∧ system.device.executed = [] := by
  rcases orderly.load with ⟨-, clear⟩ | ⟨job, serves, progress⟩
  · exact absurd arrived (not_arrived_of_aligned clear.aligned orderly.below)
  · cases progress with
    | pending _ _ aligned => exact absurd arrived (not_arrived_of_aligned aligned orderly.below)
    | executed _ _ _ aligned => exact absurd arrived (not_arrived_of_aligned aligned orderly.below)
    | posted code pending executed unread delivered answered =>
      exact ⟨job, code, serves, unread, delivered, answered, pending, executed⟩

/-- While the driver waits, the command underway is that of its job. -/
theorem OneAtATime.waits (orderly : system.OneAtATime) {job : Job}
    (waits : system.stage.job? = some job) : system.Serves job ∧ system.view.Progress job := by
  rcases orderly.load with ⟨idle, -⟩ | ⟨other, serves, progress⟩
  · rw [idle] at waits
    cases waits
  · rcases serves.stage with idle | other'
    · rw [idle] at waits
      cases waits
    · cases (other'.symm.trans waits)
      exact ⟨serves, progress⟩

/-- When nothing has arrived, the command underway was not answered. -/
theorem OneAtATime.unanswered (orderly : system.OneAtATime) (missing : ¬ system.Arrived) {job : Job}
    (waits : system.stage.job? = some job) : system.view.Answered job.ticket none := by
  cases (orderly.waits waits).2 with
  | pending _ _ _ _ answered => exact answered
  | executed _ _ _ _ _ answered => exact answered
  | posted _ _ _ unread => exact absurd (arrived_of_unread unread) missing

/-- A quiet system has nothing underway. -/
theorem OneAtATime.clear (orderly : system.OneAtATime) (quiet : system.Quiet) :
    system.view.Clear := by
  rcases orderly.load with ⟨-, clear⟩ | ⟨job, -, progress⟩
  · exact clear
  · cases progress with
    | pending pending =>
      have none : system.device.pending = [] := quiet.pending
      rw [show system.device.pending = _ from pending] at none
      cases none
    | executed _ _ executed =>
      have none : system.device.executed = [] := quiet.executed
      rw [show system.device.executed = _ from executed] at none
      cases none
    | posted _ _ _ unread => exact absurd (arrived_of_unread unread) quiet.read

end System

/-! ### What a step may do -/

/-- What a step reports belongs to the command of the call, and what it writes is what the call of
that command passed. -/
structure Paired (before after : System) (events : List Event) : Prop where
  own : ∀ call ticket result data, .returned call (some ticket) result data ∈ events →
    before.calls[ticket]? = some call
  reported : ∀ call ticket result data, .returned call (some ticket) result data ∈ events →
    (result = true ↔ (ticket, 0) ∈ before.device.posted)
  refused : ∀ call result data, .returned call none result data ∈ events → result = false
  read : ∀ lba length ticket data,
    .returned (.readBlock lba length) (some ticket) true data ∈ events → data = before.block lba
  written : ∀ lba, after.device.medium lba ≠ before.device.medium lba →
    ∃ ticket input forceUnitAccess, .executed ticket 0 ∈ events ∧
      after.calls[ticket]? = some (.writeBlock lba input forceUnitAccess)
  stored : ∀ ticket lba input forceUnitAccess, .executed ticket 0 ∈ events →
    after.calls[ticket]? = some (.writeBlock lba input forceUnitAccess) → after.block lba = input

variable {before after : System}

theorem paired_of_silent (same : after.device.medium = before.device.medium) :
    Paired before after [] where
  own _ _ _ _ member := nomatch member
  reported _ _ _ _ member := nomatch member
  refused _ _ _ member := nomatch member
  read _ _ _ _ member := nomatch member
  written lba changed := absurd (congrFun same lba) changed
  stored _ _ _ _ member := nomatch member

/-- A call that is turned away submits nothing. -/
theorem paired_of_refused (call : Call) : Paired before before [.returned call none false []] where
  own _ _ _ _ member := by simp at member
  reported _ _ _ _ member := by simp at member
  refused _ _ _ member := by
    simp only [List.mem_singleton, Event.returned.injEq] at member
    exact member.2.2.1
  read _ _ _ _ member := by simp at member
  written _ changed := absurd rfl changed
  stored _ _ _ _ member := by simp at member

/-- The execution of a command reports nothing; what it writes comes from the call of its ticket. -/
theorem paired_of_executed {ticket code : Nat}
    (written : ∀ lba, after.device.medium lba ≠ before.device.medium lba →
      ∃ input forceUnitAccess, code = 0 ∧
        after.calls[ticket]? = some (.writeBlock lba input forceUnitAccess))
    (stored : ∀ lba input forceUnitAccess, code = 0 →
      after.calls[ticket]? = some (.writeBlock lba input forceUnitAccess) → after.block lba = input)
    :
    Paired before after [.executed ticket code] where
  own _ _ _ _ member := by simp at member
  reported _ _ _ _ member := by simp at member
  refused _ _ _ member := by simp at member
  read _ _ _ _ member := by simp at member
  written lba changed := by
    obtain ⟨input, forceUnitAccess, rfl, call⟩ := written lba changed
    exact ⟨ticket, input, forceUnitAccess, List.mem_singleton_self _, call⟩
  stored other lba input forceUnitAccess member call := by
    simp only [List.mem_singleton, Event.executed.injEq] at member
    obtain ⟨rfl, success⟩ := member
    exact stored lba input forceUnitAccess success.symm call

namespace System

variable {system : System}

/-- A call returns what the driver made of the answer to its own command. -/
theorem paired_finish {job : Job} {success : Bool} {consumed : System}
    (called : system.calls[job.ticket]? = some job.call)
    (own : (success && !job.injectFailure) = true ↔ (job.ticket, 0) ∈ system.device.posted)
    (same : consumed.device = system.device)
    (delivered : (success && !job.injectFailure) = true → ∀ lba length, job.call = .readBlock lba length →
      (List.range length).map (consumed.pages consumed.geometry.ioBufferAddress) = system.block lba) :
    Paired system (consumed.finish job success).1 (consumed.finish job success).2 where
  own call ticket result data member := by
    simp only [finish, List.mem_singleton, Event.returned.injEq, Option.some.injEq] at member
    obtain ⟨rfl, rfl, -, -⟩ := member
    exact called
  reported call ticket result data member := by
    simp only [finish, List.mem_singleton, Event.returned.injEq, Option.some.injEq] at member
    obtain ⟨-, rfl, rfl, -⟩ := member
    exact own
  refused call result data member := by simp [finish] at member
  read lba length ticket data member := by
    simp only [finish, List.mem_singleton, Event.returned.injEq] at member
    obtain ⟨call, -, successful, data⟩ := member
    rw [data, ← call]
    exact (if_pos successful.symm).trans (delivered successful.symm lba length call.symm)
  written lba changed := absurd (congrFun (congrArg Device.medium same) lba) changed
  stored ticket lba input forceUnitAccess member := by simp [finish] at member

variable {after : System} {events : List Event}

/-- A look takes the answer to the command of its own job. -/
theorem look_paired (orderly : system.OneAtATime)
    (looks : system.look = some (after, events)) : Paired system after events := by
  unfold look at looks
  split at looks
  · cases looks
  · split at looks <;>
    · cases looks
      exact paired_of_silent rfl
  · rename_i job polls
    have waits : system.stage.job? = some job := by rw [polls]; rfl
    split at looks
    · rename_i arrived
      obtain ⟨other, code, serves, unread, delivered, answered, -, -⟩ := orderly.arrived arrived
      obtain rfl : other = job := by
        rcases serves.stage with idle | job?
        · rw [idle] at waits
          cases waits
        · exact Option.some.inj (job?.symm.trans waits)
      have head : system.headCompletion = _ := unread.head
      have disposed : classifyCompletion system.controller.ioQueue system.headCompletion
          other.commandId = if code = 0 then .success else .statusError := by
        rw [head]
        unfold classifyCompletion
        rw [if_neg (by rintro (wrong | wrong) <;> exact wrong rfl), (status_phase code _).2]
        by_cases zero : code = 0
        · rw [if_neg (not_not_intro zero), if_pos zero]
        · rw [if_pos zero, if_neg zero]
      have succeeds : (classifyCompletion system.controller.ioQueue system.headCompletion
          other.commandId == .success) = decide (code = 0) := by
        rw [disposed]
        by_cases zero : code = 0 <;> simp [zero]
      cases looks
      rw [succeeds]
      have plain (successful : (decide (code = 0) && !other.injectFailure) = true) : code = 0 := by
        simp only [Bool.and_eq_true, decide_eq_true_eq] at successful
        exact successful.1
      refine paired_finish serves.called ?_ rfl fun successful lba length call => ?_
      · rw [show (other.ticket, 0) ∈ system.device.posted ↔ _ from answered 0]
        constructor
        · intro successful
          rw [plain successful]
        · intro zero
          cases zero
          simp [(delivered rfl).1]
      · exact (delivered (plain successful)).2 lba length call
    · cases looks
      exact paired_of_silent rfl

theorem expire_paired (orderly : system.OneAtATime) (missing : ¬ system.Arrived)
    (expires : system.expire = some (after, events)) : Paired system after events := by
  have gives {job : Job} (waits : system.stage.job? = some job) :
      Paired system (system.finish job false).1 (system.finish job false).2 := by
    have answered := orderly.unanswered missing waits
    refine paired_finish (orderly.waits waits).1.called ?_ rfl fun successful => by cases successful
    rw [show (job.ticket, 0) ∈ system.device.posted ↔ _ from answered 0]
    exact ⟨fun successful => (nomatch successful), fun answer => (nomatch answer)⟩
  unfold expire at expires
  split at expires
  · cases expires
  · rename_i job baseline awaits
    split at expires
    · cases expires
      exact gives (by rw [awaits]; rfl)
    · cases expires
      exact paired_of_silent rfl
  · rename_i job polls
    cases expires
    exact gives (by rw [polls]; rfl)

/-! ### The device at work -/

theorem lba_nvmTransferCommand (geometry : Geometry) (opcode commandId : Nat) {place : Nat}
    (forceUnitAccess : Bool) (fits : place ≤ geometry.namespaceSizeLbas) :
    Submission.lba { nvmTransferCommand geometry opcode place forceUnitAccess with
      commandId := commandId } = place := by
  have bound := geometry.fits
  show place / 2 ^ 32 % 2 ^ 32 * 2 ^ 32 + place % 2 ^ 32 = place
  omega

/-- A command that may succeed was not turned into a failure. -/
theorem plain_of_inside {job : Job} (plain : job.call = .flush → job.injectFailure = false)
    (inside : ¬ system.OutOfRange (system.geometry.orderOf job).submission) :
    job.injectFailure = false := by
  by_contra injected
  rw [Bool.not_eq_false] at injected
  cases call : job.call with
  | flush =>
    rw [plain call] at injected
    cases injected
  | readBlock lba length =>
    refine inside ⟨?_, ?_⟩
    · simp [Geometry.orderOf, Geometry.command, call, nvmTransferCommand, emptySubmission]
    · simp only [Geometry.orderOf, Geometry.command, call, injected, if_true]
      rw [lba_nvmTransferCommand _ _ _ _ (Nat.le_refl _)]
  | writeBlock lba input forceUnitAccess =>
    refine inside ⟨?_, ?_⟩
    · simp [Geometry.orderOf, Geometry.command, call, nvmTransferCommand, emptySubmission]
    · simp only [Geometry.orderOf, Geometry.command, call, injected, if_true]
      rw [lba_nvmTransferCommand _ _ _ _ (Nat.le_refl _)]

/-- What the device does for a call. -/
def served (system : System) : Call → System
  | .readBlock lba _ => system.fillPage system.geometry.ioBufferAddress fun offset =>
    if offset < system.geometry.logicalBlockSize then system.device.medium lba offset
    else system.pages system.geometry.ioBufferAddress offset
  | .writeBlock lba _ _ => { system with device := { system.device with
    medium := update system.device.medium lba fun offset =>
      if offset < system.geometry.logicalBlockSize then
        system.pages system.geometry.ioBufferAddress offset
      else system.device.medium lba offset } }
  | .flush => system

theorem transfer_eq_served {job : Job} (accepted : system.geometry.Accepts job.call)
    (plain : job.injectFailure = false) :
    system.transfer (system.geometry.orderOf job).submission = system.served job.call := by
  cases call : job.call with
  | flush => simp [Geometry.orderOf, Geometry.command, call, transfer, emptySubmission, served]
  | readBlock lba length =>
    rw [call] at accepted
    have place := lba_nvmTransferCommand system.geometry nvmRead job.commandId false
      (Nat.le_of_lt accepted.1)
    simp only [Geometry.orderOf, Geometry.command, call, plain, transfer, Bool.false_eq_true, if_false,
      place, served]
    rfl
  | writeBlock lba input forceUnitAccess =>
    rw [call] at accepted
    have place := lba_nvmTransferCommand system.geometry nvmWrite job.commandId forceUnitAccess
      (Nat.le_of_lt accepted.1)
    simp only [Geometry.orderOf, Geometry.command, call, plain, transfer, Bool.false_eq_true, if_false,
      place, served]
    rfl

variable {index : Nat} {order : Order}

/-- The device can only execute the command underway. -/
theorem OneAtATime.executing (orderly : system.OneAtATime)
    (found : system.device.pending[index]? = some order) :
    ∃ job, system.Serves job ∧ order = system.geometry.orderOf job ∧
      system.device.pending.eraseIdx index = [] ∧ system.device.executed = [] ∧
      system.view.Aligned ∧ system.view.Filled job ∧ system.view.Answered job.ticket none := by
  rcases orderly.load with ⟨-, clear⟩ | ⟨job, serves, progress⟩
  · rw [show system.device.pending = [] from clear.pending] at found
    cases found
  · cases progress with
    | pending pending executed aligned filled answered =>
      have only : system.device.pending = [system.geometry.orderOf job] := pending
      rw [only, List.getElem?_singleton] at found
      split at found
      · rename_i first
        refine ⟨job, serves, (Option.some.inj found).symm, ?_, executed, aligned, filled, answered⟩
        rw [only, first]
        rfl
      · cases found
    | executed _ pending =>
      rw [show system.device.pending = [] from pending] at found
      cases found
    | posted _ pending =>
      rw [show system.device.pending = [] from pending] at found
      cases found

variable {code : Nat}

/-- The device can only answer the command underway. -/
theorem OneAtATime.posting (orderly : system.OneAtATime)
    (found : system.device.executed[index]? = some (order, code)) :
    ∃ job, system.Serves job ∧ order = system.geometry.orderOf job ∧ system.device.pending = [] ∧
      system.device.executed.eraseIdx index = [] ∧ system.view.Aligned ∧
      system.view.Delivered job code ∧ system.view.Answered job.ticket none := by
  rcases orderly.load with ⟨-, clear⟩ | ⟨job, serves, progress⟩
  · rw [show system.device.executed = [] from clear.executed] at found
    cases found
  · cases progress with
    | pending _ executed =>
      rw [show system.device.executed = [] from executed] at found
      cases found
    | executed other pending executed aligned delivered answered =>
      have only : system.device.executed = [(system.geometry.orderOf job, other)] := executed
      rw [only, List.getElem?_singleton] at found
      split at found
      · rename_i first
        cases (Option.some.inj found)
        refine ⟨job, serves, rfl, pending, ?_, aligned, delivered, answered⟩
        rw [only, first]
        rfl
      · cases found
    | posted _ _ executed =>
      rw [show system.device.executed = [] from executed] at found
      cases found

/-- A step of the device on the one order it has. -/
theorem OneAtATime.execute_cases (orderly : system.OneAtATime)
    (executes : system.execute index code = some (after, events)) :
    ∃ job moved, system.Serves job ∧ system.view.Aligned ∧ system.view.Filled job ∧
      system.view.Answered job.ticket none ∧ (code = 0 → job.injectFailure = false) ∧
      moved = (if code = 0 then system.served job.call else system) ∧
      events = [.executed job.ticket code] ∧
      after = { moved with device := { moved.device with
        pending := []
        executed := [(system.geometry.orderOf job, code)] } } := by
  unfold execute at executes
  split at executes
  · cases executes
  · rename_i order found
    obtain ⟨job, serves, rfl, rest, empty, aligned, filled, answered⟩ := orderly.executing found
    split at executes
    · cases executes
    · rename_i allowed
      have plain : code = 0 → job.injectFailure = false := fun zero =>
        plain_of_inside serves.plain fun outside => allowed (.inr ⟨zero, outside⟩)
      refine ⟨job, _, serves, aligned, filled, answered, plain, rfl, ?_⟩
      cases (Option.some.inj executes)
      rw [rest, empty]
      refine ⟨rfl, ?_⟩
      by_cases zero : code = 0
      · rw [if_pos zero, if_pos zero, transfer_eq_served serves.accepted (plain zero)]
        rfl
      · rw [if_neg zero, if_neg zero]
        rfl

/-- What the device does for a call leaves all but the page and the medium. -/
theorem served_frame (system : System) (call : Call) :
    (system.served call).geometry = system.geometry ∧ (system.served call).controller = system.controller ∧
      (system.served call).stage = system.stage ∧ (system.served call).calls = system.calls ∧
      (system.served call).completions = system.completions ∧
      ∃ medium, (system.served call).device = { system.device with medium := medium } := by
  cases call <;> exact ⟨rfl, rfl, rfl, rfl, rfl, _, rfl⟩

/-- A write stores the page. -/
theorem block_served_write (system : System) (lba : Nat) (input : Bytes) (forceUnitAccess : Bool) :
    (system.served (.writeBlock lba input forceUnitAccess)).block lba =
      (List.range system.geometry.logicalBlockSize).map
        (system.pages system.geometry.ioBufferAddress) := by
  refine List.map_congr_left fun offset inside => ?_
  simp only [served, update_self]
  exact if_pos (List.mem_range.mp inside)

/-- A read leaves the block in the page. -/
theorem page_served_read (system : System) (lba length : Nat) :
    (List.range system.geometry.logicalBlockSize).map
        ((system.served (.readBlock lba length)).pages system.geometry.ioBufferAddress) =
      (List.range system.geometry.logicalBlockSize).map (system.device.medium lba) := by
  refine List.map_congr_left fun offset inside => ?_
  simp only [served, fillPage, update_self]
  exact if_pos (List.mem_range.mp inside)

theorem execute_paired (orderly : system.OneAtATime)
    (executes : system.execute index code = some (after, events)) : Paired system after events := by
  obtain ⟨job, moved, serves, -, filled, -, -, rfl, rfl, rfl⟩ := orderly.execute_cases executes
  have called := serves.called
  by_cases zero : code = 0
  · rw [if_pos zero]
    obtain ⟨-, -, -, calls, -, -⟩ := served_frame system job.call
    refine paired_of_executed (fun lba changed => ?_) fun lba input forceUnitAccess _ call => ?_
    · cases kind : job.call with
      | writeBlock place input forceUnitAccess =>
        rw [kind] at changed called
        obtain rfl : lba = place := by
          by_contra elsewhere
          exact changed (update_of_ne elsewhere ..)
        exact ⟨input, forceUnitAccess, zero, called⟩
      | readBlock place length => exact absurd (by rw [kind]; rfl) changed
      | flush => exact absurd (by rw [kind]; rfl) changed
    · have same : job.call = .writeBlock lba input forceUnitAccess := by
        refine Option.some.inj (called.symm.trans ?_)
        rwa [← calls]
      have taken : (List.range system.geometry.logicalBlockSize).map
          (system.pages system.geometry.ioBufferAddress) = input := filled lba input forceUnitAccess same
      rw [same]
      exact (block_served_write system lba input forceUnitAccess).trans taken
  · rw [if_neg zero]
    exact paired_of_executed (fun lba changed => absurd rfl changed) fun _ _ _ success =>
      absurd success zero

/-! ### One command at a time -/

/-- Nothing changed that the command underway depends on. -/
structure Unmoved (before after : System) : Prop where
  view : after.view = before.view
  calls : after.calls = before.calls

theorem OneAtATime.unmoved (orderly : system.OneAtATime) (unmoved : Unmoved system after)
    (stage : after.stage = .idle ∨ after.stage.job? = system.stage.job?) : after.OneAtATime := by
  obtain ⟨view, calls⟩ := unmoved
  have geometry : after.geometry = system.geometry := congrArg View.geometry view
  have queue : after.controller.ioQueue = system.controller.ioQueue := congrArg View.queue view
  have device : after.device = system.device := congrArg View.device view
  constructor
  · rw [device, queue]
    exact orderly.rung
  · rw [queue, geometry]
    exact orderly.depth
  · rw [queue, geometry]
    exact orderly.headBelow
  · rw [device, calls]
    exact orderly.known
  · rw [view]
    rcases orderly.load with ⟨idle, clear⟩ | ⟨job, serves, progress⟩
    · refine .inl ⟨?_, clear⟩
      rcases stage with now | same
      · exact now
      · rw [idle] at same
        cases kind : after.stage with
        | idle => rfl
        | awaitingInterrupt job baseline => rw [kind] at same; cases same
        | polling job => rw [kind] at same; cases same
    · refine .inr ⟨job, ⟨?_, ?_, serves.plain, ?_⟩, progress⟩
      · rcases stage with now | same
        · exact .inl now
        · rcases serves.stage with idle | waits
          · rw [idle] at same
            cases kind : after.stage with
            | idle => exact .inl rfl
            | awaitingInterrupt job baseline => rw [kind] at same; cases same
            | polling job => rw [kind] at same; cases same
          · exact .inr (same.trans waits)
      · rw [geometry]
        exact serves.accepted
      · rw [calls]
        exact serves.called

/-- After its execution the command underway waits to be answered. -/
theorem executed_keeps (orderly : system.OneAtATime) {job : Job} {moved : System}
    (serves : system.Serves job) (aligned : system.view.Aligned)
    (answered : system.view.Answered job.ticket none)
    (frame : moved.geometry = system.geometry ∧ moved.controller = system.controller ∧
      moved.stage = system.stage ∧ moved.calls = system.calls ∧
      moved.completions = system.completions ∧
      ∃ medium, moved.device = { system.device with medium := medium })
    (delivered : moved.view.Delivered job code) : ({ moved with device := { moved.device with
      pending := []
      executed := [(system.geometry.orderOf job, code)] } } : System).OneAtATime := by
  obtain ⟨geometry, controller, device, stage, interruptCount, pages, submissions, completions,
    calls⟩ := moved
  obtain ⟨rfl, rfl, rfl, rfl, rfl, medium, rfl⟩ := frame
  refine ⟨orderly.rung, orderly.depth, orderly.headBelow, orderly.known, .inr ⟨job, ⟨serves.stage,
    serves.accepted, serves.plain, serves.called⟩, .executed code rfl rfl ?_ delivered answered⟩⟩
  exact ⟨aligned.slot, aligned.phase, aligned.laps⟩

theorem execute_keeps (orderly : system.OneAtATime)
    (executes : system.execute index code = some (after, events)) : after.OneAtATime := by
  obtain ⟨job, moved, serves, aligned, -, answered, plain, rfl, -, rfl⟩ :=
    orderly.execute_cases executes
  by_cases zero : code = 0
  · rw [if_pos zero]
    refine executed_keeps orderly serves aligned answered (served_frame system job.call) ?_
    refine fun success => ⟨plain success, fun lba length call => ?_⟩
    have accepted := serves.accepted
    rw [call] at accepted ⊢
    rw [accepted.2]
    exact page_served_read system lba length
  · rw [if_neg zero]
    exact executed_keeps orderly serves aligned answered ⟨rfl, rfl, rfl, rfl, rfl, _, rfl⟩ fun success =>
      absurd success zero

theorem post_keeps (orderly : system.OneAtATime)
    (posts : system.post index = some (after, events)) : after.OneAtATime := by
  unfold post at posts
  split at posts
  · cases posts
  · rename_i order code found
    obtain ⟨job, serves, rfl, pending, rest, aligned, delivered, answered⟩ := orderly.posting found
    cases (Option.some.inj posts)
    have slot : system.device.postSlot = system.controller.ioQueue.completionHead := aligned.slot
    have phase : system.device.postPhase = system.controller.ioQueue.completionPhase := aligned.phase
    obtain ⟨head, turn⟩ := system.controller.ioQueue.advanceCompletion_position
    have laps : Laps (update system.completions system.controller.ioQueue.completionHead
        { submissionQueueId := system.controller.ioQueue.queueId
          commandId := job.commandId
          status := 2 * code + system.controller.ioQueue.completionPhase.toNat })
        system.controller.ioQueue.depth system.controller.ioQueue.advanceCompletion.completionHead
        system.controller.ioQueue.advanceCompletion.completionPhase := by
      rw [head, turn]
      exact aligned.laps.fill orderly.below (phase_of_status _ _ _ _)
    have known : job.ticket < system.calls.length := by
      obtain ⟨inside, -⟩ := List.getElem?_eq_some_iff.mp serves.called
      exact inside
    refine ⟨orderly.rung, orderly.depth, orderly.headBelow, ?_, .inr ⟨job, ⟨serves.stage,
      serves.accepted, serves.plain, serves.called⟩, .posted code pending rest ?_ delivered ?_⟩⟩
    · intro answer member
      rcases List.mem_append.mp member with old | new
      · exact orderly.known answer old
      · rwa [List.mem_singleton.mp new]
    · have depth : system.controller.ioQueue.depth = system.geometry.depth := orderly.depth
      constructor
      · show (if decide (system.device.postSlot + 1 = system.geometry.depth) = true then 0
          else system.device.postSlot + 1) = system.controller.ioQueue.advanceCompletion.completionHead
        rw [head, slot, ← depth]
        simp only [decide_eq_true_eq]
      · show (system.device.postPhase != decide (system.device.postSlot + 1 = system.geometry.depth)) =
          system.controller.ioQueue.advanceCompletion.completionPhase
        rw [turn, slot, phase, ← depth]
      · show Laps (update system.completions system.device.postSlot _) _ _ _
        rwa [slot, phase]
      · show update system.completions system.device.postSlot _
          system.controller.ioQueue.completionHead = _
        rw [slot, phase, update_self]
        rfl
    · intro other
      show _ ∈ system.device.posted ++ [_] ↔ _
      rw [List.mem_append, show (job.ticket, other) ∈ system.device.posted ↔ _ from answered other]
      simp [Geometry.orderOf, eq_comm]

theorem advanceCompletion_rest (queue : Queue) :
    queue.advanceCompletion.depth = queue.depth ∧ queue.advanceCompletion.queueId = queue.queueId ∧
      queue.advanceCompletion.submissionTail = queue.submissionTail := by
  unfold Queue.advanceCompletion
  split <;> exact ⟨rfl, rfl, rfl⟩

/-- Reading the answer to the command underway leaves nothing underway. -/
theorem look_keeps (orderly : system.OneAtATime)
    (looks : system.look = some (after, events)) : after.OneAtATime := by
  unfold look at looks
  split at looks
  · cases looks
  · rename_i job baseline awaits
    split at looks
    · cases looks
      exact orderly
    · cases looks
      exact orderly.unmoved ⟨rfl, rfl⟩ (.inr (by rw [awaits]; rfl))
  · split at looks
    · rename_i arrived
      obtain ⟨job, code, -, unread, -, -, pending, executed⟩ := orderly.arrived arrived
      obtain ⟨depth, -, tail⟩ := advanceCompletion_rest system.controller.ioQueue
      obtain ⟨head, -⟩ := system.controller.ioQueue.advanceCompletion_position
      cases looks
      refine ⟨?_, ?_, ?_, orderly.known, .inl ⟨rfl, pending, executed, unread.slot, unread.phase, ?_⟩⟩
      · show system.device.doorbell = system.controller.ioQueue.advanceCompletion.submissionTail
        rw [tail]
        exact orderly.rung
      · show system.controller.ioQueue.advanceCompletion.depth = system.geometry.depth
        rw [depth]
        exact orderly.depth
      · show system.controller.ioQueue.advanceCompletion.completionHead < system.geometry.depth
        have deep := system.geometry.deep
        have below := orderly.headBelow
        have same := orderly.depth
        rw [head]
        split <;> omega
      · show Laps system.completions system.controller.ioQueue.advanceCompletion.depth _ _
        rw [depth]
        exact unread.laps
    · cases looks
      exact orderly

theorem expire_keeps (orderly : system.OneAtATime)
    (expires : system.expire = some (after, events)) : after.OneAtATime := by
  unfold expire at expires
  split at expires
  · cases expires
  · rename_i job baseline awaits
    split at expires
    · cases expires
      exact orderly.unmoved ⟨rfl, rfl⟩ (.inl rfl)
    · cases expires
      exact orderly.unmoved ⟨rfl, rfl⟩ (.inr (by rw [awaits]; rfl))
  · cases expires
    exact orderly.unmoved ⟨rfl, rfl⟩ (.inl rfl)

/-- The next command is the one underway once it is submitted. -/
theorem submit_keeps {call : Call} {injectFailure : Bool}
    (rung : system.device.doorbell = system.controller.ioQueue.submissionTail)
    (depth : system.controller.ioQueue.depth = system.geometry.depth)
    (headBelow : system.controller.ioQueue.completionHead < system.geometry.depth)
    (known : ∀ answer ∈ system.device.posted, answer.1 < system.calls.length)
    (clear : system.view.Clear) (accepted : system.geometry.Accepts call)
    (plain : call = .flush → injectFailure = false)
    (filled : ∀ lba input forceUnitAccess, call = .writeBlock lba input forceUnitAccess →
      (List.range system.geometry.logicalBlockSize).map
        (system.pages system.geometry.ioBufferAddress) = input) :
    (system.submit call injectFailure).OneAtATime := by
  let job : Job :=
    { call
      ticket := system.calls.length
      commandId := system.controller.nextCommandId
      injectFailure }
  have taken : (system.submit call injectFailure).device.pending = [system.geometry.orderOf job] := by
    have none : system.device.pending = [] := clear.pending
    show system.device.pending ++ [_] = _
    rw [none, rung, update_self]
    rfl
  refine ⟨rfl, depth, headBelow, fun answer member => ?_, .inr ⟨job, ⟨.inr ?_, accepted, plain, ?_⟩,
    .pending taken clear.executed ⟨clear.aligned.slot, clear.aligned.phase, clear.aligned.laps⟩
      filled fun code => ?_⟩⟩
  · show answer.1 < (system.calls ++ [call]).length
    rw [List.length_append]
    exact Nat.lt_of_lt_of_le (known answer member) (Nat.le_add_right _ _)
  · unfold submit
    dsimp only
    split <;> rfl
  · show (system.calls ++ [call])[system.calls.length]? = some call
    rw [List.getElem?_append_right (Nat.le_refl _), Nat.sub_self]
    rfl
  · constructor
    · intro member
      exact absurd (known _ member) (Nat.lt_irrefl _)
    · intro answer
      cases answer

theorem begin_keeps (orderly : system.OneAtATime) (quiet : system.Quiet) (call : Call) :
    (system.begin call).1.OneAtATime := by
  have clear := orderly.clear quiet
  have valid {lba : Nat} (transfer : system.geometry.validTransfer lba = true) :
      lba < system.geometry.namespaceSizeLbas := by
    simp only [Geometry.validTransfer, Bool.and_eq_true, decide_eq_true_eq] at transfer
    exact transfer.1.2
  have aligned := clear.aligned
  cases call with
  | readBlock lba length =>
    unfold begin
    dsimp only
    split
    · exact orderly
    · rename_i accepted
      simp only [not_or, Bool.not_eq_false, not_not] at accepted
      exact submit_keeps orderly.rung orderly.depth orderly.headBelow orderly.known
        ⟨clear.pending, clear.executed, aligned.slot, aligned.phase, aligned.laps⟩
        ⟨valid accepted.1, accepted.2⟩ (fun flush => (nomatch flush)) fun _ _ _ write => (nomatch write)
  | writeBlock lba input forceUnitAccess =>
    unfold begin
    dsimp only
    split
    · exact orderly
    · rename_i accepted
      simp only [not_or, Bool.not_eq_false, not_not] at accepted
      refine submit_keeps orderly.rung orderly.depth orderly.headBelow orderly.known
        ⟨clear.pending, clear.executed, aligned.slot, aligned.phase, aligned.laps⟩
        ⟨valid accepted.1, accepted.2⟩ (fun flush => (nomatch flush)) fun _ _ _ write => ?_
      obtain ⟨-, rfl, -⟩ := Call.writeBlock.inj write
      show (List.range system.geometry.logicalBlockSize).map (update system.pages
        system.geometry.ioBufferAddress _ system.geometry.ioBufferAddress) = input
      rw [update_self, ← accepted.2]
      refine List.ext_getElem (by simp) fun index _ inside => ?_
      simp [inside]
  | flush =>
    exact submit_keeps orderly.rung orderly.depth orderly.headBelow orderly.known clear trivial
      (fun _ => rfl) fun _ _ _ write => (nomatch write)

theorem begin_paired (call : Call) :
    Paired system (system.begin call).1 (system.begin call).2 := by
  cases call with
  | flush => exact paired_of_silent rfl
  | readBlock lba length =>
    unfold begin
    dsimp only
    split
    · exact paired_of_refused _
    · exact paired_of_silent rfl
  | writeBlock lba input forceUnitAccess =>
    unfold begin
    dsimp only
    split
    · exact paired_of_refused _
    · exact paired_of_silent rfl

theorem post_paired
    (posts : system.post index = some (after, events)) : Paired system after events := by
  unfold post at posts
  split at posts
  · cases posts
  · cases posts
    exact paired_of_silent rfl

theorem unmoved_armOneShotReadError (system : System) (lba : Nat) :
    Unmoved system (system.armOneShotReadError lba) ∧
      (system.armOneShotReadError lba).stage = system.stage := by
  unfold armOneShotReadError
  split <;> exact ⟨⟨rfl, rfl⟩, rfl⟩

theorem unmoved_armOneShotWriteError (system : System) (lba : Nat) :
    Unmoved system (system.armOneShotWriteError lba) ∧
      (system.armOneShotWriteError lba).stage = system.stage := by
  unfold armOneShotWriteError
  split <;> exact ⟨⟨rfl, rfl⟩, rfl⟩

end System

/-! ### All runs -/

variable {system : System} {action : Action} {events : List Event}

theorem machine_keeps (orderly : system.OneAtATime) (timely : Timely action system)
    (steps : machine action system = some (after, events)) : after.OneAtATime := by
  cases action with
  | call call =>
    simp only [machine] at steps
    split at steps
    · obtain rfl : (system.begin call).1 = after := congrArg Prod.fst (Option.some.inj steps)
      exact System.begin_keeps orderly timely call
    · cases steps
  | armOneShotReadError lba =>
    simp only [machine] at steps
    split at steps
    · cases steps
      obtain ⟨unmoved, stage⟩ := System.unmoved_armOneShotReadError system lba
      exact orderly.unmoved unmoved (.inr (by rw [stage]))
    · cases steps
  | armOneShotWriteError lba =>
    simp only [machine] at steps
    split at steps
    · cases steps
      obtain ⟨unmoved, stage⟩ := System.unmoved_armOneShotWriteError system lba
      exact orderly.unmoved unmoved (.inr (by rw [stage]))
    · cases steps
  | look => exact System.look_keeps orderly steps
  | expire => exact System.expire_keeps orderly steps
  | interrupt =>
    cases steps
    exact orderly.unmoved ⟨rfl, rfl⟩ (.inr rfl)
  | execute index code => exact System.execute_keeps orderly steps
  | post index => exact System.post_keeps orderly steps

theorem machine_paired (orderly : system.OneAtATime) (timely : Timely action system)
    (steps : machine action system = some (after, events)) : Paired system after events := by
  cases action with
  | call call =>
    simp only [machine] at steps
    split at steps
    · obtain rfl : (system.begin call).1 = after := congrArg Prod.fst (Option.some.inj steps)
      obtain rfl : (system.begin call).2 = events := congrArg Prod.snd (Option.some.inj steps)
      exact System.begin_paired call
    · cases steps
  | armOneShotReadError lba =>
    simp only [machine] at steps
    split at steps
    · cases steps
      exact paired_of_silent (congrArg (Device.medium ∘ View.device)
        (System.unmoved_armOneShotReadError system lba).1.view)
    · cases steps
  | armOneShotWriteError lba =>
    simp only [machine] at steps
    split at steps
    · cases steps
      exact paired_of_silent (congrArg (Device.medium ∘ View.device)
        (System.unmoved_armOneShotWriteError system lba).1.view)
    · cases steps
  | look => exact System.look_paired orderly steps
  | expire => exact System.expire_paired orderly timely steps
  | interrupt =>
    cases steps
    exact paired_of_silent rfl
  | execute index code => exact System.execute_paired orderly steps
  | post index => exact System.post_paired steps

theorem fresh_oneAtATime (geometry : Geometry) (nextCommandId : Nat) (ioInterruptsEnabled : Bool)
    (pages medium : Nat → Nat → UInt8) :
    (fresh geometry nextCommandId ioInterruptsEnabled pages medium).OneAtATime where
  rung := rfl
  depth := rfl
  headBelow := Nat.lt_of_lt_of_le Nat.zero_lt_two geometry.deep
  known _ member := nomatch member
  load := by
    refine .inl ⟨rfl, rfl, rfl, rfl, rfl, fun index _ => ?_⟩
    show Completion.phase {} = if index < 0 then true else !true
    rw [if_neg (Nat.not_lt_zero index)]
    rfl

/-- In a run in which every call starts with nothing underway and no deadline passes over an
answer, every call reports what became of its own command. -/
theorem commands_paired {geometry : Geometry} {nextCommandId : Nat} {ioInterruptsEnabled : Bool}
    {pages medium : Nat → Nat → UInt8} {system after : System} {action : Action} {events : List Event}
    (reached : Runs.Reached machine Timely
      (fresh geometry nextCommandId ioInterruptsEnabled pages medium) system)
    (timely : Timely action system) (steps : machine action system = some (after, events)) :
    Paired system after events := by
  have orderly : system.OneAtATime := reached.keeps (fresh_oneAtATime ..)
    fun _ _ _ _ orderly timely steps => machine_keeps orderly timely steps
  exact machine_paired orderly timely steps

/-- A disk of eight blocks of 512 bytes. -/
def smallDisk : Geometry where
  depth := 16
  namespaceId := 1
  namespaceSizeLbas := 8
  logicalBlockSize := 512
  ioBufferAddress := pageSize
  deep := by decide
  fits := by decide

def blank : System := fresh smallDisk 1 false (fun _ _ => 0) fun _ _ => 0

/-- The disk has executed a flush and answered it. -/
def answered : System := Runs.run machine [.call .flush, .execute 0 0, .post 0] blank

theorem answered_flush_paired : ∃ after, machine .look answered =
    some (after, [.returned .flush (some 0) true []]) ∧
      Paired answered after [.returned .flush (some 0) true []] := by
  have quiet : blank.Quiet := ⟨rfl, rfl, by decide +kernel⟩
  have admits : Runs.Admits machine Timely [.call .flush, .execute 0 0, .post 0] blank :=
    ⟨quiet, trivial, trivial, trivial⟩
  have reached : Runs.Reached machine Timely blank answered := Runs.Reached.origin.run admits
  have timely : Timely .look answered := trivial
  exact ⟨_, rfl, commands_paired reached timely rfl⟩

/-- A write to block 1 was given up on, and the page was filled again for a write to block 2. -/
def refilled : System :=
  Runs.run machine [.call (.writeBlock 1 (List.replicate 512 1) false), .expire,
    .call (.writeBlock 2 (List.replicate 512 2) false)] blank

/-- The device executes the first write late and stores the bytes of the second one. -/
theorem refilled_stored : ¬ ∀ system after action events,
    Runs.Reached machine (fun _ _ => True) blank system →
      machine action system = some (after, events) → Paired system after events := by
  intro paired
  have reached : Runs.Reached machine (fun _ _ => True) blank refilled :=
    Runs.Reached.origin.run (Runs.admits_all _ _)
  have executes : (machine (.execute 0 0) refilled).map Prod.snd = some [.executed 0 0] := by
    decide +kernel
  have calls : (machine (.execute 0 0) refilled).map (fun outcome => outcome.1.calls[0]?) =
      some (some (.writeBlock 1 (List.replicate 512 1) false)) := by decide +kernel
  have stored : (machine (.execute 0 0) refilled).map (fun outcome => (outcome.1.block 1)[0]?) =
      some (some 2) := by decide +kernel
  rcases outcome : machine (.execute 0 0) refilled with _ | ⟨after, events⟩
  · rw [outcome] at executes
    cases executes
  · rw [outcome] at executes calls stored
    obtain rfl : events = [.executed 0 0] := Option.some.inj executes
    have wanted := (paired refilled after _ _ reached outcome).stored 0 1 (List.replicate 512 1) false
      (List.mem_singleton_self _) (Option.some.inj calls)
    have found : (after.block 1)[0]? = some 2 := Option.some.inj stored
    rw [wanted] at found
    exact absurd found (by decide)

end ZigOs.Nvme
