/-
This file models the key events that the reports of a keyboard turn into. A report names
the keys that are down; what changed since the last one goes into a ring of events, which a
consumer empties. As long as no report names a key twice, each key's events tell its story:
down and up in turn, and down at the end if the last report names it.
-/

import Mathlib.Data.List.Basic
import Mathlib.Data.List.Count
import ZigOs.Lib.RingBuffer

namespace ZigOs.Input

open RingBuffer

abbrev queueCapacity : Nat := 32

inductive Source where
  | ps2 | usbHid
  deriving DecidableEq, Repr

inductive Action where
  | pressed | released
  deriving DecidableEq, Repr

def usageToAscii (usage modifiers : UInt8) : UInt8 :=
  let shifted := modifiers &&& 0x22 ≠ 0
  if 0x04 ≤ usage ∧ usage ≤ 0x1D then (if shifted then 65 else 97) + (usage - 0x04)
  else if 0x1E ≤ usage ∧ usage ≤ 0x27 then
    (if shifted then [33, 64, 35, 36, 37, 94, 38, 42, 40, 41] else [49, 50, 51, 52, 53, 54, 55, 56, 57, 48]).getD
      (usage - 0x1E).toNat 0
  else if usage = 0x28 then 10
  else if usage = 0x2A then 8
  else if usage = 0x2B then 9
  else if usage = 0x2C then 32
  else if 0x2D ≤ usage ∧ usage ≤ 0x31 then
    (if shifted then [95, 43, 123, 125, 124] else [45, 61, 91, 93, 92]).getD (usage - 0x2D).toNat 0
  else if 0x33 ≤ usage ∧ usage ≤ 0x38 then
    (if shifted then [58, 34, 126, 60, 62, 63] else [59, 39, 96, 44, 46, 47]).getD (usage - 0x33).toNat 0
  else 0

/-- What is pushed: an event without its number. -/
structure Change where
  source : Source
  action : Action
  usage : UInt8
  modifiers : UInt8
  deriving DecidableEq, Repr

structure KeyEvent extends Change where
  sequence : UInt64
  ascii : UInt8
  deriving DecidableEq, Repr

def Change.event (change : Change) (sequence : UInt64) : KeyEvent :=
  { change with sequence, ascii := usageToAscii change.usage change.modifiers }

/-! ### The queue -/

structure Queue where
  events : Nat → KeyEvent := fun _ => ⟨⟨.usbHid, .pressed, 0, 0⟩, 0, 0⟩
  head : UInt32 := 0
  tail : UInt32 := 0
  nextSequence : UInt64 := 1
  dropped : UInt32 := 0

namespace Queue

variable (queue : Queue)

def count : Nat := (queue.head - queue.tail).toNat

def push (change : Change) : Bool × Queue :=
  if change.usage = 0 then (false, queue)
  else if queueCapacity ≤ queue.count then (false, { queue with dropped := queue.dropped + 1 })
  else
    (true,
      { queue with
        events := Function.update queue.events (queue.head.toNat % queueCapacity)
          (change.event queue.nextSequence)
        nextSequence := queue.nextSequence + 1
        head := queue.head + 1 })

def pop : Option KeyEvent × Queue :=
  if queue.tail = queue.head then (none, queue)
  else (some (queue.events (queue.tail.toNat % queueCapacity)), { queue with tail := queue.tail + 1 })

/-- Push the changes of a report and count those that went in. -/
def pushAll (emitted : Nat × Queue) (changes : List Change) : Nat × Queue :=
  changes.foldl (fun emitted change =>
    let pushed := emitted.2.push change
    (emitted.1 + pushed.1.toNat, pushed.2)) emitted

/-- The events that wait, the oldest first. -/
def pending : List KeyEvent :=
  contents queueCapacity queue.events (queue.tail.toNat % queueCapacity) queue.count

end Queue

/-! ### Reports -/

structure Keyboard where
  queue : Queue := {}
  previousKeys : Vector UInt8 6 := Vector.replicate 6 0
  previousModifiers : UInt8 := 0

def containsUsage (keys : Vector UInt8 6) (usage : UInt8) : Bool :=
  keys.toList.any fun candidate => candidate == usage

namespace Keyboard

/-- The keys of one report that the other one does not name. -/
def onlyIn (keys others : Vector UInt8 6) : List UInt8 :=
  keys.toList.filter fun usage => usage != 0 && !containsUsage others usage

def releases (keyboard : Keyboard) (keys : Vector UInt8 6) : List Change :=
  (onlyIn keyboard.previousKeys keys).map fun usage =>
    ⟨.usbHid, .released, usage, keyboard.previousModifiers⟩

def presses (keyboard : Keyboard) (modifiers : UInt8) (keys : Vector UInt8 6) : List Change :=
  (onlyIn keys keyboard.previousKeys).map fun usage => ⟨.usbHid, .pressed, usage, modifiers⟩

def applyHidReport (keyboard : Keyboard) (modifiers : UInt8) (keys : Vector UInt8 6) :
    Nat × Keyboard :=
  let released := Queue.pushAll (0, keyboard.queue) (keyboard.releases keys)
  let emitted := Queue.pushAll released (keyboard.presses modifiers keys)
  (emitted.1, { queue := emitted.2, previousKeys := keys, previousModifiers := modifiers })

/-- Everything that a report changes, in the order of the events. -/
def changes (keyboard : Keyboard) (modifiers : UInt8) (keys : Vector UInt8 6) : List Change :=
  keyboard.releases keys ++ keyboard.presses modifiers keys

end Keyboard

/-! ### What the queue holds -/

/-- The events of changes that are numbered from one number on. -/
def numbered (sequence : UInt64) : List Change → List KeyEvent
  | [] => []
  | change :: rest => change.event sequence :: numbered (sequence + 1) rest

namespace Queue

variable {queue : Queue}

/-- The capacity divides the range of the cursors, so the ring survives their wrapping. -/
theorem head_index (queue : Queue) : queue.head.toNat % queueCapacity =
    (queue.tail.toNat % queueCapacity + queue.count) % queueCapacity := by
  have sizes : queueCapacity = 32 := rfl
  have headFits := queue.head.toNat_lt
  have tailFits := queue.tail.toNat_lt
  rw [count, UInt32.toNat_sub, sizes]
  omega

theorem count_increment (room : queue.count < queueCapacity) :
    (queue.head + 1 - queue.tail).toNat = queue.count + 1 := by
  have sizes : queueCapacity = 32 := rfl
  have headFits := queue.head.toNat_lt
  have tailFits := queue.tail.toNat_lt
  have one : (1 : UInt32).toNat = 1 := rfl
  rw [count, UInt32.toNat_sub] at room ⊢
  rw [UInt32.toNat_sub, UInt32.toNat_add, one]
  omega

theorem push_room {change : Change} (named : change.usage ≠ 0) (room : queue.count < queueCapacity) :
    ∃ after, queue.push change = (true, after) ∧ after.count = queue.count + 1 ∧
      after.pending = queue.pending ++ [change.event queue.nextSequence] ∧
      after.nextSequence = queue.nextSequence + 1 ∧ after.dropped = queue.dropped := by
  have inside : queue.tail.toNat % queueCapacity < queueCapacity := Nat.mod_lt _ (by decide)
  refine ⟨_, (if_neg named).trans (if_neg (Nat.not_le.mpr room)), count_increment room, ?_, rfl, rfl⟩
  have appended := contents_copyIn queue.events [change.event queue.nextSequence] inside
    (show queue.count + 1 ≤ queueCapacity from room)
  rw [← head_index, copyIn_singleton _ _ (Nat.mod_lt _ (by decide))] at appended
  rwa [pending, count, count_increment room]

/-- What did not fit is counted, one by one. -/
theorem pushAll_spec {changes : List Change} (named : ∀ change ∈ changes, change.usage ≠ 0)
    (emitted : Nat) (within : queue.count ≤ queueCapacity) :
    ∃ count after, pushAll (emitted, queue) changes = (count, after) ∧
      after.dropped = queue.dropped +
        UInt32.ofNat (changes.length - (queueCapacity - queue.count)) ∧
      (changes.length ≤ queueCapacity - queue.count → after.count = queue.count + changes.length ∧
        after.pending = queue.pending ++ numbered queue.nextSequence changes ∧
        after.nextSequence = queue.nextSequence + UInt64.ofNat changes.length) := by
  induction changes generalizing queue emitted with
  | nil => exact ⟨_, _, rfl, by simp, fun _ => ⟨rfl, by simp [numbered], by simp⟩⟩
  | cons change rest hypothesis =>
    obtain ⟨first, others⟩ := List.forall_mem_cons.mp named
    rcases Nat.lt_or_ge queue.count queueCapacity with room | full
    · obtain ⟨after, pushed, count, pending, sequence, dropped⟩ := push_room first room
      obtain ⟨total, last, rested, lastDropped, lastHolds⟩ :=
        @hypothesis after others (emitted + 1) (count.trans_le room)
      refine ⟨total, last, ?_, ?_, fun fits => ?_⟩
      · rw [← rested, pushAll, List.foldl_cons]
        dsimp only
        rw [pushed]
        rfl
      · rw [lastDropped, dropped, count, List.length_cons]
        congr 2
        omega
      · rw [List.length_cons] at fits
        obtain ⟨lastCount, lastPending, lastSequence⟩ := lastHolds (by omega)
        refine ⟨?_, ?_, ?_⟩
        · rw [lastCount, count, List.length_cons]
          omega
        · rw [lastPending, pending, sequence, List.append_assoc]
          rfl
        · rw [lastSequence, sequence, List.length_cons, UInt64.add_assoc, Nat.add_comm,
            UInt64.ofNat_add]
          rfl
    · have pushed : queue.push change = (false, { queue with dropped := queue.dropped + 1 }) :=
        (if_neg first).trans (if_pos full)
      obtain ⟨total, last, rested, lastDropped, -⟩ := @hypothesis
        { queue with dropped := queue.dropped + 1 } others (emitted + 0) within
      have same : queue.count = queueCapacity := Nat.le_antisymm within full
      refine ⟨total, last, ?_, ?_, fun fits => ?_⟩
      · rw [← rested, pushAll, List.foldl_cons]
        dsimp only
        rw [pushed]
        rfl
      · have none : queueCapacity - queue.count = 0 := by omega
        have still : count { queue with dropped := queue.dropped + 1 } = queue.count := rfl
        rw [still, none, Nat.sub_zero] at lastDropped
        rw [lastDropped, none, Nat.sub_zero, List.length_cons, Nat.add_comm rest.length,
          UInt32.ofNat_add, ← UInt32.add_assoc]
        rfl
      · rw [List.length_cons] at fits
        omega

theorem pop_spec (within : queue.count ≤ queueCapacity) :
    (queue.pending = [] ∧ queue.pop = (none, queue)) ∨
      ∃ event after, queue.pop = (some event, after) ∧ queue.pending = event :: after.pending ∧
        after.count ≤ queueCapacity ∧ after.nextSequence = queue.nextSequence := by
  by_cases empty : queue.tail = queue.head
  · refine .inl ⟨List.length_eq_zero_iff.mp ?_, if_pos empty⟩
    rw [pending, contents_length, count, empty, UInt32.sub_self]
    rfl
  · have headFits := queue.head.toNat_lt
    have tailFits := queue.tail.toNat_lt
    have one : (1 : UInt32).toNat = 1 := rfl
    have apart : queue.tail.toNat ≠ queue.head.toNat := fun same => empty (UInt32.toNat_inj.mp same)
    have less : (queue.head - (queue.tail + 1)).toNat = queue.count - 1 ∧ 0 < queue.count := by
      rw [count, UInt32.toNat_sub, UInt32.toNat_sub, UInt32.toNat_add, one]
      omega
    have next : (queue.tail + 1).toNat % queueCapacity =
        (queue.tail.toNat % queueCapacity + 1) % queueCapacity := by
      have sizes : queueCapacity = 32 := rfl
      rw [UInt32.toNat_add, one, sizes]
      omega
    refine .inr ⟨_, _, if_neg empty, ?_, ?_, rfl⟩
    · have rest := contents_drop queueCapacity queue.events
        (queue.tail.toNat % queueCapacity) queue.count 1
      have front := @RingBuffer.contents_getElem? _ queueCapacity queue.events
        (queue.tail.toNat % queueCapacity) _ _ less.2
      rw [Nat.add_zero, Nat.mod_mod] at front
      rw [← next, ← less.1] at rest
      have waiting : 0 < queue.pending.length := by
        rw [pending, contents_length]
        exact less.2
      obtain ⟨event, others, isPending⟩ := List.exists_cons_of_length_pos waiting
      have isFirst := congrArg (·[0]?) isPending
      rw [isPending, List.cons.injEq]
      refine ⟨?_, ?_⟩
      · exact Option.some.inj (isFirst.symm.trans front)
      · have isRest := congrArg (List.drop 1) isPending
        exact isRest.symm.trans rest.symm
    · rw [count, less.1]
      omega

end Queue

/-! ### The history of a key -/

/-- Whether a key is down after the actions, if it goes down and up in turn. -/
def follow : Bool → List Action → Option Bool
  | down, [] => some down
  | false, .pressed :: rest => follow true rest
  | true, .released :: rest => follow false rest
  | false, .released :: _ => none
  | true, .pressed :: _ => none

/-- Whether a key is down after the changes, if they tell its story. -/
def heldAfter (usage : UInt8) (changes : List Change) : Option Bool :=
  follow false ((changes.filter fun change => change.usage == usage).map Change.action)

theorem follow_append (down : Bool) (first second : List Action) :
    follow down (first ++ second) = (follow down first).bind fun next => follow next second := by
  fun_induction follow down first with
  | case1 down => rfl
  | case2 rest hypothesis => exact hypothesis
  | case3 rest hypothesis => exact hypothesis
  | case4 rest => rfl
  | case5 rest => rfl

theorem heldAfter_append (usage : UInt8) (first second : List Change) :
    heldAfter usage (first ++ second) = (heldAfter usage first).bind fun down =>
      follow down ((second.filter fun change => change.usage == usage).map Change.action) := by
  rw [heldAfter, List.filter_append, List.map_append, follow_append]
  rfl

theorem map_numbered (sequence : UInt64) (changes : List Change) :
    (numbered sequence changes).map KeyEvent.toChange = changes := by
  induction changes generalizing sequence with
  | nil => rfl
  | cons change rest hypothesis =>
    rw [numbered, List.map_cons, hypothesis]
    rfl

theorem numbered_append (sequence : UInt64) (first second : List Change) :
    numbered sequence (first ++ second) =
      numbered sequence first ++ numbered (sequence + UInt64.ofNat first.length) second := by
  induction first generalizing sequence with
  | nil => simp [numbered]
  | cons change rest hypothesis =>
    rw [List.cons_append, numbered, hypothesis, numbered, List.cons_append, UInt64.add_assoc,
      List.length_cons, Nat.add_comm rest.length, UInt64.ofNat_add]
    rfl

/-- No key is named twice. -/
def Distinct (keys : Vector UInt8 6) : Prop := (keys.toList.filter (· != 0)).Nodup

instance (keys : Vector UInt8 6) : Decidable (Distinct keys) := inferInstanceAs (Decidable (List.Nodup _))

namespace Keyboard

variable {keyboard : Keyboard} {keys others : Vector UInt8 6} {usage modifiers : UInt8}

theorem containsUsage_iff : containsUsage keys usage = true ↔ usage ∈ keys.toList := by
  rw [containsUsage, List.any_eq_true]
  exact ⟨fun ⟨_, member, same⟩ => beq_iff_eq.mp same ▸ member,
    fun member => ⟨usage, member, beq_self_eq_true usage⟩⟩

theorem mem_onlyIn : usage ∈ onlyIn keys others ↔
    usage ∈ keys.toList ∧ usage ≠ 0 ∧ usage ∉ others.toList := by
  rw [onlyIn, List.mem_filter, Bool.and_eq_true, bne_iff_ne, Bool.not_eq_true', ← Bool.not_eq_true,
    containsUsage_iff]

/-- A key that only one report names makes one change. -/
theorem filter_onlyIn (distinct : Distinct keys) (change : UInt8 → Change)
    (same : ∀ key, (change key).usage = key) :
    ((onlyIn keys others).map change).filter (fun change => change.usage == usage) =
      if usage ∈ onlyIn keys others then [change usage] else [] := by
  have once : (onlyIn keys others).Nodup := by
    have split : onlyIn keys others =
        (keys.toList.filter (· != 0)).filter fun usage => !containsUsage others usage := by
      rw [List.filter_filter]
      exact congrArg (fun test => keys.toList.filter test) (funext fun usage => Bool.and_comm _ _)
    rw [split]
    exact List.Nodup.filter _ distinct
  have only : (onlyIn keys others).filter (fun key => key == usage) =
      List.replicate ((onlyIn keys others).count usage) usage := List.filter_beq usage
  rw [List.filter_map, Function.comp_def]
  simp only [same]
  rw [only, List.map_replicate]
  split
  · rename_i member
    rw [List.count_eq_one_of_mem once member]
    rfl
  · rename_i absent
    rw [List.count_eq_zero_of_not_mem absent]
    rfl

/-- A report presses the keys that went down and releases those that came up. -/
theorem follow_changes (before : Distinct keyboard.previousKeys) (after : Distinct keys)
    (named : usage ≠ 0) :
    follow (decide (usage ∈ keyboard.previousKeys.toList))
        (((keyboard.changes modifiers keys).filter fun change => change.usage == usage).map
          Change.action) = some (decide (usage ∈ keys.toList)) := by
  rw [changes, List.filter_append, releases, presses, filter_onlyIn before _ fun _ => rfl,
    filter_onlyIn after _ fun _ => rfl]
  simp only [mem_onlyIn]
  by_cases was : usage ∈ keyboard.previousKeys.toList
  · by_cases is : usage ∈ keys.toList
    · simp [was, is, follow]
    · simp [was, is, named, follow]
  · by_cases is : usage ∈ keys.toList
    · simp [was, is, named, follow]
    · simp [was, is, follow]

theorem changes_named : ∀ change ∈ keyboard.changes modifiers keys, change.usage ≠ 0 := by
  intro change member
  rcases List.mem_append.mp member with released | pressed
  · obtain ⟨usage, only, rfl⟩ := List.mem_map.mp released
    exact (mem_onlyIn.mp only).2.1
  · obtain ⟨usage, only, rfl⟩ := List.mem_map.mp pressed
    exact (mem_onlyIn.mp only).2.1

theorem changes_length : (keyboard.changes modifiers keys).length ≤ 12 := by
  have first := List.length_filter_le (fun usage => usage != 0 && !containsUsage keys usage)
    keyboard.previousKeys.toList
  have second := List.length_filter_le
    (fun usage => usage != 0 && !containsUsage keyboard.previousKeys usage) keys.toList
  rw [Vector.length_toList] at first second
  rw [changes, List.length_append, releases, presses, List.length_map, List.length_map, onlyIn, onlyIn]
  omega

end Keyboard

/-! ### Runs -/

/-- A keyboard, what its reports changed so far and the events that were taken out. -/
structure Session where
  keyboard : Keyboard := {}
  log : List Change := []
  delivered : List KeyEvent := []

inductive Operation where
  | report (modifiers : UInt8) (keys : Vector UInt8 6)
  | pop

def Session.step (session : Session) : Operation → Session
  | .report modifiers keys =>
    { session with
      keyboard := (session.keyboard.applyHidReport modifiers keys).2
      log := session.log ++ session.keyboard.changes modifiers keys }
  | .pop =>
    let popped := session.keyboard.queue.pop
    { session with
      keyboard := { session.keyboard with queue := popped.2 }
      delivered := session.delivered ++ popped.1.toList }

/-- A report is as asked. -/
def Operation.All (allowed : Vector UInt8 6 → Prop) : Operation → Prop
  | report _ keys => allowed keys
  | pop => True

/-- What comes of operations during which no event is dropped. -/
inductive Run (allowed : Vector UInt8 6 → Prop) : Session → Prop
  | fresh : Run allowed {}
  | step {session : Session} {operation : Operation} (run : Run allowed session) (admitted : operation.All allowed)
    (undropped : (session.step operation).keyboard.queue.dropped = session.keyboard.queue.dropped) :
    Run allowed (session.step operation)

/-- The delivered events tell the story of every key, in order and each once. -/
structure Session.Consistent (session : Session) : Prop where
  alternate : ∀ usage ≠ 0, (heldAfter usage (session.delivered.map KeyEvent.toChange)).isSome = true
  down : session.keyboard.queue.pending = [] → ∀ usage ≠ 0,
    heldAfter usage (session.delivered.map KeyEvent.toChange) =
      some (decide (usage ∈ session.keyboard.previousKeys.toList))
  inOrder : session.delivered ++ session.keyboard.queue.pending = numbered 1 session.log

/-- What every step keeps. -/
structure Session.Sound (session : Session) : Prop where
  within : session.keyboard.queue.count ≤ queueCapacity
  inOrder : session.delivered ++ session.keyboard.queue.pending = numbered 1 session.log
  sequence : session.keyboard.queue.nextSequence = 1 + UInt64.ofNat session.log.length
  distinct : Distinct session.keyboard.previousKeys
  held : ∀ usage ≠ 0, heldAfter usage session.log =
    some (decide (usage ∈ session.keyboard.previousKeys.toList))

namespace Session

variable {session : Session}

theorem Sound.report {modifiers : UInt8} {keys : Vector UInt8 6} (sound : session.Sound)
    (distinct : Distinct keys) (undropped : (session.step (.report modifiers keys)).keyboard.queue.dropped =
      session.keyboard.queue.dropped) : (session.step (.report modifiers keys)).Sound := by
  have queue : (session.step (.report modifiers keys)).keyboard.queue =
      (Queue.pushAll (0, session.keyboard.queue) (session.keyboard.changes modifiers keys)).2 := by
    rw [Keyboard.changes, Queue.pushAll, List.foldl_append]
    rfl
  obtain ⟨count, after, pushed, dropped, holds⟩ :=
    Queue.pushAll_spec (@Keyboard.changes_named session.keyboard keys modifiers) 0 sound.within
  have few := @Keyboard.changes_length session.keyboard keys modifiers
  have fits : (session.keyboard.changes modifiers keys).length ≤
      queueCapacity - session.keyboard.queue.count := by
    rw [queue, pushed] at undropped
    have none := UInt32.toNat_inj.mpr (dropped.symm.trans undropped)
    have range := session.keyboard.queue.dropped.toNat_lt
    rw [UInt32.toNat_add, UInt32.toNat_ofNat'] at none
    omega
  obtain ⟨afterCount, pending, sequence⟩ := holds fits
  have isQueue : (session.step (.report modifiers keys)).keyboard.queue = after := by
    rw [queue, pushed]
  have within := sound.within
  refine ⟨?_, ?_, ?_, distinct, fun usage named => ?_⟩
  · rw [isQueue]
    omega
  · rw [isQueue, pending, ← List.append_assoc]
    show session.delivered ++ _ ++ _ = numbered 1 (session.log ++ _)
    rw [sound.inOrder, numbered_append, sound.sequence]
  · rw [isQueue, sequence, sound.sequence]
    show _ = 1 + UInt64.ofNat (session.log ++ _).length
    rw [List.length_append, UInt64.ofNat_add, UInt64.add_assoc]
  · show heldAfter usage (session.log ++ session.keyboard.changes modifiers keys) = _
    rw [heldAfter_append, sound.held usage named]
    exact Keyboard.follow_changes sound.distinct distinct named

theorem Sound.pop (sound : session.Sound) : (session.step .pop).Sound := by
  rcases Queue.pop_spec sound.within with ⟨-, popped⟩ | ⟨event, after, popped, pending, within, sequence⟩
  · have same : session.step .pop = session := by
      unfold step
      rw [popped]
      show Session.mk _ _ (session.delivered ++ []) = session
      rw [List.append_nil]
    rwa [same]
  · have queue : (session.step .pop).keyboard.queue = after := by
      unfold step
      rw [popped]
    have delivered : (session.step .pop).delivered = session.delivered ++ [event] := by
      unfold step
      rw [popped]
      rfl
    refine ⟨?_, ?_, ?_, sound.distinct, sound.held⟩
    · rwa [queue]
    · rw [queue, delivered, List.append_assoc, List.singleton_append, ← pending]
      exact sound.inOrder
    · rw [queue, sequence]
      exact sound.sequence

theorem Run.sound (run : Run Distinct session) : session.Sound := by
  induction run with
  | fresh => exact ⟨by decide, rfl, rfl, by decide, fun usage named => by simp [heldAfter, follow, named]⟩
  | @step session operation run admitted undropped hypothesis =>
    cases operation with
    | report modifiers keys => exact hypothesis.report admitted undropped
    | pop => exact hypothesis.pop

/-- If no report names a key twice and no event is dropped, the events are consistent. -/
theorem distinctRun_consistent (run : Run Distinct session) : session.Consistent := by
  have sound := Run.sound run
  have story : session.delivered.map KeyEvent.toChange ++
      session.keyboard.queue.pending.map KeyEvent.toChange = session.log := by
    rw [← List.map_append, sound.inOrder, map_numbered]
  have held (usage : UInt8) (named : usage ≠ 0) := sound.held usage named
  refine ⟨fun usage named => ?_, fun empty usage named => ?_, sound.inOrder⟩
  · have whole := held usage named
    rw [← story, heldAfter_append] at whole
    obtain ⟨down, first, -⟩ := Option.bind_eq_some_iff.mp whole
    rw [first]
    rfl
  · rw [empty, List.map_nil, List.append_nil] at story
    rw [story]
    exact held usage named

end Session

/-! ### A key that is named twice -/

/-- A report that names a key twice presses it twice. -/
theorem twiceNamed_presses : ∃ session, Run (fun _ => True) session ∧ ¬session.Consistent := by
  refine ⟨(((({} : Session).step (.report 0 #v[4, 4, 0, 0, 0, 0])).step .pop).step .pop),
    .step (.step (.step .fresh trivial rfl) trivial rfl) trivial rfl, fun consistent => ?_⟩
  exact absurd (consistent.alternate 4 (by decide)) (by decide)

theorem onePress_consistent : Session.Consistent
    ((({} : Session).step (.report 0 #v[4, 5, 0, 0, 0, 0])).step (.report 0 #v[5, 0, 0, 0, 0, 0])) :=
  Session.distinctRun_consistent (.step
    (.step .fresh (show Distinct #v[4, 5, 0, 0, 0, 0] by decide) rfl)
    (show Distinct #v[5, 0, 0, 0, 0, 0] by decide) rfl)

end ZigOs.Input
