/-
This file is about pipes as channels. What passes through a pipe is recorded
beside a run: the bytes its writes accepted and the bytes its reads returned.
The second are always a prefix of the first, and the buffer holds the rest. Who
sleeps on a pipe sleeps for a reason: a reader on an empty pipe with a writer, a
writer on a full pipe with a reader.
-/

import ZigOs.RuntimeFd.Wakeups

namespace ZigOs.RuntimeFd

open Scan RuntimeProcess RuntimeVfs Call Function Kernel Pipe System

/-! ### The buffer of a pipe -/

/-- The cursors of a pipe agree with its count. -/
structure Pipe.Sound (pipe : Pipe) : Prop where
  fits : pipe.count ≤ pipeCapacity
  inside : pipe.readCursor < pipeCapacity
  written : pipe.writeCursor = (pipe.readCursor + pipe.count) % pipeCapacity

theorem Pipe.sound_empty (generation : Nat) : Pipe.Sound { generation } :=
  ⟨Nat.zero_le _, show 0 < pipeCapacity by decide, rfl⟩

theorem Pipe.contents_length (pipe : Pipe) : pipe.contents.length = pipe.count :=
  RingBuffer.contents_length _ _ _ _

/-- A read returns the first bytes and leaves the others. -/
theorem Pipe.Sound.read {pipe : Pipe} (sound : pipe.Sound) (length : Nat) :
    (pipe.read length).2.Sound ∧
      (pipe.read length).1 ++ (pipe.read length).2.contents = pipe.contents := by
  obtain ⟨fits, inside, written⟩ := sound
  have taken : min length pipe.count ≤ pipe.count := Nat.min_le_right _ _
  refine ⟨⟨(Nat.sub_le _ _).trans fits, Nat.mod_lt _ (by decide), ?_⟩, ?_⟩
  · change pipe.writeCursor = ((pipe.readCursor + min length pipe.count) % pipeCapacity +
      (pipe.count - min length pipe.count)) % pipeCapacity
    rw [written, Nat.mod_add_mod]
    congr 1
    omega
  · change RingBuffer.copyOut pipeCapacity pipe.bytes pipe.readCursor (min length pipe.count) ++
      RingBuffer.contents pipeCapacity pipe.bytes
        ((pipe.readCursor + min length pipe.count) % pipeCapacity)
        (pipe.count - min length pipe.count) = pipe.contents
    rw [RingBuffer.copyOut_eq pipe.bytes inside (taken.trans fits),
      RingBuffer.contents_take pipeCapacity pipe.bytes taken, RingBuffer.contents_drop,
      List.take_append_drop]
    rfl

/-- A write appends the bytes it accepts. -/
theorem Pipe.Sound.write {pipe : Pipe} (sound : pipe.Sound) (bytes : Bytes) :
    (pipe.write bytes).2.Sound ∧
      (pipe.write bytes).2.contents = pipe.contents ++ bytes.take (pipe.write bytes).1 := by
  obtain ⟨fits, inside, written⟩ := sound
  have accepted : (bytes.take (min bytes.length (pipeCapacity - pipe.count))).length =
      min bytes.length (pipeCapacity - pipe.count) := by
    rw [List.length_take]
    omega
  refine ⟨⟨?_, inside, ?_⟩, ?_⟩
  · change pipe.count + min bytes.length (pipeCapacity - pipe.count) ≤ pipeCapacity
    omega
  · change (pipe.writeCursor + min bytes.length (pipeCapacity - pipe.count)) % pipeCapacity =
      (pipe.readCursor + (pipe.count + min bytes.length (pipeCapacity - pipe.count))) % pipeCapacity
    rw [written, Nat.mod_add_mod, Nat.add_assoc]
  · have room : pipe.count + (bytes.take (min bytes.length (pipeCapacity - pipe.count))).length ≤
        pipeCapacity := by
      rw [accepted]
      omega
    have appended := RingBuffer.contents_copyIn pipe.bytes
      (bytes.take (min bytes.length (pipeCapacity - pipe.count))) inside room
    rwa [accepted, ← written] at appended

/-! ### Who sleeps on a pipe -/

/-- The buffers are sound, and whoever sleeps on a pipe has a reason to. -/
structure PipesSound (kernel : Kernel) : Prop where
  buffers : ∀ pipe, (kernel.system.pipes pipe).Sound
  readSleepers : ∀ slot target, kernel.processes.Asleep slot .pipeRead target →
    ∃ pipe < maximumPipes, target = pipeWaitKey pipe (kernel.system.pipes pipe).generation ∧
      (kernel.system.pipes pipe).used = true ∧ (kernel.system.pipes pipe).count = 0 ∧
      (kernel.system.pipes pipe).writers ≠ 0
  writeSleepers : ∀ slot target, kernel.processes.Asleep slot .pipeWrite target →
    ∃ pipe < maximumPipes, target = pipeWaitKey pipe (kernel.system.pipes pipe).generation ∧
      (kernel.system.pipes pipe).used = true ∧ (kernel.system.pipes pipe).count = pipeCapacity ∧
      (kernel.system.pipes pipe).readers ≠ 0

variable {before after : Kernel}

/-- Where no pipe changes and nobody falls asleep, the pipes stay sound. -/
theorem PipesSound.calm (sound : PipesSound before)
    (pipes : after.system.pipes = before.system.pipes)
    (calm : Calm before.processes after.processes) : PipesSound after := by
  obtain ⟨buffers, readSleepers, writeSleepers⟩ := sound
  refine ⟨?_, ?_, ?_⟩ <;> rw [pipes]
  · exact buffers
  · exact fun slot target asleep => readSleepers slot target (calm _ _ _ rfl asleep)
  · exact fun slot target asleep => writeSleepers slot target (calm _ _ _ rfl asleep)

/-- What a change of one pipe has to keep for its sleepers. -/
theorem PipesSound.change {before : Kernel} (sound : PipesSound before) (changed : Nat)
    (step : Pipe → Pipe) {system : System} {vfs : Vfs} {processes : Table}
    (pipes : system.pipes = update before.system.pipes changed
      (step (before.system.pipes changed)))
    (buffer : (step (before.system.pipes changed)).Sound)
    (calm : Calm before.processes processes)
    (reads : (before.system.pipes changed).used = true → (before.system.pipes changed).count = 0 →
      (before.system.pipes changed).writers ≠ 0 →
        ((step (before.system.pipes changed)).generation = (before.system.pipes changed).generation ∧
          (step (before.system.pipes changed)).used = true ∧
          (step (before.system.pipes changed)).count = 0 ∧
          (step (before.system.pipes changed)).writers ≠ 0) ∨
        Nobody processes .pipeRead
          (pipeWaitKey changed (before.system.pipes changed).generation))
    (writes : (before.system.pipes changed).used = true →
      (before.system.pipes changed).count = pipeCapacity →
      (before.system.pipes changed).readers ≠ 0 →
        ((step (before.system.pipes changed)).generation = (before.system.pipes changed).generation ∧
          (step (before.system.pipes changed)).used = true ∧
          (step (before.system.pipes changed)).count = pipeCapacity ∧
          (step (before.system.pipes changed)).readers ≠ 0) ∨
        Nobody processes .pipeWrite
          (pipeWaitKey changed (before.system.pipes changed).generation)) :
    PipesSound { system, vfs, processes } := by
  obtain ⟨buffers, readSleepers, writeSleepers⟩ := sound
  refine ⟨fun pipe => ?_, fun slot target asleep => ?_, fun slot target asleep => ?_⟩
  · rw [pipes, update_apply]
    split
    · exact buffer
    · exact buffers pipe
  · obtain ⟨pipe, below, key, used, empty, written⟩ :=
      readSleepers slot target (calm _ _ _ rfl asleep)
    by_cases here : pipe = changed
    · subst here
      rcases reads used empty written with ⟨generation, stillUsed, stillEmpty, stillWritten⟩ | nobody
      · refine ⟨pipe, below, ?_⟩
        rw [pipes, update_self, generation]
        exact ⟨key, stillUsed, stillEmpty, stillWritten⟩
      · subst key
        exact absurd asleep (nobody slot)
    · refine ⟨pipe, below, ?_⟩
      rw [pipes, update_of_ne here]
      exact ⟨key, used, empty, written⟩
  · obtain ⟨pipe, below, key, used, full, read⟩ :=
      writeSleepers slot target (calm _ _ _ rfl asleep)
    obtain rfl | here := eq_or_ne pipe changed
    · rcases writes used full read with ⟨generation, stillUsed, stillFull, stillRead⟩ | nobody
      · refine ⟨pipe, below, ?_⟩
        rw [pipes, update_self, generation]
        exact ⟨key, stillUsed, stillFull, stillRead⟩
      · subst key
        exact absurd asleep (nobody slot)
    · refine ⟨pipe, below, ?_⟩
      rw [pipes, update_of_ne here]
      exact ⟨key, used, full, read⟩

theorem dropEnd_sound {pipe : Pipe} (sound : pipe.Sound) (kind : DescriptionKind) :
    (dropEnd kind pipe).Sound := by
  have released {other : Pipe} (otherSound : other.Sound) : other.releaseIfUnused.Sound := by
    unfold releaseIfUnused
    split
    · exact otherSound
    · exact sound_empty other.generation
  cases kind with
  | pipeRead => exact released ⟨sound.fits, sound.inside, sound.written⟩
  | pipeWrite => exact released ⟨sound.fits, sound.inside, sound.written⟩
  | _ => exact sound

/-- Sleeping readers of a pipe outlive its read ends, and its sleeping writers the write ends. -/
theorem dropEnd_stays {pipe : Pipe} :
    (pipe.used = true → pipe.writers ≠ 0 → (dropEnd .pipeRead pipe).generation = pipe.generation ∧
      (dropEnd .pipeRead pipe).used = true ∧
      (dropEnd .pipeRead pipe).count = pipe.count ∧
      (dropEnd .pipeRead pipe).writers = pipe.writers) ∧
    (pipe.used = true → pipe.readers ≠ 0 → (dropEnd .pipeWrite pipe).generation = pipe.generation ∧
      (dropEnd .pipeWrite pipe).used = true ∧
      (dropEnd .pipeWrite pipe).count = pipe.count ∧
      (dropEnd .pipeWrite pipe).readers = pipe.readers) := by
  constructor
  · intro used writers
    simp only [dropEnd, releaseIfUnused]
    rw [if_pos (.inr writers)]
    exact ⟨rfl, used, rfl, rfl⟩
  · intro used readers
    simp only [dropEnd, releaseIfUnused]
    rw [if_pos (.inl readers)]
    exact ⟨rfl, used, rfl, rfl⟩

theorem PipesSound.retire {before : Kernel} (sound : PipesSound before) (books : Conserved before)
    {slot fd : Nat} {vfs : Vfs} {processes : Table}
    (retires : Retires before slot fd vfs processes) :
    PipesSound { system := before.system.retired slot fd, vfs, processes } := by
  obtain ⟨below, used⟩ := books.described_used retires.named
  by_cases isPipe : (before.system.described slot fd).kind.isPipe = true
  · have current : (before.system.pipes (before.system.described slot fd).resourceIndex).generation =
        (before.system.described slot fd).resourceGeneration :=
      (books.pipes.live _ below used isPipe).2.2
    refine sound.change _ _ rfl (dropEnd_sound (sound.buffers _) _) retires.calm
      (fun live empty written => ?_) fun live full read => ?_
    · cases kindOf : (before.system.described slot fd).kind
      case pipeRead =>
        obtain ⟨generation, stillUsed, count, writers⟩ := dropEnd_stays.1 live written
        exact .inl ⟨generation, stillUsed, count.trans empty,
          fun none_left => written (writers.symm.trans none_left)⟩
      case pipeWrite =>
        refine .inr ?_
        rw [current]
        exact retires.writeEnd kindOf
      all_goals simp [kindOf, DescriptionKind.isPipe] at isPipe
    · cases kindOf : (before.system.described slot fd).kind
      case pipeRead =>
        refine .inr ?_
        rw [current]
        exact retires.readEnd kindOf
      case pipeWrite =>
        obtain ⟨generation, stillUsed, count, readers⟩ := dropEnd_stays.2 live read
        exact .inl ⟨generation, stillUsed, count.trans full,
          fun none_left => read (readers.symm.trans none_left)⟩
      all_goals simp [kindOf, DescriptionKind.isPipe] at isPipe
  · refine sound.calm ?_ retires.calm
    have same : dropEnd (before.system.described slot fd).kind = id := by
      cases kindOf : (before.system.described slot fd).kind
      case pipeRead => simp [kindOf, DescriptionKind.isPipe] at isPipe
      case pipeWrite => simp [kindOf, DescriptionKind.isPipe] at isPipe
      all_goals rfl
    simp [retired, modifyPipe, same, clearDescription,
      setDescriptor, modifyNamespace, modifyDescription]

variable {relocks : Prop}

theorem Move.pipesSound {transfers : Prop} (move : Move relocks transfers before after)
    (books : Conserved before) (sound : PipesSound before) : PipesSound after := by
  cases move with
  | outside terminal close calls held calm => exact sound.calm rfl calm
  | @awaitBytes processes pipe below live empty written calm =>
    refine ⟨sound.buffers, fun slot target asleep => ?_, fun slot target asleep => ?_⟩
    · rcases calm _ _ _ rfl asleep with earlier | ⟨-, rfl⟩
      · exact sound.readSleepers slot target earlier
      · exact ⟨pipe, below, rfl, live, empty, written⟩
    · rcases calm _ _ _ rfl asleep with earlier | ⟨other, -⟩
      · exact sound.writeSleepers slot target earlier
      · cases other
  | @awaitRoom processes pipe below live full read calm =>
    refine ⟨sound.buffers, fun slot target asleep => ?_, fun slot target asleep => ?_⟩
    · rcases calm _ _ _ rfl asleep with earlier | ⟨other, -⟩
      · exact sound.readSleepers slot target earlier
      · cases other
    · rcases calm _ _ _ rfl asleep with earlier | ⟨-, rfl⟩
      · exact sound.writeSleepers slot target earlier
      · exact ⟨pipe, below, rfl, live, full, read⟩
  | awaitLock key allowed calm =>
    refine ⟨sound.buffers, fun slot target asleep => ?_, fun slot target asleep => ?_⟩
    · exact sound.readSleepers slot target
        ((calm _ _ _ rfl asleep).resolve_right fun other => nomatch other.1)
    · exact sound.writeSleepers slot target
        ((calm _ _ _ rfl asleep).resolve_right fun other => nomatch other.1)
  | mark | watch | bind | unbind | install | share | drop | relock =>
    exact sound.calm rfl (refl _)
  | @clone source target handle =>
    exact sound.calm (before.system.cloned_facts source target handle).2.1 (refl _)
  | @installPipe slot readFd writeFd readIndex writeIndex pipe freeRead freeWrite fdApart indexApart
      allowed below freePipe =>
    let created (_ : Pipe) : Pipe :=
      { used := true
        generation := nextGeneration (before.system.pipes pipe).generation
        readers := 1
        writers := 1 }
    refine sound.change pipe created rfl
      ⟨Nat.zero_le _, show 0 < pipeCapacity by decide, rfl⟩ (refl _)
      (fun live => absurd (live.symm.trans freePipe) (by decide))
      fun live => absurd (live.symm.trans freePipe) (by decide)
  | retire retires => exact sound.retire books retires
  | @readPipe processes pipe length allowed calm awake =>
    refine sound.change pipe (fun entry => (entry.read length).2) rfl
      ((sound.buffers pipe).read length).1 calm
      (fun live empty written => .inl ⟨rfl, live, ?_, written⟩) fun _ _ _ => .inr awake
    change (before.system.pipes pipe).count - min length (before.system.pipes pipe).count = 0
    omega
  | @writePipe processes pipe bytes allowed calm awake =>
    refine sound.change pipe (fun entry => (entry.write bytes).2) rfl
      ((sound.buffers pipe).write bytes).1 calm (fun _ _ _ => .inr awake)
      fun live full read => .inl ⟨rfl, live, ?_, read⟩
    change (before.system.pipes pipe).count +
      min bytes.length (pipeCapacity - (before.system.pipes pipe).count) = pipeCapacity
    omega

variable {kernel : Kernel}

theorem Reachable.pipesSound (reachable : Reachable kernel) : PipesSound kernel := by
  refine (reachable.invariant (fun start fresh => ?_) fun _ _ books move sound =>
    move.pipesSound books sound).2
  refine ⟨fun pipe => ?_, fun slot target asleep => absurd asleep (fresh.awake slot _ _ rfl),
    fun slot target asleep => absurd asleep (fresh.awake slot _ _ rfl)⟩
  rw [fresh.pipes]
  exact sound_empty 0

/-! ### What an operation does to a pipe -/

/-- A pipe that is live afterwards was live before, with the same bytes. -/
def PipesKept (before after : Kernel) : Prop :=
  ∀ pipe, (after.system.pipes pipe).used = true → (before.system.pipes pipe).used = true ∧
    (after.system.pipes pipe).contents = (before.system.pipes pipe).contents

theorem dropEnd_kept (kind : DescriptionKind) (pipe : Pipe)
    (used : (dropEnd kind pipe).used = true) :
    pipe.used = true ∧ (dropEnd kind pipe).contents = pipe.contents := by
  cases kind with
  | pipeRead | pipeWrite =>
    simp only [dropEnd, releaseIfUnused] at used ⊢
    split at used
    · rename_i ends
      rw [if_pos ends]
      exact ⟨used, rfl⟩
    · cases used
  | _ => exact ⟨used, rfl⟩

theorem Move.pipesKept (move : Move relocks False before after) : PipesKept before after := by
  cases move with
  | installPipe _ _ _ _ allowed => exact allowed.elim
  | readPipe _ allowed => exact allowed.elim
  | writePipe _ allowed => exact allowed.elim
  | @clone source target handle =>
    intro pipe used
    have same : (before.system.cloned source target handle).pipes = before.system.pipes :=
      (before.system.cloned_facts source target handle).2.1
    rw [same] at used
    exact ⟨used, by rw [same]⟩
  | @retire slot fd vfs processes retires =>
    intro pipe used
    obtain rfl | here := eq_or_ne pipe ((before.system.described slot fd).resourceIndex)
    · simp only [retired, modifyPipe, update_self] at used ⊢
      exact dropEnd_kept _ _ used
    · simp only [retired, modifyPipe, update_of_ne here] at used ⊢
      exact ⟨used, rfl⟩
  | outside | awaitBytes | awaitRoom | awaitLock | mark | watch | bind | unbind | install | share
    | drop | relock => exact fun _ used => ⟨used, rfl⟩

/-- Only reads, writes and new pipes touch the bytes of pipes. -/
theorem pipesKept_of_runs (runs : Runs relocks False before after) (books : Conserved before) :
    PipesKept before after := by
  obtain ⟨-, moves⟩ := runs books
  clear runs
  induction moves with
  | refl => exact fun _ used => ⟨used, rfl⟩
  | tail _ move hypothesis =>
    intro pipe used
    obtain ⟨middleUsed, same⟩ := move.pipesKept pipe used
    obtain ⟨beforeUsed, earlier⟩ := hypothesis pipe middleUsed
    exact ⟨beforeUsed, same.trans earlier⟩

/-- The pipe at this end of which a descriptor of the process is. -/
def Kernel.pipeEnd (kernel : Kernel) (kind : DescriptionKind) (handle fd : Nat) : Option Nat :=
  match kernel.system.resolveNamespace handle with
  | .error _ => none
  | .ok slot =>
    match kernel.system.resolveDescriptor slot fd with
    | .error _ => none
    | .ok index =>
      if (kernel.system.openDescriptions index).kind = kind then
        match kernel.system.resolvePipe (kernel.system.openDescriptions index) with
        | .error _ => none
        | .ok pipe => some pipe
      else none

/-- The pipes are unchanged. -/
def SamePipes (before after : Kernel) : Prop := after.system.pipes = before.system.pipes

instance : Std.Refl SamePipes where
  refl _ := rfl

instance : IsTrans Kernel SamePipes where
  trans _ _ _ start finish := finish.trans start

/-- How a read can end, seen from the pipes. -/
inductive ReadOutcome (kernel : Kernel) (handle fd length : Nat) :
    Except Error IoResult → Kernel → Prop
  /-- The descriptor is not the read end of a pipe. -/
  | elsewhere {result : Except Error IoResult} {after : Kernel}
      (apart : kernel.pipeEnd .pipeRead handle fd = none) (same : SamePipes kernel after) :
      ReadOutcome kernel handle fd length result after
  /-- No byte is read, and an end of file means that none can come. -/
  | nothing {result : Except Error IoResult} {after : Kernel} {pipe : Nat}
      (reads : kernel.pipeEnd .pipeRead handle fd = some pipe) (same : SamePipes kernel after)
      (empty : ∀ answer, result = .ok answer → answer.bytes = [] ∧ (answer.status = .eof →
        (kernel.system.pipes pipe).count = 0 ∧ (kernel.system.pipes pipe).writers = 0)) :
      ReadOutcome kernel handle fd length result after
  /-- Bytes are read. -/
  | bytes {after : Kernel} {pipe wakeups : Nat}
      (reads : kernel.pipeEnd .pipeRead handle fd = some pipe)
      (changed : after.system.pipes = update kernel.system.pipes pipe
        ((kernel.system.pipes pipe).read length).2) :
      ReadOutcome kernel handle fd length
        (.ok { status := .complete
               count := ((kernel.system.pipes pipe).read length).1.length
               wakeups
               bytes := ((kernel.system.pipes pipe).read length).1 }) after

variable {handle fd : Nat}

theorem readOutcome_failed {length : Nat} (failure : Error) (same : SamePipes kernel after) :
    ReadOutcome kernel handle fd length (.error failure) after := by
  cases reads : kernel.pipeEnd .pipeRead handle fd with
  | none => exact ReadOutcome.elsewhere reads same
  | some pipe => exact ReadOutcome.nothing reads same fun _ impossible => nomatch impossible

/-- How a write can end, seen from the pipes. -/
inductive WriteOutcome (kernel : Kernel) (handle fd : Nat) (bytes : Bytes) :
    Except Error IoResult → Kernel → Prop
  /-- The descriptor is not the write end of a pipe. -/
  | elsewhere {result : Except Error IoResult} {after : Kernel}
      (apart : kernel.pipeEnd .pipeWrite handle fd = none) (same : SamePipes kernel after) :
      WriteOutcome kernel handle fd bytes result after
  /-- No byte is accepted, and a broken pipe has no reader. -/
  | nothing {result : Except Error IoResult} {after : Kernel} {pipe : Nat}
      (writes : kernel.pipeEnd .pipeWrite handle fd = some pipe) (same : SamePipes kernel after)
      (empty : ∀ answer, result = .ok answer → bytes.take answer.count = [])
      (broken : result = .error .brokenPipe → (kernel.system.pipes pipe).readers = 0) :
      WriteOutcome kernel handle fd bytes result after
  /-- Bytes are accepted. -/
  | accepted {after : Kernel} {pipe wakeups : Nat}
      (writes : kernel.pipeEnd .pipeWrite handle fd = some pipe)
      (changed : after.system.pipes = update kernel.system.pipes pipe
        ((kernel.system.pipes pipe).write bytes).2) :
      WriteOutcome kernel handle fd bytes
        (.ok { status := .complete
               count := ((kernel.system.pipes pipe).write bytes).1
               wakeups }) after

theorem writeOutcome_failed {bytes : Bytes} {failure : Error} (other : failure ≠ .brokenPipe)
    (same : SamePipes kernel after) :
    WriteOutcome kernel handle fd bytes (.error failure) after := by
  cases writes : kernel.pipeEnd .pipeWrite handle fd with
  | none => exact WriteOutcome.elsewhere writes same
  | some pipe =>
    exact WriteOutcome.nothing writes same (fun _ impossible => nomatch impossible)
      fun isBroken => absurd (Except.error.inj isBroken) other

variable {pipe slot index : Nat} {kind : DescriptionKind}

theorem pipeEnd_of_resolved (located : kernel.system.resolveNamespace handle = .ok slot)
    (resolved : kernel.system.resolveDescriptor slot fd = .ok index)
    (kindOf : (kernel.system.openDescriptions index).kind = kind)
    (found : kernel.system.resolvePipe (kernel.system.openDescriptions index) = .ok pipe) :
    kernel.pipeEnd kind handle fd = some pipe := by
  simp [pipeEnd, located, resolved, kindOf, found]

theorem pipeEnd_of_kind (located : kernel.system.resolveNamespace handle = .ok slot)
    (resolved : kernel.system.resolveDescriptor slot fd = .ok index)
    (kindOf : (kernel.system.openDescriptions index).kind ≠ kind) :
    kernel.pipeEnd kind handle fd = none := by
  simp [pipeEnd, located, resolved, kindOf]

section SamePipes

variable {Value : Type}

theorem inVfs_samePipes (call : VfsCall Value) : Keeps SamePipes (inVfs call) :=
  fun _ => rfl

theorem inProcesses_samePipes (call : TableCall Value) :
    Keeps SamePipes (inProcesses call) := fun _ => rfl

theorem samePipes_of_inProcesses {call : TableCall Value} {result : Except Error Value}
    (outcome : inProcesses call kernel = (result, after)) : SamePipes kernel after := by
  have same := inProcesses_samePipes call kernel
  rwa [outcome] at same

theorem readTerminal_samePipes (handle length : Nat) :
    Keeps SamePipes (readTerminal handle length) := by
  refine keeps_bind keeps_state fun kernel => ?_
  split
  · exact keeps_pure _
  · refine keeps_bind (inProcesses_samePipes _) fun result => ?_
    refine keeps_bind (keeps_change fun _ => rfl) fun _ => ?_
    split <;> exact keeps_pure _

theorem readVfs_samePipes (description : OpenDescription) (length : Nat) (tick : Option Nat) :
    Keeps SamePipes (readVfs description length tick) :=
  keeps_bind (inVfs_samePipes _) fun _ => keeps_ite (keeps_pure _) (keeps_pure _)

theorem readWatch_samePipes (index length : Nat) :
    Keeps SamePipes (readWatch index length) :=
  keeps_bind (keeps_failWhen _ _) fun _ => keeps_bind keeps_state fun _ =>
    keeps_bind (keeps_change fun _ => rfl) fun _ => keeps_bind (keeps_lift _)
      fun _ => keeps_bind (keeps_failWhen _ _) fun _ => keeps_pure _

end SamePipes

theorem readPipe_outcome (length : Nat) (located : kernel.system.resolveNamespace handle = .ok slot)
    (resolved : kernel.system.resolveDescriptor slot fd = .ok index)
    (kindOf : (kernel.system.openDescriptions index).kind = .pipeRead) :
    Yields (ReadOutcome kernel handle fd length) kernel
      (Kernel.readPipe handle length (kernel.system.openDescriptions index)) := by
  refine yields_state (yields_lift
    (fun failure _ => readOutcome_failed failure (refl kernel)) fun pipe found => ?_)
  have reads := pipeEnd_of_resolved located resolved kindOf found
  refine yields_ite (fun _ => ReadOutcome.bytes reads rfl) fun empty => ?_
  refine yields_ite (fun noWriter => ?_) fun _ => ?_
  · refine ReadOutcome.nothing reads (refl kernel) fun answer isAnswer => ?_
    cases isAnswer
    exact ⟨rfl, fun _ => ⟨not_not.mp empty, noWriter⟩⟩
  · refine yields_bind (fun failure after outcome => ?_) fun _ after outcome => ?_
    · exact readOutcome_failed failure (samePipes_of_inProcesses outcome)
    · refine ReadOutcome.nothing reads (samePipes_of_inProcesses outcome) fun answer isAnswer => ?_
      cases isAnswer
      exact ⟨rfl, fun impossible => nomatch impossible⟩

theorem readInternal_outcome (kernel : Kernel) (handle fd length : Nat) (tick : Option Nat) :
    Yields (ReadOutcome kernel handle fd length) kernel
      (readInternal handle fd length tick) := by
  have failed (failure : Error) : ReadOutcome kernel handle fd length (.error failure) kernel :=
    readOutcome_failed failure (refl kernel)
  refine yields_caller (fun failure _ => failed failure) fun process slot _ located => ?_
  refine yields_state (yields_lift (fun failure _ => failed failure) fun index resolved => ?_)
  refine yields_failWhen (fun _ => failed _) fun _ => yields_ite (fun _ => ?_) fun _ => ?_
  · -- A read of no bytes does not look at the pipe.
    cases reads : kernel.pipeEnd .pipeRead handle fd with
    | none => exact ReadOutcome.elsewhere reads (refl kernel)
    | some pipe =>
      refine ReadOutcome.nothing reads (refl kernel) fun answer isAnswer => ?_
      cases isAnswer
      exact ⟨rfl, fun impossible => nomatch impossible⟩
  · have elsewhere {call : KernelCall IoResult}
        (other : (kernel.system.openDescriptions index).kind ≠ .pipeRead)
        (keeps : Keeps SamePipes call) :
        Yields (ReadOutcome kernel handle fd length) kernel call :=
      ReadOutcome.elsewhere (pipeEnd_of_kind located resolved other) (keeps kernel)
    split <;> rename_i kindOf
    · exact elsewhere (by rw [kindOf]; decide) (readTerminal_samePipes _ _)
    · exact failed _
    · exact failed _
    · exact elsewhere (by rw [kindOf]; decide) (readVfs_samePipes _ _ _)
    · exact elsewhere (by rw [kindOf]; decide) (readWatch_samePipes _ _)
    · exact readPipe_outcome length located resolved kindOf
    · exact failed _

variable {table : Table}

theorem block_ne_brokenPipe {target : Nat} :
    (Table.block handle .pipeWrite target table).1 ≠ .error .brokenPipe := by
  rw [block_apply handle .pipeWrite target table (by simp)]
  cases resolved : table.resolve handle with
  | error failure =>
    simp only [Table.resolve] at resolved
    split_ifs at resolved <;> cases resolved <;> exact nofun
  | ok slot =>
    dsimp only
    split <;> exact nofun

theorem writePipe_outcome (bytes : Bytes)
    (located : kernel.system.resolveNamespace handle = .ok slot)
    (resolved : kernel.system.resolveDescriptor slot fd = .ok index)
    (kindOf : (kernel.system.openDescriptions index).kind = .pipeWrite) :
    Yields (WriteOutcome kernel handle fd bytes) kernel
      (Kernel.writePipe handle bytes (kernel.system.openDescriptions index)) := by
  refine yields_state (yields_lift
    (fun failure unresolved => ?_) fun pipe found => ?_)
  · refine writeOutcome_failed ?_ (refl kernel)
    rintro rfl
    simp only [resolvePipe] at unresolved
    split_ifs at unresolved
    all_goals cases unresolved
  have writes := pipeEnd_of_resolved located resolved kindOf found
  refine yields_failWhen (fun noReader => ?_) fun _ => ?_
  · exact WriteOutcome.nothing writes (refl kernel) (fun _ impossible => nomatch impossible)
      fun _ => noReader
  refine yields_ite (fun _ => ?_) fun _ => WriteOutcome.accepted writes rfl
  refine yields_bind (fun failure after outcome => ?_) fun _ after outcome => ?_
  · refine writeOutcome_failed ?_ (samePipes_of_inProcesses outcome)
    rintro rfl
    exact block_ne_brokenPipe (congrArg Prod.fst outcome)
  · refine WriteOutcome.nothing writes (samePipes_of_inProcesses outcome) (fun answer isAnswer => ?_)
      fun impossible => nomatch impossible
    cases isAnswer
    rfl

theorem get_ne_brokenPipe : table.get handle ≠ .error .brokenPipe := by
  simp only [Table.get, Table.resolve]
  intro failed
  split_ifs at failed <;> cases failed

theorem write_outcome (kernel : Kernel) (handle fd : Nat) (bytes : Bytes) (tick : Nat) :
    Yields (WriteOutcome kernel handle fd bytes) kernel (Kernel.write handle fd bytes tick) := by
  have failed {failure : Error} (other : failure ≠ .brokenPipe) :
      WriteOutcome kernel handle fd bytes (.error failure) kernel :=
    writeOutcome_failed other (refl kernel)
  have apart (result : Except Error IoResult) (noEnd : kernel.pipeEnd .pipeWrite handle fd = none) :
      WriteOutcome kernel handle fd bytes result kernel :=
    WriteOutcome.elsewhere noEnd (refl kernel)
  refine yields_caller (fun failure cause => ?_) fun process slot _ located => ?_
  · rcases cause with noProcess | noNamespace
    · refine failed ?_
      rintro rfl
      exact get_ne_brokenPipe noProcess
    · exact apart _ (by simp [pipeEnd, noNamespace])
  refine yields_state (yields_lift (fun failure unresolved => ?_) fun index resolved => ?_)
  · exact apart _ (by simp [pipeEnd, located, unresolved])
  refine yields_failWhen (fun _ => failed nofun) fun _ => yields_ite (fun none => ?_) fun _ => ?_
  · cases writes : kernel.pipeEnd .pipeWrite handle fd with
    | none => exact apart _ writes
    | some pipe =>
      refine WriteOutcome.nothing writes (refl kernel) (fun answer _ => ?_) nofun
      rw [none, List.take_nil]
  · have elsewhere {call : KernelCall IoResult}
        (other : (kernel.system.openDescriptions index).kind ≠ .pipeWrite)
        (keeps : Keeps SamePipes call) :
        Yields (WriteOutcome kernel handle fd bytes) kernel call :=
      WriteOutcome.elsewhere (pipeEnd_of_kind located resolved other) (keeps kernel)
    split <;> rename_i kindOf
    · exact elsewhere (by rw [kindOf]; decide) (keeps_pure _)
    · exact failed nofun
    · exact failed nofun
    · exact failed nofun
    · exact elsewhere (by rw [kindOf]; decide)
        (keeps_bind (inVfs_samePipes _) fun _ => keeps_pure _)
    · exact writePipe_outcome bytes located resolved kindOf
    · exact failed nofun

/-- A new pipe takes an unused slot. -/
inductive CreateOutcome (before after : Kernel) : Prop
  | unchanged (same : SamePipes before after)
  | created {pipe : Nat} (free : (before.system.pipes pipe).used = false)
      (changed : after.system.pipes = update before.system.pipes pipe
        { used := true
          generation := nextGeneration (before.system.pipes pipe).generation
          readers := 1
          writers := 1 })

theorem createPipe_outcome (kernel : Kernel) (handle : Nat) :
    CreateOutcome kernel (Kernel.createPipe handle kernel).2 := by
  have unchanged : CreateOutcome kernel kernel := CreateOutcome.unchanged (refl kernel)
  change Yields (fun _ after => CreateOutcome kernel after) kernel _
  refine yields_caller (fun _ _ => unchanged) fun process slot _ located => ?_
  refine yields_state (yields_lift (fun _ _ => unchanged) fun _ _ => ?_)
  refine yields_lift (fun _ _ => unchanged) fun fds _ => ?_
  refine yields_lift (fun _ _ => unchanged) fun opens _ => ?_
  refine yields_lift (fun _ _ => unchanged) fun pipe found => yields_change ?_
  let installed : Kernel := { kernel with
    system := Kernel.installPipe kernel.system slot (fds.headD 0) (fds.getLastD 0) (opens.headD 0)
      (opens.getLastD 0) pipe }
  obtain ⟨processes, synced, -⟩ := syncDescriptorCount_after handle installed
  have created : CreateOutcome kernel { installed with processes } :=
    CreateOutcome.created (findFreePipe_ok found).2 rfl
  rw [← synced] at created
  -- The counts may fail to fit the limits of the process; the pipe stays.
  refine yields_bind (fun failure after outcome => ?_) fun _ after outcome => ?_
  · change syncDescriptorCount handle installed = _ at outcome
    rwa [outcome] at created
  · change syncDescriptorCount handle installed = _ at outcome
    rwa [outcome] at created

/-! ### What passes through a pipe -/

/-- The bytes a pipe's writes have accepted and its reads have returned. -/
structure PipeLog where
  accepted : Bytes := []
  delivered : Bytes := []

/-- The bytes that an operation on this state writes to a pipe. -/
def Operation.accepts (operation : Operation) (kernel : Kernel) (pipe : Nat) : Bytes :=
  match operation with
  | .write handle fd bytes tick =>
    if kernel.pipeEnd .pipeWrite handle fd = some pipe then
      match (Kernel.write handle fd bytes tick kernel).1 with
      | .ok result => bytes.take result.count
      | .error _ => []
    else []
  | _ => []

/-- The bytes that an operation on this state reads from a pipe. -/
def Operation.delivers (operation : Operation) (kernel : Kernel) (pipe : Nat) : Bytes :=
  match operation with
  | .read handle fd length tick =>
    if kernel.pipeEnd .pipeRead handle fd = some pipe then
      match (readInternal handle fd length tick kernel).1 with
      | .ok result => result.bytes
      | .error _ => []
    else []
  | _ => []

/-- An operation made this pipe. -/
def Created (before after : Kernel) (pipe : Nat) : Prop :=
  (before.system.pipes pipe).used = false ∧ (after.system.pipes pipe).used = true

instance (before after : Kernel) (pipe : Nat) : Decidable (Created before after pipe) :=
  inferInstanceAs (Decidable (_ ∧ _))

/-- The logs after an operation. A new pipe starts with an empty one. -/
def Operation.log (operation : Operation) (kernel : Kernel) (logs : Nat → PipeLog) (pipe : Nat) :
    PipeLog :=
  if Created kernel (operation.next kernel) pipe then {}
  else
    { accepted := (logs pipe).accepted ++ operation.accepts kernel pipe
      delivered := (logs pipe).delivered ++ operation.delivers kernel pipe }

/-- A run together with what passed through its pipes. -/
inductive Logged : Kernel → (Nat → PipeLog) → Prop
  | start {kernel : Kernel} (fresh : Fresh kernel) : Logged kernel fun _ => {}
  | operation {kernel : Kernel} {logs : Nat → PipeLog} (sofar : Logged kernel logs)
      (operation : Operation) : Logged (operation.next kernel) (operation.log kernel logs)
  | outside {kernel : Kernel} {logs : Nat → PipeLog} {vfs : Vfs} {processes : Table}
      (sofar : Logged kernel logs) (terminal : Option RuntimeTty.Tty)
      (close : Option (Nat → Nat → Nat → Bool)) (held : HeldKept kernel.system kernel.vfs vfs)
      (calm : Calm kernel.processes processes) :
      Logged
        { system := { kernel.system with terminalBackend := terminal, externalClose := close }
          vfs
          processes } logs

theorem Logged.reachable {logs : Nat → PipeLog} (logged : Logged kernel logs) :
    Reachable kernel := by
  induction logged with
  | start fresh => exact ⟨_, fresh, Relation.ReflTransGen.refl⟩
  | operation _ operation hypothesis =>
    obtain ⟨start, fresh, steps⟩ := hypothesis
    exact ⟨start, fresh, steps.tail (Step.operation _ operation)⟩
  | outside _ terminal close held calm hypothesis =>
    obtain ⟨start, fresh, steps⟩ := hypothesis
    exact ⟨start, fresh, steps.tail (Step.outside _ terminal close held calm)⟩

/-- What an operation passes through the pipes, and what it leaves in them. -/
structure Passes (operation : Operation) (kernel : Kernel) (pipe : Nat) : Prop where
  created : Created kernel (operation.next kernel) pipe →
    ((operation.next kernel).system.pipes pipe).contents = []
  kept : (kernel.system.pipes pipe).used = true →
    ((operation.next kernel).system.pipes pipe).used = true →
      (kernel.system.pipes pipe).contents ++ operation.accepts kernel pipe =
        operation.delivers kernel pipe ++ ((operation.next kernel).system.pipes pipe).contents
  live : operation.accepts kernel pipe ≠ [] ∨ operation.delivers kernel pipe ≠ [] →
    (kernel.system.pipes pipe).used = true ∧ ((operation.next kernel).system.pipes pipe).used = true

theorem pipeEnd_used (found : kernel.pipeEnd kind handle fd = some pipe) :
    (kernel.system.pipes pipe).used = true := by
  unfold pipeEnd at found
  split at found
  · cases found
  · split at found
    · cases found
    · split at found
      · split at found
        · cases found
        · rename_i resolved
          cases found
          exact (resolvePipe_ok resolved).2.1
      · cases found

variable {operation : Operation}

/-- An operation that leaves a pipe as it was and passes nothing through it. -/
theorem passes_of_same (same : (operation.next kernel).system.pipes pipe = kernel.system.pipes pipe)
    (accepts : operation.accepts kernel pipe = [])
    (delivers : operation.delivers kernel pipe = []) : Passes operation kernel pipe := by
  refine ⟨fun created => ?_, fun _ _ => ?_, fun passed => ?_⟩
  · rw [Created, same] at created
    cases created.1.symm.trans created.2
  · rw [same, accepts, delivers, List.append_nil, List.nil_append]
  · exact absurd passed (not_or.mpr ⟨not_not.mpr accepts, not_not.mpr delivers⟩)

theorem passes_of_kept (kept : PipesKept kernel (operation.next kernel))
    (accepts : operation.accepts kernel pipe = [])
    (delivers : operation.delivers kernel pipe = []) : Passes operation kernel pipe := by
  refine ⟨fun created => ?_, fun _ used => ?_, fun passed => ?_⟩
  · cases created.1.symm.trans (kept pipe created.2).1
  · rw [accepts, delivers, (kept pipe used).2, List.append_nil, List.nil_append]
  · exact absurd passed (not_or.mpr ⟨not_not.mpr accepts, not_not.mpr delivers⟩)

theorem createPipe_passes (kernel : Kernel) (handle pipe : Nat) :
    Passes (.createPipe handle) kernel pipe := by
  cases createPipe_outcome kernel handle with
  | unchanged same => exact passes_of_same (congrFun same pipe) rfl rfl
  | @created new free changed =>
    have after (other : Nat) : ((Operation.createPipe handle).next kernel).system.pipes other = _ :=
      congrFun changed other
    obtain rfl | here := eq_or_ne pipe new
    · refine ⟨fun _ => ?_, fun used => absurd (used.symm.trans free) (by decide), fun passed => ?_⟩
      · rw [after, update_self]
        rfl
      · exact absurd passed (not_or.mpr ⟨not_not.mpr rfl, not_not.mpr rfl⟩)
    · exact passes_of_same ((after pipe).trans (update_of_ne here _ _)) rfl rfl

theorem read_passes (kernel : Kernel) (sound : PipesSound kernel) (handle fd length : Nat)
    (tick : Option Nat) (pipe : Nat) : Passes (.read handle fd length tick) kernel pipe := by
  have outcome := readInternal_outcome kernel handle fd length tick
  unfold Yields at outcome
  generalize ran : readInternal handle fd length tick kernel = run at outcome
  obtain ⟨result, after⟩ := run
  have next : (Operation.read handle fd length tick).next kernel = after := congrArg Prod.snd ran
  have delivers : (Operation.read handle fd length tick).delivers kernel pipe =
      if kernel.pipeEnd .pipeRead handle fd = some pipe then
        match result with
        | .ok answer => answer.bytes
        | .error _ => []
      else [] := by
    simp only [Operation.delivers, ran]
  cases outcome with
  | elsewhere apart same =>
    refine passes_of_same (next ▸ congrFun same pipe) rfl ?_
    rw [delivers, if_neg (by rw [apart]; exact nofun)]
  | nothing reads same empty =>
    refine passes_of_same (next ▸ congrFun same pipe) rfl ?_
    rw [delivers]
    split
    · split
      · exact (empty _ rfl).1
      · rfl
    · rfl
  | @bytes _ source wakeups reads changed =>
    have live := pipeEnd_used reads
    obtain rfl | here := eq_or_ne pipe source
    · have left : ((Operation.read handle fd length tick).next kernel).system.pipes pipe =
          ((kernel.system.pipes pipe).read length).2 := by
        rw [next, changed, update_self]
      rw [if_pos reads] at delivers
      refine ⟨fun created => absurd (created.1.symm.trans live) (by decide), fun _ _ => ?_,
        fun _ => ⟨live, left ▸ live⟩⟩
      rw [delivers, left, ((sound.buffers pipe).read length).2]
      exact List.append_nil _
    · refine passes_of_same ?_ rfl ?_
      · rw [next, changed, update_of_ne here]
      · rw [delivers, reads, if_neg fun equal => here (Option.some.inj equal).symm]

theorem write_passes (kernel : Kernel) (sound : PipesSound kernel) (handle fd : Nat) (bytes : Bytes)
    (tick pipe : Nat) : Passes (.write handle fd bytes tick) kernel pipe := by
  have outcome := write_outcome kernel handle fd bytes tick
  unfold Yields at outcome
  generalize ran : Kernel.write handle fd bytes tick kernel = run at outcome
  obtain ⟨result, after⟩ := run
  have next : (Operation.write handle fd bytes tick).next kernel = after := congrArg Prod.snd ran
  have accepts : (Operation.write handle fd bytes tick).accepts kernel pipe =
      if kernel.pipeEnd .pipeWrite handle fd = some pipe then
        match result with
        | .ok answer => bytes.take answer.count
        | .error _ => []
      else [] := by
    simp only [Operation.accepts, ran]
  cases outcome with
  | elsewhere apart same =>
    refine passes_of_same (next ▸ congrFun same pipe) ?_ rfl
    rw [accepts, if_neg (by rw [apart]; exact nofun)]
  | nothing writes same empty =>
    refine passes_of_same (next ▸ congrFun same pipe) ?_ rfl
    rw [accepts]
    split
    · split
      · exact empty _ rfl
      · rfl
    · rfl
  | @accepted _ target wakeups writes changed =>
    have live := pipeEnd_used writes
    obtain rfl | here := eq_or_ne pipe target
    · have left : ((Operation.write handle fd bytes tick).next kernel).system.pipes pipe =
          ((kernel.system.pipes pipe).write bytes).2 := by
        rw [next, changed, update_self]
      rw [if_pos writes] at accepts
      refine ⟨fun created => absurd (created.1.symm.trans live) (by decide), fun _ _ => ?_,
        fun _ => ⟨live, left ▸ live⟩⟩
      rw [accepts, left, ((sound.buffers pipe).write bytes).2]
      exact (List.nil_append _).symm
    · refine passes_of_same ?_ ?_ rfl
      · rw [next, changed, update_of_ne here]
      · rw [accepts, writes, if_neg fun equal => here (Option.some.inj equal).symm]

theorem operation_passes (reachable : Reachable kernel) (operation : Operation)
    (pipe : Nat) : Passes operation kernel pipe := by
  have kept (quiet : operation.transfers = false) : PipesKept kernel (operation.next kernel) := by
    have runs := operation.runs kernel
    rw [show (operation.transfers = true) = False by simp [quiet]] at runs
    exact pipesKept_of_runs runs reachable.conserved
  cases operation with
  | createPipe handle => exact createPipe_passes kernel handle pipe
  | read handle fd length tick =>
    exact read_passes kernel reachable.pipesSound handle fd length tick pipe
  | write handle fd bytes tick =>
    exact write_passes kernel reachable.pipesSound handle fd bytes tick pipe
  | _ => exact passes_of_kept (kept rfl) rfl rfl

/-- Reads return what writes accepted, in order, and the buffer holds the rest. -/
structure LogSound (pipe : Pipe) (log : PipeLog) : Prop where
  ordered : log.delivered <+: log.accepted
  buffered : pipe.used = true → log.accepted = log.delivered ++ pipe.contents

theorem Passes.logSound {logs : Nat → PipeLog} (passes : Passes operation kernel pipe)
    (sound : LogSound (kernel.system.pipes pipe) (logs pipe)) :
    LogSound ((operation.next kernel).system.pipes pipe) (operation.log kernel logs pipe) := by
  obtain ⟨ordered, buffered⟩ := sound
  unfold Operation.log
  split
  · rename_i created
    exact ⟨List.prefix_rfl, fun _ => (passes.created created).symm⟩
  · rename_i old
    by_cases survives : (kernel.system.pipes pipe).used = true ∧
        ((operation.next kernel).system.pipes pipe).used = true
    · have balance : (logs pipe).accepted ++ operation.accepts kernel pipe =
          (logs pipe).delivered ++ operation.delivers kernel pipe ++
            ((operation.next kernel).system.pipes pipe).contents := by
        rw [buffered survives.1, List.append_assoc, passes.kept survives.1 survives.2,
          List.append_assoc]
      exact ⟨balance ▸ List.prefix_append _ _, fun _ => balance⟩
    · -- Nothing passes through a pipe that is not there before and after.
      have nothing := not_or.mp (mt passes.live survives)
      rw [not_not.mp nothing.1, not_not.mp nothing.2, List.append_nil, List.append_nil]
      refine ⟨ordered, fun used => ?_⟩
      have unused : (kernel.system.pipes pipe).used = false := by
        by_contra wasUsed
        exact survives ⟨by simpa using wasUsed, used⟩
      exact absurd ⟨unused, used⟩ old

theorem Logged.logSound {logs : Nat → PipeLog} (logged : Logged kernel logs)
    (pipe : Nat) : LogSound (kernel.system.pipes pipe) (logs pipe) := by
  induction logged with
  | start fresh =>
    refine ⟨List.prefix_rfl, fun used => ?_⟩
    rw [fresh.pipes] at used
    cases used
  | operation sofar operation hypothesis =>
    exact (operation_passes sofar.reachable operation pipe).logSound hypothesis
  | outside _ _ _ _ _ hypothesis => exact hypothesis

/-- Pipes are lossless channels in order, and nobody sleeps on one without reason. -/
structure LosslessChannels (kernel : Kernel) (logs : Nat → PipeLog) : Prop where
  ordered : ∀ pipe, (logs pipe).delivered <+: (logs pipe).accepted
  buffered : ∀ pipe, (kernel.system.pipes pipe).used = true →
    (logs pipe).accepted = (logs pipe).delivered ++ (kernel.system.pipes pipe).contents ∧
      (kernel.system.pipes pipe).count =
        (logs pipe).accepted.length - (logs pipe).delivered.length
  sleepers : PipesSound kernel
  endOfFile : ∀ handle fd length tick pipe answer,
    kernel.pipeEnd .pipeRead handle fd = some pipe →
      (readInternal handle fd length tick kernel).1 = .ok answer → answer.status = .eof →
        (kernel.system.pipes pipe).count = 0 ∧ (kernel.system.pipes pipe).writers = 0
  broken : ∀ handle fd bytes tick pipe,
    kernel.pipeEnd .pipeWrite handle fd = some pipe →
      (Kernel.write handle fd bytes tick kernel).1 = .error .brokenPipe →
        (kernel.system.pipes pipe).readers = 0

theorem logged_losslessChannels {kernel : Kernel} {logs : Nat → PipeLog}
    (logged : Logged kernel logs) : LosslessChannels kernel logs := by
  refine ⟨fun pipe => (logged.logSound pipe).ordered, fun pipe used => ?_,
    logged.reachable.pipesSound, fun handle fd length tick pipe answer reads read ended => ?_,
    fun handle fd bytes tick pipe writes failed => ?_⟩
  · have balance := (logged.logSound pipe).buffered used
    refine ⟨balance, ?_⟩
    rw [balance, List.length_append, contents_length]
    omega
  · have outcome := readInternal_outcome kernel handle fd length tick
    unfold Yields at outcome
    rw [read] at outcome
    cases outcome with
    | elsewhere apart => exact absurd (reads.symm.trans apart) nofun
    | nothing found _ empty =>
      obtain rfl := Option.some.inj (reads.symm.trans found)
      exact (empty answer rfl).2 ended
    | bytes => cases ended
  · have outcome := write_outcome kernel handle fd bytes tick
    unfold Yields at outcome
    rw [failed] at outcome
    cases outcome with
    | elsewhere apart => exact absurd (writes.symm.trans apart) nofun
    | nothing found _ _ broken =>
      obtain rfl := Option.some.inj (writes.symm.trans found)
      exact broken rfl

/-- The state and the logs after some operations in a row. -/
def Kernel.recorded (kernel : Kernel) (operations : List Operation) : Kernel × (Nat → PipeLog) :=
  operations.foldl (fun run operation => (operation.next run.1, operation.log run.1 run.2))
    (kernel, fun _ => {})

theorem Fresh.logged (fresh : Fresh kernel) (operations : List Operation) :
    Logged (kernel.recorded operations).1 (kernel.recorded operations).2 := by
  have run (earlier : Kernel × (Nat → PipeLog)) (sofar : Logged earlier.1 earlier.2) :
      Logged (operations.foldl (fun run operation =>
          (operation.next run.1, operation.log run.1 run.2)) earlier).1
        (operations.foldl (fun run operation =>
          (operation.next run.1, operation.log run.1 run.2)) earlier).2 := by
    induction operations generalizing earlier with
    | nil => exact sofar
    | cons operation rest hypothesis =>
      exact hypothesis _ (sofar.operation operation)
  exact run _ (Logged.start fresh)

/-- A process passes three bytes to itself and reads two of them. -/
def channelRun : List Operation := [
  .bindProcess 0x100000000 true,
  .createPipe 0x100000000,
  .write 0x100000000 4 [1, 2, 3] 0,
  .read 0x100000000 3 2 none]

theorem channelRun_lossless :
    (((initialized 0).recorded channelRun).2 0).accepted = [1, 2, 3] ∧
      (((initialized 0).recorded channelRun).2 0).delivered = [1, 2] ∧
      LosslessChannels ((initialized 0).recorded channelRun).1
        ((initialized 0).recorded channelRun).2 :=
  ⟨by decide +kernel, by decide +kernel,
    logged_losslessChannels ((fresh_initialized 0).logged channelRun)⟩

end ZigOs.RuntimeFd
