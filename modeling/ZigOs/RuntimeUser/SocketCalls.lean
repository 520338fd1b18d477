/-
This file proves that every system call on sockets is a move of the sockets, after
which its process may be asleep. Until a call changes its slot, only the device
and the choice of ports have moved on.
-/

import ZigOs.RuntimeUser.SocketSteps

namespace ZigOs.RuntimeUser

open Scan RuntimeProcess RuntimeFd TcpConnection Call Function

namespace Sockets

/-! ### Small parts -/

variable {Next : Type}

theorem bind_ok {Failure First : Type} {first : Except Failure First}
    {next : First → Except Failure Next} {value : Next} (result : (first >>= next) = .ok value) :
    ∃ middle, first = .ok middle ∧ next middle = .ok value := by
  cases first with
  | error failure => cases result
  | ok middle => exact ⟨middle, rfl, result⟩

variable {sockets : Sockets} {handle index : Nat}

/-- A descriptor leads to a slot in use. -/
theorem socketSlotForDescriptor_live {fd : Nat}
    (found : sockets.socketSlotForDescriptor handle fd = .ok index) :
    index < maximumSocketSlots ∧ (sockets.slots index).used = true := by
  unfold socketSlotForDescriptor at found
  obtain ⟨_, -, found⟩ := bind_ok found
  obtain ⟨_, -, found⟩ := bind_ok found
  obtain ⟨_, -, found⟩ := bind_ok found
  dsimp only at found
  split at found
  · cases found
  split at found
  · cases found
  split at found
  · cases found
  rename_i resolved
  split at found
  · cases found
  cases found
  simp only [resolveSocketSlot, Bool.not_eq_false, Bool.and_eq_true, decide_eq_true_eq] at resolved
  exact resolved.1

variable {action : Action} {before after : Sockets}

theorem moves_of_move (move : Move action before after) :
    Moves action before after := ⟨after, move, .inl rfl⟩

theorem moves_refl (action : Action) (sockets : Sockets) : Moves action sockets sockets :=
  moves_of_move (move_refl action sockets)

variable {carried : Sockets}

/-- Nothing was sent, so nothing has happened to the sockets. -/
theorem Carries.idle (carries : Carries before carried none) : Move action before carried := by
  refine .idle carries.slots ?_ ?_
  · rw [carries.kernel]
    exact refl before.kernel
  · rcases carries.sends with same | ⟨_, _, _, _, impossible, -⟩
    · exact same
    · cases impossible

variable {reason : WaitReason}

/-- The caller goes to sleep on a slot on which its call has to wait. -/
theorem blockOn_fallsAsleep (below : index < maximumSocketSlots)
    (used : (sockets.slots index).used = true)
    (waits : (sockets.slots index).protocol = .tcp → Blocks (sockets.slots index) reason) :
    FallsAsleep sockets (blockOn handle reason index sockets).2 := by
  have state : (blockOn handle reason index sockets).2 = { sockets with
        kernel := { sockets.kernel with
          processes := (Table.block handle reason
            (socketWaitKey index (sockets.slots index).generation) sockets.kernel.processes).2 } } := by
    unfold blockOn inKernel
    rw [bind_state, bind_apply]
    dsimp only
    split
    · rename_i outcome
      exact (congrArg Prod.snd outcome).symm
    · rename_i outcome
      exact (congrArg Prod.snd outcome).symm
  rw [state]
  refine ⟨rfl, rfl, fun slot other target _ asleep => ?_⟩
  rcases block_asleep asleep with slept | ⟨rfl, rfl, -⟩
  · exact .inl slept
  · exact .inr ⟨index, below, used, waits, rfl⟩

variable {middle : Sockets}

/-- The state of a call that blocks after its part of the work. -/
theorem moves_then_block (move : Move action before middle) (below : index < maximumSocketSlots)
    (used : (middle.slots index).used = true)
    (waits : (middle.slots index).protocol = .tcp → Blocks (middle.slots index) reason) :
    Moves action before (blockOn handle reason index middle).2 :=
  ⟨middle, move, Or.inr (blockOn_fallsAsleep below used waits)⟩

theorem blockSocketWriter_moves (dontWait : Bool) (below : index < maximumSocketSlots)
    (used : (sockets.slots index).used = true)
    (waits : (sockets.slots index).protocol = .tcp → Blocks (sockets.slots index) .socketWrite) :
    Moves action sockets (blockSocketWriter handle index dontWait sockets).2 := by
  unfold blockSocketWriter
  rw [bind_state, bind_failWhen]
  split
  · exact moves_refl _ _
  · exact moves_then_block (move_refl _ _) below used waits

/-! ### New sockets -/

/-- Besides one slot, only the kernel has moved on, and its processes are off the sockets. -/
structure Installs (before : Sockets) (index : Nat) (slot : SocketSlot) (after : Sockets) : Prop where
  slots : after.slots = update before.slots index slot
  calm : KernelCalm before.kernel after.kernel
  transmitted : after.transmitted = before.transmitted

variable {slot : SocketSlot}

theorem installSocket_cases {result : Except Errno Nat}
    (installed : installSocket handle index slot sockets = (result, after)) :
    (∃ fd, result = .ok fd ∧ Installs sockets index slot after) ∨
      ∃ failure, result = .error failure ∧
        Installs sockets index { generation := slot.generation } after := by
  unfold installSocket inKernel at installed
  rw [bind_change, bind_attempt] at installed
  have calm := createExternalDescriptor_kernelCalm handle
    slot.protocol.descriptionKind { index := index, generation := slot.generation } true true true sockets.kernel
  dsimp only [modifySlot] at installed
  rcases created : Kernel.createExternalDescriptor handle
    slot.protocol.descriptionKind { index := index, generation := slot.generation } true true true sockets.kernel with
    ⟨failure | fd, kernel⟩
  · rw [created] at installed calm
    cases installed
    refine .inr ⟨_, rfl, ?_, calm, rfl⟩
    exact update_idem _ _ _
  · rw [created] at installed calm
    cases installed
    exact .inl ⟨_, rfl, rfl, calm, rfl⟩

theorem findFreeSocketSlot_free (found : sockets.findFreeSocketSlot = some index) :
    index < maximumSocketSlots ∧ (sockets.slots index).used = false := by
  obtain ⟨below, free, -⟩ := firstIndex_eq_some.mp found
  exact ⟨below, by simpa using free⟩

theorem Installs.move (installs : Installs before index slot after)
    (below : index < maximumSocketSlots) (unused : (before.slots index).used = false)
    (unconnected : slot.tcp = none) (deaf : slot.listener = none) : Moves action before after :=
  moves_of_move (.create below unused unconnected deaf installs.slots installs.calm
    installs.transmitted)

variable {Value : Type}

theorem yields_activeDevice {post : Except Errno Value → Sockets → Prop}
    {next : Device → SocketCall Value} (fails : post (.error .connectionRefused) sockets)
    (rest : ∀ device, sockets.device = some device → Yields post sockets (next device)) :
    Yields post sockets (activeDevice >>= next) := by
  have outcome : activeDevice sockets =
      (sockets.device.elim (.error .connectionRefused) .ok, sockets) := by
    unfold activeDevice
    rw [bind_state]
    cases sockets.device <;> rfl
  unfold Yields
  rw [bind_apply, outcome]
  cases present : sockets.device with
  | none => exact fails
  | some device => exact rest device present

theorem syscallSocket_moves (action : Action) (sockets : Sockets) (handle : Nat)
    (protocol : SocketProtocol) :
    Moves action sockets (syscallSocket handle protocol sockets).2 := by
  show Yields (fun _ after => Moves action sockets after) sockets _
  refine yields_activeDevice (moves_refl _ _) fun _ _ => yields_state ?_
  cases free : sockets.findFreeSocketSlot with
  | none => exact yields_fail (moves_refl _ _)
  | some index =>
    obtain ⟨below, unused⟩ := findFreeSocketSlot_free free
    refine yields_bind (fun failure after outcome => ?_) fun fd after outcome => ?_
    · rcases installSocket_cases outcome with ⟨_, impossible, -⟩ | ⟨_, -, installs⟩
      · cases impossible
      · exact installs.move below unused rfl rfl
    · rcases installSocket_cases outcome with ⟨_, -, installs⟩ | ⟨_, impossible, -⟩
      · exact yields_pure (installs.move below unused rfl rfl)
      · cases impossible

/-! ### Listening and accepting -/

variable {outbound : Option (Nat × Peer × OutboundSegment)}

/-- Nothing but the slot changes. -/
theorem modifySlot_moves (carries : Carries before carried outbound)
    (target : action.target before = some index) (below : index < maximumSocketSlots)
    (used : (before.slots index).used = true)
    (move : SlotMove action before.takes (before.slots index) slot none outbound)
    {step : SocketSlot → SocketSlot} (becomes : step (before.slots index) = slot) :
    Moves action before (carried.modifySlot index step) :=
  moves_of_move (carries.quiet_move target below used move becomes)

theorem syscallListen_moves (sockets : Sockets) (handle fd backlog : Nat) :
    Moves (.listen handle fd backlog) sockets (syscallListen handle fd backlog sockets).2 := by
  show Yields (fun _ after => Moves (.listen handle fd backlog) sockets after) sockets _
  refine yields_failWhen (fun _ => moves_refl _ _) fun bounded => yields_state
    (yields_lift (fun _ _ => moves_refl _ _) fun index found => ?_)
  have target : (Action.listen handle fd backlog).target sockets = some index := by
    simp only [Action.target, found, Except.toOption]
  obtain ⟨below, used⟩ := socketSlotForDescriptor_live found
  refine yields_failWhen (fun _ => moves_refl _ _) fun stream => yields_failWhen
    (fun _ => moves_refl _ _) fun plain => yields_failWhen (fun _ => moves_refl _ _) fun _ =>
      yields_change (yields_pure ?_)
  simp only [not_or, Bool.not_eq_true, Option.isSome_eq_false_iff, Option.isNone_iff_eq_none]
    at plain
  exact modifySlot_moves (carries_refl sockets none) target below used
    (.listen (by omega) (not_not.mp stream) plain.1 plain.2) rfl

theorem syscallAccept_moves (sockets : Sockets) (handle fd : Nat) (copyPeer writable : Bool) :
    Moves (.accept handle fd copyPeer writable) sockets
      (syscallAccept handle fd copyPeer writable sockets).2 := by
  show Yields (fun _ after => Moves (.accept handle fd copyPeer writable) sockets after) sockets _
  refine yields_failWhen (fun _ => moves_refl _ _) fun _ => yields_state
    (yields_lift (fun _ _ => moves_refl _ _) fun index found => ?_)
  have target : (Action.accept handle fd copyPeer writable).target sockets = some index := by
    simp only [Action.target, found, Except.toOption]
  obtain ⟨below, used⟩ := socketSlotForDescriptor_live found
  refine yields_failWhen (fun _ => moves_refl _ _) fun _ => ?_
  cases listens : (sockets.slots index).listener with
  | none => exact yields_fail (moves_refl _ _)
  | some listener =>
    dsimp only
    cases ready : tcpListenerEstablishedIndex listener with
    | none =>
      -- Nothing can be accepted, so the caller waits.
      refine yields_failWhen (fun _ => moves_refl _ _) fun _ =>
        moves_then_block (move_refl _ _) below used fun _ => ⟨listener, listens, ?_⟩
      rw [tcpListenerReady, ready]
      rfl
    | some entry =>
      dsimp only
      obtain ⟨entryBelow, holds, -⟩ := firstIndex_eq_some.mp ready
      cases held : (listener.pending entry).control with
      | none => exact yields_fail (moves_refl _ _)
      | some control =>
        dsimp only
        rw [held, Option.any_some, Bool.and_eq_true, beq_iff_eq] at holds
        obtain ⟨pending, established⟩ := holds
        cases free : sockets.findFreeSocketSlot with
        | none => exact yields_fail (moves_refl _ _)
        | some fresh =>
          obtain ⟨freshBelow, unused⟩ := findFreeSocketSlot_free free
          refine yields_bind (fun failure after outcome => ?_) fun fd after outcome => ?_
          · rcases installSocket_cases outcome with ⟨_, impossible, -⟩ | ⟨_, -, installs⟩
            · cases impossible
            · exact installs.move freshBelow unused rfl rfl
          · rcases installSocket_cases outcome with ⟨_, -, installs⟩ | ⟨_, impossible, -⟩
            · have other : index ≠ fresh := by
                rintro rfl
                rw [used] at unused
                cases unused
              have slots : (after.setListener index (listener.setPending entry {})).slots =
                  update (update sockets.slots fresh (acceptedSlot listener
                    (listener.pending entry) control
                      (nextSocketGeneration (sockets.slots fresh).generation))) index
                    { sockets.slots index with
                      listener := some (listener.setPending entry {}) } := by
                simp only [setListener, modifySlot, installs.slots, update_of_ne other]
              exact yields_change (yields_pure (moves_of_move
                (.accept target below used listens entryBelow pending held established freshBelow
                  unused slots installs.calm installs.transmitted)))
            · cases impossible

theorem syscallSetNonblocking_moves (sockets : Sockets) (handle fd : Nat) (enabled : Bool) :
    Moves (.setNonblocking handle fd enabled) sockets
      (syscallSetNonblocking handle fd enabled sockets).2 := by
  show Yields (fun _ after => Moves (.setNonblocking handle fd enabled) sockets after) sockets _
  refine yields_state (yields_lift (fun _ _ => moves_refl _ _) fun index found => ?_)
  have target : (Action.setNonblocking handle fd enabled).target sockets = some index := by
    simp only [Action.target, found, Except.toOption]
  obtain ⟨below, used⟩ := socketSlotForDescriptor_live found
  exact yields_change (yields_pure (modifySlot_moves (carries_refl sockets none) target
    below used (.configure (sockets.slots index).tcpBoundPort enabled) rfl))

/-! ### Ports -/

/-- Nothing but the choice of ports and the attempts of the device has moved on. -/
def Aside (before after : Sockets) : Prop := Carries before after none

theorem Aside.carries (aside : Aside before middle)
    (carries : Carries middle after outbound) : Carries before after outbound := by
  refine ⟨carries.slots.trans aside.slots, carries.kernel.trans aside.kernel,
    carries.tick.trans aside.tick, ?_⟩
  rcases aside.sends with same | ⟨_, _, _, _, impossible, -⟩
  · have sends := carries.sends
    unfold Sends at sends
    rwa [same] at sends
  · cases impossible

instance : Std.Refl Aside where
  refl sockets := carries_refl sockets none

instance : IsTrans Sockets Aside where
  trans _ _ _ first second := Aside.carries first second

theorem allocateTcpEphemeralPort_aside : Keeps Aside allocateTcpEphemeralPort := by
  refine keeps_state_bind fun sockets => ?_
  split
  · exact keeps_fail _
  · exact keeps_bind (keeps_change fun _ => ⟨rfl, rfl, rfl, .inl rfl⟩) fun _ => keeps_pure _

theorem yields_aside {post : Except Errno Value → Sockets → Prop} {call : SocketCall Next}
    {next : Next → SocketCall Value} (aside : Keeps Aside call)
    (fails : ∀ failure after, Aside sockets after → post (.error failure) after)
    (rest : ∀ value after, Aside sockets after → Yields post after (next value)) :
    Yields post sockets (call >>= next) := by
  have carries := aside sockets
  refine yields_bind (fun failure after outcome => ?_) fun value after outcome => ?_
  · rw [outcome] at carries
    exact fails failure after carries
  · rw [outcome] at carries
    exact rest value after carries

theorem syscallBind_moves (sockets : Sockets) (handle fd : Nat)
    (address : Option (BitVec 32 × Nat)) :
    Moves (.bind handle fd address) sockets (syscallBind handle fd address sockets).2 := by
  show Yields (fun _ after => Moves (.bind handle fd address) sockets after) sockets _
  unfold syscallBind
  rcases address with _ | ⟨ipv4, requestedPort⟩
  · exact yields_fail (moves_refl _ _)
  · refine yields_state (yields_lift (fun _ _ => moves_refl _ _) fun index found => ?_)
    have target : (Action.bind handle fd (some (ipv4, requestedPort))).target sockets =
        some index := by
      simp only [Action.target, found, Except.toOption]
    obtain ⟨below, used⟩ := socketSlotForDescriptor_live found
    refine yields_activeDevice (moves_refl _ _) fun device _ => yields_failWhen
      (fun _ => moves_refl _ _) fun _ => yields_ite
        (fun _ => yields_pure (moves_refl _ _)) fun _ => yields_failWhen
          (fun _ => moves_refl _ _) fun _ => ?_
    have bound (port : Nat) (after : Sockets) (aside : Aside sockets after) :
        Moves (.bind handle fd (some (ipv4, requestedPort))) sockets
          (after.modifySlot index fun slot => { slot with tcpBoundPort := port }) :=
      modifySlot_moves aside target below used (.configure port (sockets.slots index).nonblocking) rfl
    refine yields_ite (fun _ => ?_) fun _ => yields_failWhen (fun _ => moves_refl _ _) fun _ => ?_
    · exact yields_aside allocateTcpEphemeralPort_aside (fun _ _ aside => moves_of_move aside.idle)
        fun port after aside => yields_change (yields_pure (bound port after aside))
    · exact yields_pure_bind (yields_change (yields_pure
        (bound requestedPort sockets (refl sockets))))

/-! ### Connecting -/

theorem bind_send (transmission : Transmission) (next : Bool → SocketCall Value)
    (sockets : Sockets) : (send transmission >>= next) sockets =
      next (transmit transmission sockets).1 (transmit transmission sockets).2 := rfl

theorem transmit_modifySlot (sockets : Sockets) (transmission : Transmission) (index : Nat)
    (step : SocketSlot → SocketSlot) :
    transmit transmission (sockets.modifySlot index step) =
      ((transmit transmission sockets).1, (transmit transmission sockets).2.modifySlot index step) := by
  obtain ⟨kernel, slots, port, device, tick⟩ := sockets
  cases device <;> rfl

theorem modifySlot_modifySlot (sockets : Sockets) (index : Nat) (first second : SocketSlot → SocketSlot) :
    (sockets.modifySlot index first).modifySlot index second =
      sockets.modifySlot index (second ∘ first) := by
  simp only [modifySlot, update_self, update_idem, Function.comp]

/-- What `openConnection` leaves. -/
def Opens (action : Action) (index : Nat) (before : Sockets) (result : Except Errno TcpSocketState)
    (after : Sockets) : Prop :=
  Move action before after ∧ ∀ connection, result = .ok connection →
    (after.slots index).used = true ∧ (after.slots index).tcp = some connection

theorem beginConnection_opens {port : Nat} (peer : Peer) (aside : Aside sockets carried)
    (target : action.target sockets = some index) (below : index < maximumSocketSlots)
    (used : (sockets.slots index).used = true) (unconnected : (sockets.slots index).tcp = none)
    (deaf : (sockets.slots index).listener = none) :
    Yields (Opens action index sockets) carried (beginConnection index port peer) := by
  refine yields_change (yields_state ?_)
  generalize tcpInitialSequence _ _ _ = initialSequence
  generalize (carried.modifySlot index _).currentTick = tick
  rcases begun : ControlBlock.beginActiveOpenAt { receiveWindow := tcpReceiveWindow }
    initialSequence tick tcpRetransmissionPolicy with ⟨transition, control⟩
  dsimp only
  cases outgoing : transition.outbound with
  | none =>
    exact yields_fail ⟨Carries.quiet_move aside target below used
      (.configure port (sockets.slots index).nonblocking) rfl,
      fun _ accepted => absurd accepted (by simp)⟩
  | some outbound =>
    have carries := aside.carries (transmit_carries carried { localPort := port, peer, outbound })
    have apart := transmit_modifySlot carried { localPort := port, peer, outbound } index
      fun slot => { slot with tcpBoundPort := port }
    rcases sending : transmit { localPort := port, peer, outbound } carried with ⟨sent, moved⟩
    rw [sending] at carries apart
    let connection : TcpSocketState :=
      { localPort := port, peer, control, status := if sent then .connecting else .ioFailed }
    have becomes : connection.status = .connecting ∨ connection.status = .ioFailed := by
      cases sent
      · exact .inr rfl
      · exact .inl rfl
    have opened : SlotMove action sockets.takes (sockets.slots index)
        { sockets.slots index with tcpBoundPort := port, tcp := some connection } none
        (some (port, peer, outbound)) := by
      have move := @SlotMove.connect action sockets.takes _ port peer _ _ _ _ _ unconnected deaf begun becomes
      rwa [outgoing] at move
    have state : (moved.modifySlot index fun slot => { slot with tcpBoundPort := port }).setConnection
        index connection = moved.modifySlot index fun slot =>
            { slot with tcpBoundPort := port, tcp := some connection } :=
      modifySlot_modifySlot _ _ _ _
    have placed : ((((moved.modifySlot index fun slot =>
        { slot with tcpBoundPort := port }).setConnection index connection).slots index).used = true ∧
          (((moved.modifySlot index fun slot =>
            { slot with tcpBoundPort := port }).setConnection index connection).slots index).tcp =
              some connection) := by
      have slots : moved.slots = sockets.slots := carries.slots
      rw [state]
      simp only [modifySlot, update_self, slots]
      exact ⟨used, trivial⟩
    have move : Move action sockets (moved.modifySlot index fun slot =>
        { slot with tcpBoundPort := port, tcp := some connection }) :=
      carries.quiet_move target below used opened rfl
    rw [← state] at move
    unfold Yields
    rw [bind_send, apart, bind_change, bind_failWhen]
    split
    · exact ⟨move, fun _ same => absurd same (by simp)⟩
    · refine ⟨move, fun other same => ?_⟩
      cases same
      exact placed

theorem openConnection_opens (device : Device) (peer : Peer)
    (target : action.target sockets = some index) (below : index < maximumSocketSlots)
    (used : (sockets.slots index).used = true) (unconnected : (sockets.slots index).tcp = none)
    (deaf : (sockets.slots index).listener = none) :
    Yields (Opens action index sockets) sockets (openConnection index device peer) := by
  have failed (failure : Errno) {after : Sockets} (aside : Aside sockets after) :
      Opens action index sockets (.error failure) after := ⟨aside.idle, nofun⟩
  have begun (port : Nat) {after : Sockets} (aside : Aside sockets after) :
      Yields (Opens action index sockets) after (beginConnection index port peer) :=
    beginConnection_opens peer aside target below used unconnected deaf
  refine yields_failWhen (fun _ => failed _ (refl sockets)) fun _ => yields_state
    (yields_ite (fun _ => ?_) fun _ => ?_)
  · exact yields_pure_bind (begun _ (refl sockets))
  · exact yields_aside allocateTcpEphemeralPort_aside (fun _ _ aside => failed _ aside)
      fun port _ aside => begun port aside

theorem syscallConnect_moves (sockets : Sockets) (handle fd : Nat)
    (address : Option (BitVec 32 × Nat)) (datagram : Except Errno Nat) :
    Moves (.connect handle fd address datagram) sockets
      (syscallConnect handle fd address datagram sockets).2 := by
  show Yields (fun _ after => Moves (.connect handle fd address datagram) sockets after) sockets _
  unfold syscallConnect
  cases address with
  | none => exact yields_fail (moves_refl _ _)
  | some address =>
    refine yields_state (yields_lift (fun _ _ => moves_refl _ _) fun index found => ?_)
    have target : (Action.connect handle fd (some address) datagram).target sockets = some index := by
      simp only [Action.target, found, Except.toOption]
    obtain ⟨below, used⟩ := socketSlotForDescriptor_live found
    refine yields_activeDevice (moves_refl _ _) fun device _ => yields_ite (fun _ =>
      yields_lift (fun _ _ => moves_refl _ _) fun _ _ => yields_pure (moves_refl _ _)) fun _ => ?_
    cases tcpPeerForAddress device address with
    | none => exact yields_fail (moves_refl _ _)
    | some peer =>
      refine yields_failWhen (fun _ => moves_refl _ _) fun deaf => ?_
      have waits (connection : TcpSocketState) {middle : Sockets}
          (move : Move (.connect handle fd (some address) datagram) sockets middle)
          (live : (middle.slots index).used = true)
          (held : (middle.slots index).tcp = some connection) :
          Yields (fun _ after => Moves (.connect handle fd (some address) datagram) sockets after)
            middle (answerConnect handle index peer (sockets.slots index).nonblocking connection) := by
        refine yields_failWhen (fun _ => moves_of_move move) fun _ => ?_
        cases connects : connection.status
        case connecting =>
          exact yields_failWhen (fun _ => moves_of_move move) fun _ =>
            moves_then_block move below live fun _ => ⟨connection, held, .inl connects⟩
        all_goals exact moves_of_move move
      cases held : (sockets.slots index).tcp with
      | some connection => exact waits connection (move_refl _ _) used held
      | none =>
        simp only [Bool.not_eq_true, Option.isSome_eq_false_iff, Option.isNone_iff_eq_none] at deaf
        have opens := openConnection_opens device peer target below used held deaf
        refine yields_bind (fun failure after outcome => ?_) fun connection after outcome => ?_
        · rw [Yields, outcome] at opens
          exact moves_of_move opens.1
        · rw [Yields, outcome] at opens
          obtain ⟨live, opened⟩ := opens.2 connection rfl
          exact waits connection opens.1 live opened

/-! ### Sending -/

variable {transmission : Transmission}

theorem yields_send {post : Except Errno Value → Sockets → Prop} {next : Bool → SocketCall Value}
    (unsent : ∀ after, Aside sockets after → Yields post after (next false))
    (sent : ∀ after, (transmit transmission sockets).1 = true → Carries sockets after (some
      (transmission.localPort, transmission.peer, transmission.outbound)) →
        Yields post after (next true)) : Yields post sockets (send transmission >>= next) := by
  have carries := transmit_carries sockets transmission
  have lost := @transmit_unsent sockets transmission
  unfold Yields
  rw [bind_send]
  rcases sending : transmit transmission sockets with ⟨answer, after⟩
  rw [sending] at carries lost sent
  cases answer with
  | true => exact sent after rfl carries
  | false => exact unsent after (lost rfl)

variable {length : Nat}

/-- What fits a segment can always be sent when the connection is ready. -/
theorem applicationSendReady_of_none {control : ControlBlock} (positive : length ≠ 0)
    (refused : control.beginApplicationSend (min length (min maximumIoBytes control.sendWindow)) =
      none) : control.applicationSendReady = false := by
  unfold ControlBlock.beginApplicationSend at refused
  split at refused
  · rename_i cause
    rcases cause with nothing | notReady | large
    · have size : maximumIoBytes = 1024 := rfl
      have closed : control.sendWindow = 0 := by omega
      simp [ControlBlock.applicationSendReady, closed]
    · exact notReady
    · omega
  · cases refused

theorem takes_of_transmit {device : Device} (present : sockets.device = some device)
    (ready : ¬ device.ready = false)
    (sent : (transmit transmission sockets).1 = true) : sockets.takes = true := by
  unfold transmit at sent
  rw [present] at sent
  simp only [takes, present, Option.any_some, Bool.and_eq_true]
  exact ⟨by simpa using ready, sent⟩

variable {connection : TcpSocketState}

theorem sendStream_moves {dontWait : Bool} {buffer : Nat → Option Bytes}
    (target : action.target sockets = some index) (below : index < maximumSocketSlots)
    (used : (sockets.slots index).used = true) (held : (sockets.slots index).tcp = some connection)
    (established : connection.status = .established) (writable : connection.writeShutdown = false)
    (positive : length ≠ 0) : Moves action sockets
      (sendStream handle index connection length dontWait buffer sockets).2 := by
  show Yields (fun _ after => Moves action sockets after) sockets _
  unfold sendStream
  dsimp only
  cases buffer (min length (min maximumIoBytes connection.control.sendWindow)) with
  | none => exact yields_fail (moves_refl _ _)
  | some bytes =>
    refine yields_activeDevice (moves_refl _ _) fun device _ => yields_failWhen
      (fun _ => moves_refl _ _) fun _ => ?_
    cases begun : connection.control.beginApplicationSend
        (min length (min maximumIoBytes connection.control.sendWindow)) with
    | none =>
      refine blockSocketWriter_moves dontWait below used fun _ =>
        ⟨connection, held, .inr ⟨established, writable, ?_⟩⟩
      exact applicationSendReady_of_none positive begun
    | some sending =>
      obtain ⟨outbound, control⟩ := sending
      refine yields_send (fun after aside => ?_) fun after sent carries => ?_
      · exact yields_failWhen (fun _ => moves_of_move aside.idle) fun other =>
          absurd rfl other
      · exact yields_failWhen (fun other => nomatch other) fun _ => yields_change
          (yields_pure (moves_of_move (Carries.connection_quiet
            (.send established writable begun) carries target below used held)))

theorem syscallSend_moves (sockets : Sockets) (handle fd length : Nat) (dontWait : Bool)
    (buffer : Nat → Option Bytes) (datagram : Option (Except Errno Nat)) :
    Moves (.send handle fd length dontWait buffer datagram) sockets
      (syscallSend handle fd length dontWait buffer datagram sockets).2 := by
  show Yields (fun _ after => Moves (.send handle fd length dontWait buffer datagram) sockets
    after) sockets _
  refine yields_state (yields_lift (fun _ _ => moves_refl _ _) fun index found => ?_)
  have target : (Action.send handle fd length dontWait buffer datagram).target sockets =
      some index := by
    simp only [Action.target, found, Except.toOption]
  obtain ⟨below, used⟩ := socketSlotForDescriptor_live found
  refine yields_ite (fun udp => ?_) fun _ => yields_failWhen (fun _ => moves_refl _ _) fun _ => ?_
  · cases datagram with
    | none =>
      refine blockSocketWriter_moves dontWait below used fun tcp => ?_
      rw [udp] at tcp
      cases tcp
    | some answer =>
      exact yields_lift (fun _ _ => moves_refl _ _) fun _ _ => yields_pure (moves_refl _ _)
  · cases held : (sockets.slots index).tcp with
    | none => exact yields_fail (moves_refl _ _)
    | some connection =>
      dsimp only
      cases status : connection.status
      case connecting =>
        exact blockSocketWriter_moves dontWait below used fun _ =>
          ⟨connection, held, .inl status⟩
      case established =>
        refine yields_failWhen (fun _ => moves_refl _ _) fun writable => yields_ite
          (fun _ => yields_pure (moves_refl _ _)) fun positive => yields_ite
            (fun notReady => ?_) fun _ => ?_
        · exact blockSocketWriter_moves dontWait below used fun _ =>
            ⟨connection, held, .inr ⟨status, by simpa using writable, notReady⟩⟩
        · exact sendStream_moves target below used held status (by simpa using writable) positive
      all_goals exact moves_refl _ _

/-! ### Shutting down -/

/-- The connection is shut for writing, and the end of the stream is on its way. -/
def Shut (index : Nat) (connection : TcpSocketState) (before : Sockets) (shut : TcpSocketState)
    (after : Sockets) : Prop :=
  before.takes = true ∧ ∃ transition outbound control carried,
    connection.control.beginClose = (transition, control) ∧ transition.accepted = true ∧
      transition.outbound = some outbound ∧
        shut = { connection with control := control, writeShutdown := true } ∧
          Carries before carried (some (connection.localPort, connection.peer, outbound)) ∧
            after = carried.setConnection index shut

theorem yields_shutdownWrite {post : Except Errno Value → Sockets → Prop}
    {next : TcpSocketState → SocketCall Value}
    (fails : ∀ failure after, Aside sockets after → post (.error failure) after)
    (rest : ∀ shut after, Shut index connection sockets shut after →
      Yields post after (next shut)) :
    Yields post sockets (shutdownWrite index connection >>= next) := by
  have shuts : Yields (fun result after => match result with
      | .error _ => Aside sockets after
      | .ok shut => Shut index connection sockets shut after) sockets
      (shutdownWrite index connection) := by
    refine yields_activeDevice (carries_refl sockets none) fun device present =>
      yields_failWhen (fun _ => carries_refl sockets none) fun ready => ?_
    rcases closed : connection.control.beginClose with ⟨transition, control⟩
    dsimp only
    by_cases accepted : transition.accepted = true
    · rw [if_pos accepted]
      cases sends : transition.outbound with
      | none => exact yields_fail (carries_refl sockets none)
      | some outbound =>
        refine yields_send (fun after aside => ?_) fun after sent carries => ?_
        · exact yields_failWhen (fun _ => aside) fun other => absurd rfl other
        · exact yields_failWhen (fun other => nomatch other) fun _ => yields_change
            (yields_pure ⟨takes_of_transmit present ready sent, transition, outbound, control,
              after, closed, accepted, sends, rfl, carries, rfl⟩)
    · rw [if_neg accepted]
      exact yields_fail (carries_refl sockets none)
  refine yields_bind (fun failure after outcome => ?_) fun shut after outcome => ?_
  · rw [Yields, outcome] at shuts
    exact fails failure after shuts
  · rw [Yields, outcome] at shuts
    exact rest shut after shuts

theorem setConnection_setConnection (sockets : Sockets) (index : Nat)
    (first second : TcpSocketState) :
    (sockets.setConnection index first).setConnection index second =
      sockets.setConnection index second :=
  modifySlot_modifySlot sockets index _ _

theorem syscallSocketShutdown_moves (sockets : Sockets) (handle fd : Nat) (how : Shutdown) :
    Moves (.shutdown handle fd how) sockets (syscallSocketShutdown handle fd how sockets).2 := by
  show Yields (fun _ after => Moves (.shutdown handle fd how) sockets after) sockets _
  refine yields_state (yields_lift (fun _ _ => moves_refl _ _) fun index found => ?_)
  have target : (Action.shutdown handle fd how).target sockets = some index := by
    simp only [Action.target, found, Except.toOption]
  obtain ⟨below, used⟩ := socketSlotForDescriptor_live found
  refine yields_failWhen (fun _ => moves_refl _ _) fun _ => yields_failWhen
    (fun _ => moves_refl _ _) fun _ => ?_
  cases held : (sockets.slots index).tcp with
  | none => exact yields_fail (moves_refl _ _)
  | some connection =>
    refine yields_failWhen (fun _ => moves_refl _ _) fun status => ?_
    rw [ne_eq, not_not] at status
    refine yields_ite (fun stops => ?_) fun _ => ?_
    · refine yields_shutdownWrite (fun _ _ aside => moves_of_move aside.idle) fun shut after shuts =>
        yields_change (yields_pure ?_)
      obtain ⟨taken, transition, outbound, control, carried, closed, accepted, sends, rfl, carries,
        rfl⟩ := shuts
      have move (stopsReading : Bool) := Carries.connection_quiet
        (.shutdownWrite rfl stops.1 taken stopsReading status stops.2 closed accepted sends) carries target
          below used held
      split
      · rw [setConnection_setConnection]
        exact moves_of_move (move true)
      · exact moves_of_move (move connection.readShutdown)
    · refine yields_pure_bind (yields_change (yields_pure ?_))
      split
      · exact moves_of_move (Carries.connection_quiet (.shutdownRead status) (carries_refl sockets _)
          target below used held)
      · exact moves_refl _ _

/-! ### Every action -/

/-- Every action is a move. -/
theorem Action.moves (sockets : Sockets) (action : Action) :
    Moves action sockets (action.next sockets) := by
  cases action with
  | socket handle protocol => exact syscallSocket_moves _ _ _ _
  | bind handle fd address => exact syscallBind_moves _ _ _ _
  | listen handle fd backlog => exact syscallListen_moves _ _ _ _
  | accept handle fd copyPeer writable => exact syscallAccept_moves _ _ _ _ _
  | connect handle fd address datagram => exact syscallConnect_moves _ _ _ _ _
  | send handle fd length dontWait buffer datagram => exact syscallSend_moves _ _ _ _ _ _ _
  | shutdown handle fd how => exact syscallSocketShutdown_moves _ _ _ _
  | setNonblocking handle fd enabled => exact syscallSetNonblocking_moves _ _ _ _
  | segment arrived => exact moves_of_move (serviceSegment_move _ _)
  | connectionTimer index => exact moves_of_move (timeConnection_move _ _)
  | pendingTimer index entry => exact moves_of_move (timePending_move _ _ _)

end Sockets

end ZigOs.RuntimeUser
