/-
This file counts what the quota of a process counts: the descriptors of its
namespace and the different sockets they name. A change of one namespace leaves
the counts of every other one alone, because a description that appears or
disappears is named by nobody else. In the namespace itself a new description
adds one descriptor and at most one socket, a shared one adds a descriptor, and
a close takes a descriptor away.
-/

import ZigOs.RuntimeProcess.Quotas
import ZigOs.RuntimeFd.Calls

namespace ZigOs.RuntimeFd

open Scan RuntimeProcess RuntimeVfs Function OpenDescription Kernel

/-- What is to be installed counts as a socket. -/
def NewDescription.socket (new : NewDescription) : Bool :=
  new.kind == .udpSocket || new.kind == .tcpSocket

namespace System

/-- A description that counts as a socket. -/
def holdsSocket (system : System) (index : Nat) : Bool :=
  (system.openDescriptions index).used && (system.openDescriptions index).socket

/-- The descriptors of a namespace and the different sockets among them. -/
def usage (system : System) (slot : Nat) : Nat × Nat :=
  (system.descriptorCount slot, system.socketDescriptionCount slot)

/-- The same for the namespace of a process; a process without one has nothing. -/
def usageOf (system : System) (handle : Nat) : Nat × Nat :=
  match system.resolveNamespace handle with
  | .ok slot => system.usage slot
  | .error _ => (0, 0)

variable {system : System} {handle slot : Nat}

theorem resolveNamespace_eq_ok : system.resolveNamespace handle = .ok slot ↔
      processSlot handle = .ok slot ∧ (system.namespaces slot).used = true ∧
        (system.namespaces slot).ownerHandle = handle := by
  unfold resolveNamespace
  cases located : processSlot handle with
  | error failure => simp
  | ok found =>
    simp only [Except.ok.injEq]
    split
    · rename_i foreign
      refine iff_of_false (nomatch ·) ?_
      rintro ⟨rfl, used, owned⟩
      rcases foreign with unused | other
      · rw [used] at unused
        cases unused
      · exact other owned
    · rename_i owned
      simp only [not_or, Bool.not_eq_false, ne_eq, not_not] at owned
      constructor
      · intro same
        cases same
        exact ⟨rfl, owned⟩
      · rintro ⟨rfl, -⟩
        rfl

variable {index : Nat}

theorem names_iff : system.names slot index = true ↔ ∃ fd < maximumDescriptorsPerProcess,
        ((system.namespaces slot).descriptors fd).names index = true := by
  unfold names
  constructor
  · intro found
    obtain ⟨fd, located⟩ := Option.isSome_iff_exists.mp found
    exact ⟨fd, firstIndex_lt located, @firstIndex_test _ _
      (fun column => ((system.namespaces slot).descriptors column).names index) located⟩
  · rintro ⟨fd, below, named⟩
    obtain ⟨first, located⟩ := @exists_firstIndex _ _
      (fun column => ((system.namespaces slot).descriptors column).names index) below named
    exact Option.isSome_iff_exists.mpr ⟨first, located⟩

theorem socketDescriptionCount_eq (system : System) (slot : Nat) :
    system.socketDescriptionCount slot = countIndex maximumOpenDescriptions fun index =>
        system.names slot index && system.holdsSocket index :=
  countIndex_congr fun _ _ => by simp [holdsSocket, Bool.and_assoc]

variable {before after : System} {other : Nat}

/-- Two namespaces count the same when their descriptors name the same, and what they name is a
socket in both or in neither. -/
theorem usage_congr (rows : ∀ fd, ((after.namespaces other).descriptors fd).used =
        ((before.namespaces slot).descriptors fd).used ∧
      ((after.namespaces other).descriptors fd).openIndex =
        ((before.namespaces slot).descriptors fd).openIndex)
    (sockets : ∀ index < maximumOpenDescriptions, before.names slot index = true →
      after.holdsSocket index = before.holdsSocket index) :
    after.usage other = before.usage slot := by
  have named (index : Nat) : after.names other index = before.names slot index := by
    simp only [names, (rows _).1, (rows _).2]
  refine Prod.ext ?_ ?_
  · change after.descriptorCount other = before.descriptorCount slot
    exact countIndex_congr fun fd _ => (rows fd).1
  · change after.socketDescriptionCount other = before.socketDescriptionCount slot
    rw [socketDescriptionCount_eq, socketDescriptionCount_eq]
    refine countIndex_congr fun index below => ?_
    rw [named]
    cases naming : before.names slot index
    · rfl
    · rw [sockets index below naming]

/-- An empty namespace counts nothing. -/
theorem usage_of_empty {system : System} {slot : Nat} (empty : ∀ fd < maximumDescriptorsPerProcess,
      ((system.namespaces slot).descriptors fd).used = false) : system.usage slot = (0, 0) := by
  have nameless (index : Nat) : system.names slot index = false := by
    by_contra named
    obtain ⟨fd, below, names⟩ := names_iff.mp (by simpa using named)
    simp [Descriptor.names, empty fd below] at names
  refine Prod.ext (countIndex_eq_zero.mpr empty) ?_
  exact countIndex_eq_zero.mpr fun index _ => by simp [nameless index]

/-- A description that nothing references is named by no descriptor. -/
theorem Referenced.nameless (sound : system.Referenced)
    (indexBelow : index < maximumOpenDescriptions) (slotBelow : slot < maximumProcesses)
    (unused : (system.openDescriptions index).used = false) : system.names slot index = false := by
  by_contra named
  obtain ⟨fd, fdBelow, names⟩ := names_iff.mp (by simpa using named)
  exact (namedBy_pos slotBelow fdBelow names).ne' (sound.unnamed index indexBelow unused)

/-! ### A change at one descriptor -/

/-- The descriptors outside the changed namespace, and the owners of all, are the same. -/
structure ChangedAt (slot : Nat) (before after : System) : Prop where
  used : ∀ other, (after.namespaces other).used = (before.namespaces other).used
  owner : ∀ other, (after.namespaces other).ownerHandle = (before.namespaces other).ownerHandle
  usage : ∀ other < maximumProcesses, other ≠ slot → after.usage other = before.usage other

theorem ChangedAt.refl (slot : Nat) (system : System) : ChangedAt slot system system :=
  ⟨fun _ => rfl, fun _ => rfl, fun _ _ _ => rfl⟩

theorem ChangedAt.trans {slot : Nat} {before middle after : System}
    (start : ChangedAt slot before middle) (finish : ChangedAt slot middle after) :
    ChangedAt slot before after where
  used other := (finish.used other).trans (start.used other)
  owner other := (finish.owner other).trans (start.owner other)
  usage other below different :=
    (finish.usage other below different).trans (start.usage other below different)

theorem ChangedAt.resolveNamespace (changed : ChangedAt slot before after) (handle : Nat) :
    after.resolveNamespace handle = before.resolveNamespace handle := by
  unfold System.resolveNamespace
  simp only [changed.used, changed.owner]

/-- Only the owner of the namespace may count something else. -/
theorem ChangedAt.usageOf (changed : ChangedAt slot before after)
    (different : handle ≠ (before.namespaces slot).ownerHandle) :
    after.usageOf handle = before.usageOf handle := by
  unfold System.usageOf
  rw [changed.resolveNamespace]
  split
  · rename_i found located
    refine changed.usage found (resolveNamespace_ok located).1 ?_
    rintro rfl
    exact different (resolveNamespace_eq_ok.mp located).2.2.symm
  · rfl

/-- Rows outside the namespace are the same, and what they name stays or is no socket. -/
theorem changedAt_of
    (rows : ∀ other, other ≠ slot → after.namespaces other = before.namespaces other)
    (used : (after.namespaces slot).used = (before.namespaces slot).used)
    (owner : (after.namespaces slot).ownerHandle = (before.namespaces slot).ownerHandle)
    (sockets : ∀ other < maximumProcesses, other ≠ slot → ∀ index < maximumOpenDescriptions,
      before.names other index = true → after.holdsSocket index = before.holdsSocket index) :
    ChangedAt slot before after where
  used other := by
    by_cases here : other = slot
    · rw [here, used]
    · rw [rows other here]
  owner other := by
    by_cases here : other = slot
    · rw [here, owner]
    · rw [rows other here]
  usage other below different :=
    usage_congr (fun fd => by simp [rows other different]) (sockets other below different)

theorem setDescriptor_row (system : System) (fd : Nat) (descriptor : Descriptor)
    (different : other ≠ slot) :
    (system.setDescriptor slot fd descriptor).namespaces other = system.namespaces other := by
  simp [setDescriptor, modifyNamespace, different]

theorem setDescriptor_self (system : System) (slot fd : Nat) (descriptor : Descriptor) :
    (system.setDescriptor slot fd descriptor).namespaces slot = { system.namespaces slot with
        descriptors := update (system.namespaces slot).descriptors fd descriptor } := by
  simp [setDescriptor, modifyNamespace]

variable {fd : Nat}

theorem descriptorCount_setDescriptor (system : System) (slot : Nat) (descriptor : Descriptor)
    (fdBelow : fd < maximumDescriptorsPerProcess) :
    (system.setDescriptor slot fd descriptor).descriptorCount slot +
        ((system.namespaces slot).descriptors fd).used.toNat =
      system.descriptorCount slot + descriptor.used.toNat := by
  have row := countIndex_change (fun other => ((system.namespaces slot).descriptors other).used)
    (fun other => (update (system.namespaces slot).descriptors fd descriptor other).used)
    fdBelow fun other _ different => by rw [update_of_ne different]
  rw [update_self] at row
  unfold descriptorCount
  rwa [setDescriptor_self]

/-- A descriptor in a free place adds what it names. -/
theorem names_setDescriptor (system : System) (descriptor : Descriptor)
    (fdBelow : fd < maximumDescriptorsPerProcess)
    (free : ((system.namespaces slot).descriptors fd).used = false) (index : Nat) :
    (system.setDescriptor slot fd descriptor).names slot index =
      (system.names slot index || descriptor.names index) := by
  rw [Bool.eq_iff_iff, Bool.or_eq_true, names_iff, names_iff, setDescriptor_self]
  constructor
  · rintro ⟨column, below, named⟩
    obtain rfl | here := eq_or_ne column fd
    · exact .inr (by simpa using named)
    · exact .inl ⟨column, below, by simpa [here] using named⟩
  · rintro (⟨column, below, named⟩ | named)
    · have here : column ≠ fd := by
        rintro rfl
        simp [Descriptor.names, free] at named
      exact ⟨column, below, by simpa [here] using named⟩
    · exact ⟨fd, fdBelow, by simpa using named⟩

/-- A namespace without one of its descriptors names nothing new. -/
theorem names_of_setDescriptor_empty
    (named : (system.setDescriptor slot fd {}).names slot index = true) :
    system.names slot index = true := by
  obtain ⟨column, below, naming⟩ := names_iff.mp named
  rw [setDescriptor_self] at naming
  refine names_iff.mpr ⟨column, below, ?_⟩
  obtain rfl | here := eq_or_ne column fd
  · simp [Descriptor.names] at naming
  · simpa [here] using naming

/-! ### New and shared descriptors -/

theorem names_congr (slot index : Nat) (same : after.namespaces slot = before.namespaces slot) :
    after.names slot index = before.names slot index := by
  unfold names
  rw [same]

theorem installDescription_changedAt (sound : system.Referenced) (new : NewDescription)
    (closeOnExec : Bool) (free : FreeSlots system slot fd index) :
    ChangedAt slot system (system.installDescription slot fd index new closeOnExec) := by
  refine changedAt_of (fun other different => ?_) ?_ ?_ fun other below _ entry entryBelow named => ?_
  · exact setDescriptor_row (system.initializeDescription index new) fd _ different
  · rw [installDescription, setDescriptor_self]
    rfl
  · rw [installDescription, setDescriptor_self]
    rfl
  · have different : entry ≠ index := by
      rintro rfl
      rw [sound.nameless entryBelow below free.indexFree] at named
      cases named
    unfold holdsSocket
    rw [installDescription_other system slot fd new closeOnExec different]

/-- A new description is one descriptor more, and one socket more if it is a socket. -/
theorem installDescription_usage (sound : system.Referenced) (new : NewDescription)
    (closeOnExec : Bool) (free : FreeSlots system slot fd index) :
    (system.installDescription slot fd index new closeOnExec).usage slot =
      (system.descriptorCount slot + 1, system.socketDescriptionCount slot + new.socket.toNat) := by
  refine Prod.ext ?_ ?_
  · change (system.installDescription slot fd index new closeOnExec).descriptorCount slot = _
    have counted := descriptorCount_setDescriptor (system.initializeDescription index new) slot
      { used := true, openIndex := index, closeOnExec } free.fdBelow
    change _ + ((system.namespaces slot).descriptors fd).used.toNat =
      system.descriptorCount slot + 1 at counted
    rwa [free.fdFree] at counted
  · change (system.installDescription slot fd index new closeOnExec).socketDescriptionCount slot = _
    rw [socketDescriptionCount_eq, socketDescriptionCount_eq]
    have named (entry : Nat) :
        (system.installDescription slot fd index new closeOnExec).names slot entry =
          (system.names slot entry || index == entry) :=
      names_setDescriptor (system.initializeDescription index new)
        { used := true, openIndex := index, closeOnExec } free.fdBelow free.fdFree entry
    have here : (system.installDescription slot fd index new closeOnExec).holdsSocket index =
        new.socket := by
      rw [holdsSocket, installDescription_self]
      rfl
    have counted := countIndex_change
      (fun entry => system.names slot entry && system.holdsSocket entry)
      (fun entry => (system.installDescription slot fd index new closeOnExec).names slot entry &&
        (system.installDescription slot fd index new closeOnExec).holdsSocket entry)
      free.indexBelow fun entry _ different => by
        rw [named, holdsSocket, installDescription_other system slot fd new closeOnExec different,
          beq_false_of_ne different.symm, Bool.or_false]
        rfl
    rw [sound.nameless free.indexBelow free.slotBelow free.indexFree, named, here] at counted
    simpa using counted

theorem holdsSocket_modifyDescription (system : System) (index : Nat)
    (step : OpenDescription → OpenDescription)
    (same : (step (system.openDescriptions index)).used = (system.openDescriptions index).used ∧
      (step (system.openDescriptions index)).kind = (system.openDescriptions index).kind)
    (entry : Nat) :
    (system.modifyDescription index step).holdsSocket entry = system.holdsSocket entry := by
  unfold holdsSocket socket
  obtain rfl | here := eq_or_ne entry index
  · rw [modifyDescription_self, same.1, same.2]
  · rw [modifyDescription_other system step here]

theorem holdsSocket_retain (system : System) (index entry : Nat) :
    (system.modifyDescription index retain).holdsSocket entry =
      system.holdsSocket entry :=
  holdsSocket_modifyDescription system index retain ⟨rfl, rfl⟩ entry

theorem shareDescription_changedAt (system : System) (slot fd index : Nat) :
    ChangedAt slot system (shareDescription slot fd index system) := by
  refine changedAt_of (fun other different => ?_) ?_ ?_ fun other _ _ entry _ _ => ?_
  · exact setDescriptor_row (system.modifyDescription index retain) fd _ different
  · rw [shareDescription, setDescriptor_self]
    rfl
  · rw [shareDescription, setDescriptor_self]
    rfl
  · exact holdsSocket_retain system index entry

/-- A description that the namespace names already is one descriptor more and no new socket. -/
theorem shareDescription_usage (fdBelow : fd < maximumDescriptorsPerProcess)
    (fdFree : ((system.namespaces slot).descriptors fd).used = false)
    (known : system.names slot index = true) :
    (shareDescription slot fd index system).usage slot =
      (system.descriptorCount slot + 1, system.socketDescriptionCount slot) := by
  have named (entry : Nat) : (shareDescription slot fd index system).names slot entry =
      system.names slot entry := by
    have after := names_setDescriptor (system.modifyDescription index retain)
      { used := true, openIndex := index } fdBelow fdFree entry
    refine after.trans ?_
    obtain rfl | here := eq_or_ne index entry
    · exact (congrArg (· || _) known).trans known.symm
    · simp only [Descriptor.names, Bool.true_and, beq_false_of_ne here, Bool.or_false]
      rfl
  refine Prod.ext ?_ ?_
  · change (shareDescription slot fd index system).descriptorCount slot = _
    have counted := descriptorCount_setDescriptor
      (system.modifyDescription index retain) slot
      { used := true, openIndex := index } fdBelow
    change _ + ((system.namespaces slot).descriptors fd).used.toNat =
      system.descriptorCount slot + 1 at counted
    rwa [fdFree] at counted
  · change (shareDescription slot fd index system).socketDescriptionCount slot = _
    rw [socketDescriptionCount_eq]
    refine (countIndex_congr fun entry _ => ?_).trans (socketDescriptionCount_eq system slot).symm
    rw [named]
    exact congrArg (_ && ·) (holdsSocket_retain system index entry)

/-! ### Closed descriptors -/

/-- A namespace that names less, of descriptions that are sockets only where they were, counts at
most as many sockets. -/
theorem socketDescriptionCount_le
    (named : ∀ index, after.names slot index = true → before.names slot index = true)
    (sockets : ∀ index, after.holdsSocket index = true → before.holdsSocket index = true) :
    after.socketDescriptionCount slot ≤ before.socketDescriptionCount slot := by
  rw [socketDescriptionCount_eq, socketDescriptionCount_eq]
  refine List.countP_mono_left fun index _ both => ?_
  rw [Bool.and_eq_true] at both ⊢
  exact ⟨named index both.1, sockets index both.2⟩

/-- The namespace has a descriptor less and no socket more. -/
structure Shrinks (slot : Nat) (before after : System) : Prop where
  changed : ChangedAt slot before after
  descriptors : after.descriptorCount slot ≤ before.descriptorCount slot
  sockets : after.socketDescriptionCount slot ≤ before.socketDescriptionCount slot

theorem Shrinks.trans {slot : Nat} {before middle after : System}
    (start : Shrinks slot before middle) (finish : Shrinks slot middle after) :
    Shrinks slot before after :=
  ⟨start.changed.trans finish.changed, finish.descriptors.trans start.descriptors,
    finish.sockets.trans start.sockets⟩

theorem shrinks_of (named : Named before slot fd)
    (namespaces : after.namespaces = (before.setDescriptor slot fd {}).namespaces)
    (lost : ∀ index, after.holdsSocket index = true → before.holdsSocket index = true)
    (kept : ∀ other < maximumProcesses, other ≠ slot → ∀ index < maximumOpenDescriptions,
      before.names other index = true → after.holdsSocket index = before.holdsSocket index) :
    Shrinks slot before after := by
  refine ⟨changedAt_of (fun other different => ?_) ?_ ?_ kept, ?_, ?_⟩
  · rw [namespaces, setDescriptor_row before fd {} different]
  · rw [namespaces, setDescriptor_self]
  · rw [namespaces, setDescriptor_self]
  · have counted := descriptorCount_setDescriptor before slot {} named.fdBelow
    rw [named.used] at counted
    have same : after.descriptorCount slot = (before.setDescriptor slot fd {}).descriptorCount slot := by
      unfold descriptorCount
      rw [namespaces]
    change _ + 1 = _ + 0 at counted
    omega
  · refine socketDescriptionCount_le (fun index naming => ?_) lost
    rw [names_congr slot index (congrFun namespaces slot)] at naming
    exact names_of_setDescriptor_empty naming

theorem dropped_shrinks (named : Named system slot fd) :
    Shrinks slot system (system.dropped slot fd) := by
  have released (entry : Nat) : (system.dropped slot fd).holdsSocket entry =
      system.holdsSocket entry :=
    holdsSocket_modifyDescription system ((system.namespaces slot).descriptors fd).openIndex
      release ⟨rfl, rfl⟩ entry
  exact shrinks_of named rfl (fun index holds => (released index).symm.trans holds)
    fun _ _ _ index _ _ => released index

/-- The description that disappears is named by nobody else, since it is named by nobody now. -/
theorem retired_shrinks (named : Named system slot fd)
    (sound : (system.retired slot fd).Referenced) : Shrinks slot system (system.retired slot fd) := by
  let index := ((system.namespaces slot).descriptors fd).openIndex
  have gone : ((system.retired slot fd).openDescriptions index).used = false := by
    change ((system.clearDescription index).openDescriptions index).used = false
    rw [clearDescription, modifyDescription_self]
  have others {entry : Nat} (different : entry ≠ index) :
      (system.retired slot fd).holdsSocket entry = system.holdsSocket entry := by
    unfold holdsSocket
    change (((system.clearDescription index).openDescriptions entry).used &&
      ((system.clearDescription index).openDescriptions entry).socket) = _
    rw [clearDescription, modifyDescription_other _ _ different]
  refine shrinks_of named rfl (fun entry holds => ?_) fun other below different entry entryBelow naming => ?_
  · obtain rfl | here := eq_or_ne entry index
    · simp [holdsSocket, gone] at holds
    · exact (others here).symm.trans holds
  · refine others fun here => ?_
    subst here
    have nameless := sound.nameless entryBelow below gone
    have row : (system.retired slot fd).namespaces other = system.namespaces other :=
      setDescriptor_row (system.clearDescription index) fd {} different
    rw [names_congr other index row, naming] at nameless
    cases nameless

end System

/-! ### A change that counts nothing -/

/-- Namespaces and descriptions are the same up to what no count looks at. -/
structure SameUsage (before after : System) : Prop where
  used : ∀ slot, (after.namespaces slot).used = (before.namespaces slot).used
  owner : ∀ slot, (after.namespaces slot).ownerHandle = (before.namespaces slot).ownerHandle
  rows : ∀ slot fd, ((after.namespaces slot).descriptors fd).used =
      ((before.namespaces slot).descriptors fd).used ∧
    ((after.namespaces slot).descriptors fd).openIndex =
      ((before.namespaces slot).descriptors fd).openIndex
  sockets : ∀ index, after.holdsSocket index = before.holdsSocket index

instance : Std.Refl SameUsage where
  refl _ := ⟨fun _ => rfl, fun _ => rfl, fun _ _ => ⟨rfl, rfl⟩, fun _ => rfl⟩

instance : IsTrans System SameUsage where
  trans _ _ _ start finish :=
    { used := fun slot => (finish.used slot).trans (start.used slot)
      owner := fun slot => (finish.owner slot).trans (start.owner slot)
      rows := fun slot fd => ⟨(finish.rows slot fd).1.trans (start.rows slot fd).1,
        (finish.rows slot fd).2.trans (start.rows slot fd).2⟩
      sockets := fun index => (finish.sockets index).trans (start.sockets index) }

variable {before after : System}

theorem SameUsage.usage (same : SameUsage before after) (slot : Nat) :
    after.usage slot = before.usage slot :=
  System.usage_congr (same.rows slot) fun index _ _ => same.sockets index

theorem SameUsage.usageOf (same : SameUsage before after) (handle : Nat) :
    after.usageOf handle = before.usageOf handle := by
  unfold System.usageOf System.resolveNamespace
  simp only [same.used, same.owner, same.usage]

theorem sameUsage_modifyDescription (system : System) (index : Nat)
    {step : OpenDescription → OpenDescription}
    (same : (step (system.openDescriptions index)).used = (system.openDescriptions index).used ∧
      (step (system.openDescriptions index)).kind = (system.openDescriptions index).kind) :
    SameUsage system (system.modifyDescription index step) :=
  ⟨fun _ => rfl, fun _ => rfl, fun _ _ => ⟨rfl, rfl⟩,
    System.holdsSocket_modifyDescription system index step same⟩

/-- Tables beside the namespaces and the descriptions are not counted. -/
theorem sameUsage_of_eq (namespaces : after.namespaces = before.namespaces)
    (descriptions : after.openDescriptions = before.openDescriptions) : SameUsage before after := by
  refine ⟨fun _ => by rw [namespaces], fun _ => by rw [namespaces],
    fun _ _ => by rw [namespaces]; exact ⟨rfl, rfl⟩, fun _ => ?_⟩
  unfold System.holdsSocket
  rw [descriptions]

theorem sameUsage_mark (system : System) (slot fd : Nat) (closeOnExec : Bool) :
    SameUsage system (system.setDescriptor slot fd
      { (system.namespaces slot).descriptors fd with closeOnExec }) := by
  have row (other : Nat) : (system.setDescriptor slot fd
      { (system.namespaces slot).descriptors fd with closeOnExec }).namespaces other =
        if other = slot then { system.namespaces slot with
          descriptors := update (system.namespaces slot).descriptors fd
            { (system.namespaces slot).descriptors fd with closeOnExec } }
        else system.namespaces other := by
    split
    · rename_i here
      rw [here, System.setDescriptor_self]
    · rename_i different
      exact System.setDescriptor_row system fd _ different
  refine ⟨fun other => ?_, fun other => ?_, fun other column => ?_, fun _ => rfl⟩
  · rw [row]
    split
    · rename_i here
      rw [here]
    · rfl
  · rw [row]
    split
    · rename_i here
      rw [here]
    · rfl
  · rw [row]
    split
    · rename_i here
      subst here
      obtain rfl | same := eq_or_ne column fd
      · simp
      · simp [same]
    · exact ⟨rfl, rfl⟩

/-! ### A namespace that comes or goes -/

namespace System

/-- Replacing a namespace that is not the process's own, before and after, changes nothing for it. -/
theorem usageOf_replace {before after : System} {slot handle : Nat}
    (rows : ∀ other, other ≠ slot → after.namespaces other = before.namespaces other)
    (sockets : ∀ index, after.holdsSocket index = before.holdsSocket index)
    (foreignBefore : before.resolveNamespace handle ≠ .ok slot)
    (foreignAfter : after.resolveNamespace handle ≠ .ok slot) :
    after.usageOf handle = before.usageOf handle := by
  have located (other : Nat) :
      after.resolveNamespace handle = .ok other ↔ before.resolveNamespace handle = .ok other := by
    obtain rfl | here := eq_or_ne other slot
    · exact iff_of_false foreignAfter foreignBefore
    · rw [resolveNamespace_eq_ok, resolveNamespace_eq_ok, rows other here]
  unfold usageOf
  cases found : before.resolveNamespace handle with
  | ok other =>
    rw [(located other).mpr found]
    have different : other ≠ slot := fun here => foreignBefore (here ▸ found)
    exact usage_congr (fun fd => by simp [rows other different]) fun index _ _ => sockets index
  | error failure =>
    cases stays : after.resolveNamespace handle with
    | ok other =>
      rw [(located other).mp stays] at found
      cases found
    | error other => rfl

variable {system : System} {handle slot : Nat}

theorem usageOf_of_located (located : system.resolveNamespace handle = .ok slot) :
    system.usageOf handle = system.usage slot := by
  unfold usageOf
  rw [located]

theorem usageOf_of_unused (placed : processSlot handle = .ok slot)
    (unused : (system.namespaces slot).used = false) : system.usageOf handle = (0, 0) := by
  unfold usageOf
  split
  · rename_i found located
    obtain ⟨same, used, -⟩ := resolveNamespace_eq_ok.mp located
    cases (placed.symm.trans same)
    rw [unused] at used
    cases used
  · rfl

end System

end ZigOs.RuntimeFd
