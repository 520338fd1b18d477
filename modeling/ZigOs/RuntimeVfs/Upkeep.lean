/-
This file says what every call of the filesystem keeps in order, whatever its
outcome. The names of a directory stay distinct, unless a mount puts its root
into a slot where names were left behind. A cached entry is released as often
as it is acquired. What happens to names is added to the ring of directory
events, in the order in which it happens.
-/

import ZigOs.Lib.EventFeed
import ZigOs.RuntimeVfs.Operations

namespace ZigOs.RuntimeVfs

open Call EventFeed

/-! ### Counted references -/

/-- An unused cache entry is not referred to. -/
def DentryCacheEntry.Settled (entry : DentryCacheEntry) : Prop :=
  entry.used = false → entry.references = 0

/-- The entry is referred to as often as before, and it is the same one while it is. -/
def DentryCacheEntry.Balances (before after : DentryCacheEntry) : Prop :=
  before.Settled → after.Settled ∧ after.references = before.references ∧
    (before.references ≠ 0 → after.generation = before.generation)

instance : Std.Refl DentryCacheEntry.Balances where
  refl _ settled := ⟨settled, rfl, fun _ => rfl⟩

instance : IsTrans DentryCacheEntry DentryCacheEntry.Balances where
  trans first second third start finish settled := by
    obtain ⟨settledSecond, references, generation⟩ := start settled
    obtain ⟨settledThird, references', generation'⟩ := finish settledSecond
    refine ⟨settledThird, references'.trans references, fun referred => ?_⟩
    exact (generation' (references ▸ referred)).trans (generation referred)

theorem DentryCacheEntry.invalidate_balances (entry : DentryCacheEntry) :
    entry.Balances entry.invalidate := by
  intro settled
  unfold invalidate
  split
  · exact ⟨settled, rfl, fun _ => rfl⟩
  · rename_i used
    split
    · rename_i unreferred
      exact ⟨fun _ => rfl, unreferred.symm, fun _ => rfl⟩
    · exact ⟨fun unused => absurd unused used, rfl, fun _ => rfl⟩

/-- The entry is referred to once more, under the given generation. -/
def DentryCacheEntry.Acquires (generation : Nat) (before after : DentryCacheEntry) : Prop :=
  before.Settled → after.Settled ∧ after.references = before.references + 1 ∧
    after.generation = generation ∧ (before.references ≠ 0 → generation = before.generation)

/-- Giving a reference back undoes taking it, whatever kept the balance in between. -/
theorem DentryCacheEntry.Acquires.release {generation : Nat} {before acquired later : DentryCacheEntry}
    (acquires : Acquires generation before acquired) (balances : acquired.Balances later) :
    before.Balances (if later.used = false ∨ later.generation ≠ generation ∨ later.references = 0
      then later
      else if later.stale ∧ later.references = 1 then { generation := later.generation }
      else { later with references := later.references - 1 }) := by
  intro settled
  obtain ⟨settledAcquired, references, generationOf, sameGeneration⟩ := acquires settled
  obtain ⟨settledLater, references', generation'⟩ := balances settledAcquired
  have referred : later.references = before.references + 1 := references'.trans references
  have current : later.generation = generation := by
    rw [generation' (by omega), generationOf]
  have used : later.used = true := by
    by_contra unused
    have none := settledLater (by simpa using unused)
    omega
  rw [if_neg (by simp [used, current, referred])]
  split
  · rename_i last
    refine ⟨fun _ => rfl, ?_, fun referredBefore => ?_⟩
    · change 0 = before.references
      omega
    · exact current.trans (sameGeneration referredBefore)
  · refine ⟨fun unused => absurd unused (by simp [used]), ?_, fun referredBefore => ?_⟩
    · change later.references - 1 = before.references
      omega
    · exact current.trans (sameGeneration referredBefore)

namespace Vfs

/-- The two states refer to every cached entry equally often. -/
def SameReferences (before after : Vfs) : Prop :=
  ∀ index, (before.dentryCache index).Balances (after.dentryCache index)

instance : Std.Refl SameReferences where
  refl vfs index := refl (vfs.dentryCache index)

instance : IsTrans Vfs SameReferences where
  trans _ _ _ start finish index := IsTrans.trans _ _ _ (start index) (finish index)

variable (vfs : Vfs)

theorem modifyCacheSlot_self (index : Nat) (step : DentryCacheEntry → DentryCacheEntry) :
    (vfs.modifyCacheSlot index step).dentryCache index = step (vfs.dentryCache index) :=
  Function.update_self ..

variable {index : Nat}

theorem modifyCacheSlot_of_ne {other : Nat} (step : DentryCacheEntry → DentryCacheEntry)
    (different : other ≠ index) :
    (vfs.modifyCacheSlot index step).dentryCache other = vfs.dentryCache other :=
  Function.update_of_ne different ..

theorem sameReferences_modifyCacheSlot (index : Nat) {step : DentryCacheEntry → DentryCacheEntry}
    (balances : (vfs.dentryCache index).Balances (step (vfs.dentryCache index))) :
    SameReferences vfs (vfs.modifyCacheSlot index step) := by
  intro other
  obtain rfl | here := eq_or_ne other index
  · rwa [modifyCacheSlot_self]
  · rw [modifyCacheSlot_of_ne vfs step here]
    exact refl _

theorem sameReferences_invalidateCachedDentry (dentry : Nat) :
    SameReferences vfs (vfs.invalidateCachedDentry dentry) := by
  intro index
  simp only [invalidateCachedDentry]
  split
  · exact DentryCacheEntry.invalidate_balances _
  · exact refl _

/-- What an acquired reference stands for: one more on its cache entry, if it has one. -/
def Refers (reference : DentryReference) (before after : Vfs) : Prop :=
  if reference.cacheEntry < maximumDentryCacheEntries then
    DentryCacheEntry.Acquires reference.cacheGeneration (before.dentryCache reference.cacheEntry)
        (after.dentryCache reference.cacheEntry) ∧
      ∀ other, other ≠ reference.cacheEntry →
        (before.dentryCache other).Balances (after.dentryCache other)
  else SameReferences before after

variable {reference : DentryReference} {first second : Vfs}

theorem Refers.after {third : Vfs} (start : SameReferences first second)
    (refers : Refers reference second third) : Refers reference first third := by
  unfold Refers at refers ⊢
  split
  · rename_i counted
    rw [if_pos counted] at refers
    refine ⟨fun settled => ?_, fun other apart => Trans.trans (start other)
      (refers.2 other apart)⟩
    obtain ⟨settledSecond, references, generation⟩ := start reference.cacheEntry settled
    obtain ⟨settledThird, references', current, generation'⟩ := refers.1 settledSecond
    refine ⟨settledThird, by rw [references', references], current, fun referred => ?_⟩
    exact (generation' (references ▸ referred)).trans (generation referred)
  · rename_i uncounted
    rw [if_neg uncounted] at refers
    exact Trans.trans start refers

variable {before : Vfs}

/-- Releasing a reference restores the counts, whatever kept them while it was held. -/
theorem Refers.release {acquired later : Vfs} (refers : Refers reference before acquired)
    (kept : SameReferences acquired later) :
    SameReferences before (releaseDentryReference reference later) := by
  unfold Refers at refers
  unfold releaseDentryReference
  dsimp only
  split at refers
  · rename_i counted
    have known : ¬ (reference.cacheEntry = invalidCacheEntry ∨
        reference.cacheEntry ≥ maximumDentryCacheEntries) := by
      change reference.cacheEntry < 16 at counted
      change ¬ (reference.cacheEntry = 65535 ∨ reference.cacheEntry ≥ 16)
      omega
    rw [if_neg known]
    have released := refers.1.release (kept reference.cacheEntry)
    intro other
    obtain rfl | here := eq_or_ne other reference.cacheEntry
    · split
      · rename_i unmatched
        rwa [if_pos unmatched] at released
      · rename_i matched
        rw [if_neg matched] at released
        rwa [modifyCacheSlot_self]
    · have others := Trans.trans (refers.2 other here) (kept other)
      split
      · exact others
      · rwa [modifyCacheSlot_of_ne later _ here]
  · rename_i uncounted
    rw [if_pos (.inr (Nat.not_lt.mp uncounted))]
    exact Trans.trans refers kept

/-- What a search for an entry does to the counts. -/
def Acquired (vfs : Vfs) (outcome : Option DentryReference × Vfs) : Prop :=
  match outcome with
  | (none, after) => SameReferences vfs after
  | (some reference, after) => Refers reference vfs after

theorem Acquired.after {outcome : Option DentryReference × Vfs}
    (start : SameReferences first second) (acquired : Acquired second outcome) :
    Acquired first outcome := by
  obtain ⟨_ | reference, third⟩ := outcome
  · exact IsTrans.trans _ _ _ start acquired
  · exact Refers.after start acquired

variable (parent : Nat) (name : Bytes)

theorem acquireCached_acquired (indices : List Nat)
    (slots : ∀ index ∈ indices, index < maximumDentryCacheEntries) (vfs : Vfs) :
    Acquired vfs (acquireCached parent name indices vfs) := by
  induction indices generalizing vfs with
  | nil => exact refl (r := SameReferences) vfs
  | cons index rest hypothesis =>
    have later := hypothesis fun other member => slots other (List.mem_cons_of_mem _ member)
    unfold acquireCached
    dsimp only
    split
    · exact later vfs
    · rename_i wanted
      split
      · exact Acquired.after (sameReferences_modifyCacheSlot vfs index
          (DentryCacheEntry.invalidate_balances _)) (later _)
      · split
        · exact refl (r := SameReferences) vfs
        · simp only [not_or, Bool.not_eq_false] at wanted
          change Refers _ _ _
          unfold Refers
          rw [if_pos (slots index List.mem_cons_self)]
          refine ⟨fun settled => ?_, fun other apart => ?_⟩
          · rw [modifyCacheSlot_self]
            exact ⟨fun unused => absurd (unused.symm.trans wanted.1) Bool.false_ne_true, rfl, rfl,
              fun _ => rfl⟩
          · rw [modifyCacheSlot_of_ne vfs _ apart]
            exact refl _

variable {vfs : Vfs}

/-- A slot for a new entry is unreferred. -/
theorem cacheInsertionSlot_free (chosen : vfs.cacheInsertionSlot = some index) :
    index < maximumDentryCacheEntries ∧
      ((vfs.dentryCache index).Settled → (vfs.dentryCache index).references = 0) := by
  unfold cacheInsertionSlot at chosen
  split at chosen
  · rename_i first found
    cases chosen
    exact ⟨Scan.firstIndex_lt found, fun settled => settled (by simpa using Scan.firstIndex_test found)⟩
  · obtain ⟨below, unreferred, -⟩ := Scan.leastIndex_eq_some chosen
    exact ⟨below, fun _ => by simpa using unreferred⟩

theorem insertCached_refers (dentry : Nat) (vfs : Vfs) :
    Refers (insertCached parent name dentry vfs).1 vfs (insertCached parent name dentry vfs).2 := by
  unfold insertCached
  split
  · exact refl (r := SameReferences) vfs
  · rename_i index chosen
    obtain ⟨below, unreferred⟩ := cacheInsertionSlot_free chosen
    dsimp only
    unfold Refers
    rw [if_pos below]
    refine ⟨fun settled => ?_, fun other apart => ?_⟩
    · rw [modifyCacheSlot_self]
      have none := unreferred settled
      exact ⟨fun unused => absurd unused (by simp), by rw [none], rfl,
        fun referred => absurd none referred⟩
    · rw [modifyCacheSlot_of_ne vfs _ apart]
      exact refl _

theorem acquireDentry_acquired (vfs : Vfs) : Acquired vfs (acquireDentry parent name vfs) := by
  have searched := acquireCached_acquired parent name (List.range maximumDentryCacheEntries)
    (fun _ => List.mem_range.mp) { vfs with dentryCacheClock := nextNonzero 64 vfs.dentryCacheClock }
  unfold acquireDentry
  dsimp only
  split
  · rename_i found outcome
    rwa [outcome] at searched
  · rename_i missed outcome
    rw [outcome] at searched
    split
    · exact searched
    · rename_i dentry _
      exact Refers.after searched (insertCached_refers parent name dentry missed)

theorem findDentry_references : Keeps SameReferences (findDentry parent name) := fun vfs => by
  have acquired := acquireDentry_acquired parent name vfs
  simp only [findDentry]
  split
  · rename_i outcome
    rwa [outcome] at acquired
  · rename_i reference after outcome
    rw [outcome] at acquired
    exact Refers.release acquired (refl after)

/-- A component is gone through with a reference to its entry in hand. -/
theorem stepInto_references {jump : Nat → Bytes → VfsCall Nat}
    (jumps : ∀ node path, Keeps SameReferences (jump node path)) (follow : Bool) (current : Nat)
    (name : Bytes) : Keeps SameReferences (stepInto jump follow current name) := fun vfs => by
  have acquired := acquireDentry_acquired current name vfs
  simp only [stepInto]
  split
  · rename_i outcome
    rwa [outcome] at acquired
  · rename_i reference after outcome
    rw [outcome] at acquired
    have entered : Keeps SameReferences (enterDentry jump follow reference.dentry) :=
      keeps_state_bind fun _ => keeps_ite (jumps _ _) (keeps_pure _)
    exact Refers.release acquired (entered after)

/-! ### Names and events -/

/-- No two entries of a directory have the same name up to the case of letters. -/
def NamesUnique (vfs : Vfs) : Prop :=
  ∀ first < maximumDentries, ∀ second < maximumDentries, (vfs.dentries first).used = true →
    vfs.dentryNamed (vfs.dentries first).parent (vfs.dentries first).name second = true →
      first = second

variable {parent : Nat} {name : Bytes}

theorem dentryNamed_iff :
    vfs.dentryNamed parent name index = true ↔ (vfs.dentries index).used = true ∧
      (vfs.dentries index).parent = parent ∧ eqlIgnoreCase (vfs.dentries index).name name = true := by
  simp only [dentryNamed, Bool.and_eq_true, beq_iff_eq, and_assoc]

theorem eqlIgnoreCase_symm {first second : Bytes} (same : eqlIgnoreCase first second = true) :
    eqlIgnoreCase second first = true := by
  simp only [eqlIgnoreCase, beq_iff_eq] at same ⊢
  exact same.symm

theorem NamesUnique.eq_of_named (unique : vfs.NamesUnique) {first second : Nat}
    (belowFirst : first < maximumDentries) (belowSecond : second < maximumDentries)
    (namedFirst : vfs.dentryNamed parent name first = true)
    (namedSecond : vfs.dentryNamed parent name second = true) : first = second := by
  rw [dentryNamed_iff] at namedFirst namedSecond
  refine unique first belowFirst second belowSecond namedFirst.1 (dentryNamed_iff.mpr
    ⟨namedSecond.1, namedSecond.2.1.trans namedFirst.2.1.symm, ?_⟩)
  exact eqlIgnoreCase_trans namedSecond.2.2 (eqlIgnoreCase_symm namedFirst.2.2)

/-- One entry changes, and no other one has its new name. -/
theorem NamesUnique.update {after : Vfs} {entry : Dentry} (unique : before.NamesUnique)
    (updated : after.dentries = Function.update before.dentries index entry)
    (apart : entry.used = true → ∀ other < maximumDentries, other ≠ index →
      before.dentryNamed entry.parent entry.name other = false) : after.NamesUnique := by
  have self : after.dentries index = entry := by
    rw [updated, Function.update_self]
  have others {other : Nat} (here : other ≠ index) : after.dentries other = before.dentries other := by
    rw [updated, Function.update_of_ne here]
  -- Another entry cannot have the name of the changed one.
  have alone {other : Nat} (below : other < maximumDentries) (here : other ≠ index)
      (used : entry.used = true) (sameParent : (before.dentries other).parent = entry.parent)
      (sameName : eqlIgnoreCase (before.dentries other).name entry.name = true) :
      (before.dentries other).used = false := by
    by_contra isUsed
    have named := dentryNamed_iff.mpr ⟨by simpa using isUsed, sameParent, sameName⟩
    rw [apart used other below here] at named
    cases named
  intro first belowFirst second belowSecond used named
  rw [dentryNamed_iff] at named
  obtain ⟨usedSecond, sameParent, sameName⟩ := named
  by_cases hereFirst : first = index
  · by_cases hereSecond : second = index
    · rw [hereFirst, hereSecond]
    · rw [others hereSecond] at usedSecond sameParent sameName
      rw [hereFirst, self] at used sameParent sameName
      rw [alone belowSecond hereSecond used sameParent sameName] at usedSecond
      cases usedSecond
  · rw [others hereFirst] at used sameParent sameName
    by_cases hereSecond : second = index
    · rw [hereSecond, self] at usedSecond sameParent sameName
      rw [alone belowFirst hereFirst usedSecond sameParent.symm (eqlIgnoreCase_symm sameName)] at used
      cases used
    · rw [others hereSecond] at usedSecond sameParent sameName
      exact unique first belowFirst second belowSecond used
        (dentryNamed_iff.mpr ⟨usedSecond, sameParent, sameName⟩)

/-- The ring of directory events. -/
def feed (vfs : Vfs) : EventRing DirectoryChange :=
  { slots := vfs.directoryEvents, newest := vfs.directoryEventSequence }

/-- The given changes, and nothing else, were added to the ring in between. -/
def Records (before : Vfs) (changes : List DirectoryChange) (after : Vfs) : Prop :=
  (∀ change ∈ changes, change.flags ≠ some .overflow) ∧
    Pushes DirectoryChange.sequence maximumDirectoryEvents (nextNonzero 64) before.feed changes
      after.feed

/-- Names stay distinct unless the given clash happens, every reference is given back, and
events are only added. -/
structure Orderly (clash : Prop) (before after : Vfs) : Prop where
  names : before.NamesUnique → clash ∨ after.NamesUnique
  references : SameReferences before after
  events : ∃ changes, Records before changes after

section Orderly

variable {clash : Prop}

instance : Std.Refl (Orderly clash) where
  refl vfs := ⟨Or.inr, refl vfs, [], fun _ member => (nomatch member), .nil _⟩

instance : IsTrans Vfs (Orderly clash) where
  trans first second third start finish := by
    obtain ⟨changes, marks, pushed⟩ := start.events
    obtain ⟨more, marks', pushed'⟩ := finish.events
    refine ⟨fun unique => ?_, IsTrans.trans _ _ _ start.references finish.references,
      changes ++ more, fun change member => ?_, pushed.append pushed'⟩
    · rcases start.names unique with clashes | middle
      · exact Or.inl clashes
      · exact finish.names middle
    · rcases List.mem_append.mp member with early | late
      · exact marks change early
      · exact marks' change late

/-- The two states agree on names, cached entries and events. -/
structure SameNames (before after : Vfs) : Prop where
  dentries : after.dentries = before.dentries
  dentryCache : after.dentryCache = before.dentryCache
  directoryEvents : after.directoryEvents = before.directoryEvents
  directoryEventSequence : after.directoryEventSequence = before.directoryEventSequence

instance : Std.Refl SameNames where
  refl _ := ⟨rfl, rfl, rfl, rfl⟩

instance : IsTrans Vfs SameNames where
  trans _ _ _ start finish :=
    ⟨finish.dentries.trans start.dentries, finish.dentryCache.trans start.dentryCache,
      finish.directoryEvents.trans start.directoryEvents,
      finish.directoryEventSequence.trans start.directoryEventSequence⟩

theorem DataOnly.sameNames {after : Vfs} (data : DataOnly before after) : SameNames before after :=
  ⟨data.dentries, data.dentryCache, data.directoryEvents, data.directoryEventSequence⟩

theorem namesUnique_congr {after : Vfs} (same : after.dentries = before.dentries) :
    after.NamesUnique ↔ before.NamesUnique := by
  simp only [NamesUnique, dentryNamed, same]

theorem orderly_of_names {after : Vfs} (names : before.NamesUnique → clash ∨ after.NamesUnique)
    (references : SameReferences before after)
    (directoryEvents : after.directoryEvents = before.directoryEvents)
    (directoryEventSequence : after.directoryEventSequence = before.directoryEventSequence) :
    Orderly clash before after := by
  refine ⟨names, references, [], fun _ member => (nomatch member), ?_⟩
  have same : after.feed = before.feed := by
    simp only [feed, directoryEvents, directoryEventSequence]
  rw [same]
  exact .nil _

theorem SameNames.orderly {before after : Vfs} (same : SameNames before after) :
    Orderly clash before after :=
  orderly_of_names (fun unique => Or.inr ((namesUnique_congr same.dentries).mpr unique))
    (fun index => by rw [same.dentryCache]; exact refl _) same.directoryEvents
    same.directoryEventSequence

theorem DataOnly.orderly {before after : Vfs} (data : DataOnly before after) :
    Orderly clash before after := data.sameNames.orderly

/-- A lookup that gives its references back. -/
theorem SameTables.orderly {before after : Vfs} (same : SameTables before after)
    (references : SameReferences before after) : Orderly clash before after := by
  obtain ⟨cache, clock, rfl⟩ := same
  exact orderly_of_names (fun unique => .inr ((namesUnique_congr rfl).mpr unique)) references rfl rfl

/-- What is in order but for the names is in order when the names are. -/
theorem Orderly.refine {after : Vfs} (orderly : Orderly True before after)
    (names : before.NamesUnique → clash ∨ after.NamesUnique) : Orderly clash before after :=
  ⟨names, orderly.references, orderly.events⟩

theorem orderly_recordDirectoryChange (vfs : Vfs) (directory node : Nat) (flags : DirectoryEvent)
    (name : Bytes) (event : flags ≠ .overflow) :
    Orderly clash vfs (vfs.recordDirectoryChange directory node flags name) := by
  let change : DirectoryChange := {
    sequence := nextNonzero 64 vfs.directoryEventSequence
    directory := directory
    directoryGeneration := (vfs.nodes directory).generation
    node := node
    generation := (vfs.nodes node).generation
    kind := (vfs.nodes node).kind
    flags := some flags
    name := name }
  have pushed : Pushes DirectoryChange.sequence maximumDirectoryEvents (nextNonzero 64) vfs.feed
      [change] (vfs.recordDirectoryChange directory node flags name).feed := .cons rfl (.nil _)
  refine ⟨fun unique => .inr ((namesUnique_congr rfl).mpr unique),
    fun index => refl (vfs.dentryCache index), [change], ?_,
    pushed⟩
  intro other member
  rw [List.mem_singleton.mp member]
  exact fun same => event (Option.some.inj same)

end Orderly

end Vfs

end ZigOs.RuntimeVfs
