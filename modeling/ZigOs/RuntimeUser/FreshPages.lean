/-
This file proves what mapping a page leaves alone. A page that the pool hands
out is one that nobody holds, so filling it and mapping it change neither the
contents of the pages in use nor what is mapped already.
-/

import ZigOs.RuntimeUser.UserMemory

namespace ZigOs.RuntimePagePool

/-- A pool over a manager that accounts for every page it hands out. -/
structure Pool.Managed (pool : Pool) : Prop where
  manager : pool.manager.isSome = true
  owned : ∃ others log, Owned ⟨pool, others, log⟩

namespace Pool

variable {pool after : Pool} {owner address other : Nat}

theorem allocate_manager (pool : Pool) (owner : Nat) :
    (pool.allocate owner).2.manager.isSome = pool.manager.isSome := by
  unfold allocate
  split
  · rfl
  · split
    · rfl
    · split
      · rfl
      · rename_i manager isManager
        split
        · rfl
        · dsimp only
          rw [isManager]
          split
          · rfl
          · rfl

theorem Managed.multiple (managed : pool.Managed) (held : 0 < pool.held address) :
    pageBytes ∣ address := by
  obtain ⟨others, log, owned⟩ := managed.owned
  obtain ⟨manager, isManager⟩ := Option.isSome_iff_exists.mp managed.manager
  by_contra odd
  refine held.ne' (held_of_none fun index below live same => odd ?_)
  rw [← same]
  exact (owned.pages manager isManager index below live).1.multiple

/-- The page that is handed out was held by nobody, and the pages that were held still are. -/
theorem Managed.allocate (managed : pool.Managed)
    (allocated : pool.allocate owner = (some address, after)) :
    after.Managed ∧ pool.held address = 0 ∧ 0 < after.held address ∧
      ∀ other, 0 < pool.held other → 0 < after.held other := by
  obtain ⟨others, log, owned⟩ := managed.owned
  rcases owned.allocate owner with ⟨page, next, outcome, nextOwned, fresh⟩ | ⟨next, outcome, -⟩
  · obtain ⟨samePage, rfl⟩ := Prod.mk.inj (allocated.symm.trans outcome)
    cases samePage
    have manager := allocate_manager pool owner
    rw [allocated] at manager
    -- The log grew by the page, and it balances with the table before and after.
    have counts (other : Nat) : after.held other = pool.held other + if address = other then 1 else 0 := by
      have earlier := owned.balance other
      have later := nextOwned.balance other
      rw [granted_allocated, givenBack_allocated] at later
      dsimp only at earlier later
      omega
    refine ⟨⟨manager.trans managed.manager, others, _, nextOwned⟩, held_of_none fresh, ?_,
      fun other held => ?_⟩
    · rw [counts address, if_pos rfl]
      exact Nat.succ_pos _
    · rw [counts other]
      exact Nat.add_pos_left held _
  · rw [allocated] at outcome
    cases congrArg Prod.fst outcome

end Pool

end ZigOs.RuntimePagePool

namespace ZigOs.RuntimeUser

open RuntimePagePool ByteMemory Call Function

namespace UserMemory

/-- The references that are held to a page. -/
abbrev held (memory : UserMemory) (address : Nat) : Nat := memory.pool.toPool.held address

/-- What was mapped is mapped as before, and the pages in use have kept their contents. -/
structure Extends (before after : UserMemory) : Prop where
  noExecute : after.noExecuteEnabled = before.noExecuteEnabled
  tables : ∀ base table, before.tables base = some table → after.tables base = some table
  entries : ∀ page, (before.tables (spanBase page)).isSome = true → before.entries page ≠ none →
    after.entries page = before.entries page
  held : ∀ frame, 0 < before.held frame → 0 < after.held frame
  contents : ∀ frame, 0 < before.held frame → ∀ offset < pageBytes,
    after.pool.contents (frame + offset) = before.pool.contents (frame + offset)

instance : Std.Refl Extends :=
  ⟨fun _ => ⟨rfl, fun _ _ => id, fun _ _ _ => rfl, fun _ => id, fun _ _ _ _ => rfl⟩⟩

instance : IsTrans UserMemory Extends where
  trans first second third early late := by
    refine ⟨late.noExecute.trans early.noExecute, fun base table found =>
      late.tables base table (early.tables base table found), fun page spanned present => ?_,
      fun frame held => late.held frame (early.held frame held), fun frame held offset below => ?_⟩
    · obtain ⟨table, found⟩ := Option.isSome_iff_exists.mp spanned
      have same := early.entries page spanned present
      refine (late.entries page ?_ ?_).trans same
      · rw [early.tables _ table found, Option.isSome_some]
      · rw [same]
        exact present
    · exact (late.contents frame (early.held frame held) offset below).trans
        (early.contents frame held offset below)

/-- What the context records about its mappings does not matter here. -/
theorem Extends.recorded {before after : UserMemory} (grown : before.Extends after)
    (context : ProcessContext) : before.Extends { after with context } :=
  ⟨grown.noExecute, grown.tables, grown.entries, grown.held, grown.contents⟩

/-- The pool behind the memory accounts for its pages. -/
abbrev Backed (memory : UserMemory) : Prop := memory.pool.toPool.Managed

theorem replicate_zero (memory : Memory) (address : Nat) {offset : Nat} (below : offset < pageBytes) :
    ByteMemory.store memory address (List.replicate pageBytes 0) (address + offset) = 0 :=
  store_holds memory address _ offset 0 (List.getElem?_replicate_of_lt below)

/-- Bytes stored inside one page change no other page. -/
theorem storePhysical_extends {memory : UserMemory} {frame offset : Nat} {bytes : List UInt8}
    (multiple : pageBytes ∣ frame) (inside : offset + bytes.length ≤ pageBytes)
    (others : ∀ page, 0 < memory.held page → pageBytes ∣ page) {before : UserMemory}
    (grown : before.Extends memory) (fresh : before.held frame = 0) :
    before.Extends (memory.storePhysical (frame + offset) bytes) := by
  refine ⟨grown.noExecute, grown.tables, grown.entries, grown.held, fun page held place below => ?_⟩
  refine Eq.trans (store_outside ?_) (grown.contents page held place below)
  have apart : page ≠ frame := by
    rintro rfl
    exact absurd fresh held.ne'
  obtain ⟨step, rfl⟩ := others page (grown.held page held)
  obtain ⟨other, rfl⟩ := multiple
  rcases Nat.lt_or_gt_of_ne fun same : step = other => apart (by rw [same]) with before | behind
  · have room := Nat.mul_le_mul_left pageBytes (Nat.succ_le_of_lt before)
    rw [Nat.mul_succ] at room
    omega
  · have room := Nat.mul_le_mul_left pageBytes (Nat.succ_le_of_lt behind)
    rw [Nat.mul_succ] at room
    omega

/-- What an allocation gives: a page of zeros that nobody held. -/
structure Allocated (before : UserMemory) (physical : Nat) (after : UserMemory) : Prop where
  backed : after.Backed
  grown : before.Extends after
  tables : after.tables = before.tables
  entries : after.entries = before.entries
  fresh : before.held physical = 0
  held : 0 < after.held physical
  multiple : pageBytes ∣ physical
  zero : ∀ offset < pageBytes, after.pool.contents (physical + offset) = 0

end UserMemory

open UserMemory

theorem allocatePage_gives {memory : UserMemory} (backed : memory.Backed) :
    Gives (memory.Allocated · ·) memory allocatePage := by
  intro physical after run
  unfold allocatePage at run
  dsimp only at run
  split at run
  · rename_i page pool allocated
    obtain ⟨same, rfl⟩ := Prod.mk.inj run
    obtain rfl := Except.ok.inj same
    obtain ⟨managed, fresh, held, kept⟩ := backed.allocate allocated
    have multiple := managed.multiple held
    have filled : memory.Extends ((memory.withPool pool).storePhysical page
        (List.replicate pageBytes 0)) := by
      have grown : memory.Extends (memory.withPool pool) :=
        ⟨rfl, fun _ _ => id, fun _ _ _ => rfl, kept, fun _ _ _ _ => rfl⟩
      rw [← Nat.add_zero page]
      refine storePhysical_extends multiple ?_ (fun _ => managed.multiple) grown fresh
      rw [List.length_replicate, Nat.zero_add]
    exact ⟨managed, filled, rfl, rfl, fresh, held, multiple, fun offset => replicate_zero _ _⟩
  · cases congrArg Prod.fst run

/-! ### The page tables -/

section Tables

variable {memory : UserMemory} {virtual : Nat}

/-- A page table that is installed hides nothing that was mapped. -/
theorem installUserPageTable_extends {base table : Nat} {installed : UserMemory}
    (done : memory.installUserPageTable base table = some installed) :
    memory.Extends installed ∧ installed.tables base = some table ∧
      installed.pool = memory.pool := by
  unfold installUserPageTable at done
  split at done
  · cases done
  · split at done
    · cases done
    · rename_i absent
      rw [not_not] at absent
      cases done
      refine ⟨⟨rfl, fun other old found => ?_, fun page spanned _ => ?_, fun _ => id,
        fun _ _ _ _ => rfl⟩, update_self .., rfl⟩
      · have apart : other ≠ base := by
          rintro rfl
          cases absent.symm.trans found
        exact (update_of_ne apart _ _).trans found
      · refine if_neg fun inSpan : spanBase page = base => ?_
        rw [inSpan, absent] at spanned
        cases spanned

theorem addUserPageTable_gives (backed : memory.Backed) :
    Gives (fun _ after => after.Backed ∧ memory.Extends after ∧
      (after.tables (spanBase virtual)).isSome = true) memory (addUserPageTable virtual) := by
  refine gives_state (gives_failWhen fun _ => ?_)
  split
  · exact gives_fail _
  · refine gives_bind (allocatePage_gives backed) fun physical after allocated => ?_
    refine gives_state ?_
    split
    · exact gives_change (gives_fail _)
    · rename_i installed done
      intro _ last run
      obtain rfl := congrArg Prod.snd run
      obtain ⟨grown, present, samePool⟩ := installUserPageTable_extends done
      refine ⟨?_, (Trans.trans allocated.grown grown).recorded _, ?_⟩
      · show installed.Backed
        unfold Backed
        rw [samePool]
        exact allocated.backed
      · show (installed.tables (spanBase virtual)).isSome = true
        rw [present, Option.isSome_some]

theorem ensurePageTable_gives (backed : memory.Backed) :
    Gives (fun _ after => after.Backed ∧ memory.Extends after ∧
      (after.tables (spanBase virtual)).isSome = true) memory (ensurePageTable virtual) := by
  refine gives_state (gives_ite (fun there => ?_) fun _ => addUserPageTable_gives backed)
  refine gives_pure ⟨backed, refl memory, ?_⟩
  unfold userPageTableAddress at there
  split at there
  · exact there
  · cases there

theorem hasPageEntry_iff : memory.hasPageEntry virtual = true ↔
    pageBytes ∣ virtual ∧ inDirectory virtual = true ∧
      (memory.tables (spanBase virtual)).isSome = true := by
  unfold hasPageEntry userPageTableAddress
  rw [decide_eq_true_eq, Nat.dvd_iff_mod_eq_zero]
  by_cases reached : inDirectory virtual = true
  · rw [if_pos reached, and_iff_right reached]
  · rw [if_neg reached, Option.isSome_none]
    simp [reached]

/-- The page is mapped like this, and its frame is held. -/
structure UserMemory.Mapped (memory : UserMemory) (virtual : Nat) (entry : PageEntry) : Prop where
  present : memory.entries virtual = some entry
  reached : memory.hasPageEntry virtual = true
  held : 0 < memory.held entry.physical
  noExecute : entry.executable = true ∨ memory.noExecuteEnabled = true

theorem UserMemory.Mapped.extends {after : UserMemory} {entry : PageEntry}
    (mapped : memory.Mapped virtual entry) (grown : memory.Extends after) :
    after.Mapped virtual entry := by
  obtain ⟨multiple, inside, spanned⟩ := hasPageEntry_iff.mp mapped.reached
  obtain ⟨table, found⟩ := Option.isSome_iff_exists.mp spanned
  have present : memory.entries virtual ≠ none := by
    rw [mapped.present]
    exact Option.some_ne_none _
  refine ⟨(grown.entries virtual spanned present).trans mapped.present,
    hasPageEntry_iff.mpr ⟨multiple, inside, ?_⟩, grown.held _ mapped.held, ?_⟩
  · rw [grown.tables _ table found, Option.isSome_some]
  · rw [grown.noExecute]
    exact mapped.noExecute

/-- The page is seen with the rights that it was mapped with. -/
theorem UserMemory.Mapped.inspect {entry : PageEntry} (mapped : memory.Mapped virtual entry) :
    memory.inspectUserPage virtual = some entry := by
  unfold inspectUserPage
  rw [if_pos mapped.reached, mapped.present, Option.map_some]
  rcases mapped.noExecute with executable | enabled
  · rw [executable, Bool.or_true]
    exact congrArg some (by rw [← executable])
  · rw [enabled, Bool.not_true, Bool.false_or]

theorem mapUserPage_mapped {physical : Nat} {writable executable : Bool} {mapped : UserMemory}
    (held : 0 < memory.held physical)
    (done : memory.mapUserPage virtual physical writable executable = some mapped) :
    memory.Extends mapped ∧ mapped.pool = memory.pool ∧
      mapped.Mapped virtual { physical, writable, executable } := by
  unfold mapUserPage at done
  split at done
  · cases done
  · rename_i reached
    rw [Bool.not_eq_false] at reached
    split_ifs at done with busy refused
    rw [not_or, not_not] at busy
    cases done
    refine ⟨⟨rfl, fun _ _ => id, fun page _ present => ?_, fun _ => id, fun _ _ _ _ => rfl⟩, rfl,
      ⟨update_self .., reached, held, ?_⟩⟩
    · refine update_of_ne ?_ _ _
      rintro rfl
      exact present busy.1
    · rwa [not_and_or, Bool.not_eq_false, Bool.not_eq_false] at refused

/-- A page that is mapped is mapped as asked, and nothing else changes. -/
theorem mapPage_gives {giveUp : UserMemory → UserMemory} {mapping : Mapping} (backed : memory.Backed)
    (held : 0 < memory.held mapping.physicalAddress) :
    Gives (fun _ after => after.Backed ∧ memory.Extends after ∧ after.Mapped mapping.virtualAddress
        { physical := mapping.physicalAddress, writable := mapping.writable
          executable := mapping.executable }) memory (mapPage giveUp mapping) := by
  refine gives_state ?_
  split
  · exact gives_change (gives_fail _)
  · rename_i index _
    intro value after run
    rw [bind_attempt] at run
    rcases outcome : ensurePageTable mapping.virtualAddress memory with ⟨failure | done, ready⟩
    · rw [outcome] at run
      cases congrArg Prod.fst run
    · rw [outcome] at run
      obtain ⟨backedReady, grown, -⟩ := ensurePageTable_gives backed done ready outcome
      refine (?_ : Gives (fun _ after => after.Backed ∧ memory.Extends after ∧
        after.Mapped _ _) ready _) value after run
      refine gives_state ?_
      split
      · exact gives_change (gives_fail _)
      · rename_i taken isTaken
        obtain ⟨growth, samePool, mapped⟩ := mapUserPage_mapped (grown.held _ held) isTaken
        intro _ last final
        obtain rfl := congrArg Prod.snd final
        refine ⟨?_, (Trans.trans grown growth).recorded _, mapped.present, mapped.reached,
          mapped.held, mapped.noExecute⟩
        show taken.Backed
        unfold Backed
        rwa [samePool]

end Tables

end ZigOs.RuntimeUser
