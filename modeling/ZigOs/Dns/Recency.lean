/-
This file proves that the cache is a bounded map that forgets what was used longest ago.
What a name should answer is read off the calls alone: the record stored last for it,
unless a store dropped it since. A lookup answers that record while it has not expired.
A store drops a record only when all four entries hold live records of other names, and
then the one whose name was stored or hit longest ago.
-/

import ZigOs.Dns.Cache

namespace ZigOs.Dns

open List

/-! ### Histories -/

inductive Operation where
  | storeCachedA (name : Bytes) (address : Address) (ttl : UInt32)
  | storeCachedNameError (name : Bytes) (ttl : UInt32)
  | lookupCachedOutcome (name : Bytes)
  | lookupCachedA (name : Bytes)
  deriving DecidableEq, Repr

/-- A call and the time it is made at. -/
structure Call where
  operation : Operation
  now : UInt64
  deriving DecidableEq, Repr

inductive Reply where
  | stored (done : Bool)
  | outcome (found : Option CachedOutcome)
  | address (found : Option CachedA)
  deriving DecidableEq, Repr

def Operation.name : Operation → Bytes
  | .storeCachedA name _ _ | .storeCachedNameError name _ | .lookupCachedOutcome name
  | .lookupCachedA name => name

def Cache.perform (cache : Cache) (call : Call) : Reply × Cache :=
  match call.operation with
  | .storeCachedA name address ttl =>
    (storeCachedA cache name address ttl.toNat call.now.toNat).map .stored id
  | .storeCachedNameError name ttl =>
    (storeCachedNameError cache name ttl.toNat call.now.toNat).map .stored id
  | .lookupCachedOutcome name =>
    (Dns.lookupCachedOutcome cache name call.now.toNat).map .outcome id
  | .lookupCachedA name => (Dns.lookupCachedA cache name call.now.toNat).map .address id

/-- The cache after a history of calls, the latest first. -/
def cacheAfter : List Call → Cache
  | [] => {}
  | call :: earlier => ((cacheAfter earlier).perform call).2

/-- What a call answers after the earlier ones. -/
def replyTo (call : Call) (earlier : List Call) : Reply := ((cacheAfter earlier).perform call).1

/-- The names are valid and the times do not decrease. -/
structure Proper (history : List Call) : Prop where
  valid : ∀ call ∈ history, encodedNameLength call.operation.name ≠ none
  timed : history.Pairwise fun later earlier => earlier.now ≤ later.now

/-! ### What the history says -/

inductive Outcome where
  | address (address : Address)
  | nameError
  deriving DecidableEq, Repr

/-- What is stored for a name. -/
structure Record where
  outcome : Outcome
  expiresAt : Nat
  deriving DecidableEq, Repr

/-- The record a store asks to keep. -/
def Call.record (call : Call) : Option Record :=
  match call.operation with
  | .storeCachedA _ address ttl =>
    some ⟨.address address, saturatingAdd 64 call.now.toNat ttl.toNat⟩
  | .storeCachedNameError _ ttl => some ⟨.nameError, saturatingAdd 64 call.now.toNat ttl.toNat⟩
  | .lookupCachedOutcome _ | .lookupCachedA _ => none

/-- A reply of a store that was made or of a lookup that found something. -/
def Reply.succeeds : Reply → Bool
  | .stored done => done
  | .outcome found => found.isSome
  | .address found => found.isSome

/-- The call stored or hit the name. -/
def Uses (call : Call) (earlier : List Call) (name : Bytes) : Prop :=
  (replyTo call earlier).succeeds = true ∧ equalName call.operation.name name = true

/-- An entry in use is for the name. -/
def Cache.Has (cache : Cache) (name : Bytes) : Prop :=
  ∃ entry ∈ cache.entries, entry.active = true ∧ equalName entry.name name = true

/-- An entry holds a record of the name that has not expired. -/
def Cache.Live (cache : Cache) (now : Nat) (name : Bytes) : Prop :=
  ∃ entry ∈ cache.entries, entry.active = true ∧ now < entry.expiresAt ∧
    equalName entry.name name = true

/-- The call drops the live record of a name. -/
def Evicts (call : Call) (earlier : List Call) (name : Bytes) : Prop :=
  (cacheAfter earlier).Live call.now.toNat name ∧ ¬(cacheAfter (call :: earlier)).Has name

instance (call : Call) (earlier : List Call) (name : Bytes) : Decidable (Uses call earlier name) :=
  inferInstanceAs (Decidable (_ ∧ _))

instance (cache : Cache) (name : Bytes) : Decidable (cache.Has name) :=
  inferInstanceAs (Decidable (∃ entry ∈ cache.entries, _))

instance (cache : Cache) (now : Nat) (name : Bytes) : Decidable (cache.Live now name) :=
  inferInstanceAs (Decidable (∃ entry ∈ cache.entries, _))

instance (call : Call) (earlier : List Call) (name : Bytes) :
    Decidable (Evicts call earlier name) :=
  inferInstanceAs (Decidable (_ ∧ _))

/-- The record stored last for the name, unless a store dropped it since. -/
def recordOf : List Call → Bytes → Option Record
  | [], _ => none
  | call :: earlier, name =>
    if Uses call earlier name ∧ call.record.isSome then call.record
    else if Evicts call earlier name then none
    else recordOf earlier name

/-- How many calls there were when the name was stored or hit last. -/
def lastUse : List Call → Bytes → Nat
  | [], _ => 0
  | call :: earlier, name =>
    if Uses call earlier name then earlier.length + 1 else lastUse earlier name

/-! ### One pass over the entries -/

/-- Every entry is kept or was found expired. -/
def Swept (now : Nat) : List CacheEntry → List CacheEntry → Prop :=
  List.Forall₂ fun before after =>
    after = before ∨ (before.active = true ∧ before.expiresAt ≤ now ∧ after = {})

variable {entries : List CacheEntry} {index : Nat} {survey : Survey}

section Passes

variable {now used : Nat} {entry : CacheEntry}

theorem discardExpired_swept (now : Nat) (entry : CacheEntry) :
    discardExpired now entry = entry ∨
      (entry.active = true ∧ entry.expiresAt ≤ now ∧ discardExpired now entry = {}) := by
  unfold discardExpired
  split
  · rename_i expired
    simp only [Bool.and_eq_true, decide_eq_true_eq] at expired
    exact .inr ⟨expired.1, expired.2, rfl⟩
  · exact .inl rfl

theorem discardExpired_active :
    (discardExpired now entry).active = true ↔ entry.active = true ∧ now < entry.expiresAt := by
  unfold discardExpired
  split <;> simp_all

theorem discardExpired_of_active (active : (discardExpired now entry).active = true) :
    discardExpired now entry = entry := by
  obtain same | ⟨-, -, zero⟩ := discardExpired_swept now entry
  · exact same
  · rw [zero] at active
    cases active

/-- A lookup that finds nothing has seen every entry. -/
theorem scanLookup_none {accepts : CacheEntry → Bool}
    (missed : (scanLookup accepts now used entries).1 = none) :
    Swept now entries (scanLookup accepts now used entries).2 ∧
      ∀ entry ∈ entries, entry.active = true → now < entry.expiresAt → accepts entry = false := by
  induction entries with
  | nil => exact ⟨List.Forall₂.nil, fun _ member => absurd member not_mem_nil⟩
  | cons entry rest hypothesis =>
    unfold scanLookup at missed ⊢
    split at missed
    · cases missed
    · rename_i passed
      obtain ⟨swept, refused⟩ := hypothesis missed
      rw [if_neg passed]
      refine ⟨List.Forall₂.cons (discardExpired_swept now entry) swept, fun other member => ?_⟩
      rcases mem_cons.mp member with rfl | member
      · intro active live
        rw [Bool.and_eq_true, discardExpired_active] at passed
        exact Bool.eq_false_iff.mpr fun accepted => passed ⟨⟨active, live⟩, accepted⟩
      · exact refused other member

/-- A lookup that finds an entry has swept those in front of it. -/
theorem scanLookup_some {accepts : CacheEntry → Bool}
    (found : (scanLookup accepts now used entries).1 = some entry) :
    ∃ before swept behind, entries = before ++ entry :: behind ∧ Swept now before swept ∧
      (scanLookup accepts now used entries).2 =
        swept ++ { entry with lastUsed := used } :: behind ∧
      entry.active = true ∧ now < entry.expiresAt ∧ accepts entry = true := by
  induction entries with
  | nil => cases found
  | cons head rest hypothesis =>
    unfold scanLookup at found ⊢
    split at found
    · rename_i accepted
      cases found
      rw [if_pos accepted]
      rw [Bool.and_eq_true, discardExpired_active] at accepted
      exact ⟨[], [], rest, rfl, List.Forall₂.nil, rfl, accepted.1.1, accepted.1.2, accepted.2⟩
    · rename_i passed
      obtain ⟨before, swept, behind, split, sweeps, after, rest⟩ := hypothesis found
      rw [if_neg passed]
      exact ⟨head :: before, _ :: swept, behind, congrArg _ split,
        List.Forall₂.cons (discardExpired_swept now head) sweeps, congrArg _ after, rest⟩

/-- A store that refreshes an entry has swept those in front of it. -/
theorem scanStore_none {name : Bytes} {refresh : CacheEntry → CacheEntry}
    (refreshed : (scanStore name now refresh entries index survey).1 = none) :
    ∃ before swept entry behind, entries = before ++ entry :: behind ∧ Swept now before swept ∧
      (scanStore name now refresh entries index survey).2 = swept ++ refresh entry :: behind ∧
      entry.active = true ∧ now < entry.expiresAt ∧ equalName entry.name name = true := by
  induction entries generalizing index survey with
  | nil => cases refreshed
  | cons head rest hypothesis =>
    unfold scanStore at refreshed ⊢
    dsimp only at refreshed ⊢
    split at refreshed
    · rename_i same
      rw [if_pos same]
      rw [Bool.and_eq_true] at same
      have kept := discardExpired_of_active same.1
      have alive := discardExpired_active.mp same.1
      rw [kept] at same ⊢
      exact ⟨[], [], head, rest, rfl, List.Forall₂.nil, rfl, alive.1, alive.2, same.2⟩
    · rename_i passed
      obtain ⟨before, swept, entry, behind, split, sweeps, after, others⟩ :=
        hypothesis refreshed
      rw [if_neg passed]
      exact ⟨head :: before, _ :: swept, entry, behind, congrArg _ split,
        List.Forall₂.cons (discardExpired_swept now head) sweeps, congrArg _ after, others⟩

/-- What a survey says is true of the entries that were passed. -/
structure Survey.Covers (survey : Survey) (passed : List CacheEntry) : Prop where
  free : ∀ index, survey.freeIndex = some index →
    ∃ entry, passed[index]? = some entry ∧ entry.active = false
  full : survey.freeIndex = none → ∀ entry ∈ passed, entry.active = true
  oldest : ∀ index, survey.oldestIndex = some index →
    ∃ entry, passed[index]? = some entry ∧ entry.active = true ∧
      entry.lastUsed = survey.oldestUse ∧ survey.oldestUse < 2 ^ 64 - 1
  least : ∀ entry ∈ passed, entry.active = true → survey.oldestUse ≤ entry.lastUsed
  bounded : survey.oldestUse ≤ 2 ^ 64 - 1

theorem Survey.covers_start : Survey.Covers {} [] where
  free _ found := by cases found
  full _ _ member := absurd member not_mem_nil
  oldest _ found := by cases found
  least _ member := absurd member not_mem_nil
  bounded := Nat.le_refl _

/-- An entry that was passed keeps its index. -/
theorem getElem?_concat_of_some {passed : List CacheEntry} {index : Nat} {other : CacheEntry}
    (found : passed[index]? = some entry) : (passed ++ [other])[index]? = some entry := by
  obtain ⟨inside, -⟩ := List.getElem?_eq_some_iff.mp found
  rw [List.getElem?_append_left inside, found]

variable {passed : List CacheEntry}

theorem Survey.Covers.pass (covers : survey.Covers passed) (entry : CacheEntry) :
    (survey.pass passed.length entry).Covers (passed ++ [entry]) := by
  unfold Survey.pass
  split
  · rename_i inactive
    rw [Bool.not_eq_true'] at inactive
    refine ⟨fun index found => ?_, fun missing => ?_, fun index found => ?_,
      fun other member active => ?_, covers.bounded⟩
    · rcases free : survey.freeIndex with - | earlier
      · rw [free] at found
        cases found
        exact ⟨entry, List.getElem?_concat_length, inactive⟩
      · rw [free] at found
        cases found
        obtain ⟨other, found, idle⟩ := covers.free _ free
        exact ⟨other, getElem?_concat_of_some found, idle⟩
    · rw [Option.or_eq_none_iff] at missing
      cases missing.2
    · obtain ⟨other, found, rest⟩ := covers.oldest index found
      exact ⟨other, getElem?_concat_of_some found, rest⟩
    · rcases mem_append.mp member with member | member
      · exact covers.least other member active
      · rw [mem_singleton.mp member, inactive] at active
        cases active
  · rename_i active
    rw [Bool.not_eq_true', Bool.not_eq_false] at active
    have free : ∀ index, survey.freeIndex = some index →
        ∃ other, (passed ++ [entry])[index]? = some other ∧ other.active = false :=
      fun index found => by
        obtain ⟨other, found, idle⟩ := covers.free index found
        exact ⟨other, getElem?_concat_of_some found, idle⟩
    have full : survey.freeIndex = none → ∀ other ∈ passed ++ [entry], other.active = true :=
      fun missing other member => by
        rcases mem_append.mp member with member | member
        · exact covers.full missing other member
        · exact mem_singleton.mp member ▸ active
    split
    · rename_i older
      refine ⟨free, full, fun index found => ?_, fun other member active => ?_,
        older.le.trans covers.bounded⟩
      · cases found
        exact ⟨entry, List.getElem?_concat_length, active, rfl,
          Nat.lt_of_lt_of_le older covers.bounded⟩
      · rcases mem_append.mp member with member | member
        · exact Nat.le_trans older.le (covers.least other member active)
        · exact mem_singleton.mp member ▸ Nat.le_refl _
    · rename_i younger
      refine ⟨free, full, fun index found => ?_, fun other member active => ?_, covers.bounded⟩
      · obtain ⟨other, found, rest⟩ := covers.oldest index found
        exact ⟨other, getElem?_concat_of_some found, rest⟩
      · rcases mem_append.mp member with member | member
        · exact covers.least other member active
        · exact mem_singleton.mp member ▸ Nat.le_of_not_lt younger

/-- A store that refreshes nothing has seen every entry. -/
theorem scanStore_some {name : Bytes} {refresh : CacheEntry → CacheEntry} {last : Survey}
    (covers : survey.Covers passed)
    (seen : (scanStore name now refresh entries passed.length survey).1 = some last) :
    Swept now entries (scanStore name now refresh entries passed.length survey).2 ∧
      last.Covers (passed ++ (scanStore name now refresh entries passed.length survey).2) ∧
      ∀ entry ∈ (scanStore name now refresh entries passed.length survey).2, entry.active = true →
        now < entry.expiresAt ∧ equalName entry.name name = false := by
  induction entries generalizing passed survey with
  | nil =>
    cases seen
    refine ⟨List.Forall₂.nil, ?_, fun _ member => absurd member not_mem_nil⟩
    exact (append_nil passed).symm ▸ covers
  | cons head rest hypothesis =>
    unfold scanStore at seen ⊢
    dsimp only at seen ⊢
    split at seen
    · cases seen
    · rename_i differs
      rw [if_neg differs]
      have next : passed.length + 1 = (passed ++ [discardExpired now head]).length := by
        rw [length_append, length_singleton]
      rw [next] at seen ⊢
      obtain ⟨sweeps, covers, others⟩ := hypothesis (covers.pass _) seen
      rw [append_assoc] at covers
      refine ⟨List.Forall₂.cons (discardExpired_swept now head) sweeps, covers,
        fun entry member active => ?_⟩
      rcases mem_cons.mp member with rfl | member
      · rw [Bool.and_eq_true, not_and, Bool.not_eq_true] at differs
        have alive := discardExpired_active.mp active
        exact ⟨(discardExpired_of_active active).symm ▸ alive.2, differs active⟩
      · exact others entry member active

end Passes

/-! ### What a call does to the entries -/

/-- No two entries in use are for the same name. -/
def Distinct (entries : List CacheEntry) : Prop :=
  entries.Pairwise fun first second =>
    first.active = true → second.active = true → equalName first.name second.name = false

/-- What an entry holds. -/
def CacheEntry.record (entry : CacheEntry) : Record where
  outcome := if entry.negative then .nameError else .address entry.address
  expiresAt := entry.expiresAt

/-- The call swept some entries and kept the others. -/
structure Sweeps (now : Nat) (before after : Cache) : Prop where
  entries : Swept now before.entries after.entries
  clock : after.clock = before.clock

/-- The call swept some entries and put one in the place of another; a live entry of another name
makes room only among live entries of other names, none of them used less recently. -/
structure Places (now : Nat) (before after : Cache) (old placed : CacheEntry) : Prop where
  entries : ∃ front swept behind sweptBehind, before.entries = front ++ old :: behind ∧
    after.entries = swept ++ placed :: sweptBehind ∧ Swept now front swept ∧
    Swept now behind sweptBehind ∧ ∀ entry ∈ swept ++ sweptBehind, entry.active = true →
      equalName entry.name placed.name = false
  clock : after.clock = tick before.clock
  active : placed.active = true
  used : placed.lastUsed = tick before.clock
  room : old.active = true → now < old.expiresAt → equalName old.name placed.name = false →
    old.lastUsed < 2 ^ 64 - 1 ∧ ∀ entry ∈ before.entries, entry.active = true ∧
      now < entry.expiresAt ∧ equalName entry.name placed.name = false ∧
      old.lastUsed ≤ entry.lastUsed

/-- What a call does, with the record it leaves for its name. -/
inductive Does (call : Call) (before after : Cache) (reply : Reply) : Prop where
  | sweeps (sweeps : Sweeps call.now.toNat before after) (fails : reply.succeeds = false)
  | stores (old placed : CacheEntry) (places : Places call.now.toNat before after old placed)
    (succeeds : reply.succeeds = true)
    (named : equalName call.operation.name placed.name = true)
    (record : call.record = some placed.record)
  | hits (old : CacheEntry)
    (places : Places call.now.toNat before after old
      { old with lastUsed := tick before.clock })
    (succeeds : reply.succeeds = true)
    (named : equalName call.operation.name old.name = true) (live : call.now.toNat < old.expiresAt)
    (looks : call.record = none)

theorem swept_refl (now : Nat) (entries : List CacheEntry) : Swept now entries entries := by
  induction entries with
  | nil => exact List.Forall₂.nil
  | cons entry rest hypothesis => exact List.Forall₂.cons (.inl rfl) hypothesis

variable {now : Nat} {entry : CacheEntry}

/-- An entry in use after a sweep was there before. -/
theorem Swept.mem {before after : List CacheEntry} (swept : Swept now before after)
    (member : entry ∈ after) (active : entry.active = true) : entry ∈ before := by
  induction swept with
  | nil => exact member
  | cons kept rest hypothesis =>
    rcases mem_cons.mp member with rfl | member
    · obtain rfl | ⟨-, -, zero⟩ := kept
      · exact mem_cons_self
      · rw [zero] at active
        cases active
    · exact mem_cons_of_mem _ (hypothesis member)

/-- A live entry survives a sweep. -/
theorem Swept.keeps {before after : List CacheEntry} (swept : Swept now before after)
    (member : entry ∈ before) (live : now < entry.expiresAt) : entry ∈ after := by
  induction swept with
  | nil => exact member
  | cons kept rest hypothesis =>
    rcases mem_cons.mp member with rfl | member
    · obtain rfl | ⟨-, expired, -⟩ := kept
      · exact mem_cons_self
      · exact absurd live (Nat.not_lt.mpr expired)
    · exact mem_cons_of_mem _ (hypothesis member)

theorem Swept.distinct {before after : List CacheEntry} (swept : Swept now before after)
    (distinct : Distinct before) : Distinct after := by
  induction swept with
  | nil => exact distinct
  | cons kept rest hypothesis =>
    obtain ⟨head, tail⟩ := pairwise_cons.mp distinct
    refine pairwise_cons.mpr ⟨fun entry member first second => ?_, hypothesis tail⟩
    obtain rfl | ⟨-, -, zero⟩ := kept
    · exact head entry (Swept.mem rest member second) first second
    · rw [zero] at first
      cases first

/-- A sweep that leaves every entry in use changed nothing. -/
theorem Swept.eq_of_active {before after : List CacheEntry} (swept : Swept now before after)
    (active : ∀ entry ∈ after, entry.active = true) : after = before := by
  induction swept with
  | nil => rfl
  | cons kept rest hypothesis =>
    rw [forall_mem_cons] at active
    obtain rfl | ⟨-, -, zero⟩ := kept
    · exact congrArg _ (hypothesis active.2)
    · have idle := active.1
      rw [zero] at idle
      cases idle

variable {swept behind : List CacheEntry}

theorem Swept.split {before : List CacheEntry}
    (sweeps : Swept now before (swept ++ entry :: behind)) :
    ∃ front old rest, before = front ++ old :: rest ∧ Swept now front swept ∧
      (entry = old ∨ (old.active = true ∧ old.expiresAt ≤ now ∧ entry = {})) ∧
      Swept now rest behind := by
  induction swept generalizing before with
  | nil =>
    rcases sweeps with - | ⟨kept, sweeps⟩
    exact ⟨[], _, _, rfl, List.Forall₂.nil, kept, sweeps⟩
  | cons head tail hypothesis =>
    rcases sweeps with - | ⟨kept, sweeps⟩
    obtain ⟨front, old, rest, rfl, sweeps, split⟩ := hypothesis sweeps
    exact ⟨_ :: front, old, rest, rfl, List.Forall₂.cons kept sweeps, split⟩

variable {after : Cache} {old placed : CacheEntry}

section Calls

variable {cache : Cache} {now : Nat} (distinct : Distinct cache.entries)
include distinct

/-- An entry that stays in its place under its name. -/
theorem places_same {front : List CacheEntry} (split : cache.entries = front ++ old :: behind)
    (sweeps : Swept now front swept) (entries : after.entries = swept ++ placed :: behind)
    (clock : after.clock = tick cache.clock) (oldActive : old.active = true)
    (active : placed.active = true) (used : placed.lastUsed = tick cache.clock)
    (name : placed.name = old.name) : Places now cache after old placed where
  entries := by
    refine ⟨front, swept, behind, behind, split, entries, sweeps, swept_refl now behind,
      fun entry member busy => ?_⟩
    unfold Distinct at distinct
    rw [split, pairwise_append] at distinct
    obtain ⟨-, rest, across⟩ := distinct
    rw [name]
    rcases mem_append.mp member with member | member
    · exact across entry (sweeps.mem member busy) old mem_cons_self busy oldActive
    · have differs := (pairwise_cons.mp rest).1 entry member oldActive busy
      exact Bool.eq_false_iff.mpr fun same =>
        Bool.eq_false_iff.mp differs (equalName_symm same)
  clock := clock
  active := active
  used := used
  room _ _ differs := by
    rw [name, equalName_refl] at differs
    cases differs

theorem lookup_does {accepts : CacheEntry → Bool} :
    ((cache.lookup accepts now).1 = none ∧ Sweeps now cache (cache.lookup accepts now).2 ∧
      ∀ entry ∈ cache.entries, entry.active = true → now < entry.expiresAt →
        accepts entry = false) ∨
    ∃ old, (cache.lookup accepts now).1 = some old ∧ old ∈ cache.entries ∧ old.active = true ∧
      now < old.expiresAt ∧ accepts old = true ∧
      Places now cache (cache.lookup accepts now).2 old
        { old with lastUsed := tick cache.clock } := by
  rcases found : (scanLookup accepts now (tick cache.clock) cache.entries).1 with - | old
  · obtain ⟨sweeps, refused⟩ := scanLookup_none found
    refine .inl ⟨found, ⟨sweeps, ?_⟩, refused⟩
    show (if Option.isSome _ = true then _ else _) = _
    rw [found]
    rfl
  · obtain ⟨front, swept, behind, split, sweeps, after, active, live, accepted⟩ :=
      scanLookup_some found
    refine .inr ⟨old, found, split ▸ mem_append_right _ mem_cons_self, active, live,
      accepted, places_same distinct split sweeps after ?_ active active rfl rfl⟩
    show (if Option.isSome _ = true then _ else _) = _
    rw [found]
    rfl

omit distinct in
/-- A new entry goes to a free place or to the one used longest ago. -/
theorem places_new {name : Bytes} (sweeps : Swept now cache.entries entries)
    (covers : survey.Covers entries) (differ : ∀ entry ∈ entries, entry.active = true →
      now < entry.expiresAt ∧ equalName entry.name name = false)
    (chosen : survey.freeIndex.or survey.oldestIndex = some index)
    (stored : after.entries = entries.set index placed) (clock : after.clock = tick cache.clock)
    (active : placed.active = true) (used : placed.lastUsed = tick cache.clock)
    (named : placed.name = name) : ∃ old, Places now cache after old placed := by
  obtain ⟨entry, found, least⟩ : ∃ entry, entries[index]? = some entry ∧
      (entry.active = true → survey.freeIndex = none ∧ entry.lastUsed = survey.oldestUse ∧
        survey.oldestUse < 2 ^ 64 - 1) := by
    rcases free : survey.freeIndex with - | place
    · rw [free, Option.none_or] at chosen
      obtain ⟨entry, found, -, least⟩ := covers.oldest index chosen
      exact ⟨entry, found, fun _ => ⟨rfl, least⟩⟩
    · rw [free] at chosen
      cases chosen
      obtain ⟨entry, found, idle⟩ := covers.free _ free
      refine ⟨entry, found, fun busy => ?_⟩
      rw [idle] at busy
      cases busy
  obtain ⟨inside, rfl⟩ := List.getElem?_eq_some_iff.mp found
  have split : entries = entries.take index ++ entries[index] :: entries.drop (index + 1) := by
    rw [getElem_cons_drop, take_append_drop]
  have whole := sweeps
  rw [split] at sweeps
  obtain ⟨front, old, rest, before, frontSwept, kept, restSwept⟩ := sweeps.split
  refine ⟨old, ⟨front, _, rest, _, before, stored.trans (set_eq_take_append_cons_drop.trans
    (if_pos inside)), frontSwept, restSwept, fun other member busy => ?_⟩, clock, active, used,
    fun oldActive live _ => ?_⟩
  · have stays : other ∈ entries := by
      rw [split]
      rcases mem_append.mp member with member | member
      · exact mem_append_left _ member
      · exact mem_append_right _ (mem_cons_of_mem _ member)
    exact named ▸ (differ other stays busy).2
  · obtain same | ⟨-, expired, -⟩ := kept
    · obtain ⟨full, use, below⟩ := least (same.symm ▸ oldActive)
      have unchanged := whole.eq_of_active (covers.full full)
      rw [same] at use
      refine ⟨use ▸ below, fun other member => ?_⟩
      rw [← unchanged] at member
      have busy := covers.full full other member
      exact ⟨busy, (differ other member busy).1, named ▸ (differ other member busy).2,
        use ▸ covers.least other member busy⟩
    · exact absurd live (Nat.not_lt.mpr expired)

theorem store_does (negative : Bool) (address : Address) (name : Bytes) (ttl : Nat) :
    ((storeCached negative address cache name ttl now).1 = false ∧
      Sweeps now cache (storeCached negative address cache name ttl now).2) ∨
    ((storeCached negative address cache name ttl now).1 = true ∧ ∃ old placed,
      Places now cache (storeCached negative address cache name ttl now).2 old placed ∧
      equalName name placed.name = true ∧
      placed.record = ⟨if negative then .nameError else .address address,
        saturatingAdd 64 now ttl⟩) := by
  unfold storeCached
  by_cases invalid : encodedNameLength name = none
  · rw [if_pos invalid]
    exact .inl ⟨rfl, swept_refl now _, rfl⟩
  rw [if_neg invalid]
  by_cases none : ttl = 0
  · rw [if_pos none]
    exact .inl ⟨rfl, swept_refl now _, rfl⟩
  rw [if_neg none]
  dsimp only
  rcases scanned : scanStore name now (fun entry => { entry with
      negative, address, expiresAt := saturatingAdd 64 now ttl, lastUsed := tick cache.clock })
      cache.entries 0 {} with ⟨_ | survey, entries⟩
  · obtain ⟨front, swept, old, behind, split, sweeps, after, active, -, same⟩ :=
      scanStore_none (congrArg Prod.fst scanned)
    rw [scanned] at after
    exact .inr ⟨rfl, old, _, places_same distinct split sweeps after rfl active active rfl rfl,
      equalName_symm same, rfl⟩
  · have seen : (scanStore name now (fun entry => { entry with
        negative, address, expiresAt := saturatingAdd 64 now ttl, lastUsed := tick cache.clock })
        cache.entries ([] : List CacheEntry).length {}).1 = some survey := congrArg Prod.fst scanned
    obtain ⟨sweeps, covers, differ⟩ := scanStore_some Survey.covers_start seen
    rw [length_nil, scanned] at sweeps covers differ
    rcases chosen : survey.freeIndex.or survey.oldestIndex with - | index
    · dsimp only
      rw [chosen]
      exact .inl ⟨rfl, sweeps, rfl⟩
    · dsimp only
      rw [chosen]
      obtain ⟨old, places⟩ : ∃ old, Places now cache
          { entries := entries.set index
              { active := true
                negative
                name
                address
                expiresAt := saturatingAdd 64 now ttl
                lastUsed := tick cache.clock }
            clock := tick cache.clock } old
          { active := true
            negative
            name
            address
            expiresAt := saturatingAdd 64 now ttl
            lastUsed := tick cache.clock } :=
        places_new sweeps covers differ chosen rfl rfl rfl rfl rfl
      exact .inr ⟨rfl, old, _, places, equalName_refl name, rfl⟩

end Calls

theorem lookupCachedOutcome_eq {cache : Cache} {name : Bytes} {now : Nat}
    (valid : encodedNameLength name ≠ none) : lookupCachedOutcome cache name now =
      ((cache.lookup (fun entry => equalName entry.name name) now).1.map fun entry =>
        if entry.negative then .nameError (remaining now entry)
        else .answer { address := entry.address, ttlRemaining := remaining now entry },
        (cache.lookup (fun entry => equalName entry.name name) now).2) :=
  if_neg valid

theorem lookupCachedA_eq {cache : Cache} {name : Bytes} {now : Nat}
    (valid : encodedNameLength name ≠ none) : lookupCachedA cache name now =
      ((cache.lookup (fun entry => equalName entry.name name && !entry.negative) now).1.map
        fun entry => { address := entry.address, ttlRemaining := remaining now entry },
        (cache.lookup (fun entry => equalName entry.name name && !entry.negative) now).2) :=
  if_neg valid

variable {cache : Cache} {call : Call}

theorem lookup_call (distinct : Distinct cache.entries) {reply : Reply}
    {accepts : CacheEntry → Bool}
    (named : ∀ entry, accepts entry = true → equalName entry.name call.operation.name = true)
    (looks : call.record = none)
    (answered : reply.succeeds = (cache.lookup accepts call.now.toNat).1.isSome) :
    Does call cache (cache.lookup accepts call.now.toNat).2 reply := by
  obtain ⟨missed, sweeps, -⟩ | ⟨old, found, -, active, live, accepted, places⟩ :=
    @lookup_does _ call.now.toNat distinct accepts
  · rw [missed] at answered
    exact .sweeps sweeps answered
  · rw [found] at answered
    exact .hits old places answered (equalName_symm (named old accepted)) live looks

theorem perform_does (distinct : Distinct cache.entries) (call : Call)
    (valid : encodedNameLength call.operation.name ≠ none) :
    Does call cache (cache.perform call).2 (cache.perform call).1 := by
  obtain ⟨operation, now⟩ := call
  cases operation with
  | storeCachedA name address ttl =>
    obtain ⟨failed, sweeps⟩ | ⟨done, old, placed, places, named, record⟩ :=
      @store_does _ now.toNat distinct false address name ttl.toNat
    · exact .sweeps sweeps failed
    · exact .stores old placed places done named (congrArg some record.symm)
  | storeCachedNameError name ttl =>
    obtain ⟨failed, sweeps⟩ | ⟨done, old, placed, places, named, record⟩ :=
      @store_does _ now.toNat distinct true {} name ttl.toNat
    · exact .sweeps sweeps failed
    · exact .stores old placed places done named (congrArg some record.symm)
  | lookupCachedOutcome name =>
    unfold Cache.perform
    dsimp only
    rw [@lookupCachedOutcome_eq cache name now.toNat valid]
    exact lookup_call distinct (fun _ accepted => accepted) rfl (Option.isSome_map ..)
  | lookupCachedA name =>
    unfold Cache.perform
    dsimp only
    rw [@lookupCachedA_eq cache name now.toNat valid]
    exact lookup_call distinct (fun _ accepted => (Bool.and_eq_true_iff.mp accepted).1) rfl
      (Option.isSome_map ..)

/-! ### What the cache keeps of the history -/

variable {earlier : List Call} {other : Bytes}

theorem uses_congr {name : Bytes}
    (same : equalName name other = true) : Uses call earlier name ↔ Uses call earlier other :=
  and_congr_right' ⟨fun equal => equalName_trans equal same,
    fun equal => equalName_trans equal (equalName_symm same)⟩

theorem live_congr {name : Bytes}
    (same : equalName name other = true) : cache.Live now name ↔ cache.Live now other := by
  constructor
  · rintro ⟨entry, member, active, live, equal⟩
    exact ⟨entry, member, active, live, equalName_trans equal same⟩
  · rintro ⟨entry, member, active, live, equal⟩
    exact ⟨entry, member, active, live, equalName_trans equal (equalName_symm same)⟩

theorem has_congr {name : Bytes} (same : equalName name other = true) :
    cache.Has name ↔ cache.Has other := by
  constructor
  · rintro ⟨entry, member, active, equal⟩
    exact ⟨entry, member, active, equalName_trans equal same⟩
  · rintro ⟨entry, member, active, equal⟩
    exact ⟨entry, member, active, equalName_trans equal (equalName_symm same)⟩

theorem evicts_congr {name : Bytes}
    (same : equalName name other = true) : Evicts call earlier name ↔ Evicts call earlier other :=
  and_congr (live_congr same) (not_congr (has_congr same))

variable {history : List Call}

theorem recordOf_congr {name : Bytes}
    (same : equalName name other = true) : recordOf history name = recordOf history other := by
  induction history with
  | nil => rfl
  | cons call earlier hypothesis =>
    unfold recordOf
    rw [hypothesis]
    simp only [uses_congr same, evicts_congr same]

theorem lastUse_congr {name : Bytes}
    (same : equalName name other = true) : lastUse history name = lastUse history other := by
  induction history with
  | nil => rfl
  | cons call earlier hypothesis =>
    unfold lastUse
    rw [hypothesis]
    simp only [uses_congr same]

theorem lastUse_le (history : List Call) (name : Bytes) : lastUse history name ≤ history.length := by
  induction history with
  | nil => exact Nat.le_refl 0
  | cons call earlier hypothesis =>
    unfold lastUse
    split
    · exact Nat.le_refl _
    · exact Nat.le_succ_of_le hypothesis

/-- What the cache after a history has to do with the history. -/
structure Tracks (history : List Call) : Prop where
  size : (cacheAfter history).entries.length = cacheCapacity
  distinct : Distinct (cacheAfter history).entries
  held : ∀ entry ∈ (cacheAfter history).entries, entry.active = true →
    recordOf history entry.name = some entry.record
  live : ∀ name record now, recordOf history name = some record →
    (∀ call ∈ history, call.now.toNat ≤ now) → now < record.expiresAt →
      ∃ entry ∈ (cacheAfter history).entries, entry.active = true ∧
        equalName entry.name name = true
  clocked : (cacheAfter history).clock ≤ 2 ^ 64 - 1 ∧
    ∀ entry ∈ (cacheAfter history).entries, entry.active = true →
      entry.lastUsed ≤ (cacheAfter history).clock
  ordered : ∀ first ∈ (cacheAfter history).entries, ∀ second ∈ (cacheAfter history).entries,
    first.active = true → second.active = true → first.lastUsed < second.lastUsed →
      lastUse history first.name < lastUse history second.name
  tied : ∀ first ∈ (cacheAfter history).entries, ∀ second ∈ (cacheAfter history).entries,
    first.active = true → second.active = true → first.lastUsed = second.lastUsed →
      first.lastUsed < 2 ^ 64 - 1 → first = second

theorem tracks_nil : Tracks [] := by
  have idle : ∀ entry ∈ (cacheAfter []).entries, entry.active = false := by
    intro entry member
    rw [eq_of_mem_replicate member]
  have none : ∀ entry ∈ (cacheAfter []).entries, entry.active = true → False :=
    fun entry member active => by
      rw [idle entry member] at active
      cases active
  exact
    { size := rfl
      distinct := pairwise_replicate.mpr (.inr fun active => by cases active)
      held := fun entry member active => (none entry member active).elim
      live := fun _ _ _ found => by cases found
      clocked := ⟨Nat.zero_le _, fun entry member active => (none entry member active).elim⟩
      ordered := fun first member _ _ active => (none first member active).elim
      tied := fun first member _ _ active => (none first member active).elim }

section Steps

variable {call : Call} {earlier : List Call}

theorem recordOf_kept {name : Bytes} (other : ¬(Uses call earlier name ∧ call.record.isSome))
    (kept : ¬Evicts call earlier name) : recordOf (call :: earlier) name = recordOf earlier name := by
  rw [recordOf, if_neg other, if_neg kept]

/-- A record the cache still has was there before, unless the call stored it. -/
theorem recordOf_before {name : Bytes} {record : Record}
    (other : ¬(Uses call earlier name ∧ call.record.isSome))
    (recorded : recordOf (call :: earlier) name = some record) :
    recordOf earlier name = some record ∧ ¬Evicts call earlier name := by
  rw [recordOf, if_neg other] at recorded
  split at recorded
  · cases recorded
  · rename_i kept
    exact ⟨recorded, kept⟩

theorem lastUse_kept {name : Bytes} (other : ¬Uses call earlier name) :
    lastUse (call :: earlier) name = lastUse earlier name := if_neg other

theorem lastUse_used {name : Bytes} (uses : Uses call earlier name) :
    lastUse (call :: earlier) name = earlier.length + 1 := if_pos uses

theorem Sweeps.not_evicts
    (sweeps : Sweeps call.now.toNat (cacheAfter earlier) (cacheAfter (call :: earlier)))
    (name : Bytes) : ¬Evicts call earlier name := by
  rintro ⟨⟨entry, member, active, live, same⟩, gone⟩
  exact gone ⟨entry, sweeps.entries.keeps member live, active, same⟩

/-- An entry in use after the call is the one placed, or was there before under another name. -/
theorem Places.before {before : Cache} (places : Places now before after old placed)
    (member : entry ∈ after.entries) (active : entry.active = true) :
    entry = placed ∨ (entry ∈ before.entries ∧ equalName entry.name placed.name = false) := by
  obtain ⟨front, swept, behind, sweptBehind, split, entries, frontSwept, behindSwept, differ⟩ :=
    places.entries
  rw [entries] at member
  rw [split]
  rcases mem_append.mp member with member | member
  · exact .inr ⟨mem_append_left _ (frontSwept.mem member active),
      differ entry (mem_append_left _ member) active⟩
  · rcases mem_cons.mp member with rfl | member
    · exact .inl rfl
    · exact .inr ⟨mem_append_right _
        (mem_cons_of_mem _ (behindSwept.mem member active)),
        differ entry (mem_append_right _ member) active⟩

theorem Places.placed_mem {before : Cache}
    (places : Places now before after old placed) : placed ∈ after.entries := by
  obtain ⟨front, swept, behind, sweptBehind, -, entries, -⟩ := places.entries
  exact entries ▸ mem_append_right _ mem_cons_self

theorem Places.old_mem {before : Cache}
    (places : Places now before after old placed) : old ∈ before.entries := by
  obtain ⟨front, swept, behind, sweptBehind, split, -⟩ := places.entries
  exact split ▸ mem_append_right _ mem_cons_self

/-- A live entry is still there, or it is the one that made room. -/
theorem Places.keeps {before : Cache} (places : Places now before after old placed)
    (member : entry ∈ before.entries) (live : now < entry.expiresAt) :
    entry ∈ after.entries ∨ entry = old := by
  obtain ⟨front, swept, behind, sweptBehind, split, entries, frontSwept, behindSwept, -⟩ :=
    places.entries
  rw [split] at member
  rw [entries]
  rcases mem_append.mp member with member | member
  · exact .inl (mem_append_left _ (frontSwept.keeps member live))
  · rcases mem_cons.mp member with rfl | member
    · exact .inr rfl
    · exact .inl (mem_append_right _
        (mem_cons_of_mem _ (behindSwept.keeps member live)))

theorem Places.length {before : Cache} (places : Places now before after old placed) :
    after.entries.length = before.entries.length := by
  obtain ⟨front, swept, behind, sweptBehind, split, entries, frontSwept, behindSwept, -⟩ :=
    places.entries
  rw [split, entries, length_append, length_append, length_cons, length_cons,
    frontSwept.length_eq, behindSwept.length_eq]

theorem Places.distinct {before : Cache} (places : Places now before after old placed)
    (distinct : Distinct before.entries) : Distinct after.entries := by
  obtain ⟨front, swept, behind, sweptBehind, split, entries, frontSwept, behindSwept, differ⟩ :=
    places.entries
  unfold Distinct at distinct ⊢
  rw [split, pairwise_append, pairwise_cons] at distinct
  obtain ⟨frontDistinct, ⟨-, behindDistinct⟩, across⟩ := distinct
  rw [entries, pairwise_append, pairwise_cons]
  refine ⟨frontSwept.distinct frontDistinct, ⟨fun entry member _ busy => ?_,
    behindSwept.distinct behindDistinct⟩, fun first member second other active busy => ?_⟩
  · have differs := differ entry (mem_append_right _ member) busy
    exact Bool.eq_false_iff.mpr fun same =>
      Bool.eq_false_iff.mp differs (equalName_symm same)
  · rcases mem_cons.mp other with rfl | other
    · exact differ first (mem_append_left _ member) active
    · exact across first (frontSwept.mem member active) second
        (mem_cons_of_mem _ (behindSwept.mem other busy)) active busy

theorem Tracks.sweeps (tracks : Tracks earlier)
    (sweeps : Sweeps call.now.toNat (cacheAfter earlier) (cacheAfter (call :: earlier)))
    (fails : (replyTo call earlier).succeeds = false) : Tracks (call :: earlier) := by
  have unused : ∀ name, ¬Uses call earlier name := fun name uses => by
    exact Bool.false_ne_true (fails.symm.trans uses.1)
  have before : ∀ {entry}, entry ∈ (cacheAfter (call :: earlier)).entries →
      entry.active = true → entry ∈ (cacheAfter earlier).entries :=
    fun member active => sweeps.entries.mem member active
  refine ⟨sweeps.entries.length_eq ▸ tracks.size, sweeps.entries.distinct tracks.distinct,
    fun entry member active => ?_, fun name record now recorded timed live => ?_, ?_,
    fun first member second other active busy less => ?_,
    fun first member second other active busy equal below =>
      tracks.tied first (before member active) second (before other busy) active busy equal below⟩
  · rw [recordOf_kept (fun uses => unused _ uses.1) (sweeps.not_evicts _)]
    exact tracks.held entry (before member active) active
  · obtain ⟨recorded, -⟩ := recordOf_before (fun uses => unused name uses.1) recorded
    obtain ⟨callTime, timed⟩ := forall_mem_cons.mp timed
    obtain ⟨entry, member, active, same⟩ := tracks.live name record now recorded timed live
    have held := tracks.held entry member active
    rw [recordOf_congr same, recorded] at held
    cases held
    exact ⟨entry, sweeps.entries.keeps member (Nat.lt_of_le_of_lt callTime live), active, same⟩
  · rw [sweeps.clock]
    exact ⟨tracks.clocked.1, fun entry member active =>
      tracks.clocked.2 entry (before member active) active⟩
  · rw [lastUse_kept (unused _), lastUse_kept (unused _)]
    exact tracks.ordered first (before member active) second (before other busy) active busy less

theorem tick_le (clock : Nat) : tick clock ≤ 2 ^ 64 - 1 := Nat.min_le_right _ _

variable {clock : Nat}

theorem le_tick (bounded : clock ≤ 2 ^ 64 - 1) : clock ≤ tick clock :=
  Nat.le_min.mpr ⟨Nat.le_succ clock, bounded⟩

/-- Until it stops the clock moves. -/
theorem lt_tick (runs : tick clock < 2 ^ 64 - 1) : clock < tick clock := by
  unfold tick saturatingAdd at runs ⊢
  omega

section Placing

variable {old placed : CacheEntry} (tracks : Tracks earlier)
  (places : Places call.now.toNat (cacheAfter earlier) (cacheAfter (call :: earlier)) old placed)
include tracks places

theorem Tracks.placing (succeeds : (replyTo call earlier).succeeds = true)
    (named : equalName call.operation.name placed.name = true)
    (recorded : recordOf (call :: earlier) placed.name = some placed.record) :
    Tracks (call :: earlier) := by
  have unused : ∀ {name}, equalName name placed.name = false → ¬Uses call earlier name :=
    fun differs uses => Bool.eq_false_iff.mp differs
      (equalName_trans (equalName_symm uses.2) named)
  have latest : lastUse (call :: earlier) placed.name = earlier.length + 1 :=
    lastUse_used ⟨succeeds, named⟩
  refine ⟨places.length.trans tracks.size, places.distinct tracks.distinct,
    fun entry member active => ?_, fun name record now found timed live => ?_, ?_,
    fun first member second other active busy less => ?_,
    fun first member second other active busy equal below => ?_⟩
  · obtain rfl | ⟨stayed, differs⟩ := places.before member active
    · exact recorded
    · rw [recordOf_kept (fun uses => unused differs uses.1)
        fun evicts => evicts.2 ⟨entry, member, active, equalName_refl _⟩]
      exact tracks.held entry stayed active
  · by_cases same : equalName placed.name name = true
    · exact ⟨placed, places.placed_mem, places.active, same⟩
    · have differs : equalName name placed.name = false :=
        Bool.eq_false_iff.mpr fun equal => same (equalName_symm equal)
      obtain ⟨found, kept⟩ := recordOf_before (fun uses => unused differs uses.1) found
      obtain ⟨callTime, timed⟩ := forall_mem_cons.mp timed
      obtain ⟨entry, member, active, equal⟩ := tracks.live name record now found timed live
      have held := tracks.held entry member active
      rw [recordOf_congr equal, found] at held
      cases held
      by_contra gone
      refine kept ⟨⟨entry, member, active, Nat.lt_of_le_of_lt callTime live, equal⟩, ?_⟩
      exact gone
  · rw [places.clock]
    refine ⟨tick_le _, fun entry member active => ?_⟩
    obtain rfl | ⟨stayed, -⟩ := places.before member active
    · exact places.used.le
    · exact (tracks.clocked.2 entry stayed active).trans (le_tick tracks.clocked.1)
  · obtain rfl | ⟨stayed, differs⟩ := places.before member active
    · obtain rfl | ⟨otherStayed, -⟩ := places.before other busy
      · exact absurd less (Nat.lt_irrefl _)
      · have earlierUse := (tracks.clocked.2 second otherStayed busy).trans
          (le_tick tracks.clocked.1)
        rw [places.used] at less
        exact absurd less (Nat.not_lt.mpr earlierUse)
    · rw [lastUse_kept (unused differs)]
      obtain rfl | ⟨otherStayed, otherDiffers⟩ := places.before other busy
      · exact latest ▸ Nat.lt_succ_of_le (lastUse_le earlier first.name)
      · rw [lastUse_kept (unused otherDiffers)]
        exact tracks.ordered first stayed second otherStayed active busy less
  · obtain rfl | ⟨stayed, -⟩ := places.before member active
    · obtain rfl | ⟨otherStayed, -⟩ := places.before other busy
      · rfl
      · have earlierUse := tracks.clocked.2 second otherStayed busy
        rw [← equal, places.used] at earlierUse
        exact absurd (lt_tick (places.used ▸ below)) (Nat.not_lt.mpr earlierUse)
    · obtain rfl | ⟨otherStayed, -⟩ := places.before other busy
      · have earlierUse := tracks.clocked.2 first stayed active
        rw [equal, places.used] at earlierUse
        rw [equal, places.used] at below
        exact absurd (lt_tick below) (Nat.not_lt.mpr earlierUse)
      · exact tracks.tied first stayed second otherStayed active busy equal below

end Placing

theorem Tracks.step (tracks : Tracks earlier)
    (valid : encodedNameLength call.operation.name ≠ none) : Tracks (call :: earlier) := by
  obtain ⟨sweeps, fails⟩ | ⟨old, placed, places, succeeds, named, record⟩ |
    ⟨old, places, succeeds, named, live, looks⟩ := perform_does tracks.distinct call valid
  · exact tracks.sweeps sweeps fails
  · refine tracks.placing places succeeds named ?_
    rw [recordOf, if_pos ⟨⟨succeeds, named⟩, record ▸ rfl⟩, record]
  · refine tracks.placing places succeeds named ?_
    have kept : ¬Evicts call earlier old.name := fun evicts => evicts.2
      ⟨_, places.placed_mem, places.active, equalName_refl _⟩
    show recordOf (call :: earlier) old.name = some old.record
    rw [recordOf_kept (fun uses => by rw [looks] at uses; cases uses.2) kept]
    exact tracks.held old places.old_mem places.active

end Steps

theorem Proper.tail (proper : Proper (call :: earlier)) : Proper earlier where
  valid _ member := proper.valid _ (mem_cons_of_mem _ member)
  timed := (pairwise_cons.mp proper.timed).2

theorem tracks_of_proper (proper : Proper history) : Tracks history := by
  induction history with
  | nil => exact tracks_nil
  | cons call earlier hypothesis =>
    exact (hypothesis proper.tail).step (proper.valid call mem_cons_self)

/-! ### Evictions -/

/-- A dropped record made room for the one that is stored. -/
theorem evicts_room (tracks : Tracks earlier) (valid : encodedNameLength call.operation.name ≠ none)
    {name : Bytes} (evicts : Evicts call earlier name) : ∃ record old, call.record = some record ∧
      old ∈ (cacheAfter earlier).entries ∧ old.active = true ∧ equalName old.name name = true ∧
      old.lastUsed < 2 ^ 64 - 1 ∧
      ∀ entry ∈ (cacheAfter earlier).entries, entry.active = true ∧
        call.now.toNat < entry.expiresAt ∧ equalName entry.name call.operation.name = false ∧
        old.lastUsed ≤ entry.lastUsed := by
  obtain ⟨⟨entry, member, active, live, same⟩, gone⟩ := evicts
  obtain ⟨sweeps, -⟩ | ⟨old, placed, places, -, named, record⟩ | ⟨old, places, -, -, oldLive, -⟩ :=
    perform_does tracks.distinct call valid
  · exact absurd ⟨entry, sweeps.entries.keeps member live, active, same⟩ gone
  · rcases places.keeps member live with stays | rfl
    · exact absurd ⟨entry, stays, active, same⟩ gone
    · have differs : equalName entry.name placed.name = false := by
        exact Bool.eq_false_iff.mpr fun equal => gone ⟨placed, places.placed_mem, places.active,
          equalName_trans (equalName_symm equal) same⟩
      obtain ⟨below, others⟩ := places.room active live differs
      refine ⟨placed.record, entry, record, member, active, same, below, fun other otherMember => ?_⟩
      obtain ⟨busy, otherLive, otherDiffers, least⟩ := others other otherMember
      exact ⟨busy, otherLive, Bool.eq_false_iff.mpr fun equal => Bool.eq_false_iff.mp otherDiffers
        (equalName_trans equal named), least⟩
  · rcases places.keeps member live with stays | rfl
    · exact absurd ⟨entry, stays, active, same⟩ gone
    · exact absurd ⟨_, places.placed_mem, places.active, same⟩ gone

/-! ### Answers -/

/-- What a record answers at a time. -/
def Record.outcomeAt (record : Record) (now : Nat) : Option CachedOutcome :=
  if now < record.expiresAt then
    some (match record.outcome with
      | .address address => .answer { address, ttlRemaining := record.expiresAt - now }
      | .nameError => .nameError (record.expiresAt - now))
  else none

/-- The address a record answers at a time. -/
def Record.addressAt (record : Record) (now : Nat) : Option CachedA :=
  if now < record.expiresAt then
    match record.outcome with
    | .address address => some { address, ttlRemaining := record.expiresAt - now }
    | .nameError => none
  else none

/-- A time to live has 32 bits. -/
theorem recordOf_bounded {name : Bytes} {record : Record}
    (recorded : recordOf history name = some record) :
    ∃ call ∈ history, record.expiresAt ≤ call.now.toNat + (2 ^ 32 - 1) := by
  induction history with
  | nil => cases recorded
  | cons call earlier hypothesis =>
    rw [recordOf] at recorded
    split at recorded
    · refine ⟨call, mem_cons_self, ?_⟩
      obtain ⟨operation, now⟩ := call
      cases operation with
      | storeCachedA stored address ttl =>
        cases recorded
        have bound := ttl.toNat_lt
        exact (Nat.min_le_left _ _).trans (Nat.add_le_add_left (Nat.le_pred_of_lt bound) _)
      | storeCachedNameError stored ttl =>
        cases recorded
        have bound := ttl.toNat_lt
        exact (Nat.min_le_left _ _).trans (Nat.add_le_add_left (Nat.le_pred_of_lt bound) _)
      | lookupCachedOutcome _ => cases recorded
      | lookupCachedA _ => cases recorded
    · split at recorded
      · cases recorded
      · obtain ⟨call, member, bound⟩ := hypothesis recorded
        exact ⟨call, mem_cons_of_mem _ member, bound⟩

section Answers

variable {call : Call} {earlier : List Call} (proper : Proper (call :: earlier)) {name : Bytes}
include proper

theorem proper_le {other : Call} (member : other ∈ earlier) :
    other.now.toNat ≤ call.now.toNat :=
  UInt64.le_iff_toNat_le.mp ((pairwise_cons.mp proper.timed).1 other member)

/-- A record that is still good is in the cache. -/
theorem entry_of_record {record : Record} (recorded : recordOf earlier name = some record)
    (live : call.now.toNat < record.expiresAt) : ∃ entry ∈ (cacheAfter earlier).entries,
      entry.active = true ∧ equalName entry.name name = true ∧ entry.record = record := by
  have tracks := tracks_of_proper proper.tail
  obtain ⟨entry, member, active, same⟩ := tracks.live name record call.now.toNat recorded
    (fun other earlier => proper_le proper earlier) live
  have held := tracks.held entry member active
  rw [recordOf_congr same, recorded] at held
  exact ⟨entry, member, active, same, (Option.some.inj held).symm⟩

theorem remaining_eq (recorded : recordOf earlier name = some entry.record) :
    remaining call.now.toNat entry = entry.expiresAt - call.now.toNat := by
  obtain ⟨other, member, bound⟩ := recordOf_bounded recorded
  have time := proper_le proper member
  have same : entry.record.expiresAt = entry.expiresAt := rfl
  exact Nat.min_eq_left (by omega)

theorem replyTo_outcome (lookup : call.operation = .lookupCachedOutcome name) :
    replyTo call earlier =
      .outcome ((recordOf earlier name).bind fun record => record.outcomeAt call.now.toNat) := by
  have tracks := tracks_of_proper proper.tail
  have valid := proper.valid call mem_cons_self
  rw [lookup] at valid
  obtain ⟨operation, now⟩ := call
  cases lookup
  have replied : replyTo ⟨.lookupCachedOutcome name, now⟩ earlier =
      .outcome (lookupCachedOutcome (cacheAfter earlier) name now.toNat).1 := rfl
  rw [replied, @lookupCachedOutcome_eq _ name _ valid]
  refine congrArg Reply.outcome ?_
  obtain ⟨missed, -, refused⟩ | ⟨old, found, member, active, live, same, -⟩ :=
    @lookup_does _ now.toNat tracks.distinct fun entry => equalName entry.name name
  · rw [missed]
    rcases recorded : recordOf earlier name with - | record
    · rfl
    · refine (if_neg fun live => ?_).symm
      obtain ⟨entry, member, active, same, rfl⟩ := entry_of_record proper recorded live
      exact Bool.eq_false_iff.mp (refused entry member active live) same
  · have recorded : recordOf earlier name = some old.record :=
      recordOf_congr same ▸ tracks.held old member active
    have left := remaining_eq proper recorded
    rw [found, recorded]
    refine Eq.trans ?_ (if_pos live).symm
    dsimp only [Option.map_some] at left ⊢
    rw [left]
    unfold CacheEntry.record
    dsimp only
    split <;> rfl

theorem replyTo_address (lookup : call.operation = .lookupCachedA name) :
    replyTo call earlier =
      .address ((recordOf earlier name).bind fun record => record.addressAt call.now.toNat) := by
  have tracks := tracks_of_proper proper.tail
  have valid := proper.valid call mem_cons_self
  rw [lookup] at valid
  obtain ⟨operation, now⟩ := call
  cases lookup
  have replied : replyTo ⟨.lookupCachedA name, now⟩ earlier =
      .address (lookupCachedA (cacheAfter earlier) name now.toNat).1 := rfl
  rw [replied, @lookupCachedA_eq _ name _ valid]
  refine congrArg Reply.address ?_
  obtain ⟨missed, -, refused⟩ | ⟨old, found, member, active, live, accepted, -⟩ :=
    @lookup_does _ now.toNat tracks.distinct
      fun entry => equalName entry.name name && !entry.negative
  · rw [missed]
    rcases recorded : recordOf earlier name with - | record
    · rfl
    · refine Eq.symm (Option.eq_none_iff_forall_ne_some.mpr fun cached answered => ?_)
      rw [Option.bind_some] at answered
      unfold Record.addressAt at answered
      split at answered
      · rename_i live
        obtain ⟨entry, member, active, same, rfl⟩ := entry_of_record proper recorded live
        have negative := refused entry member active live
        rw [same, Bool.true_and, Bool.not_eq_false'] at negative
        have outcome : entry.record.outcome = .nameError := if_pos negative
        rw [outcome] at answered
        cases answered
      · cases answered
  · rw [Bool.and_eq_true, Bool.not_eq_true'] at accepted
    have recorded : recordOf earlier name = some old.record :=
      recordOf_congr accepted.1 ▸ tracks.held old member active
    have left := remaining_eq proper recorded
    have outcome : old.record.outcome = .address old.address :=
      if_neg (Bool.eq_false_iff.mp accepted.2)
    rw [found, recorded]
    refine Eq.trans ?_ (if_pos live).symm
    rw [outcome]
    exact congrArg some (congrArg (CachedA.mk old.address) left)

end Answers

/-- The text of a name of one letter. -/
def letterName (letter : UInt8) : Bytes := [letter]

/-- Five names for four entries: the fifth store drops the second name, the first was hit since. -/
def fullHistory : List Call :=
  [⟨.storeCachedA (letterName 0x65) {} 60, 5⟩, ⟨.lookupCachedOutcome (letterName 0x41), 4⟩,
    ⟨.storeCachedNameError (letterName 0x64) 60, 3⟩, ⟨.storeCachedA (letterName 0x63) {} 60, 2⟩,
    ⟨.storeCachedA (letterName 0x62) {} 60, 1⟩, ⟨.storeCachedA (letterName 0x61) {} 60, 0⟩]

end ZigOs.Dns
