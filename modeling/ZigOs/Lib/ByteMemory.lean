/-
This file is about memory as a function from addresses to bytes. A list of
bytes is stored at an address and is then held there until something is stored
over it. Words are held as eight bytes, the lowest first, and strings up to a
byte of zero.
-/

import Mathlib

namespace ByteMemory

open List

abbrev Memory := Nat → UInt8

/-- Put bytes from an address on. -/
def store (memory : Memory) (address : Nat) (bytes : List UInt8) : Memory := fun place =>
  if address ≤ place then (bytes[place - address]?).getD (memory place) else memory place

/-- So many bytes from an address on. -/
def load (memory : Memory) (address count : Nat) : List UInt8 :=
  (List.range count).map fun index => memory (address + index)

/-- The memory has these bytes from an address on. -/
def Holds (memory : Memory) (address : Nat) (bytes : List UInt8) : Prop :=
  ∀ index byte, bytes[index]? = some byte → memory (address + index) = byte

variable {memory other : Memory} {address place count : Nat} {bytes first second : List UInt8}

/-! ### Storing -/

theorem store_outside (outside : place < address ∨ address + bytes.length ≤ place) :
    store memory address bytes place = memory place := by
  unfold store
  rcases outside with below | behind
  · rw [if_neg (not_le.mpr below)]
  · rw [if_pos (by omega), List.getElem?_eq_none (by omega), Option.getD_none]

theorem store_holds (memory : Memory) (address : Nat) (bytes : List UInt8) :
    Holds (store memory address bytes) address bytes := by
  intro index byte found
  unfold store
  rw [if_pos (Nat.le_add_right _ _), Nat.add_sub_cancel_left, found, Option.getD_some]

theorem Holds.congr (holds : Holds memory address bytes)
    (same : ∀ place, address ≤ place → place < address + bytes.length → other place = memory place) :
    Holds other address bytes := by
  intro index byte found
  have inside := (List.getElem?_eq_some_iff.mp found).1
  rw [same _ (Nat.le_add_right _ _) (Nat.add_lt_add_left inside _)]
  exact holds index byte found

/-- Bytes stay where they are when something is stored elsewhere. -/
theorem Holds.store (holds : Holds memory address bytes)
    (apart : place + first.length ≤ address ∨ address + bytes.length ≤ place) :
    Holds (store memory place first) address bytes :=
  holds.congr fun other lower upper => store_outside (by omega)

theorem holds_append : Holds memory address (first ++ second) ↔
    Holds memory address first ∧ Holds memory (address + first.length) second := by
  constructor
  · refine fun holds => ⟨fun index byte found => ?_, fun index byte found => ?_⟩
    · refine holds index byte ?_
      rw [List.getElem?_append_left (List.getElem?_eq_some_iff.mp found).1, found]
    · rw [Nat.add_assoc]
      refine holds (first.length + index) byte ?_
      rw [List.getElem?_append_right (Nat.le_add_right _ _), Nat.add_sub_cancel_left, found]
  · rintro ⟨left, right⟩ index byte found
    by_cases early : index < first.length
    · rw [List.getElem?_append_left early] at found
      exact left index byte found
    · rw [not_lt] at early
      rw [List.getElem?_append_right early] at found
      have there := right (index - first.length) byte found
      rwa [Nat.add_assoc, Nat.add_sub_cancel' early] at there

theorem Holds.load (holds : Holds memory address bytes) :
    load memory address bytes.length = bytes := by
  refine ext_getElem (by simp [ByteMemory.load]) fun index _ inside => ?_
  simp only [ByteMemory.load, getElem_map, getElem_range]
  exact holds index _ (List.getElem?_eq_getElem inside)

/-! ### Words -/

/-- The lowest bytes of a number, the lowest first. -/
def littleEndian : Nat → Nat → List UInt8
  | 0, _ => []
  | count + 1, value => UInt8.ofNat value :: littleEndian count (value / 256)

/-- The number that such bytes stand for. -/
def ofLittleEndian : List UInt8 → Nat
  | [] => 0
  | byte :: rest => byte.toNat + 256 * ofLittleEndian rest

@[simp] theorem littleEndian_length (count value : Nat) : (littleEndian count value).length = count := by
  induction count generalizing value with
  | zero => rfl
  | succ count hypothesis => rw [littleEndian, length_cons, hypothesis]

theorem ofLittleEndian_littleEndian {count value : Nat} (small : value < 256 ^ count) :
    ofLittleEndian (littleEndian count value) = value := by
  induction count generalizing value with
  | zero =>
    rw [Nat.pow_zero, Nat.lt_one_iff] at small
    rw [small]
    rfl
  | succ count hypothesis =>
    have rest : value / 256 < 256 ^ count := Nat.div_lt_of_lt_mul (by rwa [← Nat.pow_succ'])
    rw [littleEndian, ofLittleEndian, hypothesis rest, UInt8.toNat_ofNat']
    exact Nat.mod_add_div value 256

abbrev wordBytes : Nat := 8

def readWord (memory : Memory) (address : Nat) : Nat := ofLittleEndian (load memory address wordBytes)

/-- The bytes of a list of words. -/
def words (values : List Nat) : List UInt8 := values.flatMap (littleEndian wordBytes)

theorem words_length (values : List Nat) : (words values).length = wordBytes * values.length := by
  induction values with
  | nil => rfl
  | cons value rest hypothesis =>
    unfold words at *
    rw [flatMap_cons, length_append, littleEndian_length, hypothesis,
      length_cons, Nat.mul_succ, Nat.add_comm]

theorem words_append (front back : List Nat) : words (front ++ back) = words front ++ words back :=
  flatMap_append

theorem words_cons (value : Nat) (rest : List Nat) :
    words (value :: rest) = littleEndian wordBytes value ++ words rest := flatMap_cons

theorem readWord_of_holds {value : Nat} {rest : List Nat} (small : value < 2 ^ 64)
    (holds : Holds memory address (words (value :: rest))) : readWord memory address = value := by
  rw [words_cons, holds_append] at holds
  have loaded := holds.1.load
  rw [littleEndian_length] at loaded
  rw [readWord, loaded]
  exact ofLittleEndian_littleEndian small

/-- The words from an address on. -/
def readWords (memory : Memory) (address count : Nat) : List Nat :=
  (List.range count).map fun index => readWord memory (address + wordBytes * index)

theorem readWords_succ (memory : Memory) (address count : Nat) : readWords memory address (count + 1) =
    readWord memory address :: readWords memory (address + wordBytes) count := by
  unfold readWords
  rw [range_succ_eq_map, map_cons, map_map]
  congr 1
  refine map_congr_left fun index _ => ?_
  rw [Function.comp_apply, Nat.mul_succ]
  congr 1
  omega

theorem readWords_of_holds {values rest : List Nat} (small : ∀ value ∈ values, value < 2 ^ 64)
    (holds : Holds memory address (words (values ++ rest))) :
    readWords memory address values.length = values := by
  induction values generalizing address with
  | nil => rfl
  | cons value later hypothesis =>
    rw [cons_append] at holds
    have head := readWord_of_holds (small value mem_cons_self) holds
    rw [words_cons, holds_append, littleEndian_length] at holds
    rw [length_cons, readWords_succ, head,
      hypothesis (fun other member => small other (mem_cons_of_mem _ member)) holds.2]

/-- The words in front of the first zero. -/
def readUntilZero (memory : Memory) : Nat → Nat → Option (List Nat)
  | 0, _ => none
  | fuel + 1, address =>
    if readWord memory address = 0 then some []
    else (readUntilZero memory fuel (address + wordBytes)).map (readWord memory address :: ·)

theorem readUntilZero_of_holds {values rest : List Nat} {fuel : Nat}
    (small : ∀ value ∈ values, value < 2 ^ 64) (nonzero : ∀ value ∈ values, value ≠ 0)
    (enough : values.length < fuel) (holds : Holds memory address (words (values ++ 0 :: rest))) :
    readUntilZero memory fuel address = some values := by
  induction values generalizing address fuel with
  | nil =>
    obtain ⟨fuel, rfl⟩ := Nat.exists_eq_succ_of_ne_zero (Nat.ne_of_gt enough)
    exact if_pos (readWord_of_holds (by decide) holds)
  | cons value later hypothesis =>
    obtain ⟨fuel, rfl⟩ := Nat.exists_eq_succ_of_ne_zero (Nat.ne_of_gt (Nat.zero_lt_of_lt enough))
    rw [cons_append] at holds
    have head := readWord_of_holds (small value mem_cons_self) holds
    rw [words_cons, holds_append, littleEndian_length] at holds
    rw [readUntilZero, head, if_neg (nonzero value mem_cons_self),
      hypothesis (fun other member => small other (mem_cons_of_mem _ member))
        (fun other member => nonzero other (mem_cons_of_mem _ member))
        (Nat.lt_of_succ_lt_succ enough) holds.2, Option.map_some]

/-! ### Strings -/

/-- The bytes in front of the first zero. -/
def readString (memory : Memory) : Nat → Nat → Option (List UInt8)
  | 0, _ => none
  | fuel + 1, address =>
    if memory address = 0 then some []
    else (readString memory fuel (address + 1)).map (memory address :: ·)

theorem readString_of_holds {fuel : Nat} (terminated : (0 : UInt8) ∉ bytes)
    (enough : bytes.length < fuel) (holds : Holds memory address (bytes ++ [0])) :
    readString memory fuel address = some bytes := by
  induction bytes generalizing address fuel with
  | nil =>
    obtain ⟨fuel, rfl⟩ := Nat.exists_eq_succ_of_ne_zero (Nat.ne_of_gt enough)
    exact if_pos (holds 0 0 rfl)
  | cons byte rest hypothesis =>
    obtain ⟨fuel, rfl⟩ := Nat.exists_eq_succ_of_ne_zero (Nat.ne_of_gt (Nat.zero_lt_of_lt enough))
    have head : memory address = byte := holds 0 byte rfl
    rw [cons_append, ← singleton_append, holds_append, length_singleton] at holds
    rw [readString, head, if_neg fun zero : byte = 0 => terminated (zero ▸ mem_cons_self),
      hypothesis (fun member => terminated (mem_cons_of_mem _ member))
        (Nat.lt_of_succ_lt_succ enough) holds.2, Option.map_some]

end ByteMemory
