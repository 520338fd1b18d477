/-
This file is about sums of bytes that are read as words of two bytes, the first byte the
high one, and about folding a carry back in. Folding keeps a sum modulo one less than the
base, and one changed bit moves a sum by a power of two, which is never a multiple of that
modulus: a sum that is kept modulo it shows every change of a single bit.
-/

import Mathlib.Data.Nat.ModEq
import Mathlib.Tactic.Ring

namespace WordSum

open List

/-- The sum of the words; a last byte without a partner is a high one. -/
def wordSum : List UInt8 → Nat
  | high :: low :: rest => high.toNat * 2 ^ 8 + low.toNat + wordSum rest
  | [last] => last.toNat * 2 ^ 8
  | [] => 0

theorem wordSum_append {front back : List UInt8} (even : front.length % 2 = 0) :
    wordSum (front ++ back) = wordSum front + wordSum back := by
  fun_induction wordSum front with
  | case1 high low rest hypothesis =>
    rw [length_cons, length_cons] at even
    show high.toNat * 2 ^ 8 + low.toNat + wordSum (rest ++ back) = _
    rw [hypothesis (by omega)]
    ring
  | case2 last => cases even
  | case3 => exact (Nat.zero_add _).symm

/-! ### Folding carries -/

section Folding

variable {bits value : Nat}

theorem fold_modEq (bits value : Nat) :
    value % 2 ^ bits + value / 2 ^ bits ≡ value [MOD 2 ^ bits - 1] := by
  have unit : 1 ≡ 2 ^ bits [MOD 2 ^ bits - 1] :=
    (Nat.modEq_iff_dvd' (Nat.one_le_two_pow)).mpr (Nat.dvd_refl _)
  have carry : 1 * (value / 2 ^ bits) ≡ 2 ^ bits * (value / 2 ^ bits) [MOD 2 ^ bits - 1] :=
    unit.mul_right _
  rw [Nat.one_mul] at carry
  conv_rhs => rw [← Nat.mod_add_div value (2 ^ bits)]
  exact carry.add_left _

theorem fold_pos (positive : 0 < value) : 0 < value % 2 ^ bits + value / 2 ^ bits := by
  rcases Nat.lt_or_ge value (2 ^ bits) with small | large
  · rw [Nat.mod_eq_of_lt small]
    exact Nat.add_pos_left positive _
  · exact Nat.add_pos_right _ (Nat.div_pos large (Nat.two_pow_pos bits))

end Folding

/-! ### One changed bit -/

/-- The sums differ by the worth of one bit of a word. -/
def Off (first second : Nat) : Prop :=
  ∃ bit < 16, first = second + 2 ^ bit ∨ second = first + 2 ^ bit

variable {first second : Nat}

theorem Off.add_left (off : Off first second) (value : Nat) :
    Off (value + first) (value + second) := by
  obtain ⟨bit, small, more | less⟩ := off
  · exact ⟨bit, small, .inl (by rw [more, Nat.add_assoc])⟩
  · exact ⟨bit, small, .inr (by rw [less, Nat.add_assoc])⟩

theorem Off.add_right (off : Off first second) (value : Nat) :
    Off (first + value) (second + value) := by
  rw [Nat.add_comm first, Nat.add_comm second]
  exact off.add_left value

/-- The worth of a bit is no multiple of the modulus. -/
theorem Off.not_modEq (off : Off first second) : ¬first ≡ second [MOD 2 ^ 16 - 1] := by
  have worth : ∀ bit < 16, ¬2 ^ bit ≡ 0 [MOD 2 ^ 16 - 1] := by decide
  obtain ⟨bit, small, rfl | rfl⟩ := off
  · exact fun same => worth bit small (Nat.ModEq.add_left_cancel' second same)
  · exact fun same => worth bit small (Nat.ModEq.add_left_cancel' first same.symm)

/-- The bytes with one bit changed. -/
def flipBit (bytes : List UInt8) (index bit : Nat) : List UInt8 :=
  bytes.modify index (· ^^^ UInt8.ofNat (2 ^ bit))

theorem flip_off : ∀ {bit : Nat} (byte : UInt8), bit < 8 →
    (byte ^^^ UInt8.ofNat (2 ^ bit)).toNat = byte.toNat + 2 ^ bit ∨
      byte.toNat = (byte ^^^ UInt8.ofNat (2 ^ bit)).toNat + 2 ^ bit := by
  have all : ∀ bit : Fin 8, ∀ byte : Fin 256,
      (UInt8.ofFin byte ^^^ UInt8.ofNat (2 ^ bit.val)).toNat = byte.val + 2 ^ bit.val ∨
        byte.val = (UInt8.ofFin byte ^^^ UInt8.ofNat (2 ^ bit.val)).toNat + 2 ^ bit.val := by
    decide +kernel
  intro bit byte small
  exact all ⟨bit, small⟩ byte.toFin

variable {bytes : List UInt8} {index bit : Nat}

theorem wordSum_flipBit (inside : index < bytes.length)
    (small : bit < 8) : Off (wordSum (flipBit bytes index bit)) (wordSum bytes) := by
  have high (byte : UInt8) : Off ((byte ^^^ UInt8.ofNat (2 ^ bit)).toNat * 2 ^ 8)
      (byte.toNat * 2 ^ 8) := by
    refine ⟨bit + 8, by omega, ?_⟩
    rw [Nat.pow_add]
    have changed := flip_off byte small
    omega
  have low (byte : UInt8) : Off (byte ^^^ UInt8.ofNat (2 ^ bit)).toNat byte.toNat :=
    ⟨bit, by omega, flip_off byte small⟩
  fun_induction wordSum bytes generalizing index with
  | case1 first second rest hypothesis =>
    rcases index with _ | _ | index
    · exact ((high first).add_right second.toNat).add_right (wordSum rest)
    · exact ((low second).add_left (first.toNat * 2 ^ 8)).add_right (wordSum rest)
    · rw [length_cons, length_cons] at inside
      exact (hypothesis (by omega)).add_left (first.toNat * 2 ^ 8 + second.toNat)
  | case2 last =>
    obtain rfl : index = 0 := Nat.lt_one_iff.mp inside
    exact high last
  | case3 => exact absurd inside (Nat.not_lt_zero index)

theorem flipBit_length (bytes : List UInt8) (index bit : Nat) :
    (flipBit bytes index bit).length = bytes.length :=
  length_modify ..

/-- Bytes without the changed one are the same. -/
theorem flipBit_getElem? {bytes : List UInt8} {index bit other : Nat} (apart : other ≠ index) :
    (flipBit bytes index bit)[other]? = bytes[other]? := by
  unfold flipBit
  rw [getElem?_modify_ne _ _ apart.symm]

variable {length : Nat}

/-- A part with the changed byte is the part with that byte changed. -/
theorem slice_flipBit (after : first ≤ index) : ((flipBit bytes index bit).drop first).take length =
      flipBit ((bytes.drop first).take length) (index - first) bit := by
  refine ext_getElem? fun position => ?_
  unfold flipBit
  simp only [getElem?_take, getElem?_drop, getElem?_modify]
  split
  · have same : index = first + position ↔ index - first = position := by omega
    simp only [same]
  · rfl

/-- A part without the changed byte is the same. -/
theorem slice_flipBit_apart (apart : index < first ∨ first + length ≤ index) :
    ((flipBit bytes index bit).drop first).take length = (bytes.drop first).take length := by
  refine ext_getElem? fun position => ?_
  simp only [getElem?_take, getElem?_drop]
  split
  · exact flipBit_getElem? (by omega)
  · rfl

end WordSum
