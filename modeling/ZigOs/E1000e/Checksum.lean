/-
This file says what the checksums of frames check. A checksum is zero exactly where the sum
of the words it covers is a positive multiple of the modulus; writing the complement of a sum
into a field that was zero makes it one, and a single changed bit never leaves it one.
-/

import ZigOs.E1000e.Frames
import ZigOs.Lib.WordSum

namespace ZigOs.E1000e

open WordSum

theorem readNetwork16_lt (bytes : Bytes) (offset : Nat) : readNetwork16 bytes offset < 2 ^ 16 := by
  have high := (bytes.getD offset 0).toNat_lt
  have low := (bytes.getD (offset + 1) 0).toNat_lt
  unfold readNetwork16 byteAt
  omega

/-! ### Sums -/

section Sums

variable {sum : Nat} {bytes : Bytes}

theorem addChecksumBytes_modEq (sum : Nat) (bytes : Bytes) :
    addChecksumBytes sum bytes ≡ sum + wordSum bytes [MOD 2 ^ 16 - 1] := by
  fun_induction addChecksumBytes sum bytes with
  | case1 sum high low rest added hypothesis =>
    refine hypothesis.trans (((fold_modEq 16 added).add_right _).trans ?_)
    rw [wordSum, ← Nat.add_assoc]
  | case2 sum last => exact Nat.ModEq.refl _
  | case3 sum => exact Nat.ModEq.refl _

theorem addChecksumBytes_pos (positive : 0 < sum + wordSum bytes) :
    0 < addChecksumBytes sum bytes := by
  fun_induction addChecksumBytes sum bytes with
  | case1 sum high low rest added hypothesis =>
    rw [wordSum] at positive
    refine hypothesis ?_
    rcases Nat.eq_zero_or_pos added with zero | some
    · omega
    · exact Nat.add_pos_left (fold_pos some) _
  | case2 sum last => exact positive
  | case3 sum => exact positive

/-- A sum never leaves its 32 bits. -/
theorem addChecksumBytes_le (fits : sum < 2 ^ 32) :
    addChecksumBytes sum bytes ≤ max sum (2 ^ 17) + 2 ^ 16 := by
  fun_induction addChecksumBytes sum bytes with
  | case1 sum high low rest added hypothesis =>
    have highFits := high.toNat_lt
    have lowFits := low.toNat_lt
    have folded : added % 2 ^ 16 + added / 2 ^ 16 ≤ 2 ^ 17 := by omega
    have later := hypothesis (by omega)
    omega
  | case2 sum last =>
    have lastFits := last.toNat_lt
    omega
  | case3 sum => omega

theorem foldCarries_modEq (rounds sum : Nat) : foldCarries rounds sum ≡ sum [MOD 2 ^ 16 - 1] := by
  fun_induction foldCarries rounds sum with
  | case1 sum => exact Nat.ModEq.refl _
  | case2 rounds sum small => exact Nat.ModEq.refl _
  | case3 rounds sum large hypothesis =>
    exact hypothesis.trans (fold_modEq 16 sum)

theorem foldCarries_pos {rounds : Nat} (positive : 0 < sum) : 0 < foldCarries rounds sum := by
  fun_induction foldCarries rounds sum with
  | case1 sum => exact positive
  | case2 rounds sum small => exact positive
  | case3 rounds sum large hypothesis => exact hypothesis (fold_pos positive)

theorem finalizeChecksum_eq_zero (fits : sum < 2 ^ 32) :
    finalizeChecksum sum = 0 ↔ 0 < sum ∧ sum ≡ 0 [MOD 2 ^ 16 - 1] := by
  have small := foldCarries_lt fits
  have same := foldCarries_modEq 3 sum
  unfold finalizeChecksum
  constructor
  · intro zero
    have full : foldCarries 3 sum = 2 ^ 16 - 1 := by omega
    rw [full] at same
    refine ⟨Nat.pos_of_ne_zero fun empty => ?_, same.symm.trans ((Nat.modEq_zero_iff_dvd).mpr
      (Nat.dvd_refl _))⟩
    rw [empty] at full
    cases full
  · rintro ⟨positive, multiple⟩
    have folded := @foldCarries_pos sum 3 positive
    obtain ⟨factor, product⟩ := Nat.modEq_zero_iff_dvd.mp (same.trans multiple)
    have one : factor = 1 := by
      rcases factor with _ | _ | factor
      · omega
      · rfl
      · omega
    rw [product, one]
    rfl

theorem finalizeChecksum_lt (sum : Nat) : finalizeChecksum sum < 2 ^ 16 := by
  unfold finalizeChecksum
  omega

/-- A sum and its checksum add up to a multiple of the modulus. -/
theorem add_finalizeChecksum (fits : sum < 2 ^ 32) :
    sum + finalizeChecksum sum ≡ 0 [MOD 2 ^ 16 - 1] := by
  have small := foldCarries_lt fits
  have whole : foldCarries 3 sum + finalizeChecksum sum = 2 ^ 16 - 1 := by
    unfold finalizeChecksum
    omega
  refine ((foldCarries_modEq 3 sum).symm.add_right _).trans ?_
  rw [whole]
  exact Nat.modEq_zero_iff_dvd.mpr (Nat.dvd_refl _)

end Sums

/-! ### What the checksums cover -/

section Covered

variable {bytes : Bytes}

theorem headerSum_lt : addChecksumBytes 0 bytes < 2 ^ 32 := by
  have bound := @addChecksumBytes_le 0 bytes (by decide)
  omega

theorem headerSum_modEq (bytes : Bytes) : addChecksumBytes 0 bytes ≡ wordSum bytes [MOD 2 ^ 16 - 1] := by
  have same := addChecksumBytes_modEq 0 bytes
  rwa [Nat.zero_add] at same

theorem wordSum_of_internetChecksum (zero : internetChecksum bytes = 0) :
    wordSum bytes ≡ 0 [MOD 2 ^ 16 - 1] :=
  (headerSum_modEq bytes).symm.trans ((finalizeChecksum_eq_zero headerSum_lt).mp zero).2

theorem internetChecksum_of_wordSum (positive : 0 < wordSum bytes)
    (multiple : wordSum bytes ≡ 0 [MOD 2 ^ 16 - 1]) : internetChecksum bytes = 0 :=
  (finalizeChecksum_eq_zero headerSum_lt).mpr
    ⟨addChecksumBytes_pos (by rwa [Nat.zero_add]), (headerSum_modEq bytes).trans multiple⟩

theorem wordSum_add_internetChecksum (bytes : Bytes) :
    wordSum bytes + internetChecksum bytes ≡ 0 [MOD 2 ^ 16 - 1] :=
  ((headerSum_modEq bytes).symm.add_right _).trans (add_finalizeChecksum headerSum_lt)

/-- The sum behind the checksum of a datagram or a segment. -/
def coveredSum (protocol : Nat) (source destination packet : Bytes) : Nat :=
  wordSum source + wordSum destination + protocol + packet.length + wordSum packet

variable {protocol : Nat} {source destination packet : Bytes} (protocolFits : protocol < 2 ^ 8)
  (packetFits : packet.length < 2 ^ 16)

theorem transportSum_modEq (protocol : Nat) (source destination packet : Bytes) :
    addChecksumBytes (addChecksumBytes (addChecksumBytes 0 source) destination + protocol +
      packet.length) packet ≡ coveredSum protocol source destination packet [MOD 2 ^ 16 - 1] := by
  refine (addChecksumBytes_modEq _ packet).trans (Nat.ModEq.add_right _ ?_)
  refine Nat.ModEq.add_right _ (Nat.ModEq.add_right _ ?_)
  exact (addChecksumBytes_modEq _ destination).trans ((headerSum_modEq source).add_right _)

include protocolFits packetFits

theorem transportSum_lt : addChecksumBytes (addChecksumBytes (addChecksumBytes 0 source)
    destination + protocol + packet.length) packet < 2 ^ 32 := by
  have first := @addChecksumBytes_le 0 source (by decide)
  have second := @addChecksumBytes_le (addChecksumBytes 0 source) destination headerSum_lt
  have third := @addChecksumBytes_le (addChecksumBytes (addChecksumBytes 0 source) destination +
    protocol + packet.length) packet (by omega)
  omega

theorem coveredSum_of_transportChecksum
    (zero : transportChecksum protocol source destination packet = 0) :
    coveredSum protocol source destination packet ≡ 0 [MOD 2 ^ 16 - 1] :=
  (transportSum_modEq protocol source destination packet).symm.trans
    ((finalizeChecksum_eq_zero (transportSum_lt protocolFits packetFits)).mp zero).2

theorem transportChecksum_of_coveredSum (positive : 0 < protocol)
    (multiple : coveredSum protocol source destination packet ≡ 0 [MOD 2 ^ 16 - 1]) :
    transportChecksum protocol source destination packet = 0 :=
  (finalizeChecksum_eq_zero (transportSum_lt protocolFits packetFits)).mpr
    ⟨addChecksumBytes_pos (by omega),
      (transportSum_modEq protocol source destination packet).trans multiple⟩

theorem coveredSum_add_transportChecksum : coveredSum protocol source destination packet +
      transportChecksum protocol source destination packet ≡ 0 [MOD 2 ^ 16 - 1] :=
  ((transportSum_modEq protocol source destination packet).symm.add_right _).trans
    (add_finalizeChecksum (transportSum_lt protocolFits packetFits))

end Covered

end ZigOs.E1000e
