/-
This file models the names and addresses of the domain name system. A name is kept as
text, its labels with dots between them, and two names are the same when their text is,
up to the case of ASCII letters.
-/

import ZigOs.Error

namespace ZigOs.Dns

abbrev maximumNameBytes : Nat := 253

abbrev hyphen : UInt8 := 0x2D
abbrev dot : UInt8 := 0x2E

/-- The four bytes of an address. -/
structure Address where
  first : UInt8 := 0
  second : UInt8 := 0
  third : UInt8 := 0
  fourth : UInt8 := 0
  deriving DecidableEq, Repr

/-! ### Comparing names -/

def asciiLower (byte : UInt8) : UInt8 := if 0x41 ≤ byte ∧ byte ≤ 0x5A then byte + 0x20 else byte

def equalName (left right : Bytes) : Bool :=
  left.length == right.length &&
    (left.zip right).all fun pair => asciiLower pair.1 == asciiLower pair.2

theorem equalName_iff {left right : Bytes} :
    equalName left right = true ↔ left.map asciiLower = right.map asciiLower := by
  induction left generalizing right with
  | nil => cases right <;> simp [equalName]
  | cons byte rest hypothesis =>
    cases right with
    | nil => simp [equalName]
    | cons other others =>
      have tail := @hypothesis others
      simp only [equalName, Bool.and_eq_true, beq_iff_eq] at tail
      simp only [equalName, List.length_cons, List.zip_cons_cons, List.all_cons, Bool.and_eq_true,
        beq_iff_eq, List.map_cons, List.cons.injEq, Nat.succ.injEq]
      rw [← tail]
      tauto

theorem equalName_refl (name : Bytes) : equalName name name = true := equalName_iff.mpr rfl

theorem equalName_symm {left right : Bytes} (equal : equalName left right = true) :
    equalName right left = true :=
  equalName_iff.mpr (equalName_iff.mp equal).symm

theorem equalName_trans {left middle right : Bytes} (first : equalName left middle = true)
    (second : equalName middle right = true) : equalName left right = true :=
  equalName_iff.mpr ((equalName_iff.mp first).trans (equalName_iff.mp second))

/-! ### Names that can be asked for -/

def validLabel (label : Bytes) : Bool :=
  label != [] && label.length ≤ 63 && label.head? != some hyphen && label.getLast? != some hyphen &&
    label.all fun byte => (0x61 ≤ byte && byte ≤ 0x7A) || (0x41 ≤ byte && byte ≤ 0x5A) ||
      (0x30 ≤ byte && byte ≤ 0x39) || byte == hyphen

/-- The length of a name on the wire, if it is one that can be asked for. -/
def encodedNameLength (name : Bytes) : Option Nat :=
  if name = [] ∨ maximumNameBytes < name.length ∨ name.head? = some dot ∨
      name.getLast? = some dot then none
  else if (name.splitOn dot).all validLabel then
    some (1 + ((name.splitOn dot).map fun label => 1 + label.length).sum)
  else none

end ZigOs.Dns
