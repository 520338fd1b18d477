/-
This file says what a compressed name in a message means: a sequence of labels, read by
following the pointers. The decoder finds the text of this sequence and where the bytes
of the name end, whenever the text is short enough and the pointers are few enough. It
never reads outside the message, and it always ends.
-/

import ZigOs.Dns.Message
import ZigOs.Lib.Outcome

namespace ZigOs.Dns

open List Except

/-! ### Parses that end inside the message -/

/-- The parse has a value or refuses. -/
def Settles {Value : Type} (parse : Parse Value) : Prop :=
  ∀ stop, parse = .error stop → stop = .refused

section Settling

variable {Value Next : Type}

theorem settles_ok (value : Value) : Settles (.ok value) := fun _ stopped => by cases stopped

theorem settles_refused : Settles (.error .refused : Parse Value) :=
  fun _ stopped => (Except.error.inj stopped).symm

theorem settles_bind {parse : Parse Value} {next : Value → Parse Next} (first : Settles parse)
    (rest : ∀ value, parse = .ok value → Settles (next value)) : Settles (parse >>= next) := by
  intro stop stopped
  cases outcome : parse with
  | error failure =>
    rw [outcome] at stopped first
    cases stopped
    exact first _ rfl
  | ok value =>
    rw [outcome] at stopped
    exact rest value outcome stop stopped

theorem settles_ite {condition : Prop} [Decidable condition] {yes no : Parse Value}
    (holds : condition → Settles yes) (fails : ¬condition → Settles no) :
    Settles (if condition then yes else no) := by
  split
  · exact holds ‹_›
  · exact fails ‹_›

end Settling

section Reads

variable {message : Bytes} {offset : Nat}

theorem byteAt_of_lt (inside : offset < message.length) :
    byteAt message offset = .ok message[offset] := by
  unfold byteAt
  rw [List.getElem?_eq_getElem inside]

theorem byteAt_ok {byte : UInt8} (read : byteAt message offset = .ok byte) :
    message[offset]? = some byte := by
  unfold byteAt at read
  split at read
  · cases read
    assumption
  · cases read

theorem byteAt_some {byte : UInt8} (found : message[offset]? = some byte) :
    byteAt message offset = .ok byte := by
  unfold byteAt
  rw [found]

theorem byteAt_settles (inside : offset < message.length) : Settles (byteAt message offset) :=
  byteAt_of_lt inside ▸ settles_ok _

theorem readNetwork16_settles (inside : offset + 2 ≤ message.length) :
    Settles (readNetwork16 message offset) :=
  settles_bind (byteAt_settles (by omega)) fun _ _ =>
    settles_bind (byteAt_settles (by omega)) fun _ _ => settles_ok _

theorem readNetwork32_settles (inside : offset + 4 ≤ message.length) :
    Settles (readNetwork32 message offset) :=
  settles_bind (readNetwork16_settles (by omega)) fun _ _ =>
    settles_bind (readNetwork16_settles (by omega)) fun _ _ => settles_ok _

theorem readAddress_settles (inside : offset + 4 ≤ message.length) :
    Settles (readAddress message offset) :=
  settles_bind (byteAt_settles (by omega)) fun _ _ =>
    settles_bind (byteAt_settles (by omega)) fun _ _ =>
      settles_bind (byteAt_settles (by omega)) fun _ _ =>
        settles_bind (byteAt_settles (by omega)) fun _ _ => settles_ok _

theorem sliceAt_of_le {length : Nat} (inside : offset + length ≤ message.length) :
    sliceAt message offset length = .ok ((message.drop offset).take length) := if_pos inside

end Reads

/-! ### What a name means -/

/-- The offset a pointer gives. -/
def pointerOf (high low : UInt8) : Nat := (high &&& 0x3F).toNat * 256 + low.toNat

/-- The labels of the name at an offset, with the number of pointers followed and where the bytes
of the name end. -/
inductive NameAt (message : Bytes) : Nat → Nat → List Bytes → Nat → Prop where
  | root {offset : Nat} (found : message[offset]? = some 0) : NameAt message offset 0 [] (offset + 1)
  | label {offset jumps next : Nat} {length : UInt8} {labels : List Bytes}
    (found : message[offset]? = some length) (plain : length &&& 0xC0 = 0) (nonzero : length ≠ 0)
    (inside : offset + 1 + length.toNat ≤ message.length)
    (rest : NameAt message (offset + 1 + length.toNat) jumps labels next) :
    NameAt message offset jumps ((message.drop (offset + 1)).take length.toNat :: labels) next
  | pointer {offset jumps next : Nat} {high low : UInt8} {labels : List Bytes}
    (found : message[offset]? = some high) (marked : high &&& 0xC0 = 0xC0)
    (second : message[offset + 1]? = some low) (inside : pointerOf high low < message.length)
    (rest : NameAt message (pointerOf high low) jumps labels next) :
    NameAt message offset (jumps + 1) labels (offset + 2)

/-- The text of the labels after what is there already. -/
def joinAfter : Nat → Bytes → List Bytes → Bytes
  | _, text, [] => text
  | count, text, label :: labels =>
    joinAfter (count + 1) ((if count = 0 then text else text ++ [dot]) ++ label) labels

/-- The text of a sequence of labels. -/
def joinLabels (labels : List Bytes) : Bytes := [dot].intercalate labels

variable (count : Nat) (text : Bytes) (labels : List Bytes)

theorem joinAfter_succ :
    joinAfter (count + 1) text labels = text ++ (labels.map (dot :: ·)).flatten := by
  induction labels generalizing count text with
  | nil => simp [joinAfter]
  | cons label rest hypothesis =>
    rw [joinAfter, if_neg (Nat.succ_ne_zero _), hypothesis]
    simp

theorem joinLabels_cons (label : Bytes) (rest : List Bytes) :
    joinLabels (label :: rest) = label ++ (rest.map (dot :: ·)).flatten := by
  induction rest generalizing label with
  | nil => simp [joinLabels]
  | cons next rest hypothesis =>
    have tail := hypothesis next
    rw [joinLabels] at tail ⊢
    rw [intercalate_cons_cons, tail, map_cons, flatten_cons]
    simp

theorem joinAfter_eq : joinAfter 0 [] labels = joinLabels labels := by
  cases labels with
  | nil => rfl
  | cons label rest =>
    rw [joinAfter, joinAfter_succ, if_pos rfl, nil_append, joinLabels_cons]

theorem joinAfter_length_le : text.length ≤ (joinAfter count text labels).length := by
  induction labels generalizing count text with
  | nil => exact Nat.le_refl _
  | cons label rest hypothesis =>
    refine le_trans ?_ (hypothesis _ _)
    split <;> simp only [length_append] <;> omega

/-- A byte whose marks are clear is the length of a label. -/
theorem le_63_of_plain : ∀ {byte : UInt8}, byte &&& 0xC0 = 0 → byte.toNat ≤ 63 := by
  have bytes : ∀ value : Fin 256, (UInt8.ofNat value) &&& 0xC0 = 0 → (UInt8.ofNat value).toNat ≤ 63 := by
    decide +kernel
  intro byte plain
  have this := bytes ⟨byte.toNat, byte.toNat_lt⟩
  rw [UInt8.ofNat_toNat] at this
  exact this plain

variable {decoded : DecodedName} {jumps next : Nat} {labels : List Bytes}

/-! ### The decoder finds what the name means -/

section Decoder

variable {message : Bytes}

variable {fuel : Nat} {walk : Walk}

/-- The state of a decoding after a jump or a label is that of the rest of the name. -/
theorem decodeLoop_sound (done : decodeLoop message fuel walk = .ok decoded) :
    ∃ jumps labels next, NameAt message walk.cursor jumps labels next ∧
      walk.labelCount + labels.length ≠ 0 ∧
      (jumps ≠ 0 → walk.jumpCount + jumps ≤ maximumCompressionJumps) ∧
      (labels ≠ [] → (joinAfter walk.labelCount walk.text labels).length ≤ maximumNameBytes) ∧
      decoded =
        { nextOffset := if walk.jumped then walk.nextOffset else next
          text := joinAfter walk.labelCount walk.text labels } := by
  induction fuel generalizing walk with
  | zero => cases done
  | succ fuel hypothesis =>
    unfold decodeLoop at done
    split at done
    · cases done
    obtain ⟨length, read, done⟩ := of_bind_ok done
    have found := byteAt_ok read
    split at done
    · rename_i marked
      split at done
      · cases done
      obtain ⟨low, readLow, done⟩ := of_bind_ok done
      dsimp only at done
      split at done
      · cases done
      rename_i inside
      obtain ⟨jumps, labels, next, name, some, few, short, same⟩ := hypothesis done
      refine ⟨jumps + 1, labels, walk.cursor + 2,
        .pointer found marked (byteAt_ok readLow) (Nat.lt_of_not_le inside) name, some, fun _ => ?_,
        short, same⟩
      rcases Nat.eq_zero_or_pos jumps with rfl | more
      · omega
      · have counted : (walk.jump (pointerOf length low)).jumpCount = walk.jumpCount + 1 := rfl
        unfold pointerOf at counted
        omega
    split at done
    · cases done
    rename_i plain
    split at done
    · split at done
      · cases done
      rename_i zero some
      cases done
      subst zero
      exact ⟨0, [], walk.cursor + 1, .root found, by simpa using some, fun more => absurd rfl more,
        fun none => absurd rfl none, rfl⟩
    split at done
    · cases done
    rename_i nonzero inside
    split at done
    · cases done
    obtain ⟨label, sliced, done⟩ := of_bind_ok done
    rw [sliceAt_of_le (by omega)] at sliced
    cases sliced
    split at done
    · cases done
    rename_i short
    have whole : ((message.drop (walk.cursor + 1)).take length.toNat).length = length.toNat := by
      rw [length_take, length_drop]
      omega
    obtain ⟨jumps, labels, next, name, some, few, bounded, same⟩ := hypothesis done
    have here : (walk.pass ((message.drop (walk.cursor + 1)).take length.toNat)).cursor =
        walk.cursor + 1 + length.toNat := congrArg (walk.cursor + 1 + ·) whole
    rw [here] at name
    refine ⟨jumps, _ :: labels, next, .label found (of_not_not plain) nonzero (by omega) name,
      Nat.succ_ne_zero _, few, fun _ => ?_, same⟩
    rcases labels with - | ⟨label, labels⟩
    · exact Nat.le_of_not_lt short
    · exact bounded (cons_ne_nil _ _)

/-- What is left of the bounds on a decoding. -/
def Walk.budget (walk : Walk) : Nat :=
  (maximumCompressionJumps - walk.jumpCount) + (maximumNameBytes - walk.text.length)

theorem Walk.joined_length (walk : Walk) (label : Bytes) :
    walk.text.length + label.length ≤ (walk.joined label).length := by
  unfold Walk.joined
  split <;> simp only [length_append] <;> omega

section Steps

variable {fuel : Nat} {walk : Walk}

theorem decodeLoop_root (found : message[walk.cursor]? = some 0) (some : walk.labelCount ≠ 0) :
    decodeLoop message (fuel + 1) walk = .ok
      { nextOffset := if walk.jumped then walk.nextOffset else walk.cursor + 1
        text := walk.text } := by
  obtain ⟨inside, -⟩ := List.getElem?_eq_some_iff.mp found
  unfold decodeLoop
  rw [if_neg (Nat.not_le.mpr inside), byteAt_some found, ok_bind]
  rw [if_neg (by decide), if_neg (by decide), if_pos rfl, if_neg some]

theorem decodeLoop_label {length : UInt8} (found : message[walk.cursor]? = some length)
    (plain : length &&& 0xC0 = 0) (nonzero : length ≠ 0)
    (inside : walk.cursor + 1 + length.toNat ≤ message.length)
    (short : (walk.joined ((message.drop (walk.cursor + 1)).take length.toNat)).length ≤
      maximumNameBytes) :
    decodeLoop message (fuel + 1) walk =
      decodeLoop message fuel
        (walk.pass ((message.drop (walk.cursor + 1)).take length.toNat)) := by
  obtain ⟨before, -⟩ := List.getElem?_eq_some_iff.mp found
  have bound := le_63_of_plain plain
  have longer := walk.joined_length ((message.drop (walk.cursor + 1)).take length.toNat)
  have positive : 0 < length.toNat := Nat.pos_of_ne_zero fun zero =>
    nonzero (UInt8.toNat_inj.mp zero)
  rw [length_take, length_drop] at longer
  conv_lhs => unfold decodeLoop
  rw [if_neg (Nat.not_le.mpr before), byteAt_some found, ok_bind]
  rw [plain, if_neg (by decide), if_neg (not_not.mpr rfl), if_neg nonzero, if_neg (by omega),
    if_neg (by omega), sliceAt_of_le inside, ok_bind, if_neg (Nat.not_lt.mpr short)]

theorem decodeLoop_pointer {high low : UInt8} (found : message[walk.cursor]? = some high)
    (marked : high &&& 0xC0 = 0xC0) (second : message[walk.cursor + 1]? = some low)
    (inside : pointerOf high low < message.length) (few : walk.jumpCount < maximumCompressionJumps) :
    decodeLoop message (fuel + 1) walk =
      decodeLoop message fuel (walk.jump (pointerOf high low)) := by
  obtain ⟨before, -⟩ := List.getElem?_eq_some_iff.mp found
  obtain ⟨room, -⟩ := List.getElem?_eq_some_iff.mp second
  conv_lhs => unfold decodeLoop
  rw [if_neg (Nat.not_le.mpr before), byteAt_some found, ok_bind]
  rw [if_pos marked, if_neg (by omega), byteAt_some second, ok_bind]
  exact if_neg (Nat.not_le.mpr inside)

end Steps

/-- With enough fuel for its bounds the decoder reads the name. -/
theorem decodeLoop_complete {offset : Nat} (name : NameAt message offset jumps labels next)
    (here : walk.cursor = offset) (some : walk.labelCount + labels.length ≠ 0)
    (few : walk.jumpCount + jumps ≤ maximumCompressionJumps)
    (short : (joinAfter walk.labelCount walk.text labels).length ≤ maximumNameBytes)
    (fueled : walk.budget < fuel) : decodeLoop message fuel walk = .ok
      { nextOffset := if walk.jumped then walk.nextOffset else next
        text := joinAfter walk.labelCount walk.text labels } := by
  induction name generalizing fuel walk with
  | root found =>
    obtain ⟨fuel, rfl⟩ := Nat.exists_eq_succ_of_ne_zero (Nat.ne_zero_of_lt fueled)
    subst here
    exact decodeLoop_root found (by simpa using some)
  | @label offset jumps next length labels found plain nonzero inside rest hypothesis =>
    obtain ⟨fuel, rfl⟩ := Nat.exists_eq_succ_of_ne_zero (Nat.ne_zero_of_lt fueled)
    subst here
    have whole : ((message.drop (walk.cursor + 1)).take length.toNat).length = length.toNat := by
      rw [length_take, length_drop]
      omega
    have positive : 0 < length.toNat := Nat.pos_of_ne_zero fun zero =>
      nonzero (UInt8.toNat_inj.mp zero)
    have fits := (joinAfter_length_le (walk.labelCount + 1)
      (walk.joined ((message.drop (walk.cursor + 1)).take length.toNat)) labels).trans short
    have longer := walk.joined_length ((message.drop (walk.cursor + 1)).take length.toNat)
    rw [decodeLoop_label found plain nonzero inside fits]
    refine hypothesis (congrArg (walk.cursor + 1 + ·) whole) ?_ few short ?_
    · show walk.labelCount + 1 + labels.length ≠ 0
      omega
    · have budget : (walk.pass ((message.drop (walk.cursor + 1)).take length.toNat)).budget =
        (maximumCompressionJumps - walk.jumpCount) + (maximumNameBytes -
          (walk.joined ((message.drop (walk.cursor + 1)).take length.toNat)).length) := rfl
      unfold Walk.budget at fueled
      omega
  | @pointer offset jumps next high low labels found marked second inside rest hypothesis =>
    obtain ⟨fuel, rfl⟩ := Nat.exists_eq_succ_of_ne_zero (Nat.ne_zero_of_lt fueled)
    subst here
    rw [decodeLoop_pointer found marked second inside (by omega)]
    have counted : (walk.jump (pointerOf high low)).jumpCount = walk.jumpCount + 1 := rfl
    have budget : (walk.jump (pointerOf high low)).budget =
      (maximumCompressionJumps - (walk.jumpCount + 1)) + (maximumNameBytes - walk.text.length) := rfl
    unfold Walk.budget at fueled
    exact hypothesis rfl some (by omega) short (by omega)

theorem decodeLoop_settles (fueled : walk.budget < fuel) :
    Settles (decodeLoop message fuel walk) := by
  induction fuel generalizing walk with
  | zero => exact absurd fueled (Nat.not_lt_zero _)
  | succ fuel hypothesis =>
    refine settles_ite (fun _ => settles_refused) fun before => ?_
    refine settles_bind (byteAt_settles (Nat.lt_of_not_le before)) fun length _ => ?_
    refine settles_ite (fun _ => ?_) fun _ => ?_
    · refine settles_ite (fun _ => settles_refused) fun room => ?_
      refine settles_bind (byteAt_settles (by omega)) fun low _ => ?_
      refine settles_ite (fun _ => settles_refused) fun _ => hypothesis ?_
      have budget (pointer : Nat) : (walk.jump pointer).budget = (maximumCompressionJumps -
        (walk.jumpCount + 1)) + (maximumNameBytes - walk.text.length) := rfl
      unfold Walk.budget at fueled
      rw [budget]
      omega
    refine settles_ite (fun _ => settles_refused) fun _ => ?_
    refine settles_ite (fun _ => settles_ite (fun _ => settles_refused) fun _ => settles_ok _)
      fun nonzero => ?_
    refine settles_ite (fun _ => settles_refused) fun inside => ?_
    refine settles_ite (fun _ => settles_refused) fun room => ?_
    rw [sliceAt_of_le (by omega)]
    refine settles_ite (fun _ => settles_refused) fun short => hypothesis ?_
    have positive : 0 < length.toNat := Nat.pos_of_ne_zero fun zero =>
      nonzero (UInt8.toNat_inj.mp zero)
    have longer := walk.joined_length ((message.drop (walk.cursor + 1)).take length.toNat)
    have budget (label : Bytes) : (walk.pass label).budget = (maximumCompressionJumps -
      walk.jumpCount) + (maximumNameBytes - (walk.joined label).length) := rfl
    rw [length_take, length_drop] at longer
    unfold Walk.budget at fueled
    rw [budget]
    omega

end Decoder

/-! ### Names -/

section Names

variable {message : Bytes} {offset : Nat}

theorem decodeName_settles : Settles (decodeName message offset) := by
  refine settles_ite (fun _ => settles_refused) fun _ => decodeLoop_settles ?_
  show (maximumCompressionJumps - 0) + (maximumNameBytes - 0) < decodeSteps
  decide

/-- What the decoder answers is what the name means. -/
theorem decodeName_sound (done : decodeName message offset = .ok decoded) :
    ∃ jumps labels, NameAt message offset jumps labels decoded.nextOffset ∧ labels ≠ [] ∧
      jumps ≤ maximumCompressionJumps ∧ decoded.text = joinLabels labels ∧
      decoded.text.length ≤ maximumNameBytes := by
  unfold decodeName at done
  split at done
  · cases done
  obtain ⟨jumps, labels, next, name, some, few, short, rfl⟩ := decodeLoop_sound done
  have nonempty : labels ≠ [] := length_pos_iff.mp (by
    have count : 0 + labels.length ≠ 0 := some
    omega)
  refine ⟨jumps, labels, name, nonempty, ?_, joinAfter_eq labels, short nonempty⟩
  rcases Nat.eq_zero_or_pos jumps with rfl | more
  · exact Nat.zero_le _
  · omega

theorem NameAt.lt (name : NameAt message offset jumps labels next) : offset < message.length := by
  cases name with
  | root found => exact (List.getElem?_eq_some_iff.mp found).1
  | label found => exact (List.getElem?_eq_some_iff.mp found).1
  | pointer found => exact (List.getElem?_eq_some_iff.mp found).1

/-- A name with few pointers and a short text is decoded. -/
theorem decodeName_complete (name : NameAt message offset jumps labels next)
    (nonempty : labels ≠ []) (few : jumps ≤ maximumCompressionJumps)
    (short : (joinLabels labels).length ≤ maximumNameBytes) :
    decodeName message offset = .ok { nextOffset := next, text := joinLabels labels } := by
  have count : 0 + labels.length ≠ 0 := by
    have positive := length_pos_iff.mpr nonempty
    omega
  rw [← joinAfter_eq] at short ⊢
  refine (if_neg (Nat.not_le.mpr name.lt)).trans ?_
  exact decodeLoop_complete name rfl count (by show 0 + jumps ≤ _; omega) short
    (show (maximumCompressionJumps - 0) + (maximumNameBytes - 0) < decodeSteps by decide)

/-- A name means one sequence of labels. -/
theorem NameAt.unique {otherJumps otherNext : Nat} {others : List Bytes}
    (name : NameAt message offset jumps labels next)
    (other : NameAt message offset otherJumps others otherNext) :
    labels = others ∧ next = otherNext := by
  induction name generalizing otherJumps others otherNext with
  | root found =>
    cases other with
    | root _ => exact ⟨rfl, rfl⟩
    | label second _ nonzero => exact absurd (Option.some.inj (second.symm.trans found)) nonzero
    | pointer second marked =>
      rw [Option.some.inj (second.symm.trans found)] at marked
      cases marked
  | label found plain nonzero inside rest hypothesis =>
    cases other with
    | root second => exact absurd (Option.some.inj (found.symm.trans second)) nonzero
    | label second _ _ _ otherRest =>
      cases Option.some.inj (found.symm.trans second)
      obtain ⟨rfl, rfl⟩ := hypothesis otherRest
      exact ⟨rfl, rfl⟩
    | pointer second marked =>
      rw [Option.some.inj (second.symm.trans found), plain] at marked
      cases marked
  | pointer found marked second inside rest hypothesis =>
    cases other with
    | root other =>
      rw [Option.some.inj (found.symm.trans other)] at marked
      cases marked
    | label other plain =>
      rw [Option.some.inj (found.symm.trans other), plain] at marked
      cases marked
    | pointer other _ otherSecond _ otherRest =>
      cases Option.some.inj (found.symm.trans other)
      cases Option.some.inj (second.symm.trans otherSecond)
      exact ⟨(hypothesis otherRest).1, rfl⟩

end Names

end ZigOs.Dns
