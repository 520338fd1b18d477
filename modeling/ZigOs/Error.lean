/-
The failures of the runtime. The source's error sets share one global name
space, so a name that occurs in the process, filesystem, descriptor and
persistence sets is one failure here too.
-/

import ZigOs.Lib.Call
import ZigOs.Lib.Scan
import ZigOs.Lib.Sorting

namespace ZigOs

/-- Every error name of the modelled error sets. -/
inductive Error where
  -- process table
  | invalidHandle | noProcess | noSlots | notChild | stillRunning | alreadyTerminal
  | invalidSignal | permissionDenied | quotaExceeded | invalidState | nameTooLong
  | tooManyArguments | argumentTooLong
  -- filesystem
  | invalidPath | pathTooLong | notFound | alreadyExists | notDirectory | isDirectory
  | directoryNotEmpty | readOnly | noSpace | fileTooLarge | invalidOffset | busy
  | tooManyOpenFiles | crossMount | cycle | unsupportedOperation | notSeekable | notSymlink
  | inputOutput | corruptState
  -- descriptors
  | namespaceExists | namespaceMissing | descriptorLimit | openDescriptionLimit | pipeLimit
  | badDescriptor | notReadable | notWritable | brokenPipe | invalidOperation | rangeLockLimit
  | wouldBlock | referenceOverflow
  -- persistence
  | notConfigured | invalidGeometry | io | corrupt | invalidRecord
  deriving DecidableEq, Repr

/-- Strings of the source are byte slices. -/
abbrev Bytes := List UInt8

/-- Wrapping increment of a counter of the given width. -/
def wrapIncrement (width value : Nat) : Nat := (value + 1) % 2 ^ width

/-- A wrapping increment that skips zero: generations, clocks and sequence numbers. -/
def nextNonzero (width value : Nat) : Nat :=
  if wrapIncrement width value = 0 then 1 else wrapIncrement width value

theorem nextNonzero_pos (width value : Nat) : 0 < nextNonzero width value := by
  unfold nextNonzero
  split
  · exact Nat.one_pos
  · rename_i nonzero
    exact Nat.pos_of_ne_zero nonzero

theorem nextNonzero_lt (width value : Nat) (wide : 0 < width) :
    nextNonzero width value < 2 ^ width := by
  unfold nextNonzero
  split
  · exact Nat.one_lt_two_pow (Nat.pos_iff_ne_zero.mp wide)
  · exact Nat.mod_lt _ (Nat.two_pow_pos width)

/-- Below its width the counter just counts. -/
theorem nextNonzero_of_lt {width value : Nat} (fits : value + 1 < 2 ^ width) :
    nextNonzero width value = value + 1 := by
  unfold nextNonzero wrapIncrement
  rw [Nat.mod_eq_of_lt fits, if_neg (Nat.succ_ne_zero value)]

end ZigOs
