/-
This file models the part of the terminal that descriptors reach: the submitted
input and the read that takes from it, ends at a pending end of file, or puts
the reader to sleep. Only processes of the foreground group and session may
read.
-/

import ZigOs.RuntimeProcess.Table

namespace ZigOs.RuntimeTty

open RuntimeProcess

/-- The target that terminal readers sleep on. -/
abbrev terminalWaitKey : Nat := 0x5454590000000001

/-- The terminal; the input is the contents of its ring. -/
structure Tty where
  controllerHandle : Nat := 0
  foregroundProcessGroup : Nat := 0
  foregroundSession : Nat := 0
  input : Bytes := []
  eofEvents : Nat := 0

inductive ReadStatus where
  | complete | eof | blocked
  deriving DecidableEq, Repr

namespace Tty

def foregroundMatches (tty : Tty) (process : Process) : Bool :=
  tty.foregroundProcessGroup != 0 && process.processGroup == tty.foregroundProcessGroup &&
    process.session == tty.foregroundSession

/-- Read up to a number of bytes: what happened, the bytes, and the terminal afterwards. The
reader may fall asleep in the process table. -/
def read (tty : Tty) (handle length : Nat) : TableCall (ReadStatus × Bytes × Tty) := do
  let table ← Call.state
  let process ← Call.lift (table.get handle)
  Call.failWhen (tty.foregroundMatches process = false) .permissionDenied
  if length = 0 then return (.complete, [], tty)
  else if tty.input ≠ [] then
    return (.complete, tty.input.take length, { tty with input := tty.input.drop length })
  else if tty.eofEvents ≠ 0 then return (.eof, [], { tty with eofEvents := tty.eofEvents - 1 })
  else do
    Table.block handle .terminalRead terminalWaitKey
    return (.blocked, [], tty)

end Tty

end ZigOs.RuntimeTty
