/-
This file models the line discipline of the terminal: how typed bytes are
edited, committed, turned into signals or into pending ends of file, and whom
each of that wakes. The input ring of the source is a list here, its contents;
the ring itself, with its two indices, is modelled beside it and does to its
contents what the list model does.
-/

import ZigOs.Lib.RingBuffer
import ZigOs.RuntimeProcess.Sleepers

namespace ZigOs.RuntimeTty

open RuntimeProcess Scan

abbrev inputCapacity : Nat := 4096
abbrev editCapacity : Nat := 256

abbrev lineFeed : UInt8 := 0x0A
abbrev carriageReturn : UInt8 := 0x0D

abbrev ttyEcho : Nat := 1
abbrev ttyCanonical : Nat := 2
abbrev ttySignals : Nat := 4

abbrev pollReadable : Nat := 1

inductive EchoAction where
  | none | byte | eraseOne | eraseLine | newline | interrupt | suspended | bell
  deriving DecidableEq, Repr

structure FeedResult where
  echo : EchoAction := .none
  byte : UInt8 := 0
  erased : Nat := 0
  wakeups : Nat := 0
  signalled : Nat := 0
  deriving DecidableEq, Repr

/-- The whole terminal: the part that descriptors reach, the line being edited and the modes. -/
structure Terminal extends Tty where
  edit : Bytes := []
  ignoreNextLf : Bool := false
  echoEnabled : Bool := true
  canonicalEnabled : Bool := true
  signalsEnabled : Bool := true

/-- The terminal with the table of the processes that it wakes and signals. -/
structure Console where
  terminal : Terminal
  processes : Table

/-! ### Modes and the foreground -/

namespace Terminal

def fresh (controllerHandle : Nat) : Terminal := { controllerHandle }

def setForeground (terminal : Terminal) (processes : Table) (handle : Nat) :
    Except Error Terminal := do
  let process ← processes.get handle
  if process.processGroup = 0 ∨ process.session = 0 then .error .invalidState
  else .ok { terminal with
    foregroundProcessGroup := process.processGroup
    foregroundSession := process.session
    edit := []
    ignoreNextLf := false }

def transferController (terminal : Terminal) (processes : Table) (currentHandle nextHandle : Nat) :
    Except Error Terminal :=
  if currentHandle ≠ terminal.controllerHandle then .error .permissionDenied
  else do
    let current ← processes.get currentHandle
    let next ← processes.get nextHandle
    if next.ppid ≠ current.pid ∨ next.session ≠ current.session ∨ next.terminal then
      .error .permissionDenied
    else .ok { terminal with controllerHandle := nextHandle }

/-- The controller may move the foreground to the group of a child in its session. -/
def leadsForeground (processes : Table) (caller : Process) (processGroup : Nat) :
    Except Error Unit :=
  if processGroup = caller.processGroup then .ok ()
  else match firstIndex maximumProcesses fun slot =>
      (processes.processes slot).used && (processes.processes slot).pid == processGroup &&
        (processes.processes slot).processGroup == processGroup with
    | none => .error .noProcess
    | some slot =>
      if (processes.processes slot).ppid ≠ caller.pid ∨
          (processes.processes slot).session ≠ caller.session then .error .permissionDenied
      else .ok ()

def allowedFlags : Nat := ttyEcho ||| ttyCanonical ||| ttySignals

def setModeFlags (terminal : Terminal) (flags : Nat) : Bool × Terminal :=
  if flags &&& ((2 ^ 64 - 1) ^^^ allowedFlags) ≠ 0 then (false, terminal)
  else
    let canonical := flags &&& ttyCanonical != 0
    (true, { terminal with
      echoEnabled := flags &&& ttyEcho != 0
      canonicalEnabled := canonical
      signalsEnabled := flags &&& ttySignals != 0
      edit := if canonical then terminal.edit else [] })

def pushByte (terminal : Terminal) (byte : UInt8) : Bool × Terminal :=
  if terminal.input.length ≥ inputCapacity then (false, terminal)
  else (true, { terminal with input := terminal.input ++ [byte] })

/-- What is echoed when echo is on. -/
def echo (terminal : Terminal) (action : EchoAction) : EchoAction :=
  if terminal.echoEnabled then action else .none

end Terminal

/-! ### Typing -/

/-- A return counts as a line feed. -/
def normalize (byte : UInt8) : UInt8 := if byte = carriageReturn then lineFeed else byte

/-- A byte that the line editor takes into the line. -/
def printable (byte : UInt8) : Bool := byte == 0x09 || (0x20 ≤ byte && byte ≤ 0x7E)

/-- Signal the foreground group; a failure counts as nobody signalled. -/
def Terminal.signalForeground (terminal : Terminal) (processes : Table) (signal : Nat) : Nat × Table :=
  if terminal.foregroundProcessGroup = 0 then (0, processes)
  else match Table.sendGroupSignal terminal.controllerHandle terminal.foregroundProcessGroup signal
      processes with
    | (.ok signalled, sent) => (signalled, sent)
    | (.error _, sent) => (0, sent)

/-- The default effect of an interrupt: the live members of the foreground group exit. -/
def applyInterruptDefault (terminal : Terminal) (processes : Table) : Table :=
  (List.range maximumProcesses).foldl (fun table slot =>
    let process := table.processes slot
    if process.used = false ∨ process.processGroup ≠ terminal.foregroundProcessGroup ∨
        process.terminal then table
    else (Table.exit process.handle 130 table).2) processes

namespace Console

def wakeReaders (console : Console) : Nat × Console :=
  let woken := console.processes.wakeMatching .terminalRead terminalWaitKey true
  (woken.1, { console with processes := woken.2 })

def setForegroundGroup (console : Console) (callerHandle processGroup : Nat) :
    Except Error Unit × Console :=
  let terminal := console.terminal
  if callerHandle ≠ terminal.controllerHandle ∨ processGroup = 0 then
    (.error .permissionDenied, console)
  else match console.processes.get callerHandle with
    | .error failure => (.error failure, console)
    | .ok caller =>
      if caller.session = 0 ∨ caller.processGroup = 0 then (.error .invalidState, console)
      else match Terminal.leadsForeground console.processes caller processGroup with
        | .error failure => (.error failure, console)
        | .ok () =>
          (.ok (), (wakeReaders { console with
            terminal := { terminal with
              foregroundProcessGroup := processGroup
              foregroundSession := caller.session
              edit := []
              ignoreNextLf := false } }).2)

/-- Submit the edited line. A line that does not fit is dropped whole. -/
def commitLine (console : Console) (includeNewline : Bool) : FeedResult × Console :=
  let terminal := console.terminal
  let required := terminal.edit.length + includeNewline.toNat
  if required > inputCapacity - terminal.input.length then
    ({ echo := terminal.echo .bell }, { console with terminal := { terminal with edit := [] } })
  else
    let pushed := terminal.edit.foldl (fun pushed byte => (pushed.pushByte byte).2) terminal
    let submitted := if includeNewline then (pushed.pushByte lineFeed).2 else pushed
    let woken := wakeReaders { console with terminal := { submitted with edit := [] } }
    ({ echo := if includeNewline then terminal.echo .newline else .none, wakeups := woken.1 }, woken.2)

def feedCanonical (console : Console) (byte : UInt8) : FeedResult × Console :=
  let terminal := console.terminal
  if byte = 0x08 ∨ byte = 0x7F then
    if terminal.edit.length = 0 then ({}, console)
    else ({ echo := terminal.echo .eraseOne, erased := 1 },
      { console with terminal := { terminal with edit := terminal.edit.dropLast } })
  else if byte = 0x15 then
    let erased := terminal.edit.length
    ({ echo := if erased ≠ 0 then terminal.echo .eraseLine else .none, erased },
      { console with terminal := { terminal with edit := [] } })
  else if byte = 0x04 then
    if terminal.edit.length = 0 then
      let woken := wakeReaders { console with
        terminal := { terminal with eofEvents := wrapIncrement 64 terminal.eofEvents } }
      ({ wakeups := woken.1 }, woken.2)
    else commitLine console false
  else if byte = lineFeed then commitLine console true
  else if printable byte then
    if terminal.edit.length ≥ editCapacity then ({ echo := terminal.echo .bell }, console)
    else ({ echo := terminal.echo .byte, byte },
      { console with terminal := { terminal with edit := terminal.edit ++ [byte] } })
  else ({}, console)

/-- The interrupt and suspend keys drop the line and signal the foreground group. -/
def feedSignal (console : Console) (isSuspend : Bool) : FeedResult × Console :=
  let terminal := { console.terminal with edit := [] }
  let (signalled, sent) := terminal.signalForeground console.processes (if isSuspend then 19 else 2)
  let processes := if isSuspend = false ∧ signalled ≠ 0 then applyInterruptDefault terminal sent
    else sent
  ({ echo := terminal.echo (if isSuspend then .suspended else .interrupt), signalled },
    { terminal, processes })

def feed (console : Console) (byte : UInt8) : FeedResult × Console :=
  let terminal := console.terminal
  if terminal.ignoreNextLf ∧ byte = lineFeed then
    ({}, { console with terminal := { terminal with ignoreNextLf := false } })
  else
    let filtered := { console with
      terminal := { terminal with ignoreNextLf := byte == carriageReturn } }
    let normalized := normalize byte
    if terminal.signalsEnabled ∧ (normalized = 0x03 ∨ normalized = 0x1A) then
      feedSignal filtered (normalized == 0x1A)
    else if terminal.canonicalEnabled then feedCanonical filtered normalized
    else
      let pushed := filtered.terminal.pushByte normalized
      if pushed.1 = false then ({ echo := terminal.echo .bell }, filtered)
      else
        let woken := wakeReaders { filtered with terminal := pushed.2 }
        ({ echo := terminal.echo .byte, byte := normalized, wakeups := woken.1 }, woken.2)

/-! ### Reading -/

def read (console : Console) (handle length : Nat) :
    Except Error (ReadStatus × Bytes) × Console :=
  match console.terminal.toTty.read handle length console.processes with
  | (.error failure, processes) => (.error failure, { console with processes })
  | (.ok (status, bytes, tty), processes) =>
    (.ok (status, bytes), { terminal := { console.terminal with toTty := tty }, processes })

def poll (console : Console) (handle requested : Nat) : Except Error Nat :=
  match console.processes.get handle with
  | .error failure => .error failure
  | .ok process =>
    if console.terminal.foregroundMatches process = false then .error .permissionDenied
    else
      let ready := if console.terminal.input.length ≠ 0 ∨ console.terminal.eofEvents ≠ 0
        then pollReadable else 0
      .ok (ready &&& requested)

end Console

end ZigOs.RuntimeTty
