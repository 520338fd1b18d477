/-
This file compares the terminal with an ordered stream of input: committed text
and end-of-file marks stand in it in the order they were typed, and a reader
takes from where the last one stopped. The terminal counts its marks apart from
its bytes and delivers bytes first, so the two agree as long as no text is
committed while a mark is pending. A line longer than the edit buffer loses its
tail on the terminal and is dropped whole by the stream.
-/

import ZigOs.RuntimeTty.LineDiscipline

namespace ZigOs.RuntimeTty

open RuntimeProcess Scan

/-! ### The ordered stream -/

inductive Item where
  | byte (value : UInt8)
  | endOfFile
  deriving DecidableEq, Repr

/-- The bytes in front of the first mark. -/
def leadingBytes : List Item → Bytes
  | .byte value :: rest => value :: leadingBytes rest
  | _ => []

/-- What the terminal holds, in the order that it delivers: its bytes, then its marks. -/
def Terminal.pending (terminal : Terminal) : List Item :=
  terminal.input.map .byte ++ List.replicate terminal.eofEvents .endOfFile

/-- Everything committed so far, in order, how much of it was delivered, and the line that is not
committed yet. -/
structure InputStream where
  typed : List Item := []
  taken : Nat := 0
  line : Bytes := []
  afterReturn : Bool := false
  canonical : Bool := true
  signals : Bool := true

namespace InputStream

def pending (stream : InputStream) : List Item := stream.typed.drop stream.taken

/-- The bytes that the pending input takes up. -/
def pendingBytes (stream : InputStream) : Nat := stream.pending.countP (· ≠ .endOfFile)

/-- Append text that fits behind everything else; drop it whole otherwise. -/
def accept (stream : InputStream) (text : Bytes) : InputStream :=
  if text.length ≤ inputCapacity - stream.pendingBytes then
    { stream with typed := stream.typed ++ text.map .byte }
  else stream

/-- End the line: it is accepted or, when it is too long for the editor, dropped whole. -/
def commit (stream : InputStream) (ending : Bytes) : InputStream :=
  { (if stream.line.length ≤ editCapacity then stream.accept (stream.line ++ ending) else stream) with
    line := [] }

def typeKey (stream : InputStream) (key : UInt8) : InputStream :=
  if key = 0x08 ∨ key = 0x7F then { stream with line := stream.line.dropLast }
  else if key = 0x15 then { stream with line := [] }
  else if key = 0x04 then
    if stream.line = [] then { stream with typed := stream.typed ++ [.endOfFile] }
    else stream.commit []
  else if key = lineFeed then stream.commit [lineFeed]
  else if printable key then { stream with line := stream.line ++ [key] }
  else stream

/-- Type a byte. A return ends a line and swallows the line feed behind it. -/
def typeByte (stream : InputStream) (byte : UInt8) : InputStream :=
  if stream.afterReturn ∧ byte = lineFeed then { stream with afterReturn := false }
  else
    let stream := { stream with afterReturn := byte == carriageReturn }
    let key := normalize byte
    if stream.signals ∧ (key = 0x03 ∨ key = 0x1A) then { stream with line := [] }
    else if stream.canonical then stream.typeKey key
    else stream.accept [key]

/-- Take the next mark, or up to so many bytes in front of it. -/
def deliver (stream : InputStream) (length : Nat) : (ReadStatus × Bytes) × InputStream :=
  match stream.pending with
  | [] => ((.blocked, []), stream)
  | .endOfFile :: _ => ((.eof, []), { stream with taken := stream.taken + 1 })
  | .byte _ :: _ =>
    let bytes := (leadingBytes stream.pending).take length
    ((.complete, bytes), { stream with taken := stream.taken + bytes.length })

def setModeFlags (stream : InputStream) (flags : Nat) : InputStream :=
  if flags &&& ((2 ^ 64 - 1) ^^^ Terminal.allowedFlags) ≠ 0 then stream
  else
    let canonical := flags &&& ttyCanonical != 0
    { stream with
      canonical
      signals := flags &&& ttySignals != 0
      line := if canonical then stream.line else [] }

/-- A new foreground starts with an empty line. -/
def transfer (stream : InputStream) : InputStream :=
  { stream with line := [], afterReturn := false }

end InputStream

/-- What a reader was given. -/
def itemsOf : ReadStatus × Bytes → List Item
  | (.complete, bytes) => bytes.map .byte
  | (.eof, _) => [.endOfFile]
  | (.blocked, _) => []

/-! ### Runs -/

/-- What happens to the terminal, and anything else that happens to the processes. -/
inductive Operation where
  | feed (byte : UInt8)
  | read (handle length : Nat)
  | poll (handle requested : Nat)
  | setModeFlags (flags : Nat)
  | setForeground (handle : Nat)
  | setForegroundGroup (callerHandle processGroup : Nat)
  | transferController (currentHandle nextHandle : Nat)
  | elsewhere (processes : Table)

inductive Answer where
  | read (status : ReadStatus) (bytes : Bytes)
  | poll (ready : Nat)
  deriving DecidableEq, Repr

/-- The terminal and the ordered stream side by side, with the answers that readers got and those
that they should have got. -/
structure Session where
  console : Console
  stream : InputStream := {}
  answers : List Answer := []
  expected : List Answer := []

/-- The items that an answer delivered. -/
def Answer.items : Answer → List Item
  | .read status bytes => itemsOf (status, bytes)
  | .poll _ => []

/-- What a poll should say of the stream. -/
def InputStream.readiness (stream : InputStream) (requested : Nat) : Nat :=
  (if stream.pending = [] then 0 else pollReadable) &&& requested

namespace Session

/-- A reader that is let in takes from the terminal, and from the stream. -/
def read (session : Session) (handle length : Nat) : Session :=
  match session.console.read handle length with
  | (.error _, console) => { session with console }
  | (.ok (status, bytes), console) =>
    let due := session.stream.deliver length
    { console
      stream := due.2
      answers := session.answers ++ [.read status bytes]
      expected := session.expected ++ [.read due.1.1 due.1.2] }

def poll (session : Session) (handle requested : Nat) : Session :=
  match session.console.poll handle requested with
  | .error _ => session
  | .ok ready =>
    { session with
      answers := session.answers ++ [.poll ready]
      expected := session.expected ++ [.poll (session.stream.readiness requested)] }

def setForeground (session : Session) (handle : Nat) : Session :=
  match session.console.terminal.setForeground session.console.processes handle with
  | .error _ => session
  | .ok terminal =>
    { session with
      console := { session.console with terminal }
      stream := session.stream.transfer }

def setForegroundGroup (session : Session) (callerHandle processGroup : Nat) : Session :=
  match session.console.setForegroundGroup callerHandle processGroup with
  | (.error _, console) => { session with console }
  | (.ok (), console) => { session with console, stream := session.stream.transfer }

def transferController (session : Session) (currentHandle nextHandle : Nat) : Session :=
  match session.console.terminal.transferController session.console.processes currentHandle
      nextHandle with
  | .error _ => session
  | .ok terminal => { session with console := { session.console with terminal } }

def step (session : Session) : Operation → Session
  | .feed byte =>
    { session with
      console := (session.console.feed byte).2
      stream := session.stream.typeByte byte }
  | .read handle length => session.read handle length
  | .poll handle requested => session.poll handle requested
  | .setModeFlags flags =>
    { session with
      console := { session.console with
        terminal := (session.console.terminal.setModeFlags flags).2 }
      stream := session.stream.setModeFlags flags }
  | .setForeground handle => session.setForeground handle
  | .setForegroundGroup callerHandle processGroup =>
    session.setForegroundGroup callerHandle processGroup
  | .transferController currentHandle nextHandle =>
    session.transferController currentHandle nextHandle
  | .elsewhere processes => { session with console := { session.console with processes } }

/-- The process in the slot sleeps until there is input. -/
def WaitsForInput (processes : Table) (slot : Nat) : Prop :=
  processes.Asleep slot .terminalRead terminalWaitKey

/-- Buffers are not empty, and only the terminal puts a process to sleep on its input. -/
def Allowed (session : Session) : Operation → Prop
  | .read _ length => 0 < length
  | .elsewhere processes => ∀ slot, WaitsForInput processes slot →
    WaitsForInput session.console.processes slot
  | _ => True

/-- The terminal was just made and nobody waits for it. -/
structure Starts (session : Session) : Prop where
  fresh : ∃ controllerHandle, session.console.terminal = .fresh controllerHandle
  stream : session.stream = {}
  answers : session.answers = []
  expected : session.expected = []
  awake : ∀ slot, ¬ WaitsForInput session.console.processes slot

inductive Run : Session → Prop where
  | start {session : Session} (starts : session.Starts) : Run session
  | step {session : Session} (run : Run session) (operation : Operation)
      (allowed : session.Allowed operation) : Run (session.step operation)

/-- Readers got exactly what the ordered stream holds, in its order, and nobody sleeps while it
holds something. -/
structure InOrder (session : Session) : Prop where
  answers : session.answers = session.expected
  delivered : session.answers.flatMap Answer.items = session.stream.typed.take session.stream.taken
  pending : session.console.terminal.pending = session.stream.pending
  awake : ∀ slot, WaitsForInput session.console.processes slot → session.stream.pending = []

end Session

/-! ### When the terminal keeps the order -/

namespace Terminal

/-- The key that a byte counts as, when it is not swallowed behind a return. -/
def keyOf (terminal : Terminal) (byte : UInt8) : Option UInt8 :=
  if terminal.ignoreNextLf ∧ byte = lineFeed then none
  else
    let key := normalize byte
    if terminal.signalsEnabled ∧ (key = 0x03 ∨ key = 0x1A) then none else some key

/-- The text that the key would commit. -/
def submission (terminal : Terminal) (key : UInt8) : Option Bytes :=
  if terminal.canonicalEnabled = false then some [key]
  else if key = lineFeed then some (terminal.edit ++ [lineFeed])
  else if key = 0x04 ∧ terminal.edit ≠ [] then some terminal.edit
  else none

/-- No text is committed behind a pending mark, no character is typed into a full line, and the
marks can be counted. -/
structure Takes (terminal : Terminal) (key : UInt8) : Prop where
  unmarked : ∀ text, terminal.submission key = some text →
    text.length ≤ inputCapacity - terminal.input.length → terminal.eofEvents = 0
  room : terminal.canonicalEnabled = true → printable key = true →
    terminal.edit.length < editCapacity
  countable : terminal.canonicalEnabled = true → key = 0x04 → terminal.edit = [] →
    terminal.eofEvents + 1 < 2 ^ 64

end Terminal

end ZigOs.RuntimeTty
