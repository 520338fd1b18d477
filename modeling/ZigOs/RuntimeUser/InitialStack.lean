/-
This file models the first stack page of a process: the argument and
environment strings at its end, and below them the words a program finds at its
stack pointer. A program that reads these words and follows the pointers gets
back what the kernel was given.
-/

import ZigOs.Error
import ZigOs.Lib.ByteMemory
import ZigOs.RuntimeUser.AddressSpace

namespace ZigOs.RuntimeUser

open ByteMemory RuntimePagePool

/-! ### The ABI -/

abbrev maximumArguments : Nat := 8
abbrev maximumArgumentBytes : Nat := 31
abbrev maximumEnvironment : Nat := 8
abbrev maximumEnvironmentBytes : Nat := 63
abbrev abiMajor : Nat := 1
abbrev abiMinor : Nat := 32
abbrev auxNull : Nat := 0
abbrev auxPagesz : Nat := 6
abbrev auxUid : Nat := 11
abbrev auxEuid : Nat := 12
abbrev auxGid : Nat := 13
abbrev auxEgid : Nat := 14
abbrev auxSecure : Nat := 23
abbrev auxZigosAbi : Nat := 23040
abbrev auxZigosCapabilities : Nat := 23041

structure AuxvEntry where
  kind : Nat
  value : Nat
  deriving DecidableEq, Repr

/-- Whom the process runs as, and what the kernel offers it. -/
structure Identity where
  uid : UInt32
  gid : UInt32
  capabilities : UInt64

def auxiliary (identity : Identity) : List AuxvEntry :=
  [⟨auxPagesz, pageBytes⟩, ⟨auxUid, identity.uid.toNat⟩, ⟨auxEuid, identity.uid.toNat⟩,
    ⟨auxGid, identity.gid.toNat⟩, ⟨auxEgid, identity.gid.toNat⟩, ⟨auxSecure, 0⟩,
    ⟨auxZigosAbi, abiMajor * 2 ^ 32 + abiMinor⟩,
    ⟨auxZigosCapabilities, identity.capabilities.toNat⟩, ⟨auxNull, 0⟩]

/-! ### Building the page -/

/-- A page of the user's stack: where it lies in physical memory and where the user sees it. -/
structure StackPage where
  frame : Nat
  virtual : Nat
  aligned : pageBytes ∣ virtual
  positive : 0 < virtual
  small : virtual + pageBytes ≤ 2 ^ 64

/-- The page that every process is started with. -/
def topStackPage (frame : Nat) : StackPage where
  frame := frame
  virtual := stackTop - pageBytes
  aligned := by decide
  positive := by decide
  small := by decide

inductive StackError where
  | tooManyArguments | argumentTooLong | stackOverflow
  deriving DecidableEq, Repr

def validEnvironmentString (value : Bytes) : Bool :=
  !value.contains 0 && match value.idxOf? 61 with
    | none => false
    | some separator => separator != 0

def acceptsEnvironment (value : Bytes) : Bool :=
  value.length != 0 && decide (value.length ≤ maximumEnvironmentBytes) && validEnvironmentString value

def acceptsArgument (argument : Bytes) : Bool :=
  argument.length != 0 && decide (argument.length ≤ maximumArgumentBytes) && !argument.contains 0

/-- What is written so far: everything from the cursor to the end of the page. -/
structure Filling where
  cursor : Nat
  memory : Memory

/-- Write strings from the last one down to the first, each below the one before. The addresses
are those of the strings in their order. -/
def pushStrings (page : StackPage) (accepts : Bytes → Bool) :
    List Bytes → Filling → Except StackError (List Nat × Filling)
  | [], filling => .ok ([], filling)
  | value :: later, filling =>
    match pushStrings page accepts later filling with
    | .error error => .error error
    | .ok (addresses, filling) =>
      if accepts value = false ∨ filling.cursor < value.length + 1 then .error .argumentTooLong
      else
        let cursor := filling.cursor - (value.length + 1)
        .ok ((page.virtual + cursor) :: addresses,
          ⟨cursor, store filling.memory (page.frame + cursor) (value ++ [0])⟩)

structure InitialStack where
  rsp : Nat
  argc : Nat
  argv : Nat
  envp : Nat
  auxv : Nat
  deriving DecidableEq, Repr

def startWords (arguments environment : List Nat) (identity : Identity) : List Nat :=
  arguments.length :: arguments ++ 0 :: environment ++ 0 ::
    (auxiliary identity).flatMap fun entry => [entry.kind, entry.value]

def buildInitialStack (page : StackPage) (memory : Memory) (arguments environment : List Bytes)
    (identity : Identity) : Except StackError (InitialStack × Memory) :=
  if arguments.length = 0 ∨ arguments.length > maximumArguments ∨
      environment.length > maximumEnvironment then .error .tooManyArguments
  else match pushStrings page acceptsEnvironment environment ⟨pageBytes, memory⟩ with
    | .error error => .error error
    | .ok (environmentAddresses, filling) =>
      match pushStrings page acceptsArgument arguments filling with
      | .error error => .error error
      | .ok (argumentAddresses, filling) =>
        let wordCount := 1 + arguments.length + 1 + environment.length + 1 +
          (auxiliary identity).length * 2
        let vectorBytes := wordCount * wordBytes
        if filling.cursor < vectorBytes + 15 then .error .stackOverflow
        else
          let cursor := (filling.cursor - vectorBytes) / 16 * 16
          let envpIndex := 1 + arguments.length + 1
          let auxvIndex := envpIndex + environment.length + 1
          .ok ({
            rsp := page.virtual + cursor
            argc := arguments.length
            argv := page.virtual + cursor + wordBytes
            envp := page.virtual + cursor + envpIndex * wordBytes
            auxv := page.virtual + cursor + auxvIndex * wordBytes },
            store filling.memory (page.frame + cursor)
              (words (startWords argumentAddresses environmentAddresses identity)))

/-! ### Reading the page -/

/-- What the user finds at a virtual address of the page. -/
def StackPage.view (page : StackPage) (memory : Memory) : Memory := fun address =>
  memory (page.frame + (address - page.virtual))

/-- What a program finds at its stack pointer. -/
structure StartFrame where
  arguments : List Bytes
  environment : List Bytes
  auxiliary : List AuxvEntry
  deriving DecidableEq, Repr

/-- The entries up to the one of kind zero, with it. -/
def readAuxiliary (memory : Memory) : Nat → Nat → Option (List AuxvEntry)
  | 0, _ => none
  | fuel + 1, address =>
    let entry : AuxvEntry := ⟨readWord memory address, readWord memory (address + wordBytes)⟩
    if entry.kind = auxNull then some [entry]
    else (readAuxiliary memory fuel (address + 2 * wordBytes)).map (entry :: ·)

/-- Read a start frame as the System V ABI lays it out: the argument count, the argument pointers
and a zero, the environment pointers and a zero, the auxiliary vector. -/
def readStartFrame (memory : Memory) (rsp : Nat) : Option StartFrame :=
  let argc := readWord memory rsp
  if readWord memory (rsp + wordBytes * (argc + 1)) ≠ 0 then none
  else do
    let arguments ← (readWords memory (rsp + wordBytes) argc).mapM (readString memory pageBytes)
    let pointers ← readUntilZero memory pageBytes (rsp + wordBytes * (argc + 2))
    let environment ← pointers.mapM (readString memory pageBytes)
    let auxiliary ← readAuxiliary memory pageBytes (rsp + wordBytes * (argc + 2 + pointers.length + 1))
    return { arguments, environment, auxiliary }

end ZigOs.RuntimeUser
