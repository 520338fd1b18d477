/-
This file proves that the terminal delivers in the order of typing in every run
in which no text is committed behind a pending mark, no line outgrows the
editor and the marks can be counted. The stream and the terminal then hold the
same, and the next items that a reader gets are the next ones typed.
-/

import ZigOs.RuntimeTty.Waiters

namespace ZigOs.RuntimeTty

open RuntimeProcess Session Call List Terminal Table

/-! ### The stream follows the terminal -/

/-- Submitted text stands behind the input, when it fits. -/
def Terminal.accept (terminal : Terminal) (text : Bytes) : Terminal :=
  if text.length ≤ inputCapacity - terminal.input.length then
    { terminal with input := terminal.input ++ text }
  else terminal

theorem foldl_pushByte (text : Bytes) (terminal : Terminal)
    (room : terminal.input.length + text.length ≤ inputCapacity) :
    text.foldl (fun pushed byte => (pushed.pushByte byte).2) terminal =
      { terminal with input := terminal.input ++ text } := by
  induction text generalizing terminal with
  | nil => rw [append_nil]; rfl
  | cons byte rest hypothesis =>
    rw [length_cons] at room
    have pushed : (terminal.pushByte byte).2 = { terminal with input := terminal.input ++ [byte] } := by
      rw [pushByte, if_neg (by omega)]
    rw [foldl_cons, pushed, hypothesis]
    · rw [append_assoc, singleton_append]
    · rw [length_append, length_singleton]
      omega

/-- What ends a committed line. -/
def lineEnding (includeNewline : Bool) : Bytes := if includeNewline then [lineFeed] else []

variable {console : Console}

theorem commitLine_terminal (fits : console.terminal.input.length ≤ inputCapacity)
    (includeNewline : Bool) : (console.commitLine includeNewline).2.terminal =
      { console.terminal.accept (console.terminal.edit ++ lineEnding includeNewline) with edit := [] } := by
  have required : console.terminal.edit.length + includeNewline.toNat =
      (console.terminal.edit ++ lineEnding includeNewline).length := by
    cases includeNewline <;> simp [lineEnding]
  unfold Console.commitLine Terminal.accept
  dsimp only
  rw [required]
  by_cases room : (console.terminal.edit ++ lineEnding includeNewline).length ≤
      inputCapacity - console.terminal.input.length
  · have whole := foldl_pushByte (console.terminal.edit ++ lineEnding includeNewline) console.terminal
      ((Nat.le_sub_iff_add_le' fits).mp room)
    rw [foldl_append] at whole
    rw [if_neg (not_lt.mpr room), if_pos room, ← whole]
    cases includeNewline <;> rfl
  · rw [if_pos (not_le.mp room), if_neg room]

/-- The stream holds what the terminal holds, and is edited alike. -/
structure Follows (terminal : Terminal) (stream : InputStream) : Prop where
  pending : terminal.pending = stream.pending
  line : stream.line = terminal.edit
  afterReturn : stream.afterReturn = terminal.ignoreNextLf
  canonical : stream.canonical = terminal.canonicalEnabled
  signals : stream.signals = terminal.signalsEnabled
  fits : terminal.input.length ≤ inputCapacity
  short : terminal.edit.length ≤ editCapacity
  taken : stream.taken ≤ stream.typed.length

namespace Follows

variable {terminal : Terminal} {stream : InputStream}

theorem pendingBytes (follows : Follows terminal stream) :
    stream.pendingBytes = terminal.input.length := by
  rw [InputStream.pendingBytes, ← follows.pending, Terminal.pending, countP_append,
    countP_map, countP_replicate]
  simp [countP_eq_length.mpr]

/-- What is typed comes behind what is pending. -/
theorem pending_append (follows : Follows terminal stream) (items : List Item) :
    { stream with typed := stream.typed ++ items }.pending = stream.pending ++ items :=
  drop_append_of_le_length follows.taken

theorem accept (follows : Follows terminal stream) {text : Bytes}
    (unmarked : text.length ≤ inputCapacity - terminal.input.length → terminal.eofEvents = 0) :
    Follows (terminal.accept text) (stream.accept text) := by
  unfold Terminal.accept InputStream.accept
  rw [follows.pendingBytes]
  split
  · rename_i room
    refine ⟨?_, follows.line, follows.afterReturn, follows.canonical, follows.signals, ?_,
      follows.short, follows.taken.trans (by simp)⟩
    · rw [follows.pending_append, ← follows.pending, Terminal.pending, Terminal.pending, unmarked room]
      simp
    · have fits := follows.fits
      simp only [length_append]
      omega
  · exact follows

theorem setLine (follows : Follows terminal stream) {line : Bytes} (short : line.length ≤ editCapacity) :
    Follows { terminal with edit := line } { stream with line } :=
  ⟨follows.pending, rfl, follows.afterReturn, follows.canonical, follows.signals, follows.fits, short,
    follows.taken⟩

theorem setFilter (follows : Follows terminal stream) (skip : Bool) :
    Follows { terminal with ignoreNextLf := skip } { stream with afterReturn := skip } :=
  ⟨follows.pending, follows.line, rfl, follows.canonical, follows.signals, follows.fits, follows.short,
    follows.taken⟩

theorem mark (follows : Follows terminal stream) (countable : terminal.eofEvents + 1 < 2 ^ 64) :
    Follows { terminal with eofEvents := wrapIncrement 64 terminal.eofEvents }
      { stream with typed := stream.typed ++ [.endOfFile] } := by
  refine ⟨?_, follows.line, follows.afterReturn, follows.canonical, follows.signals, follows.fits,
    follows.short, follows.taken.trans (by simp)⟩
  rw [follows.pending_append, ← follows.pending, Terminal.pending, Terminal.pending, wrapIncrement,
    Nat.mod_eq_of_lt countable, replicate_succ', append_assoc]

theorem commit (follows : Follows terminal stream) {ending : Bytes}
    (unmarked : (terminal.edit ++ ending).length ≤ inputCapacity - terminal.input.length →
      terminal.eofEvents = 0) :
    Follows { terminal.accept (terminal.edit ++ ending) with edit := [] } (stream.commit ending) := by
  unfold InputStream.commit
  rw [follows.line, if_pos follows.short]
  exact (follows.accept unmarked).setLine (Nat.zero_le _)

end Follows

variable {stream : InputStream}

theorem feedCanonical_follows {key : UInt8} (follows : Follows console.terminal stream)
    (canonical : console.terminal.canonicalEnabled = true) (takes : console.terminal.Takes key) :
    Follows (console.feedCanonical key).2.terminal (stream.typeKey key) := by
  obtain ⟨typed, taken, line, afterReturn, isCanonical, signals⟩ := stream
  obtain rfl : line = console.terminal.edit := follows.line
  have short := follows.short
  unfold Console.feedCanonical InputStream.typeKey
  dsimp only
  by_cases erase : key = 0x08 ∨ key = 0x7F
  · rw [if_pos erase, if_pos erase]
    split
    · rename_i empty
      have nothing : console.terminal.edit.dropLast = console.terminal.edit := by
        rw [length_eq_zero_iff.mp empty, dropLast_nil]
      rwa [nothing]
    · exact follows.setLine (by rw [length_dropLast]; omega)
  rw [if_neg erase, if_neg erase]
  by_cases kill : key = 0x15
  · rw [if_pos kill, if_pos kill]
    exact follows.setLine (Nat.zero_le _)
  rw [if_neg kill, if_neg kill]
  by_cases ending : key = 0x04
  · rw [if_pos ending, if_pos ending]
    by_cases empty : console.terminal.edit = []
    · rw [if_pos (length_eq_zero_iff.mpr empty), if_pos empty]
      exact follows.mark (takes.countable canonical ending empty)
    · have committed : console.terminal.submission key = some console.terminal.edit := by
        unfold submission
        rw [if_neg (by simp [canonical]), if_neg (by rw [ending]; decide), if_pos ⟨ending, empty⟩]
      rw [if_neg (mt length_eq_zero_iff.mp empty), if_neg empty, commitLine_terminal follows.fits]
      refine follows.commit fun room => takes.unmarked _ committed ?_
      rwa [lineEnding, if_neg Bool.false_ne_true, append_nil] at room
  rw [if_neg ending, if_neg ending]
  by_cases newline : key = lineFeed
  · have committed : console.terminal.submission key = some (console.terminal.edit ++ [lineFeed]) := by
      unfold submission
      rw [if_neg (by simp [canonical]), if_pos newline]
    rw [if_pos newline, if_pos newline, commitLine_terminal follows.fits]
    exact follows.commit (takes.unmarked _ committed)
  rw [if_neg newline, if_neg newline]
  by_cases isPrintable : printable key = true
  · have room := takes.room canonical isPrintable
    rw [if_pos isPrintable, if_pos isPrintable, if_neg (not_le.mpr room)]
    exact follows.setLine (by rw [length_append, length_singleton]; omega)
  · rwa [if_neg isPrintable, if_neg isPrintable]

theorem pushByte_terminal (terminal : Terminal) (byte : UInt8) :
    (terminal.pushByte byte).2 = terminal.accept [byte] := by
  unfold pushByte Terminal.accept
  split
  · rename_i full
    rw [if_neg (by rw [length_singleton]; omega)]
  · rename_i room
    rw [if_pos (by rw [length_singleton]; omega)]

theorem feed_follows {byte : UInt8} (follows : Follows console.terminal stream)
    (takes : ∀ key, console.terminal.keyOf byte = some key → console.terminal.Takes key) :
    Follows (console.feed byte).2.terminal (stream.typeByte byte) := by
  obtain ⟨typed, taken, line, afterReturn, isCanonical, signals⟩ := stream
  obtain rfl : afterReturn = console.terminal.ignoreNextLf := follows.afterReturn
  obtain rfl : isCanonical = console.terminal.canonicalEnabled := follows.canonical
  obtain rfl : signals = console.terminal.signalsEnabled := follows.signals
  unfold keyOf at takes
  unfold Console.feed InputStream.typeByte
  dsimp only
  by_cases swallowed : console.terminal.ignoreNextLf = true ∧ byte = lineFeed
  · rw [if_pos swallowed, if_pos swallowed]
    exact follows.setFilter false
  rw [if_neg swallowed] at takes
  rw [if_neg swallowed, if_neg swallowed]
  have filtered := follows.setFilter (byte == carriageReturn)
  by_cases signal : console.terminal.signalsEnabled = true ∧
      (normalize byte = 0x03 ∨ normalize byte = 0x1A)
  · rw [if_pos signal, if_pos signal]
    exact @Follows.setLine _ _ filtered [] (Nat.zero_le _)
  have orderly := takes (normalize byte) (if_neg signal)
  rw [if_neg signal, if_neg signal]
  by_cases canonical : console.terminal.canonicalEnabled = true
  · rw [if_pos canonical, if_pos canonical]
    exact feedCanonical_follows filtered canonical
      ⟨orderly.unmarked, orderly.room, orderly.countable⟩
  · have submitted : console.terminal.submission (normalize byte) = some [normalize byte] := by
      rw [submission, if_pos (Bool.eq_false_iff.mpr canonical)]
    have accepted := @Follows.accept _ _ filtered [normalize byte] (orderly.unmarked _ submitted)
    rw [← pushByte_terminal] at accepted
    rw [if_neg canonical, if_neg canonical]
    split
    · rename_i refused
      unfold pushByte at accepted refused
      split at refused
      · rename_i full
        rwa [if_pos full] at accepted
      · cases refused
    · exact accepted

/-! ### Reading -/

/-- The four ways a read ends: refused, with bytes, with a mark, or asleep. -/
inductive ReadOutcome (console : Console) (handle length : Nat) :
    Except Error (ReadStatus × Bytes) × Console → Prop where
  | refused (failure : Error) : ReadOutcome console handle length (.error failure, console)
  | bytes (filled : console.terminal.input ≠ []) :
      ReadOutcome console handle length (.ok (.complete, console.terminal.input.take length),
        { console with terminal := { console.terminal with
          input := console.terminal.input.drop length } })
  | mark (empty : console.terminal.input = []) (marked : console.terminal.eofEvents ≠ 0) :
      ReadOutcome console handle length (.ok (.eof, []),
        { console with terminal := { console.terminal with
          eofEvents := console.terminal.eofEvents - 1 } })
  | asleep (empty : console.terminal.input = []) (unmarked : console.terminal.eofEvents = 0) :
      ReadOutcome console handle length (.ok (.blocked, []), { console with
        processes := (block handle .terminalRead terminalWaitKey console.processes).2 })

theorem block_error {handle : Nat} {failure : Error} {processes after : Table}
    (failed : block handle .terminalRead terminalWaitKey processes = (.error failure, after)) :
    after = processes := by
  rw [block_apply _ _ _ _ (by simp)] at failed
  split at failed
  · exact (Prod.mk.inj failed).2.symm
  · split at failed
    · exact (Prod.mk.inj failed).2.symm
    · cases (Prod.mk.inj failed).1

theorem read_outcome (console : Console) (handle : Nat) {length : Nat} (positive : 0 < length) :
    ReadOutcome console handle length (console.read handle length) := by
  unfold Console.read Tty.read
  simp only [bind_state]
  cases console.processes.get handle with
  | error failure => exact .refused failure
  | ok process =>
    simp only [bind_lift_ok, bind_failWhen]
    by_cases foreign : console.terminal.foregroundMatches process = false
    · rw [if_pos foreign]
      exact .refused _
    rw [if_neg foreign, if_neg positive.ne']
    by_cases filled : console.terminal.input ≠ []
    · rw [if_pos filled]
      exact .bytes filled
    rw [if_neg filled]
    have empty := not_not.mp filled
    by_cases marked : console.terminal.eofEvents ≠ 0
    · rw [if_pos marked]
      exact .mark empty marked
    have slept : ReadOutcome console handle length _ := .asleep empty (not_not.mp marked)
    rw [if_neg marked, bind_apply]
    rcases outcome : block handle .terminalRead terminalWaitKey console.processes with
      ⟨failure | ⟨⟩, after⟩
    · rw [block_error outcome]
      exact .refused failure
    · rwa [outcome] at slept

theorem leadingBytes_pending (input : Bytes) (marks : Nat) :
    leadingBytes (input.map .byte ++ List.replicate marks .endOfFile) = input := by
  induction input with
  | nil => cases marks <;> rfl
  | cons byte rest hypothesis =>
    rw [map_cons, cons_append, leadingBytes, hypothesis]

namespace Follows

variable {terminal : Terminal} {stream : InputStream}

theorem advance (follows : Follows terminal stream) {count marks : Nat} {input : Bytes}
    (pending : { terminal with input, eofEvents := marks }.pending = terminal.pending.drop count)
    (enough : count ≤ terminal.pending.length) (fits : input.length ≤ inputCapacity) :
    Follows { terminal with input, eofEvents := marks } { stream with taken := stream.taken + count } := by
  have size := congrArg List.length follows.pending
  rw [InputStream.pending, length_drop] at size
  have taken := follows.taken
  refine ⟨?_, follows.line, follows.afterReturn, follows.canonical, follows.signals, fits,
    follows.short, show stream.taken + count ≤ stream.typed.length by omega⟩
  rw [pending, follows.pending, InputStream.pending, InputStream.pending, drop_drop]

end Follows

/-! ### Every orderly run delivers in order -/

/-- The stream only got longer. -/
structure Grows (before after : InputStream) : Prop where
  typed : ∃ items, after.typed = before.typed ++ items
  taken : after.taken = before.taken

namespace InputStream

variable (stream : InputStream)

theorem grows_accept (text : Bytes) : Grows stream (stream.accept text) := by
  unfold accept
  split
  · exact ⟨⟨_, rfl⟩, rfl⟩
  · exact ⟨⟨[], (append_nil _).symm⟩, rfl⟩

theorem grows_line (line : Bytes) : Grows stream { stream with line } :=
  ⟨⟨[], (append_nil _).symm⟩, rfl⟩

theorem grows_commit (ending : Bytes) : Grows stream (stream.commit ending) := by
  unfold commit
  split
  · have accepted := stream.grows_accept (stream.line ++ ending)
    exact ⟨accepted.typed, accepted.taken⟩
  · exact stream.grows_line []

theorem grows_typeKey (key : UInt8) : Grows stream (stream.typeKey key) := by
  unfold typeKey
  split
  · exact stream.grows_line _
  split
  · exact stream.grows_line _
  split
  · split
    · exact ⟨⟨_, rfl⟩, rfl⟩
    · exact stream.grows_commit _
  split
  · exact stream.grows_commit _
  split
  · exact stream.grows_line _
  · exact ⟨⟨[], (append_nil _).symm⟩, rfl⟩

theorem grows_typeByte (byte : UInt8) : Grows stream (stream.typeByte byte) := by
  have filtered (skip : Bool) (after : InputStream)
      (grows : Grows { stream with afterReturn := skip } after) : Grows stream after :=
    ⟨grows.typed, grows.taken⟩
  unfold typeByte
  dsimp only
  split
  · exact ⟨⟨[], (append_nil _).symm⟩, rfl⟩
  split
  · exact ⟨⟨[], (append_nil _).symm⟩, rfl⟩
  split
  · exact filtered _ _ (grows_typeKey _ _)
  · exact filtered _ _ (grows_accept _ _)

theorem grows_setModeFlags (flags : Nat) : Grows stream (stream.setModeFlags flags) := by
  unfold setModeFlags
  split <;> exact ⟨⟨[], (append_nil _).symm⟩, rfl⟩

end InputStream

namespace Follows

variable {terminal : Terminal} {stream : InputStream}

theorem deliver_bytes (follows : Follows terminal stream) (filled : terminal.input ≠ []) (length : Nat) :
    stream.deliver length = ((.complete, terminal.input.take length),
      { stream with taken := stream.taken + (terminal.input.take length).length }) := by
  obtain ⟨byte, rest, input⟩ := exists_cons_of_ne_nil filled
  have pending : stream.pending = .byte byte :: (rest.map .byte ++
      List.replicate terminal.eofEvents .endOfFile) := by
    rw [← follows.pending, Terminal.pending, input, map_cons, cons_append]
  have leading : leadingBytes stream.pending = terminal.input := by
    rw [← follows.pending, Terminal.pending, leadingBytes_pending]
  unfold InputStream.deliver
  rw [leading, pending]

theorem deliver_mark (follows : Follows terminal stream) (empty : terminal.input = [])
    (marked : terminal.eofEvents ≠ 0) (length : Nat) :
    stream.deliver length = ((.eof, []), { stream with taken := stream.taken + 1 }) := by
  obtain ⟨marks, counted⟩ := Nat.exists_eq_succ_of_ne_zero marked
  have pending : stream.pending = .endOfFile :: List.replicate marks .endOfFile := by
    rw [← follows.pending, Terminal.pending, empty, counted, replicate_succ, map_nil, nil_append]
  unfold InputStream.deliver
  rw [pending]

theorem pending_nil (follows : Follows terminal stream) (empty : terminal.input = [])
    (unmarked : terminal.eofEvents = 0) : stream.pending = [] := by
  rw [← follows.pending, Terminal.pending, empty, unmarked, map_nil, replicate_zero, nil_append]

theorem pending_eq_nil_iff (follows : Follows terminal stream) :
    stream.pending = [] ↔ ¬ (terminal.input.length ≠ 0 ∨ terminal.eofEvents ≠ 0) := by
  rw [← follows.pending, Terminal.pending, append_eq_nil_iff, map_eq_nil_iff, replicate_eq_nil_iff]
  simp

/-- The next items that are delivered are the next ones typed. -/
theorem taken_advance (follows : Follows terminal stream) (count : Nat) :
    stream.typed.take (stream.taken + count) =
      stream.typed.take stream.taken ++ terminal.pending.take count := by
  rw [take_add, follows.pending, InputStream.pending]

theorem setModeFlags (follows : Follows terminal stream) (flags : Nat) :
    Follows (terminal.setModeFlags flags).2 (stream.setModeFlags flags) := by
  unfold Terminal.setModeFlags InputStream.setModeFlags
  split
  · exact follows
  · refine ⟨follows.pending, ?_, follows.afterReturn, rfl, rfl, follows.fits, ?_, follows.taken⟩
    · dsimp only
      rw [follows.line]
    · dsimp only
      split
      · exact follows.short
      · exact Nat.zero_le _

end Follows

namespace Session

/-- The run so far, with the stream beside the terminal. -/
structure Sound (session : Session) : Prop where
  inOrder : session.InOrder
  follows : Follows session.console.terminal session.stream

variable {session : Session} {console : Console}

/-- A step that gives no answers: the stream may have grown, and those who wait were not passed
over. -/
theorem Sound.advance (sound : session.Sound) {stream : InputStream}
    (follows : Follows console.terminal stream) (heard : Heard session.console console)
    (grows : Grows session.stream stream) : Sound { session with console, stream } := by
  obtain ⟨⟨items, typed⟩, taken⟩ := grows
  refine ⟨⟨sound.inOrder.answers, ?_, follows.pending, fun slot waits => ?_⟩, follows⟩
  · dsimp only
    rw [typed, taken, take_append_of_le_length sound.follows.taken]
    exact sound.inOrder.delivered
  · rcases heard.input with ⟨input, marks⟩ | deserted
    · have still := sound.inOrder.awake slot (heard.waiters slot waits)
      rw [← sound.follows.pending, Terminal.pending] at still
      rwa [← follows.pending, Terminal.pending, input, marks]
    · exact absurd waits (deserted slot)

/-- A reader takes the next items. -/
theorem Sound.take (sound : session.Sound) {status : ReadStatus} {bytes input : Bytes}
    {count marks : Nat}
    (items : itemsOf (status, bytes) = session.console.terminal.pending.take count)
    (pending : { session.console.terminal with input, eofEvents := marks }.pending =
      session.console.terminal.pending.drop count)
    (enough : count ≤ session.console.terminal.pending.length)
    (fits : input.length ≤ inputCapacity) : Sound {
      console := { session.console with
        terminal := { session.console.terminal with input, eofEvents := marks } }
      stream := { session.stream with taken := session.stream.taken + count }
      answers := session.answers ++ [.read status bytes]
      expected := session.expected ++ [.read status bytes] } := by
  have follows := sound.follows.advance pending enough fits
  refine ⟨⟨?_, ?_, follows.pending, fun slot waits => ?_⟩, follows⟩
  · dsimp only
    rw [sound.inOrder.answers]
  · dsimp only
    rw [flatMap_append, sound.inOrder.delivered, sound.follows.taken_advance, ← items,
      flatMap_singleton]
    rfl
  · have still := sound.inOrder.awake slot waits
    rw [← sound.follows.pending] at still
    rw [← follows.pending]
    dsimp only at pending ⊢
    rw [pending, still, drop_nil]

theorem Sound.read (sound : session.Sound) (handle : Nat) {length : Nat}
    (positive : 0 < length) : (session.read handle length).Sound := by
  have follows := sound.follows
  have outcome := read_outcome session.console handle positive
  unfold Session.read
  generalize session.console.read handle length = result at outcome
  cases outcome with
  | refused failure => exact sound
  | bytes filled =>
    dsimp only
    rw [follows.deliver_bytes filled]
    have size : (session.console.terminal.input.take length).length ≤
        session.console.terminal.input.length := length_take_le' _ _
    have cut : session.console.terminal.input.take
        (session.console.terminal.input.take length).length =
          session.console.terminal.input.take length := by
      rw [length_take]
      exact take_eq_take_min.symm
    have rest : session.console.terminal.input.drop
        (session.console.terminal.input.take length).length =
          session.console.terminal.input.drop length := by
      rw [length_take]
      exact drop_eq_drop_min.symm
    refine sound.take ?_ ?_ ?_ ?_
    · rw [Terminal.pending, take_append_of_le_length (by rwa [length_map]), ← map_take, cut]
      rfl
    · rw [Terminal.pending, Terminal.pending, drop_append_of_le_length (by rwa [length_map]),
        ← map_drop, rest]
    · rw [Terminal.pending, length_append, length_map]
      exact size.trans (Nat.le_add_right _ _)
    · exact (length_drop ▸ Nat.sub_le _ _).trans follows.fits
  | mark empty marked =>
    obtain ⟨marks, counted⟩ := Nat.exists_eq_succ_of_ne_zero marked
    dsimp only
    rw [follows.deliver_mark empty marked]
    have single : session.console.terminal.pending = .endOfFile :: List.replicate marks .endOfFile := by
      rw [Terminal.pending, empty, counted, replicate_succ, map_nil, nil_append]
    refine sound.take ?_ ?_ ?_ follows.fits
    · rw [single]
      rfl
    · rw [single, Terminal.pending]
      dsimp only
      rw [empty, counted]
      rfl
    · rw [single]
      exact Nat.succ_le_succ (Nat.zero_le _)
  | asleep empty unmarked =>
    have nothing := follows.pending_nil empty unmarked
    have due : session.stream.deliver length = ((.blocked, []), session.stream) := by
      unfold InputStream.deliver
      rw [nothing]
    dsimp only
    rw [due]
    refine ⟨⟨?_, ?_, sound.inOrder.pending, fun _ _ => nothing⟩, follows⟩
    · dsimp only
      rw [sound.inOrder.answers]
    · dsimp only
      rw [flatMap_append, sound.inOrder.delivered, flatMap_singleton]
      exact append_nil _

theorem Sound.poll (sound : session.Sound) (handle requested : Nat) :
    (session.poll handle requested).Sound := by
  unfold Session.poll
  split
  · exact sound
  · rename_i ready answered
    have readiness : ready = session.stream.readiness requested := by
      unfold Console.poll at answered
      split at answered
      · cases answered
      split at answered
      · cases answered
      · rw [← Except.ok.inj answered, InputStream.readiness]
        by_cases nothing : session.stream.pending = []
        · rw [if_pos nothing, if_neg (sound.follows.pending_eq_nil_iff.mp nothing)]
        · rw [if_neg nothing, if_pos (not_not.mp (mt sound.follows.pending_eq_nil_iff.mpr nothing))]
    refine ⟨⟨?_, ?_, sound.inOrder.pending, sound.inOrder.awake⟩, sound.follows⟩
    · dsimp only
      rw [sound.inOrder.answers, readiness]
    · dsimp only
      rw [flatMap_append, sound.inOrder.delivered, flatMap_singleton]
      exact append_nil _

/-- A new foreground starts with an empty line. -/
theorem Sound.refocus (sound : session.Sound)
    (input : console.terminal.input = session.console.terminal.input)
    (marks : console.terminal.eofEvents = session.console.terminal.eofEvents)
    (canonical : console.terminal.canonicalEnabled = session.console.terminal.canonicalEnabled)
    (signals : console.terminal.signalsEnabled = session.console.terminal.signalsEnabled)
    (edit : console.terminal.edit = []) (filter : console.terminal.ignoreNextLf = false)
    (waiters : NoNewWaiters session.console.processes console.processes) :
    Sound { session with console, stream := session.stream.transfer } := by
  have follows := sound.follows
  refine sound.advance ⟨?_, edit.symm, filter.symm, canonical.symm ▸ follows.canonical,
    signals.symm ▸ follows.signals, input.symm ▸ follows.fits, edit ▸ Nat.zero_le _, follows.taken⟩
    ⟨waiters, .inl ⟨input, marks⟩⟩ ⟨⟨[], (append_nil _).symm⟩, rfl⟩
  rw [Terminal.pending, input, marks]
  exact follows.pending

theorem Sound.setForeground (sound : session.Sound) (handle : Nat) :
    (session.setForeground handle).Sound := by
  unfold Session.setForeground
  split
  · exact sound
  · rename_i terminal focused
    unfold Terminal.setForeground at focused
    cases found : session.console.processes.get handle with
    | error failure =>
      rw [found] at focused
      cases focused
    | ok process =>
      rw [found] at focused
      change (if _ then _ else _) = _ at focused
      split at focused
      · cases focused
      · cases focused
        exact sound.refocus rfl rfl rfl rfl rfl rfl (refl _)

/-- The controller is refused, or moves the foreground and wakes the readers. -/
theorem setForegroundGroup_cases (console : Console) (callerHandle processGroup : Nat) :
    (∃ failure, console.setForegroundGroup callerHandle processGroup = (.error failure, console)) ∨
      ∃ session, console.setForegroundGroup callerHandle processGroup =
        (.ok (), (Console.wakeReaders { console with
          terminal := { console.terminal with
            foregroundProcessGroup := processGroup
            foregroundSession := session
            edit := []
            ignoreNextLf := false } }).2) := by
  unfold Console.setForegroundGroup
  dsimp only
  split
  · exact .inl ⟨_, rfl⟩
  split
  · exact .inl ⟨_, rfl⟩
  split
  · exact .inl ⟨_, rfl⟩
  split
  · exact .inl ⟨_, rfl⟩
  · exact .inr ⟨_, rfl⟩

theorem Sound.setForegroundGroup (sound : session.Sound)
    (callerHandle processGroup : Nat) : (session.setForegroundGroup callerHandle processGroup).Sound := by
  unfold Session.setForegroundGroup
  rcases setForegroundGroup_cases session.console callerHandle processGroup with
    ⟨failure, refused⟩ | ⟨foregroundSession, moved⟩
  · rwa [refused]
  · rw [moved]
    exact sound.refocus rfl rfl rfl rfl rfl rfl
      fun slot waits => (wakeReaders_heard session.console _ rfl).waiters slot waits

/-- Only the controller changes. -/
theorem transferController_same {before after : Terminal} {processes : Table}
    {currentHandle nextHandle : Nat}
    (transferred : before.transferController processes currentHandle nextHandle = .ok after) :
    after = { before with controllerHandle := nextHandle } := by
  unfold Terminal.transferController at transferred
  split at transferred
  · cases transferred
  cases found : processes.get currentHandle with
  | error failure =>
    rw [found] at transferred
    cases transferred
  | ok current =>
    rw [found] at transferred
    cases named : processes.get nextHandle with
    | error failure =>
      rw [named] at transferred
      cases transferred
    | ok next =>
      rw [named] at transferred
      change (if _ then _ else _) = _ at transferred
      split at transferred
      · cases transferred
      · exact (Except.ok.inj transferred).symm

theorem Sound.transferController (sound : session.Sound)
    (currentHandle nextHandle : Nat) : (session.transferController currentHandle nextHandle).Sound := by
  unfold Session.transferController
  split
  · exact sound
  · rename_i terminal transferred
    obtain rfl := transferController_same transferred
    exact ⟨⟨sound.inOrder.answers, sound.inOrder.delivered, sound.inOrder.pending, sound.inOrder.awake⟩,
      { sound.follows with }⟩

/-- The step keeps the order of the input. -/
def Orderly (session : Session) : Operation → Prop
  | .feed byte => ∀ key, session.console.terminal.keyOf byte = some key →
    session.console.terminal.Takes key
  | _ => True

theorem Sound.step {session : Session} (sound : session.Sound) {operation : Operation}
    (allowed : session.Allowed operation) (orderly : session.Orderly operation) :
    (session.step operation).Sound := by
  cases operation with
  | feed byte =>
    exact sound.advance (feed_follows sound.follows orderly) (feed_heard _ _)
      (session.stream.grows_typeByte byte)
  | read handle length => exact sound.read handle allowed
  | poll handle requested => exact sound.poll handle requested
  | setModeFlags flags =>
    refine sound.advance (sound.follows.setModeFlags flags) (heard_of_sameTerminal ?_ ?_)
      (session.stream.grows_setModeFlags flags) <;>
    · unfold Terminal.setModeFlags
      split <;> rfl
  | setForeground handle => exact sound.setForeground handle
  | setForegroundGroup callerHandle processGroup =>
    exact sound.setForegroundGroup callerHandle processGroup
  | transferController currentHandle nextHandle =>
    exact sound.transferController currentHandle nextHandle
  | elsewhere processes =>
    exact ⟨⟨sound.inOrder.answers, sound.inOrder.delivered, sound.inOrder.pending,
      fun slot waits => sound.inOrder.awake slot (allowed slot waits)⟩, sound.follows⟩

theorem Starts.sound (starts : session.Starts) : session.Sound := by
  obtain ⟨⟨controllerHandle, fresh⟩, stream, answers, expected, awake⟩ := starts
  obtain ⟨⟨terminal, processes⟩, _, _, _⟩ := session
  dsimp only at fresh stream answers expected
  subst fresh stream answers expected
  exact ⟨⟨rfl, rfl, rfl, fun slot waits => absurd waits (awake slot)⟩,
    ⟨rfl, rfl, rfl, rfl, rfl, Nat.zero_le _, Nat.zero_le _, Nat.zero_le _⟩⟩

/-- A run in which no text is committed behind a pending mark, no line gets too long for the
editor and the marks can be counted. -/
inductive OrderlyRun : Session → Prop where
  | start {session : Session} (starts : session.Starts) : OrderlyRun session
  | step {session : Session} (run : OrderlyRun session) (operation : Operation)
      (allowed : session.Allowed operation) (orderly : session.Orderly operation) :
      OrderlyRun (session.step operation)

theorem OrderlyRun.sound (run : OrderlyRun session) : session.Sound := by
  induction run with
  | start starts => exact starts.sound
  | step run operation allowed orderly hypothesis =>
    exact hypothesis.step allowed orderly

/-- The terminal of the first process, which is in the foreground of its own table. -/
def firstSession : Session :=
  { console := {
      terminal := .fresh (initialized 0).initHandle
      processes := initialized 0 } }

theorem firstSession_starts : firstSession.Starts := by
  have awake : ∀ slot < maximumProcesses,
      sleepsOn .terminalRead terminalWaitKey ((initialized 0).processes slot) = false := by
    decide +kernel
  refine ⟨⟨_, rfl⟩, rfl, rfl, rfl, fun slot waits => ?_⟩
  obtain ⟨below, -, sleeps⟩ := waitsForInput_iff.mp waits
  exact absurd sleeps (by rw [firstSession, awake slot below]; exact Bool.false_ne_true)

/-- With no mark pending and room in the line every key keeps the order. -/
theorem takes_of_clear {terminal : Terminal} (unmarked : terminal.eofEvents = 0)
    (room : terminal.edit.length < editCapacity) (key : UInt8) : terminal.Takes key :=
  ⟨fun _ _ _ => unmarked, fun _ _ => room, fun _ _ _ => by omega⟩

/-- An end of file, then a line, then a read. -/
def markThenLine : List Operation :=
  [.setForeground (initialized 0).initHandle, .feed 0x04, .feed 0x61, .feed lineFeed,
    .read (initialized 0).initHandle 16]

theorem markThenLine_reorders :
    (markThenLine.foldl step firstSession).answers = [.read .complete [0x61, lineFeed]] ∧
      (markThenLine.foldl step firstSession).expected = [.read .eof []] := by
  decide +kernel

theorem run_foldl (run : Run session) (operations : List Operation)
    (allowed : ∀ operation ∈ operations, ∀ session : Session, session.Allowed operation) :
    Run (operations.foldl step session) := by
  induction operations generalizing session with
  | nil => exact run
  | cons operation rest hypothesis =>
    exact hypothesis (run.step operation (allowed _ mem_cons_self session))
      fun other member => allowed other (mem_cons_of_mem _ member)

end Session

end ZigOs.RuntimeTty
