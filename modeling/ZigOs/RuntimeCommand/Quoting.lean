/-
This file proves that quoting survives the scanner. An argument that is written
with a backslash before every byte, or as a pair of quotes if it is empty, comes
back as it was, whatever bytes it has and whatever the variables are. The scanner
is followed along the quoted line, word by word.
-/

import ZigOs.RuntimeCommand.Parser

namespace ZigOs.RuntimeCommand

open List

def quoteArgument (argument : Bytes) : Bytes :=
  if argument = [] then [singleQuote, singleQuote]
  else argument.flatMap fun byte => [backslash, byte]

def quoteLine (arguments : List Bytes) : Bytes :=
  [space].intercalate (arguments.map quoteArgument)

theorem quoteLine_cons (argument : Bytes) {remaining : List Bytes} (more : remaining ≠ []) :
    quoteLine (argument :: remaining) = quoteArgument argument ++ space :: quoteLine remaining := by
  obtain ⟨next, others, rfl⟩ := exists_cons_of_ne_nil more
  unfold quoteLine
  rw [map_cons, map_cons, intercalate_cons_cons]
  simp

namespace Scanner

/-- The loop from a round on. -/
def runFrom (text : Bytes) (environment : Environment) (scanner : Scanner) :
    Except Error Scanner :=
  run text environment (text.length + 1 - scanner.index) scanner

/-- The scanner inside the first stage, outside quotes. -/
def reading (arguments : List Bytes) (index : Nat) (token : Bytes) (started : Bool) : Scanner :=
  { result := { stages := [{ arguments := arguments }] }
    index := index
    token := token
    tokenStarted := started }

variable {text before rest token : Bytes} {environment : Environment} {arguments : List Bytes}
  {index : Nat} {started : Bool} {scanner next : Scanner} {byte : UInt8}

theorem run_succ (text : Bytes) (environment : Environment) (fuel : Nat) (scanner : Scanner) :
    run text environment (fuel + 1) scanner =
      if text.length < scanner.index then .ok scanner
      else scanner.step text environment >>= fun next =>
        run text environment fuel { next with index := next.index + 1 } := rfl

/-- A round that reads one byte. -/
theorem runFrom_step (inside : scanner.index ≤ text.length)
    (stepped : scanner.step text environment = .ok next) (same : next.index = scanner.index) :
    runFrom text environment scanner =
      runFrom text environment { next with index := scanner.index + 1 } := by
  unfold runFrom
  have rounds : text.length + 1 - scanner.index = text.length + 1 - (scanner.index + 1) + 1 := by
    omega
  rw [rounds, run_succ, if_neg (not_lt.mpr inside), stepped, ← same]
  rfl

theorem runFrom_over (past : text.length < scanner.index) :
    runFrom text environment scanner = .ok scanner := by
  unfold runFrom
  rw [Nat.sub_eq_zero_of_le past]
  rfl

theorem appendByte_ok (fits : token.length < maximumTokenLength) (byte : UInt8) :
    appendByte token byte = .ok (token ++ [byte]) := if_neg (not_le.mpr fits)

/-! ### One byte of a quoted word -/

theorem step_backslash (here : text[index]? = some backslash) :
    (reading arguments index token started).step text environment =
      .ok { reading arguments index token true with escaped := true } := by
  unfold step reading
  dsimp only
  rw [here]
  rfl

theorem step_escaped (here : text[index]? = some byte)
    (fits : token.length < maximumTokenLength) :
    ({ reading arguments index token true with escaped := true } : Scanner).step text environment =
      .ok (reading arguments index (token ++ [byte]) true) := by
  unfold step reading take
  dsimp only
  rw [here]
  dsimp only
  rw [if_pos rfl, appendByte_ok fits]
  rfl

/-- A byte with a backslash before it comes in as it is. -/
theorem runFrom_escape (shape : text = before ++ backslash :: byte :: rest)
    (fits : token.length < maximumTokenLength) :
    runFrom text environment (reading arguments before.length token started) =
      runFrom text environment (reading arguments (before.length + 2) (token ++ [byte]) true) := by
  have first : text[before.length]? = some backslash := by simp [shape]
  have second : text[before.length + 1]? = some byte := by simp [shape]
  have long : before.length + 2 ≤ text.length := by simp [shape]
  rw [runFrom_step (by show before.length ≤ text.length; omega) (step_backslash first) rfl]
  exact runFrom_step (by show before.length + 1 ≤ text.length; omega) (step_escaped second fits) rfl

theorem runFrom_escapes (word : Bytes) (shape : text = before ++ word.flatMap
      (fun byte => [backslash, byte]) ++ rest) (nonempty : word ≠ [])
    (fits : token.length + word.length ≤ maximumTokenLength) :
    runFrom text environment (reading arguments before.length token started) =
      runFrom text environment
        (reading arguments (before.length + 2 * word.length) (token ++ word) true) := by
  induction word generalizing before token started with
  | nil => exact absurd rfl nonempty
  | cons byte word hypothesis =>
    have shape' : text = before ++ backslash :: byte ::
        (word.flatMap (fun byte => [backslash, byte]) ++ rest) := by
      rw [shape]
      simp
    rw [length_cons] at fits
    rw [runFrom_escape shape' (by omega)]
    obtain rfl | last := eq_or_ne word ([])
    · rfl
    · have longer := @hypothesis (before ++ [backslash, byte]) (token ++ [byte]) true
        (by rw [shape]; simp) last (by rw [length_append, length_singleton]; omega)
      rw [length_append, append_assoc] at longer
      rw [length_cons, show before.length + 2 * (word.length + 1) =
        before.length + 2 + 2 * word.length by omega]
      exact longer

theorem step_openQuote (here : text[index]? = some singleQuote) :
    (reading arguments index [] false).step text environment =
      .ok { reading arguments index [] true with quote := singleQuote } := by
  unfold step reading
  dsimp only
  rw [here]
  rfl

theorem step_closeQuote (here : text[index]? = some singleQuote) :
    ({ reading arguments index [] true with quote := singleQuote } : Scanner).step text environment =
      .ok (reading arguments index [] true) := by
  unfold step reading
  dsimp only
  rw [here]
  rfl

/-- A quoted word is read as it was. -/
theorem runFrom_argument (argument : Bytes) (shape : text = before ++ quoteArgument argument ++ rest)
    (fits : argument.length ≤ maximumTokenLength) :
    runFrom text environment (reading arguments before.length [] false) =
      runFrom text environment
        (reading arguments (before.length + (quoteArgument argument).length) argument true) := by
  unfold quoteArgument at shape ⊢
  obtain rfl | empty := eq_or_ne argument ([])
  · rw [if_pos rfl] at shape
    have first : text[before.length]? = some singleQuote := by simp [shape]
    have second : text[before.length + 1]? = some singleQuote := by simp [shape]
    have long : before.length + 2 ≤ text.length := by simp [shape]
    rw [runFrom_step (by show before.length ≤ text.length; omega) (step_openQuote first) rfl]
    exact runFrom_step (by show before.length + 1 ≤ text.length; omega) (step_closeQuote second) rfl
  · rw [if_neg empty] at shape ⊢
    have read := @runFrom_escapes text before rest [] environment arguments false argument shape
      empty (by simpa using fits)
    rw [nil_append] at read
    rw [read, show (argument.flatMap fun byte => [backslash, byte]).length = 2 * argument.length by
      simp [length_flatMap, Nat.mul_comm]]

/-! ### Between words -/

theorem finishToken_reading (room : arguments.length < maximumArguments)
    (short : token.length ≤ maximumTokenLength) :
    (reading arguments index token true).finishToken =
      .ok (reading (arguments ++ [token]) index [] false) := by
  have pushed : ({ arguments := arguments } : Stage).push token =
      .ok { arguments := arguments ++ [token] } := by
    unfold Stage.push setToken
    rw [if_neg (not_le.mpr room), if_neg (not_lt.mpr short)]
    rfl
  have committed : commitToken { stages := [{ arguments := arguments }] } 0 token .none =
      .ok { stages := [{ arguments := arguments ++ [token] }] } := by
    show (do
      let stage ← ({ arguments := arguments } : Stage).push token
      pure ({ stages := [stage] } : CommandLine)) = _
    rw [pushed]
    rfl
  show (do
    let result ← commitToken { stages := [{ arguments := arguments }] } 0 token .none
    pure { reading arguments index token true with
      result := result
      token := []
      tokenStarted := false
      expectRedirection := .none }) = _
  rw [committed]
  rfl

theorem step_space (here : text[index]? = some space)
    (room : arguments.length < maximumArguments) (short : token.length ≤ maximumTokenLength) :
    (reading arguments index token true).step text environment =
      .ok (reading (arguments ++ [token]) index [] false) := by
  rw [← finishToken_reading room short]
  unfold step reading
  dsimp only
  rw [here]
  rfl

theorem step_end (here : text[index]? = none)
    (room : arguments.length < maximumArguments) (short : token.length ≤ maximumTokenLength) :
    (reading arguments index token true).step text environment =
      .ok (reading (arguments ++ [token]) text.length [] false) := by
  have finished := @finishToken_reading token arguments index room short
  unfold step
  dsimp only [reading]
  rw [here]
  show (stop · text) <$> (reading arguments index token true).finishToken = _
  rw [finished]
  rfl

/-- Each argument is read in its turn, and the end of the line ends the last one. -/
theorem runFrom_quote (remaining : List Bytes) (nonempty : remaining ≠ [])
    (shape : text = before ++ quoteLine remaining)
    (room : arguments.length + remaining.length ≤ maximumArguments)
    (short : ∀ argument ∈ remaining, argument.length ≤ maximumTokenLength) :
    runFrom text environment (reading arguments before.length [] false) =
      .ok (reading (arguments ++ remaining) (text.length + 1) [] false) := by
  induction remaining generalizing before arguments with
  | nil => exact absurd rfl nonempty
  | cons argument remaining hypothesis =>
    rw [length_cons] at room
    have fits := short argument mem_cons_self
    obtain rfl | last := eq_or_ne remaining ([])
    · have shape' : text = before ++ quoteArgument argument ++ [] := by
        rw [shape]
        simp [quoteLine, List.intercalate]
      have ends : before.length + (quoteArgument argument).length = text.length := by
        simp [shape']
      have done : text[text.length]? = none := List.getElem?_eq_none (le_refl _)
      rw [runFrom_argument argument shape' fits, ends,
        runFrom_step (le_refl _) (step_end done (by omega) fits) rfl]
      exact runFrom_over (Nat.lt_succ_self _)
    · have shape' : text = before ++ quoteArgument argument ++ space :: quoteLine remaining := by
        rw [shape, quoteLine_cons argument last, append_assoc]
      have here : text[before.length + (quoteArgument argument).length]? = some space := by
        simp [shape']
      have inside : before.length + (quoteArgument argument).length < text.length := by
        simp [shape']
      rw [runFrom_argument argument shape' fits,
        runFrom_step inside.le (step_space here (by omega) fits) rfl]
      have following := @hypothesis (before ++ quoteArgument argument ++ [space])
        (arguments ++ [argument]) last (by rw [shape']; simp)
        (by rw [length_append, length_singleton]; omega)
        fun other member => short other (mem_cons_of_mem _ member)
      rwa [length_append, length_append, append_assoc] at following

end Scanner

/-- Quoted arguments come back from the scanner exactly as they were. -/
theorem parse_quote (arguments : List Bytes) (environment : Environment)
    (atLeastOne : 1 ≤ arguments.length) (atMost : arguments.length ≤ 12)
    (short : ∀ argument ∈ arguments, argument.length ≤ 63)
    (fits : (quoteLine arguments).length ≤ 256) :
    parse (quoteLine arguments) environment =
      .ok { stages := [{ arguments := arguments }]
            inputPath := none
            outputPath := none
            appendOutput := false
            background := false } := by
  have nonempty : arguments ≠ [] := ne_nil_of_length_pos atLeastOne
  have read : Scanner.runFrom (quoteLine arguments) environment (Scanner.reading [] 0 [] false) =
      .ok (Scanner.reading ([] ++ arguments) ((quoteLine arguments).length + 1) [] false) :=
    @Scanner.runFrom_quote (quoteLine arguments) [] environment [] arguments nonempty rfl
      (by simpa using atMost) short
  unfold parse
  rw [if_neg (not_lt.mpr fits)]
  show (do
    let scanner ← Scanner.runFrom (quoteLine arguments) environment (Scanner.reading [] 0 [] false)
    scanner.finish) = _
  rw [read, nil_append]
  have counted : (arguments.length == 0) = false := beq_false_of_ne (Nat.ne_of_gt atLeastOne)
  show (if List.any [({ arguments := arguments } : Stage)] (·.arguments.length == 0) then _
    else if arguments.length = 0 then _ else _) = _
  rw [any_cons, counted, any_nil, Bool.or_false, if_neg Bool.false_ne_true,
    if_neg (Nat.ne_of_gt atLeastOne)]
  rfl

/-- A command, an empty argument, a variable's name and two operators. -/
theorem parse_quote_special : parse (quoteLine [[0x61], [], [dollar, 0x61], [bar, ampersand]])
      { entries := [{ used := true, key := [0x61], value := [space] }] } =
    .ok { stages := [{ arguments := [[0x61], [], [dollar, 0x61], [bar, ampersand]] }]
          inputPath := none
          outputPath := none
          appendOutput := false
          background := false } :=
  parse_quote _ _ (by decide) (by decide) (by decide) (by decide)

end ZigOs.RuntimeCommand
