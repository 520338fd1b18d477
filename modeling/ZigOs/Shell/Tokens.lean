/-
This file proves how a text splits into tokens: where a separator stands, the
tokens are those on its left and those on its right, unless a byte next to it
makes another operator of it.
-/

import ZigOs.Shell.Grammar

namespace ZigOs.Shell

open List

namespace Pending

variable {slack : Bool} {pending : Pending} {byte : UInt8}

/-- Tokens that a text completes, and what is pending behind it. -/
def run (slack : Bool) (pending : Pending) : Bytes → List Token × Pending
  | [] => ([], pending)
  | byte :: rest =>
    let rest := run slack (pending.step slack byte).2 rest
    ((pending.step slack byte).1 ++ rest.1, rest.2)

theorem step_semicolon : pending.step slack semicolon = (pending.last slack ++ [.semicolon], .word []) :=
  if_pos rfl

theorem step_space (blank : isSpace byte = true) : pending.step slack byte = (pending.tokens, .word []) := by
  have other : byte ≠ semicolon ∧ byte ≠ Shell.ampersand ∧ byte ≠ Shell.bar := by
    refine ⟨?_, ?_, ?_⟩ <;> rintro rfl <;> cases blank
  unfold step
  rw [if_neg other.1, if_neg other.2.1, if_neg other.2.2, if_pos blank]

/-- Only an ampersand leaves an ampersand pending. -/
theorem step_ne_ampersand (other : byte ≠ Shell.ampersand) (bytes : Bytes) :
    (pending.step slack byte).2 ≠ .ampersand bytes := by
  unfold step
  rw [if_neg other]
  cases pending <;> split_ifs <;> exact Pending.noConfusion

/-- Only a bar leaves a bar pending. -/
theorem step_ne_bar (other : byte ≠ Shell.bar) : (pending.step slack byte).2 ≠ .bar := by
  unfold step
  rw [if_neg other]
  cases pending <;> split_ifs <;> exact Pending.noConfusion

theorem run_append (first second : Bytes) : run slack pending (first ++ second) =
      ((run slack pending first).1 ++ (run slack (run slack pending first).2 second).1,
        (run slack (run slack pending first).2 second).2) := by
  induction first generalizing pending with
  | nil => rfl
  | cons byte first hypothesis =>
    simp only [run, cons_append, hypothesis, append_assoc]

variable {text : Bytes}

/-- Behind a text that does not end in an ampersand none is pending. -/
theorem run_ne_ampersand (slack : Bool) (ends : text.getLast? ≠ some Shell.ampersand)
    (bytes : Bytes) : (run slack (.word []) text).2 ≠ .ampersand bytes := by
  induction text using List.reverseRecOn with
  | nil => exact Pending.noConfusion
  | append_singleton text byte _ =>
    rw [run_append]
    refine step_ne_ampersand (fun same => ends ?_) bytes
    rw [getLast?_concat, same]

theorem run_ne_bar (slack : Bool) (ends : text.getLast? ≠ some Shell.bar) :
    (run slack (.word []) text).2 ≠ .bar := by
  induction text using List.reverseRecOn with
  | nil => exact Pending.noConfusion
  | append_singleton text byte _ =>
    rw [run_append]
    refine step_ne_bar fun same => ends ?_
    rw [getLast?_concat, same]

theorem last_eq_tokens (single : ∀ bytes, pending ≠ .ampersand bytes) :
    pending.last slack = pending.tokens := by
  cases pending with
  | word bytes => rfl
  | bar => rfl
  | ampersand bytes => exact absurd rfl (single bytes)

end Pending

open Pending

theorem tokensFrom_append (slack : Bool) (pending : Pending) (first second : Bytes) :
    tokensFrom slack pending (first ++ second) =
      (run slack pending first).1 ++ tokensFrom slack (run slack pending first).2 second := by
  induction first generalizing pending with
  | nil => rfl
  | cons byte first hypothesis =>
    show (pending.step slack byte).1 ++ tokensFrom slack _ (first ++ second) = _
    rw [hypothesis, ← append_assoc]
    rfl

/-- The tokens of a text are those it completes and those pending at its end. -/
theorem tokensFrom_eq (slack : Bool) (pending : Pending) (text : Bytes) :
    tokensFrom slack pending text =
      (run slack pending text).1 ++ (run slack pending text).2.last slack := by
  rw [← append_nil text, tokensFrom_append, append_nil]
  rfl

variable {pending : Pending}

/-! ### Separators -/

section Separators

variable {slack : Bool} {text : Bytes}

/-- A tail that gives the pending tokens and then others does so behind any text. -/
theorem tokensFrom_split {tail : Bytes} {others : List Token}
    (splits : tokensFrom slack (run slack pending text).2 tail =
      (run slack pending text).2.last slack ++ others) :
    tokensFrom slack pending (text ++ tail) = tokensFrom slack pending text ++ others := by
  rw [tokensFrom_append, splits, ← append_assoc, ← tokensFrom_eq]

theorem tokensFrom_semicolon (pending : Pending) (text rest : Bytes) :
    tokensFrom slack pending (text ++ semicolon :: rest) =
      tokensFrom slack pending text ++ .semicolon :: tokensFrom slack (.word []) rest := by
  refine tokensFrom_split ?_
  show (Pending.step slack _ semicolon).1 ++ tokensFrom slack (Pending.step slack _ semicolon).2 rest = _
  rw [step_semicolon, append_assoc]
  rfl

variable {byte : UInt8}

theorem tokensFrom_space (blank : isSpace byte = true) (ends : text.getLast? ≠ some ampersand)
    (rest : Bytes) : tokensFrom slack (.word []) (text ++ byte :: rest) =
      tokensFrom slack (.word []) text ++ tokensFrom slack (.word []) rest := by
  refine tokensFrom_split ?_
  show (Pending.step slack _ byte).1 ++ tokensFrom slack (Pending.step slack _ byte).2 rest = _
  rw [step_space blank, last_eq_tokens (run_ne_ampersand slack ends)]

/-- Two ampersands are an operator, unless another stands before them. -/
theorem tokensFrom_and (ends : text.getLast? ≠ some ampersand) (rest : Bytes) :
    tokensFrom slack (.word []) (text ++ ampersand :: ampersand :: rest) =
      tokensFrom slack (.word []) text ++ .andIf :: tokensFrom slack (.word []) rest := by
  refine tokensFrom_split ?_
  have single := run_ne_ampersand slack ends
  generalize (run slack (.word []) text).2 = pending at single
  cases pending with
  | word bytes =>
    show wordToken bytes ++ [.andIf] ++ _ = wordToken bytes ++ _
    rw [append_assoc]
    rfl
  | bar => rfl
  | ampersand bytes => exact absurd rfl (single bytes)

/-- Two bars are an operator, unless another stands before them. -/
theorem tokensFrom_or (ends : text.getLast? ≠ some ampersand) (single : text.getLast? ≠ some bar)
    (rest : Bytes) :
    tokensFrom slack (.word []) (text ++ bar :: bar :: rest) =
      tokensFrom slack (.word []) text ++ .orIf :: tokensFrom slack (.word []) rest := by
  refine tokensFrom_split ?_
  have apart := run_ne_ampersand slack ends
  have first := run_ne_bar slack single
  generalize (run slack (.word []) text).2 = pending at apart first
  cases pending with
  | word bytes => rfl
  | bar => exact absurd rfl first
  | ampersand bytes => exact absurd rfl (apart bytes)

/-- An ampersand alone, with something of the same list behind it. -/
theorem tokensFrom_ampersand (ends : text.getLast? ≠ some ampersand) (single : byte ≠ ampersand)
    (inside : byte ≠ semicolon) (rest : Bytes) :
    tokensFrom slack (.word []) (text ++ ampersand :: byte :: rest) =
      tokensFrom slack (.word []) text ++ .ampersand :: tokensFrom slack (.word []) (byte :: rest) := by
  refine tokensFrom_split ?_
  have apart := run_ne_ampersand slack ends
  generalize (run slack (.word []) text).2 = pending at apart
  have follows (bytes : Bytes) : tokensFrom slack (.ampersand bytes) (byte :: rest) =
      wordToken bytes ++ .ampersand :: tokensFrom slack (.word []) (byte :: rest) := by
    show (Pending.step slack _ byte).1 ++ tokensFrom slack (Pending.step slack _ byte).2 rest =
      wordToken bytes ++ .ampersand ::
        ((Pending.step slack _ byte).1 ++ tokensFrom slack (Pending.step slack _ byte).2 rest)
    unfold Pending.step
    rw [if_neg inside, if_neg single]
    split_ifs <;> simp [Pending.tokens, wordToken]
  cases pending with
  | word bytes => exact follows bytes
  | bar => exact congrArg (Token.bar :: ·) (follows [])
  | ampersand bytes => exact absurd rfl (apart bytes)

/-- A bar alone. -/
theorem tokensFrom_bar {rest : Bytes} (ends : text.getLast? ≠ some ampersand)
    (left : text.getLast? ≠ some bar) (right : rest.head? ≠ some bar) :
    tokensFrom slack (.word []) (text ++ bar :: rest) =
      tokensFrom slack (.word []) text ++ .bar :: tokensFrom slack (.word []) rest := by
  refine tokensFrom_split ?_
  have apart := run_ne_ampersand slack ends
  have first := run_ne_bar slack left
  generalize (run slack (.word []) text).2 = pending at apart first
  have follows : tokensFrom slack .bar rest = .bar :: tokensFrom slack (.word []) rest := by
    cases rest with
    | nil => rfl
    | cons byte rest =>
      have single : byte ≠ bar := fun same => right (congrArg some same)
      show (Pending.step slack _ byte).1 ++ tokensFrom slack (Pending.step slack _ byte).2 rest =
        .bar :: ((Pending.step slack _ byte).1 ++ tokensFrom slack (Pending.step slack _ byte).2 rest)
      unfold Pending.step
      rw [if_neg single]
      split_ifs <;> simp [Pending.tokens, Pending.last, wordToken]
  cases pending with
  | word bytes => exact congrArg (wordToken bytes ++ ·) follows
  | bar => exact absurd rfl first
  | ampersand bytes => exact absurd rfl (apart bytes)

end Separators

/-! ### Words -/

/-- A byte that neither separates words nor belongs to an operator. -/
structure Ordinary (byte : UInt8) : Prop where
  semicolon : byte ≠ semicolon
  ampersand : byte ≠ ampersand
  bar : byte ≠ bar
  visible : isSpace byte = false

section Words

variable {slack : Bool} {byte : UInt8} {word : Bytes}

theorem step_ordinary (ordinary : Ordinary byte) (bytes : Bytes) :
    Pending.step slack (.word bytes) byte = ([], .word (bytes ++ [byte])) := by
  unfold Pending.step
  rw [if_neg ordinary.semicolon, if_neg ordinary.ampersand, if_neg ordinary.bar,
    if_neg (ordinary.visible ▸ Bool.noConfusion)]

theorem step_ordinary_other (ordinary : Ordinary byte) (other : ∀ bytes, pending ≠ .word bytes) :
    pending.step slack byte = (pending.tokens, .word [byte]) := by
  unfold Pending.step
  rw [if_neg ordinary.semicolon, if_neg ordinary.ampersand, if_neg ordinary.bar,
    if_neg (ordinary.visible ▸ Bool.noConfusion)]
  cases pending with
  | word bytes => exact absurd rfl (other bytes)
  | bar => rfl
  | ampersand bytes => rfl

theorem tokensFrom_ordinary (ordinary : ∀ byte ∈ word, Ordinary byte) (bytes rest : Bytes) :
    tokensFrom slack (.word bytes) (word ++ rest) = tokensFrom slack (.word (bytes ++ word)) rest := by
  induction word generalizing bytes with
  | nil => rw [append_nil, nil_append]
  | cons byte word hypothesis =>
    obtain ⟨first, ordinary⟩ := forall_mem_cons.mp ordinary
    show (Pending.step slack (.word bytes) byte).1 ++
      tokensFrom slack (Pending.step slack (.word bytes) byte).2 (word ++ rest) = _
    rw [step_ordinary first, nil_append, hypothesis ordinary, append_assoc]
    rfl

/-- A word alone; it may end in an ampersand if the reading is slack. -/
theorem tokensFrom_word (some : word ≠ []) (ordinary : ∀ byte ∈ word, Ordinary byte) :
    tokensFrom slack (.word []) word = [.word word] := by
  rw [← append_nil word, tokensFrom_ordinary ordinary, append_nil]
  exact if_neg some

theorem tokensFrom_word_ampersand (ordinary : ∀ byte ∈ word, Ordinary byte) :
    tokensFrom true (.word []) (word ++ [ampersand]) = [.word (word ++ [ampersand])] :=
  tokensFrom_ordinary ordinary [] [ampersand]

theorem tokensFrom_blanks {blanks : Bytes} (blank : ∀ byte ∈ blanks, isSpace byte = true) (rest : Bytes) :
    tokensFrom slack (.word []) (blanks ++ rest) = tokensFrom slack (.word []) rest := by
  induction blanks with
  | nil => rfl
  | cons byte blanks hypothesis =>
    obtain ⟨first, blank⟩ := forall_mem_cons.mp blank
    show (Pending.step slack (.word []) byte).1 ++
      tokensFrom slack (Pending.step slack (.word []) byte).2 (blanks ++ rest) = _
    rw [step_space first, ← hypothesis blank]
    rfl

/-- A segment without separators in which an ampersand can only be the last byte. -/
structure Plain (segment : Bytes) : Prop where
  semicolon : semicolon ∉ segment
  bar : bar ∉ segment
  ampersand : ampersand ∉ segment.dropLast

variable {left : Bytes}

theorem ampersand_notMem_left {right : Bytes} (quiet : ampersand ∉ (left ++ right).dropLast)
    (some : right ≠ []) : ampersand ∉ left := fun member =>
  quiet (dropLast_append_of_ne_nil some ▸ mem_append_left _ member)

theorem ampersand_notMem_right {right : Bytes} (quiet : ampersand ∉ (left ++ right).dropLast) :
    ampersand ∉ right.dropLast := by
  by_cases some : right = []
  · exact some ▸ not_mem_nil
  · exact fun member => quiet (dropLast_append_of_ne_nil some ▸ mem_append_right _ member)

theorem Plain.right {right : Bytes} (plain : Plain (left ++ right)) : Plain right where
  semicolon := fun member => plain.semicolon (mem_append_right _ member)
  bar := fun member => plain.bar (mem_append_right _ member)
  ampersand := ampersand_notMem_right plain.ampersand

theorem Plain.tail (plain : Plain (byte :: word)) : Plain word :=
  Plain.right (show Plain ([byte] ++ word) from plain)

/-- The part of a plain segment with something behind it is ordinary but for spaces. -/
theorem Plain.ordinary {right : Bytes} (plain : Plain (left ++ right)) (some : right ≠ [])
    (visible : ∀ byte ∈ left, isSpace byte = false) : ∀ byte ∈ left, Ordinary byte :=
  fun byte member => {
    semicolon := fun same => plain.semicolon (same ▸ mem_append_left _ member)
    ampersand := fun same => ampersand_notMem_left plain.ampersand some (same ▸ member)
    bar := fun same => plain.bar (same ▸ mem_append_left _ member)
    visible := visible byte member }

/-- The last word of a plain segment. -/
theorem Plain.tokensFrom_last (plain : Plain word) (some : word ≠ [])
    (visible : ∀ byte ∈ word, isSpace byte = false) : tokensFrom true (.word []) word = [.word word] := by
  obtain ⟨front, last, rfl⟩ := (eq_nil_or_concat' word).resolve_left some
  have ordinary := plain.ordinary (cons_ne_nil _ _) fun byte member =>
    visible byte (mem_append_left _ member)
  obtain rfl | dangling := eq_or_ne last Shell.ampersand
  · exact tokensFrom_word_ampersand ordinary
  · refine tokensFrom_word some fun byte member => ?_
    rcases mem_append.mp member with member | member
    · exact ordinary byte member
    · obtain rfl := mem_singleton.mp member
      have among : byte ∈ front ++ [byte] := mem_append_right _ mem_cons_self
      exact ⟨fun same => plain.semicolon (same ▸ among), dangling,
        fun same => plain.bar (same ▸ among), visible byte among⟩

end Words

variable {text : Bytes}

/-- Only blank text has no tokens. -/
theorem blank_of_tokensFrom {slack : Bool} (none : tokensFrom slack pending text = []) :
    pending = .word [] ∧ ∀ byte ∈ text, isSpace byte = true := by
  have word {bytes : Bytes} (none : wordToken bytes = []) : bytes = [] := by
    by_contra some
    exact absurd ((if_neg some).symm.trans none) (cons_ne_nil _ _)
  induction text generalizing pending with
  | nil =>
    refine ⟨?_, fun _ member => absurd member not_mem_nil⟩
    cases pending with
    | word bytes => rw [word none]
    | bar => cases none
    | ampersand bytes =>
      cases slack with
      | false => exact absurd none (append_ne_nil_of_right_ne_nil _ (cons_ne_nil _ _))
      | true => cases none
  | cons byte text hypothesis =>
    obtain ⟨ended, later⟩ := append_eq_nil_iff.mp none
    obtain ⟨clear, blank⟩ := hypothesis later
    by_cases space : isSpace byte = true
    · rw [step_space space] at ended
      refine ⟨?_, forall_mem_cons.mpr ⟨space, blank⟩⟩
      cases pending with
      | word bytes => rw [word ended]
      | bar => cases ended
      | ampersand bytes =>
        exact absurd ended (append_ne_nil_of_right_ne_nil _ (cons_ne_nil _ _))
    · exfalso
      unfold Pending.step at ended clear
      split_ifs at ended clear
      · exact absurd ended (append_ne_nil_of_right_ne_nil _ (cons_ne_nil _ _))
      · cases pending with
        | word bytes => cases clear
        | bar => cases clear
        | ampersand bytes =>
          exact absurd ended (append_ne_nil_of_right_ne_nil _ (cons_ne_nil _ _))
      · cases pending with
        | word bytes => cases clear
        | bar => cases ended
        | ampersand bytes => cases clear
      · cases pending with
        | word bytes => exact absurd (Pending.word.inj clear) (by simp)
        | bar => cases clear
        | ampersand bytes => cases clear

/-! ### Which tokens occur -/

/-- The tokens that something pending may end in. -/
inductive Ends (slack : Bool) : Pending → Token → Prop
  | word {bytes : Bytes} : bytes ≠ [] → Ends slack (.word bytes) (.word bytes)
  | bar : Ends slack .bar .bar
  | behind {bytes : Bytes} : bytes ≠ [] → Ends slack (.ampersand bytes) (.word bytes)
  | ampersand {bytes : Bytes} : Ends slack (.ampersand bytes) .ampersand
  | dangling {bytes : Bytes} :
    slack = true → Ends slack (.ampersand bytes) (.word (bytes ++ [Shell.ampersand]))

/-- The tokens of a step. -/
inductive Completes (slack : Bool) : Pending → UInt8 → Token → Prop
  | ends {pending : Pending} {byte : UInt8} {token : Token} :
    Ends slack pending token → Completes slack pending byte token
  | semicolon {pending : Pending} : Completes slack pending Shell.semicolon .semicolon
  | orIf : Completes slack .bar Shell.bar .orIf
  | andIf {bytes : Bytes} : Completes slack (.ampersand bytes) Shell.ampersand .andIf

section Occurrences

variable {slack : Bool} {pending : Pending} {text : Bytes} {byte : UInt8} {token : Token}

variable {bytes : Bytes}

theorem mem_wordToken (member : token ∈ wordToken bytes) : token = .word bytes ∧ bytes ≠ [] := by
  unfold wordToken at member
  split at member
  · cases member
  · rename_i some
    exact ⟨mem_singleton.mp member, some⟩

theorem ends_of_mem (member : token ∈ pending.tokens) : Ends slack pending token := by
  cases pending with
  | word bytes =>
    obtain ⟨rfl, some⟩ := mem_wordToken member
    exact .word some
  | bar =>
    obtain rfl := mem_singleton.mp member
    exact .bar
  | ampersand bytes =>
    rcases mem_append.mp member with member | member
    · obtain ⟨rfl, some⟩ := mem_wordToken member
      exact .behind some
    · obtain rfl := mem_singleton.mp member
      exact .ampersand

theorem ends_of_mem_last (member : token ∈ pending.last slack) : Ends slack pending token := by
  cases pending with
  | word bytes => exact ends_of_mem member
  | bar => exact ends_of_mem member
  | ampersand bytes =>
    cases slack with
    | false => exact ends_of_mem member
    | true =>
      obtain rfl := mem_singleton.mp member
      exact .dangling rfl

theorem completes_of_mem (member : token ∈ (pending.step slack byte).1) :
    Completes slack pending byte token := by
  unfold Pending.step at member
  by_cases separates : byte = Shell.semicolon
  · rw [if_pos separates] at member
    subst separates
    rcases mem_append.mp member with member | member
    · exact .ends (ends_of_mem_last member)
    · obtain rfl := mem_singleton.mp member
      exact .semicolon
  rw [if_neg separates] at member
  by_cases joins : byte = Shell.ampersand
  · rw [if_pos joins] at member
    subst joins
    cases pending with
    | word bytes => cases member
    | bar => exact .ends (ends_of_mem member)
    | ampersand bytes =>
      rcases mem_append.mp member with member | member
      · obtain ⟨rfl, some⟩ := mem_wordToken member
        exact .ends (.behind some)
      · obtain rfl := mem_singleton.mp member
        exact .andIf
  rw [if_neg joins] at member
  by_cases pipes : byte = Shell.bar
  · rw [if_pos pipes] at member
    subst pipes
    cases pending with
    | word bytes => exact .ends (ends_of_mem member)
    | bar =>
      obtain rfl := mem_singleton.mp member
      exact .orIf
    | ampersand bytes => exact .ends (ends_of_mem member)
  rw [if_neg pipes] at member
  split at member
  · exact .ends (ends_of_mem member)
  · cases pending with
    | word bytes => cases member
    | bar => exact .ends (ends_of_mem member)
    | ampersand bytes => exact .ends (ends_of_mem member)

/-- What holds of every token that a step or the end completes holds of all. -/
theorem forall_tokensFrom (Holds : Token → Prop) (Keeps : Pending → Prop)
    (ended : ∀ pending token, Keeps pending → Ends slack pending token → Holds token)
    (step : ∀ pending, Keeps pending → ∀ byte ∈ text,
      (∀ token, Completes slack pending byte token → Holds token) ∧ Keeps (pending.step slack byte).2)
    (keeps : Keeps pending) : ∀ token ∈ tokensFrom slack pending text, Holds token := by
  induction text generalizing pending with
  | nil => exact fun token member => ended pending token keeps (ends_of_mem_last member)
  | cons byte rest hypothesis =>
    obtain ⟨completed, kept⟩ := step pending keeps byte mem_cons_self
    intro token member
    rcases mem_append.mp member with member | member
    · exact completed token (completes_of_mem member)
    · exact hypothesis (fun pending keeps byte member =>
        step pending keeps byte (mem_cons_of_mem _ member)) kept token member

theorem semicolon_notMem (absent : semicolon ∉ text) : .semicolon ∉ tokensFrom slack pending text := by
  have ended (pending : Pending) (token : Token) (ends : Ends slack pending token) :
      token ≠ .semicolon := by
    cases ends <;> exact Token.noConfusion
  refine fun member => forall_tokensFrom (· ≠ .semicolon) (fun _ => True)
    (fun pending token _ => ended pending token) (fun pending _ byte member => ⟨?_, trivial⟩) trivial _
    member rfl
  rintro token (ends | _ | _ | _)
  · exact ended _ _ ends
  · exact absurd member absent
  · exact Token.noConfusion
  · exact Token.noConfusion

theorem bar_notMem (absent : bar ∉ text) : .bar ∉ tokensFrom slack (.word []) text := by
  have ended (pending : Pending) (token : Token) (keeps : pending ≠ .bar)
      (ends : Ends slack pending token) : token ≠ .bar := by
    cases ends with
    | bar => exact absurd rfl keeps
    | _ => exact Token.noConfusion
  refine fun member => forall_tokensFrom (· ≠ .bar) (· ≠ .bar) ended
    (fun pending keeps byte member => ⟨?_, ?_⟩) Pending.noConfusion _ member rfl
  · rintro token (ends | _ | _ | _)
    · exact ended _ _ keeps ends
    · exact Token.noConfusion
    · exact Token.noConfusion
    · exact Token.noConfusion
  · exact step_ne_bar fun same => absent (same ▸ member)

/-- Words are not empty, and only a slack reading leaves an ampersand in them. -/
theorem word_ordinary (member : .word bytes ∈ tokensFrom slack (.word []) text) :
    bytes ≠ [] ∧ ∀ byte ∈ bytes, Ordinary byte ∨ (slack = true ∧ byte = ampersand) := by
  let Fine (byte : UInt8) : Prop := Ordinary byte ∨ (slack = true ∧ byte = ampersand)
  let Holds (token : Token) : Prop :=
    ∀ bytes, token = .word bytes → bytes ≠ [] ∧ ∀ byte ∈ bytes, Fine byte
  let Keeps (pending : Pending) : Prop :=
    ∀ bytes, pending = .word bytes ∨ pending = .ampersand bytes → ∀ byte ∈ bytes, Fine byte
  have ended (pending : Pending) (token : Token) (keeps : Keeps pending)
      (ends : Ends slack pending token) : Holds token := by
    rintro bytes rfl
    cases ends with
    | word some => exact ⟨some, keeps _ (.inl rfl)⟩
    | behind some => exact ⟨some, keeps _ (.inr rfl)⟩
    | dangling loose =>
      refine ⟨append_ne_nil_of_right_ne_nil _ (cons_ne_nil _ _), fun byte member => ?_⟩
      rcases mem_append.mp member with member | member
      · exact keeps _ (.inr rfl) byte member
      · exact .inr ⟨loose, mem_singleton.mp member⟩
  have empty : Keeps (.word []) := by
    rintro bytes (same | same)
    · cases same
      exact fun _ member => absurd member not_mem_nil
    · cases same
  refine forall_tokensFrom Holds Keeps ended (fun pending keeps byte _ => ⟨?_, ?_⟩)
    empty _ member bytes rfl
  · rintro token (ends | _ | _ | _)
    · exact ended _ _ keeps ends
    all_goals exact fun _ same => Token.noConfusion same
  · unfold Pending.step
    split_ifs with separates joins pipes blank
    · exact empty
    · cases pending with
      | word bytes =>
        rintro _ (same | same)
        · cases same
        · cases same
          exact keeps bytes (.inl rfl)
      | bar =>
        rintro _ (same | same)
        · cases same
        · cases same
          exact fun _ member => absurd member not_mem_nil
      | ampersand bytes => exact empty
    · cases pending with
      | bar => exact empty
      | _ => rintro _ (same | same) <;> cases same
    · exact empty
    · have fine : Fine byte := .inl ⟨separates, joins, pipes, Bool.eq_false_of_not_eq_true blank⟩
      have alone : Keeps (.word [byte]) := by
        rintro _ (same | same)
        · cases same
          exact fun _ member => mem_singleton.mp member ▸ fine
        · cases same
      cases pending with
      | word bytes =>
        rintro _ (same | same)
        · cases same
          intro other member
          rcases mem_append.mp member with member | member
          · exact keeps bytes (.inl rfl) other member
          · exact mem_singleton.mp member ▸ fine
        · cases same
      | bar => exact alone
      | ampersand bytes => exact alone

/-- No two bars stand side by side. -/
def Single (text : Bytes) : Prop := text.IsChain fun left right => left ≠ bar ∨ right ≠ bar

def IsConditional (token : Token) : Prop := token = .andIf ∨ token = .orIf

/-- Without two bars side by side, and with an ampersand at its end only, a text has no
conditional operator. -/
theorem conditional_notMem (single : Single text) (quiet : ampersand ∉ text.dropLast)
    (apart : ∀ bytes, pending ≠ .ampersand bytes) (first : pending = .bar → text.head? ≠ some bar) :
    ∀ token ∈ tokensFrom true pending text, ¬IsConditional token := by
  have ended {pending : Pending} {token : Token} (ends : Ends true pending token) :
      ¬IsConditional token := by
    rintro (rfl | rfl) <;> cases ends
  induction text generalizing pending with
  | nil => exact fun token member => ended (ends_of_mem_last member)
  | cons byte rest hypothesis =>
    intro token member
    rcases mem_append.mp member with member | member
    · cases completes_of_mem member with
      | ends ends => exact ended ends
      | semicolon => exact fun conditional => by rcases conditional with same | same <;> cases same
      | orIf => exact absurd rfl (first rfl)
      | andIf => exact absurd rfl (apart _)
    · cases rest with
      | nil => exact ended (ends_of_mem_last member)
      | cons next rest =>
        have other : byte ≠ ampersand := fun same => quiet (same ▸ mem_cons_self)
        refine hypothesis (isChain_cons_cons.mp single).2
          (fun member => quiet (mem_cons_of_mem _ member)) (step_ne_ampersand other)
          (fun pends same => ?_) token member
        rcases (isChain_cons_cons.mp single).1 with left | right
        · exact step_ne_bar left pends
        · exact right (Option.some.inj same)

end Occurrences

/-! ### The two readings -/

/-- A slack reading differs only where a plain one has an ampersand. -/
theorem slack_eq (absent : .ampersand ∉ tokensFrom false pending text) :
    tokensFrom true pending text = tokensFrom false pending text := by
  have last {pending : Pending} (absent : .ampersand ∉ pending.last false) :
      pending.last true = pending.last false := by
    cases pending with
    | word bytes => rfl
    | bar => rfl
    | ampersand bytes => exact absurd (mem_append_right _ mem_cons_self) absent
  induction text generalizing pending with
  | nil => exact last absent
  | cons byte text hypothesis =>
    obtain ⟨here, later⟩ := not_or.mp (mt mem_append.mpr absent)
    have same : pending.step true byte = pending.step false byte := by
      obtain rfl | separates := eq_or_ne byte semicolon
      · rw [step_semicolon] at here ⊢
        rw [step_semicolon, last (fun member => here (mem_append_left _ member))]
      · unfold Pending.step
        rw [if_neg separates, if_neg separates]
    show (pending.step true byte).1 ++ tokensFrom true (pending.step true byte).2 text = _
    rw [same, hypothesis later]
    rfl

/-- Spaces at the end of a text say nothing. -/
theorem tokensFrom_spaces {text spaces : Bytes} (blank : ∀ byte ∈ spaces, isSpace byte = true) :
    tokensFrom false (.word []) (text ++ spaces) = tokensFrom false (.word []) text := by
  rw [tokensFrom_append, tokensFrom_eq false _ text]
  generalize (run false (.word []) text).2 = pending
  have last : pending.last false = pending.tokens := by cases pending <;> rfl
  cases spaces with
  | nil => rfl
  | cons byte spaces =>
    obtain ⟨first, blank⟩ := forall_mem_cons.mp blank
    have rest := @tokensFrom_blanks false spaces blank []
    rw [append_nil] at rest
    show _ ++ ((pending.step false byte).1 ++ tokensFrom false (pending.step false byte).2 spaces) = _
    rw [step_space first, last, rest]
    exact congrArg _ (append_nil _)

/-- An ampersand of its own at the end of a text. -/
theorem tokensFrom_background (ends : text.getLast? ≠ some ampersand) :
    tokensFrom false (.word []) (text ++ [ampersand]) =
      tokensFrom false (.word []) text ++ [.ampersand] := by
  refine tokensFrom_split ?_
  have apart := run_ne_ampersand false ends
  generalize (run false (.word []) text).2 = pending at apart
  cases pending with
  | word bytes => rfl
  | bar => rfl
  | ampersand bytes => exact absurd rfl (apart bytes)

/-- A pair of ampersands at the end of a text leaves an operator. -/
theorem run_pair {front : Bytes}
    (paired : ∀ bytes, (run false (.word []) (front ++ [ampersand])).2 ≠ .ampersand bytes) :
    ∃ done, run false (.word []) (front ++ [ampersand]) = (done ++ [.andIf], .word []) := by
  rw [run_append] at paired ⊢
  generalize run false (.word []) front = reached at paired ⊢
  obtain ⟨done, pending⟩ := reached
  cases pending with
  | word bytes => exact absurd rfl (paired bytes)
  | bar => exact absurd rfl (paired [])
  | ampersand bytes =>
    refine ⟨done ++ wordToken bytes, congrArg (·, Pending.word []) ?_⟩
    show done ++ (wordToken bytes ++ [.andIf] ++ []) = _
    rw [append_nil, append_assoc]

/-! ### Writing tokens -/

variable {token : Token}

theorem tokensFrom_text
    (ordinary : ∀ bytes, token = .word bytes → bytes ≠ [] ∧ ∀ byte ∈ bytes, Ordinary byte) :
    tokensFrom false (.word []) (Script.text token) = [token] := by
  cases token with
  | word bytes =>
    obtain ⟨filled, ordinary⟩ := ordinary bytes rfl
    exact tokensFrom_word filled ordinary
  | semicolon => rfl
  | bar => rfl
  | orIf => rfl
  | ampersand => rfl
  | andIf => rfl

/-- Tokens that are written with single spaces between them are read again. -/
theorem tokensFrom_spaced {written : List Token}
    (ordinary : ∀ bytes, .word bytes ∈ written → bytes ≠ [] ∧ ∀ byte ∈ bytes, Ordinary byte) :
    tokensFrom false (.word []) (Script.spaced written) = written := by
  induction written with
  | nil => rfl
  | cons token rest hypothesis =>
    have own := tokensFrom_text fun bytes same => ordinary bytes (same ▸ mem_cons_self)
    cases rest with
    | nil => exact own
    | cons next rest =>
      have others := hypothesis fun bytes member => ordinary bytes (mem_cons_of_mem _ member)
      have split : tokensFrom false (.word []) (Script.spaced (token :: next :: rest)) =
          tokensFrom false (.word []) (Script.text token) ++
            tokensFrom false (.word []) (Script.spaced (next :: rest)) := by
        refine tokensFrom_split ?_
        generalize (run false (.word []) (Script.text token)).2 = pending
        show (pending.step false space).1 ++ tokensFrom false (pending.step false space).2 _ = _
        rw [step_space rfl]
        cases pending <;> rfl
      rw [split, own, others]
      rfl

/-! ### Parts -/

section Parts

variable {Value : Type}

/-- A list splits at its first separator in one way only. -/
theorem split_unique (IsSeparator : Value → Prop) {left left' right right' : List Value} {separator separator' : Value}
    (clean : ∀ value ∈ left, ¬IsSeparator value) (clean' : ∀ value ∈ left', ¬IsSeparator value)
    (separates : IsSeparator separator) (separates' : IsSeparator separator')
    (same : left ++ separator :: right = left' ++ separator' :: right') :
    left = left' ∧ separator = separator' ∧ right = right' := by
  induction left generalizing left' with
  | nil =>
    cases left' with
    | nil => exact ⟨rfl, List.cons.inj same⟩
    | cons value left' =>
      cases same
      exact absurd separates (clean' _ mem_cons_self)
  | cons value left hypothesis =>
    cases left' with
    | nil =>
      cases same
      exact absurd separates' (clean _ mem_cons_self)
    | cons value' left' =>
      obtain ⟨rfl, rest⟩ := List.cons.inj same
      obtain ⟨rfl, others⟩ := hypothesis (forall_mem_cons.mp clean).2
        (forall_mem_cons.mp clean').2 rest
      exact ⟨rfl, others⟩

variable {separator : Token} {part : List Token} {parts : List (List Token)}

theorem joined_cons (more : parts ≠ []) :
    joined separator (part :: parts) = part ++ separator :: joined separator parts := by
  cases parts with
  | nil => exact absurd rfl more
  | cons next parts => rfl

theorem mem_joined
    (member : token ∈ joined separator parts) : token = separator ∨ ∃ part ∈ parts, token ∈ part := by
  induction parts with
  | nil => cases member
  | cons part parts hypothesis =>
    obtain rfl | more := eq_or_ne parts ([])
    · exact .inr ⟨part, mem_cons_self, member⟩
    · rw [joined_cons more] at member
      rcases mem_append.mp member with member | member
      · exact .inr ⟨part, mem_cons_self, member⟩
      · rcases mem_cons.mp member with same | member
        · exact .inl same
        · rcases hypothesis member with same | ⟨other, among, member⟩
          · exact .inl same
          · exact .inr ⟨other, mem_cons_of_mem _ among, member⟩

theorem mem_joined_of_mem (among : part ∈ parts)
    (member : token ∈ part) : token ∈ joined separator parts := by
  induction parts with
  | nil => cases among
  | cons first parts hypothesis =>
    obtain rfl | more := eq_or_ne parts ([])
    · exact mem_singleton.mp among ▸ member
    · rw [joined_cons more]
      rcases mem_cons.mp among with rfl | among
      · exact mem_append_left _ member
      · exact mem_append_right _ (mem_cons_of_mem _ (hypothesis among))

/-- Parts without separators can be told from what they are joined to: the first one ends
at the first separator. -/
theorem joined_split {left right : List Token} (clean : ∀ part ∈ parts, separator ∉ part)
    (first : separator ∉ left) (same : joined separator parts = left ++ separator :: right) :
    ∃ rest, rest ≠ [] ∧ parts = left :: rest ∧ joined separator rest = right := by
  cases parts with
  | nil => exact absurd same.symm (append_ne_nil_of_right_ne_nil _ (cons_ne_nil _ _))
  | cons part rest =>
    have own := clean part mem_cons_self
    obtain rfl | more := eq_or_ne rest ([])
    · have whole : part = left ++ separator :: right := same
      exact absurd (whole ▸ mem_append_right _ mem_cons_self) own
    · rw [joined_cons more] at same
      obtain ⟨rfl, -, rfl⟩ := split_unique (· = separator)
        (fun _ member equal => own (equal ▸ member)) (fun _ member equal => first (equal ▸ member)) rfl rfl
        same
      exact ⟨rest, more, rfl, rfl⟩

theorem joined_single {whole : List Token} (some : parts ≠ []) (clean : separator ∉ whole)
    (same : joined separator parts = whole) : parts = [whole] := by
  cases parts with
  | nil => exact absurd rfl some
  | cons part rest =>
    obtain rfl | more := eq_or_ne rest ([])
    · exact congrArg (fun part => [part]) same
    · rw [joined_cons more] at same
      exact absurd (same ▸ mem_append_right _ mem_cons_self) clean

end Parts

namespace Script

theorem command_inj {first second : Command} (same : Command.tokens first = Command.tokens second) :
    first = second :=
  map_injective_iff.mpr (fun _ _ same => Token.word.inj same) same

variable {command : Command} {token : Token}

theorem mem_command (member : token ∈ Command.tokens command) :
    ∃ bytes ∈ command, .word bytes = token := mem_map.mp member

variable {pipeline : Pipeline}

theorem mem_pipeline (member : token ∈ Pipeline.tokens pipeline) :
    token = .bar ∨ ∃ command ∈ pipeline, ∃ bytes ∈ command, .word bytes = token := by
  rcases mem_joined member with same | ⟨part, among, member⟩
  · exact .inl same
  · obtain ⟨command, present, rfl⟩ := mem_map.mp among
    exact .inr ⟨command, present, mem_command member⟩

theorem bar_notMem_command (command : Command) : .bar ∉ Command.tokens command := fun member => by
  obtain ⟨bytes, -, same⟩ := mem_command member
  cases same

variable {left : List Token}

/-- A pipeline that splits at a bar has its first command before it. -/
theorem pipeline_split {right : List Token} (first : .bar ∉ left)
    (same : Pipeline.tokens pipeline = left ++ .bar :: right) :
    ∃ command rest, pipeline = command :: rest ∧ rest ≠ [] ∧ Command.tokens command = left ∧
      Pipeline.tokens rest = right := by
  obtain ⟨rest, more, parts, rest_eq⟩ := joined_split (fun part member => by
    obtain ⟨command, -, rfl⟩ := mem_map.mp member
    exact bar_notMem_command command) first same
  cases pipeline with
  | nil => cases parts
  | cons command pipeline =>
    obtain ⟨head, tail⟩ := List.cons.inj parts
    refine ⟨command, pipeline, rfl, ?_, head, ?_⟩
    · rintro rfl
      exact more tail.symm
    · rw [← rest_eq, ← tail]
      rfl

variable {whole : List Token}

theorem pipeline_single (some : pipeline ≠ []) (clean : .bar ∉ whole)
    (same : Pipeline.tokens pipeline = whole) :
    ∃ command, pipeline = [command] ∧ Command.tokens command = whole := by
  have parts := joined_single (mt map_eq_nil_iff.mp some) clean same
  cases pipeline with
  | nil => exact absurd rfl some
  | cons command rest =>
    obtain ⟨head, tail⟩ := List.cons.inj parts
    obtain rfl := map_eq_nil_iff.mp tail
    exact ⟨command, rfl, head⟩

theorem pipeline_not_conditional (pipeline : Pipeline) :
    ∀ token ∈ Pipeline.tokens pipeline, ¬IsConditional token := by
  intro token member
  rcases mem_pipeline member with rfl | ⟨-, -, bytes, -, rfl⟩
  · exact fun conditional => by rcases conditional with same | same <;> cases same
  · exact fun conditional => by rcases conditional with same | same <;> cases same

theorem operatorTokens_of_ne {operator : ConditionalOperator} (joins : operator ≠ .always) :
    ∃ token, operatorTokens operator = [token] ∧ IsConditional token := by
  cases operator with
  | always => exact absurd rfl joins
  | andIf => exact ⟨.andIf, rfl, .inl rfl⟩
  | orIf => exact ⟨.orIf, rfl, .inr rfl⟩

theorem operatorTokens_inj {first second : ConditionalOperator}
    (same : operatorTokens first = operatorTokens second) : first = second := by
  cases first <;> cases second <;> first | rfl | cases same

variable {list : Conditional}

theorem mem_conditional (member : token ∈ Conditional.tokens list) :
    IsConditional token ∨ ∃ entry ∈ list, token ∈ Pipeline.tokens entry.2 := by
  obtain ⟨⟨operator, pipeline⟩, among, member⟩ := mem_flatMap.mp member
  rcases mem_append.mp member with member | member
  · cases operator with
    | always => cases member
    | andIf => exact .inl (.inl (mem_singleton.mp member))
    | orIf => exact .inl (.inr (mem_singleton.mp member))
  · exact .inr ⟨_, among, member⟩

/-- The tokens of a list are words, bars and conditional operators. -/
theorem conditional_tokens (member : token ∈ Conditional.tokens list) :
    IsConditional token ∨ token = .bar ∨ ∃ bytes, .word bytes = token := by
  rcases mem_conditional member with conditional | ⟨entry, -, member⟩
  · exact .inl conditional
  · rcases mem_pipeline member with same | ⟨-, -, bytes, -, same⟩
    · exact .inr (.inl same)
    · exact .inr (.inr ⟨bytes, same⟩)

theorem conditional_cons (operator : ConditionalOperator) (pipeline : Pipeline) (others : Conditional) :
    Conditional.tokens ((operator, pipeline) :: others) =
      operatorTokens operator ++ (Pipeline.tokens pipeline ++ Conditional.tokens others) := by
  unfold Conditional.tokens
  rw [flatMap_cons, append_assoc]

variable {others : Conditional}

/-- A list that splits at a conditional operator has its first pipeline before it. -/
theorem conditional_split {right : List Token} (clean : ∀ token ∈ left, ¬IsConditional token)
    (conditional : IsConditional token) (joins : ∀ entry ∈ others, entry.1 ≠ .always)
    (same : Pipeline.tokens pipeline ++ Conditional.tokens others = left ++ token :: right) :
    ∃ operator next rest, others = (operator, next) :: rest ∧ operatorTokens operator = [token] ∧
      Pipeline.tokens pipeline = left ∧ Pipeline.tokens next ++ Conditional.tokens rest = right := by
  cases others with
  | nil =>
    have whole : Pipeline.tokens pipeline = left ++ token :: right := (append_nil _).symm.trans same
    exact absurd conditional
      (pipeline_not_conditional pipeline token (whole ▸ mem_append_right _ mem_cons_self))
  | cons entry rest =>
    obtain ⟨operator, next⟩ := entry
    obtain ⟨symbol, single, joining⟩ := operatorTokens_of_ne (joins _ mem_cons_self)
    rw [conditional_cons, single] at same
    obtain ⟨first, rfl, behind⟩ :=
      split_unique IsConditional (pipeline_not_conditional pipeline) clean joining conditional same
    exact ⟨operator, next, rest, rfl, single, first, behind⟩

theorem conditional_single (clean : ∀ token ∈ whole, ¬IsConditional token)
    (joins : ∀ entry ∈ others, entry.1 ≠ .always)
    (same : Pipeline.tokens pipeline ++ Conditional.tokens others = whole) : others = [] := by
  cases others with
  | nil => rfl
  | cons entry rest =>
    obtain ⟨operator, next⟩ := entry
    obtain ⟨symbol, single, joining⟩ := operatorTokens_of_ne (joins _ mem_cons_self)
    rw [conditional_cons, single] at same
    exact absurd joining (clean symbol (same ▸ mem_append_right _ mem_cons_self))

theorem pipeline_ne_nil (fits : Pipeline.Fits pipeline) : Pipeline.tokens pipeline ≠ [] := by
  obtain ⟨command, rest, rfl⟩ := exists_cons_of_ne_nil fits.nonempty
  have first : Command.tokens command ≠ [] :=
    mt map_eq_nil_iff.mp (fits.commands command mem_cons_self).1
  unfold Pipeline.tokens
  rw [map_cons]
  by_cases more : rest.map Command.tokens = []
  · rwa [more]
  · rw [joined_cons more]
    exact append_ne_nil_of_left_ne_nil first _

theorem conditional_ne_nil (fits : Conditional.Fits list) : Conditional.tokens list ≠ [] := by
  obtain ⟨pipeline, rest, rfl, -⟩ := fits.first
  rw [conditional_cons]
  exact append_ne_nil_of_right_ne_nil _
    (append_ne_nil_of_left_ne_nil (pipeline_ne_nil (fits.pipelines _ mem_cons_self)) _)

theorem semicolon_notMem_conditional (list : Conditional) : .semicolon ∉ Conditional.tokens list := by
  intro member
  rcases conditional_tokens member with (same | same) | same | ⟨_, same⟩ <;> cases same

variable {lists : List Conditional}

theorem listTokens_cons (list : Conditional) (more : lists ≠ []) :
    listTokens (list :: lists) = Conditional.tokens list ++ .semicolon :: listTokens lists :=
  joined_cons (mt map_eq_nil_iff.mp more)

variable {trailing : Bool}

/-- Lists that split at a semicolon have their first list before it. -/
theorem lists_split {right : List Token} (clean : .semicolon ∉ left)
    (same : listTokens (list :: lists) ++ trailingTokens trailing = left ++ .semicolon :: right) :
    Conditional.tokens list = left ∧ ((lists = [] ∧ trailing = true ∧ right = []) ∨
        (lists ≠ [] ∧ right = listTokens lists ++ trailingTokens trailing)) := by
  have own : ∀ token ∈ Conditional.tokens list, ¬token = .semicolon := fun token member equal =>
    semicolon_notMem_conditional list (equal ▸ member)
  have other : ∀ token ∈ left, ¬token = .semicolon := fun token member equal => clean (equal ▸ member)
  obtain rfl | more := eq_or_ne lists ([])
  · cases trailing with
    | false =>
      have whole : Conditional.tokens list = left ++ .semicolon :: right :=
        (append_nil _).symm.trans same
      exact absurd rfl (own _ (whole ▸ mem_append_right _ mem_cons_self))
    | true =>
      obtain ⟨first, -, behind⟩ := split_unique (· = .semicolon) own other rfl rfl same
      exact ⟨first, .inl ⟨rfl, rfl, behind.symm⟩⟩
  · rw [listTokens_cons list more, append_assoc] at same
    obtain ⟨first, -, behind⟩ := split_unique (· = .semicolon) own other rfl rfl same
    exact ⟨first, .inr ⟨more, behind.symm⟩⟩

/-- Without a semicolon there is one list. -/
theorem lists_single (clean : .semicolon ∉ whole)
    (same : listTokens (list :: lists) ++ trailingTokens trailing = whole) :
    lists = [] ∧ trailing = false ∧ Conditional.tokens list = whole := by
  obtain rfl | more := eq_or_ne lists ([])
  · cases trailing with
    | false => exact ⟨rfl, rfl, (append_nil _).symm.trans same⟩
    | true => exact absurd (same ▸ mem_append_right _ mem_cons_self) clean
  · rw [listTokens_cons list more, append_assoc] at same
    exact absurd (same ▸ mem_append_right _ mem_cons_self) clean

theorem mem_listTokens {entry : ConditionalOperator × Pipeline} {word : Bytes}
    (listed : list ∈ lists) (among : entry ∈ list) (stage : command ∈ entry.2)
    (member : word ∈ command) : .word word ∈ listTokens lists := by
  have words : .word word ∈ Command.tokens command := mem_map.mpr ⟨word, member, rfl⟩
  have stages : .word word ∈ Pipeline.tokens entry.2 :=
    mem_joined_of_mem (mem_map.mpr ⟨command, stage, rfl⟩) words
  have pipelines : .word word ∈ Conditional.tokens list :=
    mem_flatMap.mpr ⟨entry, among, mem_append_right _ stages⟩
  exact mem_joined_of_mem (mem_map.mpr ⟨list, listed, rfl⟩) pipelines

/-! ### Ends -/

def EndsInWord (tokens : List Token) : Prop := ∃ bytes, tokens.getLast? = some (.word bytes)

theorem EndsInWord.append {tokens : List Token} (ends : EndsInWord tokens) (front : List Token) :
    EndsInWord (front ++ tokens) := by
  obtain ⟨bytes, last⟩ := ends
  refine ⟨bytes, ?_⟩
  rw [getLast?_append, last]
  rfl

theorem endsInWord_joined (separator : Token) {parts : List (List Token)} (filled : parts ≠ [])
    (ends : ∀ part ∈ parts, EndsInWord part) : EndsInWord (joined separator parts) := by
  induction parts with
  | nil => exact absurd rfl filled
  | cons part parts hypothesis =>
    obtain ⟨own, others⟩ := forall_mem_cons.mp ends
    obtain rfl | more := eq_or_ne parts ([])
    · exact own
    · rw [joined_cons more, ← concat_append]
      exact (hypothesis more others).append _

theorem endsInWord_pipeline (fits : Pipeline.Fits pipeline) :
    EndsInWord (Pipeline.tokens pipeline) := by
  refine endsInWord_joined .bar (mt map_eq_nil_iff.mp fits.nonempty) fun part member => ?_
  obtain ⟨command, among, rfl⟩ := mem_map.mp member
  obtain ⟨front, last, rfl⟩ := (eq_nil_or_concat' command).resolve_left (fits.commands _ among).1
  refine ⟨last, ?_⟩
  unfold Command.tokens
  rw [map_append]
  exact getLast?_concat

theorem endsInWord_conditional (filled : list ≠ [])
    (fits : ∀ entry ∈ list, Pipeline.Fits entry.2) : EndsInWord (Conditional.tokens list) := by
  obtain ⟨front, entry, rfl⟩ := (eq_nil_or_concat' list).resolve_left filled
  unfold Conditional.tokens
  rw [flatMap_append, flatMap_singleton]
  exact ((endsInWord_pipeline (fits entry (mem_append_right _ mem_cons_self))).append _).append _

theorem endsInWord_lists (filled : lists ≠ [])
    (fits : ∀ list ∈ lists, Conditional.Fits list) : EndsInWord (listTokens lists) := by
  refine endsInWord_joined .semicolon (mt map_eq_nil_iff.mp filled) fun part member => ?_
  obtain ⟨list, among, rfl⟩ := mem_map.mp member
  have own := fits list among
  obtain ⟨pipeline, rest, filled, -⟩ := own.first
  exact endsInWord_conditional (filled ▸ cons_ne_nil _ _) own.pipelines

/-! ### Tokens determine the syntax -/

theorem pipeline_inj {first second : Pipeline} (filled : first ≠ []) (filled' : second ≠ [])
    (same : Pipeline.tokens first = Pipeline.tokens second) : first = second := by
  induction first generalizing second with
  | nil => exact absurd rfl filled
  | cons command rest hypothesis =>
    obtain rfl | more := eq_or_ne rest ([])
    · obtain ⟨other, rfl, tokens⟩ :=
        pipeline_single filled' (bar_notMem_command command) same.symm
      rw [command_inj tokens]
    · have split : Pipeline.tokens (command :: rest) =
          Command.tokens command ++ .bar :: Pipeline.tokens rest :=
        joined_cons (mt map_eq_nil_iff.mp more)
      obtain ⟨other, others, rfl, more', tokens, behind⟩ :=
        pipeline_split (bar_notMem_command command) (same.symm.trans split)
      rw [command_inj tokens, hypothesis more more' behind.symm]

theorem conditional_inj {pipeline' : Pipeline} {others' : Conditional}
    (joins : ∀ entry ∈ others, entry.1 ≠ .always) (joins' : ∀ entry ∈ others', entry.1 ≠ .always)
    (fits : ∀ entry ∈ (.always, pipeline) :: others, Pipeline.Fits entry.2)
    (fits' : ∀ entry ∈ (.always, pipeline') :: others', Pipeline.Fits entry.2)
    (same : Pipeline.tokens pipeline ++ Conditional.tokens others =
      Pipeline.tokens pipeline' ++ Conditional.tokens others') :
    pipeline = pipeline' ∧ others = others' := by
  induction others generalizing pipeline pipeline' others' with
  | nil =>
    have whole : Pipeline.tokens pipeline' ++ Conditional.tokens others' = Pipeline.tokens pipeline :=
      same.symm.trans (append_nil _)
    obtain rfl := conditional_single (pipeline_not_conditional pipeline) joins' whole
    refine ⟨pipeline_inj (fits _ mem_cons_self).nonempty (fits' _ mem_cons_self).nonempty ?_, rfl⟩
    exact whole.symm.trans (append_nil _)
  | cons entry rest hypothesis =>
    obtain ⟨operator, next⟩ := entry
    obtain ⟨token, single, conditional⟩ := operatorTokens_of_ne (joins _ mem_cons_self)
    rw [conditional_cons, single] at same
    obtain ⟨operator', next', rest', rfl, single', first, behind⟩ :=
      conditional_split (pipeline_not_conditional pipeline) conditional joins' same.symm
    obtain ⟨first_fits, rest_fits⟩ := forall_mem_cons.mp fits
    obtain ⟨first_fits', rest_fits'⟩ := forall_mem_cons.mp fits'
    obtain rfl := operatorTokens_inj (single.trans single'.symm)
    obtain ⟨rfl, rfl⟩ := hypothesis (forall_mem_cons.mp joins).2
      (forall_mem_cons.mp joins').2
      (forall_mem_cons.mpr (forall_mem_cons.mp rest_fits))
      (forall_mem_cons.mpr (forall_mem_cons.mp rest_fits')) behind.symm
    exact ⟨pipeline_inj first_fits.nonempty first_fits'.nonempty first.symm, rfl⟩

theorem Conditional.Fits.eq {list' : Conditional} (fits : Conditional.Fits list)
    (fits' : Conditional.Fits list') (same : Conditional.tokens list = Conditional.tokens list') :
    list = list' := by
  obtain ⟨pipeline, others, rfl, joins⟩ := fits.first
  obtain ⟨pipeline', others', rfl, joins'⟩ := fits'.first
  rw [conditional_cons, conditional_cons] at same
  obtain ⟨rfl, rfl⟩ := conditional_inj joins joins' fits.pipelines fits'.pipelines same
  rfl

theorem lists_inj {lists' : List Conditional} {trailing' : Bool} (filled : lists ≠ [])
    (filled' : lists' ≠ []) (fits : ∀ list ∈ lists, Conditional.Fits list)
    (fits' : ∀ list ∈ lists', Conditional.Fits list)
    (same : listTokens lists ++ trailingTokens trailing = listTokens lists' ++ trailingTokens trailing') :
    lists = lists' ∧ trailing = trailing' := by
  induction lists generalizing lists' with
  | nil => exact absurd rfl filled
  | cons list rest hypothesis =>
    obtain ⟨list', rest', rfl⟩ := exists_cons_of_ne_nil filled'
    obtain ⟨own, others⟩ := forall_mem_cons.mp fits
    obtain ⟨own', others'⟩ := forall_mem_cons.mp fits'
    have clean := semicolon_notMem_conditional list
    obtain rfl | more := eq_or_ne rest ([])
    · cases trailing with
      | false =>
        obtain ⟨rfl, rfl, tokens⟩ := lists_single clean (same.symm.trans (append_nil _))
        rw [own.eq own' tokens.symm]
        exact ⟨rfl, rfl⟩
      | true =>
        obtain ⟨tokens, ⟨rfl, rfl, -⟩ | ⟨filled, none⟩⟩ := lists_split clean same.symm
        · rw [own.eq own' tokens.symm]
          exact ⟨rfl, rfl⟩
        · obtain ⟨next, rest, rfl⟩ := exists_cons_of_ne_nil filled
          obtain ⟨-, -, empty⟩ := lists_single not_mem_nil none.symm
          exact absurd empty (conditional_ne_nil (others' _ mem_cons_self))
    · rw [listTokens_cons list more, append_assoc] at same
      obtain ⟨tokens, ⟨-, -, none⟩ | ⟨filled, behind⟩⟩ := lists_split clean same.symm
      · obtain ⟨next, rest, rfl⟩ := exists_cons_of_ne_nil more
        obtain ⟨-, -, empty⟩ := lists_single not_mem_nil none
        exact absurd empty (conditional_ne_nil (others _ mem_cons_self))
      · obtain ⟨rfl, rfl⟩ := hypothesis more filled others others' behind
        rw [own.eq own' tokens.symm]
        exact ⟨rfl, rfl⟩

end Script

end ZigOs.Shell
