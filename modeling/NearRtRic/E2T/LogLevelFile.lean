import Mathlib.Tactic
import NearRtRic.Library.Buffer
import NearRtRic.Library.Lines
import NearRtRic.Library.Tokens

/-! The log level that is read from the file of the config map. -/

namespace NearRtRic.E2T.LogLevelFile

open Buffer Lines Tokens

/-- The function that is given NULL. -/
inductive NullArgument
  | strcmp
  | strdup
  deriving DecidableEq

abbrev Content := { bytes : List Char // Plain bytes }

def search (char : Char) : Bool :=
  char = ':' || char = ' '

def newline (char : Char) : Bool :=
  char = '\n'

def string_match : List Char := "log-level".toList

/-- What `fgets(line, sizeof line, file)` reads, for a line of 128. -/
def linesRead (bytes : List Char) : List (List Char) :=
  reads '\n' 126 bytes

/-- The loop over the lines that are read: the token, which may be NULL, once it is found. Where
`token` is NULL, `strtok(token, "\n")` goes on at the saved position. -/
def findLevel : List (List Char) → Except NullArgument (Option (Option (List Char)))
  | [] => .ok none
  | line :: rest =>
      match (strtok search line).1 with
      | none => .error .strcmp
      | some token =>
          if token = string_match then
            let next := strtok search (strtok search line).2
            .ok (some (strtok newline (next.1.getD next.2)).1)
          else findLevel rest

/-- The file is `none` where it cannot be opened. -/
def parse_file (file : Option Content) : Except NullArgument (Option (List Char)) :=
  match file with
  | none => .ok none
  | some content =>
      match findLevel (linesRead content.1) with
      | .error null => .error null
      | .ok none => .ok none
      | .ok (some none) => .error .strdup
      | .ok (some (some token)) => .ok (some token)

def isLogLevel (line : List Char) : Bool :=
  (words search line).head? = some string_match

def levelToken (lines : List (List Char)) : Option (List Char) :=
  (lines.find? isLogLevel).bind fun line =>
    (words search line)[1]?.map fun token => token.takeWhile (· ≠ '\n')

/-- The lines before the first one for the log level all have a word, and that line has another
behind it, which is not only a newline. -/
def Readable (lines : List (List Char)) : Prop :=
  (∀ line ∈ lines.takeWhile fun line => !isLogLevel line, words search line ≠ []) ∧
    ∀ line, lines.find? isLogLevel = some line →
      ∃ token, (words search line)[1]? = some token ∧ token ≠ ['\n']

/-- No function is given NULL, and what is returned is NULL or the token. -/
def Survives (content : Content) : Prop :=
  ∃ result, parse_file (some content) = .ok result ∧
    (result = none ∨ result = levelToken (linesRead content.1))

theorem next_word (line : List Char) :
    (strtok search (strtok search line).2).1 = (words search line)[1]? := by
  calc
    (strtok search (strtok search line).2).1 =
        (words search (strtok search line).2).head? := (strtok_words _).1
    _ = (words search line).tail.head? := by rw [(strtok_words line).2]
    _ = (words search line)[1]? := by rw [List.head?_tail]

theorem saved_of_no_word {text : List Char} (none : (strtok search text).1 = none) :
    (strtok search text).2 = [] := by
  rw [strtok] at none ⊢
  cases start : text.dropWhile search with
  | nil => rfl
  | cons first rest => simp [start] at none

theorem newline_last_of_word {line word : List Char} (last : '\n' ∉ line.dropLast)
    (member : word ∈ words search line) : '\n' ∉ word.dropLast := by
  rcases infix_of_mem_words member with ⟨front, back, rfl⟩
  intro inside
  refine last ?_
  have whole : '\n' ∈ word := List.mem_of_mem_dropLast inside
  have nonempty : word ≠ [] := List.ne_nil_of_mem whole
  cases back with
  | nil =>
      rw [List.append_nil, List.dropLast_append_of_ne_nil nonempty]
      exact List.mem_append_right _ inside
  | cons char back =>
      rw [List.dropLast_append_of_ne_nil (by simp)]
      exact List.mem_append_left _ (List.mem_append_right _ whole)

theorem strip_newline {token : List Char} (nonempty : token ≠ []) (last : '\n' ∉ token.dropLast) :
    (strtok newline token).1 =
      if token = ['\n'] then none else some (token.takeWhile (· ≠ '\n')) := by
  rcases List.exists_cons_of_ne_nil nonempty with ⟨first, rest, rfl⟩
  by_cases ends : first = '\n'
  · have alone : rest = [] := by
      by_contra more
      rw [List.dropLast_cons_of_ne_nil more, List.mem_cons, not_or] at last
      exact last.1 ends.symm
    subst ends alone
    decide
  · have start : (first :: rest).dropWhile newline = first :: rest :=
      List.dropWhile_cons_of_neg (by simp [newline, ends])
    have other : first :: rest ≠ ['\n'] := fun same => ends (List.cons.inj same).1
    have symbols : (fun char => !newline char) = fun char => decide (char ≠ '\n') := by
      funext char
      simp [newline]
    rw [if_neg other, strtok, start]
    simp only [symbols]

theorem nonempty_of_word {text word : List Char} (member : word ∈ words search text) :
    word ≠ [] := by
  simpa using (List.mem_filter.mp member).2

theorem level_of_line {line : List Char} (last : '\n' ∉ line.dropLast) :
    (strtok newline ((strtok search (strtok search line).2).1.getD
        (strtok search (strtok search line).2).2)).1 =
      ((words search line)[1]?.filter (· ≠ ['\n'])).map
        fun token => token.takeWhile (· ≠ '\n') := by
  cases second : (words search line)[1]? with
  | none =>
      have none : (strtok search (strtok search line).2).1 = none := by rw [next_word, second]
      rw [none, saved_of_no_word none]
      rfl
  | some token =>
      have member : token ∈ words search line := List.mem_of_getElem? second
      rw [next_word, second, Option.getD_some,
        strip_newline (nonempty_of_word member) (newline_last_of_word last member)]
      by_cases ends : token = ['\n'] <;> simp [ends]

/-! One turn of the loop, by the first word of the line. -/

theorem turn_of_no_word {line : List Char} (none : words search line = [])
    (rest : List (List Char)) :
    findLevel (line :: rest) = .error .strcmp ∧ ¬ Readable (line :: rest) := by
  have noToken : (strtok search line).1 = .none := by rw [(strtok_words line).1, none]; rfl
  have other : isLogLevel line = false := by simp [isLogLevel, none]
  refine ⟨by rw [findLevel, noToken], ?_⟩
  intro readable
  exact readable.1 line (by simp [other]) none

theorem turn_of_log_level {line : List Char} (isLevel : isLogLevel line = true)
    (last : '\n' ∉ line.dropLast) (rest : List (List Char)) :
    findLevel (line :: rest) = .ok (some (((words search line)[1]?.filter (· ≠ ['\n'])).map
        fun token => token.takeWhile (· ≠ '\n'))) ∧
      (Readable (line :: rest) ↔
        ∃ token, (words search line)[1]? = some token ∧ token ≠ ['\n']) ∧
      levelToken (line :: rest) =
        (words search line)[1]?.map fun token => token.takeWhile (· ≠ '\n') := by
  have token : (strtok search line).1 = some string_match := by
    rw [(strtok_words line).1]
    exact of_decide_eq_true isLevel
  have found : (line :: rest).find? isLogLevel = some line := by simp [isLevel]
  refine ⟨?_, ?_, ?_⟩
  · rw [findLevel, token]
    simp only [if_true, level_of_line last]
  · rw [Readable, found]
    simp [isLevel]
  · rw [levelToken, found, Option.bind_some]

theorem turn_of_other {line : List Char} (other : isLogLevel line = false)
    (hasWord : words search line ≠ []) (rest : List (List Char)) :
    findLevel (line :: rest) = findLevel rest ∧
      (Readable (line :: rest) ↔ Readable rest) ∧
      levelToken (line :: rest) = levelToken rest := by
  rcases List.exists_cons_of_ne_nil hasWord with ⟨first, others, split⟩
  have token : (strtok search line).1 = some first := by rw [(strtok_words line).1, split]; rfl
  have differs : first ≠ string_match := by
    intro same
    simp [isLogLevel, split, same] at other
  have skipped : (line :: rest).find? isLogLevel = rest.find? isLogLevel := by simp [other]
  refine ⟨?_, ?_, ?_⟩
  · rw [findLevel, token]
    simp only [if_neg differs]
  · rw [Readable, skipped, List.takeWhile_cons_of_pos (by simp [other]), List.forall_mem_cons,
      Readable]
    simp only [hasWord, ne_eq, not_false_eq_true, true_and]
  · rw [levelToken, skipped, levelToken]

/-- The loop finds the token of readable lines; over others it is stopped, or left with NULL. -/
theorem findLevel_readable {lines : List (List Char)}
    (last : ∀ line ∈ lines, '\n' ∉ line.dropLast) :
    (Readable lines → findLevel lines = .ok ((levelToken lines).map some)) ∧
      (¬ Readable lines →
        findLevel lines = .error .strcmp ∨ findLevel lines = .ok (some none)) := by
  induction lines with
  | nil => exact ⟨fun _ => rfl, fun unreadable => absurd ⟨by simp, by simp⟩ unreadable⟩
  | cons line rest ih =>
      have later := ih fun other member => last other (by simp [member])
      have here : '\n' ∉ line.dropLast := last line (by simp)
      by_cases hasWord : words search line = []
      · have turn := turn_of_no_word hasWord rest
        exact ⟨fun readable => absurd readable turn.2, fun _ => .inl turn.1⟩
      cases isLevel : isLogLevel line with
      | true =>
          rcases turn_of_log_level isLevel here rest with ⟨found, readable, token⟩
          rw [found, readable, token]
          cases second : (words search line)[1]? with
          | none => simp
          | some word => by_cases ends : word = ['\n'] <;> simp [ends]
      | false =>
          rcases turn_of_other isLevel hasWord rest with ⟨found, readable, token⟩
          rw [found, readable, token]
          exact later

/-- `parse_file` survives a file, and then returns its log level, just when every read up to the
one for the log level has a word and that one has a second. -/
theorem parse_file_survives_iff (content : Content) :
    (Survives content ↔ Readable (linesRead content.1)) ∧
      (Readable (linesRead content.1) →
        parse_file (some content) = .ok (levelToken (linesRead content.1))) := by
  have last : ∀ line ∈ linesRead content.1, '\n' ∉ line.dropLast :=
    fun line member => newline_last_of_reads member
  have loop := findLevel_readable last
  have level : Readable (linesRead content.1) →
      parse_file (some content) = .ok (levelToken (linesRead content.1)) := by
    intro readable
    rw [parse_file, loop.1 readable]
    cases levelToken (linesRead content.1) <;> rfl
  refine ⟨⟨?_, fun readable => ⟨_, level readable, .inr rfl⟩⟩, level⟩
  rintro ⟨result, returned, -⟩
  by_contra unreadable
  rcases loop.2 unreadable with stopped | null
  · rw [parse_file, stopped] at returned
    cases returned
  · rw [parse_file, null] at returned
    cases returned

/-- A file of one line with nothing but delimiters: the first token is NULL. -/
theorem blank_line_faults :
    parse_file (some ⟨[' '], by decide⟩) = .error .strcmp ∧
      ¬ Survives ⟨[' '], by decide⟩ := by
  have lines : linesRead [' '] = [[' ']] := by
    simp [linesRead, reads, fgets]
  have stopped : parse_file (some ⟨[' '], by decide⟩) = .error .strcmp := by
    rw [parse_file]
    simp only [lines]
    decide
  refine ⟨stopped, ?_⟩
  rintro ⟨result, returned, -⟩
  rw [stopped] at returned
  cases returned

end NearRtRic.E2T.LogLevelFile
