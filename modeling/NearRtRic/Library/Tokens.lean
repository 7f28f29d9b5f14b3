import Mathlib.Data.List.TakeWhile
import Mathlib.Tactic

/-! The words of a text between delimiters, and the scan of C that takes them one by one. -/

namespace NearRtRic.Tokens

variable {Symbol : Type} (delimiter : Symbol → Bool)

/-- The pieces between delimiters that are not empty. -/
def words (text : List Symbol) : List (List Symbol) :=
  (text.splitOnP delimiter).filter fun word => !word.isEmpty

/-- `strtok` on a text: the token, if there is one, and the text at the saved position. The
delimiter behind the token is overwritten. -/
def strtok (text : List Symbol) : Option (List Symbol) × List Symbol :=
  match text.dropWhile delimiter with
  | [] => (none, [])
  | first :: rest =>
      (some ((first :: rest).takeWhile fun symbol => !delimiter symbol),
        ((first :: rest).dropWhile fun symbol => !delimiter symbol).drop 1)

variable {delimiter}

@[simp] theorem words_nil : words delimiter [] = [] := by
  simp [words, List.splitOnP_nil]

theorem words_append_delimiter {between : Symbol} (isDelimiter : delimiter between = true)
    (front back : List Symbol) :
    words delimiter (front ++ between :: back) = words delimiter front ++ words delimiter back := by
  rw [words, List.splitOnP_append_cons front back isDelimiter, List.filter_append]
  rfl

theorem words_of_plain {text : List Symbol} (nonempty : text ≠ [])
    (plain : ∀ symbol ∈ text, delimiter symbol = false) : words delimiter text = [text] := by
  rw [words, List.splitOnP_eq_singleton plain]
  simp [nonempty]

theorem words_dropWhile (text : List Symbol) :
    words delimiter (text.dropWhile delimiter) = words delimiter text := by
  induction text with
  | nil => rfl
  | cons symbol text ih =>
      by_cases isDelimiter : delimiter symbol = true
      · have skipped : words delimiter (symbol :: text) = words delimiter text := by
          have split := words_append_delimiter isDelimiter [] text
          rwa [List.nil_append, words_nil, List.nil_append] at split
        rw [List.dropWhile_cons_of_pos isDelimiter, ih, skipped]
      · rw [List.dropWhile_cons_of_neg isDelimiter]

theorem words_of_first {first : Symbol} (solid : delimiter first = false) (rest : List Symbol) :
    words delimiter (first :: rest) =
      ((first :: rest).takeWhile fun symbol => !delimiter symbol) ::
        words delimiter (((first :: rest).dropWhile fun symbol => !delimiter symbol).drop 1) := by
  let plain : Symbol → Bool := fun symbol => !delimiter symbol
  have whole : (first :: rest).takeWhile plain ++ (first :: rest).dropWhile plain =
      first :: rest := List.takeWhile_append_dropWhile
  have nonempty : (first :: rest).takeWhile plain ≠ [] := by
    simp [plain, solid]
  have word : ∀ symbol ∈ (first :: rest).takeWhile plain, delimiter symbol = false := by
    intro symbol member
    simpa [plain] using List.mem_takeWhile_imp member
  cases behind : (first :: rest).dropWhile plain with
  | nil =>
      rw [behind, List.append_nil] at whole
      rw [whole, List.drop_nil, words_nil]
      exact words_of_plain (by simp) (by rwa [whole] at word)
  | cons between back =>
      have isDelimiter : delimiter between = true := by
        have head := List.head_dropWhile_not plain (by simp [behind] :
          (first :: rest).dropWhile plain ≠ [])
        simpa [plain, behind] using head
      calc
        words delimiter (first :: rest) =
            words delimiter ((first :: rest).takeWhile plain ++ between :: back) := by
          rw [← behind, whole]
        _ = words delimiter ((first :: rest).takeWhile plain) ++ words delimiter back :=
          words_append_delimiter isDelimiter _ _
        _ = [(first :: rest).takeWhile plain] ++ words delimiter back := by
          rw [words_of_plain nonempty word]

/-- A call of `strtok` takes the first word and leaves the others. -/
theorem strtok_words (text : List Symbol) :
    (strtok delimiter text).1 = (words delimiter text).head? ∧
      words delimiter (strtok delimiter text).2 = (words delimiter text).tail := by
  rw [strtok, ← words_dropWhile text]
  cases start : text.dropWhile delimiter with
  | nil => simp
  | cons first rest =>
      have solid : delimiter first = false := by
        have head := List.head_dropWhile_not delimiter (by simp [start] :
          text.dropWhile delimiter ≠ [])
        simpa [start] using head
      rw [words_of_first solid]
      exact ⟨rfl, rfl⟩

theorem infix_of_mem_words {text word : List Symbol} (member : word ∈ words delimiter text) :
    word <:+: text := by
  have pieces : ∃ first others, text.splitOnP delimiter = first :: others ∧ first <+: text ∧
      ∀ other ∈ others, other <:+: text := by
    clear member
    induction text with
    | nil => exact ⟨[], [], by simp [List.splitOnP_nil], List.nil_prefix, by simp⟩
    | cons symbol text ih =>
        rcases ih with ⟨first, others, split, starts, inside⟩
        rw [List.splitOnP_cons_eq_if_modifyHead, split]
        by_cases isDelimiter : delimiter symbol = true
        · refine ⟨[], first :: others, if_pos isDelimiter, List.nil_prefix, ?_⟩
          intro other member
          rcases List.mem_cons.mp member with rfl | later
          · exact List.infix_cons starts.isInfix
          · exact List.infix_cons (inside other later)
        · refine ⟨symbol :: first, others, if_neg isDelimiter, ?_, ?_⟩
          · exact List.cons_prefix_cons.mpr ⟨rfl, starts⟩
          · exact fun other later => List.infix_cons (inside other later)
  rcases pieces with ⟨first, others, split, starts, inside⟩
  rw [words, split] at member
  rcases List.mem_cons.mp (List.mem_of_mem_filter member) with rfl | later
  · exact starts.isInfix
  · exact inside word later

end NearRtRic.Tokens
