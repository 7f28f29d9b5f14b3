import Mathlib.Tactic
import Mathlib.Data.List.DropRight

/-! Text read line by line: the lines themselves, a line cut at a separator, and what is left of
it without the blanks around it. -/

namespace NearRtRic.Lines

variable {Symbol : Type}

section Cutting

variable [DecidableEq Symbol]

/-- The lines of a text: what follows the last newline is one only if it is not empty. -/
def lines (newline : Symbol) : List Symbol → List (List Symbol)
  | [] => []
  | symbol :: rest =>
      if symbol = newline then [] :: lines newline rest
      else
        match lines newline rest with
        | [] => [[symbol]]
        | line :: others => (symbol :: line) :: others

def unlines (newline : Symbol) (parts : List (List Symbol)) : List Symbol :=
  parts.flatMap (fun line => line ++ [newline])

/-- What stands before the first separator, and what after it. -/
def cut (separator : Symbol) : List Symbol → Option (List Symbol × List Symbol)
  | [] => none
  | symbol :: rest =>
      if symbol = separator then some ([], rest)
      else (cut separator rest).map fun parts => (symbol :: parts.1, parts.2)

variable {newline separator : Symbol}

theorem plain_of_mem_lines {text line : List Symbol} (member : line ∈ lines newline text) :
    newline ∉ line := by
  induction text generalizing line with
  | nil => simp [lines] at member
  | cons symbol rest ih =>
      rw [lines] at member
      split at member
      · rcases List.mem_cons.mp member with rfl | later
        · simp
        · exact ih later
      · next differs =>
        have first : newline ≠ symbol := Ne.symm differs
        cases below : lines newline rest with
        | nil =>
            simp only [below, List.mem_singleton] at member
            simp [member, first]
        | cons head others =>
            simp only [below, List.mem_cons] at member
            rcases member with rfl | later
            · have plain : newline ∉ head := ih (by simp [below])
              simp [first, plain]
            · exact ih (by simp [below, later])

theorem lines_append_newline {line : List Symbol} (plain : newline ∉ line) (text : List Symbol) :
    lines newline (line ++ newline :: text) = line :: lines newline text := by
  induction line with
  | nil => simp [lines]
  | cons symbol line ih =>
      simp only [List.mem_cons, not_or] at plain
      rw [List.cons_append, lines, if_neg (Ne.symm plain.1), ih plain.2]

theorem lines_unlines {parts : List (List Symbol)} (plain : ∀ line ∈ parts, newline ∉ line) :
    lines newline (unlines newline parts) = parts := by
  induction parts with
  | nil => rfl
  | cons line parts ih =>
      have here : newline ∉ line := plain line (by simp)
      have rest : lines newline (unlines newline parts) = parts :=
        ih fun other member => plain other (by simp [member])
      calc
        lines newline (unlines newline (line :: parts)) =
            lines newline (line ++ newline :: unlines newline parts) := by simp [unlines]
        _ = line :: lines newline (unlines newline parts) := lines_append_newline here _
        _ = line :: parts := by rw [rest]

theorem cut_append {front : List Symbol} (plain : separator ∉ front) (rest : List Symbol) :
    cut separator (front ++ separator :: rest) = some (front, rest) := by
  induction front with
  | nil => simp [cut]
  | cons symbol front ih =>
      simp only [List.mem_cons, not_or] at plain
      rw [List.cons_append, cut, if_neg (Ne.symm plain.1), ih plain.2, Option.map_some]

theorem cut_eq_some {text front rest : List Symbol} :
    cut separator text = some (front, rest) ↔
      text = front ++ separator :: rest ∧ separator ∉ front := by
  constructor
  · intro found
    induction text generalizing front with
    | nil => simp [cut] at found
    | cons symbol text ih =>
        rw [cut] at found
        split at found
        · next same =>
          simp only [Option.some.injEq, Prod.mk.injEq] at found
          rcases found with ⟨rfl, rfl⟩
          simp [same]
        · next differs =>
          rcases Option.map_eq_some_iff.mp found with ⟨⟨before, after⟩, below, equal⟩
          simp only [Prod.mk.injEq] at equal
          rcases equal with ⟨rfl, rfl⟩
          rcases ih below with ⟨rfl, plain⟩
          exact ⟨rfl, by simp [plain, Ne.symm differs]⟩
  · rintro ⟨rfl, plain⟩
    exact cut_append plain rest

/-- `fgets` with room for so many symbols: what is read, and what is left of the text. -/
def fgets (newline : Symbol) : Nat → List Symbol → List Symbol × List Symbol
  | 0, text => ([], text)
  | _ + 1, [] => ([], [])
  | room + 1, symbol :: text =>
      if symbol = newline then ([symbol], text)
      else (symbol :: (fgets newline room text).1, (fgets newline room text).2)

theorem fgets_append (newline : Symbol) (room : Nat) (text : List Symbol) :
    (fgets newline room text).1 ++ (fgets newline room text).2 = text := by
  fun_induction fgets newline room text with
  | case1 => rfl
  | case2 => rfl
  | case3 => rfl
  | case4 room symbol text differs ih => rw [List.cons_append, ih]

theorem fgets_rest_lt (newline : Symbol) (room : Nat) (symbol : Symbol) (text : List Symbol) :
    (fgets newline (room + 1) (symbol :: text)).2.length < (symbol :: text).length := by
  rw [fgets]
  split
  · simp
  · have parts := congrArg List.length (fgets_append newline room text)
    rw [List.length_append] at parts
    change (fgets newline room text).2.length < text.length + 1
    omega

/-- What the calls of `fgets` read until the end of the text, into an array of `room + 2`. -/
def reads (newline : Symbol) (room : Nat) : List Symbol → List (List Symbol)
  | [] => []
  | symbol :: text =>
      (fgets newline (room + 1) (symbol :: text)).1 ::
        reads newline room (fgets newline (room + 1) (symbol :: text)).2
termination_by text => text.length
decreasing_by exact fgets_rest_lt newline room symbol text

theorem newline_last_of_fgets (newline : Symbol) (room : Nat) (text : List Symbol) :
    newline ∉ (fgets newline room text).1.dropLast := by
  fun_induction fgets newline room text with
  | case1 => simp
  | case2 => simp
  | case3 => simp
  | case4 room symbol text differs ih =>
      cases behind : (fgets newline room text).1 with
      | nil => simp
      | cons head tail =>
          rw [behind] at ih
          rw [List.dropLast_cons_cons, List.mem_cons, not_or]
          exact ⟨Ne.symm differs, ih⟩

theorem newline_last_of_reads {newline : Symbol} {room : Nat} {text line : List Symbol}
    (member : line ∈ reads newline room text) : newline ∉ line.dropLast := by
  fun_induction reads newline room text with
  | case1 => cases member
  | case2 symbol text ih =>
      rcases List.mem_cons.mp member with rfl | later
      · exact newline_last_of_fgets _ _ _
      · exact ih later

end Cutting

section Trimming

variable (blank : Symbol → Bool)

def ltrim (text : List Symbol) : List Symbol :=
  text.dropWhile blank

def rtrim (text : List Symbol) : List Symbol :=
  text.rdropWhile blank

def trim (text : List Symbol) : List Symbol :=
  ltrim blank (rtrim blank text)

abbrev Blanks := { text : List Symbol // ∀ symbol ∈ text, blank symbol = true }

variable {blank}

theorem ltrim_blanks_append (before : Blanks blank) (text : List Symbol) :
    ltrim blank (before.1 ++ text) = ltrim blank text :=
  List.dropWhile_append_of_pos before.2

theorem rtrim_append_blanks (text : List Symbol) (after : Blanks blank) :
    rtrim blank (text ++ after.1) = rtrim blank text := by
  have reversed : ∀ symbol ∈ after.1.reverse, blank symbol = true :=
    fun symbol member => after.2 symbol (List.mem_reverse.mp member)
  rw [rtrim, rtrim, List.rdropWhile, List.rdropWhile, List.reverse_append,
    List.dropWhile_append_of_pos reversed]

theorem rtrim_snoc {last : Symbol} (solid : blank last = false) (text : List Symbol) :
    rtrim blank (text ++ [last]) = text ++ [last] :=
  List.rdropWhile_concat_neg _ _ _ (by simp [solid])

/-- Blanks before a text stay in front of what is left of it. -/
theorem ltrim_rtrim_comm (text : List Symbol) :
    ltrim blank (rtrim blank text) = rtrim blank (ltrim blank text) := by
  induction text using List.reverseRecOn with
  | nil => rfl
  | append_singleton text last ih =>
      by_cases solid : blank last = true
      · have dropped : rtrim blank (text ++ [last]) = rtrim blank text :=
          List.rdropWhile_concat_pos _ _ _ solid
        rw [dropped, ih, ltrim, ltrim, List.dropWhile_append]
        split
        · next empty =>
          have nothing : text.dropWhile blank = [] := List.isEmpty_iff.mp empty
          simp [nothing, rtrim, solid]
        · exact (List.rdropWhile_concat_pos _ _ _ solid).symm
      · have kept : blank last = false := by simpa using solid
        rw [rtrim_snoc kept, ltrim, List.dropWhile_append]
        split
        · simp [kept, rtrim, List.rdropWhile_singleton]
        · exact (rtrim_snoc kept _).symm

theorem trim_between (before after : Blanks blank) (text : List Symbol) :
    trim blank (before.1 ++ text ++ after.1) = trim blank text := by
  calc
    trim blank (before.1 ++ text ++ after.1) = ltrim blank (rtrim blank (before.1 ++ text)) := by
      rw [trim, rtrim_append_blanks]
    _ = rtrim blank (ltrim blank (before.1 ++ text)) := ltrim_rtrim_comm _
    _ = rtrim blank (ltrim blank text) := by rw [ltrim_blanks_append]
    _ = trim blank text := (ltrim_rtrim_comm _).symm

/-- A text that ends in a symbol which is not blank keeps the blanks before that symbol. -/
theorem trim_snoc {last : Symbol} (solid : blank last = false) (text : List Symbol) :
    trim blank (text ++ [last]) = ltrim blank text ++ [last] := by
  rw [trim, rtrim_snoc solid, ltrim, ltrim, List.dropWhile_append]
  split
  · next empty => simp_all
  · rfl

theorem ltrim_eq_nil {text : List Symbol} :
    ltrim blank text = [] ↔ trim blank text = [] := by
  rw [trim, ltrim_rtrim_comm, rtrim, List.rdropWhile_eq_nil_iff, ltrim]
  constructor
  · intro empty
    simp [empty]
  · intro allBlank
    by_contra remains
    have solid : blank ((text.dropWhile blank).head remains) = false :=
      List.head_dropWhile_not blank remains
    exact Bool.false_ne_true (solid.symm.trans (allBlank _ (List.head_mem remains)))

/-- Where something besides blanks is left, what is put behind the text is kept. -/
theorem ltrim_append {text : List Symbol} (remains : ltrim blank text ≠ []) (after : List Symbol) :
    ltrim blank (text ++ after) = ltrim blank text ++ after := by
  rw [ltrim, List.dropWhile_append, if_neg (by simpa [ltrim] using remains)]
  rfl

end Trimming

end NearRtRic.Lines
