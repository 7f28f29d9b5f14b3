import Mathlib.Tactic
import Mathlib.Data.List.Infix

/-! Python's `str.startswith` and `str.split`, and fields glued with a separator. -/

namespace NearRtRic.Text

/-- `text.startswith(start)` -/
def startswith (text start : String) : Bool :=
  start.toList.isPrefixOf text.toList

/-- The pieces of the text read so far and of the rest. `skip` counts the characters
of a separator just met that are still to be passed over. -/
def splitFrom (separator : List Char) : Nat → List Char → List Char → List (List Char)
  | _, piece, [] => [piece.reverse]
  | skip + 1, piece, _ :: rest => splitFrom separator skip piece rest
  | 0, piece, char :: rest =>
      if separator.isPrefixOf (char :: rest) then
        piece.reverse :: splitFrom separator (separator.length - 1) [] rest
      else
        splitFrom separator 0 (char :: piece) rest

/-- `text.split(separator)` for a separator that is not empty. -/
def split (text separator : String) : List String :=
  (splitFrom separator.toList 0 [] text.toList).map String.ofList

theorem startswith_iff (text start : String) :
    startswith text start = true ↔ ∃ rest, text = start ++ rest := by
  rw [startswith, List.isPrefixOf_iff_prefix]
  constructor
  · rintro ⟨rest, joined⟩
    refine ⟨String.ofList rest, ?_⟩
    rw [← String.toList_inj, String.toList_append, String.toList_ofList, joined]
  · rintro ⟨rest, rfl⟩
    rw [String.toList_append]
    exact List.prefix_append _ _

@[simp] theorem startswith_append (start rest : String) :
    startswith (start ++ rest) start = true :=
  (startswith_iff _ _).mpr ⟨rest, rfl⟩

@[simp] theorem startswith_append_append (common text start : String) :
    startswith (common ++ text) (common ++ start) = startswith text start := by
  rw [Bool.eq_iff_iff]
  simp only [startswith, List.isPrefixOf_iff_prefix, String.toList_append,
    List.prefix_append_right_inj]

theorem append_left_cancel {common first second : String}
    (equal : common ++ first = common ++ second) : first = second := by
  have lists := congrArg String.toList equal
  simp only [String.toList_append] at lists
  exact String.toList_inj.mp (List.append_cancel_left lists)

theorem startswith_of_incomparable {first second : String}
    (apart : startswith first second = false ∧ startswith second first = false)
    (restFirst restSecond : String) :
    startswith (first ++ restFirst) (second ++ restSecond) = false := by
  rw [Bool.eq_false_iff]
  intro starts
  simp only [startswith, Bool.eq_false_iff, ne_eq, List.isPrefixOf_iff_prefix] at apart starts
  rw [String.toList_append, String.toList_append] at starts
  have left : first.toList <+: first.toList ++ restFirst.toList := List.prefix_append _ _
  have right := (List.prefix_append second.toList restSecond.toList).trans starts
  rcases List.prefix_or_prefix_of_prefix left right with below | below
  · exact apart.2 below
  · exact apart.1 below

theorem ne_of_startswith {text other start : String} (starts : startswith text start = true)
    (apart : startswith other start = false) : text ≠ other := by
  rintro rfl
  rw [starts] at apart
  exact Bool.noConfusion apart

section Fields

variable {Symbol : Type} {separator : Symbol}

/-- The field before the first separator is determined by the glued text. -/
theorem prefix_fields {first second restFirst restSecond : List Symbol}
    (plainFirst : separator ∉ first) (plainSecond : separator ∉ second) :
    first ++ separator :: restFirst <+: second ++ separator :: restSecond ↔
      first = second ∧ restFirst <+: restSecond := by
  induction first generalizing second with
  | nil =>
      cases second with
      | nil => simp [List.cons_prefix_cons]
      | cons symbol second =>
          simp only [List.mem_cons, not_or] at plainSecond
          simp [List.cons_prefix_cons, plainSecond.1]
  | cons symbol first ih =>
      simp only [List.mem_cons, not_or] at plainFirst
      cases second with
      | nil => simp [List.cons_prefix_cons, Ne.symm plainFirst.1]
      | cons other second =>
          simp only [List.mem_cons, not_or] at plainSecond
          simp [List.cons_prefix_cons, ih plainFirst.2 plainSecond.2, and_assoc]

theorem append_fields {first second restFirst restSecond : List Symbol}
    (plainFirst : separator ∉ first) (plainSecond : separator ∉ second)
    (equal : first ++ separator :: restFirst = second ++ separator :: restSecond) :
    first = second ∧ restFirst = restSecond := by
  have starts : first ++ separator :: restFirst <+: second ++ separator :: restSecond := by
    rw [equal]
  have same := (prefix_fields plainFirst plainSecond).mp starts
  refine ⟨same.1, ?_⟩
  rw [same.1] at equal
  exact List.cons_injective (List.append_cancel_left equal)

/-- Where neither field has the separator, only the first field followed by it starts the
glued text. -/
theorem plain_fields_prefix {other first second : List Symbol}
    (plainFirst : separator ∉ first) (plainSecond : separator ∉ second)
    (starts : other ++ [separator] <+: first ++ separator :: second) : other = first := by
  induction other generalizing first with
  | nil =>
      cases first with
      | nil => rfl
      | cons symbol first =>
          simp only [List.mem_cons, not_or] at plainFirst
          simp [List.cons_prefix_cons, plainFirst.1] at starts
  | cons symbol other ih =>
      cases first with
      | nil =>
          rcases starts with ⟨rest, equal⟩
          simp only [List.cons_append, List.nil_append, List.cons.injEq] at equal
          exact absurd (by rw [← equal.2]; simp) plainSecond
      | cons head first =>
          simp only [List.mem_cons, not_or] at plainFirst
          simp only [List.cons_append, List.cons_prefix_cons] at starts
          rw [starts.1, ih plainFirst.2 starts.2]

/-- A separator inside one of the two fields lets another field start the glued text. -/
theorem fields_prefix_of_separator {first second : List Symbol}
    (inside : separator ∈ first ∨ separator ∈ second) :
    ∃ other, other ≠ first ∧ other ++ [separator] <+: first ++ separator :: second := by
  rcases inside with inside | inside
  · rcases List.append_of_mem inside with ⟨before, after, rfl⟩
    refine ⟨before, ?_, after ++ separator :: second, by simp⟩
    intro equal
    simpa using congrArg List.length equal
  · rcases List.append_of_mem inside with ⟨before, after, rfl⟩
    refine ⟨first ++ separator :: before, ?_, after, by simp⟩
    intro equal
    simpa using congrArg List.length equal

end Fields

/-! The second piece of a split is the text after a leading separator, up to the next. -/

theorem splitFrom_skip (separator passed piece rest : List Char) :
    splitFrom separator passed.length piece (passed ++ rest) =
      splitFrom separator 0 piece rest := by
  induction passed with
  | nil => rfl
  | cons char passed ih => simpa [splitFrom] using ih

theorem splitFrom_leading (separator rest : List Char) (nonempty : separator ≠ []) :
    splitFrom separator 0 [] (separator ++ rest) = [] :: splitFrom separator 0 [] rest := by
  cases separator with
  | nil => exact absurd rfl nonempty
  | cons char tail =>
      have leads : (char :: tail).isPrefixOf (char :: (tail ++ rest)) = true :=
        List.isPrefixOf_iff_prefix.mpr (List.prefix_append (char :: tail) rest)
      rw [List.cons_append, splitFrom, if_pos leads]
      simpa using splitFrom_skip (char :: tail) tail [] rest

theorem splitFrom_plain (separator piece rest : List Char)
    (plain : ¬ separator <:+: rest) :
    splitFrom separator 0 piece rest = [piece.reverse ++ rest] := by
  induction rest generalizing piece with
  | nil => simp [splitFrom]
  | cons char rest ih =>
      have here : separator.isPrefixOf (char :: rest) = false := by
        rw [Bool.eq_false_iff]
        intro starts
        exact plain (List.isPrefixOf_iff_prefix.mp starts).isInfix
      have later : ¬ separator <:+: rest := fun inside => plain (List.infix_cons inside)
      rw [splitFrom, if_neg (by simp [here]), ih _ later]
      simp

theorem splitFrom_head_length (separator piece rest : List Char) (nonempty : separator ≠ [])
    (inside : separator <:+: rest) :
    ∃ head tail, splitFrom separator 0 piece rest = head :: tail ∧
      head.length < piece.length + rest.length := by
  induction rest generalizing piece with
  | nil => exact absurd (List.infix_nil.mp inside) nonempty
  | cons char rest ih =>
      by_cases here : separator.isPrefixOf (char :: rest) = true
      · refine ⟨piece.reverse, _, by rw [splitFrom, if_pos here], by simp⟩
      · have later : separator <:+: rest := by
          rcases List.infix_cons_iff.mp inside with starts | later
          · exact absurd (List.isPrefixOf_iff_prefix.mpr starts) here
          · exact later
        rcases ih (char :: piece) later with ⟨head, tail, pieces, short⟩
        refine ⟨head, tail, by rw [splitFrom, if_neg here, pieces], ?_⟩
        simp only [List.length_cons] at short ⊢
        omega

/-- `separator in text` -/
def occursIn (separator text : String) : Prop := separator.toList <:+: text.toList

instance (separator text : String) : Decidable (occursIn separator text) :=
  inferInstanceAs (Decidable (separator.toList <:+: text.toList))

/-- `(separator + text).split(separator)[1]` is the text where the separator does not occur in
it, and is shorter where it does. -/
theorem split_second (separator text : String) (nonempty : separator.toList ≠ []) :
    ∃ second rest, split (separator ++ text) separator = "" :: second :: rest ∧
      (¬ occursIn separator text → second = text) ∧
      (occursIn separator text → second.toList.length < text.toList.length) := by
  have leading := splitFrom_leading separator.toList text.toList nonempty
  by_cases inside : occursIn separator text
  · rcases splitFrom_head_length separator.toList [] text.toList nonempty inside with
      ⟨head, tail, pieces, short⟩
    refine ⟨String.ofList head, tail.map String.ofList, ?_, fun plain => absurd inside plain, ?_⟩
    · rw [split, String.toList_append, leading, pieces]
      rfl
    · intro _
      simpa [String.toList_ofList] using short
  · refine ⟨text, [], ?_, fun _ => rfl, fun occurs => absurd occurs inside⟩
    rw [split, String.toList_append, leading,
      splitFrom_plain separator.toList [] text.toList inside]
    simp [String.ofList_toList]

end NearRtRic.Text
