import Mathlib.Data.List.TakeWhile
import Mathlib.Tactic
import NearRtRic.Library.Radix64

/-! JSON texts as Go's `encoding/json` writes and reads them. -/

namespace NearRtRic.JsonText

def openBrace : Char := '\x7b'

def closeBrace : Char := '\x7d'

def isNumberChar (char : Char) : Bool :=
  char.isDigit || char == '-' || char == '+' || char == '.' || char == 'e' || char == 'E'

def afterSign : List Char → List Char
  | [] => []
  | char :: rest => if char = '-' then rest else char :: rest

def afterInteger : List Char → Option (List Char)
  | [] => none
  | char :: rest =>
      if char = '0' then some rest
      else if char.isDigit then some (rest.dropWhile Char.isDigit) else none

def afterFraction : List Char → List Char
  | point :: digit :: rest =>
      if point = '.' ∧ digit.isDigit then rest.dropWhile Char.isDigit else point :: digit :: rest
  | rest => rest

def afterExponent : List Char → List Char
  | mark :: next :: rest =>
      if mark = 'e' ∨ mark = 'E' then
        if (next = '+' ∨ next = '-') ∧ rest ≠ [] then rest.dropWhile Char.isDigit
        else (next :: rest).dropWhile Char.isDigit
      else mark :: next :: rest
  | rest => rest

def isValidNumber (text : List Char) : Bool :=
  match afterInteger (afterSign text) with
  | some rest => (afterExponent (afterFraction rest)).isEmpty
  | none => false

/-- A number stands by its literal. -/
structure Number where
  literal : List Char
  chars : literal.all isNumberChar = true
  valid : isValidNumber literal = true
  deriving DecidableEq

inductive Value
  | null
  | bool (value : Bool)
  | number (number : Number)
  | string (text : String)
  | array (items : List Value)
  | object (fields : List (String × Value))

def hexDigit (value : Nat) : Char := Nat.digitChar (value % 16)

def unicodeEscape (code : Nat) : List Char :=
  ['\\', 'u', hexDigit (code / 4096), hexDigit (code / 256), hexDigit (code / 16), hexDigit code]

/-- The characters that are written by their code, for HTML and JavaScript too. -/
def isCoded (char : Char) : Bool :=
  char.toNat < 0x20 || char == '<' || char == '>' || char == '&' ||
    char.toNat == 0x2028 || char.toNat == 0x2029

def escape (char : Char) : List Char :=
  if char = '"' then ['\\', '"']
  else if char = '\\' then ['\\', '\\']
  else if char = '\n' then ['\\', 'n']
  else if char = '\r' then ['\\', 'r']
  else if char = '\t' then ['\\', 't']
  else if isCoded char then unicodeEscape char.toNat
  else [char]

def quoted (text : String) : List Char :=
  '"' :: (text.toList.flatMap escape ++ ['"'])

mutual

def write : Value → List Char
  | .null => ['n', 'u', 'l', 'l']
  | .bool true => ['t', 'r', 'u', 'e']
  | .bool false => ['f', 'a', 'l', 's', 'e']
  | .number number => number.literal
  | .string text => quoted text
  | .array [] => ['[', ']']
  | .array (item :: items) => '[' :: (write item ++ writeItems items)
  | .object [] => [openBrace, closeBrace]
  | .object ((key, value) :: fields) =>
      openBrace :: (quoted key ++ ':' :: (write value ++ writeFields fields))

def writeItems : List Value → List Char
  | [] => [']']
  | item :: items => ',' :: (write item ++ writeItems items)

def writeFields : List (String × Value) → List Char
  | [] => [closeBrace]
  | (key, value) :: fields =>
      ',' :: (quoted key ++ ':' :: (write value ++ writeFields fields))

end

def isSpace (char : Char) : Bool :=
  char == ' ' || char == '\t' || char == '\n' || char == '\r'

def skipSpace (text : List Char) : List Char := text.dropWhile isSpace

def hexValue (char : Char) : Option Nat :=
  if char.isDigit then some (char.toNat - '0'.toNat)
  else if 'a' ≤ char ∧ char ≤ 'f' then some (char.toNat - 'a'.toNat + 10)
  else if 'A' ≤ char ∧ char ≤ 'F' then some (char.toNat - 'A'.toNat + 10)
  else none

def hexCode (first second third fourth : Char) : Option Nat := do
  let first ← hexValue first
  let second ← hexValue second
  let third ← hexValue third
  let fourth ← hexValue fourth
  pure (first * 4096 + second * 256 + third * 16 + fourth)

/-- A character of a string literal, or the code of a `\u` escape. -/
inductive Piece
  | char (char : Char)
  | code (code : Nat)

def unescape (char : Char) : Option Char :=
  if char = '"' ∨ char = '\\' ∨ char = '/' then some char
  else if char = 'b' then some '\x08'
  else if char = 'f' then some '\x0c'
  else if char = 'n' then some '\n'
  else if char = 'r' then some '\r'
  else if char = 't' then some '\t'
  else none

/-- The pieces in front of the closing quote, and what is behind it. -/
def readPieces : List Char → Option (List Piece × List Char)
  | [] => none
  | char :: rest =>
      if char = '"' then some ([], rest)
      else if char.toNat < 0x20 then none
      else if char = '\\' then
        match rest with
        | [] => none
        | mark :: rest =>
            if mark = 'u' then
              match rest with
              | first :: second :: third :: fourth :: rest => do
                  let code ← hexCode first second third fourth
                  let (pieces, rest) ← readPieces rest
                  pure (.code code :: pieces, rest)
              | _ => none
            else do
              let char ← unescape mark
              let (pieces, rest) ← readPieces rest
              pure (.char char :: pieces, rest)
      else do
        let (pieces, rest) ← readPieces rest
        pure (.char char :: pieces, rest)

def isHighSurrogate (code : Nat) : Bool := 0xd800 ≤ code && code < 0xdc00

def isLowSurrogate (code : Nat) : Bool := 0xdc00 ≤ code && code < 0xe000

/-- Surrogates are paired, and replaced where they are alone. -/
def joinPieces : List Piece → List Char
  | [] => []
  | .char char :: pieces => char :: joinPieces pieces
  | .code high :: .code low :: pieces =>
      if isHighSurrogate high ∧ isLowSurrogate low then
        Char.ofNat (0x10000 + (high - 0xd800) * 1024 + (low - 0xdc00)) :: joinPieces pieces
      else if isHighSurrogate high ∨ isLowSurrogate high then
        '\ufffd' :: joinPieces (.code low :: pieces)
      else Char.ofNat high :: joinPieces (.code low :: pieces)
  | .code code :: pieces =>
      if isHighSurrogate code ∨ isLowSurrogate code then '\ufffd' :: joinPieces pieces
      else Char.ofNat code :: joinPieces pieces

/-- A string literal behind its opening quote. -/
def readString (text : List Char) : Option (String × List Char) := do
  let (pieces, rest) ← readPieces text
  pure (String.ofList (joinPieces pieces), rest)

def readNumber (text : List Char) : Option (Number × List Char) :=
  let literal := text.takeWhile isNumberChar
  if valid : isValidNumber literal then
    some (⟨literal, List.all_takeWhile, valid⟩, text.dropWhile isNumberChar)
  else none

/-- The rest behind a literal that must stand there. -/
def expect : List Char → List Char → Option (List Char)
  | [], text => some text
  | char :: literal, text =>
      match text with
      | [] => none
      | other :: text => if other = char then expect literal text else none

mutual

def read : Nat → List Char → Option (Value × List Char)
  | 0, _ => none
  | fuel + 1, text =>
      match skipSpace text with
      | [] => none
      | char :: rest =>
          if char = '"' then do
            let (text, rest) ← readString rest
            pure (.string text, rest)
          else if char = '[' then
            match skipSpace rest with
            | [] => none
            | next :: rest =>
                if next = ']' then some (.array [], rest)
                else do
                  let (items, rest) ← readItems fuel (next :: rest)
                  pure (.array items, rest)
          else if char = openBrace then
            match skipSpace rest with
            | [] => none
            | next :: rest =>
                if next = closeBrace then some (.object [], rest)
                else do
                  let (fields, rest) ← readFields fuel (next :: rest)
                  pure (.object fields, rest)
          else if char = 'n' then do
            let rest ← expect ['u', 'l', 'l'] rest
            pure (.null, rest)
          else if char = 't' then do
            let rest ← expect ['r', 'u', 'e'] rest
            pure (.bool true, rest)
          else if char = 'f' then do
            let rest ← expect ['a', 'l', 's', 'e'] rest
            pure (.bool false, rest)
          else do
            let (number, rest) ← readNumber (char :: rest)
            pure (.number number, rest)

def readItems : Nat → List Char → Option (List Value × List Char)
  | 0, _ => none
  | fuel + 1, text => do
      let (item, rest) ← read fuel text
      match skipSpace rest with
      | [] => none
      | next :: rest =>
          if next = ',' then do
            let (items, rest) ← readItems fuel rest
            pure (item :: items, rest)
          else if next = ']' then pure ([item], rest) else none

def readFields : Nat → List Char → Option (List (String × Value) × List Char)
  | 0, _ => none
  | fuel + 1, text => do
      let rest ← expect ['"'] (skipSpace text)
      let (key, rest) ← readString rest
      let rest ← expect [':'] (skipSpace rest)
      let (value, rest) ← read fuel rest
      match skipSpace rest with
      | [] => none
      | next :: rest =>
          if next = ',' then do
            let (fields, rest) ← readFields fuel rest
            pure ((key, value) :: fields, rest)
          else if next = closeBrace then pure ([(key, value)], rest) else none

end

/-- A whole text. Each value takes at least one character, so that the fuel is enough. -/
def readText (text : List Char) : Option Value := do
  let (value, rest) ← read text.length text
  if skipSpace rest = [] then pure value else none

theorem hexValue_digitChar : ∀ digit < 16, hexValue (Nat.digitChar digit) = some digit := by
  decide

theorem hexCode_unicode {code : Nat} (small : code < 65536) :
    hexCode (hexDigit (code / 4096)) (hexDigit (code / 256)) (hexDigit (code / 16))
      (hexDigit code) = some code := by
  have digit : ∀ value, hexValue (hexDigit value) = some (value % 16) :=
    fun value => hexValue_digitChar _ (Nat.mod_lt _ (by decide))
  have whole : code / 4096 % 16 * 4096 + code / 256 % 16 * 256 + code / 16 % 16 * 16 + code % 16 =
      code := by omega
  simp only [hexCode, digit, Option.bind_eq_bind, Option.bind_some, Option.pure_def, whole]

def pieceOf (char : Char) : Piece :=
  if char = '\n' ∨ char = '\r' ∨ char = '\t' then .char char
  else if isCoded char then .code char.toNat else .char char

theorem isCoded_iff (char : Char) : isCoded char = true ↔ char.toNat < 0x20 ∨ char = '<' ∨
    char = '>' ∨ char = '&' ∨ char.toNat = 0x2028 ∨ char.toNat = 0x2029 := by
  simp [isCoded, or_assoc]

theorem toNat_of_isCoded {char : Char} (coded : isCoded char = true) : char.toNat < 0xd800 := by
  rcases (isCoded_iff char).mp coded with small | rfl | rfl | rfl | line | line
  · omega
  · decide
  · decide
  · decide
  · omega
  · omega

theorem joinPieces_pieceOf (char : Char) (pieces : List Piece) :
    joinPieces (pieceOf char :: pieces) = char :: joinPieces pieces := by
  unfold pieceOf
  split
  · rfl
  · split
    · next coded =>
        have small := toNat_of_isCoded coded
        have single : ¬ (isHighSurrogate char.toNat = true ∨ isLowSurrogate char.toNat = true) := by
          simp only [isHighSurrogate, isLowSurrogate, Bool.and_eq_true, decide_eq_true_eq]
          omega
        have paired : ∀ low, ¬ (isHighSurrogate char.toNat = true ∧ isLowSurrogate low = true) :=
          fun _ both => single (.inl both.1)
        have same : Char.ofNat char.toNat = char := Char.ofNat_toNat char
        cases pieces with
        | nil => simp only [joinPieces, if_neg single, same]
        | cons piece pieces =>
            cases piece with
            | char next => simp only [joinPieces, if_neg single, same]
            | code low => simp only [joinPieces, if_neg single, if_neg (paired low), same]
    · rfl

def prepend (piece : Piece) (read : Option (List Piece × List Char)) :
    Option (List Piece × List Char) :=
  read.map fun read => (piece :: read.1, read.2)

theorem readPieces_quote (rest : List Char) : readPieces ('"' :: rest) = some ([], rest) := by
  rw [readPieces.eq_def]
  exact if_pos rfl

theorem readPieces_plain {char : Char} (notQuote : char ≠ '"') (notSlash : char ≠ '\\')
    (notControl : ¬ char.toNat < 0x20) (rest : List Char) :
    readPieces (char :: rest) = prepend (.char char) (readPieces rest) := by
  rw [readPieces.eq_def]
  simp only [notQuote, notSlash, notControl, if_false]
  cases readPieces rest <;> rfl

theorem readPieces_mark {mark char : Char} (notCode : mark ≠ 'u')
    (escaped : unescape mark = some char) (rest : List Char) :
    readPieces ('\\' :: mark :: rest) = prepend (.char char) (readPieces rest) := by
  have notQuote : '\\' ≠ '"' := by decide
  have notControl : ¬ '\\'.toNat < 0x20 := by decide
  rw [readPieces.eq_def]
  simp only [notQuote, notControl, notCode, escaped, if_true, if_false]
  cases readPieces rest <;> rfl

theorem readPieces_unicode {code : Nat} (small : code < 65536) (rest : List Char) :
    readPieces (unicodeEscape code ++ rest) = prepend (.code code) (readPieces rest) := by
  have notQuote : '\\' ≠ '"' := by decide
  have notControl : ¬ '\\'.toNat < 0x20 := by decide
  rw [readPieces.eq_def]
  simp only [unicodeEscape, List.cons_append, List.nil_append, notQuote, notControl, if_true,
    if_false, hexCode_unicode small]
  cases readPieces rest <;> rfl

theorem readPieces_escape (char : Char) (rest : List Char) :
    readPieces (escape char ++ rest) = prepend (pieceOf char) (readPieces rest) := by
  by_cases quote : char = '"'
  · subst quote
    exact readPieces_mark (by decide) rfl rest
  by_cases slash : char = '\\'
  · subst slash
    exact readPieces_mark (by decide) rfl rest
  by_cases newline : char = '\n'
  · subst newline
    exact readPieces_mark (by decide) rfl rest
  by_cases carriage : char = '\r'
  · subst carriage
    exact readPieces_mark (by decide) rfl rest
  by_cases tab : char = '\t'
  · subst tab
    exact readPieces_mark (by decide) rfl rest
  simp only [escape, pieceOf, quote, slash, newline, carriage, tab, if_false, or_self]
  split
  · next coded => exact readPieces_unicode (by have := toNat_of_isCoded coded; omega) rest
  · next plain =>
      refine readPieces_plain quote slash (fun control => plain ?_) rest
      exact (isCoded_iff char).mpr (.inl control)

theorem readString_quoted (text : String) (rest : List Char) :
    readString (text.toList.flatMap escape ++ '"' :: rest) = some (text, rest) := by
  have pieces : ∀ chars : List Char, readPieces (chars.flatMap escape ++ '"' :: rest) =
      some (chars.map pieceOf, rest) := by
    intro chars
    induction chars with
    | nil => exact readPieces_quote rest
    | cons char chars ih =>
        rw [List.flatMap_cons, List.append_assoc, readPieces_escape, ih, List.map_cons]
        rfl
  have joined : ∀ chars : List Char, joinPieces (chars.map pieceOf) = chars := by
    intro chars
    induction chars with
    | nil => rfl
    | cons char chars ih => rw [List.map_cons, joinPieces_pieceOf, ih]
  simp only [readString, pieces, joined, Option.bind_eq_bind, Option.bind_some, Option.pure_def,
    String.ofList_toList]

/-- A number that is written in front of this text ends there. -/
def Stops (rest : List Char) : Prop :=
  ∀ char, rest.head? = some char → isNumberChar char = false

theorem stops_nil : Stops [] := by
  intro char head
  cases head

theorem stops_cons {char : Char} (stop : isNumberChar char = false) (rest : List Char) :
    Stops (char :: rest) := by
  intro other head
  obtain rfl := Option.some.inj head
  exact stop

theorem readNumber_literal (number : Number) {rest : List Char} (stops : Stops rest) :
    readNumber (number.literal ++ rest) = some (number, rest) := by
  have inside : ∀ char ∈ number.literal, isNumberChar char = true :=
    List.all_eq_true.mp number.chars
  have taken : (number.literal ++ rest).takeWhile isNumberChar = number.literal := by
    rw [List.takeWhile_append_of_pos inside]
    cases rest with
    | nil => rw [List.takeWhile_nil, List.append_nil]
    | cons char rest =>
        rw [List.takeWhile_cons_of_neg (by simp [stops char rfl]), List.append_nil]
  have left : (number.literal ++ rest).dropWhile isNumberChar = rest := by
    rw [List.dropWhile_append_of_pos inside]
    cases rest with
    | nil => rfl
    | cons char rest => rw [List.dropWhile_cons_of_neg (by simp [stops char rfl])]
  simp only [readNumber, taken, left, number.valid, dif_pos]

theorem skipSpace_cons {char : Char} (visible : isSpace char = false) (rest : List Char) :
    skipSpace (char :: rest) = char :: rest :=
  List.dropWhile_cons_of_neg (by simp [visible])

theorem number_head (number : Number) :
    ∃ char rest, number.literal = char :: rest ∧ isNumberChar char = true := by
  cases same : number.literal with
  | nil =>
      have valid := number.valid
      rw [same] at valid
      cases valid
  | cons char rest =>
      have chars := number.chars
      rw [same, List.all_cons, Bool.and_eq_true] at chars
      exact ⟨char, rest, rfl, chars.1⟩

/-- The characters a value can start with. -/
def StartsValue (char : Char) : Prop :=
  isSpace char = false ∧ char ≠ ']' ∧ char ≠ closeBrace

theorem startsValue_of_isNumberChar {char : Char} (number : isNumberChar char = true) :
    StartsValue char ∧ char ∉ ['"', '[', openBrace, 'n', 't', 'f'] := by
  have apart : ∀ other : Char, isNumberChar other = false → char ≠ other := by
    intro other notNumber same
    rw [same, notNumber] at number
    cases number
  refine ⟨⟨?_, apart _ rfl, apart _ rfl⟩, ?_⟩
  · simp [isSpace, apart ' ' rfl, apart '\t' rfl, apart '\n' rfl, apart '\r' rfl]
  · simp [apart '"' rfl, apart '[' rfl, apart openBrace rfl, apart 'n' rfl, apart 't' rfl,
      apart 'f' rfl]

theorem write_head (value : Value) :
    ∃ char rest, write value = char :: rest ∧ StartsValue char := by
  have starts : ∀ char ∈ ['n', 't', 'f', '"', '[', openBrace], StartsValue char := by
    simp [StartsValue, isSpace, openBrace, closeBrace]
  cases value with
  | null => exact ⟨_, _, rfl, starts _ (by simp)⟩
  | bool value => cases value <;> exact ⟨_, _, rfl, starts _ (by simp)⟩
  | number number =>
      rcases number_head number with ⟨char, rest, same, inside⟩
      exact ⟨char, rest, same, (startsValue_of_isNumberChar inside).1⟩
  | string text => exact ⟨_, _, rfl, starts _ (by simp)⟩
  | array items => cases items <;> exact ⟨_, _, rfl, starts _ (by simp)⟩
  | object fields => cases fields <;> exact ⟨_, _, rfl, starts _ (by simp)⟩

theorem read_string (fuel : Nat) (text : String) (rest : List Char) :
    read (fuel + 1) (quoted text ++ rest) = some (.string text, rest) := by
  have literal : quoted text ++ rest = '"' :: (text.toList.flatMap escape ++ '"' :: rest) := by
    simp [quoted]
  rw [literal, read, skipSpace_cons rfl]
  simp only [if_true, readString_quoted]
  rfl

theorem read_number (fuel : Nat) (number : Number) {rest : List Char} (stops : Stops rest) :
    read (fuel + 1) (number.literal ++ rest) = some (.number number, rest) := by
  have whole := readNumber_literal number stops
  rcases number_head number with ⟨char, tail, same, inside⟩
  rcases startsValue_of_isNumberChar inside with ⟨starts, other⟩
  simp only [List.mem_cons, List.not_mem_nil, or_false, not_or] at other
  rw [same, List.cons_append] at whole ⊢
  rw [read, skipSpace_cons starts.1]
  simp only [other, if_false, whole]
  rfl

theorem read_array {fuel : Nat} {items : List Value} {text rest : List Char} {char : Char}
    (starts : StartsValue char) (inside : readItems fuel (char :: text) = some (items, rest)) :
    read (fuel + 1) ('[' :: char :: text) = some (.array items, rest) := by
  have notQuote : '[' ≠ '"' := by decide
  rw [read, skipSpace_cons rfl]
  simp only [notQuote, if_true, if_false, skipSpace_cons starts.1, starts.2.1, inside]
  rfl

theorem read_object {fuel : Nat} {fields : List (String × Value)} {text rest : List Char}
    (inside : readFields fuel ('"' :: text) = some (fields, rest)) :
    read (fuel + 1) (openBrace :: '"' :: text) = some (.object fields, rest) := by
  have notQuote : openBrace ≠ '"' := by decide
  have notBracket : openBrace ≠ '[' := by decide
  have notClosed : '"' ≠ closeBrace := by decide
  have visible : isSpace '"' = false := rfl
  rw [read, skipSpace_cons rfl]
  simp only [notQuote, notBracket, notClosed, if_true, if_false, skipSpace_cons visible, inside]
  rfl

theorem stops_writeItems (items : List Value) (rest : List Char) :
    Stops (writeItems items ++ rest) := by
  cases items with
  | nil => exact stops_cons rfl _
  | cons item items => exact stops_cons rfl _

theorem stops_writeFields (fields : List (String × Value)) (rest : List Char) :
    Stops (writeFields fields ++ rest) := by
  cases fields with
  | nil => exact stops_cons rfl _
  | cons field fields => exact stops_cons rfl _

theorem readItems_of {fuel : Nat} {item : Value} {items : List Value} {text rest : List Char}
    (first : read fuel text = some (item, writeItems items ++ rest))
    (others : items ≠ [] →
      readItems fuel ((writeItems items).tail ++ rest) = some (items, rest)) :
    readItems (fuel + 1) text = some (item :: items, rest) := by
  have comma : isSpace ',' = false := rfl
  have bracket : isSpace ']' = false := rfl
  have notComma : ']' ≠ ',' := by decide
  rw [readItems, first]
  cases items with
  | nil =>
      simp only [writeItems, List.cons_append, List.nil_append, Option.bind_eq_bind,
        Option.bind_some, skipSpace_cons bracket, notComma, if_true, if_false]
      rfl
  | cons next items =>
      have behind := others (List.cons_ne_nil _ _)
      simp only [writeItems, List.tail_cons, List.append_assoc] at behind
      simp only [writeItems, List.cons_append, List.append_assoc, Option.bind_eq_bind,
        Option.bind_some, skipSpace_cons comma, if_true, behind]
      rfl

theorem readFields_of {fuel : Nat} {key : String} {value : Value}
    {fields : List (String × Value)} {text rest : List Char}
    (first : read fuel text = some (value, writeFields fields ++ rest))
    (others : fields ≠ [] →
      readFields fuel ((writeFields fields).tail ++ rest) = some (fields, rest)) :
    readFields (fuel + 1) (quoted key ++ ':' :: text) = some ((key, value) :: fields, rest) := by
  have quote : isSpace '"' = false := rfl
  have colon : isSpace ':' = false := rfl
  have comma : isSpace ',' = false := rfl
  have brace : isSpace closeBrace = false := rfl
  have notComma : closeBrace ≠ ',' := by decide
  have literal : quoted key ++ ':' :: text =
      '"' :: (key.toList.flatMap escape ++ '"' :: ':' :: text) := by
    simp [quoted]
  rw [literal, readFields]
  simp only [skipSpace_cons quote, expect, if_true, Option.bind_eq_bind, Option.bind_some,
    readString_quoted, skipSpace_cons colon, first]
  cases fields with
  | nil =>
      simp only [writeFields, List.cons_append, List.nil_append, skipSpace_cons brace, notComma,
        if_true, if_false]
      rfl
  | cons field fields =>
      have behind := others (List.cons_ne_nil _ _)
      simp only [writeFields, List.tail_cons, List.append_assoc, List.cons_append] at behind
      simp only [writeFields, List.cons_append, List.append_assoc, skipSpace_cons comma, if_true,
        behind, Option.bind_some]
      rfl

mutual

/-- Every written value is read back, with enough fuel, and leaves what is behind it. -/
theorem read_write : (value : Value) → (fuel : Nat) → (rest : List Char) →
    (write value).length ≤ fuel → Stops rest →
    read fuel (write value ++ rest) = some (value, rest)
  | value, 0, rest, enough, _ => by
      rcases write_head value with ⟨char, tail, same, -⟩
      rw [same] at enough
      cases enough
  | .null, fuel + 1, rest, _, _ => by
      simp [write, read, skipSpace, isSpace, openBrace, expect]
  | .bool true, fuel + 1, rest, _, _ => by
      simp [write, read, skipSpace, isSpace, openBrace, expect]
  | .bool false, fuel + 1, rest, _, _ => by
      simp [write, read, skipSpace, isSpace, openBrace, expect]
  | .number number, fuel + 1, rest, _, stops => read_number fuel number stops
  | .string text, fuel + 1, rest, _, _ => read_string fuel text rest
  | .array [], fuel + 1, rest, _, _ => by
      simp [write, read, skipSpace, isSpace]
  | .array (item :: items), fuel + 1, rest, enough, _ => by
      rcases write_head item with ⟨char, tail, same, starts⟩
      have inside := readItems_write (item :: items) fuel rest (List.cons_ne_nil _ _) (by
        simp only [write, List.length_cons, writeItems, List.tail_cons] at enough ⊢
        omega)
      simp only [writeItems, List.tail_cons, same, List.cons_append] at inside
      simp only [write, same, List.cons_append]
      exact read_array starts inside
  | .object [], fuel + 1, rest, _, _ => by
      simp [write, read, skipSpace, isSpace, openBrace, closeBrace]
  | .object ((key, value) :: fields), fuel + 1, rest, enough, _ => by
      have inside := readFields_write ((key, value) :: fields) fuel rest (List.cons_ne_nil _ _) (by
        simp only [write, List.length_cons, writeFields, List.tail_cons] at enough ⊢
        omega)
      simp only [writeFields, List.tail_cons, quoted, List.cons_append] at inside
      simp only [write, quoted, List.cons_append]
      exact read_object inside

theorem readItems_write : (items : List Value) → (fuel : Nat) → (rest : List Char) →
    items ≠ [] → (writeItems items).tail.length ≤ fuel →
    readItems fuel ((writeItems items).tail ++ rest) = some (items, rest)
  | [], _, _, nonempty, _ => absurd rfl nonempty
  | item :: items, 0, rest, _, enough => by
      rcases write_head item with ⟨char, tail, same, -⟩
      simp [writeItems, same] at enough
  | item :: items, fuel + 1, rest, _, enough => by
      simp only [writeItems, List.tail_cons, List.length_append] at enough
      have positive : 0 < (writeItems items).length := by
        cases items <;> simp [writeItems]
      have first := read_write item fuel (writeItems items ++ rest) (by omega)
        (stops_writeItems items rest)
      simp only [writeItems, List.tail_cons, List.append_assoc]
      refine readItems_of first fun nonempty => readItems_write items fuel rest nonempty ?_
      simp only [List.length_tail]
      omega

theorem readFields_write : (fields : List (String × Value)) → (fuel : Nat) → (rest : List Char) →
    fields ≠ [] → (writeFields fields).tail.length ≤ fuel →
    readFields fuel ((writeFields fields).tail ++ rest) = some (fields, rest)
  | [], _, _, nonempty, _ => absurd rfl nonempty
  | (key, value) :: fields, 0, rest, _, enough => by
      simp [writeFields, quoted] at enough
  | (key, value) :: fields, fuel + 1, rest, _, enough => by
      simp only [writeFields, List.tail_cons, List.length_append, List.length_cons] at enough
      have first := read_write value fuel (writeFields fields ++ rest) (by omega)
        (stops_writeFields fields rest)
      simp only [writeFields, List.tail_cons, List.append_assoc, List.cons_append]
      refine readFields_of first fun nonempty => readFields_write fields fuel rest nonempty ?_
      simp only [List.length_tail]
      omega

end

theorem readText_write (value : Value) : readText (write value) = some value := by
  have whole : read (write value).length (write value) = some (value, []) := by
    have behind := read_write value (write value).length [] (Nat.le_refl _) stops_nil
    rwa [List.append_nil] at behind
  have blank : skipSpace [] = [] := rfl
  rw [readText, whole, Option.bind_eq_bind, Option.bind_some]
  exact if_pos blank

/-- Different values have different texts. -/
theorem write_injective : Function.Injective write := by
  intro first second same
  have read := readText_write first
  rw [same, readText_write] at read
  exact (Option.some.inj read).symm

def digits (value : Nat) : List Char := Nat.toDigits 10 value

theorem digits_head {value : Nat} (positive : 0 < value) :
    ∃ char rest, digits value = char :: rest ∧ char ≠ '0' := by
  induction value using Nat.strong_induction_on with
  | h value ih =>
      by_cases small : value < 10
      · have nonzero : ∀ digit < 10, 0 < digit → Nat.digitChar digit ≠ '0' := by decide
        exact ⟨_, [], Nat.toDigits_of_lt_base small, nonzero value small positive⟩
      · have shorter := ih (value / 10) (by omega) (by omega)
        rcases shorter with ⟨char, rest, same, nonzero⟩
        refine ⟨char, rest ++ [Nat.digitChar (value % 10)], ?_, nonzero⟩
        rw [digits, Nat.toDigits_of_base_le (by decide) (by omega), ← digits, same,
          List.cons_append]

theorem isDigit_of_mem_digits {value : Nat} {char : Char} (member : char ∈ digits value) :
    char.isDigit = true :=
  Nat.isDigit_of_mem_toDigits (by decide) (by decide) member

theorem afterInteger_digits (value : Nat) : afterInteger (digits value) = some [] := by
  cases Nat.eq_zero_or_pos value with
  | inl zero =>
      subst zero
      rfl
  | inr positive =>
      rcases digits_head positive with ⟨char, rest, same, nonzero⟩
      have all : ∀ other ∈ char :: rest, other.isDigit = true := by
        intro other member
        rw [← same] at member
        exact isDigit_of_mem_digits member
      rw [same, afterInteger, if_neg nonzero, if_pos (all char (by simp)),
        List.dropWhile_eq_nil_iff.mpr fun other member => all other (by simp [member])]

/-- `strconv.AppendInt` in base 10. -/
def decimal (value : Int) : List Char :=
  if value < 0 then '-' :: digits value.natAbs else digits value.natAbs

theorem afterSign_digits (value : Nat) : afterSign (digits value) = digits value := by
  cases same : digits value with
  | nil => rfl
  | cons char rest =>
      have digit : char.isDigit = true := isDigit_of_mem_digits (by rw [same]; simp)
      have notMinus : char ≠ '-' := by
        rintro rfl
        cases digit
      rw [afterSign, if_neg notMinus]

theorem afterSign_decimal (value : Int) : afterSign (decimal value) = digits value.natAbs := by
  unfold decimal
  split
  · rfl
  · exact afterSign_digits _

def integer (value : Int) : Number where
  literal := decimal value
  chars := by
    have digitChars : (digits value.natAbs).all isNumberChar = true := by
      apply List.all_eq_true.mpr
      intro char member
      simp [isNumberChar, isDigit_of_mem_digits member]
    unfold decimal
    split
    · rw [List.all_cons, digitChars]
      rfl
    · exact digitChars
  valid := by simp [isValidNumber, afterSign_decimal, afterInteger_digits, afterFraction,
    afterExponent]

theorem digits_injective : Function.Injective digits := by
  intro first second same
  have values := congrArg (Nat.ofDigitChars 10 · 0) same
  simpa only [digits, Nat.ofDigitChars_ten_toDigits] using values

theorem decimal_injective : Function.Injective decimal := by
  intro first second same
  have absolute : first.natAbs = second.natAbs := by
    apply digits_injective
    rw [← afterSign_decimal, same, afterSign_decimal]
  have apart : ∀ value : Nat, '-' :: digits value ≠ digits value := by
    intro value equal
    have length := congrArg List.length equal
    simp at length
  have sign : first < 0 ↔ second < 0 := by
    rw [decimal, decimal, absolute] at same
    by_cases firstNegative : first < 0
    · by_cases secondNegative : second < 0
      · exact iff_of_true firstNegative secondNegative
      · rw [if_pos firstNegative, if_neg secondNegative] at same
        exact absurd same (apart _)
    · by_cases secondNegative : second < 0
      · rw [if_neg firstNegative, if_pos secondNegative] at same
        exact absurd same.symm (apart _)
      · exact iff_of_false firstNegative secondNegative
  omega

theorem integer_injective : Function.Injective integer := by
  intro first second same
  exact decimal_injective (congrArg Number.literal same)

/-- A field of a struct as it is declared: its name and the name in its tag. -/
structure Shape where
  name : String
  tag : String
  deriving DecidableEq, Repr

def Shape.exported (shape : Shape) : Bool := shape.name.toList.head?.any Char.isUpper

/-- `dominantField` on one level of fields that are all tagged: those that share a name are all
left out. -/
def keeps (shapes : List Shape) (shape : Shape) : Bool :=
  shape.exported &&
    (shapes.countP fun other => other.exported && other.tag == shape.tag) == 1

def ofStruct (fields : List (Shape × Value)) : Value :=
  .object ((fields.filter fun field => keeps (fields.map Prod.fst) field.1).map
    fun field => (field.1.tag, field.2))

def masked (mask : List Bool) (fields : List (Shape × Value)) : List Value :=
  ((fields.zip mask).filter Prod.snd).map fun field => field.1.2

theorem filter_eq_masked (keep : Shape → Bool) (fields : List (Shape × Value)) :
    (fields.filter fun field => keep field.1).map Prod.snd =
      masked ((fields.map Prod.fst).map keep) fields := by
  induction fields with
  | nil => rfl
  | cons field fields ih =>
      rw [masked] at ih ⊢
      cases kept : keep field.1 with
      | false => simp [kept, ih]
      | true => simp [kept, ih]

/-- Two structs of one type are written alike if the values in the places that are kept agree. -/
theorem ofStruct_eq_iff {first second : List (Shape × Value)} {shapes : List Shape}
    {mask : List Bool} (kept : shapes.map (keeps shapes) = mask)
    (declared : first.map Prod.fst = shapes) (declared' : second.map Prod.fst = shapes) :
    ofStruct first = ofStruct second ↔ masked mask first = masked mask second := by
  have names : ∀ fields : List (Shape × Value), fields.map Prod.fst = shapes →
      (fields.filter fun field => keeps shapes field.1).map (fun field => field.1.tag) =
        (shapes.filter (keeps shapes)).map Shape.tag := by
    intro fields declared
    rw [← declared, List.filter_map, List.map_map]
    rfl
  have values : ∀ fields : List (Shape × Value), fields.map Prod.fst = shapes →
      (fields.filter fun field => keeps shapes field.1).map Prod.snd = masked mask fields := by
    intro fields declared
    rw [filter_eq_masked, declared, kept]
  rw [ofStruct, ofStruct, declared, declared', Value.object.injEq]
  constructor
  · intro same
    have seconds := congrArg (List.map Prod.snd) same
    rw [List.map_map, List.map_map] at seconds
    rw [← values first declared, ← values second declared']
    exact seconds
  · intro same
    calc
      (first.filter fun field => keeps shapes field.1).map (fun field => (field.1.tag, field.2))
          = ((shapes.filter (keeps shapes)).map Shape.tag).zip (masked mask first) := by
        rw [← names first declared, ← values first declared, List.zip_map']
      _ = ((shapes.filter (keeps shapes)).map Shape.tag).zip (masked mask second) := by rw [same]
      _ = (second.filter fun field => keeps shapes field.1).map
            (fun field => (field.1.tag, field.2)) := by
        rw [← names second declared', ← values second declared', List.zip_map']

/-- With a name of its own for each field, a struct is written with all of them. -/
theorem ofStruct_of_all {fields : List (Shape × Value)} {shapes : List Shape}
    (kept : shapes.all (keeps shapes) = true) (declared : fields.map Prod.fst = shapes) :
    ofStruct fields = .object (fields.map fun field => (field.1.tag, field.2)) := by
  have all : ∀ field ∈ fields, keeps shapes field.1 = true := by
    intro field member
    rw [← declared] at kept ⊢
    exact List.all_eq_true.mp kept field.1 (List.mem_map_of_mem member)
  rw [ofStruct, declared, List.filter_eq_self.mpr all]

theorem values_of_ofStruct {first second : List (Shape × Value)} {shapes : List Shape}
    (kept : shapes.all (keeps shapes) = true) (declared : first.map Prod.fst = shapes)
    (declared' : second.map Prod.fst = shapes) (same : ofStruct first = ofStruct second) :
    first.map Prod.snd = second.map Prod.snd := by
  rw [ofStruct_of_all kept declared, ofStruct_of_all kept declared', Value.object.injEq] at same
  have seconds := congrArg (List.map Prod.snd) same
  rwa [List.map_map, List.map_map] at seconds

def base64Char (index : Fin 64) : Char :=
  if index.val < 26 then Char.ofNat ('A'.toNat + index)
  else if index.val < 52 then Char.ofNat ('a'.toNat + (index - 26))
  else if index.val < 62 then Char.ofNat ('0'.toNat + (index - 52))
  else if index.val = 62 then '+' else '/'

/-- A slice of bytes, where an empty one is taken to be nil. -/
def ofBytes (bytes : List UInt8) : Value :=
  if bytes = [] then .null else .string (String.ofList (Radix64.encode base64Char '=' bytes))

end NearRtRic.JsonText
