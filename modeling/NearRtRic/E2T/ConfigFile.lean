import Mathlib.Tactic
import NearRtRic.Library.Assignments
import NearRtRic.Library.CInteger
import NearRtRic.Library.Lines

/-! The configuration file: sections, entries and the blanks around them. -/

namespace NearRtRic.E2T.ConfigFile

open Runs Assignments Lines

/-- `entries`: an `unordered_map<string, string>`. -/
abbrev Entries := List Char → Option (List Char)

def blank (char : Char) : Bool :=
  [9, 10, 11, 12, 13, 32].contains char.toNat

/-- What the loop of `openConfigFile` keeps from line to line: `section` and `entries`. -/
structure Reading where
  sectionName : List Char
  entries : Entries

/-- The body of the loop; `none` where it returns -1. -/
def readLine (reading : Reading) (line : List Char) : Option Reading :=
  match line with
  | [] => some reading
  | first :: _ =>
      if first = '#' ∨ first = ';' ∨ first = '\x7b' then some reading
      else if first = '[' then
        match cut ']' line with
        | none => none
        | some (upTo, _) =>
            some { reading with sectionName := trim blank (upTo.drop 1 ++ ['.']) }
      else
        match cut '=' line with
        | none => some reading
        | some (left, value) =>
            let name := reading.sectionName ++ trim blank left
            if value.length = 0 then some reading
            else some { reading with
              entries := Function.update reading.entries name (some (trim blank value)) }

def readLines (reading : Reading) : List (List Char) → Int × Entries
  | [] => (0, reading.entries)
  | line :: rest =>
      match readLine reading line with
      | none => (-1, reading.entries)
      | some next => readLines next rest

/-- The content of the file is `none` where it cannot be opened. -/
def openConfigFile (configFile : Option (List Char)) : Int × Entries :=
  match configFile with
  | none => (-1, fun _ => none)
  | some text => readLines { sectionName := [], entries := fun _ => none } (lines '\n' text)

def getStringValue (entries : Entries) (key : List Char) : List Char :=
  (entries key).getD []

/-- The `long` that `strtol` returns, as an `int`. -/
def getIntValue (entries : Entries) (key : List Char) : Int :=
  match entries key with
  | none => -1
  | some value => CInteger.toSigned 32 (CInteger.strtol value)

inductive LineKind
  | skipped
  | header (name : List Char)
  | unclosed
  | entry (key value : List Char)
  deriving DecidableEq

def lineKind (line : List Char) : LineKind :=
  match line with
  | [] => .skipped
  | first :: rest =>
      if first = '#' ∨ first = ';' ∨ first = '\x7b' then .skipped
      else if first = '[' then
        match cut ']' rest with
        | none => .unclosed
        | some (name, _) => .header name
      else
        match cut '=' line with
        | none => .skipped
        | some (_, []) => .skipped
        | some (key, first :: value) => .entry key (first :: value)

def lineKinds (text : List Char) : List LineKind :=
  (lines '\n' text).map lineKind

/-- An entry line as it stands, and the name of the section it is under, if any. -/
structure Entry where
  under : Option (List Char)
  key : List Char
  value : List Char
  deriving DecidableEq

def entryLines : Option (List Char) → List LineKind → List Entry
  | _, [] => []
  | under, .skipped :: rest => entryLines under rest
  | _, .header name :: rest => entryLines (some name) rest
  | _, .unclosed :: _ => []
  | under, .entry key value :: rest =>
      { under := under, key := key, value := value } :: entryLines under rest

abbrev entriesOf (text : List Char) : List Entry :=
  entryLines none (lineKinds text)

abbrev Path := Option (List Char) × List Char

def dotted : Path → List Char
  | (none, key) => key
  | (some name, key) => name ++ ['.'] ++ key

namespace Entry

def path (entry : Entry) : Path :=
  (entry.under.map (trim blank), trim blank entry.key)

/-- The name under which the code stores the entry. -/
def name (entry : Entry) : List Char :=
  dotted (entry.under.map (ltrim blank), trim blank entry.key)

def assigned (entry : Entry) : Path × List Char :=
  (entry.path, trim blank entry.value)

def stored (entry : Entry) : List Char × List Char :=
  (entry.name, trim blank entry.value)

end Entry

/-- The value of the last entry line with each section and key. -/
def lastValues (text : List Char) : Path → Option (List Char) :=
  written ((entriesOf text).map Entry.assigned)

def sectionOf (under : Option (List Char)) : List Char :=
  match under with
  | none => []
  | some name => ltrim blank name ++ ['.']

theorem dot_solid : blank '.' = false := by decide

theorem name_eq (entry : Entry) :
    entry.name = sectionOf entry.under ++ trim blank entry.key := by
  rcases entry with ⟨under, key, value⟩
  cases under <;> rfl

theorem cut_bracket (rest : List Char) :
    cut ']' ('[' :: rest) = (cut ']' rest).map fun parts => ('[' :: parts.1, parts.2) := by
  rw [cut, if_neg (by decide)]

theorem readLine_eq (reading : Reading) (line : List Char) :
    readLine reading line =
      match lineKind line with
      | .skipped => some reading
      | .header name => some { reading with sectionName := sectionOf (some name) }
      | .unclosed => none
      | .entry key value => some { reading with
          entries := assign reading.entries
            (reading.sectionName ++ trim blank key, trim blank value) } := by
  cases line with
  | nil => rfl
  | cons first rest =>
      rw [readLine, lineKind]
      split
      · rfl
      · split
        · next opened =>
          rw [opened, cut_bracket]
          cases found : cut ']' rest with
          | none => rfl
          | some parts =>
              simp only [Option.map_some, sectionOf, List.drop_succ_cons, List.drop_zero]
              rw [trim_snoc dot_solid]
        · cases found : cut '=' (first :: rest) with
          | none => rfl
          | some parts =>
              rcases parts with ⟨left, value⟩
              cases value <;> rfl

theorem readLines_eq (under : Option (List Char)) (entries : Entries)
    (text : List (List Char)) :
    readLines { sectionName := sectionOf under, entries := entries } text =
      (if .unclosed ∈ text.map lineKind then -1 else 0,
        run assign entries ((entryLines under (text.map lineKind)).map Entry.stored)) := by
  induction text generalizing under entries with
  | nil => rfl
  | cons line text ih =>
      rw [readLines, readLine_eq, List.map_cons]
      cases kind : lineKind line with
      | skipped => simpa [entryLines] using ih under entries
      | header name => simpa [entryLines] using ih (some name) entries
      | unclosed => simp [entryLines]
      | entry key value =>
          have rest := ih under
            (assign entries (sectionOf under ++ trim blank key, trim blank value))
          simpa [entryLines, Entry.stored, name_eq] using rest

theorem openConfigFile_eq (text : List Char) :
    openConfigFile (some text) =
      (if .unclosed ∈ lineKinds text then -1 else 0,
        written ((entriesOf text).map Entry.stored)) :=
  readLines_eq none (fun _ => none) (lines '\n' text)

/-- Other blanks around the name of a section, before the `=` of an entry, or around its
value. -/
inductive LineEdit : List Char → List Char → Prop
  | unchanged (line : List Char) : LineEdit line line
  | header (name rest : List Char) (before after before' after' : Blanks blank)
      (closed : ']' ∉ name) :
      LineEdit ('[' :: ((before.1 ++ name ++ after.1) ++ ']' :: rest))
        ('[' :: ((before'.1 ++ name ++ after'.1) ++ ']' :: rest))
  | entry (key value : List Char) (space space' before after before' after' : Blanks blank)
      (starts : key.head? ∉ [some '#', some ';', some '\x7b', some '['])
      (plain : '=' ∉ key)
      (filled : before.1 ++ value ++ after.1 ≠ [])
      (filled' : before'.1 ++ value ++ after'.1 ≠ []) :
      LineEdit ((key ++ space.1) ++ '=' :: (before.1 ++ value ++ after.1))
        ((key ++ space'.1) ++ '=' :: (before'.1 ++ value ++ after'.1))

def BlankEdit (text other : List Char) : Prop :=
  List.Forall₂ LineEdit (lines '\n' text) (lines '\n' other)

namespace LineKind

def trimmed : LineKind → LineKind
  | skipped => skipped
  | header name => header (trim blank name)
  | unclosed => unclosed
  | entry key value => entry (trim blank key) (trim blank value)

end LineKind

theorem plain_blanks {char : Char} (solid : blank char = false) (blanks : Blanks blank) :
    char ∉ blanks.1 := by
  intro member
  exact Bool.false_ne_true (solid.symm.trans (blanks.2 char member))

theorem lineKind_header {name : List Char} (closed : ']' ∉ name) (rest : List Char) :
    lineKind ('[' :: (name ++ ']' :: rest)) = .header name := by
  have found : cut ']' (name ++ ']' :: rest) = some (name, rest) := cut_append closed rest
  rw [lineKind, if_neg (by decide), if_pos rfl, found]

theorem lineKind_entry {key value : List Char}
    (starts : key.head? ∉ [some '#', some ';', some '\x7b', some '['])
    (plain : '=' ∉ key) (filled : value ≠ []) :
    lineKind (key ++ '=' :: value) = .entry key value := by
  have found : cut '=' (key ++ '=' :: value) = some (key, value) := cut_append plain value
  rcases List.exists_cons_of_ne_nil filled with ⟨head, tail, rfl⟩
  cases key with
  | nil =>
      rw [List.nil_append] at found ⊢
      rw [lineKind, if_neg (by decide), if_neg (by decide), found]
  | cons first key =>
      simp only [List.head?_cons, List.mem_cons, Option.some.injEq, List.not_mem_nil, or_false,
        not_or] at starts
      rcases starts with ⟨hash, semicolon, brace, bracket⟩
      rw [List.cons_append] at found ⊢
      rw [lineKind, if_neg (by simp [hash, semicolon, brace]), if_neg bracket, found]

theorem head_append_blanks {key : List Char}
    (starts : key.head? ∉ [some '#', some ';', some '\x7b', some '[']) (space : Blanks blank) :
    (key ++ space.1).head? ∉ [some '#', some ';', some '\x7b', some '['] := by
  cases key with
  | cons first key => exact starts
  | nil =>
      intro special
      rw [List.nil_append] at special
      cases first : space.1.head? with
      | none => simp [first] at special
      | some char =>
          have isBlank : blank char = true := space.2 char (List.mem_of_head? first)
          simp only [first, List.mem_cons, Option.some.injEq, List.not_mem_nil, or_false]
            at special
          rcases special with rfl | rfl | rfl | rfl <;> exact absurd isBlank (by decide)

/-- An edit of blanks leaves what is left of the line after trimming. -/
theorem LineEdit.trimmed_eq {line other : List Char} (edit : LineEdit line other) :
    (lineKind line).trimmed = (lineKind other).trimmed := by
  cases edit with
  | unchanged => rfl
  | header name rest before after before' after' closed =>
      have bracket : blank ']' = false := by decide
      have plain (front back : Blanks blank) : ']' ∉ front.1 ++ name ++ back.1 := by
        simp [closed, plain_blanks bracket front, plain_blanks bracket back]
      rw [lineKind_header (plain before after), lineKind_header (plain before' after'),
        LineKind.trimmed, LineKind.trimmed, trim_between, trim_between]
  | entry key value space space' before after before' after' starts plain filled filled' =>
      have equals : blank '=' = false := by decide
      have plainKey (back : Blanks blank) : '=' ∉ key ++ back.1 := by
        simp [plain, plain_blanks equals back]
      have trimKey (back : Blanks blank) : trim blank (key ++ back.1) = trim blank key :=
        trim_between ⟨[], by simp⟩ back key
      rw [lineKind_entry (head_append_blanks starts space) (plainKey space) filled,
        lineKind_entry (head_append_blanks starts space') (plainKey space') filled',
        LineKind.trimmed, LineKind.trimmed, trim_between, trim_between, trimKey, trimKey]

theorem lineKinds_trimmed {text other : List Char} (edit : BlankEdit text other) :
    (lineKinds text).map LineKind.trimmed = (lineKinds other).map LineKind.trimmed := by
  rw [lineKinds, lineKinds, List.map_map, List.map_map]
  rw [BlankEdit] at edit
  generalize lines '\n' text = before at edit ⊢
  generalize lines '\n' other = after at edit ⊢
  induction edit with
  | nil => rfl
  | cons head _ ih =>
      rw [List.map_cons, List.map_cons, ih]
      exact congrArg (· :: _) head.trimmed_eq

theorem assigned_of_trimmed {under under' : Option (List Char)} {kinds kinds' : List LineKind}
    (sections : under.map (trim blank) = under'.map (trim blank))
    (same : kinds.map LineKind.trimmed = kinds'.map LineKind.trimmed) :
    (entryLines under kinds).map Entry.assigned = (entryLines under' kinds').map Entry.assigned := by
  induction kinds generalizing under under' kinds' with
  | nil =>
      rw [List.map_nil, eq_comm, List.map_eq_nil_iff] at same
      rw [same]
      rfl
  | cons kind kinds ih =>
      cases kinds' with
      | nil => simp at same
      | cons kind' kinds' =>
          simp only [List.map_cons, List.cons.injEq] at same
          rcases same with ⟨here, rest⟩
          cases kind <;> cases kind' <;> simp only [LineKind.trimmed, reduceCtorEq] at here
          case skipped =>
            rw [entryLines, entryLines]
            exact ih sections rest
          case header name name' =>
            rw [LineKind.header.injEq] at here
            rw [entryLines, entryLines]
            exact ih (congrArg some here) rest
          case unclosed => rfl
          case entry key value key' value' =>
            rw [LineKind.entry.injEq] at here
            simp [entryLines, Entry.assigned, Entry.path, sections, here, ih sections rest]

theorem unclosed_of_trimmed (kinds : List LineKind) :
    LineKind.unclosed ∈ kinds ↔ LineKind.unclosed ∈ kinds.map LineKind.trimmed := by
  rw [List.mem_map]
  constructor
  · intro member
    exact ⟨_, member, rfl⟩
  · rintro ⟨kind, member, same⟩
    cases kind <;> simp only [LineKind.trimmed, reduceCtorEq] at same
    exact member

/-- No entry is read under a section with a name. -/
def NoNamedSection (text : List Char) : Prop :=
  ∀ entry ∈ entriesOf text, ∀ name, entry.under = some name → trim blank name = []

/-- No entry is read under a section whose name has blanks behind it. -/
def NoTrailingBlanks (text : List Char) : Prop :=
  ∀ entry ∈ entriesOf text, ∀ name, entry.under = some name →
    ltrim blank name = trim blank name

/-- Where two sections and keys come to one dotted name, they have one last value. -/
def OneValueEach (text : List Char) : Prop :=
  ∀ path other value valueOther, lastValues text path = some value →
    lastValues text other = some valueOther → dotted path = dotted other → value = valueOther

/-- No edit of the blanks changes the map. -/
def BlanksIgnored (text : List Char) : Prop :=
  ∀ other, BlankEdit text other → (openConfigFile (some other)).2 = (openConfigFile (some text)).2

/-- If the text is accepted, every last value is found under its section and key. -/
def LastValuesFound (text : List Char) : Prop :=
  (openConfigFile (some text)).1 = 0 → ∀ path value, lastValues text path = some value →
    getStringValue (openConfigFile (some text)).2 (dotted path) = value

theorem NoNamedSection.noTrailingBlanks {text : List Char} (unnamed : NoNamedSection text) :
    NoTrailingBlanks text := by
  intro entry member name under
  have empty : trim blank name = [] := unnamed entry member name under
  rw [empty, ltrim_eq_nil.mpr empty]

theorem entry_name_eq {entry : Entry}
    (tight : ∀ name, entry.under = some name → ltrim blank name = trim blank name) :
    entry.name = dotted entry.path := by
  rcases entry with ⟨_ | name, key, value⟩
  · rfl
  · simp only [Entry.name, Entry.path, Option.map_some, tight name rfl]

/-- Without blanks behind the names of sections, the code's map is the table of last values,
entered under dotted names. -/
theorem openConfigFile_of_noTrailingBlanks {text : List Char} (tight : NoTrailingBlanks text) :
    (openConfigFile (some text)).2 =
      written (renamed dotted ((entriesOf text).map Entry.assigned)) := by
  rw [openConfigFile_eq, renamed, List.map_map]
  refine congrArg written (List.map_congr_left ?_)
  intro entry member
  simp only [Entry.stored, Entry.assigned, Function.comp_apply,
    entry_name_eq (tight entry member)]

theorem assigned_of_edit {text other : List Char} (edit : BlankEdit text other) :
    (entriesOf text).map Entry.assigned = (entriesOf other).map Entry.assigned :=
  assigned_of_trimmed rfl (lineKinds_trimmed edit)

theorem returned_of_edit {text other : List Char} (edit : BlankEdit text other) :
    (openConfigFile (some text)).1 = (openConfigFile (some other)).1 := by
  have same : LineKind.unclosed ∈ lineKinds text ↔ LineKind.unclosed ∈ lineKinds other := by
    rw [unclosed_of_trimmed (lineKinds text), unclosed_of_trimmed (lineKinds other),
      lineKinds_trimmed edit]
  simp only [openConfigFile_eq, same]

theorem openConfigFile_of_edit {text other : List Char} (edit : BlankEdit text other)
    (tight : NoTrailingBlanks text) (tightOther : NoTrailingBlanks other) :
    openConfigFile (some other) = openConfigFile (some text) := by
  have maps : (openConfigFile (some other)).2 = (openConfigFile (some text)).2 := by
    rw [openConfigFile_of_noTrailingBlanks tight,
      openConfigFile_of_noTrailingBlanks tightOther, assigned_of_edit edit]
  exact Prod.ext (returned_of_edit edit).symm maps

theorem noNamedSection_iff (text : List Char) :
    NoNamedSection text ↔
      ∀ assignment ∈ (entriesOf text).map Entry.assigned,
        ∀ name, assignment.1.1 = some name → name = [] := by
  constructor
  · intro unnamed assignment member name under
    rcases List.mem_map.mp member with ⟨entry, present, rfl⟩
    rcases Option.map_eq_some_iff.mp under with ⟨raw, stands, rfl⟩
    exact unnamed entry present raw stands
  · intro empty entry member name under
    refine empty entry.assigned (List.mem_map_of_mem member) (trim blank name) ?_
    simp [Entry.assigned, Entry.path, under]

theorem NoNamedSection.of_edit {text other : List Char} (unnamed : NoNamedSection text)
    (edit : BlankEdit text other) : NoNamedSection other := by
  rw [noNamedSection_iff, ← assigned_of_edit edit]
  exact (noNamedSection_iff text).mp unnamed

theorem NoNamedSection.blanksIgnored {text : List Char} (unnamed : NoNamedSection text) :
    BlanksIgnored text := by
  intro other edit
  rw [openConfigFile_of_edit edit unnamed.noTrailingBlanks
    (unnamed.of_edit edit).noTrailingBlanks]

/-! Blanks behind every section name, more of them than any stored name is long. -/

def spaces (count : Nat) : List Char := List.replicate count ' '

def padHeader (count : Nat) (line : List Char) : List Char :=
  match lineKind line with
  | .header name => '[' :: ((name ++ spaces count) ++ ']' :: line.drop (name.length + 2))
  | _ => line

def padText (count : Nat) (text : List Char) : List Char :=
  unlines '\n' ((lines '\n' text).map (padHeader count))

namespace LineKind

def padded (count : Nat) : LineKind → LineKind
  | header name => header (name ++ spaces count)
  | kind => kind

end LineKind

theorem mem_spaces {count : Nat} {char : Char} (member : char ∈ spaces count) :
    char = ' ' :=
  List.eq_of_mem_replicate member

theorem header_line {line name : List Char} (kind : lineKind line = .header name) :
    line = '[' :: (name ++ ']' :: line.drop (name.length + 2)) ∧ ']' ∉ name := by
  cases line with
  | nil => simp [lineKind] at kind
  | cons first rest =>
      rw [lineKind] at kind
      split at kind
      · simp at kind
      · split at kind
        · next opened =>
          subst opened
          cases found : cut ']' rest with
          | none => simp [found] at kind
          | some parts =>
              rcases parts with ⟨front, back⟩
              simp only [found, LineKind.header.injEq] at kind
              subst kind
              rcases cut_eq_some.mp found with ⟨rfl, closed⟩
              simp [closed, List.drop_append]
        · split at kind <;> simp at kind

theorem padHeader_edit (count : Nat) (line : List Char) : LineEdit line (padHeader count line) := by
  cases kind : lineKind line with
  | header name =>
      rcases header_line kind with ⟨shape, closed⟩
      have edit := LineEdit.header name (line.drop (name.length + 2)) ⟨[], by simp⟩ ⟨[], by simp⟩
        ⟨[], by simp⟩ ⟨spaces count, fun char member => by rw [mem_spaces member]; decide⟩ closed
      simp only [List.nil_append, List.append_nil] at edit
      rw [padHeader, kind]
      rw [← shape] at edit
      exact edit
  | skipped => rw [padHeader, kind]; exact .unchanged line
  | unclosed => rw [padHeader, kind]; exact .unchanged line
  | entry key value => rw [padHeader, kind]; exact .unchanged line

theorem lineKind_padHeader (count : Nat) (line : List Char) :
    lineKind (padHeader count line) = (lineKind line).padded count := by
  cases kind : lineKind line with
  | header name =>
      have closed : ']' ∉ name ++ spaces count := by
        intro member
        rcases List.mem_append.mp member with inside | behind
        · exact (header_line kind).2 inside
        · exact absurd (mem_spaces behind) (by decide)
      rw [padHeader, kind]
      exact lineKind_header closed _
  | skipped => rw [padHeader, kind]; exact kind
  | unclosed => rw [padHeader, kind]; exact kind
  | entry key value => rw [padHeader, kind]; exact kind

theorem plain_padHeader (count : Nat) {line : List Char} (plain : '\n' ∉ line) :
    '\n' ∉ padHeader count line := by
  rw [padHeader]
  split
  · next name kind =>
    have shape := (header_line kind).1
    rw [shape] at plain
    simp only [List.mem_cons, List.mem_append, not_or] at plain ⊢
    refine ⟨plain.1, ⟨plain.2.1, ?_⟩, plain.2.2.1, plain.2.2.2⟩
    intro member
    exact absurd (mem_spaces member) (by decide)
  · exact plain

theorem lines_padText (count : Nat) (text : List Char) :
    lines '\n' (padText count text) = (lines '\n' text).map (padHeader count) := by
  refine lines_unlines ?_
  intro line member
  rcases List.mem_map.mp member with ⟨original, present, rfl⟩
  exact plain_padHeader count (plain_of_mem_lines present)

theorem padText_edit (count : Nat) (text : List Char) : BlankEdit text (padText count text) := by
  rw [BlankEdit, lines_padText]
  induction lines '\n' text with
  | nil => exact .nil
  | cons line rest ih => exact .cons (padHeader_edit count line) ih

theorem entryLines_padded (count : Nat) (under : Option (List Char)) (kinds : List LineKind) :
    entryLines (under.map (· ++ spaces count)) (kinds.map (LineKind.padded count)) =
      (entryLines under kinds).map fun entry =>
        { entry with under := entry.under.map (· ++ spaces count) } := by
  induction kinds generalizing under with
  | nil => rfl
  | cons kind kinds ih =>
      cases kind with
      | skipped => exact ih under
      | header name => exact ih (some name)
      | unclosed => rfl
      | entry key value =>
          simp only [List.map_cons, LineKind.padded, entryLines, ih under]

theorem entriesOf_padText (count : Nat) (text : List Char) :
    entriesOf (padText count text) = (entriesOf text).map fun entry =>
      { entry with under := entry.under.map (· ++ spaces count) } := by
  have kinds : lineKinds (padText count text) =
      (lineKinds text).map (LineKind.padded count) := by
    rw [lineKinds, lineKinds, lines_padText, List.map_map, List.map_map]
    exact List.map_congr_left fun line _ => lineKind_padHeader count line
  rw [entriesOf, kinds]
  exact entryLines_padded count none (lineKinds text)

/-- Padded longer than every name that the text stores, an entry under a named section is
stored under a name that the text does not store. -/
theorem NoNamedSection.of_blanksIgnored {text : List Char} (ignored : BlanksIgnored text) :
    NoNamedSection text := by
  intro entry member name under
  by_contra named
  let names := (entriesOf text).map Entry.name
  let count := (names.map List.length).sum
  have same : (openConfigFile (some (padText count text))).2 = (openConfigFile (some text)).2 :=
    ignored _ (padText_edit count text)
  rw [openConfigFile_eq, openConfigFile_eq, entriesOf_padText] at same
  dsimp only at same
  let moved : Entry := { entry with under := entry.under.map (· ++ spaces count) }
  have padded : written ((entriesOf text).map Entry.stored) moved.name ≠ none := by
    rw [← same]
    refine (written_ne_none _ _).mpr ⟨trim blank entry.value, ?_⟩
    exact List.mem_map.mpr ⟨moved, List.mem_map_of_mem member, rfl⟩
  rcases (written_ne_none _ _).mp padded with ⟨value, stored⟩
  rcases List.mem_map.mp stored with ⟨other, present, equal⟩
  have short : moved.name.length ≤ count := by
    have inside : moved.name ∈ names :=
      List.mem_map.mpr ⟨other, present, congrArg Prod.fst equal⟩
    exact List.single_le_sum (by simp) _ (List.mem_map_of_mem inside)
  have remains : ltrim blank name ≠ [] := fun empty => named (ltrim_eq_nil.mp empty)
  have long : moved.name =
      ltrim blank name ++ spaces count ++ ['.'] ++ trim blank entry.key := by
    simp only [moved, Entry.name, under, Option.map_some, dotted, ltrim_append remains]
  rw [long] at short
  simp only [List.length_append, spaces, List.length_replicate, List.length_singleton] at short
  omega

theorem blanksIgnored_iff (text : List Char) : BlanksIgnored text ↔ NoNamedSection text :=
  ⟨NoNamedSection.of_blanksIgnored, NoNamedSection.blanksIgnored⟩

theorem accepted_iff (text : List Char) :
    (openConfigFile (some text)).1 = 0 ↔ .unclosed ∉ lineKinds text := by
  rw [openConfigFile_eq]
  by_cases unclosed : LineKind.unclosed ∈ lineKinds text <;> simp [unclosed]

theorem lastValuesFound_iff {text : List Char} (tight : NoTrailingBlanks text) :
    LastValuesFound text ↔ (.unclosed ∉ lineKinds text → OneValueEach text) := by
  let entered := (entriesOf text).map Entry.assigned
  have agrees : (∀ path value, lastValues text path = some value →
      getStringValue (openConfigFile (some text)).2 (dotted path) = value) ↔
        OneValueEach text := by
    rw [openConfigFile_of_noTrailingBlanks tight]
    refine Iff.trans ?_ (renamed_agrees_iff dotted entered)
    refine forall₂_congr fun path value => imp_congr_right fun stored => ?_
    rcases Option.ne_none_iff_exists'.mp (renamed_ne_none dotted entered stored) with
      ⟨found, held⟩
    rw [getStringValue, held]
    simp
  rw [LastValuesFound, accepted_iff, agrees]

/-- `openConfigFile` ignores the blanks of a text, and the last value of each section and key
is found under it, just when no entry is read under a named section and no dotted name has two
values; without blanks behind the names of sections, edits that put none there change nothing. -/
theorem blanks_ignored_and_last_values_found_iff (text : List Char) :
    (BlanksIgnored text ∧ LastValuesFound text ↔
      NoNamedSection text ∧ (.unclosed ∉ lineKinds text → OneValueEach text)) ∧
    (NoTrailingBlanks text →
      (LastValuesFound text ↔ (.unclosed ∉ lineKinds text → OneValueEach text)) ∧
      ∀ other, BlankEdit text other → NoTrailingBlanks other →
        openConfigFile (some other) = openConfigFile (some text)) := by
  constructor
  · rw [blanksIgnored_iff]
    exact and_congr_right fun unnamed => lastValuesFound_iff unnamed.noTrailingBlanks
  · intro tight
    exact ⟨lastValuesFound_iff tight, fun other edit tightOther =>
      openConfigFile_of_edit edit tight tightOther⟩

/-- One blank behind the name of a section, and its entry is not found any more. -/
theorem trailing_blank_hides_entry :
    BlankEdit "[a]\nk=1".toList "[a ]\nk=1".toList ∧
      (openConfigFile (some "[a ]\nk=1".toList)).1 = 0 ∧
      getStringValue (openConfigFile (some "[a]\nk=1".toList)).2 "a.k".toList = ['1'] ∧
      getStringValue (openConfigFile (some "[a ]\nk=1".toList)).2 "a.k".toList = [] ∧
      ¬ BlanksIgnored "[a ]\nk=1".toList ∧ ¬ LastValuesFound "[a ]\nk=1".toList := by
  have edit : BlankEdit "[a]\nk=1".toList "[a ]\nk=1".toList :=
    .cons (.header ['a'] [] ⟨[], by simp⟩ ⟨[], by simp⟩ ⟨[], by simp⟩ ⟨[' '], by simp [blank]⟩
      (by decide)) (.cons (.unchanged _) .nil)
  have hidden : getStringValue (openConfigFile (some "[a ]\nk=1".toList)).2 "a.k".toList = [] := by
    decide +kernel
  refine ⟨edit, by decide +kernel, by decide +kernel, hidden, ?_, ?_⟩
  · rw [blanksIgnored_iff]
    intro unnamed
    exact absurd (unnamed ⟨some ['a', ' '], ['k'], ['1']⟩ (by decide +kernel) ['a', ' '] rfl)
      (by decide)
  · intro found
    have value : ['1'] = [] := by
      rw [← hidden]
      exact (found (by decide +kernel) (some ['a'], ['k']) ['1'] (by decide +kernel)).symm
    exact absurd value (by decide)

end NearRtRic.E2T.ConfigFile
