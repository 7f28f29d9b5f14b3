import Mathlib.Data.List.Induction
import Mathlib.Data.Set.Function
import Mathlib.Tactic
import NearRtRic.Library.Dict

/-! Items grouped by key in a dictionary of lists, and the groups written under other names, a
later group over an earlier one of the same name. -/

namespace NearRtRic.Dict

section Assignment

variable {Key Value : Type} [DecidableEq Key] {key other : Key}

/-- The value of a key replaced at its place, or a new entry behind the others. -/
def assignEntries (key : Key) (value : Value) :
    List (Σ _ : Key, Value) → List (Σ _ : Key, Value)
  | [] => [⟨key, value⟩]
  | entry :: entries =>
      if entry.1 = key then ⟨key, value⟩ :: entries
      else entry :: assignEntries key value entries

theorem assignEntries_fresh (value : Value) {entries : List (Σ _ : Key, Value)}
    (fresh : key ∉ entries.keys) : assignEntries key value entries = entries ++ [⟨key, value⟩] := by
  induction entries with
  | nil => rfl
  | cons entry entries ih =>
      rw [List.keys_cons, List.mem_cons, not_or] at fresh
      rw [assignEntries, if_neg (Ne.symm fresh.1), ih fresh.2, List.cons_append]

theorem assignEntries_present (value : Value) {entries : List (Σ _ : Key, Value)}
    (present : key ∈ entries.keys) :
    ∃ before old after, entries = before ++ ⟨key, old⟩ :: after ∧
      assignEntries key value entries = before ++ ⟨key, value⟩ :: after := by
  induction entries with
  | nil => cases present
  | cons entry entries ih =>
      rcases entry with ⟨own, held⟩
      by_cases same : own = key
      · subst same
        exact ⟨[], held, entries, rfl, if_pos rfl⟩
      · have later : key ∈ entries.keys := by
          rw [List.keys_cons, List.mem_cons] at present
          exact present.resolve_left (Ne.symm same)
        rcases ih later with ⟨before, old, after, hentries, hassigned⟩
        refine ⟨⟨own, held⟩ :: before, old, after, by rw [hentries, List.cons_append], ?_⟩
        rw [assignEntries, if_neg same, hassigned, List.cons_append]

theorem keys_assignEntries (key : Key) (value : Value) (entries : List (Σ _ : Key, Value)) :
    (assignEntries key value entries).keys =
      if key ∈ entries.keys then entries.keys else entries.keys ++ [key] := by
  by_cases present : key ∈ entries.keys
  · rcases assignEntries_present value present with ⟨before, old, after, hentries, hassigned⟩
    rw [if_pos present, hassigned, hentries]
    simp [List.keys]
  · rw [if_neg present, assignEntries_fresh value present]
    simp [List.keys]

theorem nodupKeys_assignEntries (key : Key) (value : Value) {entries : List (Σ _ : Key, Value)}
    (nodup : entries.NodupKeys) : (assignEntries key value entries).NodupKeys := by
  rw [List.NodupKeys, keys_assignEntries]
  split
  · exact nodup
  · next fresh =>
      rw [← List.concat_eq_append]
      exact List.Nodup.concat fresh nodup

def assign (dict : Dict Key Value) (key : Key) (value : Value) : Dict Key Value where
  entries := assignEntries key value dict.entries
  nodupKeys := nodupKeys_assignEntries key value dict.nodupKeys

theorem entries_assign (dict : Dict Key Value) (key : Key) (value : Value) :
    (dict.assign key value).entries = assignEntries key value dict.entries := rfl

theorem mem_keys_assign (dict : Dict Key Value) (value : Value) :
    other ∈ (dict.assign key value).keys ↔ other ∈ dict.keys ∨ other = key := by
  change other ∈ (assignEntries key value dict.entries).keys ↔ other ∈ dict.entries.keys ∨ _
  rw [keys_assignEntries]
  split
  · next present => exact ⟨.inl, fun known => known.elim id fun same => same ▸ present⟩
  · rw [List.mem_append, List.mem_singleton]

theorem forall_assign (property : Value → Prop) {dict : Dict Key Value} {value : Value}
    (each : ∀ entry ∈ dict.entries, property entry.2) (new : property value) :
    ∀ entry ∈ (dict.assign key value).entries, property entry.2 := by
  by_cases present : key ∈ dict.keys
  · rcases assignEntries_present value present with ⟨before, old, after, hentries, hassigned⟩
    rw [hentries] at each
    rw [entries_assign, hassigned]
    simp only [List.forall_mem_append, List.forall_mem_cons] at each ⊢
    exact ⟨each.1, new, each.2.2⟩
  · rw [entries_assign, assignEntries_fresh value present, List.forall_mem_append]
    exact ⟨each, by simpa using new⟩

end Assignment

section Groups

variable {Key Item : Type} {groups : Dict Key (List Item)} {key : Key} {item : Item}

def contents (groups : Dict Key (List Item)) : List Item := groups.entries.flatMap Sigma.snd

def Filled (groups : Dict Key (List Item)) : Prop := ∀ group ∈ groups.entries, group.2 ≠ []

variable [DecidableEq Key]

theorem contents_assign_fresh (items : List Item) (fresh : key ∉ groups.keys) :
    (groups.assign key items).contents = groups.contents ++ items := by
  rw [contents, entries_assign, assignEntries_fresh items fresh]
  simp [contents]

theorem contents_assign_present (items : List Item) (present : key ∈ groups.keys) :
    ∃ before old after, groups.lookup key = some old ∧
      groups.contents = before ++ (old ++ after) ∧
      (groups.assign key items).contents = before ++ (items ++ after) := by
  rcases assignEntries_present items present with ⟨before, old, after, hentries, hassigned⟩
  have member : (⟨key, old⟩ : Σ _ : Key, List Item) ∈ groups.entries := by simp [hentries]
  refine ⟨before.flatMap Sigma.snd, old, after.flatMap Sigma.snd, lookup_of_mem member, ?_, ?_⟩
  · simp [contents, hentries]
  · simp [contents, entries_assign, hassigned]

/-- An item appended to the group of its key, which a `defaultdict` creates. -/
def append (groups : Dict Key (List Item)) (key : Key) (item : Item) : Dict Key (List Item) :=
  groups.assign key ((groups.lookup key).getD [] ++ [item])

theorem contents_append (groups : Dict Key (List Item)) (key : Key) (item : Item) :
    (groups.append key item).contents.Perm (groups.contents ++ [item]) := by
  by_cases present : key ∈ groups.keys
  · rcases contents_assign_present ((groups.lookup key).getD [] ++ [item]) present with
      ⟨before, old, after, held, hbefore, hafter⟩
    rw [append, hafter, hbefore, held, Option.getD_some]
    calc before ++ (old ++ [item] ++ after)
        = before ++ old ++ ([item] ++ after) := by simp
      _ |>.Perm (before ++ old ++ (after ++ [item])) := List.perm_append_comm.append_left _
      _ = before ++ (old ++ after) ++ [item] := by simp
  · have absent : groups.lookup key = none := AList.lookup_eq_none.mpr present
    rw [append, absent, contents_assign_fresh _ present, Option.getD_none, List.nil_append]

theorem filled_append (filled : groups.Filled) : (groups.append key item).Filled :=
  forall_assign (· ≠ []) filled (by simp)

def group (items : List (Key × Item)) : Dict Key (List Item) :=
  items.foldl (fun groups pair => groups.append pair.1 pair.2) ∅

/-- What the groups of a list of pairs are: no group is empty, the keys are those of the pairs,
and each item is in one group, once. -/
structure Groups (items : List (Key × Item)) (groups : Dict Key (List Item)) : Prop where
  filled : groups.Filled
  mem_keys_iff : ∀ key, key ∈ groups.keys ↔ key ∈ items.map Prod.fst
  contents_perm : groups.contents.Perm (items.map Prod.snd)

theorem group_groups (items : List (Key × Item)) : Groups items (group items) := by
  induction items using List.reverseRecOn with
  | nil =>
      refine ⟨?_, ?_, ?_⟩
      · simp [group, Filled]
      · simp [group]
      · simp [group, contents]
  | append_singleton items pair ih =>
      rw [group, List.foldl_append, List.foldl_cons, List.foldl_nil]
      refine ⟨filled_append ih.filled, fun key => ?_, ?_⟩
      · rw [append, mem_keys_assign, List.map_append, List.mem_append]
        exact or_congr (ih.mem_keys_iff key) (by simp)
      · rw [List.map_append]
        exact (contents_append _ _ _).trans (ih.contents_perm.append_right _)

end Groups

theorem nodup_concat_iff {Name : Type} {names : List Name} {last : Name} :
    (names ++ [last]).Nodup ↔ names.Nodup ∧ last ∉ names := by
  rw [List.nodup_append_comm, List.singleton_append, List.nodup_cons, and_comm]

section Written

variable {Key Name Item : Type} [DecidableEq Name] {name : Key → Name}

/-- A file opened for writing: what it held is gone. -/
def write (name : Key → Name) (files : Dict Name (List Item)) (group : Σ _ : Key, List Item) :
    Dict Name (List Item) :=
  files.assign (name group.1) group.2

def writeAll (name : Key → Name) (groups : Dict Key (List Item)) : Dict Name (List Item) :=
  groups.entries.foldl (write name) ∅

/-- What is in the files after some groups: all of their items if their names differ, and fewer
otherwise. -/
structure Written (name : Key → Name) (groups : List (Σ _ : Key, List Item))
    (files : Dict Name (List Item)) : Prop where
  filled : files.Filled
  mem_keys_iff : ∀ file, file ∈ files.keys ↔ file ∈ groups.map fun group => name group.1
  whole : (groups.map fun group => name group.1).Nodup →
    files.contents = groups.flatMap Sigma.snd
  fewer : ¬ (groups.map fun group => name group.1).Nodup →
    files.contents.length < (groups.flatMap Sigma.snd).length

theorem Written.length_le {groups : List (Σ _ : Key, List Item)} {files : Dict Name (List Item)}
    (written : Written name groups files) :
    files.contents.length ≤ (groups.flatMap Sigma.snd).length := by
  by_cases nodup : (groups.map fun group => name group.1).Nodup
  · exact (congrArg List.length (written.whole nodup)).le
  · exact (written.fewer nodup).le

theorem Written.step {groups : List (Σ _ : Key, List Item)} {files : Dict Name (List Item)}
    (written : Written name groups files) (group : Σ _ : Key, List Item) (filled : group.2 ≠ []) :
    Written name (groups ++ [group]) (write name files group) := by
  have names : (groups ++ [group]).map (fun group => name group.1) =
      (groups.map fun group => name group.1) ++ [name group.1] := by simp
  have items : (groups ++ [group]).flatMap Sigma.snd = groups.flatMap Sigma.snd ++ group.2 := by
    simp
  by_cases present : name group.1 ∈ files.keys
  · have repeated : ¬ ((groups ++ [group]).map fun group => name group.1).Nodup := by
      rw [names, nodup_concat_iff]
      exact fun both => both.2 ((written.mem_keys_iff _).mp present)
    refine ⟨forall_assign (· ≠ []) written.filled filled, fun file => ?_,
      fun nodup => absurd nodup repeated, fun _ => ?_⟩
    · rw [write, mem_keys_assign, names, List.mem_append, List.mem_singleton]
      exact or_congr_left (written.mem_keys_iff file)
    · -- the items that the file held before are what is missing
      rcases contents_assign_present group.2 present with ⟨before, old, after, held, hold, hnew⟩
      have member := AList.mem_lookup_iff.mp (Option.mem_def.mpr held)
      have lost : 0 < old.length := List.length_pos_iff.mpr (written.filled _ member)
      have bounded := written.length_le
      rw [hold] at bounded
      rw [write, hnew, items]
      simp only [List.length_append] at bounded ⊢
      omega
  · have contents : (write name files group).contents = files.contents ++ group.2 :=
      contents_assign_fresh group.2 present
    have fresh : name group.1 ∉ groups.map fun group => name group.1 :=
      mt (written.mem_keys_iff _).mpr present
    refine ⟨forall_assign (· ≠ []) written.filled filled, fun file => ?_, fun nodup => ?_,
      fun repeated => ?_⟩
    · rw [write, mem_keys_assign, names, List.mem_append, List.mem_singleton]
      exact or_congr_left (written.mem_keys_iff file)
    · rw [names, nodup_concat_iff] at nodup
      rw [contents, items, written.whole nodup.1]
    · have earlier : ¬ (groups.map fun group => name group.1).Nodup := by
        intro nodup
        rw [names, nodup_concat_iff] at repeated
        exact repeated ⟨nodup, fresh⟩
      have fewer := written.fewer earlier
      rw [contents, items, List.length_append, List.length_append]
      omega

theorem written_foldl (name : Key → Name) (groups : List (Σ _ : Key, List Item))
    (filled : ∀ group ∈ groups, group.2 ≠ []) :
    Written name groups (groups.foldl (write name) ∅) := by
  induction groups using List.reverseRecOn with
  | nil =>
      refine ⟨?_, ?_, fun _ => rfl, fun repeated => absurd List.nodup_nil repeated⟩
      · simp [Filled]
      · simp
  | append_singleton groups group ih =>
      rw [List.forall_mem_append, List.forall_mem_singleton] at filled
      rw [List.foldl_append, List.foldl_cons, List.foldl_nil]
      exact (ih filled.1).step group filled.2

/-- Nothing is lost exactly when no two keys have the same name. -/
theorem writeAll_perm_iff (name : Key → Name) {groups : Dict Key (List Item)}
    (filled : groups.Filled) :
    (writeAll name groups).contents.Perm groups.contents ↔
      ∀ first ∈ groups.keys, ∀ second ∈ groups.keys, name first = name second → first = second := by
  have written := written_foldl name groups.entries filled
  have names : groups.entries.map (fun group => name group.1) = groups.keys.map name := by
    simp [AList.keys, List.keys]
  have nodup_iff : (groups.entries.map fun group => name group.1).Nodup ↔
      ∀ first ∈ groups.keys, ∀ second ∈ groups.keys, name first = name second → first = second := by
    rw [names, List.nodup_map_iff_inj_on groups.keys_nodup]
  rw [← nodup_iff]
  constructor
  · intro perm
    by_contra repeated
    exact absurd perm.length_eq (written.fewer repeated).ne
  · intro nodup
    exact List.Perm.of_eq (written.whole nodup)

end Written

end NearRtRic.Dict
