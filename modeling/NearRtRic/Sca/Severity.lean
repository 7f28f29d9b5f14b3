import Mathlib.Tactic
import NearRtRic.Library.Dict
import NearRtRic.Sca.Dependencies

/-! The severity classes of the CVEs of a repository: what the loops over the tools and their
scores leave in the lists. -/

namespace NearRtRic.Sca

open FirstListed

/-- The entries by tool, `none` where a tool has no report. -/
abbrev Tools := Dict String (Option CvesCvssDependencies)

/-- The tools by RIC and repository. -/
abbrev ResultData := Dict String (Dict String Tools)

inductive Band where
  | low
  | medium
  | high
  | critical
  deriving DecidableEq

/-- The branches in their order. A score between two bands has none. -/
def bandOf (cvss : ℚ) : Option Band :=
  if 0.1 ≤ cvss ∧ cvss ≤ 3.9 then some .low
  else if 4.0 ≤ cvss ∧ cvss ≤ 6.9 then some .medium
  else if 7.0 ≤ cvss ∧ cvss ≤ 8.9 then some .high
  else if 9.0 ≤ cvss ∧ cvss ≤ 10.0 then some .critical
  else none

structure Severities where
  low : List Cve := []
  medium : List Cve := []
  high : List Cve := []
  critical : List Cve := []
  cves : List Cve := []

namespace Severities

def append (found : Severities) (cve : Cve) : Band → Severities
  | .low => { found with low := found.low ++ [cve] }
  | .medium => { found with medium := found.medium ++ [cve] }
  | .high => { found with high := found.high ++ [cve] }
  | .critical => { found with critical := found.critical ++ [cve] }

/-- The body of the four branches, with the band for their own list. -/
def classify (found : Severities) (pair : Cve × Band) : Severities :=
  let found :=
    if pair.1 ∉ found.low ∧ pair.1 ∉ found.medium ∧ pair.1 ∉ found.high ∧
        pair.1 ∉ found.critical then
      found.append pair.1 pair.2
    else found
  if pair.1 ∉ found.cves then { found with cves := found.cves ++ [pair.1] } else found

end Severities

/-- A score with its index. The CVE at the index is read first: `none` for `IndexError`. -/
def scoreStep (cves : List Cve) (found : Severities) (enumerated : Score × ℕ) :
    Option Severities := do
  let cve ← cves[enumerated.2]?
  match enumerated.1.bind bandOf with
  | none => some found
  | some band => some (found.classify (cve, band))

def toolStep (found : Severities) (tool : Σ _ : String, Option CvesCvssDependencies) :
    Option Severities :=
  match tool.2 with
  | none => some found
  | some entry =>
    if tool.1 = "Scantist.json" then some found
    else entry.cvss.zipIdx.foldlM (scoreStep entry.cves) found

def severities (tools : Tools) : Option Severities :=
  tools.entries.foldlM toolStep {}

/-- Keyed by CVE: only the first classified pair of a CVE counts. -/
def pairKey (pair : Cve × Band) : Option Cve := some pair.1

abbrev Kept := List (Cve × Cve × Band)

def inBand (band : Band) (kept : Kept) : List Cve :=
  (kept.filter fun entry => entry.2.2 = band).map Prod.fst

def Severities.of (kept : Kept) : Severities where
  low := inBand .low kept
  medium := inBand .medium kept
  high := inBand .high kept
  critical := inBand .critical kept
  cves := kept.map Prod.fst

section Classes

variable {kept : Kept} {items : List (Cve × Band)} {band : Band} {cve : Cve}

theorem mem_inBand_iff : cve ∈ inBand band kept ↔ ∃ item, (cve, item) ∈ kept ∧ item.2 = band := by
  simp [inBand]

theorem exists_inBand_iff : (∃ band, cve ∈ inBand band kept) ↔ cve ∈ kept.map Prod.fst := by
  constructor
  · intro listed
    rcases listed with ⟨band, member⟩
    rcases mem_inBand_iff.mp member with ⟨item, member, -⟩
    exact List.mem_map.mpr ⟨(cve, item), member, rfl⟩
  · intro member
    rcases List.mem_map.mp member with ⟨⟨_, item⟩, entry, rfl⟩
    exact ⟨item.2, mem_inBand_iff.mpr ⟨item, entry, rfl⟩⟩

theorem exists_band_iff {property : Band → Prop} : (∃ band, property band) ↔
    property .low ∨ property .medium ∨ property .high ∨ property .critical := by
  constructor
  · intro classified
    rcases classified with ⟨band, holds⟩
    cases band <;> simp [holds]
  · intro one
    rcases one with holds | holds | holds | holds
    · exact ⟨.low, holds⟩
    · exact ⟨.medium, holds⟩
    · exact ⟨.high, holds⟩
    · exact ⟨.critical, holds⟩

theorem mem_kept_iff : cve ∈ kept.map Prod.fst ↔
    cve ∈ inBand .low kept ∨ cve ∈ inBand .medium kept ∨ cve ∈ inBand .high kept ∨
      cve ∈ inBand .critical kept := by
  rw [← exists_inBand_iff, exists_band_iff]

theorem inBand_concat (own : Band) (item : Cve × Band) :
    inBand own (kept ++ [(cve, item)]) =
      if item.2 = own then inBand own kept ++ [cve] else inBand own kept := by
  by_cases same : item.2 = own <;> simp [inBand, same]

theorem of_concat (cve : Cve) (band : Band) :
    Severities.of (kept ++ [(cve, cve, band)]) =
      { (Severities.of kept).append cve band with
        cves := (Severities.of kept).cves ++ [cve] } := by
  cases band <;> simp [Severities.of, Severities.append, inBand_concat]

theorem classify_of (kept : Kept) (pair : Cve × Band) :
    (Severities.of kept).classify pair = Severities.of (keepFirst pairKey kept pair) := by
  rcases pair with ⟨cve, band⟩
  have hkey : pairKey (cve, band) = some cve := rfl
  have tested : (cve ∉ (Severities.of kept).low ∧ cve ∉ (Severities.of kept).medium ∧
      cve ∉ (Severities.of kept).high ∧ cve ∉ (Severities.of kept).critical) ↔
      cve ∉ kept.map Prod.fst := by
    rw [mem_kept_iff, not_or, not_or, not_or]
    rfl
  by_cases present : cve ∈ kept.map Prod.fst
  · rw [keepFirst_listed hkey present]
    simp only [Severities.classify, if_neg (mt tested.mp (not_not_intro present))]
    exact if_neg (not_not_intro present)
  · rw [keepFirst_fresh hkey present, of_concat]
    simp only [Severities.classify, if_pos (tested.mpr present)]
    cases band <;> exact if_pos present

/-- The lists share no CVE: the one pair that is kept of it has one band. -/
theorem inBand_disjoint (keeps : KeepsFirsts pairKey items kept) {other : Band}
    (different : band ≠ other) : (inBand band kept).Disjoint (inBand other kept) := by
  intro cve here there
  rcases mem_inBand_iff.mp here with ⟨item, hitem, rfl⟩
  rcases mem_inBand_iff.mp there with ⟨same, hsame, rfl⟩
  rw [keeps.same_item hitem hsame] at different
  exact different rfl

theorem inBand_nodup (keeps : KeepsFirsts pairKey items kept) : (inBand band kept).Nodup :=
  keeps.nodup.sublist (List.filter_sublist.map Prod.fst)

theorem inBand_lengths (kept : Kept) :
    (inBand .low kept).length + (inBand .medium kept).length + (inBand .high kept).length +
      (inBand .critical kept).length = kept.length := by
  induction kept with
  | nil => rfl
  | cons entry kept ih =>
      rcases entry with ⟨cve, item, band⟩
      rw [List.length_cons, ← ih]
      cases band <;> simp [inBand] <;> omega

end Classes

section Loops

def classifiedPair (pair : Cve × Score) : Option (Cve × Band) :=
  (pair.2.bind bandOf).map fun band => (pair.1, band)

/-- The classified pairs of an entry: the CVE at the index of each score in a band. -/
def classifiedPairs (entry : CvesCvssDependencies) : List (Cve × Band) :=
  (entry.cves.zip entry.cvss).filterMap classifiedPair

def toolPairs (tool : Σ _ : String, Option CvesCvssDependencies) : List (Cve × Band) :=
  match tool.2 with
  | none => []
  | some entry => if tool.1 = "Scantist.json" then [] else classifiedPairs entry

def pairsOf (tools : Tools) : List (Cve × Band) := tools.entries.flatMap toolPairs

/-- The score list of each tool is no longer than its CVE list. -/
def ToolsPaired (tools : Tools) : Prop :=
  ∀ tool ∈ tools.entries, ∀ entry, tool.2 = some entry → entry.cvss.length ≤ entry.cves.length

variable {cves : List Cve}

theorem scoreStep_eq {cve : Cve} {index : ℕ} (present : cves[index]? = some cve) (score : Score)
    (found : Severities) :
    scoreStep cves found (score, index) =
      some ((classifiedPair (cve, score)).toList.foldl Severities.classify found) := by
  rw [scoreStep, present, classifiedPair]
  cases score.bind bandOf <;> rfl

theorem classifiedPairs_cons (cve : Cve) (cves : List Cve) (score : Score) (scores : List Score) :
    classifiedPairs { cves := cve :: cves, cvss := score :: scores } =
      (classifiedPair (cve, score)).toList ++ classifiedPairs { cves := cves, cvss := scores } := by
  cases hpair : classifiedPair (cve, score) <;> simp [classifiedPairs, hpair]

theorem score_loop (scores : List Score) (index : ℕ) (found : Severities)
    (bounded : index + scores.length ≤ cves.length) :
    (scores.zipIdx index).foldlM (scoreStep cves) found =
      some ((classifiedPairs { cves := cves.drop index, cvss := scores }).foldl
        Severities.classify found) := by
  induction scores generalizing index found with
  | nil => simp [classifiedPairs]
  | cons score scores ih =>
      rw [List.length_cons] at bounded
      have here : index < cves.length := by omega
      have split : cves.drop index = cves[index] :: cves.drop (index + 1) :=
        List.drop_eq_getElem_cons here
      have step := scoreStep_eq (List.getElem?_eq_getElem here) score found
      calc ((score :: scores).zipIdx index).foldlM (scoreStep cves) found
          = (scores.zipIdx (index + 1)).foldlM (scoreStep cves)
              ((classifiedPair (cves[index], score)).toList.foldl Severities.classify found) := by
            rw [List.zipIdx_cons, List.foldlM_cons, step]
            rfl
        _ = some ((classifiedPairs { cves := cves.drop (index + 1), cvss := scores }).foldl
              Severities.classify
                ((classifiedPair (cves[index], score)).toList.foldl Severities.classify found)) :=
            ih (index + 1) _ (by omega)
        _ = some ((classifiedPairs { cves := cves.drop index, cvss := score :: scores }).foldl
              Severities.classify found) := by
            rw [split, classifiedPairs_cons, List.foldl_append]

theorem toolStep_eq {tool : Σ _ : String, Option CvesCvssDependencies}
    (paired : ∀ entry, tool.2 = some entry → entry.cvss.length ≤ entry.cves.length)
    (found : Severities) :
    toolStep found tool = some ((toolPairs tool).foldl Severities.classify found) := by
  rw [toolStep, toolPairs]
  cases hentry : tool.2 with
  | none => rfl
  | some entry =>
      by_cases scantist : tool.1 = "Scantist.json"
      · simp only [if_pos scantist, List.foldl_nil]
      · have bounded : 0 + entry.cvss.length ≤ entry.cves.length := by
          rw [Nat.zero_add]
          exact paired entry hentry
        simp only [if_neg scantist]
        exact score_loop entry.cvss 0 found bounded

theorem tool_loop {tools : List (Σ _ : String, Option CvesCvssDependencies)}
    (paired : ∀ tool ∈ tools, ∀ entry, tool.2 = some entry →
      entry.cvss.length ≤ entry.cves.length) (found : Severities) :
    tools.foldlM toolStep found =
      some ((tools.flatMap toolPairs).foldl Severities.classify found) := by
  induction tools generalizing found with
  | nil => rfl
  | cons tool tools ih =>
      have later := ih fun other member => paired other (List.mem_cons_of_mem tool member)
      rw [List.foldlM_cons, toolStep_eq (paired tool List.mem_cons_self)]
      rw [List.flatMap_cons, List.foldl_append, ← later]
      rfl

/-- The lists of a repository are the view of the first classified pair of each CVE. -/
theorem severities_eq {tools : Tools} (paired : ToolsPaired tools) :
    severities tools = some (Severities.of (firsts pairKey (pairsOf tools))) := by
  calc severities tools = some ((pairsOf tools).foldl Severities.classify (Severities.of [])) :=
        tool_loop paired {}
    _ = some (Severities.of (firsts pairKey (pairsOf tools))) := by
        rw [foldl_view Severities.of classify_of]

end Loops

end NearRtRic.Sca
