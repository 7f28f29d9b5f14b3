import Mathlib.Data.Rat.Defs
import Mathlib.Tactic
import NearRtRic.Library.FirstListed

/-! The CVEs, scores and packages of a scan report, and when score `i` is the one of CVE `i`. -/

namespace NearRtRic.Sca

open FirstListed

/-- The value of `get`: `none` where the report has no id. -/
abbrev Cve := Option String

instance : LawfulBEq Cve := inferInstanceAs (LawfulBEq (Option String))

/-- A score as an exact decimal, `none` for `None`. -/
abbrev Score := Option ℚ

abbrev PackageName := Option String

namespace Grype

structure Metrics where
  baseScore : Score

structure Cvss where
  metrics : Metrics

structure Vulnerability where
  id : Cve
  cvss : Option (List Cvss)

structure Package where
  name : PackageName

structure SearchedBy where
  lowerPackage : Option Package
  upperPackage : Option Package

structure MatchDetail where
  searchedBy : SearchedBy

structure Match where
  vulnerability : Vulnerability
  matchDetails : List MatchDetail

end Grype

namespace Snyk

structure Identifiers where
  cve : List Cve

structure Vulnerability where
  identifiers : Identifiers
  cvssScore : Score
  moduleName : PackageName

end Snyk

namespace Trivy

structure Source where
  v3Score : Score

/-- The two sources that the code reads; a report may have others. -/
structure Cvss where
  nvd : Option Source
  ghsa : Option Source

structure Vulnerability where
  vulnerabilityID : Cve
  pkgName : PackageName
  cvss : Option Cvss

end Trivy

/-- The vulnerabilities of the tools that have a branch. -/
inductive Report where
  | grype (vulnerabilities : List Grype.Match)
  | snyk (vulnerabilities : List Snyk.Vulnerability)
  | trivy (vulnerabilities : List Trivy.Vulnerability)

/-- The three lists that are returned in one list. -/
structure CvesCvssDependencies where
  cves : List Cve := []
  cvss : List Score := []
  packages : List PackageName := []

def grypeScore (vulnerability : Grype.Match) : Score :=
  match vulnerability.vulnerability.cvss with
  | some (cvssInfo :: _) => cvssInfo.metrics.baseScore
  | _ => none

def grypePackage (matchDetail : Grype.MatchDetail) : Option PackageName :=
  match matchDetail.searchedBy.lowerPackage with
  | some package => some package.name
  | none => matchDetail.searchedBy.upperPackage.map Grype.Package.name

def grypeStep (found : CvesCvssDependencies) (vulnerability : Grype.Match) :
    CvesCvssDependencies :=
  if vulnerability.vulnerability.id ∈ found.cves then found
  else
    { cves := found.cves ++ [vulnerability.vulnerability.id]
      cvss := found.cvss ++ [grypeScore vulnerability]
      packages := found.packages ++ vulnerability.matchDetails.filterMap grypePackage }

def snykStep (found : CvesCvssDependencies) (vulnerability : Snyk.Vulnerability) :
    CvesCvssDependencies :=
  match vulnerability.identifiers.cve with
  | [] => found
  | cve :: _ =>
    if cve ∈ found.cves then found
    else
      { cves := found.cves ++ [cve]
        cvss := found.cvss ++ [vulnerability.cvssScore]
        packages := found.packages ++ [vulnerability.moduleName] }

def trivyStep (found : CvesCvssDependencies) (vulnerability : Trivy.Vulnerability) :
    CvesCvssDependencies :=
  if vulnerability.vulnerabilityID ∈ found.cves then found
  else
    match vulnerability.cvss with
    | none => found
    | some cvss =>
      let found :=
        { found with
          cves := found.cves ++ [vulnerability.vulnerabilityID]
          packages := found.packages ++ [vulnerability.pkgName] }
      match cvss.nvd, cvss.ghsa with
      | some nvd, _ => { found with cvss := found.cvss ++ [nvd.v3Score] }
      | none, some ghsa => { found with cvss := found.cvss ++ [ghsa.v3Score] }
      -- the CVE is listed already, and nothing is appended to the scores
      | none, none => found

/-- For a file of another name the list that is returned is empty: `none`. -/
def getCvesCvssDependencies : Option Report → Option CvesCvssDependencies
  | some (.grype vulnerabilities) => some (vulnerabilities.foldl grypeStep {})
  | some (.snyk vulnerabilities) => some (vulnerabilities.foldl snykStep {})
  | some (.trivy vulnerabilities) => some (vulnerabilities.foldl trivyStep {})
  | none => none

/-- What the branch of a tool takes from a vulnerability. -/
structure Branch (Vulnerability : Type) where
  /-- `none` for a vulnerability that the branch skips. -/
  cve : Vulnerability → Option Cve
  score : Vulnerability → Score
  /-- Whether a score, or `None`, is appended. -/
  scored : Vulnerability → Bool
  packages : Vulnerability → List PackageName

def grypeBranch : Branch Grype.Match where
  cve vulnerability := some vulnerability.vulnerability.id
  score := grypeScore
  scored _ := true
  packages vulnerability := vulnerability.matchDetails.filterMap grypePackage

def snykBranch : Branch Snyk.Vulnerability where
  cve vulnerability := vulnerability.identifiers.cve.head?
  score := Snyk.Vulnerability.cvssScore
  scored _ := true
  packages vulnerability := [vulnerability.moduleName]

def trivySource (vulnerability : Trivy.Vulnerability) : Option Trivy.Source :=
  vulnerability.cvss.bind fun cvss => cvss.nvd.or cvss.ghsa

def trivyBranch : Branch Trivy.Vulnerability where
  cve vulnerability := vulnerability.cvss.map fun _ => vulnerability.vulnerabilityID
  score vulnerability := (trivySource vulnerability).bind Trivy.Source.v3Score
  scored vulnerability := (trivySource vulnerability).isSome
  packages vulnerability := [vulnerability.pkgName]

namespace Branch

variable {Vulnerability : Type} (branch : Branch Vulnerability)
variable (vulnerabilities : List Vulnerability)

/-- Score `i` is the one that the rule assigns to the first vulnerability listed with CVE `i`. -/
structure Aligned (found : CvesCvssDependencies) : Prop where
  nodup : found.cves.Nodup
  length_eq : found.cvss.length = found.cves.length
  score_eq : ∀ (index : ℕ) (cve : Cve), found.cves[index]? = some cve →
    ∃ vulnerability, first branch.cve cve vulnerabilities = some vulnerability ∧
      found.cvss[index]? = some (branch.score vulnerability)

def listed (kept : List (Cve × Vulnerability)) : CvesCvssDependencies where
  cves := kept.map Prod.fst
  cvss := (kept.filter fun entry => branch.scored entry.2).map fun entry => branch.score entry.2
  packages := kept.flatMap fun entry => branch.packages entry.2

theorem listed_concat (kept : List (Cve × Vulnerability)) (cve : Cve)
    (vulnerability : Vulnerability) :
    branch.listed (kept ++ [(cve, vulnerability)]) =
      { cves := (branch.listed kept).cves ++ [cve]
        cvss := (branch.listed kept).cvss ++
          if branch.scored vulnerability then [branch.score vulnerability] else []
        packages := (branch.listed kept).packages ++ branch.packages vulnerability } := by
  by_cases scored : branch.scored vulnerability <;> simp [listed, scored]

def Scored : Prop :=
  ∀ cve vulnerability, first branch.cve cve vulnerabilities = some vulnerability →
    branch.scored vulnerability

theorem scored_iff : branch.Scored vulnerabilities ↔
    ∀ entry ∈ firsts branch.cve vulnerabilities, branch.scored entry.2 := by
  have keeps := firsts_keep branch.cve vulnerabilities
  constructor
  · rintro scored ⟨cve, vulnerability⟩ member
    exact scored cve vulnerability ((keeps.mem_iff cve vulnerability).mp member)
  · intro scored cve vulnerability found
    exact scored (cve, vulnerability) ((keeps.mem_iff cve vulnerability).mpr found)

theorem listed_length_eq_iff (kept : List (Cve × Vulnerability)) :
    (branch.listed kept).cvss.length = (branch.listed kept).cves.length ↔
      ∀ entry ∈ kept, branch.scored entry.2 := by
  rw [listed, List.length_map, List.length_map]
  exact List.length_filter_eq_length_iff

theorem listed_score_eq {kept : List (Cve × Vulnerability)}
    (scored : ∀ entry ∈ kept, branch.scored entry.2) {index : ℕ} {cve : Cve}
    (hcve : (branch.listed kept).cves[index]? = some cve) :
    ∃ vulnerability, (cve, vulnerability) ∈ kept ∧
      (branch.listed kept).cvss[index]? = some (branch.score vulnerability) := by
  have hentry : ∃ entry, kept[index]? = some entry ∧ entry.1 = cve := by
    simpa only [listed, List.getElem?_map, Option.map_eq_some_iff] using hcve
  rcases hentry with ⟨⟨_, vulnerability⟩, hentry, rfl⟩
  refine ⟨vulnerability, List.mem_of_getElem? hentry, ?_⟩
  calc (branch.listed kept).cvss[index]?
      = (kept.map fun entry => branch.score entry.2)[index]? := by
        rw [listed, List.filter_eq_self.mpr scored]
    _ = some (branch.score vulnerability) := by rw [List.getElem?_map, hentry, Option.map_some]

/-- The lists are aligned exactly when the filter drops nothing. -/
theorem listed_aligned_iff :
    branch.Aligned vulnerabilities (branch.listed (firsts branch.cve vulnerabilities)) ↔
      branch.Scored vulnerabilities := by
  have keeps := firsts_keep branch.cve vulnerabilities
  rw [scored_iff]
  constructor
  · intro aligned
    exact (branch.listed_length_eq_iff _).mp aligned.length_eq
  · intro scored
    refine ⟨keeps.nodup, (branch.listed_length_eq_iff _).mpr scored, fun index cve hcve => ?_⟩
    rcases branch.listed_score_eq scored hcve with ⟨vulnerability, member, hscore⟩
    exact ⟨vulnerability, (keeps.mem_iff cve vulnerability).mp member, hscore⟩

end Branch

theorem grypeStep_listed (kept : List (Cve × Grype.Match)) (vulnerability : Grype.Match) :
    grypeStep (grypeBranch.listed kept) vulnerability =
      grypeBranch.listed (keepFirst grypeBranch.cve kept vulnerability) := by
  have hcve : grypeBranch.cve vulnerability = some vulnerability.vulnerability.id := rfl
  by_cases present : vulnerability.vulnerability.id ∈ kept.map Prod.fst
  · rw [keepFirst_listed hcve present]
    exact if_pos present
  · rw [keepFirst_fresh hcve present, Branch.listed_concat]
    exact if_neg present

theorem snykStep_listed (kept : List (Cve × Snyk.Vulnerability))
    (vulnerability : Snyk.Vulnerability) :
    snykStep (snykBranch.listed kept) vulnerability =
      snykBranch.listed (keepFirst snykBranch.cve kept vulnerability) := by
  rw [snykStep]
  cases cves : vulnerability.identifiers.cve with
  | nil =>
      have hcve : snykBranch.cve vulnerability = none := by simp [snykBranch, cves]
      rw [keepFirst_keyless hcve]
  | cons cve rest =>
      have hcve : snykBranch.cve vulnerability = some cve := by simp [snykBranch, cves]
      by_cases present : cve ∈ kept.map Prod.fst
      · rw [keepFirst_listed hcve present]
        exact if_pos present
      · rw [keepFirst_fresh hcve present, Branch.listed_concat]
        exact if_neg present

theorem trivyStep_listed (kept : List (Cve × Trivy.Vulnerability))
    (vulnerability : Trivy.Vulnerability) :
    trivyStep (trivyBranch.listed kept) vulnerability =
      trivyBranch.listed (keepFirst trivyBranch.cve kept vulnerability) := by
  rw [trivyStep]
  cases hcvss : vulnerability.cvss with
  | none =>
      have hcve : trivyBranch.cve vulnerability = none := by simp [trivyBranch, hcvss]
      rw [keepFirst_keyless hcve]
      exact ite_self _
  | some cvss =>
      have hcve : trivyBranch.cve vulnerability = some vulnerability.vulnerabilityID := by
        simp [trivyBranch, hcvss]
      by_cases present : vulnerability.vulnerabilityID ∈ kept.map Prod.fst
      · rw [keepFirst_listed hcve present]
        exact if_pos present
      · rw [keepFirst_fresh hcve present, Branch.listed_concat]
        refine (if_neg present).trans ?_
        cases hnvd : cvss.nvd <;> cases hghsa : cvss.ghsa <;>
          simp [trivyBranch, trivySource, hcvss, hnvd, hghsa]

theorem grype_loop (vulnerabilities : List Grype.Match) :
    vulnerabilities.foldl grypeStep {} =
      grypeBranch.listed (firsts grypeBranch.cve vulnerabilities) :=
  foldl_view grypeBranch.listed grypeStep_listed vulnerabilities

theorem snyk_loop (vulnerabilities : List Snyk.Vulnerability) :
    vulnerabilities.foldl snykStep {} =
      snykBranch.listed (firsts snykBranch.cve vulnerabilities) :=
  foldl_view snykBranch.listed snykStep_listed vulnerabilities

theorem trivy_loop (vulnerabilities : List Trivy.Vulnerability) :
    vulnerabilities.foldl trivyStep {} =
      trivyBranch.listed (firsts trivyBranch.cve vulnerabilities) :=
  foldl_view trivyBranch.listed trivyStep_listed vulnerabilities

namespace Report

def AlignedWith (found : CvesCvssDependencies) : Report → Prop
  | .grype vulnerabilities => grypeBranch.Aligned vulnerabilities found
  | .snyk vulnerabilities => snykBranch.Aligned vulnerabilities found
  | .trivy vulnerabilities => trivyBranch.Aligned vulnerabilities found

def Aligned (report : Report) : Prop :=
  ∃ found, getCvesCvssDependencies (some report) = some found ∧ report.AlignedWith found

/-- A Trivy report has an `nvd` or a `ghsa` entry in every vulnerability that is the first of its
id among those with a `CVSS` entry. -/
def HasScores : Report → Prop
  | .trivy vulnerabilities => ∀ cve vulnerability,
      first trivyBranch.cve cve vulnerabilities = some vulnerability →
        (trivySource vulnerability).isSome
  | _ => True

end Report

/-- The scores of a report are aligned with its CVEs exactly when a Trivy report has the sources
that its branch reads. -/
theorem scores_aligned_iff (report : Report) : report.Aligned ↔ report.HasScores := by
  cases report with
  | grype vulnerabilities =>
      refine iff_of_true ⟨_, rfl, ?_⟩ trivial
      rw [grype_loop]
      exact (grypeBranch.listed_aligned_iff vulnerabilities).mpr fun _ _ _ => rfl
  | snyk vulnerabilities =>
      refine iff_of_true ⟨_, rfl, ?_⟩ trivial
      rw [snyk_loop]
      exact (snykBranch.listed_aligned_iff vulnerabilities).mpr fun _ _ _ => rfl
  | trivy vulnerabilities =>
      calc Report.Aligned (.trivy vulnerabilities)
          ↔ trivyBranch.Aligned vulnerabilities (vulnerabilities.foldl trivyStep {}) := by
            simp [Report.Aligned, Report.AlignedWith, getCvesCvssDependencies]
        _ ↔ trivyBranch.Scored vulnerabilities := by
            rw [trivy_loop, trivyBranch.listed_aligned_iff]
        _ ↔ Report.HasScores (.trivy vulnerabilities) := Iff.rfl

def otherSourceFirst : List Trivy.Vulnerability :=
  [{ vulnerabilityID := some "CVE-2022-1", pkgName := some "openssl"
     cvss := some ⟨none, none⟩ },
   { vulnerabilityID := some "CVE-2022-2", pkgName := some "zlib"
     cvss := some ⟨some ⟨some 9.8⟩, none⟩ }]

/-- The score of the second CVE is the only one, at the index of the first. -/
theorem otherSourceFirst_shifts :
    getCvesCvssDependencies (some (.trivy otherSourceFirst)) =
      some { cves := [some "CVE-2022-1", some "CVE-2022-2"], cvss := [some 9.8]
             packages := [some "openssl", some "zlib"] } ∧
    ¬ Report.Aligned (.trivy otherSourceFirst) := by
  have run : getCvesCvssDependencies (some (.trivy otherSourceFirst)) =
      some { cves := [some "CVE-2022-1", some "CVE-2022-2"], cvss := [some 9.8]
             packages := [some "openssl", some "zlib"] } := rfl
  refine ⟨run, ?_⟩
  intro holds
  rcases holds with ⟨found, hfound, aligned⟩
  rw [run, Option.some.injEq] at hfound
  subst hfound
  exact absurd aligned.length_eq (by decide)

end NearRtRic.Sca
