import Mathlib.Tactic
import NearRtRic.Library.Dict
import NearRtRic.Sca.Dependencies

/-! The CVEs of a RIC and of its repositories, and when the total of a RIC is one of unique
CVEs. -/

namespace NearRtRic.Sca

open FirstListed

/-- What the counts read of an entry: its first list, which may be `None`. -/
structure CveEntry where
  cves : Option (List Cve)

/-- The entries by RIC, repository and tool, `none` where a tool has no report. -/
abbrev CveData := Dict String (Dict String (Dict String (Option CveEntry)))

/-- The list of a tool. Where the source finds `None` it goes on with the next tool. -/
def listOf : Option CveEntry → List Cve
  | some ⟨some cves⟩ => cves
  | _ => []

def addNew (cves : List Cve) (cve : Cve) : List Cve :=
  if cve ∈ cves then cves else cves ++ [cve]

def totalRepoCves (tools : Dict String (Option CveEntry)) : List Cve :=
  tools.entries.foldl (fun cves tool => (listOf tool.2).foldl addNew cves) []

def totalRicCves (repositories : Dict String (Dict String (Option CveEntry))) : List Cve :=
  repositories.entries.foldl (fun cves repository => cves ++ totalRepoCves repository.2) []

/-- `ric_cves`, and the total that is printed for each RIC. -/
structure CountedCves where
  ricCves : Dict String (List Cve)
  totals : Dict String ℕ

def countCves (data : CveData) : CountedCves :=
  let ricCves := data.mapValues fun _ => totalRicCves
  { ricCves := ricCves
    totals := ricCves.mapValues fun _ cves => cves.length }

/-- The lists of a repository with duplicates and without. -/
structure RepoCves where
  withDups : List Cve := []
  withoutDups : List Cve := []

def RepoCves.add (cves : RepoCves) (cve : Cve) : RepoCves where
  withDups := cves.withDups ++ [cve]
  withoutDups := addNew cves.withoutDups cve

def repoCves (tools : Dict String (Option CveEntry)) : RepoCves :=
  tools.entries.foldl (fun cves tool => (listOf tool.2).foldl RepoCves.add cves) {}

structure RepoCounts where
  cvePerRicRepoTool : Dict String (Dict String (Dict String ℕ))
  cvePerRicRepo : Dict String (Dict String RepoCves)

def perRepoCveCount (data : CveData) : RepoCounts where
  cvePerRicRepoTool := data.mapValues fun _ repositories =>
    repositories.mapValues fun _ tools => tools.mapValues fun _ entry => (listOf entry).length
  cvePerRicRepo := data.mapValues fun _ repositories =>
    repositories.mapValues fun _ => repoCves

section Repositories

variable {tools : Dict String (Option CveEntry)} {cve : Cve}

def reported (tools : Dict String (Option CveEntry)) : List Cve :=
  tools.entries.flatMap fun tool => listOf tool.2

theorem addNew_keys (kept : List (Cve × Cve)) (cve : Cve) :
    addNew (kept.map Prod.fst) cve = (keepFirst some kept cve).map Prod.fst := by
  by_cases present : cve ∈ kept.map Prod.fst
  · rw [keepFirst_listed rfl present]
    exact if_pos present
  · rw [keepFirst_fresh rfl present, List.map_append]
    exact if_neg present

theorem totalRepoCves_eq (tools : Dict String (Option CveEntry)) :
    totalRepoCves tools = (firsts some (reported tools)).map Prod.fst := by
  calc totalRepoCves tools = (reported tools).foldl addNew (List.map Prod.fst []) := by
        rw [totalRepoCves, reported, List.foldl_flatMap]
        rfl
    _ = (firsts some (reported tools)).map Prod.fst :=
        foldl_view (List.map Prod.fst) addNew_keys (reported tools)

theorem totalRepoCves_nodup (tools : Dict String (Option CveEntry)) :
    (totalRepoCves tools).Nodup := by
  rw [totalRepoCves_eq]
  exact (firsts_keep some (reported tools)).nodup

theorem mem_totalRepoCves_iff : cve ∈ totalRepoCves tools ↔ cve ∈ reported tools := by
  rw [totalRepoCves_eq, (firsts_keep some (reported tools)).mem_keys_iff]
  simp

theorem repoCves_withoutDups (tools : Dict String (Option CveEntry)) :
    (repoCves tools).withoutDups = totalRepoCves tools := by
  have inner : ∀ cves : RepoCves, ∀ list : List Cve,
      list.foldl addNew cves.withoutDups = (list.foldl RepoCves.add cves).withoutDups :=
    fun _ _ => List.foldl_hom RepoCves.withoutDups fun _ _ => rfl
  exact (List.foldl_hom RepoCves.withoutDups fun cves tool => inner cves (listOf tool.2)).symm

end Repositories

theorem totalRicCves_eq (repositories : Dict String (Dict String (Option CveEntry))) :
    totalRicCves repositories =
      repositories.entries.flatMap fun repository => totalRepoCves repository.2 := by
  have general : ∀ entries : List (Σ _ : String, Dict String (Option CveEntry)),
      ∀ cves : List Cve,
      entries.foldl (fun cves repository => cves ++ totalRepoCves repository.2) cves =
        cves ++ entries.flatMap fun repository => totalRepoCves repository.2 := by
    intro entries
    induction entries with
    | nil => simp
    | cons repository entries ih => simp [ih]
  exact general repositories.entries []

def NoneShared (data : CveData) (ric : String) : Prop :=
  ∀ repositories, data.lookup ric = some repositories →
    repositories.entries.Pairwise fun first second =>
      (reported first.2).Disjoint (reported second.2)

/-- The list of a RIC holds the CVEs that are reported and no others, each once, and is made up
of the duplicate-free lists of its repositories. -/
def UniqueTotal (data : CveData) (ric : String) : Prop :=
  ∀ repositories, data.lookup ric = some repositories →
    ∃ cves, (countCves data).ricCves.lookup ric = some cves ∧
      (countCves data).totals.lookup ric = some cves.length ∧
      (∀ cve, cve ∈ cves ↔ ∃ repository ∈ repositories.entries, cve ∈ reported repository.2) ∧
      cves.Nodup ∧
      ∃ counted, (perRepoCveCount data).cvePerRicRepo.lookup ric = some counted ∧
        cves = counted.entries.flatMap fun repository => repository.2.withoutDups

section Rics

variable {data : CveData} {ric : String}
variable {repositories : Dict String (Dict String (Option CveEntry))}

theorem ricCves_lookup (present : data.lookup ric = some repositories) :
    (countCves data).ricCves.lookup ric = some (totalRicCves repositories) := by
  rw [countCves, Dict.lookup_mapValues, present, Option.map_some]

theorem totals_lookup (present : data.lookup ric = some repositories) :
    (countCves data).totals.lookup ric = some (totalRicCves repositories).length := by
  rw [countCves, Dict.lookup_mapValues, Dict.lookup_mapValues, present, Option.map_some,
    Option.map_some]

theorem mem_totalRicCves_iff (cve : Cve) : cve ∈ totalRicCves repositories ↔
    ∃ repository ∈ repositories.entries, cve ∈ reported repository.2 := by
  simp [totalRicCves_eq, mem_totalRepoCves_iff]

theorem totalRicCves_counted (repositories : Dict String (Dict String (Option CveEntry))) :
    totalRicCves repositories =
      (repositories.mapValues fun _ => repoCves).entries.flatMap
        fun repository => repository.2.withoutDups := by
  rw [totalRicCves_eq, Dict.mapValues, List.flatMap_map]
  simp only [repoCves_withoutDups]

theorem totalRicCves_nodup_iff : (totalRicCves repositories).Nodup ↔
    repositories.entries.Pairwise fun first second =>
      (reported first.2).Disjoint (reported second.2) := by
  have each : ∀ repository ∈ repositories.entries, (totalRepoCves repository.2).Nodup :=
    fun repository _ => totalRepoCves_nodup repository.2
  rw [totalRicCves_eq, List.nodup_flatMap, and_iff_right each]
  refine List.Pairwise.iff fun first second => ?_
  simp only [Function.onFun, List.Disjoint, mem_totalRepoCves_iff]

end Rics

/-- The total of a RIC is one of unique CVEs exactly when none of them is reported in two of its
repositories. -/
theorem unique_total_iff (data : CveData) (ric : String) :
    UniqueTotal data ric ↔ NoneShared data ric := by
  refine forall_congr' fun repositories => forall_congr' fun present => ?_
  constructor
  · intro counted
    rcases counted with ⟨cves, hcves, -, -, nodup, -⟩
    rw [ricCves_lookup present, Option.some.injEq] at hcves
    subst hcves
    exact totalRicCves_nodup_iff.mp nodup
  · intro apart
    refine ⟨totalRicCves repositories, ricCves_lookup present, totals_lookup present,
      mem_totalRicCves_iff, totalRicCves_nodup_iff.mpr apart, _, ?_,
      totalRicCves_counted repositories⟩
    rw [perRepoCveCount, Dict.lookup_mapValues, present, Option.map_some]

def sharedPackage : CveData :=
  AList.singleton "near-rt-ric"
    { entries :=
        [⟨"a1", AList.singleton "Grype.txt" (some ⟨some [some "CVE-2022-1"]⟩)⟩,
          ⟨"e2", AList.singleton "Grype.txt" (some ⟨some [some "CVE-2022-1"]⟩)⟩]
      nodupKeys := show ["a1", "e2"].Nodup by decide }

/-- The one CVE of two repositories is listed twice, and the total of unique CVEs is two. -/
theorem sharedPackage_twice :
    (countCves sharedPackage).ricCves.lookup "near-rt-ric" =
      some [some "CVE-2022-1", some "CVE-2022-1"] ∧
    ¬ UniqueTotal sharedPackage "near-rt-ric" := by
  have twice : (countCves sharedPackage).ricCves.lookup "near-rt-ric" =
      some [some "CVE-2022-1", some "CVE-2022-1"] := by rfl
  refine ⟨twice, fun unique => ?_⟩
  rcases unique _ rfl with ⟨cves, hcves, -, -, nodup, -⟩
  rw [twice, Option.some.injEq] at hcves
  subst hcves
  exact absurd nodup (by decide)

end NearRtRic.Sca
