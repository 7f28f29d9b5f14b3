import NearRtRic.Sca.Severity

/-! The four severity classes of every repository split its CVEs, and neither they nor the totals
depend on the order of the tools. -/

namespace NearRtRic.Sca

open FirstListed

/-- A list with its length, by RIC and repository. -/
abbrev PerRicRepo := Dict String (Dict String (ℕ × List Cve))

def entryAt {Value : Type} (dict : Dict String (Dict String Value)) (ric repository : String) :
    Option Value :=
  (dict.lookup ric).bind fun repositories => repositories.lookup repository

/-- The five dictionaries that are returned. -/
structure Distribution where
  low : PerRicRepo
  medium : PerRicRepo
  high : PerRicRepo
  critical : PerRicRepo
  cves : PerRicRepo

def withLength (list : List Cve) : ℕ × List Cve := (list.length, list)

def perRicRepo (list : Severities → List Cve) (found : Dict String (Dict String Severities)) :
    PerRicRepo :=
  found.mapValues fun _ repositories =>
    repositories.mapValues fun _ severities => withLength (list severities)

def Distribution.of (found : Dict String (Dict String Severities)) : Distribution where
  low := perRicRepo Severities.low found
  medium := perRicRepo Severities.medium found
  high := perRicRepo Severities.high found
  critical := perRicRepo Severities.critical found
  cves := perRicRepo Severities.cves found

def cvssDistribution (data : ResultData) : Option Distribution := do
  let found ← data.traverse fun _ repositories =>
    repositories.traverse fun _ tools => severities tools
  pure (.of found)

/-- The lengths of a repository: `none` for a `KeyError`, where another dictionary misses it. -/
def repositoryTotal (medium high critical : PerRicRepo) (ric : String)
    (low : Σ _ : String, ℕ × List Cve) : Option ℕ := do
  let mediumEntry ← entryAt medium ric low.1
  let highEntry ← entryAt high ric low.1
  let criticalEntry ← entryAt critical ric low.1
  pure (low.2.2.length + mediumEntry.2.length + highEntry.2.length + criticalEntry.2.length)

def countTotalCves (low medium high critical : PerRicRepo) : Option (Dict String ℕ) :=
  low.traverse fun ric repositories =>
    (repositories.entries.mapM (repositoryTotal medium high critical ric)).map List.sum

def Distribution.totals (found : Distribution) : Option (Dict String ℕ) :=
  countTotalCves found.low found.medium found.high found.critical

def RepositoriesPaired (repositories : Dict String Tools) : Prop :=
  ∀ repository ∈ repositories.entries, ToolsPaired repository.2

/-- The score list of each tool is no longer than its CVE list. -/
def Paired (data : ResultData) : Prop :=
  ∀ ric ∈ data.entries, RepositoriesPaired ric.2

/-- The same result data with the tools of each repository in another order. -/
def Reordered : ResultData → ResultData → Prop :=
  Dict.Related (Dict.Related fun tools reordered => tools.entries.Perm reordered.entries)

/-- Four lists without duplicates, no two with a common CVE, whose union is the fifth. -/
structure Partition (low medium high critical cves : List Cve) : Prop where
  nodup : ∀ list ∈ [low, medium, high, critical, cves], list.Nodup
  disjoint : [low, medium, high, critical].Pairwise List.Disjoint
  union : ∀ cve, cve ∈ cves ↔ cve ∈ low ∨ cve ∈ medium ∨ cve ∈ high ∨ cve ∈ critical

namespace Distribution

def Partitioned (found : Distribution) (ric repository : String) : Prop :=
  ∃ low medium high critical cves,
    entryAt found.low ric repository = some (withLength low) ∧
    entryAt found.medium ric repository = some (withLength medium) ∧
    entryAt found.high ric repository = some (withLength high) ∧
    entryAt found.critical ric repository = some (withLength critical) ∧
    entryAt found.cves ric repository = some (withLength cves) ∧
    Partition low medium high critical cves

def Classified (found : Distribution) (ric repository : String) (cve : Cve) : Prop :=
  ∃ dict ∈ [found.low, found.medium, found.high, found.critical],
    ∃ entry, entryAt dict ric repository = some entry ∧ cve ∈ entry.2

end Distribution

/-- A tool whose scores count gives the CVE, at its index, a score in a band. -/
def Scored (tools : Tools) (cve : Cve) : Prop :=
  ∃ tool ∈ tools.entries, tool.1 ≠ "Scantist.json" ∧ ∃ entry, tool.2 = some entry ∧
    ∃ index : ℕ, ∃ score : Score, entry.cves[index]? = some cve ∧ entry.cvss[index]? = some score ∧
      (score.bind bandOf).isSome

def keptOf (tools : Tools) : Kept := firsts pairKey (pairsOf tools)

def severitiesByRepository (data : ResultData) : Dict String (Dict String Severities) :=
  data.mapValues fun _ repositories =>
    repositories.mapValues fun _ tools => Severities.of (keptOf tools)

section Found

variable {data reordered : ResultData} {ric repository : String} {cve : Cve} {tools : Tools}

theorem cvssDistribution_eq (paired : Paired data) :
    cvssDistribution data = some (.of (severitiesByRepository data)) := by
  have run : data.traverse (fun _ repositories =>
      repositories.traverse fun _ tools => severities tools) =
      some (severitiesByRepository data) := by
    refine Dict.traverse_eq_mapValues fun ric hric => ?_
    refine Dict.traverse_eq_mapValues fun repository hrepository => ?_
    exact severities_eq (paired ric hric repository hrepository)
  rw [cvssDistribution, run]
  rfl

theorem entryAt_mapValues {Value Result : Type} (f : Value → Result)
    (dict : Dict String (Dict String Value)) (ric repository : String) :
    entryAt (dict.mapValues fun _ repositories => repositories.mapValues fun _ => f)
      ric repository = (entryAt dict ric repository).map f := by
  rw [entryAt, entryAt, Dict.lookup_mapValues]
  cases dict.lookup ric with
  | none => rfl
  | some repositories => exact Dict.lookup_mapValues _ repositories repository

theorem perRicRepo_eq (list : Severities → List Cve) (data : ResultData) :
    perRicRepo list (severitiesByRepository data) =
      data.mapValues fun _ repositories => repositories.mapValues fun _ tools =>
        withLength (list (Severities.of (keptOf tools))) := by
  rw [perRicRepo, severitiesByRepository, Dict.mapValues_mapValues]
  refine congrArg (fun f => Dict.mapValues f data) ?_
  funext _ repositories
  exact Dict.mapValues_mapValues _ _ repositories

theorem entryAt_perRicRepo (list : Severities → List Cve) (data : ResultData)
    (ric repository : String) :
    entryAt (perRicRepo list (severitiesByRepository data)) ric repository =
      (entryAt data ric repository).map fun tools =>
        withLength (list (Severities.of (keptOf tools))) := by
  rw [perRicRepo_eq, entryAt_mapValues]

theorem keptOf_partition (tools : Tools) :
    Partition (inBand .low (keptOf tools)) (inBand .medium (keptOf tools))
      (inBand .high (keptOf tools)) (inBand .critical (keptOf tools))
      ((keptOf tools).map Prod.fst) := by
  have keeps := firsts_keep pairKey (pairsOf tools)
  have apart : ∀ {band other : Band}, band ≠ other →
      (inBand band (keptOf tools)).Disjoint (inBand other (keptOf tools)) :=
    inBand_disjoint keeps
  refine ⟨?_, ?_, fun cve => mem_kept_iff⟩
  · simp only [List.forall_mem_cons]
    exact ⟨inBand_nodup keeps, inBand_nodup keeps, inBand_nodup keeps, inBand_nodup keeps,
      keeps.nodup, by simp⟩
  · simp [apart]

theorem partitioned_of (present : entryAt data ric repository = some tools) :
    (Distribution.of (severitiesByRepository data)).Partitioned ric repository := by
  have entry : ∀ list : Severities → List Cve,
      entryAt (perRicRepo list (severitiesByRepository data)) ric repository =
        some (withLength (list (Severities.of (keptOf tools)))) := by
    intro list
    rw [entryAt_perRicRepo, present, Option.map_some]
  exact ⟨_, _, _, _, _, entry Severities.low, entry Severities.medium, entry Severities.high,
    entry Severities.critical, entry Severities.cves, keptOf_partition tools⟩

def classifiedCves (tools : Tools) : Set Cve := fun cve => ∃ pair ∈ pairsOf tools, pair.1 = cve

theorem mem_keptOf_iff : cve ∈ (keptOf tools).map Prod.fst ↔ cve ∈ classifiedCves tools := by
  rw [keptOf, (firsts_keep pairKey (pairsOf tools)).mem_keys_iff]
  simp only [pairKey, Option.some.injEq]
  rfl

theorem classified_iff :
    (Distribution.of (severitiesByRepository data)).Classified ric repository cve ↔
      ∃ tools, entryAt data ric repository = some tools ∧ cve ∈ classifiedCves tools := by
  simp only [Distribution.Classified, Distribution.of, List.mem_cons, List.not_mem_nil, or_false,
    exists_eq_or_imp, exists_eq_left, entryAt_perRicRepo]
  cases entryAt data ric repository with
  | none => simp
  | some tools => simp [withLength, Severities.of, ← mem_keptOf_iff, mem_kept_iff]

theorem mem_classifiedCves_iff : cve ∈ classifiedCves tools ↔ Scored tools cve := by
  have paired : ∀ entry : CvesCvssDependencies,
      (∃ pair ∈ classifiedPairs entry, pair.1 = cve) ↔
        ∃ index : ℕ, ∃ score : Score, entry.cves[index]? = some cve ∧
          entry.cvss[index]? = some score ∧ (score.bind bandOf).isSome := by
    intro entry
    simp only [classifiedPairs, List.mem_filterMap]
    constructor
    · rintro ⟨pair, ⟨⟨other, score⟩, member, found⟩, rfl⟩
      obtain ⟨band, hband, rfl⟩ := Option.map_eq_some_iff.mp found
      obtain ⟨index, at_index⟩ := List.mem_iff_getElem?.mp member
      obtain ⟨hcve, hscore⟩ := List.getElem?_zip_eq_some.mp at_index
      exact ⟨index, score, hcve, hscore, Option.isSome_iff_exists.mpr ⟨band, hband⟩⟩
    · rintro ⟨index, score, hcve, hscore, isBand⟩
      obtain ⟨band, hband⟩ := Option.isSome_iff_exists.mp isBand
      have at_index : (entry.cves.zip entry.cvss)[index]? = some (cve, score) :=
        List.getElem?_zip_eq_some.mpr ⟨hcve, hscore⟩
      have found : classifiedPair (cve, score) = some (cve, band) := by
        rw [classifiedPair, hband]
        rfl
      exact ⟨(cve, band), ⟨_, List.mem_of_getElem? at_index, found⟩, rfl⟩
  constructor
  · rintro ⟨pair, member, rfl⟩
    obtain ⟨tool, inside, classified⟩ := List.mem_flatMap.mp member
    unfold toolPairs at classified
    split at classified
    · cases classified
    · next entry hentry =>
      split at classified
      · cases classified
      · next other =>
        exact ⟨tool, inside, other, entry, hentry, (paired entry).mp ⟨pair, classified, rfl⟩⟩
  · rintro ⟨tool, inside, other, entry, hentry, scored⟩
    obtain ⟨pair, classified, same⟩ := (paired entry).mpr scored
    refine ⟨pair, List.mem_flatMap.mpr ⟨tool, inside, ?_⟩, same⟩
    simpa only [toolPairs, hentry, if_neg other] using classified

def classifiedByRepository (data : ResultData) : Dict String (Dict String (Set Cve)) :=
  data.mapValues fun _ repositories => repositories.mapValues fun _ => classifiedCves

theorem classified_iff_mem :
    (Distribution.of (severitiesByRepository data)).Classified ric repository cve ↔
      ∃ cves, entryAt (classifiedByRepository data) ric repository = some cves ∧ cve ∈ cves := by
  rw [classified_iff, classifiedByRepository, entryAt_mapValues]
  simp

theorem classifiedCves_perm {tools other : Tools} (perm : tools.entries.Perm other.entries) :
    classifiedCves tools = classifiedCves other := by
  refine Set.ext fun cve => ?_
  have same : ∀ pair, pair ∈ pairsOf tools ↔ pair ∈ pairsOf other :=
    fun pair => (perm.flatMap_right toolPairs).mem_iff
  exact exists_congr fun pair => and_congr_left' (same pair)

theorem classifiedByRepository_eq (order : Reordered data reordered) :
    classifiedByRepository data = classifiedByRepository reordered := by
  apply Dict.Related.mapValues_eq order
  intro ric repositories others hrepositories
  apply Dict.Related.mapValues_eq hrepositories
  intro repository tools other perm
  exact classifiedCves_perm perm

theorem keptOf_length {tools other : Tools} (perm : tools.entries.Perm other.entries) :
    (keptOf tools).length = (keptOf other).length := by
  have keeps := firsts_keep pairKey (pairsOf tools)
  have others := firsts_keep pairKey (pairsOf other)
  have same : ((keptOf tools).map Prod.fst).Perm ((keptOf other).map Prod.fst) := by
    refine (List.perm_ext_iff_of_nodup keeps.nodup others.nodup).mpr fun cve => ?_
    calc cve ∈ (keptOf tools).map Prod.fst ↔ cve ∈ classifiedCves tools := mem_keptOf_iff
      _ ↔ cve ∈ classifiedCves other := by rw [classifiedCves_perm perm]
      _ ↔ cve ∈ (keptOf other).map Prod.fst := mem_keptOf_iff.symm
  simpa using same.length_eq

theorem paired_reordered (paired : Paired data) (order : Reordered data reordered) :
    Paired reordered := by
  have tools : ∀ tools other : Tools, tools.entries.Perm other.entries →
      ToolsPaired tools → ToolsPaired other :=
    fun tools other perm hpaired tool member => hpaired tool (perm.mem_iff.mpr member)
  have repositories : ∀ repositories others : Dict String Tools,
      Dict.Related (fun tools reordered => tools.entries.Perm reordered.entries)
        repositories others →
      RepositoriesPaired repositories → RepositoriesPaired others :=
    fun _ _ hrepositories => hrepositories.forall_entries tools
  exact Dict.Related.forall_entries order repositories paired

def totalsOf (data : ResultData) : Dict String ℕ :=
  data.mapValues fun _ repositories =>
    (repositories.entries.map fun repository => (keptOf repository.2).length).sum

theorem entryAt_of_mem {ric : Σ _ : String, Dict String Tools} (hric : ric ∈ data.entries)
    {repository : Σ _ : String, Tools} (hrepository : repository ∈ ric.2.entries) :
    entryAt data ric.1 repository.1 = some repository.2 := by
  rw [entryAt, Dict.lookup_of_mem hric, Option.bind_some, Dict.lookup_of_mem hrepository]

theorem repositoryTotal_eq (present : entryAt data ric repository = some tools) :
    repositoryTotal (perRicRepo Severities.medium (severitiesByRepository data))
      (perRicRepo Severities.high (severitiesByRepository data))
      (perRicRepo Severities.critical (severitiesByRepository data)) ric
      ⟨repository, withLength (Severities.of (keptOf tools)).low⟩ =
        some (keptOf tools).length := by
  rw [repositoryTotal, entryAt_perRicRepo, entryAt_perRicRepo, entryAt_perRicRepo, present]
  exact congrArg some (inBand_lengths (keptOf tools))

theorem totals_eq (data : ResultData) :
    (Distribution.of (severitiesByRepository data)).totals = some (totalsOf data) := by
  rw [Distribution.totals, countTotalCves]
  simp only [Distribution.of]
  rw [perRicRepo_eq Severities.low, Dict.traverse_mapValues]
  refine Dict.traverse_eq_mapValues fun ric hric => ?_
  have counts : ric.2.entries.mapM (fun repository =>
      repositoryTotal (perRicRepo Severities.medium (severitiesByRepository data))
        (perRicRepo Severities.high (severitiesByRepository data))
        (perRicRepo Severities.critical (severitiesByRepository data)) ric.1
        ⟨repository.1, withLength (Severities.of (keptOf repository.2)).low⟩) =
      some (ric.2.entries.map fun repository => (keptOf repository.2).length) :=
    Dict.mapM_eq_map fun repository hrepository =>
      repositoryTotal_eq (entryAt_of_mem hric hrepository)
  rw [Dict.mapValues, List.mapM_map]
  exact congrArg (Option.map List.sum) counts

theorem totalsOf_reordered (order : Reordered data reordered) :
    totalsOf data = totalsOf reordered := by
  apply Dict.Related.mapValues_eq order
  intro ric repositories others hrepositories
  apply congrArg List.sum
  apply Dict.Related.map_eq hrepositories
  intro repository tools other perm
  exact keptOf_length perm

end Found

/-- For every RIC and repository the classes split the CVEs, which are those that some tool gives a
score in a band, and with the tools in another order the same CVEs are classified and the totals are
the same. -/
theorem severity_classes_partition (data : ResultData) (paired : Paired data) :
    ∃ found, cvssDistribution data = some found ∧
      (∀ ric repository, (entryAt data ric repository).isSome →
        found.Partitioned ric repository) ∧
      (∀ ric repository cve, found.Classified ric repository cve ↔
        ∃ tools, entryAt data ric repository = some tools ∧ Scored tools cve) ∧
      found.totals.isSome ∧
      ∀ reordered, Reordered data reordered →
        ∃ other, cvssDistribution reordered = some other ∧
          (∀ ric repository cve,
            other.Classified ric repository cve ↔ found.Classified ric repository cve) ∧
          other.totals = found.totals := by
  refine ⟨_, cvssDistribution_eq paired, ?_, ?_, ?_, ?_⟩
  · intro ric repository present
    rcases Option.isSome_iff_exists.mp present with ⟨tools, htools⟩
    exact partitioned_of htools
  · intro ric repository cve
    simp only [classified_iff, mem_classifiedCves_iff]
  · rw [totals_eq]
    rfl
  · intro reordered order
    refine ⟨_, cvssDistribution_eq (paired_reordered paired order), ?_, ?_⟩
    · intro ric repository cve
      rw [classified_iff_mem, classified_iff_mem, classifiedByRepository_eq order]
    · rw [totals_eq, totals_eq, totalsOf_reordered order]

def grypeEntry : Option CvesCvssDependencies :=
  some { cves := [some "CVE-2022-1", some "CVE-2022-2"], cvss := [some 9.8, some 5.3] }

def trivyEntry : Option CvesCvssDependencies :=
  some { cves := [some "CVE-2022-1", some "CVE-2022-3"], cvss := [some 6.5, none] }

def oneRepository (tools : Tools) : ResultData :=
  AList.singleton "near-rt-ric" (AList.singleton "e2" tools)

def grypeFirst : Tools where
  entries := [⟨"Grype.txt", grypeEntry⟩, ⟨"Trivy.txt", trivyEntry⟩]
  nodupKeys := show ["Grype.txt", "Trivy.txt"].Nodup by decide

def trivyFirst : Tools where
  entries := [⟨"Trivy.txt", trivyEntry⟩, ⟨"Grype.txt", grypeEntry⟩]
  nodupKeys := show ["Trivy.txt", "Grype.txt"].Nodup by decide

theorem grypeFirst_paired : Paired (oneRepository grypeFirst) := by
  simp [Paired, RepositoriesPaired, ToolsPaired, oneRepository, grypeFirst, grypeEntry, trivyEntry]

theorem grypeFirst_reordered : Reordered (oneRepository grypeFirst) (oneRepository trivyFirst) :=
  .cons ⟨rfl, .cons ⟨rfl, .swap _ _ _⟩ .nil⟩ .nil

theorem shared_cve_partition :
    ∃ found, cvssDistribution (oneRepository grypeFirst) = some found ∧
      found.Partitioned "near-rt-ric" "e2" ∧
      ∃ other, cvssDistribution (oneRepository trivyFirst) = some other ∧
        (∀ cve, other.Classified "near-rt-ric" "e2" cve ↔
          found.Classified "near-rt-ric" "e2" cve) ∧
        other.totals = found.totals := by
  rcases severity_classes_partition (oneRepository grypeFirst) grypeFirst_paired with
    ⟨found, run, partitioned, -, -, order⟩
  rcases order (oneRepository trivyFirst) grypeFirst_reordered with ⟨other, rerun, same, totals⟩
  exact ⟨found, run, partitioned "near-rt-ric" "e2" (by decide), other, rerun,
    same "near-rt-ric" "e2", totals⟩

end NearRtRic.Sca
