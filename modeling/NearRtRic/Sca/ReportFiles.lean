import Mathlib.Tactic
import NearRtRic.Library.Grouping

/-! The vulnerabilities of a scan report by directory, and the file of each directory. -/

namespace NearRtRic.Sca.ByDirectory

open Dict

variable {Object : Type}

/-- An object of the report, with the `Path` that is stored in it for Trivy. -/
structure Vulnerability (Object : Type) where
  object : Object
  path : Option String := none

/-- A match with the path of its first location. -/
structure GrypeMatch (Object : Type) where
  location : String
  object : Object

structure TrivyTarget (Object : Type) where
  target : String
  vulnerabilities : Option (List Object)

structure SnykTarget (Object : Type) where
  displayTargetFile : String
  vulnerabilities : List Object

/-- One project or a list of them, or the report of a scan with an `error`. -/
inductive SnykContent (Object : Type) where
  | projects (targets : List (SnykTarget Object))
  | project (target : SnykTarget Object)
  | error

/-- Trivy leaves `Results` out where it has none. -/
inductive Report (Object : Type) where
  | grype (found : List (GrypeMatch Object))
  | trivy (results : Option (List (TrivyTarget Object)))
  | snyk (content : SnykContent Object)

/-- The patterns have no special characters: `search` looks for the text itself. -/
def search (pattern path : String) : Bool := decide (pattern.toList <:+: path.toList)

def testPackage : String := "test/"

def benchmarkPackage : String := "benchmark"

def examplesPackage : String := "examples/"

def testapplicationPackage : String := "testapplication/"

def certPackage : String := "certs/"

def grypeExcluded (path : String) : Bool :=
  search testPackage path || search benchmarkPackage path || search examplesPackage path ||
    search testapplicationPackage path

def trivyExcluded (path : String) : Bool :=
  search testPackage path || search benchmarkPackage path || search examplesPackage path ||
    search certPackage path

def snykExcluded (path : String) : Bool :=
  search testPackage path || search benchmarkPackage path || search examplesPackage path ||
    search testapplicationPackage path

def splitPath (path : String) : List String := (path.toList.splitOn '/').map String.ofList

abbrev Directories (Object : Type) := Dict String (List (Vulnerability Object))

def formatGrype (found : List (GrypeMatch Object)) : List (GrypeMatch Object) :=
  found.filter fun vuln => !grypeExcluded vuln.location

/-- `none` for the `IndexError` of a path without a second part. -/
def grypeStep (directories : Directories Object) (vuln : GrypeMatch Object) :
    Option (Directories Object) :=
  if grypeExcluded vuln.location then some directories
  else do
    let directory ← (splitPath vuln.location)[1]?
    some (directories.append directory { object := vuln.object })

def trivyStep (directories : Directories Object) (result : TrivyTarget Object) :
    Option (Directories Object) :=
  if trivyExcluded result.target then some directories
  else
    (result.vulnerabilities.getD []).foldlM (fun directories vuln => do
      let directory ← (splitPath result.target)[0]?
      some (directories.append directory { object := vuln, path := some result.target }))
      directories

def snykStep (directories : Directories Object) (target : SnykTarget Object) :
    Option (Directories Object) :=
  if snykExcluded target.displayTargetFile then some directories
  else
    target.vulnerabilities.foldlM (fun directories vuln => do
      let directory ← (splitPath target.displayTargetFile)[0]?
      some (directories.append directory { object := vuln })) directories

/-- `none` for an exception. -/
def getVulnerabilitiesByDirectory : Report Object → Option (Directories Object)
  | .grype found => (formatGrype found).foldlM grypeStep ∅
  | .trivy (some results) => results.foldlM trivyStep ∅
  -- `TypeError`: the loop is over `None`
  | .trivy none => none
  | .snyk (.projects targets) => targets.foldlM snykStep ∅
  | .snyk (.project target) => snykStep ∅ target
  | .snyk .error => some ∅

def isKept (char : Char) : Bool := char.isAlphanum || char == '_' || char == '-'

def cleanDirectory (directory : String) : String := String.ofList (directory.toList.filter isKept)

/-- The files by their directories under `base_dir`. They have the name of the tool. -/
def saveVulnerabilitiesByDirectory (directories : Directories Object) : Directories Object :=
  writeAll cleanDirectory directories

/-- What is saved of a report: nothing after an exception. -/
def savedFiles (report : Report Object) : Directories Object :=
  match getVulnerabilitiesByDirectory report with
  | none => ∅
  | some directories => saveVulnerabilitiesByDirectory directories

abbrev Located (Object : Type) := String × Vulnerability Object

def TrivyTarget.listed (result : TrivyTarget Object) : List (Located Object) :=
  (result.vulnerabilities.getD []).map fun vuln =>
    (result.target, { object := vuln, path := some result.target })

def SnykTarget.listed (target : SnykTarget Object) : List (Located Object) :=
  target.vulnerabilities.map fun vuln => (target.displayTargetFile, { object := vuln })

namespace Report

def listed : Report Object → List (Located Object)
  | .grype found => found.map fun vuln => (vuln.location, { object := vuln.object })
  | .trivy results => (results.getD []).flatMap TrivyTarget.listed
  | .snyk (.projects targets) => targets.flatMap SnykTarget.listed
  | .snyk (.project target) => target.listed
  | .snyk .error => []

def excluded : Report Object → String → Bool
  | .grype _ => grypeExcluded
  | .trivy _ => trivyExcluded
  | .snyk _ => snykExcluded

def kept (report : Report Object) : List (Located Object) :=
  report.listed.filter fun located => !report.excluded located.1

/-- The directory in a path: its second part for Grype, and its first one for the others. -/
def directory : Report Object → String → Option String
  | .grype _, path => (splitPath path)[1]?
  | .trivy _, path => (splitPath path)[0]?
  | .snyk _, path => (splitPath path)[0]?

/-- Each of them is in one file, once. -/
def AllSaved (report : Report Object) : Prop :=
  (savedFiles report).contents.Perm (report.kept.map Prod.snd)

/-- Each path has a directory, and different directories have different names. -/
def DirectoriesApart (report : Report Object) : Prop :=
  (∀ located ∈ report.kept, (report.directory located.1).isSome) ∧
  ∀ first ∈ report.kept, ∀ second ∈ report.kept,
    ∀ firstDirectory ∈ report.directory first.1, ∀ secondDirectory ∈ report.directory second.1,
      cleanDirectory firstDirectory = cleanDirectory secondDirectory →
        firstDirectory = secondDirectory

end Report

def addLocated (directory : String → Option String) (directories : Directories Object)
    (located : Located Object) : Option (Directories Object) := do
  let own ← directory located.1
  some (directories.append own located.2)

section Loops

variable {excluded : String → Bool} {directory : String → Option String}

theorem foldlM_located {Item : Type} {listed : Item → List (Located Object)}
    {step : Directories Object → Item → Option (Directories Object)}
    (turn : ∀ directories item, step directories item =
      ((listed item).filter fun located => !excluded located.1).foldlM (addLocated directory)
        directories)
    (items : List Item) (directories : Directories Object) :
    items.foldlM step directories =
      ((items.flatMap listed).filter fun located => !excluded located.1).foldlM
        (addLocated directory) directories := by
  induction items generalizing directories with
  | nil => rfl
  | cons item items ih =>
      rw [List.foldlM_cons, List.flatMap_cons, List.filter_append, List.foldlM_append, turn]
      exact congrArg _ (funext ih)

theorem filter_same_path (objects : List Object) (path : String)
    (view : Object → Vulnerability Object) :
    (objects.map fun vuln => (path, view vuln)).filter (fun located => !excluded located.1) =
      if excluded path then [] else objects.map fun vuln => (path, view vuln) := by
  cases hexcluded : excluded path <;> simp [List.filter_map, Function.comp_def, hexcluded]

theorem grypeStep_eq (directories : Directories Object) (vuln : GrypeMatch Object) :
    grypeStep directories vuln =
      ([(vuln.location, ({ object := vuln.object } : Vulnerability Object))].filter
        fun located => !grypeExcluded located.1).foldlM
        (addLocated fun path => (splitPath path)[1]?) directories := by
  cases hexcluded : grypeExcluded vuln.location with
  | true => simp [grypeStep, hexcluded]
  | false => simp [grypeStep, hexcluded, addLocated]

theorem trivyStep_eq (directories : Directories Object) (result : TrivyTarget Object) :
    trivyStep directories result =
      (result.listed.filter fun located => !trivyExcluded located.1).foldlM
        (addLocated fun path => (splitPath path)[0]?) directories := by
  rw [TrivyTarget.listed, filter_same_path, trivyStep]
  cases hexcluded : trivyExcluded result.target with
  | true => rfl
  | false =>
      rw [if_neg Bool.false_ne_true, if_neg Bool.false_ne_true, List.foldlM_map]
      rfl

theorem snykStep_eq (directories : Directories Object) (target : SnykTarget Object) :
    snykStep directories target =
      (target.listed.filter fun located => !snykExcluded located.1).foldlM
        (addLocated fun path => (splitPath path)[0]?) directories := by
  rw [SnykTarget.listed, filter_same_path, snykStep]
  cases hexcluded : snykExcluded target.displayTargetFile with
  | true => rfl
  | false =>
      rw [if_neg Bool.false_ne_true, if_neg Bool.false_ne_true, List.foldlM_map]
      rfl

/-- The paths are tested twice. -/
theorem formatGrype_kept (found : List (GrypeMatch Object)) :
    ((formatGrype found).flatMap fun vuln =>
      [(vuln.location, ({ object := vuln.object } : Vulnerability Object))]).filter
        (fun located => !grypeExcluded located.1) = Report.kept (.grype found) := by
  have single : ∀ list : List (GrypeMatch Object), (list.flatMap fun vuln =>
      [(vuln.location, ({ object := vuln.object } : Vulnerability Object))]) =
      list.map fun vuln => (vuln.location, { object := vuln.object }) :=
    fun list => List.flatMap_pure_eq_map _ list
  rw [single, formatGrype, List.filter_map, List.filter_filter, Report.kept, Report.listed,
    List.filter_map]
  simp [Function.comp_def, Report.excluded]

theorem getVulnerabilitiesByDirectory_eq (report : Report Object) (some : report ≠ .trivy none) :
    getVulnerabilitiesByDirectory report =
      report.kept.foldlM (addLocated report.directory) ∅ := by
  cases report with
  | grype found =>
      rw [getVulnerabilitiesByDirectory, foldlM_located grypeStep_eq, formatGrype_kept]
      rfl
  | trivy results =>
      cases results with
      | none => exact absurd rfl some
      | some results => exact foldlM_located trivyStep_eq results ∅
  | snyk content =>
      cases content with
      | projects targets => exact foldlM_located snykStep_eq targets ∅
      | project target => exact snykStep_eq ∅ target
      | error => rfl

theorem addLocated_loop {located : List (Located Object)} {own : String → String}
    (present : ∀ pair ∈ located, directory pair.1 = some (own pair.1))
    (directories : Directories Object) :
    located.foldlM (addLocated directory) directories =
      some ((located.map fun pair => (own pair.1, pair.2)).foldl
        (fun groups pair => groups.append pair.1 pair.2) directories) := by
  induction located generalizing directories with
  | nil => rfl
  | cons pair located ih =>
      rw [List.forall_mem_cons] at present
      rw [List.foldlM_cons, addLocated, present.1]
      exact ih present.2 _

theorem addLocated_missing {located : List (Located Object)} {pair : Located Object}
    (member : pair ∈ located) (missing : directory pair.1 = none)
    (directories : Directories Object) :
    located.foldlM (addLocated directory) directories = none := by
  induction located generalizing directories with
  | nil => cases member
  | cons first located ih =>
      rw [List.foldlM_cons]
      rcases List.mem_cons.mp member with rfl | later
      · rw [addLocated, missing]
        rfl
      · cases addLocated directory directories first with
        | none => rfl
        | some next => exact ih later next

end Loops

def Report.directoryName (report : Report Object) (path : String) : String :=
  (report.directory path).getD ""

theorem directory_eq_name {report : Report Object} {path : String}
    (present : (report.directory path).isSome) :
    report.directory path = some (report.directoryName path) := by
  rcases Option.isSome_iff_exists.mp present with ⟨directory, found⟩
  rw [Report.directoryName, found, Option.getD_some]

def Report.pairs (report : Report Object) : List (Located Object) :=
  report.kept.map fun located => (report.directoryName located.1, located.2)

theorem savedFiles_of_present {report : Report Object} (results : report ≠ .trivy none)
    (present : ∀ located ∈ report.kept, (report.directory located.1).isSome) :
    savedFiles report = writeAll cleanDirectory (group report.pairs) := by
  have each : ∀ located ∈ report.kept,
      report.directory located.1 = some (report.directoryName located.1) :=
    fun located member => directory_eq_name (present located member)
  rw [savedFiles, getVulnerabilitiesByDirectory_eq report results, addLocated_loop each]
  rfl

theorem savedFiles_of_missing {report : Report Object} {located : Located Object}
    (member : located ∈ report.kept) (missing : report.directory located.1 = none) :
    savedFiles report = ∅ := by
  have results : report ≠ .trivy none := by
    rintro rfl
    cases member
  rw [savedFiles, getVulnerabilitiesByDirectory_eq report results,
    addLocated_missing member missing]

theorem directoriesApart_iff {report : Report Object}
    (present : ∀ located ∈ report.kept, (report.directory located.1).isSome) :
    report.DirectoriesApart ↔
      ∀ first ∈ (group report.pairs).keys, ∀ second ∈ (group report.pairs).keys,
        cleanDirectory first = cleanDirectory second → first = second := by
  have mem_keys : ∀ directory, directory ∈ (group report.pairs).keys ↔
      ∃ located ∈ report.kept, report.directoryName located.1 = directory := by
    intro directory
    rw [(group_groups report.pairs).mem_keys_iff]
    simp [Report.pairs]
  constructor
  · rintro ⟨-, apart⟩ first hfirst second hsecond
    rcases (mem_keys first).mp hfirst with ⟨one, hone, rfl⟩
    rcases (mem_keys second).mp hsecond with ⟨two, htwo, rfl⟩
    exact apart one hone two htwo _ (directory_eq_name (present one hone)) _
      (directory_eq_name (present two htwo))
  · intro apart
    refine ⟨present, fun one hone two htwo first hfirst second hsecond => ?_⟩
    rw [directory_eq_name (present one hone), Option.mem_some] at hfirst
    rw [directory_eq_name (present two htwo), Option.mem_some] at hsecond
    exact apart first ((mem_keys first).mpr ⟨one, hone, hfirst⟩) second
      ((mem_keys second).mpr ⟨two, htwo, hsecond⟩)

theorem allSaved_iff_of_present {report : Report Object} (results : report ≠ .trivy none)
    (present : ∀ located ∈ report.kept, (report.directory located.1).isSome) :
    report.AllSaved ↔ report.DirectoriesApart := by
  have groups := group_groups report.pairs
  have items : (group report.pairs).contents.Perm (report.kept.map Prod.snd) := by
    have grouped := groups.contents_perm
    rwa [Report.pairs, List.map_map] at grouped
  calc report.AllSaved
      ↔ (writeAll cleanDirectory (group report.pairs)).contents.Perm
          (report.kept.map Prod.snd) := by rw [Report.AllSaved, savedFiles_of_present results present]
    _ ↔ (writeAll cleanDirectory (group report.pairs)).contents.Perm
          (group report.pairs).contents := ⟨fun perm => perm.trans items.symm,
            fun perm => perm.trans items⟩
    _ ↔ report.DirectoriesApart := by
        rw [writeAll_perm_iff cleanDirectory groups.filled, directoriesApart_iff present]

/-- No vulnerability is lost exactly when each path has a directory and no two directories share
a name. -/
theorem all_saved_iff (report : Report Object) : report.AllSaved ↔ report.DirectoriesApart := by
  by_cases results : report = .trivy none
  · subst results
    refine iff_of_true (List.Perm.refl _) ⟨?_, ?_⟩
    · intro located member
      cases member
    · intro first member
      cases member
  · by_cases present : ∀ located ∈ report.kept, (report.directory located.1).isSome
    · exact allSaved_iff_of_present results present
    · refine iff_of_false ?_ fun apart => present apart.1
      intro saved
      simp only [not_forall, Option.not_isSome_iff_eq_none] at present
      rcases present with ⟨located, member, missing⟩
      rw [Report.AllSaved, savedFiles_of_missing member missing] at saved
      have nothing := List.Perm.nil_eq saved
      rw [eq_comm, List.map_eq_nil_iff] at nothing
      rw [nothing] at member
      cases member

/-- Two targets of Trivy whose directories are told apart by a point only. -/
def pointedDirectories : Report String :=
  .trivy (some
    [{ target := "e2.sim/go.mod", vulnerabilities := some ["CVE-2022-1"] },
      { target := "e2sim/go.mod", vulnerabilities := some ["CVE-2022-2"] }])

/-- One file is left, with the second vulnerability only. -/
theorem pointedDirectories_lost :
    (savedFiles pointedDirectories).contents =
      [{ object := "CVE-2022-2", path := some "e2sim/go.mod" }] ∧
    ¬ pointedDirectories.AllSaved := by
  have saved : (savedFiles pointedDirectories).contents =
      [{ object := "CVE-2022-2", path := some "e2sim/go.mod" }] := by rfl
  refine ⟨saved, fun all => ?_⟩
  have both : (pointedDirectories.kept.map Prod.snd).length = 2 := by rfl
  rw [Report.AllSaved, saved] at all
  exact absurd (all.length_eq.trans both) (by decide)

end NearRtRic.Sca.ByDirectory
