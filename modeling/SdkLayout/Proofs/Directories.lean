import SdkLayout.Api.Basic
import SdkLayout.Placement.Targets

/-!
# Packages as directories

A package is written in three ways: as the list of directories of a path, as the directory cut out
of a file name, and as an import path. Where packages have proper directories
(`DeclarationPath.ProperPackages`) and files proper names, the three agree: the directory of a
target is the list of directories with slashes in between (`Target.directory_inDirs`), which
determines the list (`intercalate_slash_injective`), and the import path depends on the directory
alone and determines it (`packageIdentity_eq`, `identityIn_injective`). So import cycles, which are
found by import paths, and placement, which compares directories, speak of the same packages
(`packages_agree`).

A target is known from its file name even without this, as soon as no directory and no file has a
slash in its name (`Target.Located.eq_of_filename`).
-/

namespace SdkLayout

/-- A name of a directory: not empty and without slashes. -/
def IsSegment (s : String) : Prop :=
  s ≠ "" ∧ '/' ∉ s.toList

namespace DeclarationPath

/-- The packages of a path have proper directories. -/
def ProperPackages (path : DeclarationPath) : Prop :=
  ∀ n ∈ path.packagePath, IsSegment n.segment

/-- The file of a path, if it has one, stays in its directory. -/
def ProperFile (path : DeclarationPath) : Prop :=
  ∀ n ∈ path.file, '/' ∉ n.basename.toList

theorem ProperPackages.dirs {path : DeclarationPath} (h : path.ProperPackages) :
    ∀ d ∈ path.dirs, IsSegment d := by
  intro d hd
  obtain ⟨n, hn, rfl⟩ := List.mem_map.1 hd
  exact h n hn

end DeclarationPath

/-! ### Joining directories -/

theorem intercalate_slash_eq_empty {ds : List String} (h : ∀ d ∈ ds, IsSegment d) :
    "/".intercalate ds = "" ↔ ds = [] := by
  constructor
  · intro hj
    match ds with
    | [] => rfl
    | [d] =>
      rw [String.intercalate_singleton] at hj
      exact absurd hj (h d List.mem_cons_self).1
    -- Two directories have a slash between them.
    | d :: e :: rest =>
      have hl := congrArg String.toList hj
      rw [String.intercalate_cons_cons, String.toList_append, String.toList_append] at hl
      exact absurd hl (by simp)
  · rintro rfl
    exact String.intercalate_nil

/-- Splitting at slashes is the inverse of joining, but for the empty list. -/
theorem splitOn_intercalate_slash {ds : List String} (h : ∀ d ∈ ds, '/' ∉ d.toList)
    (ne : ds ≠ []) : ("/".intercalate ds).toList.splitOn '/' = ds.map String.toList := by
  rw [String.toList_intercalate]
  refine List.splitOn_intercalate '/' ?_ (by simpa using ne)
  intro l hl
  obtain ⟨d, hmem, rfl⟩ := List.mem_map.1 hl
  exact h d hmem

/-- Proper directories are read back from the text that joins them. -/
theorem intercalate_slash_injective {ds es : List String} (hd : ∀ d ∈ ds, IsSegment d)
    (he : ∀ e ∈ es, IsSegment e) (h : "/".intercalate ds = "/".intercalate es) : ds = es := by
  -- Splitting undoes joining, but for no directory at all: the empty text is split into one piece.
  by_cases hds : ds = []
  · subst hds
    rw [String.intercalate_nil, eq_comm, intercalate_slash_eq_empty he] at h
    exact h.symm
  by_cases hes : es = []
  · subst hes
    rw [String.intercalate_nil, intercalate_slash_eq_empty hd] at h
    exact absurd h hds
  have hmap : ds.map String.toList = es.map String.toList := by
    rw [← splitOn_intercalate_slash (fun d h => (hd d h).2) hds, h,
      splitOn_intercalate_slash (fun e h => (he e h).2) hes]
  exact (List.map_inj_right fun _ _ => String.toList_inj.1).1 hmap

/-- A further name is joined after a slash, but for the first one. -/
theorem intercalate_slash_concat {ds : List String} (ne : ds ≠ []) (file : String) :
    "/".intercalate (ds ++ [file]) = "/".intercalate ds ++ "/" ++ file := by
  induction ds with
  | nil => exact absurd rfl ne
  | cons d rest ih =>
    cases rest with
    | nil =>
      rw [List.singleton_append, String.intercalate_cons_cons, String.intercalate_singleton,
        String.intercalate_singleton]
    | cons e rest =>
      rw [List.cons_append, List.cons_append, String.intercalate_cons_cons, ← List.cons_append,
        ih (List.cons_ne_nil e rest), String.intercalate_cons_cons]
      simp only [String.append_assoc]

/-! ### Directories of targets -/

namespace Target

theorem dropWhile_reverse_append {file : List Char} (h : '/' ∉ file) (rest : List Char) :
    (file.reverse ++ rest).dropWhile (· != '/') = rest.dropWhile (· != '/') := by
  refine List.dropWhile_append_of_pos fun c hc => bne_iff_ne.2 ?_
  rintro rfl
  exact h (List.mem_reverse.1 hc)

theorem beforeLastSlash_of_not_mem {file : List Char} (h : '/' ∉ file) :
    beforeLastSlash file = [] := by
  have hdrop := dropWhile_reverse_append h []
  rw [List.append_nil] at hdrop
  rw [beforeLastSlash, hdrop]
  rfl

theorem beforeLastSlash_append {dir file : List Char} (h : '/' ∉ file) :
    beforeLastSlash (dir ++ '/' :: file) = dir := by
  rw [beforeLastSlash, List.reverse_append, List.reverse_cons, List.append_assoc,
    dropWhile_reverse_append h]
  exact List.reverse_reverse dir

/-- The slash before a file is the last one. -/
theorem toList_join (directory file : String) :
    (directory ++ "/" ++ file).toList = directory.toList ++ '/' :: file.toList := by
  rw [String.toList_append, String.toList_append, List.append_assoc]
  rfl

/-- A file without slashes in its name lies in the directory where it is put. -/
theorem directory_inDirs (dirs : List String) {file : String} (rootPackage : String)
    (h : '/' ∉ file.toList) : (inDirs dirs file rootPackage).directory = "/".intercalate dirs := by
  unfold inDirs directory
  split
  · next hlast =>
    obtain rfl : dirs = [] := List.getLast?_eq_none_iff.1 hlast
    rw [beforeLastSlash_of_not_mem h, String.intercalate_nil]
  · simp only
    rw [toList_join, beforeLastSlash_append h, String.ofList_toList]

theorem package_inDirs (dirs : List String) (file rootPackage : String) :
    (inDirs dirs file rootPackage).package = dirs.getLast?.getD rootPackage := by
  unfold inDirs
  split
  · next hlast => rw [hlast, Option.getD_none]
  · next last hlast => rw [hlast, Option.getD_some]

end Target

/-! ### Base names of targets -/

namespace Target

/-- What stands behind the last slash. -/
def afterLastSlash (cs : List Char) : List Char :=
  (cs.reverse.takeWhile (· != '/')).reverse

/-- The name of the file in its directory. -/
def basename (target : Target) : String :=
  String.ofList (afterLastSlash target.filename.toList)

theorem takeWhile_reverse_append {file : List Char} (h : '/' ∉ file) (rest : List Char) :
    (file.reverse ++ rest).takeWhile (· != '/') =
      file.reverse ++ rest.takeWhile (· != '/') := by
  refine List.takeWhile_append_of_pos fun c hc => bne_iff_ne.2 ?_
  rintro rfl
  exact h (List.mem_reverse.1 hc)

theorem afterLastSlash_of_not_mem {file : List Char} (h : '/' ∉ file) :
    afterLastSlash file = file := by
  have all := takeWhile_reverse_append h []
  rw [List.append_nil, List.takeWhile_nil, List.append_nil] at all
  rw [afterLastSlash, all, List.reverse_reverse]

theorem afterLastSlash_append {dir file : List Char} (h : '/' ∉ file) :
    afterLastSlash (dir ++ '/' :: file) = file := by
  rw [afterLastSlash, List.reverse_append, List.reverse_cons, List.append_assoc,
    takeWhile_reverse_append h]
  simp

/-- A file without slashes in its name keeps its name wherever it is put. -/
theorem basename_inDirs (dirs : List String) {file : String} (rootPackage : String)
    (h : '/' ∉ file.toList) : (inDirs dirs file rootPackage).basename = file := by
  unfold inDirs basename
  split
  · rw [afterLastSlash_of_not_mem h, String.ofList_toList]
  · simp only
    rw [toList_join, afterLastSlash_append h, String.ofList_toList]

theorem basename_congr {t t' : Target} (h : t.filename = t'.filename) :
    t.basename = t'.basename := by
  rw [basename, basename, h]

theorem directory_congr {t t' : Target} (h : t.filename = t'.filename) :
    t.directory = t'.directory := by
  rw [directory, directory, h]

/-- The file name is the list of directories and the file with slashes in between. -/
theorem filename_inDirs (dirs : List String) (file rootPackage : String) :
    (inDirs dirs file rootPackage).filename = "/".intercalate (dirs ++ [file]) := by
  unfold inDirs
  split
  · next hlast =>
    obtain rfl : dirs = [] := List.getLast?_eq_none_iff.1 hlast
    rw [List.nil_append, String.intercalate_singleton]
  · next last hlast =>
    have ne : dirs ≠ [] := by
      rintro rfl
      exact absurd hlast (by simp)
    rw [intercalate_slash_concat ne]

/-- The file name says where the target is: neither its directories nor its file have a slash in
their names. -/
def Located (rootPackage : String) (t : Target) : Prop :=
  ∃ dirs file, (∀ d ∈ dirs, '/' ∉ d.toList) ∧ '/' ∉ file.toList ∧ t = .inDirs dirs file rootPackage

/-- The package follows from the directories, so that the file name is all there is. -/
theorem Located.eq_of_filename {rootPackage : String} {t t' : Target} (h : t.Located rootPackage)
    (h' : t'.Located rootPackage) (same : t.filename = t'.filename) : t = t' := by
  obtain ⟨dirs, file, hdirs, hfile, rfl⟩ := h
  obtain ⟨dirs', file', hdirs', hfile', rfl⟩ := h'
  -- No directory and no name of a file has a slash, so that splitting the path gives them back.
  have split : ∀ {ds : List String} {f : String}, (∀ d ∈ ds, '/' ∉ d.toList) → '/' ∉ f.toList →
      (inDirs ds f rootPackage).filename.toList.splitOn '/' = (ds ++ [f]).map String.toList := by
    intro ds f hds hf
    rw [filename_inDirs]
    refine splitOn_intercalate_slash ?_ (by simp)
    exact List.forall_mem_append.2 ⟨hds, List.forall_mem_singleton.2 hf⟩
  have texts : (dirs ++ [file]).map String.toList = (dirs' ++ [file']).map String.toList := by
    rw [← split hdirs hfile, same, split hdirs' hfile']
  have names := (List.map_inj_right fun _ _ => String.toList_inj.1).1 texts
  obtain ⟨rfl, last⟩ := List.append_inj' names rfl
  rw [List.singleton_inj.1 last]

end Target

theorem slash_not_mem_sourceFile {basename : String} (h : '/' ∉ basename.toList) :
    '/' ∉ (sourceFile basename).toList := by
  rw [sourceFile, String.toList_append, List.mem_append]
  exact not_or.2 ⟨h, by decide⟩

/-! ### Import paths of directories -/

/-- The import path of the package in a directory. -/
def identityIn (importPath directory : String) : String :=
  if directory = "" then importPath
  else if importPath = "" then directory
  else importPath ++ "/" ++ directory

/-- The import path of a package depends on its directory alone. -/
theorem packageIdentity_eq {path : DeclarationPath} (h : path.ProperPackages)
    (importPath : String) :
    packageIdentity importPath path = identityIn importPath ("/".intercalate path.dirs) := by
  have hroot := intercalate_slash_eq_empty h.dirs
  unfold packageIdentity identityIn
  simp only [List.isEmpty_iff, String.isEmpty_iff, hroot]

/-- Without a base import path, the directory is all there is. -/
theorem identityIn_empty (directory : String) : identityIn "" directory = directory := by
  unfold identityIn
  split
  · next h => exact h.symm
  · exact if_pos rfl

/-- Different directories have different import paths. -/
theorem identityIn_injective (importPath : String) {d e : String}
    (h : identityIn importPath d = identityIn importPath e) : d = e := by
  by_cases hi : importPath = ""
  · rwa [hi, identityIn_empty, identityIn_empty] at h
  -- The root package has the import path itself, which every other one extends.
  have longer : ∀ {d : String}, importPath ≠ importPath ++ "/" ++ d := by
    intro d heq
    have hl := congrArg (fun s => s.toList.length) heq
    simp only [String.toList_append, List.length_append] at hl
    have hslash : "/".toList.length = 1 := rfl
    omega
  unfold identityIn at h
  by_cases hd : d = "" <;> by_cases he : e = ""
  · rw [hd, he]
  · rw [if_pos hd, if_neg he, if_neg hi] at h
    exact absurd h longer
  · rw [if_neg hd, if_pos he, if_neg hi] at h
    exact absurd h.symm longer
  · rw [if_neg hd, if_neg he, if_neg hi, if_neg hi] at h
    have hl := congrArg String.toList h
    rw [String.toList_append, String.toList_append, String.toList_append,
      String.toList_append] at hl
    exact String.toList_inj.1 (List.append_cancel_left hl)

/-! ### One notion of a package -/

section Packages

variable {p q : DeclarationPath} (hp : p.ProperPackages) (hq : q.ProperPackages)

include hp hq

/-- Packages have the same import path only if they have the same directories. -/
theorem packageIdentity_eq_iff (importPath : String) :
    packageIdentity importPath p = packageIdentity importPath q ↔ p.dirs = q.dirs := by
  rw [packageIdentity_eq hp, packageIdentity_eq hq]
  constructor
  · intro same
    exact intercalate_slash_injective hp.dirs hq.dirs (identityIn_injective importPath same)
  · intro same
    rw [same]

namespace DeclarationPath

variable {file : String} (hfile : '/' ∉ file.toList)

include hfile

/-- Files of packages are in the same directory only if the packages are the same. -/
theorem directory_targetInPackage_eq_iff (rootPackage : String) :
    (p.targetInPackage rootPackage file).directory =
        (q.targetInPackage rootPackage file).directory ↔ p.dirs = q.dirs := by
  rw [targetInPackage, targetInPackage, Target.directory_inDirs _ _ hfile,
    Target.directory_inDirs _ _ hfile]
  exact ⟨intercalate_slash_injective hp.dirs hq.dirs, fun same => by rw [same]⟩

omit hq in
theorem located_targetInPackage (rootPackage : String) :
    (p.targetInPackage rootPackage file).Located rootPackage :=
  ⟨p.dirs, file, fun d hd => (hp.dirs d hd).2, hfile, rfl⟩

/-- **The notions of a package agree.** Two paths have the same import path if and only if they have
the same directories, if and only if a file is put under the same name for both, if and only if it
is put into the same directory; and files with the same name belong to the same package. -/
theorem packages_agree (importPath rootPackage : String) :
    (packageIdentity importPath p = packageIdentity importPath q ↔ p.dirs = q.dirs) ∧
    ((p.targetInPackage rootPackage file).filename =
      (q.targetInPackage rootPackage file).filename ↔ p.dirs = q.dirs) ∧
    ((p.targetInPackage rootPackage file).directory =
      (q.targetInPackage rootPackage file).directory ↔ p.dirs = q.dirs) ∧
    ∀ other : String, '/' ∉ other.toList →
      (p.targetInPackage rootPackage file).filename =
        (q.targetInPackage rootPackage other).filename →
      (p.targetInPackage rootPackage file).package =
        (q.targetInPackage rootPackage other).package := by
  have directory := directory_targetInPackage_eq_iff hp hq hfile rootPackage
  refine ⟨packageIdentity_eq_iff hp hq importPath, ⟨fun same => ?_, fun same => ?_⟩, directory,
    fun other hother same => ?_⟩
  · exact directory.1 (Target.directory_congr same)
  · rw [targetInPackage, targetInPackage, same]
  · have located := located_targetInPackage hp hfile rootPackage
    have located' := located_targetInPackage hq hother rootPackage
    rw [located.eq_of_filename located' same]

end DeclarationPath

end Packages

namespace DeclarationPath

/-- A package whose name is written in snake case. -/
def snakeGroups : DeclarationPath :=
  .ofIdentifiers ["billing", "user_groups"] (some "group")

/-- The same package, with its name written in camel case. -/
def camelGroups : DeclarationPath :=
  .ofIdentifiers ["billing", "userGroups"] none

theorem packages_agree_groups :
    snakeGroups.packagePath ≠ camelGroups.packagePath ∧ snakeGroups.dirs = camelGroups.dirs ∧
    snakeGroups.ProperPackages ∧ camelGroups.ProperPackages ∧ '/' ∉ "types.go".toList ∧
    (packageIdentity "acme.dev/sdk" snakeGroups = packageIdentity "acme.dev/sdk" camelGroups ↔
      snakeGroups.dirs = camelGroups.dirs) ∧
    ((snakeGroups.targetInPackage "acme" "types.go").filename =
      (camelGroups.targetInPackage "acme" "types.go").filename ↔
        snakeGroups.dirs = camelGroups.dirs) ∧
    ((snakeGroups.targetInPackage "acme" "types.go").directory =
      (camelGroups.targetInPackage "acme" "types.go").directory ↔
        snakeGroups.dirs = camelGroups.dirs) ∧
    ∀ other : String, '/' ∉ other.toList →
      (snakeGroups.targetInPackage "acme" "types.go").filename =
        (camelGroups.targetInPackage "acme" other).filename →
      (snakeGroups.targetInPackage "acme" "types.go").package =
        (camelGroups.targetInPackage "acme" other).package := by
  have snake : snakeGroups.ProperPackages := by
    unfold ProperPackages IsSegment
    decide +kernel
  have camel : camelGroups.ProperPackages := by
    unfold ProperPackages IsSegment
    decide +kernel
  have file : '/' ∉ "types.go".toList := by decide
  exact ⟨by decide +kernel, by decide +kernel, snake, camel, file,
    packages_agree snake camel file "acme.dev/sdk" "acme"⟩

end DeclarationPath

end SdkLayout
