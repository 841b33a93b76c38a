import SdkLayout.Api.Builder
import SdkLayout.Proofs.Directories
import SdkLayout.Proofs.PlacedFiles

/-!
# Declarations stay in their packages

The file of a declaration lies in the package where it is declared (`Target.LiesIn`): in the
directory of that package, and under its name. This is plain for files that are named after the
path of the declaration itself. Service-scoped placement also puts types into the files of services,
which are named after the paths of the services. It compares directories cut out of file names;
where paths are proper (`Api.ProperPaths`), these determine the packages, so that a type joins a
service only if both are declared in the same package (`Api.TargetOf.liesIn`).

Packages with the same last directory are not the same: `billing/users` and `admin/users` keep their
types apart.
-/

namespace SdkLayout

/-! ### Proper paths -/

namespace DeclarationPath

/-- The innermost package could give a file its name, and the file would stay in its directory. -/
def ProperLast (path : DeclarationPath) : Prop :=
  ∀ n ∈ path.lastPackage?, '/' ∉ n.basename.toList

instance (s : String) : Decidable (IsSegment s) :=
  inferInstanceAs (Decidable (_ ∧ _))

instance (path : DeclarationPath) : Decidable path.ProperPackages :=
  inferInstanceAs (Decidable (∀ n ∈ path.packagePath, IsSegment n.segment))

instance (path : DeclarationPath) : Decidable path.ProperFile :=
  inferInstanceAs (Decidable (∀ n ∈ path.file, '/' ∉ n.basename.toList))

instance (path : DeclarationPath) : Decidable path.ProperLast :=
  inferInstanceAs (Decidable (∀ n ∈ path.lastPackage?, '/' ∉ n.basename.toList))

end DeclarationPath

/-- What the producer of a definition takes care of: packages have proper directories, and names
that files are named after have no slashes. -/
structure Api.ProperPaths (api : Api) : Prop where
  types : ∀ e ∈ api.types.entries, e.2.path.ProperPackages ∧ e.2.path.ProperFile
  services : ∀ e ∈ api.services.entries,
    e.2.path.ProperPackages ∧ e.2.path.ProperFile ∧ e.2.path.ProperLast

instance (api : Api) : Decidable api.ProperPaths :=
  decidable_of_iff
    ((∀ e ∈ api.types.entries, e.2.path.ProperPackages ∧ e.2.path.ProperFile) ∧
      ∀ e ∈ api.services.entries,
        e.2.path.ProperPackages ∧ e.2.path.ProperFile ∧ e.2.path.ProperLast)
    ⟨fun h => ⟨h.1, h.2⟩, fun h => ⟨h.types, h.services⟩⟩

/-! ### The packages of targets -/

/-- A target lies in the package of a path. -/
structure Target.LiesIn (rootPackage : String) (target : Target) (path : DeclarationPath) :
    Prop where
  directory : target.directory = "/".intercalate path.dirs
  package : target.package = path.dirs.getLast?.getD rootPackage

namespace DeclarationPath

variable {path : DeclarationPath} {rootPackage : String}

/-- Without a slash in its name, a file that is put into the package of a path lies there. -/
theorem liesIn_inDirs {file : String} (h : '/' ∉ file.toList) :
    (Target.inDirs path.dirs file rootPackage).LiesIn rootPackage path where
  directory := Target.directory_inDirs _ _ h
  package := Target.package_inDirs ..

theorem slash_not_mem_getD {name : Option Name} (h : ∀ n ∈ name, '/' ∉ n.basename.toList) :
    '/' ∉ ((name.map Name.basename).getD defaultBasename).toList := by
  cases name with
  | none => decide
  | some n => exact h n rfl

theorem ProperFile.target_liesIn (h : path.ProperFile) :
    (path.target rootPackage).LiesIn rootPackage path :=
  liesIn_inDirs (slash_not_mem_sourceFile (slash_not_mem_getD h))

theorem packageFile_liesIn : (path.packageFile rootPackage).LiesIn rootPackage path :=
  liesIn_inDirs (slash_not_mem_sourceFile (by decide))

theorem ProperFile.serviceTarget_liesIn (h : path.ProperFile) (last : path.ProperLast) :
    (path.serviceTarget rootPackage).LiesIn rootPackage path := by
  -- The file is named for the file of the path, else for its innermost package, else by default.
  have proper : ∀ n ∈ path.file.or path.lastPackage?, '/' ∉ n.basename.toList := by
    intro n hn
    rcases Option.or_eq_some_iff.1 hn with hfile | ⟨-, hlast⟩
    · exact h n hfile
    · exact last n hlast
  exact liesIn_inDirs (slash_not_mem_sourceFile (slash_not_mem_getD proper))

end DeclarationPath

namespace Api

variable {api : Api}

theorem ProperPaths.type (proper : api.ProperPaths) {id : TypeId} {t : TypeDeclaration}
    (ht : api.types.get? id = some t) : t.path.ProperPackages ∧ t.path.ProperFile :=
  proper.types (id, t) (Table.get?_eq_some_iff.1 ht)

theorem ProperPaths.service (proper : api.ProperPaths) {id : ServiceId} {s : Service}
    (hs : api.services.get? id = some s) :
    s.path.ProperPackages ∧ s.path.ProperFile ∧ s.path.ProperLast :=
  proper.services (id, s) (Table.get?_eq_some_iff.1 hs)

/-- **Wherever a type may go, it stays in its package.** -/
theorem TargetOf.liesIn (proper : api.ProperPaths) {id : TypeId} {t : TypeDeclaration}
    (ht : api.types.get? id = some t) {target : Target} (h : api.TargetOf t target) :
    target.LiesIn api.rootPackageName t.path := by
  obtain ⟨packages, file⟩ := proper.type ht
  cases h with
  | file => exact file.target_liesIn
  | package => exact DeclarationPath.packageFile_liesIn
  | @service _ s hs same =>
    obtain ⟨packages', file', last'⟩ := proper.service hs
    have own : (t.path.packageFile api.rootPackageName).LiesIn api.rootPackageName t.path :=
      DeclarationPath.packageFile_liesIn
    have theirs : (s.path.serviceTarget api.rootPackageName).LiesIn api.rootPackageName s.path :=
      file'.serviceTarget_liesIn last'
    -- Equal directories come from equal lists of directories.
    have dirs : t.path.dirs = s.path.dirs := by
      refine intercalate_slash_injective packages.dirs packages'.dirs ?_
      rw [← own.directory, same, theirs.directory]
    refine ⟨?_, ?_⟩
    · rw [theirs.directory, dirs]
    · rw [theirs.package, dirs]

/-- The path at which something is declared: that of the type itself, or that of the service which
has the request. -/
def declaredPath? (api : Api) : Placed → Option DeclarationPath
  | .type id => (api.types.get? id).map TypeDeclaration.path
  | .request service _ => (api.services.get? service).map Service.path

section Placed

variable {includeRequests : Bool} {files : List (FileOf Placed)} {f : FileOf Placed}

/-- The file of a type lies in the package of the type. -/
theorem liesIn_of_type_mem (proper : api.ProperPaths)
    (h : api.placeFiles includeRequests = .ok files) (hf : f ∈ files) {id : TypeId}
    (hid : .type id ∈ f.contents) :
    ∃ t, api.types.get? id = some t ∧ f.target.LiesIn api.rootPackageName t.path := by
  obtain ⟨t, ht, target⟩ := targets_of_mem_placeFiles h hf hid
  exact ⟨t, ht, target.liesIn proper ht⟩

/-- The file of a request lies in the package of the service. -/
theorem liesIn_of_request_mem (proper : api.ProperPaths)
    (h : api.placeFiles includeRequests = .ok files) (hf : f ∈ files) {id : ServiceId}
    {endpoint : String} (hid : .request id endpoint ∈ f.contents) :
    ∃ s, api.services.get? id = some s ∧ f.target.LiesIn api.rootPackageName s.path := by
  obtain ⟨s, hs, target⟩ := service_of_mem_placeFiles h hf hid
  obtain ⟨-, file, -⟩ := proper.service hs
  refine ⟨s, hs, ?_⟩
  rw [target]
  exact file.target_liesIn

/-- **Every declaration lies in its own package**, whatever the strategy. In particular no type is
in the file of a service in another package, be it the file of its types or of its requests. -/
theorem placeFiles_liesIn (proper : api.ProperPaths)
    (h : api.placeFiles includeRequests = .ok files) :
    (∀ f ∈ files, ∀ d ∈ f.contents, ∃ path, api.declaredPath? d = some path ∧
      f.target.directory = "/".intercalate path.dirs ∧
      f.target.package = path.dirs.getLast?.getD api.rootPackageName) ∧
    ∀ id t service s, api.types.get? id = some t → api.services.get? service = some s →
      t.path.dirs ≠ s.path.dirs → ∀ f ∈ files, .type id ∈ f.contents →
        f.target.filename ≠ (s.path.serviceTarget api.rootPackageName).filename ∧
        f.target.filename ≠ (s.path.target api.rootPackageName).filename := by
  constructor
  · intro f hf d hd
    cases d with
    | type id =>
      obtain ⟨t, ht, lies⟩ := liesIn_of_type_mem proper h hf hd
      exact ⟨t.path, by rw [declaredPath?, ht, Option.map_some], lies.directory, lies.package⟩
    | request service endpoint =>
      obtain ⟨s, hs, lies⟩ := liesIn_of_request_mem proper h hf hd
      exact ⟨s.path, by rw [declaredPath?, hs, Option.map_some], lies.directory, lies.package⟩
  · intro id t service s ht hs apart f hf hid
    obtain ⟨t', ht', lies⟩ := liesIn_of_type_mem proper h hf hid
    obtain rfl : t = t' := Option.some.inj (ht.symm.trans ht')
    obtain ⟨packages, file, last⟩ := proper.service hs
    -- A file with the same name would be in the same directory.
    have elsewhere : ∀ {target : Target}, target.LiesIn api.rootPackageName s.path →
        f.target.filename ≠ target.filename := by
      intro target theirs same
      refine apart (intercalate_slash_injective (proper.type ht).1.dirs packages.dirs ?_)
      rw [← lies.directory, ← theirs.directory, Target.directory, Target.directory, same]
    exact ⟨elsewhere (file.serviceTarget_liesIn last), elsewhere file.target_liesIn⟩

/-- An API with two packages of the same name, of which one has a service. -/
def homonymousApi : Api :=
  Api.empty (.ofIdentifier "acme")
    |>.addObject "Invoice" (.ofIdentifiers ["billing", "users"] none) []
    |>.addObject "Admin" (.ofIdentifiers ["admin", "users"] none) []
    |>.addObject "Root" .root []
    |>.addService "service_admin_users" (.ofIdentifiers ["admin", "users"] (some "userService"))
      [.withWrapper "create"]
    |>.setTypeUsage [] [("service_admin_users", ["Invoice", "Admin"])]

theorem placeFiles_liesIn_homonymousApi :
    homonymousApi.ProperPaths ∧ ∃ files, homonymousApi.placeFiles true = .ok files ∧
      (∀ f ∈ files, ∀ d ∈ f.contents, ∃ path, homonymousApi.declaredPath? d = some path ∧
        f.target.directory = "/".intercalate path.dirs ∧
        f.target.package = path.dirs.getLast?.getD homonymousApi.rootPackageName) ∧
      ∀ id t service s, homonymousApi.types.get? id = some t →
        homonymousApi.services.get? service = some s → t.path.dirs ≠ s.path.dirs →
        ∀ f ∈ files, .type id ∈ f.contents →
          f.target.filename ≠ (s.path.serviceTarget homonymousApi.rootPackageName).filename ∧
          f.target.filename ≠ (s.path.target homonymousApi.rootPackageName).filename := by
  have proper : homonymousApi.ProperPaths := by decide +kernel
  obtain ⟨files, h⟩ : ∃ files, homonymousApi.placeFiles true = .ok files := ⟨_, rfl⟩
  exact ⟨proper, files, h, placeFiles_liesIn proper h⟩

end Placed

end Api

end SdkLayout
