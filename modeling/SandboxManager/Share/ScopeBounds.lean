import SandboxManager.Share.ComposedPaths

/-! What a configuration may share.

A configuration declares scopes, and shares one directory with a permission. The row that is
written should stay within a scope. It does for the permissions that have a mode, bundle names that are
plain, and a scope that can be composed as it is spelled (`processShareFileInfo_within_iff`). -/
namespace SandboxManager.Share
open Library Policy

/-! ### The rows that are written -/

/-- What a parsed configuration says. -/
structure Configures (root : Json) (scopes : List Json) (fields : ShareFileFields) : Prop where
  read : ∃ shareFiles, root.getObjectItemCaseSensitive (bytes "share_files") = some shareFiles ∧
    shareFiles.isObject = true ∧
    Json.itemsOf (shareFiles.getObjectItemCaseSensitive (bytes "scopes")) = some scopes ∧
    getCStringFromJson shareFiles "sharingOSPath" = some fields.sharingOSPath ∧
    getCStringFromJson shareFiles "sharingOSPermission" = some fields.sharingOSPermission ∧
    getCStringFromJson shareFiles "sharingOSSubpath" = some fields.sharingOSSubPath

/-- A configuration that no check refuses. -/
structure ValidShare (scopes : List Json) (fields : ShareFileFields) (bundleName : Bytes) : Prop where
  subPath : validateSharingOSSubPath fields.sharingOSSubPath = .SANDBOX_MANAGER_OK
  permitted : validateSharingOSPathAndPermission scopes fields.sharingOSPath
    fields.sharingOSPermission = .SANDBOX_MANAGER_OK
  composable : Composable fields.sharingOSPath
  bundle : bundleName ≠ []

/-- A path at or below a directory. -/
def AtOrUnder (directory path : Bytes) : Prop :=
  path = directory ∨ directory ++ [slash] <+: path

/-- A scope of the configuration covers the row, and the row's path is plain. -/
structure WithinScopes (scopes : List Json) (bundleName : Bytes) (row : SharedFileInfo) : Prop where
  covered : ∃ scope ∈ scopes, ∃ path permission, scopeFields scope = some (path, permission) ∧
    pathCompose path bundleName ≠ [] ∧ AtOrUnder (pathCompose path bundleName) row.sharedOsPath ∧
    row.sharedMode &&& permissionToMode permission = row.sharedMode
  mode : row.sharedMode ≠ 0
  plain : ∀ w ∈ components row.sharedOsPath, PlainName w

/-- The shared directory lies in a scope that can be composed and grants the permission. -/
def InScope (scopes : List Json) (fields : ShareFileFields) : Prop :=
  ∃ scope ∈ scopes, ∃ path permission, scopeFields scope = some (path, permission) ∧
    Composable path ∧
    elNames path <+: elNames fields.sharingOSPath ++ components fields.sharingOSSubPath ∧
    (permission = fields.sharingOSPermission ∨ permission = bytes "r+w")

/-- When a valid configuration stays within its scopes. -/
structure Bounded (scopes : List Json) (fields : ShareFileFields) (bundleName : Bytes) : Prop where
  permission : fields.sharingOSPermission = bytes "r" ∨ fields.sharingOSPermission = bytes "r+w"
  bundle : ∀ w ∈ bundleName.splitOn slash, PlainName w
  /-- The scope it is found under may be a spelling with a name too many. -/
  spelling : ∀ scope ∈ scopes.find? (isScopeOf fields.sharingOSPath),
    ∀ path ∈ getCStringFromJson scope "path", LongSpelling fields.sharingOSPath path →
      InScope scopes fields

section
variable {root : Json} {scopes : List Json} {fields : ShareFileFields} {bundleName : Bytes}
  {userId tokenId : UInt32}

theorem pathCompose_ne_nil_iff {path name : Bytes} :
    pathCompose path name ≠ [] ↔ Composable path ∧ name ≠ [] := by
  by_cases hname : name = []
  · refine iff_of_false (fun h => h ?_) fun h => h.2 hname
    rw [pathCompose, if_pos (Or.inr hname)]
  · rw [ne_eq, pathCompose_eq_nil_iff hname, not_not, and_iff_left hname]

theorem processShareFileInfo_valid (env : ShareDbEnv) (t : SharedFileTable)
    (hconf : Configures root scopes fields) (hvalid : ValidShare scopes fields bundleName)
    (hadd : env.addOk = true) :
    (processShareFileInfo env t root bundleName userId tokenId).1 =
      t.insertReplace (sharedFileRow fields bundleName userId tokenId) := by
  obtain ⟨shareFiles, hfiles, hobject, hscopes, hpath, hpermission, hsub⟩ := hconf.read
  have hcomposed := pathCompose_ne_nil_iff.mpr ⟨hvalid.composable, hvalid.bundle⟩
  simp only [processShareFileInfo, hfiles, hobject, hscopes, hpath, hpermission, hsub,
    hvalid.subPath, hvalid.permitted, writeShareFileToDb, hcomposed, hadd, Bool.not_true,
    Bool.false_eq_true, if_false, ne_eq, not_true_eq_false]

/-- A row that was not there before is the row of a valid configuration. -/
theorem eq_row_of_mem_processShareFileInfo {env : ShareDbEnv} {t : SharedFileTable}
    {row : SharedFileInfo}
    (hrow : row ∈ (processShareFileInfo env t root bundleName userId tokenId).1) (hnew : row ∉ t) :
    ∃ scopes fields, Configures root scopes fields ∧ ValidShare scopes fields bundleName ∧
      row = sharedFileRow fields bundleName userId tokenId := by
  unfold processShareFileInfo at hrow
  split at hrow
  · exact absurd hrow hnew
  case h_2 shareFiles hfiles =>
    split at hrow
    · exact absurd hrow hnew
    case isFalse hobject =>
      split at hrow
      · exact absurd hrow hnew
      case h_2 scopes hscopes =>
        split at hrow
        · exact absurd hrow hnew
        case h_2 path hpath =>
          split at hrow
          case h_2 => exact absurd hrow hnew
          case h_1 permission sub hpermission hsub =>
            split at hrow
            · exact absurd hrow hnew
            case isFalse hsubValid =>
              split at hrow
              · exact absurd hrow hnew
              case isFalse hpermitted =>
                unfold writeShareFileToDb at hrow
                split at hrow
                · exact absurd hrow hnew
                case isFalse hcomposed =>
                  split at hrow
                  · exact absurd hrow hnew
                  · have hcompose := pathCompose_ne_nil_iff.mp hcomposed
                    refine ⟨scopes, _, ⟨shareFiles, hfiles, by simpa using hobject, hscopes, hpath,
                      hpermission, hsub⟩, ⟨not_not.mp hsubValid, not_not.mp hpermitted, hcompose.1,
                      hcompose.2⟩, ?_⟩
                    exact (KeyedTable.mem_insertReplace.mp hrow).elim id fun h => absurd h.1 hnew

/-! ### Paths of a bundle -/

variable {path name : Bytes}

theorem pathCompose_eq_split (h : Composable path) (hname : name ≠ []) :
    pathCompose path name = absolute slash
      (appdataNames ++ (elNames path).take 2 ++ name.splitOn slash ++ (elNames path).drop 2) := by
  rw [pathCompose_eq h hname]
  simp only [absolute_append, absolute_splitOn, absolute_cons, List.append_assoc, List.cons_append]

/-- The components of a shared path. -/
theorem components_shared (h : Composable path) (hname : name ≠ []) {sub : Bytes}
    (hsub : sub = [] ∨ sub.head? = some slash) :
    components (pathCompose path name ++ sub) =
      appdataNames ++ (elNames path).take 2 ++ name.splitOn slash ++
        ((elNames path).drop 2 ++ components sub) := by
  have hfree : ∀ w ∈ appdataNames ++ (elNames path).take 2 ++ name.splitOn slash ++
      (elNames path).drop 2, slash ∉ w := by
    have hnames := mem_elNames_plain h
    intro w hw
    simp only [List.mem_append] at hw
    rcases hw with ((hw | hw) | hw) | hw
    · exact (plain_appdataNames w hw).2
    · exact (hnames w (List.mem_of_mem_take hw)).2
    · exact notMem_of_mem_splitOn slash hw
    · exact (hnames w (List.mem_of_mem_drop hw)).2
  rw [components_append hsub, pathCompose_eq_split h hname, components_absolute hfree,
    List.append_assoc]

theorem head?_subPath {sub : Bytes} (h : validateSharingOSSubPath sub = .SANDBOX_MANAGER_OK) :
    sub = [] ∨ PlainPath sub := by
  unfold validateSharingOSSubPath at h
  split at h
  · exact absurd h (by decide)
  · split at h
    case isTrue hnil => exact Or.inl hnil
    case isFalse =>
      split at h
      · exact absurd h (by decide)
      case isFalse hsecure => exact Or.inr (isPathSecure_iff.mp (by simpa using hsecure)).1

theorem two_le_length_elNames (h : Composable path) : 2 ≤ (elNames path).length := by
  obtain ⟨el, sub, rest, -, hnames⟩ := exists_elNames h
  rw [hnames]
  exact Nat.le_add_left 2 rest.length

/-- One shared path lies under another directory of the bundle when the names say so. -/
theorem atOrUnder_iff {directory : Bytes} (hdirectory : Composable directory) (h : Composable path)
    (hname : name ≠ []) {sub : Bytes} (hsub : sub = [] ∨ PlainPath sub) :
    AtOrUnder (pathCompose directory name) (pathCompose path name ++ sub) ↔
      elNames directory <+: elNames path ++ components sub := by
  have hsubHead : sub = [] ∨ sub.head? = some slash := hsub.imp_right PlainPath.absolute
  have htwo := two_le_length_elNames h
  have htwo' := two_le_length_elNames hdirectory
  have hpath := components_shared h hname hsubHead
  have hdir : components (pathCompose directory name) = appdataNames ++
      (elNames directory).take 2 ++ name.splitOn slash ++ (elNames directory).drop 2 := by
    have hnil : ([] : Bytes) = [] ∨ ([] : Bytes).head? = some slash := Or.inl rfl
    simpa [components] using components_shared hdirectory hname hnil
  constructor
  · intro hunder
    have hcomponents : components (pathCompose directory name) <+:
        components (pathCompose path name ++ sub) := by
      rcases hunder with heq | ⟨rest, heq⟩
      · rw [heq]
      · rw [← heq, List.append_assoc, List.singleton_append, components_append (Or.inr rfl)]
        exact List.prefix_append _ _
    rw [hdir, hpath] at hcomponents
    have htake : (elNames directory).take 2 = (elNames path).take 2 := by
      obtain ⟨rest, hrest⟩ := hcomponents
      simp only [List.append_assoc] at hrest
      have hrest' := List.append_cancel_left hrest
      exact (List.append_inj hrest' (by simp [htwo, htwo'])).1
    rw [htake] at hcomponents
    have hdrop := (List.prefix_append_right_inj _).mp hcomponents
    rw [← List.take_append_drop 2 (elNames directory), htake,
      ← List.take_append_drop 2 (elNames path), List.append_assoc]
    simpa using hdrop
  · intro hprefix
    obtain ⟨tail, htail⟩ := hprefix
    have htake : (elNames directory).take 2 = (elNames path).take 2 := by
      have := congrArg (List.take 2) htail
      rwa [List.take_append_of_le_length htwo', List.take_append_of_le_length htwo] at this
    have hdrop : (elNames directory).drop 2 ++ tail = (elNames path).drop 2 ++ components sub := by
      have := congrArg (List.drop 2) htail
      rwa [List.drop_append_of_le_length htwo', List.drop_append_of_le_length htwo] at this
    have hsubEq : absolute slash (components sub) = sub := by
      rcases hsub with rfl | hplain
      · simp [components]
      · exact hplain.eq_absolute
    have hshared : pathCompose path name ++ sub =
        pathCompose directory name ++ absolute slash tail := by
      rw [pathCompose_eq_split h hname, pathCompose_eq_split hdirectory hname, htake]
      conv_lhs => rw [← hsubEq]
      rw [← absolute_append, ← absolute_append]
      simp only [List.append_assoc, hdrop]
    rw [AtOrUnder, hshared]
    cases tail with
    | nil => exact Or.inl (by simp)
    | cons w rest => exact Or.inr ⟨w ++ absolute slash rest, by simp⟩

/-! ### Within the scopes -/

theorem permissionToMode_ne_zero_iff {permission : Bytes} :
    permissionToMode permission ≠ 0 ↔ permission = bytes "r" ∨ permission = bytes "r+w" := by
  unfold permissionToMode
  by_cases hr : permission = bytes "r"
  · rw [if_pos hr]
    exact iff_of_true (by decide) (Or.inl hr)
  · rw [if_neg hr]
    by_cases hrw : permission = bytes "r+w"
    · rw [if_pos hrw]
      exact iff_of_true (by decide) (Or.inr hrw)
    · rw [if_neg hrw]
      exact iff_of_false (by simp) fun h => h.elim hr hrw

/-- A mode is contained in that of its own permission, and in all modes together. -/
theorem permissionToMode_and_iff {permission other : Bytes}
    (h : permission = bytes "r" ∨ permission = bytes "r+w") :
    permissionToMode permission &&& permissionToMode other = permissionToMode permission ↔
      other = permission ∨ other = bytes "r+w" := by
  constructor
  · intro hand
    by_cases hother : other = bytes "r" ∨ other = bytes "r+w"
    · rcases h with rfl | rfl
      · exact hother
      · refine Or.inr (hother.resolve_left fun hr => ?_)
        rw [hr] at hand
        exact absurd hand (by decide)
    · rw [not_not.mp (mt permissionToMode_ne_zero_iff.mp hother), UInt32.and_zero] at hand
      exact absurd hand.symm (permissionToMode_ne_zero_iff.mpr h)
  · intro hother
    rcases hother with rfl | rfl
    · rw [UInt32.and_self]
    · rcases h with rfl | rfl <;> decide

/-- The scope a valid configuration is found under. -/
theorem exists_scope_of_permitted
    (h : validateSharingOSPathAndPermission scopes fields.sharingOSPath
      fields.sharingOSPermission = .SANDBOX_MANAGER_OK) :
    ∃ scope path permission, scopes.find? (isScopeOf fields.sharingOSPath) = some scope ∧
      getCStringFromJson scope "path" = some path ∧ scopeFields scope = some (path, permission) ∧
      normalizeBasePath path = normalizeBasePath fields.sharingOSPath ∧
      (permission = fields.sharingOSPermission ∨
        permission = bytes "r+w" ∧ fields.sharingOSPermission = bytes "r") := by
  unfold validateSharingOSPathAndPermission at h
  split at h
  · exact absurd h (by decide)
  case h_2 scope hfind =>
    split at h
    · exact absurd h (by decide)
    case h_2 permission hpermission =>
      split at h
      case isFalse => exact absurd h (by decide)
      case isTrue hgrants =>
        have hscope := List.find?_some hfind
        rw [isScopeOf, Bool.and_eq_true] at hscope
        obtain ⟨hobject, hpath⟩ := hscope
        cases hscopePath : getCStringFromJson scope "path" with
        | none =>
          rw [hscopePath] at hpath
          exact absurd hpath Bool.false_ne_true
        | some path =>
          rw [hscopePath, Option.any_some, decide_eq_true_eq] at hpath
          refine ⟨scope, path, permission, hfind, hscopePath, ?_, hpath, hgrants⟩
          unfold getCStringFromJson at hscopePath hpermission
          rw [scopeFields, hobject, hscopePath, hpermission]
          rfl

theorem not_composable_of_longSpelling {p q : Bytes} (h : LongSpelling p q) : ¬ Composable q := by
  obtain ⟨-, hbase, hlength, rfl⟩ := h
  intro hq
  exact absurd ((composable_el2_iff hbase).mp hq).2 (by rw [hlength]; exact lt_irrefl _)

theorem withinScopes_iff (hvalid : ValidShare scopes fields bundleName) :
    WithinScopes scopes bundleName (sharedFileRow fields bundleName userId tokenId) ↔
      Bounded scopes fields bundleName := by
  have hsub := head?_subPath hvalid.subPath
  have hcomponents := components_shared hvalid.composable hvalid.bundle (hsub.imp_right PlainPath.absolute)
  have hunder : ∀ {directory}, Composable directory →
      (AtOrUnder (pathCompose directory bundleName)
          (sharedFileRow fields bundleName userId tokenId).sharedOsPath ↔
        elNames directory <+: elNames fields.sharingOSPath ++ components fields.sharingOSSubPath) :=
    fun h => atOrUnder_iff h hvalid.composable hvalid.bundle hsub
  constructor
  · intro h
    have hpermission := permissionToMode_ne_zero_iff.mp h.mode
    refine ⟨hpermission, fun w hw => h.plain w ?_, fun _ _ _ _ _ => ?_⟩
    · show w ∈ components (pathCompose _ _ ++ _)
      rw [hcomponents]
      simp only [List.mem_append]
      exact Or.inl (Or.inr hw)
    · obtain ⟨scope, hscope, path, permission, hfields, hcomposed, hat, hmode⟩ := h.covered
      have hcompose := (pathCompose_ne_nil_iff.mp hcomposed).1
      exact ⟨scope, hscope, path, permission, hfields, hcompose, (hunder hcompose).mp hat,
        (permissionToMode_and_iff hpermission).mp hmode⟩
  · intro h
    have hin : InScope scopes fields := by
      obtain ⟨scope, path, permission, hfind, hpath, hfields, hsame, hgrants⟩ :=
        exists_scope_of_permitted hvalid.permitted
      by_cases hlong : LongSpelling fields.sharingOSPath path
      · exact h.spelling scope hfind path hpath hlong
      · have hscope : Composable path := (composable_iff_of_spelling hsame
          (fun hno => not_composable_of_longSpelling hno hvalid.composable) hlong).mpr hvalid.composable
        refine ⟨scope, List.mem_of_find?_eq_some hfind, path, permission, hfields, hscope, ?_,
          hgrants.imp_right And.left⟩
        rw [elNames, elNames, hsame]
        exact List.prefix_append _ _
    refine ⟨?_, permissionToMode_ne_zero_iff.mpr h.permission, fun w hw => ?_⟩
    · obtain ⟨scope, hscope, path, permission, hfields, hcompose, hprefix, hgrants⟩ := hin
      exact ⟨scope, hscope, path, permission, hfields,
        pathCompose_ne_nil_iff.mpr ⟨hcompose, hvalid.bundle⟩, (hunder hcompose).mpr hprefix,
        (permissionToMode_and_iff h.permission).mpr hgrants⟩
    · have hw' : w ∈ components (pathCompose fields.sharingOSPath bundleName ++
          fields.sharingOSSubPath) := hw
      have hnames := mem_elNames_plain hvalid.composable
      rw [hcomponents] at hw'
      simp only [List.mem_append] at hw'
      rcases hw' with ((hw | hw) | hw) | hw | hw
      · exact (plain_appdataNames w hw).1
      · exact (hnames w (List.mem_of_mem_take hw)).1
      · exact h.bundle w hw
      · exact (hnames w (List.mem_of_mem_drop hw)).1
      · rcases hsub with hnil | hplain
        · simp [hnil, components] at hw
        · exact hplain.plain w hw

theorem Configures.scopes_eq {scopes' : List Json} {fields' : ShareFileFields}
    (h : Configures root scopes fields) (h' : Configures root scopes' fields') :
    scopes = scopes' := by
  obtain ⟨shareFiles, hfiles, -, hscopes, -⟩ := h.read
  obtain ⟨shareFiles', hfiles', -, hscopes', -⟩ := h'.read
  rw [hfiles, Option.some.injEq] at hfiles'
  rw [← hfiles', hscopes, Option.some.injEq] at hscopes'
  exact hscopes'

/-- A database that takes every row. -/
def takingEnv : ShareDbEnv := { cJSONParse := fun _ => none, addOk := true, removeOk := true }

theorem mem_processShareFileInfo_taking (hconf : Configures root scopes fields)
    (hvalid : ValidShare scopes fields bundleName) :
    sharedFileRow fields bundleName userId tokenId ∈
      (processShareFileInfo takingEnv KeyedTable.empty root bundleName userId tokenId).1 := by
  rw [processShareFileInfo_valid takingEnv KeyedTable.empty hconf hvalid rfl]
  exact KeyedTable.mem_insertReplace.mpr (Or.inl rfl)

/-- **A written row stays within the scopes** exactly if the configuration, when it is valid, is
bounded. -/
theorem processShareFileInfo_within_iff (root : Json) (bundleName : Bytes) (userId tokenId : UInt32) :
    (∀ (env : ShareDbEnv) (t : SharedFileTable) (row : SharedFileInfo),
        row ∈ (processShareFileInfo env t root bundleName userId tokenId).1 → row ∉ t →
        ∃ scopes fields, Configures root scopes fields ∧ WithinScopes scopes bundleName row) ↔
      ∀ scopes fields, Configures root scopes fields → ValidShare scopes fields bundleName →
        Bounded scopes fields bundleName := by
  constructor
  · intro h scopes fields hconf hvalid
    obtain ⟨scopes', fields', hconf', hwithin⟩ := h takingEnv KeyedTable.empty _
      (mem_processShareFileInfo_taking hconf hvalid) (KeyedTable.not_mem_empty _)
    rw [← hconf.scopes_eq hconf'] at hwithin
    exact (withinScopes_iff hvalid).mp hwithin
  · intro h env t row hrow hnew
    obtain ⟨scopes, fields, hconf, hvalid, rfl⟩ := eq_row_of_mem_processShareFileInfo hrow hnew
    exact ⟨scopes, fields, hconf, (withinScopes_iff hvalid).mpr (h scopes fields hconf hvalid)⟩

end

/-! ### A permission without a mode -/

def unknownFields : ShareFileFields where
  sharingOSPath := bytes "/base/files"
  sharingOSSubPath := []
  sharingOSPermission := bytes "x"

def unknownScopes : List Json :=
  [.object [(bytes "path", .string (bytes "/base/files")), (bytes "permission", .string (bytes "x"))]]

def unknownRoot : Json :=
  .object [(bytes "share_files", .object
    [(bytes "scopes", .array unknownScopes),
      (bytes "sharingOSPath", .string unknownFields.sharingOSPath),
      (bytes "sharingOSSubpath", .string unknownFields.sharingOSSubPath),
      (bytes "sharingOSPermission", .string unknownFields.sharingOSPermission)])]

theorem processShareFileInfo_not_within :
    ¬ ∀ (root : Json) (bundleName : Bytes) (userId tokenId : UInt32) (env : ShareDbEnv)
      (t : SharedFileTable) (row : SharedFileInfo),
      row ∈ (processShareFileInfo env t root bundleName userId tokenId).1 → row ∉ t →
      ∃ scopes fields, Configures root scopes fields ∧ WithinScopes scopes bundleName row := by
  intro h
  have hconf : Configures unknownRoot unknownScopes unknownFields :=
    ⟨_, rfl, rfl, rfl, by decide +kernel, by decide +kernel, by decide +kernel⟩
  have hsecure := isPathSecure_iff.mp (by decide +kernel : isPathSecure (bytes "/base/files") = true)
  have hvalid : ValidShare unknownScopes unknownFields (bytes "app") :=
    ⟨by decide +kernel, by decide +kernel,
      ⟨hsecure.1, hsecure.2, by decide +kernel, DEFAULT_EL, by decide, by decide +kernel⟩, by decide⟩
  obtain ⟨scopes, fields, -, hwithin⟩ := h unknownRoot (bytes "app") 100 1 takingEnv KeyedTable.empty _
    (mem_processShareFileInfo_taking hconf hvalid) (KeyedTable.not_mem_empty _)
  exact hwithin.mode (by decide +kernel)

end SandboxManager.Share
