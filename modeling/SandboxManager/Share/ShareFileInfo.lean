import SandboxManager.Share.ShareMap

/-! The directories shared with other systems (`share_files.cpp`).

A token has at most one such directory, a row of `shared_file_info_table`, whose primary key the
token is. `SetShareFileInfo`, `UpdateShareFileInfo` and `UnsetShareFileInfo` keep the table after
the share configuration of the token's bundle, a JSON text. After an update the row should be the
one the configuration describes, and none after one that fails. That holds in a run exactly if
whatever an update leaves alone was not there before (`shareRun_follows_iff`). -/
namespace SandboxManager.Share
open Library Policy

structure SharedFileInfo where
  tokenId : UInt32
  bundleName : Bytes
  userId : UInt32
  sharedOsPath : Bytes
  sharedMode : UInt32
deriving DecidableEq, Repr

abbrev SharedFileTable := KeyedTable SharedFileInfo.tokenId

structure ShareDbEnv where
  cJSONParse : Bytes → Option Json
  addOk : Bool
  removeOk : Bool

def MAX_SHARED_OS_SUB_PATH_LENGTH : Nat := 32

structure ShareFileFields where
  sharingOSPath : Bytes
  sharingOSSubPath : Bytes
  sharingOSPermission : Bytes

/-! ### What is asked of a configuration -/

def checkShareFileInfoParams (bundleName : Bytes) (tokenId : UInt32) : ErrCode :=
  if bundleName = [] then .INVALID_PARAMTER
  else if tokenId = 0 then .INVALID_PARAMTER
  else .SANDBOX_MANAGER_OK

def checkParamsAndCfginfo (bundleName : Bytes) (tokenId : UInt32) (cfginfo : Bytes) : ErrCode :=
  if checkShareFileInfoParams bundleName tokenId ≠ .SANDBOX_MANAGER_OK then
    checkShareFileInfoParams bundleName tokenId
  else if cfginfo.length > MAX_JSON_SIZE then .INVALID_PARAMTER
  else .SANDBOX_MANAGER_OK

/-- `GetCStringFromJson`. -/
def getCStringFromJson (object : Json) (key : String) : Option Bytes :=
  Json.stringOf (object.getObjectItemCaseSensitive (bytes key))

/-- `/base/test` and `/el2/base/test` are the same directory. -/
def normalizeBasePath (path : Bytes) : Bytes :=
  if (bytes "/base/").isPrefixOf path then bytes "/el2" ++ path else path

/-- The loop's scope: the first with the path. -/
def isScopeOf (sharingOSPath : Bytes) (scope : Json) : Bool :=
  scope.isObject && (getCStringFromJson scope "path").any fun scopePath =>
    normalizeBasePath scopePath = normalizeBasePath sharingOSPath

def validateSharingOSPathAndPermission (scopes : List Json)
    (sharingOSPath sharingOSPermission : Bytes) : ErrCode :=
  match scopes.find? (isScopeOf sharingOSPath) with
  | none => .INVALID_PARAMTER
  | some scope =>
    match getCStringFromJson scope "permission" with
    | none => .INVALID_PARAMTER
    | some scopePermission =>
      if scopePermission = sharingOSPermission ∨
          (scopePermission = bytes "r+w" ∧ sharingOSPermission = bytes "r")
      then .SANDBOX_MANAGER_OK
      else .INVALID_PARAMTER

def validateSharingOSSubPath (sharingOSSubPath : Bytes) : ErrCode :=
  if sharingOSSubPath.length > MAX_SHARED_OS_SUB_PATH_LENGTH then .INVALID_PARAMTER
  else if sharingOSSubPath = [] then .SANDBOX_MANAGER_OK
  else if !isPathSecure sharingOSSubPath then .INVALID_PARAMTER
  else .SANDBOX_MANAGER_OK

/-! ### The three calls -/

/-- The row of a configuration's fields. -/
def sharedFileRow (fields : ShareFileFields) (bundleName : Bytes) (userId tokenId : UInt32) :
    SharedFileInfo where
  tokenId
  bundleName
  userId
  sharedOsPath := pathCompose fields.sharingOSPath bundleName ++ fields.sharingOSSubPath
  sharedMode := permissionToMode fields.sharingOSPermission

section
variable (env : ShareDbEnv) (t : SharedFileTable)

def writeShareFileToDb (fields : ShareFileFields) (bundleName : Bytes) (userId tokenId : UInt32) :
    SharedFileTable × ErrCode :=
  if pathCompose fields.sharingOSPath bundleName = [] then (t, .INVALID_PARAMTER)
  else if !env.addOk then (t, .SANDBOX_MANAGER_DB_ERR)
  else (t.insertReplace (sharedFileRow fields bundleName userId tokenId), .SANDBOX_MANAGER_OK)

def processShareFileInfo (root : Json) (bundleName : Bytes) (userId tokenId : UInt32) :
    SharedFileTable × ErrCode :=
  match root.getObjectItemCaseSensitive (bytes "share_files") with
  | none => (t, .SANDBOX_MANAGER_OK)
  | some shareFiles =>
    if !shareFiles.isObject then (t, .SANDBOX_MANAGER_OK)
    else
      match Json.itemsOf (shareFiles.getObjectItemCaseSensitive (bytes "scopes")) with
      | none => (t, .INVALID_PARAMTER)
      | some scopes =>
        match getCStringFromJson shareFiles "sharingOSPath" with
        | none => (t, .SANDBOX_MANAGER_OK)
        | some sharingOSPath =>
          match getCStringFromJson shareFiles "sharingOSPermission",
            getCStringFromJson shareFiles "sharingOSSubpath" with
          | some sharingOSPermission, some sharingOSSubPath =>
            if validateSharingOSSubPath sharingOSSubPath ≠ .SANDBOX_MANAGER_OK then
              (t, validateSharingOSSubPath sharingOSSubPath)
            else if validateSharingOSPathAndPermission scopes sharingOSPath sharingOSPermission ≠
                .SANDBOX_MANAGER_OK then
              (t, validateSharingOSPathAndPermission scopes sharingOSPath sharingOSPermission)
            else
              writeShareFileToDb env t { sharingOSPath, sharingOSSubPath, sharingOSPermission }
                bundleName userId tokenId
          | _, _ => (t, .INVALID_PARAMTER)

def setShareFileInfo (cfginfo bundleName : Bytes) (userId tokenId : UInt32) :
    SharedFileTable × ErrCode :=
  if cfginfo = [] then (t, .SANDBOX_MANAGER_OK)
  else if checkParamsAndCfginfo bundleName tokenId cfginfo ≠ .SANDBOX_MANAGER_OK then
    (t, checkParamsAndCfginfo bundleName tokenId cfginfo)
  else
    match env.cJSONParse (cStr cfginfo) with
    | none => (t, .INVALID_PARAMTER)
    | some root => processShareFileInfo env t root bundleName userId tokenId

def unsetShareFileInfo (tokenId : UInt32) (bundleName : Bytes) : SharedFileTable × ErrCode :=
  if checkShareFileInfoParams bundleName tokenId ≠ .SANDBOX_MANAGER_OK then
    (t, checkShareFileInfoParams bundleName tokenId)
  else if !env.removeOk then (t, .SANDBOX_MANAGER_DB_ERR)
  else (t.delete fun row => row.tokenId = tokenId, .SANDBOX_MANAGER_OK)

/-- Only a configuration that was parsed and then refused takes the old row with it. -/
def updateShareFileInfo (cfginfo bundleName : Bytes) (userId tokenId : UInt32) :
    SharedFileTable × ErrCode :=
  if cfginfo = [] then unsetShareFileInfo env t tokenId bundleName
  else if checkParamsAndCfginfo bundleName tokenId cfginfo ≠ .SANDBOX_MANAGER_OK then
    (t, checkParamsAndCfginfo bundleName tokenId cfginfo)
  else
    match env.cJSONParse (cStr cfginfo) with
    | none => (t, .INVALID_PARAMTER)
    | some root =>
      let (t', ret) := processShareFileInfo env t root bundleName userId tokenId
      if ret ≠ .SANDBOX_MANAGER_OK then ((unsetShareFileInfo env t' tokenId bundleName).1, ret)
      else (t', ret)

/-! ### What an update owes -/

inductive ShareFileCall where
  | set (cfginfo bundleName : Bytes) (userId tokenId : UInt32)
  | update (cfginfo bundleName : Bytes) (userId tokenId : UInt32)
  | unset (tokenId : UInt32) (bundleName : Bytes)

def ShareFileCall.run : ShareFileCall → SharedFileTable × ErrCode
  | set cfginfo bundleName userId tokenId => setShareFileInfo env t cfginfo bundleName userId tokenId
  | update cfginfo bundleName userId tokenId =>
    updateShareFileInfo env t cfginfo bundleName userId tokenId
  | unset tokenId bundleName => unsetShareFileInfo env t tokenId bundleName

def ShareFileCall.tokenId : ShareFileCall → UInt32
  | set _ _ _ tokenId => tokenId
  | update _ _ _ tokenId => tokenId
  | unset tokenId _ => tokenId

/-- The record of a parsed configuration that shares a directory. -/
def recordOf (root : Json) (bundleName : Bytes) (userId tokenId : UInt32) : Option SharedFileInfo := do
  let shareFiles ← root.getObjectItemCaseSensitive (bytes "share_files")
  let sharingOSPath ← getCStringFromJson shareFiles "sharingOSPath"
  let sharingOSPermission ← getCStringFromJson shareFiles "sharingOSPermission"
  let sharingOSSubPath ← getCStringFromJson shareFiles "sharingOSSubpath"
  some (sharedFileRow { sharingOSPath, sharingOSSubPath, sharingOSPermission } bundleName userId tokenId)

def describedRecord (cfginfo bundleName : Bytes) (userId tokenId : UInt32) : Option SharedFileInfo :=
  if cfginfo = [] then none
  else (env.cJSONParse (cStr cfginfo)).bind fun root => recordOf root bundleName userId tokenId

/-- The row of a token is the record after a success, and gone after a failure. -/
structure Follows (record : Option SharedFileInfo) (tokenId : UInt32)
    (outcome : SharedFileTable × ErrCode) : Prop where
  installed : outcome.2 = .SANDBOX_MANAGER_OK → outcome.1.row? tokenId = record
  removed : outcome.2 ≠ .SANDBOX_MANAGER_OK → outcome.1.row? tokenId = none

/-- No call touches a row of another token, and an update follows its configuration. -/
structure StepFollows (call : ShareFileCall) : Prop where
  others : ∀ other, other ≠ call.tokenId → (call.run env t).1.row? other = t.row? other
  updated : ∀ cfginfo bundleName userId tokenId, call = .update cfginfo bundleName userId tokenId →
    Follows (describedRecord env cfginfo bundleName userId tokenId) tokenId (call.run env t)

def RunFollows : SharedFileTable → List ShareFileCall → Prop
  | _, [] => True
  | t, call :: rest => StepFollows env t call ∧ RunFollows (call.run env t).1 rest

/-! ### What an update leaves alone -/

/-- A parsed configuration that is passed over: it has no object of shared files, or an object with
scopes and no directory. -/
def skips (root : Json) : Bool :=
  (root.getObjectItemCaseSensitive (bytes "share_files")).all fun shareFiles =>
    !shareFiles.isObject ||
      (Json.itemsOf (shareFiles.getObjectItemCaseSensitive (bytes "scopes"))).isSome &&
        (getCStringFromJson shareFiles "sharingOSPath").isNone

/-- The parameters are valid, and the configuration is empty, or it is parsed and not passed over. -/
def settles (cfginfo bundleName : Bytes) (tokenId : UInt32) : Bool :=
  decide (bundleName ≠ []) && decide (tokenId ≠ 0) &&
    (decide (cfginfo = []) || decide (cfginfo.length ≤ MAX_JSON_SIZE) &&
      (env.cJSONParse (cStr cfginfo)).any fun root => !skips root)

/-- Each update of a run settles its token's row, or there was none. -/
def RunSettles : SharedFileTable → List ShareFileCall → Prop
  | _, [] => True
  | t, call :: rest =>
    (∀ cfginfo bundleName userId tokenId, call = .update cfginfo bundleName userId tokenId →
      t.row? tokenId = none ∨ settles env cfginfo bundleName tokenId = true) ∧
      RunSettles (call.run env t).1 rest

end

/-! ### The cases of a call -/

section
variable {env : ShareDbEnv} {t : SharedFileTable} {cfginfo bundleName : Bytes}
  {userId tokenId : UInt32}

theorem checkShareFileInfoParams_eq_ok_iff :
    checkShareFileInfoParams bundleName tokenId = .SANDBOX_MANAGER_OK ↔
      bundleName ≠ [] ∧ tokenId ≠ 0 := by
  unfold checkShareFileInfoParams
  split
  case isTrue hbundle => exact iff_of_false (by decide) fun h => h.1 hbundle
  case isFalse hbundle =>
    split
    case isTrue htoken => exact iff_of_false (by decide) fun h => h.2 htoken
    case isFalse htoken => exact iff_of_true rfl ⟨hbundle, htoken⟩

theorem checkParamsAndCfginfo_eq_ok_iff :
    checkParamsAndCfginfo bundleName tokenId cfginfo = .SANDBOX_MANAGER_OK ↔
      (bundleName ≠ [] ∧ tokenId ≠ 0) ∧ cfginfo.length ≤ MAX_JSON_SIZE := by
  rw [← checkShareFileInfoParams_eq_ok_iff]
  unfold checkParamsAndCfginfo
  split
  case isTrue hparams => exact iff_of_false hparams fun h => hparams h.1
  case isFalse hparams =>
    split
    case isTrue hsize => exact iff_of_false (by decide) fun h => Nat.not_lt.mpr h.2 hsize
    case isFalse hsize => exact iff_of_true rfl ⟨not_not.mp hparams, Nat.not_lt.mp hsize⟩

theorem recordOf_skips {root : Json} (h : skips root = true) :
    recordOf root bundleName userId tokenId = none := by
  unfold skips at h
  unfold recordOf
  cases hfiles : root.getObjectItemCaseSensitive (bytes "share_files") with
  | none => rfl
  | some shareFiles =>
    rw [hfiles, Option.all_some, Bool.or_eq_true] at h
    have hnone : getCStringFromJson shareFiles "sharingOSPath" = none := by
      rcases h with hobject | hpath
      · cases shareFiles with
        | object members => cases hobject
        | null => rfl
        | bool => rfl
        | number => rfl
        | string => rfl
        | array => rfl
      · exact Option.isNone_iff_eq_none.mp (Bool.and_eq_true_iff.mp hpath).2
    rw [Option.bind_eq_bind, Option.bind_some, hnone]
    rfl

/-- How a parsed configuration is processed: passed over, refused or stored. -/
inductive Processed (env : ShareDbEnv) (t : SharedFileTable) (root : Json) (bundleName : Bytes)
    (userId tokenId : UInt32) : SharedFileTable × ErrCode → Prop
  | skipped (h : skips root = true) : Processed env t root bundleName userId tokenId
      (t, .SANDBOX_MANAGER_OK)
  | refused {ret : ErrCode} (hret : ret ≠ .SANDBOX_MANAGER_OK) (h : skips root = false) :
      Processed env t root bundleName userId tokenId (t, ret)
  | stored {fields : ShareFileFields} (h : skips root = false)
      (hrecord : recordOf root bundleName userId tokenId =
        some (sharedFileRow fields bundleName userId tokenId)) :
      Processed env t root bundleName userId tokenId
        (t.insertReplace (sharedFileRow fields bundleName userId tokenId), .SANDBOX_MANAGER_OK)

theorem processShareFileInfo_processed (env : ShareDbEnv) (t : SharedFileTable) (root : Json)
    (bundleName : Bytes) (userId tokenId : UInt32) :
    Processed env t root bundleName userId tokenId
      (processShareFileInfo env t root bundleName userId tokenId) := by
  unfold processShareFileInfo
  split
  case h_1 hfiles => exact Processed.skipped (by rw [skips, hfiles, Option.all_none])
  case h_2 shareFiles hfiles =>
    split
    case isTrue hobject =>
      exact Processed.skipped (by rw [skips, hfiles, Option.all_some, hobject, Bool.true_or])
    case isFalse hobject =>
      have hskips : skips root =
          ((Json.itemsOf (shareFiles.getObjectItemCaseSensitive (bytes "scopes"))).isSome &&
            (getCStringFromJson shareFiles "sharingOSPath").isNone) := by
        rw [skips, hfiles, Option.all_some, Bool.eq_false_iff.mpr hobject, Bool.false_or]
      split
      case h_1 hscopes =>
        exact Processed.refused (by decide) (by rw [hskips, hscopes]; rfl)
      case h_2 scopes hscopes =>
        split
        case h_1 hpath => exact Processed.skipped (by rw [hskips, hscopes, hpath]; rfl)
        case h_2 sharingOSPath hpath =>
          have hnot : skips root = false := by rw [hskips, hpath, Option.isNone_some, Bool.and_false]
          split
          case h_1 sharingOSPermission sharingOSSubPath hpermission hsub =>
            split
            case isTrue hinvalid => exact Processed.refused hinvalid hnot
            case isFalse =>
              split
              case isTrue hinvalid => exact Processed.refused hinvalid hnot
              case isFalse =>
                unfold writeShareFileToDb
                split
                · exact Processed.refused (by decide) hnot
                · split
                  · exact Processed.refused (by decide) hnot
                  · apply Processed.stored hnot
                    simp only [recordOf, hfiles, hpath, hpermission, hsub, Option.bind_eq_bind,
                      Option.bind_some]
          case h_2 => exact Processed.refused (by decide) hnot

/-! ### One call -/

theorem Processed.others {root : Json} {outcome : SharedFileTable × ErrCode}
    (h : Processed env t root bundleName userId tokenId outcome) {other : UInt32}
    (hother : other ≠ tokenId) : outcome.1.row? other = t.row? other := by
  cases h with
  | skipped => rfl
  | refused => rfl
  | stored => exact (KeyedTable.row?_insertReplace ..).trans (if_neg hother.symm)

theorem unsetShareFileInfo_others {other : UInt32} (hother : other ≠ tokenId) :
    (unsetShareFileInfo env t tokenId bundleName).1.row? other = t.row? other := by
  unfold unsetShareFileInfo
  split
  · rfl
  · split
    · rfl
    · exact (KeyedTable.row?_delete_key ..).trans (if_neg hother.symm)

theorem setShareFileInfo_others {other : UInt32} (hother : other ≠ tokenId) :
    (setShareFileInfo env t cfginfo bundleName userId tokenId).1.row? other = t.row? other := by
  unfold setShareFileInfo
  split
  · rfl
  · split
    · rfl
    · split
      case h_1 => rfl
      case h_2 root _ =>
        exact (processShareFileInfo_processed env t root bundleName userId tokenId).others hother

theorem updateShareFileInfo_others {other : UInt32} (hother : other ≠ tokenId) :
    (updateShareFileInfo env t cfginfo bundleName userId tokenId).1.row? other = t.row? other := by
  unfold updateShareFileInfo
  split
  · exact unsetShareFileInfo_others hother
  · split
    · rfl
    · split
      case h_1 => rfl
      case h_2 root _ =>
        have hprocessed :=
          (processShareFileInfo_processed env t root bundleName userId tokenId).others hother
        simp only
        split
        · exact (unsetShareFileInfo_others hother).trans hprocessed
        · exact hprocessed

/-- No call touches a row of another token, whatever the database answers. -/
theorem ShareFileCall.run_others (call : ShareFileCall) {other : UInt32} (hother : other ≠ call.tokenId) :
    (call.run env t).1.row? other = t.row? other := by
  cases call with
  | set => exact setShareFileInfo_others hother
  | update => exact updateShareFileInfo_others hother
  | unset => exact unsetShareFileInfo_others hother

theorem unsetShareFileInfo_removed (hremove : env.removeOk = true) (hbundle : bundleName ≠ [])
    (htoken : tokenId ≠ 0) :
    (unsetShareFileInfo env t tokenId bundleName).1.row? tokenId = none ∧
      (unsetShareFileInfo env t tokenId bundleName).2 = .SANDBOX_MANAGER_OK := by
  have hparams : checkShareFileInfoParams bundleName tokenId = .SANDBOX_MANAGER_OK :=
    checkShareFileInfoParams_eq_ok_iff.mpr ⟨hbundle, htoken⟩
  unfold unsetShareFileInfo
  rw [if_neg (not_not.mpr hparams), hremove]
  exact ⟨(KeyedTable.row?_delete_key ..).trans (if_pos rfl), rfl⟩

theorem settles_iff : settles env cfginfo bundleName tokenId = true ↔
    (bundleName ≠ [] ∧ tokenId ≠ 0) ∧ (cfginfo = [] ∨ cfginfo.length ≤ MAX_JSON_SIZE ∧
      ∃ root, env.cJSONParse (cStr cfginfo) = some root ∧ skips root = false) := by
  simp only [settles, Bool.and_eq_true, Bool.or_eq_true, decide_eq_true_eq, Option.any_eq_true,
    Bool.not_eq_true']

/-- An update that settles nothing leaves the table alone, and succeeds only where nothing is
described. -/
theorem updateShareFileInfo_unsettled (h : settles env cfginfo bundleName tokenId = false) :
    (updateShareFileInfo env t cfginfo bundleName userId tokenId).1 = t ∧
      ((updateShareFileInfo env t cfginfo bundleName userId tokenId).2 = .SANDBOX_MANAGER_OK →
        describedRecord env cfginfo bundleName userId tokenId = none) := by
  have hnot : ¬ settles env cfginfo bundleName tokenId = true := Bool.eq_false_iff.mp h
  rw [settles_iff] at hnot
  unfold updateShareFileInfo describedRecord
  by_cases hempty : cfginfo = []
  · have hparams : checkShareFileInfoParams bundleName tokenId ≠ .SANDBOX_MANAGER_OK := fun hok =>
      hnot ⟨checkShareFileInfoParams_eq_ok_iff.mp hok, Or.inl hempty⟩
    simp only [if_pos hempty, unsetShareFileInfo, if_pos hparams]
    exact ⟨trivial, fun _ => trivial⟩
  · simp only [if_neg hempty]
    by_cases hcheck : checkParamsAndCfginfo bundleName tokenId cfginfo = .SANDBOX_MANAGER_OK
    · obtain ⟨hparams, hsize⟩ := checkParamsAndCfginfo_eq_ok_iff.mp hcheck
      rw [if_neg (not_not.mpr hcheck)]
      cases hparse : env.cJSONParse (cStr cfginfo) with
      | none => exact ⟨rfl, fun _ => rfl⟩
      | some root =>
        have hskips : skips root = true := by
          by_contra hskips
          exact hnot ⟨hparams, Or.inr ⟨hsize, root, hparse, Bool.eq_false_iff.mpr hskips⟩⟩
        have hprocessed := processShareFileInfo_processed env t root bundleName userId tokenId
        simp only
        generalize processShareFileInfo env t root bundleName userId tokenId = o at hprocessed
        cases hprocessed with
        | skipped => exact ⟨rfl, fun _ => recordOf_skips hskips⟩
        | refused _ hnot => exact absurd hskips (Bool.eq_false_iff.mp hnot)
        | stored hnot => exact absurd hskips (Bool.eq_false_iff.mp hnot)
    · rw [if_pos hcheck]
      exact ⟨rfl, fun hok => absurd hok hcheck⟩

theorem updateShareFileInfo_settled (hremove : env.removeOk = true)
    (h : settles env cfginfo bundleName tokenId = true) :
    Follows (describedRecord env cfginfo bundleName userId tokenId) tokenId
      (updateShareFileInfo env t cfginfo bundleName userId tokenId) := by
  obtain ⟨⟨hbundle, htoken⟩, hcfg⟩ := settles_iff.mp h
  unfold updateShareFileInfo describedRecord
  by_cases hempty : cfginfo = []
  · obtain ⟨hnone, hok⟩ := unsetShareFileInfo_removed (t := t) hremove hbundle htoken
    rw [if_pos hempty, if_pos hempty]
    exact ⟨fun _ => hnone, fun herr => absurd hok herr⟩
  · obtain ⟨hsize, root, hparse, hskips⟩ := hcfg.resolve_left hempty
    have hcheck : checkParamsAndCfginfo bundleName tokenId cfginfo = .SANDBOX_MANAGER_OK :=
      checkParamsAndCfginfo_eq_ok_iff.mpr ⟨⟨hbundle, htoken⟩, hsize⟩
    rw [if_neg hempty, if_neg hempty, if_neg (not_not.mpr hcheck), hparse, Option.bind_some]
    have hprocessed := processShareFileInfo_processed env t root bundleName userId tokenId
    simp only
    generalize processShareFileInfo env t root bundleName userId tokenId = o at hprocessed
    cases hprocessed with
    | skipped hskipped => exact absurd hskipped (Bool.eq_false_iff.mp hskips)
    | refused hret =>
      rw [if_pos hret]
      exact ⟨fun hok => absurd hok hret,
        fun _ => (unsetShareFileInfo_removed hremove hbundle htoken).1⟩
    | stored _ hrecord =>
      rw [if_neg (not_not.mpr rfl), hrecord]
      refine ⟨fun _ => ?_, fun herr => absurd rfl herr⟩
      exact (KeyedTable.row?_insertReplace ..).trans (if_pos rfl)

/-- One update follows its configuration exactly if it settles the row, or there was none. -/
theorem updateShareFileInfo_follows_iff (hremove : env.removeOk = true) :
    Follows (describedRecord env cfginfo bundleName userId tokenId) tokenId
        (updateShareFileInfo env t cfginfo bundleName userId tokenId) ↔
      t.row? tokenId = none ∨ settles env cfginfo bundleName tokenId = true := by
  cases hsettles : settles env cfginfo bundleName tokenId with
  | true => exact iff_of_true (updateShareFileInfo_settled hremove hsettles) (Or.inr rfl)
  | false =>
    obtain ⟨htable, hdescribed⟩ := @updateShareFileInfo_unsettled env t cfginfo bundleName
      userId tokenId hsettles
    apply Iff.intro
    · intro hfollows
      rw [← htable]
      by_cases hok : (updateShareFileInfo env t cfginfo bundleName userId tokenId).2 =
          .SANDBOX_MANAGER_OK
      · exact Or.inl ((hfollows.installed hok).trans (hdescribed hok))
      · exact Or.inl (hfollows.removed hok)
    · intro hrow
      have hnone := hrow.resolve_right Bool.false_ne_true
      rw [← htable] at hnone
      exact ⟨fun hok => hnone.trans (hdescribed hok).symm, fun _ => hnone⟩

end

/-- **The table follows the configurations in a run exactly if each update settles its token's row,
or finds none.** An insertion that fails does not matter, as the row is removed then. -/
theorem shareRun_follows_iff (env : ShareDbEnv) (t : SharedFileTable) (calls : List ShareFileCall)
    (hremove : env.removeOk = true) : RunFollows env t calls ↔ RunSettles env t calls := by
  induction calls generalizing t with
  | nil => exact Iff.rfl
  | cons call rest ih =>
    refine and_congr ?_ (ih _)
    apply Iff.intro
    · intro hstep cfginfo bundleName userId tokenId hcall
      have hfollows := hstep.updated cfginfo bundleName userId tokenId hcall
      subst hcall
      exact (updateShareFileInfo_follows_iff hremove).mp hfollows
    · intro hsettles
      refine ⟨fun _ hother => call.run_others hother, ?_⟩
      intro cfginfo bundleName userId tokenId hcall
      have hrow := hsettles cfginfo bundleName userId tokenId hcall
      subst hcall
      exact (updateShareFileInfo_follows_iff hremove).mpr hrow

/-- A parser that reads every text as an object without members, as `{}` is. -/
def emptyObjects : ShareDbEnv where
  cJSONParse _ := some (.object [])
  addOk := true
  removeOk := true

def sharedFolder : SharedFileInfo :=
  sharedFileRow ⟨bytes "/base/share", [], bytes "r"⟩ (bytes "com.example") 100 7

theorem shareRun_follows_withdrawn :
    RunFollows emptyObjects (KeyedTable.empty.insertReplace sharedFolder)
        [.update [] (bytes "com.example") 100 7] ↔
      RunSettles emptyObjects (KeyedTable.empty.insertReplace sharedFolder)
        [.update [] (bytes "com.example") 100 7] :=
  shareRun_follows_iff emptyObjects _ _ rfl

/-- An update to a configuration that shares nothing any more leaves the directory shared. -/
theorem shareRun_not_follows :
    ¬ ∀ (env : ShareDbEnv) (t : SharedFileTable) (calls : List ShareFileCall), env.addOk = true →
      env.removeOk = true → RunFollows env t calls := by
  intro h
  have hrun := h emptyObjects (KeyedTable.empty.insertReplace sharedFolder)
    [.update (bytes "\x7b\x7d") (bytes "com.example") 100 7] rfl rfl
  have hrow := (hrun.1.updated _ _ _ _ rfl).installed (by decide +kernel)
  revert hrow
  decide +kernel

end SandboxManager.Share
