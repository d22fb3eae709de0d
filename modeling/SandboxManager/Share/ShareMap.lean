import SandboxManager.Json
import SandboxManager.Policy.Table

/-! The share configuration (`share_files.cpp`).

`g_shareMap` holds, per bundle and user, the configured directories with the modes
they are shared in. It is filled from the bundles' JSON profiles, which the bundle
manager hands out (`ShareEnv`), and read by `FindPermission`. -/
namespace SandboxManager.Share
open Library Policy

/-- `PathPermissions`, in the order an iteration meets the entries. -/
abbrev PathPermissions := KeyedTable (Prod.fst : Bytes × UInt32 → Bytes)

/-- `BundlePermissions`: the entries of a bundle for a user, if there are any. -/
abbrev ShareMap := Bytes → UInt32 → Option PathPermissions

/-- What an `unordered_map` does to its iteration order when an entry is added. -/
structure HashOrder where
  rehash : List (Bytes × UInt32) → List (Bytes × UInt32)
  perm : ∀ entries, (rehash entries).Perm entries

structure JsonProfileInfo where
  bundleName : Bytes
  profile : Bytes

structure ShareEnv where
  order : HashOrder
  cJSONParse : Bytes → Option Json
  /-- `GetAllJsonProfile`; `none` when the bundle manager is not there or answers an error. -/
  getAllJsonProfile : UInt32 → Option (List JsonProfileInfo)

def SHARE_PATH_UNSET : UInt32 := 0xFFFFFFFE
def SHARE_BUNDLE_UNSET : UInt32 := 0xFFFFFFFD
def MAX_JSON_SIZE : Nat := 5 * 1024 * 1024
def MAX_SHARE_CONFIG_COUNT : Nat := 20

/-! ### The map -/

/-- `g_shareMap[bundleName][userId][path] = mode` on the innermost map. -/
def assign (order : HashOrder) (t : PathPermissions) (path : Bytes) (mode : UInt32) :
    PathPermissions :=
  if h : path ∈ t.rows.map Prod.fst then
    ⟨t.rows.map fun entry => (entry.1, if entry.1 = path then mode else entry.2), by
      rw [List.map_map]
      exact t.unique⟩
  else
    ⟨order.rehash (t.rows ++ [(path, mode)]),
      ((order.perm _).map Prod.fst).nodup_iff.mpr (KeyedTable.nodup_append_row t.unique h)⟩

def findPermission (m : ShareMap) (bundleName : Bytes) (userId : UInt32) (path : Bytes) : UInt32 :=
  match m bundleName userId with
  | none => SHARE_BUNDLE_UNSET
  | some pathPermissions =>
    match pathPermissions.rows.find? fun entry => Trie.coversString entry.1 path with
    | some entry => entry.2
    | none => SHARE_PATH_UNSET

/-- The bundle goes for all users. -/
def deleteByBundleName (m : ShareMap) (bundleName : Bytes) : ShareMap :=
  fun b u => if b = bundleName then none else m b u

/-- An entry that cannot be added takes the whole bundle with it. -/
def addToMap (order : HashOrder) (m : ShareMap) (bundleName : Bytes) (userId : UInt32)
    (path : Bytes) (mode : UInt32) : ShareMap × Bool :=
  if bundleName = [] then (m, false)
  else if path = [] ∨ mode = 0 then (deleteByBundleName m bundleName, false)
  else
    let pathPermissions := assign order ((m bundleName userId).getD KeyedTable.empty) path mode
    (fun b u => if b = bundleName ∧ u = userId then some pathPermissions else m b u, true)

/-! ### The configured directories -/

def permissionToMode (permission : Bytes) : UInt32 :=
  if permission = bytes "r" then READ_MODE.toUInt32
  else if permission = bytes "r+w" then (READ_MODE ||| WRITE_MODE).toUInt32
  else 0

def FULL_PATH_START : Bytes := bytes "/storage/Users/currentUser/appdata/"
def DEFAULT_EL : Bytes := bytes "el2"
def MAX_PARTS_FORMAT : Nat := 10

def VALID_EL_NUMBERS : List Bytes := ["el1", "el2", "el3", "el4", "el5"].map bytes

/-- `lexically_normal` of an absolute path: what a name does to the names before it. -/
def normalStep (names : List Bytes) (name : Bytes) : List Bytes :=
  if name = bytes "." then names
  else if name = bytes ".." then names.dropLast
  else names ++ [name]

/-- A path whose last name is `.` or `..`, or that ends in a slash, keeps a slash at its end. -/
def lexicallyNormal (path : Bytes) : Bytes :=
  let names := segments slash path
  let normal := names.foldl normalStep []
  let last := names.getLast?
  if normal = [] then [slash]
  else if path.getLast? = some slash ∨ last = some (bytes ".") ∨ last = some (bytes "..") then
    absolute slash normal ++ [slash]
  else absolute slash normal

def isPathSecure (path : Bytes) : Bool :=
  if path.head? ≠ some slash ∨ path.getLast? = some slash then false
  else if 0 ∈ path then false
  else if [slash, slash].isPrefixOf path then false
  else lexicallyNormal path = path

def pathCompose (path name : Bytes) : Bytes :=
  if path = [] ∨ name = [] then []
  else if !isPathSecure path then []
  else
    match segments slash path with
    | el :: sub :: parts =>
      if 2 + parts.length > MAX_PARTS_FORMAT then []
      else if el ∈ VALID_EL_NUMBERS then
        FULL_PATH_START ++ el ++ slash :: sub ++ slash :: name ++ absolute slash parts
      else if el = bytes "base" then
        FULL_PATH_START ++ DEFAULT_EL ++ slash :: el ++ slash :: name ++ slash :: sub ++
          absolute slash parts
      else []
    | _ => []

/-! ### Filling the map -/

/-- The path and the permission of a scope; a scope without them is passed over. -/
def scopeFields (scope : Json) : Option (Bytes × Bytes) :=
  if !scope.isObject then none
  else
    match Json.stringOf (scope.getObjectItemCaseSensitive (bytes "path")),
      Json.stringOf (scope.getObjectItemCaseSensitive (bytes "permission")) with
    | some path, some permission => some (path, permission)
    | _, _ => none

def scopeLoop (order : HashOrder) (bundleName : Bytes) (userId : UInt32) :
    List Json → Nat → ShareMap → ShareMap × ErrCode
  | [], _, m => (m, .SANDBOX_MANAGER_OK)
  | scope :: scopes, configCount, m =>
    match scopeFields scope with
    | none => scopeLoop order bundleName userId scopes configCount m
    | some (path, permission) =>
      match addToMap order m bundleName userId (pathCompose path bundleName)
          (permissionToMode permission) with
      | (m, false) => (m, .INVALID_PARAMTER)
      | (m, true) =>
        if configCount + 1 > MAX_SHARE_CONFIG_COUNT then
          (deleteByBundleName m bundleName, .INVALID_PARAMTER)
        else scopeLoop order bundleName userId scopes (configCount + 1) m

def transAndSetToMapInner (order : HashOrder) (m : ShareMap) (root : Json) (bundleName : Bytes)
    (userId : UInt32) : ShareMap × ErrCode :=
  match root.getObjectItemCaseSensitive (bytes "share_files") with
  | none => (m, .INVALID_PARAMTER)
  | some shareFiles =>
    if !shareFiles.isObject then (m, .INVALID_PARAMTER)
    else
      match Json.itemsOf (shareFiles.getObjectItemCaseSensitive (bytes "scopes")) with
      | none => (m, .INVALID_PARAMTER)
      | some scopes => scopeLoop order bundleName userId scopes 0 m

def transAndSetToMap (env : ShareEnv) (m : ShareMap) (profile bundleName : Bytes)
    (userId : UInt32) : ShareMap × ErrCode :=
  if profile.length > MAX_JSON_SIZE then (m, .INVALID_PARAMTER)
  else
    match env.cJSONParse (cStr profile) with
    | none => (m, .INVALID_PARAMTER)
    | some root => transAndSetToMapInner env.order m root bundleName userId

/-- A profile that cannot be read is passed over. -/
def getAllShareCfg (env : ShareEnv) (m : ShareMap) (userId : UInt32) : ShareMap × ErrCode :=
  match env.getAllJsonProfile userId with
  | none => (m, .PERMISSION_DENIED)
  | some profileInfos =>
    (profileInfos.foldl
      (fun m info => (transAndSetToMap env m info.profile info.bundleName userId).1) m,
      .SANDBOX_MANAGER_OK)

end SandboxManager.Share
