import Mathlib
import SandboxManager.Bytes
import SandboxManager.Library.KeyTree

/-! The policy trie (`policy_trie.cpp`).

A node holds the source's members but `children_`, which is the keyed tree's.
`unordered_map` and `unordered_set` are lists: no result depends on their order
beyond the order in which `findMatchingPaths` reports what it found. Allocation
with `std::nothrow` succeeds.

The three functions that write a trie walk it the same way and differ in the key
of a step, in what a visited node notes, in the flag of a created node and in the
mark on the last one: each is `grow` applied to its own four. -/
namespace SandboxManager.Trie
open Library

structure NodeInfo where
  isEndOfPath : Bool := false
  caseInsensitive : Bool := false
  denyInherit : Bool := false
  indexMap : List (Bytes × List Bytes) := []
  mode : UInt64 := 0
  modes : List UInt64 := []
deriving DecidableEq, Repr

abbrev PolicyTrie := KeyTree Bytes NodeInfo

/-- `new PolicyTrie()`. -/
def PolicyTrie.empty : PolicyTrie := .node {} []

def splitPath (path : Bytes) : List Bytes := segments slash path

def buildPath (basePath segment : Bytes) : Bytes :=
  if basePath = [] then slash :: segment else basePath ++ slash :: segment

/-- The key of a step out of a node with the given `caseInsensitive`. -/
def foldKey (caseInsensitive : Bool) (segment : Bytes) : Bytes :=
  if caseInsensitive then toLowerCase segment else segment

/-- The key of a step of `InsertPreservingCase`. -/
def exactKey (_caseInsensitive : Bool) (segment : Bytes) : Bytes := segment

/-- `newNode->caseInsensitive_ = curNode->caseInsensitive_`. -/
def inheritNode (parent : NodeInfo) : NodeInfo := { caseInsensitive := parent.caseInsensitive }

/-- `insert` into an `unordered_set`. -/
def setInsert {α : Type} [DecidableEq α] (s : List α) (x : α) : List α := if x ∈ s then s else s ++ [x]

/-- `indexMap_[lower]`, empty when there is no entry. -/
def indexBucket (lower : Bytes) (v : NodeInfo) : List Bytes := (v.indexMap.lookup lower).getD []

/-- `indexMap_[ToLowerCase(segment)].insert(segment)`, on case-insensitive nodes only. -/
def noteSpelling (v : NodeInfo) (segment : Bytes) : NodeInfo :=
  let lower := toLowerCase segment
  if v.caseInsensitive then
    { v with indexMap := assign v.indexMap lower (setInsert (indexBucket lower v) segment) }
  else v

def markPolicy (mode : UInt64) (v : NodeInfo) : NodeInfo :=
  { v with isEndOfPath := true, modes := setInsert v.modes mode, mode := v.mode ||| mode }

def insertSegments (mode : UInt64) (t : PolicyTrie) (pathSegments : List Bytes) : PolicyTrie :=
  t.grow NodeInfo.caseInsensitive foldKey (fun v _ => v) inheritNode (markPolicy mode) pathSegments

def insertSegmentsPreserving (mode : UInt64) (t : PolicyTrie) (pathSegments : List Bytes) :
    PolicyTrie :=
  t.grow NodeInfo.caseInsensitive exactKey noteSpelling inheritNode (markPolicy mode) pathSegments

def insertPath (t : PolicyTrie) (path : Bytes) (mode : UInt64) (preserveCase : Bool := false) :
    PolicyTrie :=
  if preserveCase then insertSegmentsPreserving mode t (splitPath path)
  else insertSegments mode t (splitPath path)

def insertPreservingCase (t : PolicyTrie) (path : Bytes) (mode : UInt64) : PolicyTrie :=
  insertPath t path mode true

/-- One round of `AddDeniedPaths`' loop. -/
def addDeniedPath (t : PolicyTrie) (deniedPath : Bytes) : PolicyTrie :=
  t.grow NodeInfo.caseInsensitive foldKey (fun v _ => v) inheritNode
    (fun v => { v with denyInherit := true }) (splitPath deniedPath)

def addDeniedPaths (t : PolicyTrie) (paths : List Bytes) : PolicyTrie := paths.foldl addDeniedPath t

/-- A node created on the way keeps the default flag: only the last node is set. -/
def setCasePolicy (t : PolicyTrie) (path : Bytes) (caseInsensitive : Bool) : PolicyTrie :=
  t.grow NodeInfo.caseInsensitive foldKey (fun v _ => v) (fun _ => {})
    (fun v => { v with caseInsensitive }) (splitPath path)

def setInsensitive (t : PolicyTrie) (path : Bytes) : PolicyTrie := setCasePolicy t path true

def setSensitive (t : PolicyTrie) (path : Bytes) : PolicyTrie := setCasePolicy t path false

def isEmpty (t : PolicyTrie) : Bool :=
  t.children.isEmpty && !t.info.isEndOfPath && t.info.mode == 0

/-! ### Matching -/

def MODE_FILTER : UInt64 := 0b11111

def isPolicyMatch (referMode searchMode : UInt64) : Bool :=
  (referMode &&& MODE_FILTER) &&& (searchMode &&& MODE_FILTER) == searchMode &&& MODE_FILTER

def DENIED_PATHS_DEEP : Nat := 4

def DENIED_PATHS : List (Bytes × Nat) :=
  [(bytes "/storage/Users/currentUser/appdata", DENIED_PATHS_DEEP)]

/-- `denyPath` is the path, or the path up to one of its slashes. -/
def coversString (denyPath path : Bytes) : Bool :=
  denyPath.isPrefixOf path &&
    (path.length == denyPath.length || path[denyPath.length]? == some slash)

/-- The level from which `CheckPathInternal` starts to look at policies. -/
def needLevel (path : Bytes) : Nat :=
  DENIED_PATHS.foldl (fun level deny => if coversString deny.1 path then deny.2 else level) 0

/-- The loop of `CheckPathInternal`; `curLevel` counts the nodes entered. -/
def checkPathLoop (needLevel : Nat) (mode : UInt64) (checkMode : Bool) :
    PolicyTrie → Nat → List Bytes → Bool
  | _, _, [] => false
  | curNode, curLevel, segment :: rest =>
    match curNode.child? (foldKey curNode.info.caseInsensitive segment) with
    | none => false
    | some nextNode =>
      if curLevel + 1 ≥ needLevel ∧ nextNode.info.isEndOfPath then
        if !checkMode then true else isPolicyMatch nextNode.info.mode mode
      else checkPathLoop needLevel mode checkMode nextNode (curLevel + 1) rest

def checkPathInternal (t : PolicyTrie) (path : Bytes) (mode : UInt64) (checkMode : Bool) : Bool :=
  checkPathLoop (needLevel path) mode checkMode t 0 (splitPath path)

/-- `CheckPath(path)`. -/
def checkPathAny (t : PolicyTrie) (path : Bytes) : Bool := checkPathInternal t path 0 false

/-- `CheckPath(path, mode)`. -/
def checkPath (t : PolicyTrie) (path : Bytes) (mode : UInt64) : Bool :=
  checkPathInternal t path mode true

inductive CheckState where
  | init
  | allowed
  | notAllowed
deriving DecidableEq, Repr

/-- The loop of `CheckPathInternalNew`: a missing child and the end of the path
both leave with the status reached. -/
def checkPathNewLoop (mode : UInt64) (checkMode : Bool) : PolicyTrie → CheckState → List Bytes → Bool
  | _, pathStatus, [] => pathStatus == .allowed
  | curNode, pathStatus, segment :: rest =>
    match curNode.child? (foldKey curNode.info.caseInsensitive segment) with
    | none => pathStatus == .allowed
    | some nextNode =>
      let pathStatus := if nextNode.info.denyInherit then .init else pathStatus
      if nextNode.info.isEndOfPath then
        if !checkMode then true
        else if pathStatus = .init then
          checkPathNewLoop mode checkMode nextNode
            (if isPolicyMatch nextNode.info.mode mode then .allowed else .notAllowed) rest
        else checkPathNewLoop mode checkMode nextNode pathStatus rest
      else checkPathNewLoop mode checkMode nextNode pathStatus rest

def checkPathInternalNew (t : PolicyTrie) (path : Bytes) (mode : UInt64) (checkMode : Bool) : Bool :=
  checkPathNewLoop mode checkMode t .init (splitPath path)

def checkPathNew (t : PolicyTrie) (path : Bytes) (mode : UInt64) : Bool :=
  checkPathInternalNew t path mode true

/-! ### Searching -/

structure SearchState where
  node : PolicyTrie
  currentIndex : Nat
  currentPath : Bytes

/-- The children a search step enters, with the key each is stored under. -/
def searchChildren (currentNode : PolicyTrie) (targetSegment : Bytes) : List (Bytes × PolicyTrie) :=
  if currentNode.info.caseInsensitive then
    (indexBucket (toLowerCase targetSegment) currentNode.info).filterMap fun storedKey =>
      (currentNode.child? storedKey).map fun c => (storedKey, c)
  else
    match currentNode.child? targetSegment with
    | some c => [(targetSegment, c)]
    | none => []

/-- The number of search states a state leads to, itself included. -/
def searchCost : List Bytes → PolicyTrie → Nat
  | [], _ => 1
  | segment :: rest, t => 1 + ((searchChildren t segment).map fun c => searchCost rest c.2).sum

def SearchState.cost (searchSegments : List Bytes) (s : SearchState) : Nat :=
  searchCost (searchSegments.drop s.currentIndex) s.node

/-- What one round pushes: nothing once the segments are used up. -/
def searchPushed (searchSegments : List Bytes) (current : SearchState) : List SearchState :=
  match searchSegments[current.currentIndex]? with
  | none => []
  | some targetSegment => (searchChildren current.node targetSegment).map fun c =>
      ⟨c.2, current.currentIndex + 1, buildPath current.currentPath c.1⟩

/-- What one round reports. -/
def searchFound (searchSegments : List Bytes) (mode : UInt64) (current : SearchState) : List Bytes :=
  if current.currentIndex ≥ searchSegments.length ∧ current.node.info.isEndOfPath ∧
      mode ∈ current.node.info.modes
  then [current.currentPath] else []

theorem drop_currentIndex {searchSegments : List Bytes} {i : Nat} {segment : Bytes}
    (h : searchSegments[i]? = some segment) :
    searchSegments.drop i = segment :: searchSegments.drop (i + 1) := by
  obtain ⟨hlt, hget⟩ := List.getElem?_eq_some_iff.mp h
  rw [List.drop_eq_getElem_cons hlt, hget]

theorem cost_pos (searchSegments : List Bytes) (s : SearchState) : 0 < s.cost searchSegments := by
  unfold SearchState.cost
  cases searchSegments.drop s.currentIndex with
  | nil => exact Nat.one_pos
  | cons segment rest => simp only [searchCost]; omega

/-- A round replaces a state by all that it leads to but itself. -/
theorem cost_pushed (searchSegments : List Bytes) (current : SearchState) :
    ((searchPushed searchSegments current).map (SearchState.cost searchSegments)).sum <
      current.cost searchSegments := by
  unfold searchPushed
  cases h : searchSegments[current.currentIndex]? with
  | none => exact cost_pos searchSegments current
  | some segment =>
    simp only [SearchState.cost, drop_currentIndex h, searchCost, List.map_map]
    show List.sum _ < 1 + List.sum _
    exact Nat.lt_one_add_iff.mpr (Nat.le_refl _)

/-- The loop over `searchStack`, whose back is the head of `stack`. -/
def searchLoop (searchSegments : List Bytes) (mode : UInt64) :
    List SearchState → List Bytes → List Bytes
  | [], results => results
  | current :: stack, results =>
    searchLoop searchSegments mode ((searchPushed searchSegments current).reverse ++ stack)
      (results ++ searchFound searchSegments mode current)
termination_by stack => (stack.map (SearchState.cost searchSegments)).sum
decreasing_by
  have := cost_pushed searchSegments current
  simp only [List.map_append, List.map_reverse, List.sum_append, List.sum_reverse, List.map_cons,
    List.sum_cons]
  omega

def findMatchingPaths (t : PolicyTrie) (path : Bytes) (mode : UInt64) : List Bytes :=
  let searchSegments := splitPath path
  if searchSegments = [] then [] else searchLoop searchSegments mode [⟨t, 0, []⟩] []

end SandboxManager.Trie
