import SandboxManager.Json
import SandboxManager.Policy.Persist

/-! The deny configuration (`MacAdapter::SetDenyCfg`, `mac_adapter.cpp`).

The items of the configuration go to the kernel in batches, and the adapter keeps a list of its own of
the paths whose inheritance is blocked. A path enters that list while its batch is filled, before
the kernel is asked, and nothing takes it out when the batch fails. So the list is what the kernel
has exactly if the batch that fails has blocked nothing by then (`setDenyCfg_mirrors_iff`). -/
namespace SandboxManager.Policy

/-! ### The items -/

def DEC_DENY_RENAME : UInt32 := (1 : UInt32) <<< 7
def DEC_DENY_REMOVE : UInt32 := (1 : UInt32) <<< 8
def DEC_DENY_INHERIT : UInt32 := (1 : UInt32) <<< 9
def DEC_DENY_SET : UInt32 := (1 : UInt32) <<< 10
def DEC_DENY_SET_ALL : UInt32 := (1 : UInt32) <<< 11

structure DenyJsonItem where
  key : Bytes
  mode : UInt32
  forced : Bool

def DENY_JSON_ITEMS : List DenyJsonItem :=
  [⟨bytes "rename", DEC_DENY_RENAME, true⟩, ⟨bytes "delete", DEC_DENY_REMOVE, true⟩,
    ⟨bytes "inherit", DEC_DENY_INHERIT, true⟩, ⟨bytes "set_policy", DEC_DENY_SET, false⟩,
    ⟨bytes "set_policy_all", DEC_DENY_SET_ALL, false⟩]

/-- What one item asks the kernel for. -/
structure DenyPathInfo where
  path : Bytes
  mode : UInt32
deriving DecidableEq, Repr

structure DenyEnv where
  cJSONParse : Bytes → Option Json
  /-- `valueint` of a number. -/
  valueint : Bytes → Int32
  /-- Whether the request for a batch succeeds. -/
  ioctl : Nat → Bool

/-- A field that is not there counts as zero, unless it has to be there. -/
def parseJsonField (env : DenyEnv) (cjsonItem : Json) (key : Bytes) (forced : Bool) : Option Int32 :=
  match cjsonItem.getObjectItemCaseSensitive key with
  | none => if forced then none else some 0
  | some (.number literal) => some (env.valueint literal)
  | some _ => none

/-- One turn of the loop of `FillInfo`, for a well-formed item. -/
def denyPathInfo (env : DenyEnv) (cjsonItem : Json) : Option DenyPathInfo := do
  let path ← Json.stringOf (cjsonItem.getObjectItemCaseSensitive (bytes "path"))
  let mode ← DENY_JSON_ITEMS.foldlM (fun mode item => do
    let value ← parseJsonField env cjsonItem item.key item.forced
    return if value = 1 then mode ||| item.mode else mode) 0
  return ⟨path, mode⟩

def DenyPathInfo.inherits (info : DenyPathInfo) : Bool := info.mode &&& DEC_DENY_INHERIT ≠ 0

/-- The batch's requests, unless an item is malformed. What it has blocked stays in the list. -/
def fillInfo (env : DenyEnv) : List Json → List Bytes → List Bytes × Option (List DenyPathInfo)
  | [], blocked => (blocked, some [])
  | item :: rest, blocked =>
    match denyPathInfo env item with
    | none => (blocked, none)
    | some info =>
      let (blocked, infos) :=
        fillInfo env rest (if info.inherits then blocked ++ [info.path] else blocked)
      (blocked, infos.map (info :: ·))

/-! ### The batches -/

/-- `cJSON_GetArraySize` and `cJSON_GetArrayItem` count the children of any item. A configuration
file has at most five megabytes, so that their number is an `int`. -/
def jsonChildren : Json → List Json
  | .array items => items
  | .object members => members.map Prod.snd
  | _ => []

/-- So many batches at most. -/
def denyBatches : Nat → List Json → List (List Json)
  | _, [] => []
  | 0, _ :: _ => []
  | n + 1, items => items.take MAX_POLICY_NUM :: denyBatches n (items.drop MAX_POLICY_NUM)

structure DenyState where
  blockedInheritPaths : List Bytes
  /-- What the kernel has accepted. -/
  kernel : List DenyPathInfo := []
  succSet : Nat := 0

def denyLoop (env : DenyEnv) : Nat → List (List Json) → DenyState → DenyState
  | _, [], s => s
  | k, batch :: rest, s =>
    match fillInfo env batch s.blockedInheritPaths with
    | (blocked, none) => { s with blockedInheritPaths := blocked }
    | (blocked, some infos) =>
      if !env.ioctl k then { s with blockedInheritPaths := blocked }
      else
        denyLoop env (k + 1) rest
          { blockedInheritPaths := blocked, kernel := s.kernel ++ infos,
            succSet := s.succSet + batch.length }

inductive DenyResult where
  | SANDBOX_MANAGER_OK
  | SANDBOX_MANAGER_DENY_ERR
deriving DecidableEq, Repr

/-- `SetDenyCfg`, from the paths that are blocked before. -/
def setDenyCfg (env : DenyEnv) (blockedInheritPaths : List Bytes) (rawData : Bytes) :
    DenyState × DenyResult :=
  match env.cJSONParse (cStr rawData) with
  | none => ({ blockedInheritPaths }, .SANDBOX_MANAGER_DENY_ERR)
  | some root =>
    let items := jsonChildren root
    let s := denyLoop env 0 (denyBatches items.length items) { blockedInheritPaths := [] }
    (s, if items.length ≠ s.succSet then .SANDBOX_MANAGER_DENY_ERR else .SANDBOX_MANAGER_OK)

/-! ### The list and the kernel -/

/-- The paths whose inheritance is blocked by the kernel. -/
def inheritPaths (infos : List DenyPathInfo) : List Bytes :=
  (infos.filter DenyPathInfo.inherits).map DenyPathInfo.path

def WellFormed (env : DenyEnv) (item : Json) : Prop := (denyPathInfo env item).isSome = true

/-- What the items of a batch ask for, up to the first that is malformed. -/
def readInfos (env : DenyEnv) : List Json → List DenyPathInfo
  | [] => []
  | item :: rest =>
    match denyPathInfo env item with
    | none => []
    | some info => info :: readInfos env rest

/-- The batch is well formed, and its request succeeds. -/
def Taken (env : DenyEnv) (k : Nat) (batch : List Json) : Prop :=
  (∀ item ∈ batch, WellFormed env item) ∧ env.ioctl k = true

/-- The batch that comes first among those that are not taken blocks nothing before its first
malformed item. -/
def StopsClean (env : DenyEnv) (k : Nat) (batches : List (List Json)) : Prop :=
  ∀ i batch, batches[i]? = some batch →
    (∀ j b, j < i → batches[j]? = some b → Taken env (k + j) b) → ¬ Taken env (k + i) batch →
      ∀ info ∈ readInfos env batch, info.inherits = false

section
variable {env : DenyEnv}

theorem fillInfo_eq (batch : List Json) (blocked : List Bytes) :
    (fillInfo env batch blocked).1 = blocked ++ inheritPaths (readInfos env batch) ∧
      ((∀ item ∈ batch, WellFormed env item) →
        (fillInfo env batch blocked).2 = some (readInfos env batch)) ∧
      ((¬ ∀ item ∈ batch, WellFormed env item) → (fillInfo env batch blocked).2 = none) := by
  induction batch generalizing blocked with
  | nil => simp [fillInfo, readInfos, inheritPaths]
  | cons item rest ih =>
    unfold fillInfo readInfos
    cases hinfo : denyPathInfo env item with
    | none => simp [inheritPaths, WellFormed, hinfo]
    | some info =>
      obtain ⟨hblocked, hall, hnot⟩ :=
        ih (if info.inherits then blocked ++ [info.path] else blocked)
      have hwell : (∀ i ∈ item :: rest, WellFormed env i) ↔ ∀ i ∈ rest, WellFormed env i := by
        rw [List.forall_mem_cons, and_iff_right]
        rw [WellFormed, hinfo]
        rfl
      refine ⟨?_, fun h => ?_, fun h => ?_⟩
      · show (fillInfo env rest _).1 = _
        rw [hblocked, inheritPaths, inheritPaths, List.filter_cons]
        cases info.inherits <;> simp
      · show (fillInfo env rest _).2.map _ = _
        rw [hall (hwell.mp h), Option.map_some]
      · show (fillInfo env rest _).2.map _ = _
        rw [hnot (mt hwell.mpr h), Option.map_none]

theorem inheritPaths_append (a b : List DenyPathInfo) :
    inheritPaths (a ++ b) = inheritPaths a ++ inheritPaths b := by
  simp [inheritPaths]

theorem inheritPaths_eq_nil_iff {infos : List DenyPathInfo} :
    inheritPaths infos = [] ↔ ∀ info ∈ infos, info.inherits = false := by
  simp [inheritPaths]

/-! ### One batch -/

/-- A batch that is taken adds to the list and to the kernel; one that is not ends the loop. -/
theorem denyLoop_taken {k : Nat} {batch : List Json} (h : Taken env k batch)
    (rest : List (List Json)) (s : DenyState) :
    denyLoop env k (batch :: rest) s =
      denyLoop env (k + 1) rest
        { blockedInheritPaths := s.blockedInheritPaths ++ inheritPaths (readInfos env batch)
          kernel := s.kernel ++ readInfos env batch
          succSet := s.succSet + batch.length } := by
  obtain ⟨hblocked, hall, -⟩ := fillInfo_eq batch s.blockedInheritPaths
  have hfill : fillInfo env batch s.blockedInheritPaths =
      (s.blockedInheritPaths ++ inheritPaths (readInfos env batch), some (readInfos env batch)) :=
    Prod.ext hblocked (hall h.1)
  simp only [denyLoop, hfill, h.2, Bool.not_true, Bool.false_eq_true, if_false]

theorem denyLoop_stops {k : Nat} {batch : List Json} (h : ¬ Taken env k batch)
    (rest : List (List Json)) (s : DenyState) :
    denyLoop env k (batch :: rest) s =
      { s with
        blockedInheritPaths := s.blockedInheritPaths ++ inheritPaths (readInfos env batch) } := by
  obtain ⟨hblocked, hall, hnot⟩ := fillInfo_eq batch s.blockedInheritPaths
  by_cases hwell : ∀ item ∈ batch, WellFormed env item
  · have hfill : fillInfo env batch s.blockedInheritPaths =
        (s.blockedInheritPaths ++ inheritPaths (readInfos env batch), some (readInfos env batch)) :=
      Prod.ext hblocked (hall hwell)
    have hioctl : env.ioctl k = false := by
      rw [Bool.eq_false_iff]
      exact fun hyes => h ⟨hwell, hyes⟩
    simp only [denyLoop, hfill, hioctl, Bool.not_false, if_true]
  · have hfill : fillInfo env batch s.blockedInheritPaths =
        (s.blockedInheritPaths ++ inheritPaths (readInfos env batch), none) :=
      Prod.ext hblocked (hnot hwell)
    simp only [denyLoop, hfill]

/-! ### The loop -/

/-- The list says what the kernel has. -/
def Mirrors (s : DenyState) : Prop := s.blockedInheritPaths = inheritPaths s.kernel

theorem stopsClean_cons_taken {k : Nat} {batch : List Json} (h : Taken env k batch)
    (rest : List (List Json)) :
    StopsClean env k (batch :: rest) ↔ StopsClean env (k + 1) rest := by
  constructor
  · intro hclean i b hb hbefore hstop
    refine hclean (i + 1) b hb (fun j b' hj hb' => ?_) (by rwa [Nat.add_comm i, ← Nat.add_assoc])
    cases j with
    | zero =>
      obtain rfl : batch = b' := Option.some.inj hb'
      exact h
    | succ j =>
      rw [Nat.add_comm j, ← Nat.add_assoc]
      exact hbefore j b' (Nat.lt_of_succ_lt_succ hj) hb'
  · intro hclean i b hb hbefore hstop
    cases i with
    | zero =>
      obtain rfl : batch = b := Option.some.inj hb
      exact absurd h hstop
    | succ i =>
      refine hclean i b hb (fun j b' hj hb' => ?_) (by rwa [Nat.add_assoc, Nat.add_comm 1])
      rw [Nat.add_assoc, Nat.add_comm 1]
      exact hbefore (j + 1) b' (Nat.succ_lt_succ hj) hb'

theorem stopsClean_cons_not {k : Nat} {batch : List Json} (h : ¬ Taken env k batch)
    (rest : List (List Json)) :
    StopsClean env k (batch :: rest) ↔ inheritPaths (readInfos env batch) = [] := by
  rw [inheritPaths_eq_nil_iff]
  constructor
  · intro hclean
    exact hclean 0 batch rfl (fun j _ hj => absurd hj (Nat.not_lt_zero j)) h
  · intro hnone i b hb hbefore hstop
    cases i with
    | zero =>
      obtain rfl : batch = b := Option.some.inj hb
      exact hnone
    | succ i => exact absurd (hbefore 0 batch (Nat.succ_pos i) rfl) h

/-- From a list that mirrors the kernel the loop ends in one exactly if it stops clean. -/
theorem denyLoop_mirrors_iff (batches : List (List Json)) {k : Nat} {s : DenyState} (hs : Mirrors s) :
    Mirrors (denyLoop env k batches s) ↔ StopsClean env k batches := by
  induction batches generalizing k s with
  | nil => exact iff_of_true hs fun i b hb => by simp at hb
  | cons batch rest ih =>
    by_cases h : Taken env k batch
    · rw [denyLoop_taken h, stopsClean_cons_taken h]
      apply ih
      show s.blockedInheritPaths ++ _ = inheritPaths (s.kernel ++ _)
      rw [inheritPaths_append, ← hs]
    · rw [denyLoop_stops h, stopsClean_cons_not h]
      show s.blockedInheritPaths ++ _ = inheritPaths s.kernel ↔ _
      rw [← hs]
      simp

/-- The loop counts the items of the batches that were taken. -/
theorem succSet_denyLoop (batches : List (List Json)) {k : Nat} {s : DenyState}
    (hne : ∀ batch ∈ batches, batch ≠ []) :
    (denyLoop env k batches s).succSet ≤ s.succSet + batches.flatten.length ∧
      ((denyLoop env k batches s).succSet = s.succSet + batches.flatten.length ↔
        ∀ i batch, batches[i]? = some batch → Taken env (k + i) batch) := by
  induction batches generalizing k s with
  | nil => simp [denyLoop]
  | cons batch rest ih =>
    have hpos := List.length_pos_iff.mpr (hne batch (List.mem_cons_self ..))
    have hrest := fun b hb => hne b (List.mem_cons_of_mem batch hb)
    rw [List.flatten_cons, List.length_append]
    by_cases h : Taken env k batch
    · rw [denyLoop_taken h]
      obtain ⟨hle, hiff⟩ := @ih (k + 1)
        ⟨s.blockedInheritPaths ++ inheritPaths (readInfos env batch),
          s.kernel ++ readInfos env batch, s.succSet + batch.length⟩ hrest
      dsimp only at hle hiff
      refine ⟨by omega, ?_⟩
      rw [← Nat.add_assoc, hiff]
      constructor
      · intro hall i b hb
        cases i with
        | zero =>
          obtain rfl : batch = b := Option.some.inj hb
          exact h
        | succ i =>
          rw [Nat.add_comm i, ← Nat.add_assoc]
          exact hall i b hb
      · intro hall i b hb
        rw [Nat.add_assoc, Nat.add_comm 1]
        exact hall (i + 1) b hb
    · rw [denyLoop_stops h]
      refine ⟨Nat.le_add_right _ _, iff_of_false ?_ fun hall => h (hall 0 batch rfl)⟩
      show ¬ s.succSet = _
      omega

/-! ### The batches of a configuration -/

/-- Enough batches hold the items in order, each of them some. -/
theorem denyBatches_spec {n : Nat} {items : List Json} (hn : items.length ≤ n) :
    (denyBatches n items).flatten = items ∧ (∀ batch ∈ denyBatches n items, batch ≠ []) ∧
      ∀ k, k < (denyBatches n items).length ↔ MAX_POLICY_NUM * k < items.length := by
  induction n generalizing items with
  | zero =>
    obtain rfl : items = [] := List.eq_nil_of_length_eq_zero (Nat.le_zero.mp hn)
    simp [denyBatches]
  | succ n ih =>
    cases items with
    | nil => simp [denyBatches]
    | cons item rest =>
      have hdrop : ((item :: rest).drop MAX_POLICY_NUM).length ≤ n := by
        simp only [List.length_drop, MAX_POLICY_NUM]
        omega
      obtain ⟨hflatten, hne, hcount⟩ := ih hdrop
      have hcons : denyBatches (n + 1) (item :: rest) = (item :: rest).take MAX_POLICY_NUM ::
          denyBatches n ((item :: rest).drop MAX_POLICY_NUM) := rfl
      rw [List.length_drop] at hcount
      rw [hcons]
      refine ⟨?_, ?_, fun k => ?_⟩
      · rw [List.flatten_cons, hflatten, List.take_append_drop]
      · rw [List.forall_mem_cons]
        exact ⟨by simp [MAX_POLICY_NUM], hne⟩
      · rw [List.length_cons]
        cases k with
        | zero => simp
        | succ k =>
          have := hcount k
          simp only [MAX_POLICY_NUM] at this ⊢
          omega

/-- Every batch is taken when every item is well formed and every request succeeds. -/
theorem forall_taken_iff (items : List Json) :
    (∀ i batch, (denyBatches items.length items)[i]? = some batch → Taken env i batch) ↔
      (∀ item ∈ items, WellFormed env item) ∧
        ∀ k, MAX_POLICY_NUM * k < items.length → env.ioctl k = true := by
  obtain ⟨hflatten, -, hcount⟩ := denyBatches_spec (Nat.le_refl items.length)
  constructor
  · intro h
    constructor
    · intro item hitem
      rw [← hflatten] at hitem
      obtain ⟨batch, hbatch, hmem⟩ := List.mem_flatten.mp hitem
      obtain ⟨i, hi⟩ := List.mem_iff_getElem?.mp hbatch
      exact (h i batch hi).1 item hmem
    · intro k hk
      exact (h k _ (List.getElem?_eq_getElem ((hcount k).mpr hk))).2
  · intro h i batch hbatch
    have hlt := (List.getElem?_eq_some_iff.mp hbatch).1
    refine ⟨fun item hitem => h.1 item ?_, h.2 i ((hcount i).mp hlt)⟩
    rw [← hflatten]
    exact List.mem_flatten_of_mem (List.mem_of_getElem? hbatch) hitem

/-- **The list mirrors the kernel** after a configuration that stops clean, and then only. Success
is reported exactly when every item is well formed and accepted. -/
theorem setDenyCfg_mirrors_iff (env : DenyEnv) (blocked : List Bytes) (rawData : Bytes) {root : Json}
    (hparse : env.cJSONParse (cStr rawData) = some root) :
    (Mirrors (setDenyCfg env blocked rawData).1 ∧
        ((setDenyCfg env blocked rawData).2 = .SANDBOX_MANAGER_OK ↔
          (∀ item ∈ jsonChildren root, WellFormed env item) ∧
            ∀ k, MAX_POLICY_NUM * k < (jsonChildren root).length → env.ioctl k = true)) ↔
      StopsClean env 0 (denyBatches (jsonChildren root).length (jsonChildren root)) := by
  obtain ⟨hflatten, hne, -⟩ := denyBatches_spec (Nat.le_refl (jsonChildren root).length)
  have hcount := (@succSet_denyLoop env (denyBatches (jsonChildren root).length (jsonChildren root))
    0 { blockedInheritPaths := [] } hne).2
  simp only [hflatten, Nat.zero_add] at hcount
  rw [setDenyCfg, hparse]
  have hok : (if (jsonChildren root).length ≠ (denyLoop env 0
        (denyBatches (jsonChildren root).length (jsonChildren root))
        { blockedInheritPaths := [] }).succSet then DenyResult.SANDBOX_MANAGER_DENY_ERR
      else DenyResult.SANDBOX_MANAGER_OK) = DenyResult.SANDBOX_MANAGER_OK ↔
      (∀ item ∈ jsonChildren root, WellFormed env item) ∧
        ∀ k, MAX_POLICY_NUM * k < (jsonChildren root).length → env.ioctl k = true := by
    rw [← forall_taken_iff, ← hcount]
    split
    case isTrue hne => exact iff_of_false (by decide) fun heq => hne heq.symm
    case isFalse heq => exact iff_of_true rfl (not_not.mp heq).symm
  exact (and_iff_left hok).trans (denyLoop_mirrors_iff _ rfl)

/-! ### A request that fails -/

def inheritItem : Json :=
  .object [(bytes "path", .string (bytes "/data/a")), (bytes "rename", .number (bytes "0")),
    (bytes "delete", .number (bytes "0")), (bytes "inherit", .number (bytes "1"))]

/-- The parser reads these items, and the kernel answers the batches so. -/
def denyEnvOf (items : List Json) (accepts : Nat → Bool) : DenyEnv where
  cJSONParse := fun _ => some (.array items)
  valueint := fun literal => if literal = bytes "1" then 1 else 0
  ioctl := accepts

theorem setDenyCfg_not_mirrors :
    ¬ ∀ (env : DenyEnv) (blocked : List Bytes) (rawData : Bytes) (root : Json),
      env.cJSONParse (cStr rawData) = some root →
      Mirrors (setDenyCfg env blocked rawData).1 ∧
        ((setDenyCfg env blocked rawData).2 = .SANDBOX_MANAGER_OK ↔
          (∀ item ∈ jsonChildren root, WellFormed env item) ∧
            ∀ k, MAX_POLICY_NUM * k < (jsonChildren root).length → env.ioctl k = true) := by
  intro h
  have hmirrors := (h (denyEnvOf [inheritItem] fun _ => false) [] [] _ rfl).1
  exact absurd hmirrors (by unfold Mirrors; decide +kernel)

def renameItem : Json :=
  .object [(bytes "path", .string (bytes "/data/b")), (bytes "rename", .number (bytes "1")),
    (bytes "delete", .number (bytes "0")), (bytes "inherit", .number (bytes "0"))]

/-- More than a batch holds: what is left over blocks no inheritance. -/
def nineItems : List Json := List.replicate MAX_POLICY_NUM inheritItem ++ [renameItem]

/-- The kernel takes the first batch only. -/
def secondRefused : DenyEnv := denyEnvOf nineItems (· == 0)

/-- The second batch is refused, and the list says what the first has made the kernel block. -/
theorem setDenyCfg_mirrors_nineItems :
    (Mirrors (setDenyCfg secondRefused [] []).1 ∧
      ((setDenyCfg secondRefused [] []).2 = .SANDBOX_MANAGER_OK ↔
        (∀ item ∈ jsonChildren (.array nineItems), WellFormed secondRefused item) ∧
          ∀ k, MAX_POLICY_NUM * k < (jsonChildren (.array nineItems)).length →
            secondRefused.ioctl k = true)) ∧
      (setDenyCfg secondRefused [] []).1.blockedInheritPaths =
        List.replicate MAX_POLICY_NUM (bytes "/data/a") := by
  refine ⟨(setDenyCfg_mirrors_iff secondRefused [] [] rfl).mpr ?_, by decide +kernel⟩
  have hbatches : denyBatches nineItems.length nineItems =
      [List.replicate MAX_POLICY_NUM inheritItem, [renameItem]] := rfl
  have htaken : Taken secondRefused 0 (List.replicate MAX_POLICY_NUM inheritItem) := by
    refine ⟨fun item hitem => ?_, rfl⟩
    rw [List.eq_of_mem_replicate hitem]
    exact (by decide +kernel : (denyPathInfo secondRefused inheritItem).isSome = true)
  have hrefused : ¬ Taken secondRefused (0 + 1) [renameItem] := fun h => Bool.false_ne_true h.2
  show StopsClean secondRefused 0 (denyBatches nineItems.length nineItems)
  rw [hbatches, stopsClean_cons_taken htaken, stopsClean_cons_not hrefused]
  decide +kernel

end

end SandboxManager.Policy
