/-
  SignetBase/FirmwareHc/RecordPhases.lean
  =======================================
  **How the record database of Signet HC carries out its commands.**

  The relation between the database and the map of its records says for each job what is under way
  (`Phase`): a block is being read, the button is waited for, a block is being written, or a
  response is being sent.  Each routine of a command leads from one phase to another (`Goes`).
-/
import SignetBase.FirmwareHc.RecordSteps

namespace SignetBase.FirmwareHc

/-! ### What is under way -/

/-- Nothing is asked of the eMMC; `short` and `long` say which press of the button is waited for. -/
structure Quiet (s : RecordStore) (short long : Bool) : Prop where
  request : s.request = none
  updating : s.blockReadCacheUpdating = false
  shortEq : s.waitingForButtonPress = short
  longEq : s.waitingForLongButtonPress = long
  cache : CacheOk s.blocks s.tables

/-- A block is being read into the cache. -/
structure Loads (s : RecordStore) (i : Nat) : Prop where
  mem : i ∈ dataBlocks
  request : s.request = some (.readCache i)
  updating : s.blockReadCacheUpdating = true
  short : s.waitingForButtonPress = false
  long : s.waitingForLongButtonPress = false
  cacheIdx : s.tables.cacheIdx = some i

/-- The scratch block is being written. -/
structure Writes (s : RecordStore) (i : Nat) : Prop where
  request : s.request = some (.write i)
  updating : s.blockReadCacheUpdating = false
  short : s.waitingForButtonPress = false
  long : s.waitingForLongButtonPress = false
  cacheIdx : s.tables.cacheIdx ≠ some i
  cache : CacheOk s.blocks s.tables

/-! ### Commands -/

/-- UPDATE_UID or UPDATE_UIDS is about to make `x` the record of `uid`. -/
structure Updates (K : RecordKey) (s : RecordStore) (uid : Nat) (x : Option Record) : Prop
    extends Concerns K s.updateUidData uid x where
  writeCount : s.updateUidData.writeCount = 0
  cmd : s.activeCmd = some .updateUid ∧ s.updateUidData.pressType = 1 ∨
    s.activeCmd = some .updateUids ∧ s.updateUidData.pressType ≠ 1
  sending : s.sending = false

/-- READ_UID is about to answer for `uid`. -/
structure Gets (K : RecordKey) (s : RecordStore) (uid : Nat) (masked : Bool) : Prop where
  cmd : s.activeCmd = some .readUid
  dataUid : s.readUidData.uid = uid
  maskedEq : s.readUidData.masked = masked
  range : MIN_UID ≤ uid ∧ uid ≤ MAX_UID
  iv : s.readUidData.iv = K.deriveIv uid
  sending : s.sending = false

/-- The uids from `uid` on that have a record. -/
def storedFrom (records : Nat → Option Record) (uid : Nat) : List Nat :=
  (List.range' uid (MAX_UID + 1 - uid)).filter fun u => (records u).isSome

/-- READ_ALL_UIDS is at a uid and has yet to report `left`, the ones stored from `start` on. -/
structure GetsAll (s : RecordStore) (records : Nat → Option Record) (masked : Bool)
    (left : List Nat) (start : Nat) : Prop where
  cmd : s.activeCmd = some .readAllUids
  messagesRemaining : s.cmdMessagesRemaining = 0
  maskedEq : s.readAllUidsData.masked = masked
  expectedRemaining : s.readAllUidsData.expectedRemaining = left.length
  left : left = storedFrom records start

/-- The blocks in front of `n` have been scanned. -/
structure Scans (P : RootPlatform) (K : RecordKey) (s : RecordStore)
    (c : Nat → Option (Nat × Record)) (n : Nat) : Prop where
  mem : n ∈ dataBlocks
  cmd : s.activeCmd = some .startup
  request : s.request = some (.readScan n)
  updating : s.blockReadCacheUpdating = false
  short : s.waitingForButtonPress = false
  long : s.waitingForLongButtonPress = false
  cache : CacheOk s.blocks s.tables
  blkNum : s.scanBlkNum = n
  sending : s.sending = false
  slot : ∀ j ∈ dataBlocks, j < n → Slot P K (s.tables.blockInfoTbl j) (s.blocks j) (c j)
  points : Points (· ≤ MAX_UID) (fun j => j ∈ dataBlocks ∧ j < n) c INVALID_BLOCK s.tables.uidMap

/-- **What is under way for a job**, and how many completions it takes at most until the job is over
    or the button is waited for. -/
inductive Phase (P : RootPlatform) (K : RecordKey) (s : RecordStore)
    (c : Nat → Option (Nat × Record)) (records : Nat → Option Record) : Option Job → Nat → Prop
  | idle : Quiet s false false → s.activeCmd ≠ some .readAllUids →
      (s.deviceState ≠ .disconnected → TablesOk P K s.blocks c s.tables) →
      Phase P K s c records none (if s.sending then 1 else 0)
  | updateLoads {uid i : Nat} {x : Option Record} : Updates K s uid x →
      Feasible s.tables records uid x → neededBlock s.tables uid = some i → Loads s i →
      TablesOk P K s.blocks c s.tables → Phase P K s c records (some (.update uid x)) 3
  | updateWaits {uid : Nat} {x : Option Record} {l : Bool} : Updates K s uid x →
      (l = true ↔ s.activeCmd = some .updateUids) → Quiet s (!l) l →
      Prepared P K records c uid x s.updateUidData.prevBlockNum s.updateUidData.blockNum
        s.updateUidData.scratch →
      TablesOk P K s.blocks c s.tables → Phase P K s c records (some (.update uid x)) 0
  | updateWrites {uid : Nat} {x : Option Record} : Updates K s uid x →
      Writes s s.updateUidData.blockNum →
      Placed records c uid x s.updateUidData.prevBlockNum s.updateUidData.blockNum →
      Slot P K s.updateUidData.scratch.blkInfo s.updateUidData.scratch.block
        (x.map fun r => (uid, r)) →
      TablesOk P K s.blocks c s.tables → Phase P K s c records (some (.update uid x)) 2
  | getLoads {uid : Nat} {masked : Bool} : Gets K s uid masked → Loads s (s.tables.uidMap uid) →
      TablesOk P K s.blocks c s.tables → Phase P K s c records (some (.get uid masked)) 2
  | getWaits {uid : Nat} {r : Record} : Gets K s uid false → Quiet s true false →
      s.readUidData.blockNum ∈ dataBlocks → s.readUidData.index = 0 →
      s.tables.cacheIdx = some s.readUidData.blockNum →
      c s.readUidData.blockNum = some (uid, r) → TablesOk P K s.blocks c s.tables →
      Phase P K s c records (some (.get uid false)) 0
  | getAllWaits {masked : Bool} {left : List Nat} :
      GetsAll s records masked left s.readAllUidsData.uid → Quiet s false true →
      s.sending = false → TablesOk P K s.blocks c s.tables →
      Phase P K s c records (some (.getAll masked left)) 0
  | getAllLoads {masked : Bool} {left : List Nat} :
      GetsAll s records masked left s.readAllUidsData.uid →
      left.head? = some s.readAllUidsData.uid →
      Loads s (s.tables.uidMap s.readAllUidsData.uid) → s.sending = false →
      TablesOk P K s.blocks c s.tables →
      Phase P K s c records (some (.getAll masked left)) (2 * left.length)
  | getAllSends {masked : Bool} {left : List Nat} :
      GetsAll s records masked left (s.readAllUidsData.uid + 1) → left ≠ [] → Quiet s false false →
      s.sending = true → TablesOk P K s.blocks c s.tables →
      Phase P K s c records (some (.getAll masked left)) (2 * left.length + 1)
  | scans {n : Nat} : Scans P K s c n →
      Phase P K s c records (some .scan) (MAX_DATA_BLOCK + 2 - n)

/-- The database is in order: its blocks hold the records. -/
structure Holds (P : RootPlatform) (K : RecordKey) (s : RecordStore)
    (c : Nat → Option (Nat × Record)) (a : RecordMap) : Prop where
  card : OnCard P K s.blocks c
  records : Represents (· ∈ dataBlocks) c a.records
  state : a.state = s.deviceState
  invalid : s.tables.uidMap 0 = INVALID_BLOCK

/-- **The database stands for the map.** -/
def StandsFor (P : RootPlatform) (K : RecordKey) (s : RecordStore) (a : RecordMap) (n : Nat) :
    Prop :=
  ∃ c, Holds P K s c a ∧ Phase P K s c a.records a.job n

/-- What a routine sends may be sent for the job, and the states are related again, with at most
    `m` completions to come. -/
def Goes (P : RootPlatform) (K : RecordKey) (s s' : RecordStore) (a : RecordMap) (m : Nat) : Prop :=
  ∃ out a' n, s'.sent = s.sent ++ out ∧ RecordMap.Works K.startupResp a out a' ∧
    StandsFor P K s' a' n ∧ n ≤ m

section Routines

variable {P : RootPlatform} {K : RecordKey} {s : RecordStore} {c : Nat → Option (Nat × Record)}
  {a : RecordMap} {uid m : Nat} {x : Option Record}

/-! ### Responses and requests -/

/-- What is looked at of the state and of the map. -/
theorem Holds.congr {s' : RecordStore} {a' : RecordMap} (h : Holds P K s c a)
    (hblocks : s'.blocks = s.blocks) (hmap : s'.tables.uidMap = s.tables.uidMap)
    (hrecords : a'.records = a.records) (hstate : a'.state = s'.deviceState) :
    Holds P K s' c a' := by
  refine ⟨?_, ?_, hstate, ?_⟩
  · rw [hblocks]
    exact h.card
  · rw [hrecords]
    exact h.records
  · rw [hmap]
    exact h.invalid

/-- A command that has been answered is over. -/
theorem Holds.finish (ha : Holds P K s c a) (hq : Quiet s false false)
    (hT : s.deviceState ≠ .disconnected → TablesOk P K s.blocks c s.tables)
    (hcmd : s.activeCmd ≠ some .readAllUids ∨ s.cmdMessagesRemaining = 0) (hjob : a.job = none)
    (resp : CommandResponse) (payload : Bytes) :
    StandsFor P K (s.finishCommand resp payload) a 1 := by
  refine ⟨c, ha.congr rfl rfl rfl ha.state, ?_⟩
  rw [hjob]
  refine .idle ⟨hq.request, hq.updating, hq.shortEq, hq.longEq, hq.cache⟩ ?_ hT
  change (if (0 : Int) = 0 ∧ s.cmdMessagesRemaining = 0 then none else s.activeCmd) ≠ _
  split
  · exact fun h => by cases h
  · rename_i hrem
    rcases hcmd with hne | hzero
    · exact hne
    · exact absurd ⟨rfl, hzero⟩ hrem

theorem Goes.answer {a' : RecordMap} {resp : CommandResponse} {payload : Bytes}
    (hw : RecordMap.Works K.startupResp a [⟨resp, 0, payload⟩] a') (ha : Holds P K s c a')
    (hq : Quiet s false false)
    (hT : s.deviceState ≠ .disconnected → TablesOk P K s.blocks c s.tables)
    (hcmd : s.activeCmd ≠ some .readAllUids ∨ s.cmdMessagesRemaining = 0) (hjob : a'.job = none)
    (hm : 1 ≤ m) : Goes P K s (s.finishCommand resp payload) a m :=
  ⟨[_], a', 1, rfl, hw, ha.finish hq hT hcmd hjob resp payload, hm⟩

theorem Goes.mono {s' : RecordStore} {n : Nat} (h : Goes P K s s' a n) (hle : n ≤ m) :
    Goes P K s s' a m := by
  obtain ⟨out, a', k, hsent, hworks, hstands, hk⟩ := h
  exact ⟨out, a', k, hsent, hworks, hstands, Nat.le_trans hk hle⟩

/-- A routine that sends nothing. -/
theorem Goes.waits {s' : RecordStore} {n : Nat} (hsent : s'.sent = s.sent) (ha : Holds P K s' c a)
    (hphase : Phase P K s' c a.records a.job n) (hle : n ≤ m) : Goes P K s s' a m :=
  ⟨[], a, n, by rw [hsent, List.append_nil], .waits, ⟨c, ha, hphase⟩, hle⟩

/-- A routine that sends nothing and leaves the map. -/
theorem StandsFor.goes {s' : RecordStore} {n : Nat} (h : StandsFor P K s' a n)
    (hsent : s'.sent = s.sent) : Goes P K s s' a n :=
  ⟨[], a, n, by rw [hsent, List.append_nil], .waits, h, Nat.le_refl n⟩

theorem Quiet.load (hq : Quiet s false false) {i : Nat} (hmem : i ∈ dataBlocks) :
    Loads (s.loadDataBlock i) i :=
  ⟨hmem, rfl, rfl, hq.shortEq, hq.longEq, rfl⟩

theorem Quiet.write (hq : Quiet s false false) (i : Nat) : Writes (s.writeDataBlock i) i := by
  refine ⟨rfl, hq.updating, hq.shortEq, hq.longEq, ?_, ?_⟩
  · change (if s.tables.cacheIdx = some i then none else s.tables.cacheIdx) ≠ some i
    split
    · exact fun h => by cases h
    · assumption
  · intro j hj
    change (if s.tables.cacheIdx = some i then none else s.tables.cacheIdx) = some j at hj
    split at hj
    · cases hj
    · exact hq.cache j hj

/-! ### UPDATE_UID -/

/-- The block that was prepared is written. -/
theorem updateUidCmdComplete_writes (ha : Holds P K s c a) (hjob : a.job = some (.update uid x))
    (hu : Updates K s uid x) (hq : Quiet s false false)
    (hp : Prepared P K a.records c uid x s.updateUidData.prevBlockNum s.updateUidData.blockNum
      s.updateUidData.scratch) (hT : TablesOk P K s.blocks c s.tables) :
    StandsFor P K (s.updateUidCmdComplete P) a 2 := by
  have hq' : Quiet { s with updateUidData :=
      { s.updateUidData with scratch := completed P s.updateUidData.scratch } } false false :=
    ⟨hq.request, hq.updating, hq.shortEq, hq.longEq, hq.cache⟩
  have hblock := hp.block
  rw [← completed_blkInfo (P := P)] at hblock
  refine ⟨c, ha.congr rfl rfl rfl ha.state, ?_⟩
  rw [hjob]
  exact .updateWrites
    ⟨⟨hu.dataUid, hu.range, hu.iv, hu.sz, hu.entry⟩, hu.writeCount, hu.cmd, hu.sending⟩
    (hq'.write _) hp.toPlaced hblock ⟨hT.slot, hT.points⟩

/-- What is done with a block that was prepared: the button is waited for, unless the command has
    had its press. -/
theorem prepared_goes (ha : Holds P K s c a) (hjob : a.job = some (.update uid x))
    (hu : Updates K s uid x) (hq : Quiet s false false)
    (hp : Prepared P K a.records c uid x s.updateUidData.prevBlockNum s.updateUidData.blockNum
      s.updateUidData.scratch) (hT : TablesOk P K s.blocks c s.tables) :
    Goes P K s
      (if s.updateUidData.pressType = 0 then s.updateUidCmdComplete P
        else if s.updateUidData.pressType = 1 then s.beginButtonPressWait
        else s.beginLongButtonPressWait) a 2 := by
  by_cases hpress : s.updateUidData.pressType = 0
  · rw [if_pos hpress]
    exact (updateUidCmdComplete_writes ha hjob hu hq hp hT).goes rfl
  · rw [if_neg hpress]
    rcases hu.cmd with ⟨hcmd, hone⟩ | ⟨hcmd, hone⟩
    · rw [if_pos hone]
      refine .waits rfl (ha.congr rfl rfl rfl ha.state) ?_ (Nat.zero_le 2)
      rw [hjob]
      refine .updateWaits (l := false) ⟨hu.toConcerns, hu.writeCount, hu.cmd, hu.sending⟩ ?_
        ⟨hq.request, hq.updating, rfl, hq.longEq, hq.cache⟩ hp hT
      change false = true ↔ s.activeCmd = _
      rw [hcmd]
      decide
    · rw [if_neg hone]
      refine .waits rfl (ha.congr rfl rfl rfl ha.state) ?_ (Nat.zero_le 2)
      rw [hjob]
      refine .updateWaits (l := true) ⟨hu.toConcerns, hu.writeCount, hu.cmd, hu.sending⟩ ?_
        ⟨hq.request, hq.updating, hq.shortEq, rfl, hq.cache⟩ hp hT
      change true = true ↔ s.activeCmd = _
      rw [hcmd]
      decide

/-- What `uid_map` is set to. -/
theorem Concerns.mapped {d : UpdateUidData} (hd : Concerns K d uid x) :
    (if d.sz = 0 then INVALID_BLOCK else d.blockNum) =
      x.elim INVALID_BLOCK fun _ => d.blockNum := by
  cases hx : x with
  | none =>
    rw [hx] at hd
    exact if_pos hd.sz
  | some r =>
    rw [hx] at hd
    refine if_neg ?_
    rw [hd.sz]
    exact r.pos

/-- One write is all when the record stays in its block. -/
theorem updateUidCmdWriteFinished_stays (hcount : s.updateUidData.writeCount = 0)
    (hstays : s.updateUidData.prevBlockNum = s.updateUidData.blockNum ∨
      s.updateUidData.prevBlockNum = INVALID_BLOCK) :
    s.updateUidCmdWriteFinished P =
      let s := { s with updateUidData := { s.updateUidData with writeCount := 1 } }
      let d := s.updateUidData
      ((s.setBlockInfo d.blockNum).setUidMap d.uid
        (if d.sz = 0 then INVALID_BLOCK else d.blockNum)).finishCommandResp .okay := by
  have hsecond : ¬ (s.updateUidData.prevBlockNum ≠ s.updateUidData.blockNum ∧
      s.updateUidData.prevBlockNum ≠ INVALID_BLOCK) := by
    rintro ⟨hne, hinvalid⟩
    exact hstays.elim hne hinvalid
  unfold RecordStore.updateUidCmdWriteFinished
  dsimp only
  rw [hcount, if_pos rfl, if_neg hsecond]

/-- **When the block is stored the record is what it should be.** -/
theorem writeComplete_makes (ha : Holds P K s c a) (hu : Updates K s uid x)
    (hw : Writes s s.updateUidData.blockNum)
    (hp : Placed a.records c uid x s.updateUidData.prevBlockNum s.updateUidData.blockNum)
    (hslot : Slot P K s.updateUidData.scratch.blkInfo s.updateUidData.scratch.block
      (x.map fun r => (uid, r))) (hT : TablesOk P K s.blocks c s.tables) :
    (s.writeComplete P).sent = s.sent ++ [⟨.okay, 0, []⟩] ∧
      StandsFor P K (s.writeComplete P) (a.update uid x) 1 := by
  have hfinished : s.writeComplete P =
      RecordStore.updateUidCmdWriteFinished P
        { s with request := none, blocks := s.storeBlock s.updateUidData.blockNum } := by
    unfold RecordStore.writeComplete
    rw [hw.request]
    unfold RecordStore.writeBlockComplete
    dsimp only
    rcases hu.cmd with ⟨hcmd, -⟩ | ⟨hcmd, -⟩ <;> rw [hcmd]
  have hzero : 0 ≠ s.updateUidData.uid := by
    have hpos : 0 < MIN_UID := by decide
    have hmin := hu.range.1
    rw [← hu.dataUid] at hmin
    omega
  rw [hfinished, updateUidCmdWriteFinished_stays
    (s := { s with request := none, blocks := s.storeBlock s.updateUidData.blockNum })
    hu.writeCount hp.stays]
  have hpoints := hp.points ha.records hT.points
  rw [← hu.toConcerns.mapped] at hpoints
  have hmap : ∀ n, Function.update s.tables.uidMap uid n =
      Function.update s.tables.uidMap s.updateUidData.uid n := by
    intro n
    rw [hu.dataUid]
  rw [hmap] at hpoints
  refine ⟨rfl, Holds.finish
    (c := Function.update c s.updateUidData.blockNum (x.map fun r => (uid, r)))
    ⟨?_, ?_, ?_, ?_⟩ ⟨?_, ?_, ?_, ?_, ?_⟩ ?_ ?_ rfl _ _⟩
  · exact OnCard.stored hslot ha.card
  · exact hp.represents ha.records
  · exact ha.state
  · refine Eq.trans (Function.update_of_ne hzero _ _) ha.invalid
  · rfl
  · exact hw.updating
  · exact hw.short
  · exact hw.long
  · exact hw.cache.stored hw.cacheIdx _
  · exact fun _ => TablesOk.stored hslot hT hpoints
  · refine .inl ?_
    rcases hu.cmd with ⟨hcmd, -⟩ | ⟨hcmd, -⟩
    · exact fun h => by
        have heq := hcmd.symm.trans h
        cases heq
    · exact fun h => by
        have heq := hcmd.symm.trans h
        cases heq

/-! ### The block arrives -/

/-- The state in which a command is begun anew. -/
def RecordStore.arrived (s : RecordStore) (i : Nat) : RecordStore :=
  { s with
    request := none
    tables := { s.tables with cache := s.tables.cache.copy 0 (s.blocks i) 0 BLK_SIZE }
    blockReadCacheUpdating := false }

section Arrived

variable {i : Nat} (hl : Loads s i)

include hl

theorem Loads.quiet : Quiet (s.arrived i) false false := by
  refine ⟨rfl, rfl, hl.short, hl.long, fun j hj b hb => ?_⟩
  have hij : i = j := Option.some.inj (hl.cacheIdx.symm.trans hj)
  rw [← hij]
  exact copyBlock_apply _ _ hb

theorem readComplete_update
    (hcmd : s.activeCmd = some .updateUid ∨ s.activeCmd = some .updateUids) :
    s.readComplete P K = (s.arrived i).updateUidCmdIter P K := by
  rcases hcmd with hcmd | hcmd <;>
    simp only [RecordStore.readComplete, hl.request, RecordStore.db3ReadBlockComplete, hl.updating,
      ↓reduceIte, hcmd, RecordStore.arrived]

theorem readComplete_get (hcmd : s.activeCmd = some .readUid) :
    s.readComplete P K = (s.arrived i).readUidCmdIter K := by
  simp only [RecordStore.readComplete, hl.request, RecordStore.db3ReadBlockComplete, hl.updating,
    ↓reduceIte, hcmd, RecordStore.arrived]

theorem readComplete_getAll (hcmd : s.activeCmd = some .readAllUids) :
    s.readComplete P K = (s.arrived i).readAllUidsCmdIter K := by
  simp only [RecordStore.readComplete, hl.request, RecordStore.db3ReadBlockComplete, hl.updating,
    ↓reduceIte, hcmd, RecordStore.arrived]

end Arrived

variable (hK : BlockInverse K.enc K.dec)

include hK in
/-- **`update_uid_cmd_iter` reads the block it needs, waits for the button or goes on.** -/
theorem updateUidCmdIter_goes (ha : Holds P K s c a) (hjob : a.job = some (.update uid x))
    (hu : Updates K s uid x) (hf : Feasible s.tables a.records uid x) (hq : Quiet s false false)
    (hT : TablesOk P K s.blocks c s.tables) (hm : 2 ≤ m)
    (hcached : ∀ i, neededBlock s.tables uid = some i → s.tables.cacheIdx ≠ some i → 3 ≤ m) :
    Goes P K s (s.updateUidCmdIter P K) a m := by
  unfold RecordStore.updateUidCmdIter
  rcases updateUid_spec hK hT hq.cache ha.records hu.toConcerns hf with
    ⟨i, hmem, hcache, hneeded, hload⟩ | ⟨prev, i, t, hsuccess, hp⟩
  · rw [hload]
    refine .waits rfl (ha.congr rfl rfl rfl ha.state) ?_ (hcached i hneeded hcache)
    rw [hjob]
    exact .updateLoads ⟨hu.toConcerns, hu.writeCount, hu.cmd, hu.sending⟩ ⟨hf.removed, hf.room⟩
      hneeded (hq.load hmem) ⟨hT.slot, hT.points⟩
  · rw [hsuccess]
    have hgoes := prepared_goes (s := { s with updateUidData :=
        { s.updateUidData with prevBlockNum := prev, blockNum := i, scratch := t } })
      (ha.congr rfl rfl rfl ha.state) hjob
      ⟨⟨hu.dataUid, hu.range, hu.iv, hu.sz, hu.entry⟩, hu.writeCount, hu.cmd, hu.sending⟩
      ⟨hq.request, hq.updating, hq.shortEq, hq.longEq, hq.cache⟩ hp hT
    exact hgoes.mono hm

/-! ### READ_UID -/

include hK in
/-- The record in the cache is the answer. -/
theorem readUidCmdComplete_shows {masked : Bool} {r : Record} (ha : Holds P K s c a)
    (hg : Gets K s uid masked) (hq : Quiet s false false)
    (hmem : s.readUidData.blockNum ∈ dataBlocks) (hindex : s.readUidData.index = 0)
    (hcache : s.tables.cacheIdx = some s.readUidData.blockNum)
    (hc : c s.readUidData.blockNum = some (uid, r)) (hT : TablesOk P K s.blocks c s.tables) :
    (s.readUidCmdComplete K).sent = s.sent ++ [⟨.okay, 0, Mem.bytes16 r.sz ++ r.shown masked⟩] ∧
      StandsFor P K (s.readUidCmdComplete K) a.done 1 := by
  have hslot := hT.slot _ hmem
  rw [hc] at hslot
  obtain ⟨hsz, hdecode⟩ := decodeUid_slot hK (hslot.congr (hq.cache _ hcache)) masked
  have hcached : getCachedDataBlock s.tables s.readUidData.blockNum = some s.tables.cache :=
    if_pos hcache
  have hcomplete : s.readUidCmdComplete K =
      s.finishCommand .okay (Mem.bytes16 r.sz ++ r.shown masked) := by
    unfold RecordStore.readUidCmdComplete
    dsimp only
    rw [hcached]
    dsimp only
    rw [hindex, hsz, hg.maskedEq, hg.iv, hdecode]
  rw [hcomplete]
  refine ⟨rfl, Holds.finish (a := a.done) ⟨ha.card, ha.records, ha.state, ha.invalid⟩ hq
    (fun _ => hT) (.inl ?_) rfl _ _⟩
  rw [hg.cmd]
  exact fun h => by cases h

include hK in
theorem readUidCmdComplete_goes {masked : Bool} {r : Record} (ha : Holds P K s c a)
    (hjob : a.job = some (.get uid masked)) (hg : Gets K s uid masked) (hq : Quiet s false false)
    (hmem : s.readUidData.blockNum ∈ dataBlocks) (hindex : s.readUidData.index = 0)
    (hcache : s.tables.cacheIdx = some s.readUidData.blockNum)
    (hc : c s.readUidData.blockNum = some (uid, r)) (hT : TablesOk P K s.blocks c s.tables)
    (hm : 1 ≤ m) : Goes P K s (s.readUidCmdComplete K) a m := by
  obtain ⟨hsent, hstands⟩ := readUidCmdComplete_shows hK ha hg hq hmem hindex hcache hc hT
  exact ⟨[_], a.done, 1, hsent, .got hjob (ha.records.sound hmem hc), hstands, hm⟩

include hK in
/-- **`read_uid_cmd_iter` reads the block it needs, waits for the button or answers.** -/
theorem readUidCmdIter_goes {masked : Bool} (ha : Holds P K s c a)
    (hjob : a.job = some (.get uid masked)) (hg : Gets K s uid masked) (hq : Quiet s false false)
    (hT : TablesOk P K s.blocks c s.tables)
    (hm : 1 ≤ m) (hcached : s.tables.cacheIdx ≠ some (s.tables.uidMap uid) → 2 ≤ m) :
    Goes P K s (s.readUidCmdIter K) a m := by
  have hcmd : s.activeCmd ≠ some .readAllUids := by
    rw [hg.cmd]
    exact fun h => by cases h
  unfold RecordStore.readUidCmdIter
  rw [hg.dataUid]
  cases hrec : a.records uid with
  | none =>
    rw [findUid_absent hT ha.records hg.range.2 hrec]
    exact .answer (.missing hjob hrec) ⟨ha.card, ha.records, ha.state, ha.invalid⟩ hq
      (fun _ => hT) (.inl hcmd) rfl hm
  | some r =>
    obtain ⟨hmem, hc, hfind⟩ := findUid_present hT hq.cache ha.records hg.range.2 hrec
    rw [hfind]
    by_cases hcache : s.tables.cacheIdx = some (s.tables.uidMap uid)
    · rw [if_pos hcache]
      dsimp only
      split
      · exact readUidCmdComplete_goes hK
          (s := { s with readUidData :=
            { s.readUidData with blockNum := s.tables.uidMap uid, index := 0 } })
          (ha.congr rfl rfl rfl ha.state) hjob
          ⟨hg.cmd, hg.dataUid, hg.maskedEq, hg.range, hg.iv, hg.sending⟩
          ⟨hq.request, hq.updating, hq.shortEq, hq.longEq, hq.cache⟩ hmem rfl hcache hc hT hm
      · rename_i hmasked
        have hfalse : masked = false := by
          rw [← hg.maskedEq]
          exact Bool.eq_false_iff.mpr hmasked
        subst hfalse
        refine .waits rfl (ha.congr rfl rfl rfl ha.state) ?_ (Nat.zero_le m)
        rw [hjob]
        exact .getWaits ⟨hg.cmd, hg.dataUid, hg.maskedEq, hg.range, hg.iv, hg.sending⟩
          ⟨hq.request, hq.updating, rfl, hq.longEq, hq.cache⟩ hmem rfl hcache hc hT
    · rw [if_neg hcache]
      refine .waits rfl (ha.congr rfl rfl rfl ha.state) ?_ (hcached hcache)
      rw [hjob]
      exact .getLoads ⟨hg.cmd, hg.dataUid, hg.maskedEq, hg.range, hg.iv, hg.sending⟩ (hq.load hmem)
        ⟨hT.slot, hT.points⟩

/-! ### READ_ALL_UIDS -/

/-- What is left of a range behind the first number that is kept. -/
theorem filter_range'_cons {p : Nat → Bool} {n m u : Nat} {l : List Nat}
    (h : (List.range' n m).filter p = u :: l) :
    n ≤ u ∧ u < n + m ∧ l = (List.range' (u + 1) (n + m - (u + 1))).filter p := by
  induction m generalizing n with
  | zero => cases h
  | succ m ih =>
    rw [List.range'_succ, List.filter_cons] at h
    split at h
    · obtain ⟨hnu, hl⟩ := List.cons.inj h
      have hlen : n + (m + 1) - (n + 1) = m := by omega
      rw [← hnu, hlen]
      exact ⟨Nat.le_refl n, by omega, hl.symm⟩
    · obtain ⟨hle, hlt, hl⟩ := ih h
      have hsum : n + 1 + m = n + (m + 1) := by omega
      rw [hsum] at hl
      exact ⟨by omega, by omega, hl⟩

theorem storedFrom_cons {records : Nat → Option Record} {start : Nat} {left : List Nat}
    (h : storedFrom records start = uid :: left) :
    uid ≤ MAX_UID ∧ (records uid).isSome ∧ left = storedFrom records (uid + 1) := by
  have hmem : uid ∈ storedFrom records start := by
    rw [h]
    exact List.mem_cons_self
  obtain ⟨-, hlt, hleft⟩ := filter_range'_cons h
  have hrange := List.mem_range'_1.mp (List.mem_filter.mp hmem).1
  have hsum : start + (MAX_UID + 1 - start) - (uid + 1) = MAX_UID + 1 - (uid + 1) := by omega
  rw [hsum] at hleft
  exact ⟨by omega, (List.mem_filter.mp hmem).2, hleft⟩

theorem storedFrom_of_isSome {records : Nat → Option Record} (hle : uid ≤ MAX_UID)
    (hsome : (records uid).isSome) :
    storedFrom records uid = uid :: storedFrom records (uid + 1) := by
  have hlen : MAX_UID + 1 - uid = MAX_UID + 1 - (uid + 1) + 1 := by omega
  unfold storedFrom
  rw [hlen, List.range'_succ, List.filter_cons_of_pos (p := fun u => (records u).isSome) hsome]

/-- The loop over `uid_map` finds the next uid that has a record. -/
theorem nextUid_eq (ha : Holds P K s c a) (hT : TablesOk P K s.blocks c s.tables) (start : Nat) :
    RecordStore.nextUid s.tables.uidMap start =
      (storedFrom a.records start).head?.getD (MAX_UID + 1) := by
  have hkept : storedFrom a.records start = (List.range' start (MAX_UID + 1 - start)).filter
      fun u => s.tables.uidMap u ≠ INVALID_BLOCK := by
    refine List.filter_congr fun u hu => ?_
    have hle : u ≤ MAX_UID := by
      have hrange := List.mem_range'_1.mp hu
      omega
    rw [Bool.eq_iff_iff, decide_eq_true_iff]
    exact hT.points.isSome_iff ha.records invalid_notMem hle
  rw [hkept, List.head?_filter]
  rfl

include hK in
/-- **`read_all_uids_cmd_iter` reads the block it needs or reports the next record.** -/
theorem readAllUidsCmdIter_goes {masked : Bool} {left : List Nat} (ha : Holds P K s c a)
    (hjob : a.job = some (.getAll masked left))
    (hg : GetsAll s a.records masked left s.readAllUidsData.uid) (hq : Quiet s false false)
    (hsending : s.sending = false) (hT : TablesOk P K s.blocks c s.tables)
    (hone : 1 ≤ m) (hm : 2 * left.length - 1 ≤ m)
    (hcached : ∀ u, left.head? = some u → s.tables.cacheIdx ≠ some (s.tables.uidMap u) →
      2 * left.length ≤ m) :
    Goes P K s (s.readAllUidsCmdIter K) a m := by
  have hnext := nextUid_eq ha hT s.readAllUidsData.uid
  rw [← hg.left] at hnext
  unfold RecordStore.readAllUidsCmdIter
  rw [hnext]
  cases hleft : left with
  | nil =>
    rw [hleft] at hjob
    have hlast : MAX_UID + 1 > MAX_UID := Nat.lt_succ_self _
    dsimp only [List.head?_nil, Option.getD_none]
    rw [if_pos hlast]
    exact .answer (.empty hjob) (s := { s with readAllUidsData := _ })
      ⟨ha.card, ha.records, ha.state, ha.invalid⟩
      ⟨hq.request, hq.updating, hq.shortEq, hq.longEq, hq.cache⟩ (fun _ => hT)
      (.inr hg.messagesRemaining) rfl hone
  | cons u rest =>
    have hcons := hg.left.symm.trans hleft
    obtain ⟨hle, hsome, hrest⟩ := storedFrom_cons hcons
    obtain ⟨r, hrec⟩ := Option.isSome_iff_exists.mp hsome
    obtain ⟨hmem, hc, hfind⟩ := findUid_present hT hq.cache ha.records hle hrec
    dsimp only [List.head?_cons, Option.getD_some]
    rw [if_neg (Nat.not_lt.mpr hle), hfind]
    by_cases hcache : s.tables.cacheIdx = some (s.tables.uidMap u)
    · rw [if_pos hcache]
      have hslot := hT.slot _ hmem
      rw [hc] at hslot
      obtain ⟨hsz, hdecode⟩ := decodeUid_slot hK (hslot.congr (hq.cache _ hcache)) masked
      have hremaining : s.readAllUidsData.expectedRemaining - 1 = rest.length := by
        rw [hg.expectedRemaining, hleft, List.length_cons]
        omega
      dsimp only
      rw [hsz, hremaining, hg.maskedEq, hdecode]
      rw [hleft] at hjob
      have hrank : 2 * rest.length + 1 ≤ m := by
        rw [hleft, List.length_cons] at hm
        omega
      refine ⟨[_], _, 2 * rest.length + 1, rfl, .next hjob hrec,
        ⟨c, ha.congr rfl rfl rfl ha.state, ?_⟩, hrank⟩
      dsimp only
      by_cases hempty : rest = []
      · rw [if_pos hempty, hempty]
        refine .idle ⟨hq.request, hq.updating, hq.shortEq, hq.longEq, hq.cache⟩ ?_ fun _ => hT
        change (if (0 : Int) = 0 ∧ s.cmdMessagesRemaining = 0 then none else s.activeCmd) ≠ _
        rw [if_pos ⟨rfl, hg.messagesRemaining⟩]
        exact fun h => by cases h
      · rw [if_neg hempty]
        refine .getAllSends ⟨?_, hg.messagesRemaining, rfl, rfl, hrest⟩ hempty
          ⟨hq.request, hq.updating, hq.shortEq, hq.longEq, hq.cache⟩ rfl hT
        change (if (rest.length : Int) = 0 ∧ s.cmdMessagesRemaining = 0 then none
          else s.activeCmd) = _
        rw [if_neg]
        · exact hg.cmd
        · rintro ⟨hzero, -⟩
          exact hempty (List.length_eq_zero_iff.mp (Int.natCast_eq_zero.mp hzero))
    · rw [if_neg hcache]
      dsimp only
      have hhead : left.head? = some u := by
        rw [hleft]
        rfl
      refine .waits rfl (ha.congr rfl rfl rfl ha.state) ?_ (hcached u hhead hcache)
      rw [hjob]
      refine .getAllLoads ⟨hg.cmd, hg.messagesRemaining, hg.maskedEq, hg.expectedRemaining, ?_⟩
        hhead ⟨hmem, rfl, rfl, hq.shortEq, hq.longEq, rfl⟩ hsending ⟨hT.slot, hT.points⟩
      rw [hleft, hrest]
      exact (storedFrom_of_isSome hle hsome).symm

/-! ### STARTUP -/

theorem Slot.range {info : BlockInfo} {blk : Mem} {r : Record}
    (h : Slot P K info blk (some (uid, r))) : MIN_UID ≤ uid ∧ uid ≤ MAX_UID := by
  cases h with
  | holds _ _ henc => exact henc.range

/-- No block has a record with the uid 0. -/
theorem OnCard.invalid {blocks : Nat → Mem} {dom : Nat → Prop} {uidMap : Nat → Nat}
    (hcard : OnCard P K blocks c) (hdom : ∀ j, dom j → j ∈ dataBlocks)
    (hpoints : Points (· ≤ MAX_UID) dom c INVALID_BLOCK uidMap) : uidMap 0 = INVALID_BLOCK := by
  rcases hpoints 0 (Nat.zero_le _) with ⟨hmem, r, hc⟩ | ⟨hinvalid, -⟩
  · obtain ⟨info, hslot⟩ := hcard _ (hdom _ hmem)
    rw [hc] at hslot
    exact absurd hslot.range.1 (by decide)
  · exact hinvalid

theorem db3StartupScan_goes (ha : Holds P K s c a) (hjob : a.job = some .scan)
    (hq : Quiet s false false) (hsending : s.sending = false) (hcmd : s.activeCmd = some .startup) :
    Goes P K s s.db3StartupScan a (MAX_DATA_BLOCK + 2 - MIN_DATA_BLOCK) := by
  have hmin : MIN_DATA_BLOCK ∈ dataBlocks := mem_dataBlocks.mpr ⟨Nat.le_refl _, by decide⟩
  have hpoints : Points (· ≤ MAX_UID) (fun j => j ∈ dataBlocks ∧ j < MIN_DATA_BLOCK) c INVALID_BLOCK
      s.db3StartupScan.tables.uidMap := by
    intro uid huid
    refine .inr ⟨?_, fun j _ hj => absurd hj.2 (Nat.not_lt.mpr (mem_dataBlocks.mp hj.1).1)⟩
    change (if MIN_UID ≤ uid ∧ uid ≤ MAX_UID then INVALID_BLOCK else s.tables.uidMap uid) = _
    by_cases hpos : MIN_UID ≤ uid
    · rw [if_pos ⟨hpos, huid⟩]
    · have hone : MIN_UID = 1 := rfl
      have hzero : uid = 0 := by omega
      rw [if_neg fun h => hpos h.1, hzero]
      exact ha.invalid
  refine .waits rfl
    ⟨ha.card, ha.records, ha.state, ha.card.invalid (fun _ hj => hj.1) hpoints⟩ ?_ (Nat.le_refl _)
  rw [hjob]
  refine .scans ⟨hmin, hcmd, rfl, hq.updating, hq.shortEq, hq.longEq, hq.cache, rfl, hsending, ?_,
    hpoints⟩
  exact fun j hj hlt => absurd hlt (Nat.not_lt.mpr (mem_dataBlocks.mp hj).1)

/-- **The scan of a block leads to the next one, or the device is ready.** -/
theorem scan_goes {n : Nat} (ha : Holds P K s c a) (hjob : a.job = some .scan)
    (hs : Scans P K s c n) : Goes P K s (s.readComplete P K) a (MAX_DATA_BLOCK + 1 - n) := by
  have hresume : s.readComplete P K = RecordStore.db3StartupScanResume P K
      { s with
        request := none
        startupBlock := s.startupBlock.copy 0 (s.blocks n) 0 BLK_SIZE } := by
    simp only [RecordStore.readComplete, hs.request, RecordStore.db3ReadBlockComplete, hs.updating,
      Bool.false_eq_true, ↓reduceIte, RecordStore.scanReadComplete, hs.cmd]
  obtain ⟨info₀, hslot₀⟩ := ha.card n hs.mem
  obtain ⟨info, hscan, hslot⟩ := scanBlock_slot n (s.tables.blockInfoTbl n) s.tables.uidMap
    (hslot₀.stored s.startupBlock)
  replace hslot : Slot P K info (s.blocks n) (c n) :=
    hslot.congr fun b hb => (copyBlock_apply _ _ hb).symm
  -- one more block has been scanned
  have hslots : ∀ j ∈ dataBlocks, j < n + 1 →
      Slot P K (Function.update s.tables.blockInfoTbl n info j) (s.blocks j) (c j) := by
    intro j hj hlt
    by_cases hjn : j = n
    · rw [hjn, Function.update_self]
      exact hslot
    · rw [Function.update_of_ne hjn]
      exact hs.slot j hj (by omega)
  have hdom : (fun j => (j ∈ dataBlocks ∧ j < n) ∨ j = n) =
      fun j => j ∈ dataBlocks ∧ j < n + 1 := by
    funext j
    refine propext ⟨?_, ?_⟩
    · rintro (⟨hj, hlt⟩ | rfl)
      · exact ⟨hj, by omega⟩
      · exact ⟨hs.mem, Nat.lt_succ_self _⟩
    · rintro ⟨hj, hlt⟩
      rcases Nat.lt_or_eq_of_le (Nat.lt_succ_iff.mp hlt) with hjn | hjn
      · exact .inl ⟨hj, hjn⟩
      · exact .inr hjn
  have hpoints := hs.points.scan (i := n)
  rw [hdom] at hpoints
  have hinvalid := ha.card.invalid (fun _ hj => hj.1) hpoints
  rw [hresume]
  unfold RecordStore.db3StartupScanResume
  dsimp only
  rw [hs.blkNum, hscan]
  dsimp only
  by_cases hmore : n + 1 ≤ MAX_DATA_BLOCK
  · rw [if_pos hmore]
    refine .waits rfl ⟨ha.card, ha.records, ha.state, hinvalid⟩ ?_
      (n := MAX_DATA_BLOCK + 2 - (n + 1)) (by omega)
    rw [hjob]
    have hmem : n + 1 ∈ dataBlocks :=
      mem_dataBlocks.mpr ⟨Nat.le_succ_of_le (mem_dataBlocks.mp hs.mem).1, hmore⟩
    exact .scans ⟨hmem, hs.cmd, rfl, hs.updating, hs.short, hs.long, hs.cache, rfl, hs.sending,
      hslots, hpoints⟩
  · rw [if_neg hmore, if_pos hs.cmd]
    have hall : ∀ j ∈ dataBlocks, j < n + 1 := by
      intro j hj
      have hmax := (mem_dataBlocks.mp hj).2
      omega
    have hdata : (fun j => j ∈ dataBlocks ∧ j < n + 1) = (· ∈ dataBlocks) := by
      funext j
      exact propext ⟨fun h => h.1, fun h => ⟨h, hall j h⟩⟩
    rw [hdata] at hpoints
    refine .answer (.scanned hjob) ⟨ha.card, ha.records, rfl, hinvalid⟩
      ⟨rfl, hs.updating, hs.short, hs.long, hs.cache⟩
      (fun _ => ⟨fun j hj => hslots j hj (hall j hj), hpoints⟩) (.inl ?_) rfl ?_
    · change s.activeCmd ≠ _
      rw [hs.cmd]
      exact fun h => by cases h
    · have hmax := (mem_dataBlocks.mp hs.mem).2
      omega

end Routines

end SignetBase.FirmwareHc
