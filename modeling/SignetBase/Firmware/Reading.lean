/-
  SignetBase/Firmware/Reading.lean
  ================================
  **What READ_UID and READ_ALL_UIDS make of a stored record.**

  A record is stored as its sub-blocks, encrypted under an IV made from the root
  page and the uid.  Reading decrypts them and, for a masked read, sets the masked
  data bytes to 0.  One lemma says what READ_UID answers, one what a round of
  READ_ALL_UIDS answers, for a record that is found in the store.
-/
import SignetBase.Firmware.Control

namespace SignetBase.Firmware

variable (P : Platform)

/-! ### IVs -/

/-- The IV of a uid: the one of the root page, with the uid added to its last
    byte. -/
def recordIv (root : Mem) (uid : Nat) : Bytes :=
  let last := RootPage.cbcIv + AES_BLK_SIZE - 1
  (root.write last [root last + UInt8.ofNat uid]).read RootPage.cbcIv AES_BLK_SIZE

@[simp] theorem length_recordIv (root : Mem) (uid : Nat) :
    (recordIv root uid).length = AES_BLK_SIZE := by
  simp [recordIv]

/-- In the current format `derive_iv` leaves the IV of the uid. -/
theorem read_deriveIv {s : Dev} (hf : s.rootPage RootPage.signature = 2) (id off : Nat) :
    (deriveIv id off s).cmdData.read off AES_BLK_SIZE = recordIv s.rootPage id := by
  unfold deriveIv recordIv
  simp only [hf, if_true]
  apply Mem.read_congr
  intro i hi
  simp only [AES_BLK_SIZE] at hi ⊢
  by_cases hlast : i = 15
  · subst hlast
    rw [Mem.write_apply_of_mem _ (by omega) (by simp),
      Mem.write_apply_of_mem _ (by omega) (by simp),
      Mem.copy_apply_of_mem _ _ (by omega) (by omega)]
    simp
  · rw [Mem.write_apply_of_notMem _ (.inl (by omega)),
      Mem.write_apply_of_notMem _ (.inl (by omega)),
      Mem.copy_apply_of_mem _ _ (by omega) (by omega), Nat.add_sub_cancel_left]

/-- Behind the IV nothing changes. -/
theorem deriveIv_apply (id : Nat) {off a : Nat} (s : Dev) (h : off + AES_BLK_SIZE ≤ a) :
    (deriveIv id off s).cmdData a = s.cmdData a := by
  simp only [AES_BLK_SIZE] at h
  unfold deriveIv
  simp only [AES_BLK_SIZE]
  rw [Mem.write_apply_of_notMem _ (.inr (by simp; omega))]
  split
  · exact Mem.copy_apply_of_notMem _ _ (.inr h)
  · rfl

/-! ### Stored records -/

/-- The record of the uid is entry `j` of block `b`: it has the size `sz` and
    consists of the sub-blocks `data`, encrypted under the uid's IV. -/
structure StoredAt (s : Dev) (uid b j sz : Nat) (data : Bytes) : Prop where
  found : findUid (block P s) s.tables uid = (b, some j)
  block_lt : b < NUM_STORAGE_BLOCKS
  index_lt : j < 256
  size : (uidTbl (block P s b) j).sz = sz
  length : data.length = sizeToSubBlkCount sz * SUB_BLK_SIZE
  cipher : (block P s b).read (getPart (s.tables.blockInfoTbl b) j)
      (sizeToSubBlkCount sz * SUB_BLK_SIZE) =
    stmAes256EncryptCbc P s.encryptKey (sizeToSubBlkCount sz) (some (recordIv s.rootPage uid)) data

/-- What is sent of a record's sub-blocks. -/
def shown (masked : Bool) (n : Nat) (data : Bytes) : Bytes :=
  if masked then maskUidData n data else data

/-- AES decryption undoes encryption, for every key. -/
def AesInverse : Prop := ∀ key, BlockInverse (P.aes256Encrypt key) (P.aes256Decrypt key)

variable {P} {s s' : Dev} {uid b j sz : Nat} {data : Bytes}

/-- The pages and the tables do not depend on the buffers. -/
theorem block_congr (h : s'.flash = s.flash) : block P s' = block P s := by
  funext i a
  unfold block memFrom load
  rw [h]

theorem StoredAt.congr (hs : StoredAt P s uid b j sz data) (hflash : s'.flash = s.flash)
    (htables : s'.tables = s.tables) (hkey : s'.encryptKey = s.encryptKey)
    (hroot : s'.rootPage = s.rootPage) : StoredAt P s' uid b j sz data := by
  obtain ⟨h₁, h₂, h₃, h₄, h₅, h₆⟩ := hs
  have hblock : block P s' = block P s := block_congr hflash
  refine ⟨?_, h₂, h₃, ?_, h₅, ?_⟩
  · rw [hblock, htables]
    exact h₁
  · rw [hblock]
    exact h₄
  · rw [hblock, htables, hkey, hroot]
    exact h₆

/-- **A stored record is decrypted to its sub-blocks.** -/
theorem decodeUid_stored (hP : AesInverse P) (hs : StoredAt P s uid b j sz data) (masked : Bool) :
    decodeUid P s sz b j masked (recordIv s.rootPage uid) =
      shown masked (sizeToSubBlkCount sz) data := by
  have hplain : stmAes256DecryptCbc P s.encryptKey (sizeToSubBlkCount sz)
      (some (recordIv s.rootPage uid)) ((block P s b).read (getPart (s.tables.blockInfoTbl b) j)
        (sizeToSubBlkCount sz * SUB_BLK_SIZE)) = data := by
    rw [hs.cipher]
    exact cbcDecrypt_cbcEncrypt (hP s.encryptKey) _ (length_recordIv _ _) hs.length
  unfold decodeUid shown
  simp only [hplain]

/-- The entry that READ_UID keeps a pointer to. -/
theorem get_memFrom_uidEntAddr (s : Dev) (b j : Nat) :
    UidEnt.get (memFrom P s (uidEntAddr b j)) 0 = uidTbl (block P s b) j := by
  apply UidEnt.get_congr
  intro i _
  unfold block memFrom uidEntAddr
  simp only [Nat.zero_add, Nat.add_assoc]

theorem uidEntAddr_lt (hb : b < NUM_STORAGE_BLOCKS) (hj : j < 256) : uidEntAddr b j < 2 ^ 32 := by
  simp only [NUM_STORAGE_BLOCKS] at hb
  unfold uidEntAddr idBlk uidTblOff blockHeaderSize uidEntSize
  simp only [ROOT_PAGE_ADDR, BLK_SIZE]
  omega

/-! ### Masks -/

@[simp] theorem length_maskSubBlk {sub : Bytes} (h : sub.length = SUB_BLK_SIZE) :
    (maskSubBlk sub).length = SUB_BLK_SIZE := by
  unfold maskSubBlk
  simp only [List.length_append, List.length_take, List.length_map, List.length_range, h]
  rfl

theorem length_maskUidData {n : Nat} {data : Bytes} (h : data.length = n * SUB_BLK_SIZE) :
    (maskUidData n data).length = n * SUB_BLK_SIZE := by
  induction n generalizing data with
  | zero => exact h
  | succ n ih =>
    have hdrop : (data.drop SUB_BLK_SIZE).length = n * SUB_BLK_SIZE := (length_take_drop_blocks h).2
    have hsub : (maskSubBlk (data.take SUB_BLK_SIZE)).length = SUB_BLK_SIZE :=
      length_maskSubBlk (length_take_drop_blocks h).1
    unfold maskUidData
    rw [List.length_append, ih hdrop, hsub, Nat.succ_mul, Nat.add_comm]

theorem length_shown (masked : Bool) {n : Nat} {data : Bytes} (h : data.length = n * SUB_BLK_SIZE) :
    (shown masked n data).length = n * SUB_BLK_SIZE := by
  unfold shown
  split
  · exact length_maskUidData h
  · exact h

/-! ### READ_UID -/

/-- The answer to READ_UID for a record. -/
def readUidResponse (s : Dev) (sz : Nat) (shown : Bytes) : Response where
  cmd := s.activeCmd
  resp := .okay
  messagesRemaining := 0
  state := s.deviceState
  payload := Mem.bytes16 sz ++ shown

/-- A response whose payload is given carries it. -/
theorem outputs_finishCommandMulti (resp : CommandResponse) (mr : Int) {payload : Bytes} {n : Nat}
    (hn : n = payload.length) (s : Dev) :
    (finishCommandMulti resp mr (some payload) n s).outputs =
      .response ⟨s.activeCmd, resp, mr, s.deviceState, payload⟩ :: s.outputs := by
  have hread : ∀ m : Mem, (m.write CMD_PACKET_HEADER_SIZE payload).read CMD_PACKET_HEADER_SIZE n =
      payload := fun m => Mem.read_write _ _ _ _ hn
  exact congrArg (fun p => Output.response ⟨s.activeCmd, resp, mr, s.deviceState, p⟩ :: s.outputs)
    (hread _)

/-- `cmd_data` and `uid_map` as `read_uid_cmd` leaves them for a record it found. -/
structure ReadReady (P : Platform) (s : Dev) (uid masked b j sz : Nat) (data : Bytes) : Prop where
  stored : StoredAt P s uid b j sz data
  ent : s.cmdData.get32 CmdData.readUidEnt = uidEntAddr b j
  blockNum : s.cmdData.get32 CmdData.readUidBlockNum = b
  index : s.cmdData.get32 CmdData.readUidIndex = j
  masked : s.cmdData.get32 CmdData.readUidMasked = masked
  iv : s.cmdData.read CmdData.readUidIv AES_BLK_SIZE = recordIv s.rootPage uid

/-- **READ_UID answers with the size and the sub-blocks of the record**, masked or
    not as `cmd_data` says. -/
theorem outputs_readUidCmdComplete (hP : AesInverse P) {masked : Nat}
    (hr : ReadReady P s uid masked b j sz data) :
    (readUidCmdComplete P s).outputs =
      .response (readUidResponse s sz (shown (masked ≠ 0) (sizeToSubBlkCount sz) data)) ::
        s.outputs := by
  obtain ⟨hs, hent, hblock, hindex, hmasked, hiv⟩ := hr
  have hget : ∀ off, off + 4 ≤ CmdData.readUidBlock →
      (s.cmdData.put16 CmdData.readUidBlock sz).get32 off = s.cmdData.get32 off :=
    fun off h => Mem.get32_put16_disjoint _ _ (.inl h)
  have hiv' : (s.cmdData.put16 CmdData.readUidBlock sz).read CmdData.readUidIv AES_BLK_SIZE =
      recordIv s.rootPage uid := by
    rw [← hiv]
    exact Mem.read_write_disjoint _ (.inl (by decide))
  have hdecode := decodeUid_stored hP hs (masked ≠ 0)
  have hlen := length_shown (masked ≠ 0) hs.length
  unfold readUidCmdComplete
  simp only [hent, get_memFrom_uidEntAddr, hs.size, hiv']
  rw [hget _ (by decide), hget _ (by decide), hget _ (by decide), hblock, hindex, hmasked, hdecode]
  -- the data lies behind the size
  have hpay : ((s.cmdData.put16 CmdData.readUidBlock sz).write (CmdData.readUidBlock + 2)
      (shown (masked ≠ 0) (sizeToSubBlkCount sz) data)).read CmdData.readUidBlock
        (sizeToSubBlkCount sz * SUB_BLK_SIZE + 2) =
      Mem.bytes16 sz ++ shown (masked ≠ 0) (sizeToSubBlkCount sz) data :=
    Mem.read_write_write _ _ (Mem.bytes16 sz) _ (by rw [hlen, Nat.add_comm]; rfl)
  rw [hpay]
  exact outputs_finishCommandMulti _ _ rfl _

/-- READ_UID of a stored record: a masked read is answered at once, an unmasked one
    waits for a press. -/
theorem readUidCmd_stored (hf : s.rootPage RootPage.signature = 2)
    (hs : StoredAt P s uid b j sz data) {masked : Nat} (hm : masked < 256) :
    ∃ s₁ : Dev, ReadReady P s₁ uid masked b j sz data ∧ s₁.outputs = s.outputs ∧
      s₁.toControl = s.toControl ∧
      readUidCmd P uid masked s =
        if masked = 0 then beginButtonPressWait s₁ else readUidCmdComplete P s₁ := by
  have hb := hs.block_lt
  have hj := hs.index_lt
  simp only [NUM_STORAGE_BLOCKS] at hb
  have hfound := hs.found
  generalize hm₁ : ((((s.cmdData.put32 CmdData.readUidUid uid).put32 CmdData.readUidMasked
    masked).put32 CmdData.readUidBlockNum b).put32 CmdData.readUidIndex j).put32 CmdData.readUidEnt
      (uidEntAddr b j) = m
  -- the fields lie one behind the other
  have hent : m.get32 CmdData.readUidEnt = uidEntAddr b j := by
    rw [← hm₁, Mem.get32_put32, Nat.mod_eq_of_lt (uidEntAddr_lt hs.block_lt hj)]
  have hindex : m.get32 CmdData.readUidIndex = j := by
    rw [← hm₁, Mem.get32_put32_disjoint _ _ (.inl (by decide)), Mem.get32_put32,
      Nat.mod_eq_of_lt (by omega)]
  have hblock : m.get32 CmdData.readUidBlockNum = b := by
    rw [← hm₁, Mem.get32_put32_disjoint _ _ (.inl (by decide)),
      Mem.get32_put32_disjoint _ _ (.inl (by decide)), Mem.get32_put32, Nat.mod_eq_of_lt (by omega)]
  have hmask : m.get32 CmdData.readUidMasked = masked := by
    rw [← hm₁, Mem.get32_put32_disjoint _ _ (.inr (by decide)),
      Mem.get32_put32_disjoint _ _ (.inr (by decide)),
      Mem.get32_put32_disjoint _ _ (.inr (by decide)), Mem.get32_put32, Nat.mod_eq_of_lt (by omega)]
  have hkeep : ∀ a, 16 ≤ a → (deriveIv uid CmdData.readUidIv { s with cmdData := m }).cmdData a =
      m a := fun a ha => deriveIv_apply _ _ ha
  have hget : ∀ off, 16 ≤ off → (deriveIv uid CmdData.readUidIv
      { s with cmdData := m }).cmdData.get32 off = m.get32 off :=
    fun off ho => Mem.get32_congr fun i _ => hkeep _ (by omega)
  refine ⟨deriveIv uid CmdData.readUidIv { s with cmdData := m }, ⟨?_, ?_, ?_, ?_, ?_, ?_⟩, rfl, rfl,
    ?_⟩
  · exact hs.congr rfl rfl rfl rfl
  · exact (hget _ (by decide)).trans hent
  · exact (hget _ (by decide)).trans hblock
  · exact (hget _ (by decide)).trans hindex
  · exact (hget _ (by decide)).trans hmask
  · exact read_deriveIv (s := { s with cmdData := m }) hf uid CmdData.readUidIv
  · unfold readUidCmd
    rw [hfound]
    simp only [hm₁, reduceCtorEq, if_false]

/-! ### READ_ALL_UIDS -/

/-- The answer of READ_ALL_UIDS for a record. -/
def readAllUidsResponse (s : Dev) (remaining : Int) (uid sz : Nat) (shown : Bytes) : Response where
  cmd := s.activeCmd
  resp := .okay
  messagesRemaining := remaining
  state := s.deviceState
  payload := Mem.bytes16 uid ++ Mem.bytes16 sz ++ shown

/-- The counters of READ_ALL_UIDS. -/
def readAllUidsUid (s : Dev) : Nat := s.cmdData.get32 CmdData.readAllUidsUid

def readAllUidsRemaining (s : Dev) : Int := s.cmdData.getInt CmdData.readAllUidsExpectedRemaining

def readAllUidsMasked (s : Dev) : Nat := s.cmdData.get32 CmdData.readAllUidsMasked

/-- The value of an `int` after it was stored. -/
def wrapInt (v : Int) : Int := (Mem.putInt (fun _ => 0) 0 v).getInt 0

theorem getInt_putInt_wrap (m : Mem) (off : Nat) (v : Int) :
    (m.putInt off v).getInt off = wrapInt v := by
  unfold wrapInt Mem.getInt Mem.putInt
  rw [Mem.get32_put32, Mem.get32_put32]

/-- The state in which a round of READ_ALL_UIDS decodes the record it found. -/
def readAllUidsFound (s : Dev) (uid sz : Nat) : Dev :=
  deriveIv uid CmdData.readAllUidsIv
    { s with
      cmdData := (((s.cmdData.put32 CmdData.readAllUidsUid uid).putInt
        CmdData.readAllUidsExpectedRemaining (readAllUidsRemaining s - 1)).put16
          CmdData.readAllUidsBlock uid).put16 (CmdData.readAllUidsBlock + 2) sz }

/-- A round that finds a record decodes it and answers. -/
theorem readAllUidsCmdIter_found
    (hnext : nextMappedUid s.tables ((readAllUidsUid s + 1) % 2 ^ 32) = some uid)
    (hfound : findUid (block P s) s.tables uid = (b, some j))
    (hsz : (uidTbl (block P s b) j).sz = sz) :
    let d := readAllUidsFound s uid sz
    let m := d.cmdData.write (CmdData.readAllUidsBlock + 4)
      (decodeUid P d sz b j (readAllUidsMasked d ≠ 0)
        (d.cmdData.read CmdData.readAllUidsIv AES_BLK_SIZE))
    let len := sizeToSubBlkCount sz * SUB_BLK_SIZE + 4
    readAllUidsCmdIter P s =
      finishCommandMulti .okay (m.getInt CmdData.readAllUidsExpectedRemaining)
        (some (m.read CmdData.readAllUidsBlock len)) len { d with cmdData := m } := by
  unfold readAllUidsUid at hnext
  unfold readAllUidsCmdIter
  simp only [hnext, hfound, hsz]
  rfl

section Found

variable (s uid sz)

/-- Behind the IV lies what was stored there. -/
theorem cmdData_readAllUidsFound {a : Nat} (ha : 16 ≤ a) :
    (readAllUidsFound s uid sz).cmdData a =
      ((((s.cmdData.put32 CmdData.readAllUidsUid uid).putInt
        CmdData.readAllUidsExpectedRemaining (readAllUidsRemaining s - 1)).put16
          CmdData.readAllUidsBlock uid).put16 (CmdData.readAllUidsBlock + 2) sz) a :=
  deriveIv_apply _ _ ha

theorem uid_readAllUidsFound (huid : uid < 4096) :
    readAllUidsUid (readAllUidsFound s uid sz) = uid := by
  unfold readAllUidsUid
  rw [Mem.get32_congr fun i _ => cmdData_readAllUidsFound s uid sz (by
      simp only [CmdData.readAllUidsUid]
      omega),
    Mem.get32_put16_disjoint _ _ (.inl (by decide)),
    Mem.get32_put16_disjoint _ _ (.inl (by decide)),
    Mem.get32_putInt_disjoint _ _ (.inl (by decide)), Mem.get32_put32, Nat.mod_eq_of_lt (by omega)]

theorem remaining_readAllUidsFound :
    readAllUidsRemaining (readAllUidsFound s uid sz) = wrapInt (readAllUidsRemaining s - 1) := by
  unfold readAllUidsRemaining
  rw [Mem.getInt_congr fun i _ => cmdData_readAllUidsFound s uid sz (by
    simp only [CmdData.readAllUidsExpectedRemaining]
    omega)]
  unfold Mem.put16
  rw [Mem.getInt_write_disjoint _ (.inl (by decide)),
    Mem.getInt_write_disjoint _ (.inl (by decide)), getInt_putInt_wrap]
  rfl

theorem masked_readAllUidsFound :
    readAllUidsMasked (readAllUidsFound s uid sz) = readAllUidsMasked s := by
  unfold readAllUidsMasked
  rw [Mem.get32_congr fun i _ => cmdData_readAllUidsFound s uid sz (by
      simp only [CmdData.readAllUidsMasked]
      omega),
    Mem.get32_put16_disjoint _ _ (.inl (by decide)),
    Mem.get32_put16_disjoint _ _ (.inl (by decide)),
    Mem.get32_putInt_disjoint _ _ (.inr (by decide)),
    Mem.get32_put32_disjoint _ _ (.inr (by decide))]

/-- The answer starts with the uid and the size. -/
theorem header_readAllUidsFound :
    (readAllUidsFound s uid sz).cmdData.read CmdData.readAllUidsBlock 4 =
      Mem.bytes16 uid ++ Mem.bytes16 sz := by
  rw [Mem.read_congr fun i _ => cmdData_readAllUidsFound s uid sz (by
    simp only [CmdData.readAllUidsBlock]
    omega)]
  exact Mem.read_write_write _ _ (Mem.bytes16 uid) (Mem.bytes16 sz) rfl

end Found

/-- What a round of READ_ALL_UIDS leaves alone. -/
structure ReadAllFrame (s s' : Dev) : Prop where
  flash : s'.flash = s.flash
  tables : s'.tables = s.tables
  encryptKey : s'.encryptKey = s.encryptKey
  rootPage : s'.rootPage = s.rootPage
  pending : s'.rawHidTxPending = true
  masked : readAllUidsMasked s' = readAllUidsMasked s

/-- The round of READ_ALL_UIDS that answers with the record of `uid`. -/
structure ReadAllRound (s s' : Dev) (uid sz : Nat) (data : Bytes) : Prop extends
    ReadAllFrame s s' where
  lastUid : readAllUidsUid s' = uid
  remaining : readAllUidsRemaining s' = wrapInt (readAllUidsRemaining s - 1)
  control : s'.toControl = s.toControl.finish (readAllUidsRemaining s')
  outputs : s'.outputs =
    .response (readAllUidsResponse s (readAllUidsRemaining s') uid sz data) :: s.outputs

/-- **A round of READ_ALL_UIDS answers with the next record.** -/
theorem readAllUidsCmdIter_stored (hP : AesInverse P) (hf : s.rootPage RootPage.signature = 2)
    (hnext : nextMappedUid s.tables ((readAllUidsUid s + 1) % 2 ^ 32) = some uid)
    (huid : uid < 4096) (hs : StoredAt P s uid b j sz data) :
    ReadAllRound s (readAllUidsCmdIter P s) uid sz
      (shown (readAllUidsMasked s ≠ 0) (sizeToSubBlkCount sz) data) := by
  have hlen := length_shown (readAllUidsMasked s ≠ 0) hs.length
  have hrem := remaining_readAllUidsFound s uid sz
  have huid' := uid_readAllUidsFound s uid sz huid
  have hmask := masked_readAllUidsFound s uid sz
  have hhead := header_readAllUidsFound s uid sz
  have hframe : readAllUidsFound s uid sz =
    { s with cmdData := (readAllUidsFound s uid sz).cmdData } := rfl
  have hiv : (readAllUidsFound s uid sz).cmdData.read CmdData.readAllUidsIv AES_BLK_SIZE =
      recordIv s.rootPage uid := by
    unfold readAllUidsFound
    exact read_deriveIv (by exact hf) uid CmdData.readAllUidsIv
  have hiter := readAllUidsCmdIter_found hnext hs.found hs.size
  generalize readAllUidsFound s uid sz = d at hrem huid' hmask hhead hframe hiv hiter
  have hdecode : decodeUid P d sz b j (readAllUidsMasked s ≠ 0) (recordIv s.rootPage uid) =
      shown (readAllUidsMasked s ≠ 0) (sizeToSubBlkCount sz) data := by
    rw [hframe]
    have hs' : StoredAt P { s with cmdData := d.cmdData } uid b j sz data := hs.congr rfl rfl rfl rfl
    exact decodeUid_stored hP hs' _
  simp only [hiv, hmask, hdecode] at hiter
  generalize shown (readAllUidsMasked s ≠ 0) (sizeToSubBlkCount sz) data = bs at hiter hlen ⊢
  have hpay : (d.cmdData.write (CmdData.readAllUidsBlock + 4) bs).read CmdData.readAllUidsBlock
      (sizeToSubBlkCount sz * SUB_BLK_SIZE + 4) = Mem.bytes16 uid ++ Mem.bytes16 sz ++ bs := by
    rw [Nat.add_comm (sizeToSubBlkCount sz * SUB_BLK_SIZE), Mem.read_add,
      Mem.read_write _ _ _ _ hlen.symm, Mem.read_write_disjoint _ (.inl (Nat.le_refl _)), hhead]
  have hget : ∀ off, off + 4 ≤ CmdData.readAllUidsBlock →
      (d.cmdData.write (CmdData.readAllUidsBlock + 4) bs).get32 off = d.cmdData.get32 off :=
    fun off h => Mem.get32_write_disjoint _ (.inl (by omega))
  have hgetInt : (d.cmdData.write (CmdData.readAllUidsBlock + 4) bs).getInt
      CmdData.readAllUidsExpectedRemaining = readAllUidsRemaining d := by
    unfold Mem.getInt
    rw [hget _ (by decide)]
    rfl
  rw [hpay, hgetInt, hrem, hframe] at hiter
  rw [hiter]
  have hafter : readAllUidsRemaining { s with
      cmdData := d.cmdData.write (CmdData.readAllUidsBlock + 4) bs } =
      wrapInt (readAllUidsRemaining s - 1) := hgetInt.trans hrem
  refine ⟨⟨rfl, rfl, rfl, rfl, rfl, ?_⟩, ?_, hafter, ?_, ?_⟩
  · exact (hget _ (by decide)).trans hmask
  · exact (hget _ (by decide)).trans huid'
  · exact congrArg s.toControl.finish hafter.symm
  · refine (outputs_finishCommandMulti .okay _ ?_ _).trans ?_
    · rw [List.length_append, hlen, Nat.add_comm]
      rfl
    · exact congrArg (fun r => Output.response (readAllUidsResponse s r uid sz bs) :: s.outputs)
        hafter.symm

/-- The round of READ_ALL_UIDS after the last record. -/
structure ReadAllEnd (s s' : Dev) : Prop extends ReadAllFrame s s' where
  lastUid : readAllUidsUid s' = max ((readAllUidsUid s + 1) % 2 ^ 32) (MAX_UID + 1)
  remaining : readAllUidsRemaining s' = readAllUidsRemaining s
  control : s'.toControl = s.toControl.finish 0
  outputs : s'.outputs =
    .response ⟨s.activeCmd, .idInvalid, 0, s.deviceState, Mem.bytes16 (readAllUidsUid s')⟩ ::
      s.outputs

/-- When no mapped uid is left, READ_ALL_UIDS ends. -/
theorem readAllUidsCmdIter_end
    (hnext : nextMappedUid s.tables ((readAllUidsUid s + 1) % 2 ^ 32) = none) :
    ReadAllEnd s (readAllUidsCmdIter P s) := by
  unfold readAllUidsUid at hnext
  have hlt : max ((readAllUidsUid s + 1) % 2 ^ 32) (MAX_UID + 1) < 2 ^ 32 := by
    simp only [MAX_UID]
    omega
  generalize hlast : max ((readAllUidsUid s + 1) % 2 ^ 32) (MAX_UID + 1) = last at hlt
  generalize hm : (s.cmdData.put32 CmdData.readAllUidsUid last).put16 CmdData.readAllUidsBlock last =
    m
  have hiter : readAllUidsCmdIter P s = finishCommandMulti .idInvalid 0
      (some (m.read CmdData.readAllUidsBlock 2)) 2 { s with cmdData := m } := by
    unfold readAllUidsUid at hlast
    unfold readAllUidsCmdIter
    simp only [hnext, hlast, hm]
  have huid : m.get32 CmdData.readAllUidsUid = last := by
    rw [← hm, Mem.get32_put16_disjoint _ _ (.inl (by decide)), Mem.get32_put32, Nat.mod_eq_of_lt hlt]
  have hget : ∀ off, CmdData.readAllUidsUid + 4 ≤ off → off + 4 ≤ CmdData.readAllUidsBlock →
      m.get32 off = s.cmdData.get32 off := by
    intro off h h'
    rw [← hm, Mem.get32_put16_disjoint _ _ (.inl h'), Mem.get32_put32_disjoint _ _ (.inr h)]
  rw [hiter]
  refine ⟨⟨rfl, rfl, rfl, rfl, rfl, ?_⟩, huid.trans hlast.symm, ?_, rfl, ?_⟩
  · exact hget _ (by decide) (by decide)
  · have hrem := hget CmdData.readAllUidsExpectedRemaining (by decide) (by decide)
    change m.getInt CmdData.readAllUidsExpectedRemaining = _
    unfold readAllUidsRemaining Mem.getInt
    rw [hrem]
  · refine (outputs_finishCommandMulti _ _ (by simp) _).trans ?_
    have hread : m.read CmdData.readAllUidsBlock 2 = Mem.bytes16 last := by
      rw [← hm]
      exact Mem.read_write _ _ _ _ rfl
    rw [hread]
    exact congrArg (fun u => Output.response ⟨s.activeCmd, .idInvalid, 0, s.deviceState,
      Mem.bytes16 u⟩ :: s.outputs) huid.symm

end SignetBase.Firmware
