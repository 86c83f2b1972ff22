/-
  SignetBase/Firmware/Masked.lean
  ===============================
  **Masked reads show nothing of the masked bytes.**

  The first two bytes of a sub-block are the mask of the other fourteen.  A masked
  read sends every mask byte and every data byte whose bit is clear as they are
  stored, and 0 for the rest.  Two stores that differ in masked bytes only are
  therefore answered alike, by READ_UID and by all rounds of READ_ALL_UIDS.
-/
import SignetBase.Firmware.Outputs
import SignetBase.Firmware.Reading
import Mathlib.Data.List.Find

namespace SignetBase.Firmware

/-! ### Bytes of masked records -/

/-- Byte `i` of sub-block `k`. -/
def subByte (data : Bytes) (k i : Nat) : UInt8 := data.getD (k * SUB_BLK_SIZE + i) 0

/-- The mask bit of data byte `j` of sub-block `k`. -/
def maskBit (data : Bytes) (k j : Nat) : Bool := (subByte data k (j / 8)).toNat.testBit (j % 8)

/-- What a masked read shows of byte `i` of sub-block `k`. -/
def maskedByte (data : Bytes) (k i : Nat) : UInt8 :=
  if i < SUB_BLK_MASK_SIZE then subByte data k i
  else if maskBit data k (i - SUB_BLK_MASK_SIZE) then 0
  else subByte data k i

/-- `n` sub-blocks of `data` with the masked data bytes set to 0. -/
structure MaskedCopy (n : Nat) (data copy : Bytes) : Prop where
  length : copy.length = n * SUB_BLK_SIZE
  byte : ∀ k < n, ∀ i < SUB_BLK_SIZE, subByte copy k i = maskedByte data k i

/-- The same masks, and the same data bytes where they are not masked. -/
def SameUnmasked (n : Nat) (data data' : Bytes) : Prop :=
  ∀ k < n, (∀ i < SUB_BLK_MASK_SIZE, subByte data k i = subByte data' k i) ∧
    ∀ j < SUB_BLK_DATA_SIZE, maskBit data k j = false →
      subByte data k (SUB_BLK_MASK_SIZE + j) = subByte data' k (SUB_BLK_MASK_SIZE + j)

variable {n k i : Nat} {data data' : Bytes}

theorem getD_maskSubBlk {sub : Bytes} (h : sub.length = SUB_BLK_SIZE) (hi : i < SUB_BLK_SIZE) :
    (maskSubBlk sub).getD i 0 = maskedByte sub 0 i := by
  have hlen : (sub.take SUB_BLK_MASK_SIZE).length = SUB_BLK_MASK_SIZE := by
    rw [List.length_take, h]
    rfl
  unfold maskSubBlk maskedByte maskBit subByte
  by_cases hmask : i < SUB_BLK_MASK_SIZE
  · rw [if_pos hmask, List.getD_append _ _ _ _ (by omega)]
    simp [List.getD_eq_getElem?_getD, hmask]
  · rw [if_neg hmask, List.getD_append_right _ _ _ _ (by omega), hlen]
    have hj : i - SUB_BLK_MASK_SIZE < SUB_BLK_DATA_SIZE := by
      simp only [SUB_BLK_SIZE, AES_BLK_SIZE, SUB_BLK_MASK_SIZE, SUB_BLK_DATA_SIZE] at *
      omega
    rw [List.getD_eq_getElem _ _ (by simpa using hj), List.getElem_map, List.getElem_range,
      Nat.add_sub_cancel' (Nat.le_of_not_lt hmask)]
    simp

theorem subByte_drop (data : Bytes) (k i : Nat) :
    subByte (data.drop SUB_BLK_SIZE) k i = subByte data (k + 1) i := by
  unfold subByte
  rw [List.getD_eq_getElem?_getD, List.getElem?_drop, ← List.getD_eq_getElem?_getD]
  congr 1
  rw [Nat.succ_mul]
  omega

theorem subByte_take (data : Bytes) (hi : i < SUB_BLK_SIZE) :
    subByte (data.take SUB_BLK_SIZE) 0 i = subByte data 0 i := by
  unfold subByte
  rw [List.getD_eq_getElem?_getD, List.getElem?_take_of_lt (by omega), ← List.getD_eq_getElem?_getD]

/-- What is shown of a sub-block depends on that sub-block only. -/
theorem maskedByte_congr {k' : Nat} (h : ∀ i < SUB_BLK_SIZE, subByte data k i = subByte data' k' i)
    (hi : i < SUB_BLK_SIZE) : maskedByte data k i = maskedByte data' k' i := by
  have hmask : maskBit data k (i - SUB_BLK_MASK_SIZE) = maskBit data' k' (i - SUB_BLK_MASK_SIZE) := by
    have hlt : (i - SUB_BLK_MASK_SIZE) / 8 < SUB_BLK_SIZE := by
      simp only [SUB_BLK_SIZE, AES_BLK_SIZE, SUB_BLK_MASK_SIZE] at *
      omega
    unfold maskBit
    rw [h _ hlt]
  unfold maskedByte
  rw [hmask, h i hi]

/-- **`mask_uid_data` sets the masked data bytes to 0**, and no others. -/
theorem maskedCopy_maskUidData (h : data.length = n * SUB_BLK_SIZE) :
    MaskedCopy n data (maskUidData n data) := by
  refine ⟨length_maskUidData h, ?_⟩
  induction n generalizing data with
  | zero => exact fun k hk => absurd hk (Nat.not_lt_zero k)
  | succ n ih =>
    intro k hk i hi
    have hsub : (data.take SUB_BLK_SIZE).length = SUB_BLK_SIZE := (length_take_drop_blocks h).1
    have hrest : (data.drop SUB_BLK_SIZE).length = n * SUB_BLK_SIZE := (length_take_drop_blocks h).2
    have hlen : (maskSubBlk (data.take SUB_BLK_SIZE)).length = SUB_BLK_SIZE := length_maskSubBlk hsub
    unfold maskUidData
    cases k with
    | zero =>
      calc subByte (maskSubBlk (data.take SUB_BLK_SIZE) ++ maskUidData n (data.drop SUB_BLK_SIZE)) 0 i
          = (maskSubBlk (data.take SUB_BLK_SIZE)).getD i 0 := by
            unfold subByte
            rw [Nat.zero_mul, Nat.zero_add, List.getD_append _ _ _ _ (by omega)]
        _ = maskedByte (data.take SUB_BLK_SIZE) 0 i := getD_maskSubBlk hsub hi
        _ = maskedByte data 0 i := maskedByte_congr (fun _ hi' => subByte_take data hi') hi
    | succ k =>
      calc subByte (maskSubBlk (data.take SUB_BLK_SIZE) ++ maskUidData n (data.drop SUB_BLK_SIZE))
            (k + 1) i
          = subByte (maskUidData n (data.drop SUB_BLK_SIZE)) k i := by
            rw [← subByte_drop, List.drop_left' hlen]
        _ = maskedByte (data.drop SUB_BLK_SIZE) k i := ih hrest k (by omega) i hi
        _ = maskedByte data (k + 1) i := maskedByte_congr (fun i' _ => subByte_drop data k i') hi

/-- Strings with the same bytes in all sub-blocks are equal. -/
theorem eq_of_subByte (h : data.length = n * SUB_BLK_SIZE) (h' : data'.length = n * SUB_BLK_SIZE)
    (heq : ∀ k < n, ∀ i < SUB_BLK_SIZE, subByte data k i = subByte data' k i) : data = data' := by
  apply List.ext_getElem (h.trans h'.symm)
  intro a h₁ h₂
  have hpos : 0 < SUB_BLK_SIZE := by decide
  have hbyte := heq (a / SUB_BLK_SIZE) (by rw [Nat.div_lt_iff_lt_mul hpos]; omega) (a % SUB_BLK_SIZE)
    (Nat.mod_lt a hpos)
  unfold subByte at hbyte
  rw [Nat.mul_comm, Nat.div_add_mod] at hbyte
  rwa [List.getD_eq_getElem _ _ h₁, List.getD_eq_getElem _ _ h₂] at hbyte

/-- **Masking forgets the masked bytes.** -/
theorem maskUidData_congr (h : data.length = n * SUB_BLK_SIZE)
    (h' : data'.length = n * SUB_BLK_SIZE) (hs : SameUnmasked n data data') :
    maskUidData n data = maskUidData n data' := by
  have hcopy := maskedCopy_maskUidData h
  have hcopy' := maskedCopy_maskUidData h'
  refine eq_of_subByte hcopy.length hcopy'.length ?_
  intro k hk i hi
  rw [hcopy.byte k hk i hi, hcopy'.byte k hk i hi]
  obtain ⟨hmask, hbyte⟩ := hs k hk
  have hj : i - SUB_BLK_MASK_SIZE < SUB_BLK_DATA_SIZE ∧
      (i - SUB_BLK_MASK_SIZE) / 8 < SUB_BLK_MASK_SIZE := by
    simp only [SUB_BLK_SIZE, AES_BLK_SIZE, SUB_BLK_MASK_SIZE, SUB_BLK_DATA_SIZE] at *
    omega
  have hbit : maskBit data k (i - SUB_BLK_MASK_SIZE) = maskBit data' k (i - SUB_BLK_MASK_SIZE) := by
    unfold maskBit
    rw [hmask _ hj.2]
  unfold maskedByte
  rw [← hbit]
  split
  · exact hmask i ‹_›
  · split
    · rfl
    · rename_i hge hclear
      have heq := hbyte _ hj.1 (by simpa using hclear)
      rwa [Nat.add_sub_cancel' (Nat.le_of_not_lt hge)] at heq

/-! ### Stores -/

variable (P : Platform)

/-- The device holds the records `rec`, each with its size and its sub-blocks,
    under root page format 2. -/
structure Stores (s : Dev) (rec : Nat → Option (Nat × Bytes)) : Prop where
  format : s.rootPage RootPage.signature = 2
  absent : ∀ uid ≤ MAX_UID, rec uid = none → s.tables.uidMap uid = INVALID_BLOCK
  present : ∀ uid ≤ MAX_UID, ∀ sz data, rec uid = some (sz, data) →
    ∃ b j, StoredAt P s uid b j sz data

/-- The stores differ in masked bytes only. -/
def SameButMasked (rec rec' : Nat → Option (Nat × Bytes)) : Prop :=
  ∀ uid ≤ MAX_UID, match rec uid, rec' uid with
    | none, none => True
    | some (sz, data), some (sz', data') => sz = sz' ∧ SameUnmasked (sizeToSubBlkCount sz) data data'
    | _, _ => False

variable {P} {s s' : Dev} {rec rec' : Nat → Option (Nat × Bytes)} {uid sz : Nat}

theorem Stores.congr (hs : Stores P s rec) (hflash : s'.flash = s.flash)
    (htables : s'.tables = s.tables) (hkey : s'.encryptKey = s.encryptKey)
    (hroot : s'.rootPage = s.rootPage) : Stores P s' rec := by
  refine ⟨?_, ?_, ?_⟩
  · rw [hroot]
    exact hs.format
  · rw [htables]
    exact hs.absent
  · intro uid huid sz data hrec
    obtain ⟨b, j, hstored⟩ := hs.present uid huid sz data hrec
    exact ⟨b, j, hstored.congr hflash htables hkey hroot⟩

/-- A record is on the map, an absent one is not. -/
theorem Stores.mapped_iff (hs : Stores P s rec) (huid : uid ≤ MAX_UID) :
    s.tables.uidMap uid ≠ INVALID_BLOCK ↔ (rec uid).isSome := by
  cases hrec : rec uid with
  | none => simp [hs.absent uid huid hrec]
  | some r =>
    obtain ⟨sz, data⟩ := r
    obtain ⟨b, j, hstored⟩ := hs.present uid huid sz data hrec
    have hfound := hstored.found
    unfold findUid at hfound
    simp only [Option.isSome_some, iff_true]
    intro hinv
    rw [if_pos hinv] at hfound
    cases hfound

theorem SameButMasked.isSome (h : SameButMasked rec rec') (huid : uid ≤ MAX_UID) :
    (rec uid).isSome = (rec' uid).isSome := by
  have huid' := h uid huid
  cases hrec : rec uid with
  | none =>
    cases hrec' : rec' uid with
    | none => rfl
    | some r => rw [hrec, hrec'] at huid'; exact huid'.elim
  | some r =>
    cases hrec' : rec' uid with
    | none => rw [hrec, hrec'] at huid'; exact huid'.elim
    | some r => rfl

/-- Records that differ in masked bytes only are shown alike. -/
theorem SameButMasked.shown (h : SameButMasked rec rec') (huid : uid ≤ MAX_UID)
    (hs : Stores P s rec) (hs' : Stores P s' rec') {data : Bytes}
    (hrec : rec uid = some (sz, data)) : ∃ data', rec' uid = some (sz, data') ∧
      maskUidData (sizeToSubBlkCount sz) data = maskUidData (sizeToSubBlkCount sz) data' := by
  have huid' := h uid huid
  rw [hrec] at huid'
  cases hrec' : rec' uid with
  | none => rw [hrec'] at huid'; exact huid'.elim
  | some r =>
    obtain ⟨sz', data'⟩ := r
    rw [hrec'] at huid'
    obtain ⟨rfl, hsame⟩ := huid'
    obtain ⟨b, j, hst⟩ := hs.present uid huid sz data hrec
    obtain ⟨b', j', hst'⟩ := hs'.present uid huid sz data' hrec'
    exact ⟨data', rfl, maskUidData_congr hst.length hst'.length hsame⟩

/-! ### READ_UID -/

/-- **A masked READ_UID** answers with the masked record, or that there is none. -/
theorem readUidCmd_masked (hP : AesInverse P) (hs : Stores P s rec) (huid : uid ≤ MAX_UID)
    {masked : Nat} (hm : 0 < masked) (hm' : masked < 256) :
    (readUidCmd P uid masked s).outputs =
      .response (match rec uid with
        | some (sz, data) => readUidResponse s sz (maskUidData (sizeToSubBlkCount sz) data)
        | none => ⟨s.activeCmd, .idInvalid, 0, s.deviceState, []⟩) :: s.outputs := by
  cases hrec : rec uid with
  | none =>
    have hfind : findUid (block P s) s.tables uid = (s.tables.uidMap uid, none) := by
      unfold findUid
      simp only
      rw [if_pos (hs.absent uid huid hrec)]
    unfold readUidCmd
    simp only [hfind, if_true]
    rfl
  | some r =>
    obtain ⟨sz, data⟩ := r
    obtain ⟨b, j, hstored⟩ := hs.present uid huid sz data hrec
    obtain ⟨s₁, hready, hout, hctl, hcmd⟩ := readUidCmd_stored hs.format hstored hm'
    rw [hcmd, if_neg (by omega), outputs_readUidCmdComplete hP hready, hout]
    have hcmd₁ : s₁.activeCmd = s.activeCmd := congrArg Control.activeCmd hctl
    have hst₁ : s₁.deviceState = s.deviceState := congrArg Control.deviceState hctl
    have hflag : decide (masked ≠ 0) = true := by simpa using Nat.ne_of_gt hm
    unfold readUidResponse SignetBase.Firmware.shown
    rw [hcmd₁, hst₁, hflag]
    rfl

/-! ### Rounds of READ_ALL_UIDS -/

/-- The next record of READ_ALL_UIDS. -/
def nextUid (s : Dev) : Option Nat := nextMappedUid s.tables ((readAllUidsUid s + 1) % 2 ^ 32)

theorem nextMappedUid_congr {t t' : Tables}
    (h : ∀ uid ≤ MAX_UID, (t.uidMap uid ≠ INVALID_BLOCK ↔ t'.uidMap uid ≠ INVALID_BLOCK)) (from_ : Nat) :
    nextMappedUid t from_ = nextMappedUid t' from_ := by
  unfold nextMappedUid
  apply List.find?_congr
  intro u hu
  have hle : u ≤ MAX_UID := by
    rw [List.mem_range'_1] at hu
    omega
  exact decide_eq_decide.mpr (h u hle)

theorem Stores.next_congr (hs : Stores P s rec) (hs' : Stores P s' rec')
    (hsame : SameButMasked rec rec') (hlast : readAllUidsUid s' = readAllUidsUid s) :
    nextUid s' = nextUid s := by
  unfold nextUid
  rw [hlast]
  apply nextMappedUid_congr
  intro uid huid
  rw [hs.mapped_iff huid, hs'.mapped_iff huid, hsame.isSome huid]

/-- A masked READ_ALL_UIDS over the store. -/
structure ReadingAll (P : Platform) (s : Dev) (rec : Nat → Option (Nat × Bytes)) : Prop where
  stores : Stores P s rec
  masked : readAllUidsMasked s ≠ 0

theorem ReadingAll.next (h : ReadingAll P s rec) (hf : ReadAllFrame s s') : ReadingAll P s' rec := by
  refine ⟨h.stores.congr hf.flash hf.tables hf.encryptKey hf.rootPage, ?_⟩
  rw [hf.masked]
  exact h.masked

/-- A round answers with the next record, masked, or ends the command. -/
theorem readAllUidsCmdIter_masked (hP : AesInverse P) (h : ReadingAll P s rec) :
    (nextUid s = none ∧ ReadAllEnd s (readAllUidsCmdIter P s)) ∨
      ∃ uid sz data, nextUid s = some uid ∧ uid ≤ MAX_UID ∧ rec uid = some (sz, data) ∧
        data.length = sizeToSubBlkCount sz * SUB_BLK_SIZE ∧
        ReadAllRound s (readAllUidsCmdIter P s) uid sz (maskUidData (sizeToSubBlkCount sz) data) := by
  cases hnext : nextUid s with
  | none => exact .inl ⟨rfl, readAllUidsCmdIter_end hnext⟩
  | some uid =>
    have huid : uid ≤ MAX_UID := by
      have hmem := List.mem_of_find?_eq_some hnext
      rw [List.mem_range'_1] at hmem
      omega
    have hmapped : s.tables.uidMap uid ≠ INVALID_BLOCK := by
      simpa using List.find?_some hnext
    obtain ⟨⟨sz, data⟩, hrec⟩ := Option.isSome_iff_exists.mp ((h.stores.mapped_iff huid).mp hmapped)
    obtain ⟨b, j, hstored⟩ := h.stores.present uid huid sz data hrec
    have huid' : uid < 4096 := by
      simp only [MAX_UID] at huid
      omega
    have hround := readAllUidsCmdIter_stored hP h.stores.format hnext huid' hstored
    rw [decide_eq_true h.masked] at hround
    exact .inr ⟨uid, sz, data, rfl, huid, hrec, hstored.length, hround⟩

theorem readAllUidsCmdIter_frame (hP : AesInverse P) (h : ReadingAll P s rec) :
    ReadAllFrame s (readAllUidsCmdIter P s) := by
  rcases readAllUidsCmdIter_masked hP h with ⟨-, hend⟩ | ⟨uid, sz, data, -, -, -, -, hround⟩
  · exact hend.toReadAllFrame
  · exact hround.toReadAllFrame

/-- The size and the sub-blocks of the record of `uid`, with the masked data bytes
    set to 0. -/
def MaskedRecord (rec : Nat → Option (Nat × Bytes)) (uid : Nat) (bs : Bytes) : Prop :=
  ∃ sz data copy, rec uid = some (sz, data) ∧ MaskedCopy (sizeToSubBlkCount sz) data copy ∧
    bs = Mem.bytes16 sz ++ copy

/-- An answer of READ_ALL_UIDS that shows a record masked, or ends the command. -/
def MaskedAnswer (rec : Nat → Option (Nat × Bytes)) : Output → Prop
  | .response r =>
    (r.resp = .okay ∧ ∃ uid bs, r.payload = Mem.bytes16 uid ++ bs ∧ MaskedRecord rec uid bs) ∨
      (r.resp = .idInvalid ∧ ∃ last > MAX_UID, r.payload = Mem.bytes16 last)
  | _ => False

/-- **Every round sends a masked record**, or that there are no more. -/
theorem readAllUidsCmdIter_emits (hP : AesInverse P) (h : ReadingAll P s rec) :
    Emits (MaskedAnswer rec) s (readAllUidsCmdIter P s) := by
  rcases readAllUidsCmdIter_masked hP h with ⟨-, hend⟩ | ⟨uid, sz, data, -, -, hrec, hlen, hround⟩
  · refine Emits.one hend.outputs (.inr ⟨rfl, _, ?_, rfl⟩)
    rw [hend.lastUid]
    exact lt_of_lt_of_le (Nat.lt_succ_self _) (Nat.le_max_right _ _)
  · refine Emits.one hround.outputs (.inl ⟨rfl, uid, _, List.append_assoc _ _ _, ?_⟩)
    exact ⟨sz, data, _, hrec, maskedCopy_maskUidData hlen, rfl⟩

/-- Two runs of READ_ALL_UIDS at the same point. -/
structure SameReads (s s' : Dev) : Prop where
  control : s.toControl = s'.toControl
  pending : s.rawHidTxPending = s'.rawHidTxPending
  lastUid : readAllUidsUid s = readAllUidsUid s'
  remaining : readAllUidsRemaining s = readAllUidsRemaining s'

/-- The two runs have done the same since. -/
def SameEmits (s₀ s s₀' s' : Dev) : Prop :=
  ∃ l, s.outputs = l ++ s₀.outputs ∧ s'.outputs = l ++ s₀'.outputs

theorem SameEmits.trans {a b c a' b' c' : Dev} (h : SameEmits a b a' b') (h' : SameEmits b c b' c') :
    SameEmits a c a' c' := by
  obtain ⟨l, h₁, h₂⟩ := h
  obtain ⟨l', h₁', h₂'⟩ := h'
  refine ⟨l' ++ l, ?_, ?_⟩
  · rw [h₁', h₁, List.append_assoc]
  · rw [h₂', h₂, List.append_assoc]

theorem SameEmits.newOutputs_eq {a b a' b' : Dev} (h : SameEmits a b a' b') :
    newOutputs a b = newOutputs a' b' := by
  obtain ⟨l, h₁, h₂⟩ := h
  unfold newOutputs
  rw [h₁, h₂]
  simp

/-- **A round does the same on stores that differ in masked bytes only.** -/
theorem SameReads.iter (hP : AesInverse P) (hsame : SameButMasked rec rec')
    (h : ReadingAll P s rec) (h' : ReadingAll P s' rec') (hr : SameReads s s') :
    SameReads (readAllUidsCmdIter P s) (readAllUidsCmdIter P s') ∧
      SameEmits s (readAllUidsCmdIter P s) s' (readAllUidsCmdIter P s') := by
  have hnext := h.stores.next_congr h'.stores hsame hr.lastUid.symm
  have hcmd : s.activeCmd = s'.activeCmd := congrArg Control.activeCmd hr.control
  have hst : s.deviceState = s'.deviceState := congrArg Control.deviceState hr.control
  rcases readAllUidsCmdIter_masked hP h with ⟨hn, hend⟩ | ⟨uid, sz, data, hn, huid, hrec, -, hround⟩
  · rcases readAllUidsCmdIter_masked hP h' with ⟨-, hend'⟩ | ⟨uid', -, -, hn', -⟩
    · have hlast : readAllUidsUid (readAllUidsCmdIter P s) =
          readAllUidsUid (readAllUidsCmdIter P s') := by
        rw [hend.lastUid, hend'.lastUid, hr.lastUid]
      refine ⟨⟨?_, ?_, hlast, ?_⟩, [_], hend.outputs, ?_⟩
      · rw [hend.control, hend'.control, hr.control]
      · rw [hend.pending, hend'.pending]
      · rw [hend.remaining, hend'.remaining, hr.remaining]
      · rw [hlast, hcmd, hst]
        exact hend'.outputs
    · rw [hn, hn'] at hnext
      cases hnext
  · rcases readAllUidsCmdIter_masked hP h' with ⟨hn', -⟩ | ⟨uid', sz', data', hn', -, hrec', -, hround'⟩
    · rw [hn, hn'] at hnext
      cases hnext
    · rw [hn, hn'] at hnext
      cases hnext
      obtain ⟨data'', hrec'', hshown⟩ := hsame.shown huid h.stores h'.stores hrec
      rw [hrec''] at hrec'
      cases hrec'
      have hrem : readAllUidsRemaining (readAllUidsCmdIter P s) =
          readAllUidsRemaining (readAllUidsCmdIter P s') := by
        rw [hround.remaining, hround'.remaining, hr.remaining]
      refine ⟨⟨?_, ?_, ?_, hrem⟩, [_], hround.outputs, ?_⟩
      · rw [hround.control, hround'.control, hr.control, hrem]
      · rw [hround.pending, hround'.pending]
      · rw [hround.lastUid, hround'.lastUid]
      · have hresp : readAllUidsResponse s (readAllUidsRemaining (readAllUidsCmdIter P s)) uid sz
            (maskUidData (sizeToSubBlkCount sz) data) =
            readAllUidsResponse s' (readAllUidsRemaining (readAllUidsCmdIter P s')) uid sz
              (maskUidData (sizeToSubBlkCount sz) data') := by
          unfold readAllUidsResponse
          rw [hrem, hcmd, hst, hshown]
        rw [hresp]
        exact hround'.outputs

/-! ### The two commands -/

/-- READ_ALL_UIDS and the packet-sent events after it. -/
def readAllUidsRounds (P : Platform) (data : Mem) (dataLen : Int) (k : Nat) (s : Dev) : Dev :=
  (fun d => step P d .packetSent)^[k] (readAllUidsPacket P data dataLen s)

theorem readAllUidsRounds_succ (data : Mem) (dataLen : Int) (k : Nat) (s : Dev) :
    readAllUidsRounds P data dataLen (k + 1) s =
      step P (readAllUidsRounds P data dataLen k s) .packetSent :=
  Function.iterate_succ_apply' _ _ _

/-- `cmd_data` and `uid_map` as READ_ALL_UIDS starts with them. -/
def readAllUidsStart (masked : Nat) (s : Dev) : Dev :=
  { s with
    cmdData := ((s.cmdData.put32 CmdData.readAllUidsUid 0).put32 CmdData.readAllUidsMasked
      masked).put32 CmdData.readAllUidsExpectedRemaining
        ((List.range' MIN_UID MAX_UID).countP fun u => s.tables.uidMap u ≠ INVALID_BLOCK) }

theorem readAllUidsPacket_masked {data : Mem} {dataLen : Int} (hlen : 1 ≤ dataLen)
    (hm : data 0 ≠ 0) :
    readAllUidsPacket P data dataLen s =
      readAllUidsCmdIter P (readAllUidsStart (data 0).toNat s) := by
  have hm' : (data 0).toNat ≠ 0 := fun h => hm (UInt8.toNat_inj.mp h)
  unfold readAllUidsPacket readAllUidsCmd
  rw [if_neg (by omega)]
  simp only [if_neg hm']
  rfl

theorem reading_readAllUidsStart (hs : Stores P s rec) {data : Mem} (hm : data 0 ≠ 0) :
    ReadingAll P (readAllUidsStart (data 0).toNat s) rec := by
  refine ⟨hs.congr rfl rfl rfl rfl, ?_⟩
  have hlt := (data 0).toNat_lt
  have hget : readAllUidsMasked (readAllUidsStart (data 0).toNat s) = (data 0).toNat := by
    unfold readAllUidsMasked readAllUidsStart
    rw [Mem.get32_put32_disjoint _ _ (.inr (by decide)), Mem.get32_put32, Nat.mod_eq_of_lt (by omega)]
  rw [hget]
  exact fun h => hm (UInt8.toNat_inj.mp h)

/-- Both runs start at the same point. -/
theorem sameReads_readAllUidsStart (hs : Stores P s rec) (hs' : Stores P s' rec')
    (hsame : SameButMasked rec rec') (hctl : s.toControl = s'.toControl)
    (hpend : s.rawHidTxPending = s'.rawHidTxPending) (masked : Nat) :
    SameReads (readAllUidsStart masked s) (readAllUidsStart masked s') := by
  refine ⟨hctl, hpend, ?_, ?_⟩
  · unfold readAllUidsUid readAllUidsStart
    rw [Mem.get32_put32_disjoint _ _ (.inl (by decide)),
      Mem.get32_put32_disjoint _ _ (.inl (by decide)), Mem.get32_put32,
      Mem.get32_put32_disjoint _ _ (.inl (by decide)),
      Mem.get32_put32_disjoint _ _ (.inl (by decide)), Mem.get32_put32]
  · have hcount : ((List.range' MIN_UID MAX_UID).countP fun u => s.tables.uidMap u ≠ INVALID_BLOCK) =
        (List.range' MIN_UID MAX_UID).countP fun u => s'.tables.uidMap u ≠ INVALID_BLOCK := by
      apply List.countP_congr
      intro u hu
      have hle : u ≤ MAX_UID := by
        rw [List.mem_range'_1] at hu
        simp only [MIN_UID] at hu
        omega
      simp only [decide_eq_true_eq]
      rw [hs.mapped_iff hle, hs'.mapped_iff hle, hsame.isSome hle]
    unfold readAllUidsRemaining readAllUidsStart Mem.getInt
    rw [Mem.get32_put32, Mem.get32_put32, hcount]

/-- A packet-sent event is a round, or does nothing. -/
theorem step_packetSent (s : Dev) : step P s .packetSent =
    if s.hung ∨ s.rawHidTxPending = false then s
    else if s.activeCmd = some .readAllUids then
      readAllUidsCmdIter P { s with rawHidTxPending := false }
    else { s with rawHidTxPending := false } := by
  unfold step cmdPacketSent
  cases s.hung <;> cases s.rawHidTxPending <;> rfl

theorem ReadingAll.packetSent (hP : AesInverse P) (h : ReadingAll P s rec) :
    ReadingAll P (step P s .packetSent) rec := by
  have h' : ReadingAll P { s with rawHidTxPending := false } rec :=
    ⟨h.stores.congr rfl rfl rfl rfl, h.masked⟩
  rw [step_packetSent]
  split
  · exact h
  · split
    · exact h'.next (readAllUidsCmdIter_frame hP h')
    · exact h'

theorem emits_packetSent (hP : AesInverse P) (h : ReadingAll P s rec) :
    Emits (MaskedAnswer rec) s (step P s .packetSent) := by
  rw [step_packetSent]
  split
  · exact Emits.of_eq rfl
  · split
    · have h' : ReadingAll P { s with rawHidTxPending := false } rec :=
        ⟨h.stores.congr rfl rfl rfl rfl, h.masked⟩
      exact readAllUidsCmdIter_emits hP h'
    · exact Emits.of_eq rfl

theorem SameReads.packetSent (hP : AesInverse P) (hsame : SameButMasked rec rec')
    (h : ReadingAll P s rec) (h' : ReadingAll P s' rec') (hr : SameReads s s') :
    SameReads (step P s .packetSent) (step P s' .packetSent) ∧
      SameEmits s (step P s .packetSent) s' (step P s' .packetSent) := by
  have hhung : s.hung = s'.hung := congrArg Control.hung hr.control
  have hcmd : s.activeCmd = s'.activeCmd := congrArg Control.activeCmd hr.control
  have hr₁ : SameReads { s with rawHidTxPending := false } { s' with rawHidTxPending := false } :=
    ⟨hr.control, rfl, hr.lastUid, hr.remaining⟩
  rw [step_packetSent, step_packetSent, ← hhung, ← hr.pending, ← hcmd]
  split
  · exact ⟨hr, [], rfl, rfl⟩
  · split
    · refine hr₁.iter hP hsame ?_ ?_
      · exact ⟨h.stores.congr rfl rfl rfl rfl, h.masked⟩
      · exact ⟨h'.stores.congr rfl rfl rfl rfl, h'.masked⟩
    · exact ⟨hr₁, [], rfl, rfl⟩

section Rounds

variable {data : Mem} {dataLen : Int}

theorem reading_readAllUidsRounds (hP : AesInverse P) (hs : Stores P s rec) (hlen : 1 ≤ dataLen)
    (hm : data 0 ≠ 0) (k : Nat) : ReadingAll P (readAllUidsRounds P data dataLen k s) rec := by
  induction k with
  | zero =>
    have hstart := reading_readAllUidsStart hs hm
    have hzero : readAllUidsRounds P data dataLen 0 s = _ := readAllUidsPacket_masked hlen hm
    rw [hzero]
    exact hstart.next (readAllUidsCmdIter_frame hP hstart)
  | succ k ih =>
    rw [readAllUidsRounds_succ]
    exact ih.packetSent hP

/-- Every round of READ_ALL_UIDS shows a record masked, or ends the command. -/
theorem emits_readAllUidsRounds (hP : AesInverse P) (hs : Stores P s rec) (hlen : 1 ≤ dataLen)
    (hm : data 0 ≠ 0) (k : Nat) :
    Emits (MaskedAnswer rec) s (readAllUidsRounds P data dataLen k s) := by
  induction k with
  | zero =>
    have hzero : readAllUidsRounds P data dataLen 0 s = _ := readAllUidsPacket_masked hlen hm
    rw [hzero]
    exact readAllUidsCmdIter_emits hP (reading_readAllUidsStart hs hm)
  | succ k ih =>
    rw [readAllUidsRounds_succ]
    exact ih.trans (emits_packetSent hP (reading_readAllUidsRounds hP hs hlen hm k))

/-- All rounds do the same on stores that differ in masked bytes only. -/
theorem sameEmits_readAllUidsRounds (hP : AesInverse P) (hsame : SameButMasked rec rec')
    (hs : Stores P s rec) (hs' : Stores P s' rec') (hctl : s.toControl = s'.toControl)
    (hpend : s.rawHidTxPending = s'.rawHidTxPending) (hlen : 1 ≤ dataLen) (hm : data 0 ≠ 0)
    (k : Nat) :
    SameReads (readAllUidsRounds P data dataLen k s) (readAllUidsRounds P data dataLen k s') ∧
      SameEmits s (readAllUidsRounds P data dataLen k s) s'
        (readAllUidsRounds P data dataLen k s') := by
  induction k with
  | zero =>
    have hstart := sameReads_readAllUidsStart hs hs' hsame hctl hpend (data 0).toNat
    have hzero : readAllUidsRounds P data dataLen 0 s = _ := readAllUidsPacket_masked hlen hm
    have hzero' : readAllUidsRounds P data dataLen 0 s' = _ := readAllUidsPacket_masked hlen hm
    rw [hzero, hzero']
    exact hstart.iter hP hsame (reading_readAllUidsStart hs hm) (reading_readAllUidsStart hs' hm)
  | succ k ih =>
    rw [readAllUidsRounds_succ, readAllUidsRounds_succ]
    have hnext := ih.1.packetSent hP hsame (reading_readAllUidsRounds hP hs hlen hm k)
      (reading_readAllUidsRounds hP hs' hlen hm k)
    exact ⟨hnext.1, ih.2.trans hnext.2⟩

end Rounds

/-- The answer to a masked READ_UID: the record masked, or an error without payload. -/
def MaskedUidAnswer (rec : Nat → Option (Nat × Bytes)) (data : Mem) (dataLen : Int)
    (r : Response) : Prop :=
  (r.resp = .okay ∧ MaskedRecord rec (data.get16 0) r.payload) ∨
    (r.resp = .idInvalid ∧ rec (data.get16 0) = none ∧ r.payload = []) ∨
    (r.resp = .invalidInput ∧ (dataLen < 3 ∨ data.get16 0 < MIN_UID ∨ data.get16 0 > MAX_UID) ∧
      r.payload = [])

/-- What a READ_UID packet is answered with. -/
theorem readUidPacket_masked (hP : AesInverse P) {data : Mem} (dataLen : Int) (hm : data 2 ≠ 0)
    (hs : Stores P s rec) :
    ∃ r, (readUidPacket P data dataLen s).outputs = .response r :: s.outputs ∧
      MaskedUidAnswer rec data dataLen r ∧
      ∀ {s' rec'}, Stores P s' rec' → SameButMasked rec rec' → s.toControl = s'.toControl →
        (readUidPacket P data dataLen s').outputs = .response r :: s'.outputs := by
  have hpos : 0 < (data 2).toNat := Nat.pos_of_ne_zero fun h => hm (UInt8.toNat_inj.mp h)
  have hlt := (data 2).toNat_lt
  unfold readUidPacket
  split
  · refine ⟨_, rfl, .inr (.inr ⟨rfl, ‹_›, rfl⟩), ?_⟩
    intro s' rec' _ _ hctl
    have hcmd : s.activeCmd = s'.activeCmd := congrArg Control.activeCmd hctl
    have hst : s.deviceState = s'.deviceState := congrArg Control.deviceState hctl
    rw [hcmd, hst]
    rfl
  · have huid : data.get16 0 ≤ MAX_UID := by omega
    refine ⟨_, readUidCmd_masked hP hs huid hpos hlt, ?_, ?_⟩
    · cases hrec : rec (data.get16 0) with
      | none => exact .inr (.inl ⟨rfl, hrec, rfl⟩)
      | some r =>
        obtain ⟨sz, bs⟩ := r
        obtain ⟨b, j, hstored⟩ := hs.present _ huid sz bs hrec
        exact .inl ⟨rfl, sz, bs, _, hrec, maskedCopy_maskUidData hstored.length, rfl⟩
    · intro s' rec' hs' hsame hctl
      have hcmd : s.activeCmd = s'.activeCmd := congrArg Control.activeCmd hctl
      have hst : s.deviceState = s'.deviceState := congrArg Control.deviceState hctl
      have hres := readUidCmd_masked hP hs' huid hpos hlt
      cases hrec : rec (data.get16 0) with
      | none =>
        have hrec' : rec' (data.get16 0) = none := by
          have hsome := hsame.isSome huid
          rw [hrec] at hsome
          simpa using hsome.symm
        rw [hrec'] at hres
        rw [hcmd, hst]
        exact hres
      | some r =>
        obtain ⟨sz, bs⟩ := r
        obtain ⟨bs', hrec', hshown⟩ := hsame.shown huid hs hs' hrec
        rw [hrec'] at hres
        simp only [readUidResponse, hshown, hcmd, hst]
        exact hres

/-- **Masked reads reveal nothing masked.**  What is sent for a masked READ_UID, and
    in any number of rounds of a masked READ_ALL_UIDS, are the records with the masked
    data bytes set to 0, and it is the same for two stores that differ in masked bytes
    only. -/
theorem masked_reads (hP : AesInverse P) (hs : Stores P s rec) (hs' : Stores P s' rec')
    (hsame : SameButMasked rec rec') (hctl : s.toControl = s'.toControl)
    (hpend : s.rawHidTxPending = s'.rawHidTxPending) (data : Mem) (dataLen : Int) :
    (data 2 ≠ 0 → ∃ r, MaskedUidAnswer rec data dataLen r ∧
      newOutputs s (readUidPacket P data dataLen s) = [.response r] ∧
      newOutputs s' (readUidPacket P data dataLen s') = [.response r]) ∧
    (1 ≤ dataLen → data 0 ≠ 0 → ∀ k,
      (∀ o ∈ newOutputs s (readAllUidsRounds P data dataLen k s), MaskedAnswer rec o) ∧
      newOutputs s (readAllUidsRounds P data dataLen k s) =
        newOutputs s' (readAllUidsRounds P data dataLen k s')) := by
  constructor
  · intro hm
    obtain ⟨r, hout, hanswer, hother⟩ := readUidPacket_masked hP dataLen hm hs
    have hout' := hother hs' hsame hctl
    have hemits : SameEmits s (readUidPacket P data dataLen s) s' (readUidPacket P data dataLen s') :=
      ⟨[.response r], hout, hout'⟩
    have hnew : newOutputs s (readUidPacket P data dataLen s) = [.response r] := by
      unfold newOutputs
      rw [hout]
      simp
    exact ⟨r, hanswer, hnew, hemits.newOutputs_eq.symm.trans hnew⟩
  · intro hlen hm k
    have hboth := sameEmits_readAllUidsRounds hP hsame hs hs' hctl hpend hlen hm k
    exact ⟨(emits_readAllUidsRounds hP hs hlen hm k).of_mem_new, hboth.2.newOutputs_eq⟩

/-! ### Two stores with one record -/

/-- A cipher that adds one to every byte, whatever the key. -/
def incPlatform : Platform where
  aes256Encrypt := fun _ blk => blk.map (· + 1)
  aes256Decrypt := fun _ blk => blk.map (· - 1)
  crcReset := 0
  crcStep := fun dr word => dr + word
  memAt := fun _ => 0
  beforeRootPage := fun _ => 0

/-- A record of uid 7 with 15 bytes, which end inside its second sub-block; the first
    data byte is masked. -/
def maskedRecord (secret : UInt8) : Bytes :=
  [1, 0, secret, 2, 3, 4, 5, 6, 7, 8, 9, 10, 11, 12, 13, 14] ++
    [0, 0, 15, 0, 0, 0, 0, 0, 0, 0, 0, 0, 0, 0, 0, 0]

/-- Block 3 with that record. -/
def maskedBlock (secret : UInt8) : Scratch :=
  allocateUidBlk incPlatform [] 7 (maskedRecord secret) 15 0 (recordIv (fun _ => 2) 7)
    { block := blankBlock BLK_SIZE 2 (fun _ => 0), blkInfo := ⟨1, 1, 53, 0, 2, 21⟩ }

/-- A device that stores it. -/
def maskedStore (secret : UInt8) : Dev :=
  { powerOn incPlatform (fun a => (maskedBlock secret).block (a - idBlk 3)) with
    rootPage := fun _ => 2
    tables :=
      { blockInfoTbl := fun _ => (maskedBlock secret).blkInfo
        uidMap := fun uid => if uid = 7 then 3 else INVALID_BLOCK } }

theorem stores_maskedStore (secret : UInt8) (hstored : StoredAt incPlatform (maskedStore secret) 7 3 0
    15 (maskedRecord secret)) : Stores incPlatform (maskedStore secret) fun uid =>
      if uid = 7 then some (15, maskedRecord secret) else none := by
  refine ⟨rfl, ?_, ?_⟩
  · intro uid _ hnone
    have hne : uid ≠ 7 := by
      intro h
      rw [if_pos h] at hnone
      cases hnone
    exact if_neg hne
  · intro uid _ sz data hsome
    split at hsome
    · rename_i h
      cases hsome
      subst h
      exact ⟨3, 0, hstored⟩
    · cases hsome

theorem masked_reads_two_stores :
    newOutputs (maskedStore 1) (readUidPacket incPlatform
        (Mem.write (fun _ => 0) 0 [7, 0, 1]) 3 (maskedStore 1)) =
      newOutputs (maskedStore 2) (readUidPacket incPlatform
        (Mem.write (fun _ => 0) 0 [7, 0, 1]) 3 (maskedStore 2)) := by
  have hP : AesInverse incPlatform := by
    intro key
    refine ⟨fun b hb => (List.length_map _).trans hb, fun b _ => ?_⟩
    simp [incPlatform, List.map_map, Function.comp_def]
  have hs : Stores incPlatform (maskedStore 1) _ := stores_maskedStore 1
    ⟨by decide +kernel, by decide, by decide, by decide +kernel, by decide, by decide +kernel⟩
  have hs' : Stores incPlatform (maskedStore 2) _ := stores_maskedStore 2
    ⟨by decide +kernel, by decide, by decide, by decide +kernel, by decide, by decide +kernel⟩
  have hsame : SameButMasked (fun uid => if uid = 7 then some (15, maskedRecord 1) else none)
      fun uid => if uid = 7 then some (15, maskedRecord 2) else none := by
    intro uid _
    by_cases h : uid = 7
    · simp only [h, if_true]
      refine ⟨trivial, ?_⟩
      unfold SameUnmasked
      decide
    · simp only [h, if_false]
  have hctl : (maskedStore 1).toControl = (maskedStore 2).toControl := by decide +kernel
  have hpend : (maskedStore 1).rawHidTxPending = (maskedStore 2).rawHidTxPending := by
    decide +kernel
  obtain ⟨r, -, h, h'⟩ := (masked_reads hP hs hs' hsame hctl hpend
    (Mem.write (fun _ => 0) 0 [7, 0, 1]) 3).1 (by decide)
  exact h.trans h'.symm

end SignetBase.Firmware
