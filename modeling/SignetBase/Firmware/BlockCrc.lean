/-
  SignetBase/Firmware/BlockCrc.lean
  =================================
  **Which changes of a block its CRC shows.**

  The loop of `crc_32` does not advance its pointer, so the CRC of a block is that of its
  first word behind the CRC field, fed 511 times.  A change of any other word goes unnoticed.
  A change of that word, which holds `part_size` and `occupancy`, is noticed by a register
  that shifts linearly and has no period of 511 words, as the register of the chip does.
-/
import SignetBase.ShiftRegister
import SignetBase.Firmware.Scan

namespace SignetBase.Firmware

open ShiftRegister

/-! ### The checksum unit -/

/-- The step of the unit is injective in the register and in the word written to it. -/
structure CrcInjective (P : Platform) : Prop where
  register : ∀ word, Function.Injective fun dr => P.crcStep dr word
  word : ∀ dr, Function.Injective (P.crcStep dr)

/-- `CRC_DR` adds a word and shifts by the linear map `M`, which never has a period of the
    number of words of a block. -/
structure LinearCrc (P : Platform) (M : BitVec 32 → BitVec 32) : Prop where
  step : ∀ dr word, P.crcStep dr word = UInt32.ofBitVec (M (dr.toBitVec ^^^ word.toBitVec))
  additive : Additive M
  injective : Function.Injective M
  period : ∀ x, M^[BLK_SIZE / 4 - 1] x = x → x = 0#32

section Units

variable {P : Platform} {M : BitVec 32 → BitVec 32}

theorem ofBitVec_injective : Function.Injective UInt32.ofBitVec := by
  rintro x y h
  exact congrArg UInt32.toBitVec h

theorem LinearCrc.crcInjective (h : LinearCrc P M) : CrcInjective P where
  register word := by
    intro dr dr' heq
    dsimp only at heq
    rw [h.step, h.step] at heq
    have hxor := h.injective (ofBitVec_injective heq)
    exact UInt32.toBitVec_inj.mp ((BitVec.xor_left_inj _).mp hxor)
  word dr := by
    intro x y heq
    rw [h.step, h.step] at heq
    have hxor := h.injective (ofBitVec_injective heq)
    exact UInt32.toBitVec_inj.mp ((BitVec.xor_right_inj _).mp hxor)

/-- The loop of `crc_32` feeds its first word again and again. -/
theorem LinearCrc.crc32_eq (h : LinearCrc P M) (din : Nat → Nat) (count : Nat) :
    crc32 P din count =
      (feed M count P.crcReset.toBitVec (UInt32.ofNat (din 0)).toBitVec).toNat := by
  unfold crc32
  induction count with
  | zero => rfl
  | succ n ih =>
    have hsame : (Nat.repeat (fun dr => P.crcStep dr (UInt32.ofNat (din 0))) n
        P.crcReset).toBitVec = feed M n P.crcReset.toBitVec (UInt32.ofNat (din 0)).toBitVec :=
      BitVec.eq_of_toNat_eq ih
    rw [feed_succ, ← hsame]
    exact congrArg UInt32.toNat (h.step _ _)

end Units

/-! ### Altered words -/

/-- Word `i` behind the CRC field. -/
def blockWord (blk : Mem) (i : Nat) : Nat := blk.get32 (4 + 4 * i)

/-- The blocks differ in word `i` behind the CRC field and in no other word. -/
structure AlteredWord (i : Nat) (blk blk' : Mem) : Prop where
  lt : i < BLK_SIZE / 4 - 1
  altered : blockWord blk i ≠ blockWord blk' i
  same : ∀ j < BLK_SIZE / 4 - 1, j ≠ i → blockWord blk j = blockWord blk' j
  crc : headerCrc blk = headerCrc blk'

/-- The CRC shows that a block was altered. -/
structure CrcDetects (P : Platform) (blk blk' : Mem) : Prop where
  crc : blockCrc P blk ≠ blockCrc P blk'
  check : blockCrcCheck P blk = true → blockCrcCheck P blk' = false

section Words

variable {P : Platform} {M : BitVec 32 → BitVec 32} {i : Nat} {blk blk' : Mem}

/-- The CRC depends on the first word only. -/
theorem blockCrc_congr (h : blockWord blk 0 = blockWord blk' 0) :
    blockCrc P blk = blockCrc P blk' := by
  change blk.get32 (4 + 4 * 0) = blk'.get32 (4 + 4 * 0) at h
  unfold blockCrc crc32
  dsimp only
  rw [h]

theorem CrcDetects.first (h : CrcDetects P blk blk') (ha : AlteredWord i blk blk') : i = 0 := by
  by_contra hne
  exact h.crc (blockCrc_congr (ha.same 0 (by decide) (Ne.symm hne)))

/-- A right CRC is wrong for a block that has another one. -/
theorem crcCheck_of_crc_ne (hcrc : headerCrc blk = headerCrc blk')
    (hne : blockCrc P blk ≠ blockCrc P blk') (h : blockCrcCheck P blk = true) :
    blockCrcCheck P blk' = false := by
  unfold blockCrcCheck at h ⊢
  split at h
  · exact absurd h Bool.false_ne_true
  · have hright := of_decide_eq_true h
    split
    · rfl
    · refine decide_eq_false fun hsame => hne ?_
      rw [hright, hsame, hcrc]

theorem LinearCrc.blockCrc_ne (h : LinearCrc P M) (hne : blockWord blk 0 ≠ blockWord blk' 0) :
    blockCrc P blk ≠ blockCrc P blk' := by
  intro heq
  unfold blockCrc at heq
  rw [h.crc32_eq, h.crc32_eq] at heq
  have hword := feed_injective h.additive h.injective h.period _ (BitVec.eq_of_toNat_eq heq)
  have hnat := congrArg UInt32.toNat (UInt32.toBitVec_inj.mp hword)
  rw [UInt32.toNat_ofNat_of_lt' (Mem.get32_lt _ _),
    UInt32.toNat_ofNat_of_lt' (Mem.get32_lt _ _)] at hnat
  exact hne hnat

/-- **The CRC shows the change of one word exactly when it is the first one**: no unit shows
    another, and a unit that shifts linearly shows that one. -/
theorem altered_word_detected (ha : AlteredWord i blk blk') :
    (CrcDetects P blk blk' → i = 0) ∧ (LinearCrc P M → (CrcDetects P blk blk' ↔ i = 0)) := by
  refine ⟨fun h => h.first ha, fun hP => ⟨fun h => h.first ha, ?_⟩⟩
  rintro rfl
  have hne := hP.blockCrc_ne ha.altered
  exact ⟨hne, crcCheck_of_crc_ne ha.crc hne⟩

end Words

/-! ### The unit of the chip -/

/-- A device with the CRC-32 unit, which a reset fills with ones. -/
def crcPlatform : Platform where
  aes256Encrypt := fun _ blk => blk
  aes256Decrypt := fun _ blk => blk
  crcReset := 0xffffffff
  crcStep := fun dr word => UInt32.ofBitVec (crc32Shift (dr.toBitVec ^^^ word.toBitVec))
  memAt := fun _ => 0
  beforeRootPage := fun _ => 0

theorem linearCrc_crcPlatform : LinearCrc crcPlatform crc32Shift where
  step _ _ := rfl
  additive := additive_crc32Shift
  injective := crc32Shift_injective
  period := crc32Shift_period

/-- A block of zeros. -/
def zeroBlock : Mem := fun _ => 0

theorem blockWord_put32 (v i j : Nat) :
    blockWord (zeroBlock.put32 (4 + 4 * i) v) j = if j = i then v % 2 ^ 32 else 0 := by
  unfold blockWord
  split
  · rename_i h
    rw [h, Mem.get32_put32]
  · rw [Mem.get32_put32_disjoint _ _ (by omega)]
    rfl

/-- A block of zeros of which one word is set. -/
theorem alteredWord_zeros {i : Nat} (hi : i < BLK_SIZE / 4 - 1) :
    AlteredWord i zeroBlock (zeroBlock.put32 (4 + 4 * i) 1) where
  lt := hi
  altered := by
    rw [blockWord_put32, if_pos rfl]
    exact Nat.zero_ne_one
  same j _ hne := by
    rw [blockWord_put32, if_neg hne]
    rfl
  crc := by
    unfold headerCrc
    rw [Mem.get32_put32_disjoint _ _ (.inl (by omega))]

theorem altered_part_size_detected :
    CrcDetects crcPlatform zeroBlock (zeroBlock.put32 (4 + 4 * 0) 1) :=
  ((altered_word_detected (alteredWord_zeros (by decide))).2 linearCrc_crcPlatform).mpr rfl

/-- The first word of the first entry is altered. -/
theorem altered_entry : ¬ ∀ P : Platform, CrcInjective P → ∀ i blk blk',
    AlteredWord i blk blk' → CrcDetects P blk blk' := by
  intro h
  have ha : AlteredWord 1 zeroBlock (zeroBlock.put32 (4 + 4 * 1) 1) :=
    alteredWord_zeros (by decide)
  exact absurd ((h _ linearCrc_crcPlatform.crcInjective _ _ _ ha).first ha) (by decide)

end SignetBase.Firmware
