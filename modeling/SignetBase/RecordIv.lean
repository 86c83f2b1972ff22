/-
  SignetBase/RecordIv.lean
  ========================
  **Which records and sectors share an IV.**

  `derive_iv` adds the number of a record (or of a sector) to a base value.  The original
  device adds it to the last byte and Signet HC, for stores of format 2, its low byte to the
  last word, so numbers that are equal modulo 256 get the same IV.  Format 3 adds the whole
  number, and no two numbers get the same IV.
-/
import Mathlib.Algebra.Group.Nat.Defs
import Mathlib.Data.Set.Function
import SignetBase.Firmware.Reading
import SignetBase.FirmwareHc.Disk

namespace SignetBase

/-! ### Adding to the end of a block -/

theorem ofNat_eq_iff (a b : Nat) : UInt8.ofNat a = UInt8.ofNat b ↔ a % 256 = b % 256 := by
  rw [← UInt8.toNat_inj, UInt8.toNat_ofNat', UInt8.toNat_ofNat']

/-- Two numbers added to the last byte of a block give one block if they are equal modulo 256. -/
theorem read_write_last_eq_iff (m : Mem) (off a b : Nat) :
    (m.write (off + 15) [m (off + 15) + UInt8.ofNat a]).read off 16 =
        (m.write (off + 15) [m (off + 15) + UInt8.ofNat b]).read off 16 ↔
      a % 256 = b % 256 := by
  constructor
  · intro h
    have hlast := Mem.apply_of_read_eq h (show 15 < 16 by decide)
    rw [Mem.write_apply_of_mem _ (Nat.le_refl _) (by simp),
      Mem.write_apply_of_mem _ (Nat.le_refl _) (by simp)] at hlast
    simp only [Nat.sub_self, List.getElem_cons_zero] at hlast
    exact (ofNat_eq_iff a b).mp (UInt8.add_right_inj _ |>.mp hlast)
  · intro h
    rw [(ofNat_eq_iff a b).mpr h]

/-- Two words added to the last word of a block give different blocks. -/
theorem eq_of_read_put32_eq (m : Mem) (off : Nat) {w a b : Nat} (ha : a < 2 ^ 32)
    (hb : b < 2 ^ 32)
    (h : (m.put32 (off + 12) (w + a)).read off 16 = (m.put32 (off + 12) (w + b)).read off 16) :
    a = b := by
  have hword : (m.put32 (off + 12) (w + a)).get32 (off + 12) =
      (m.put32 (off + 12) (w + b)).get32 (off + 12) := by
    apply Mem.get32_congr
    intro i hi
    rw [Nat.add_assoc]
    exact Mem.apply_of_read_eq h (by omega)
  rw [Mem.get32_put32, Mem.get32_put32] at hword
  omega

/-! ### IVs -/

/-- The IV of a record of the original device, whatever its root page. -/
theorem Firmware.deriveIv_eq_iff (s : Firmware.Dev) (off id id' : Nat) :
    (Firmware.deriveIv id off s).cmdData.read off AES_BLK_SIZE =
        (Firmware.deriveIv id' off s).cmdData.read off AES_BLK_SIZE ↔
      id % 256 = id' % 256 := by
  unfold Firmware.deriveIv
  exact read_write_last_eq_iff _ off id id'

theorem Firmware.recordIv_eq_iff (root : Mem) (uid uid' : Nat) :
    Firmware.recordIv root uid = Firmware.recordIv root uid' ↔ uid % 256 = uid' % 256 := by
  unfold Firmware.recordIv
  exact read_write_last_eq_iff _ Firmware.RootPage.cbcIv uid uid'

/-- The IV of a record or a sector of Signet HC. -/
theorem FirmwareHc.deriveIv_eq_iff (K : FirmwareHc.DiskKey) {id id' : Nat} (hid : id < 2 ^ 32)
    (hid' : id' < 2 ^ 32) :
    K.deriveIv id = K.deriveIv id' ↔
      (K.dbFormat = .format2 ∧ id % 256 = id' % 256) ∨ id = id' := by
  unfold FirmwareHc.DiskKey.deriveIv
  cases hformat : K.dbFormat with
  | current =>
    constructor
    · intro h
      exact .inr (eq_of_read_put32_eq _ 0 hid hid' h)
    · rintro (⟨hne, -⟩ | rfl)
      · cases hne
      · rfl
  | format2 =>
    constructor
    · intro h
      have hmod : id % 2 ^ 8 = id' % 2 ^ 8 :=
        eq_of_read_put32_eq _ 0 (by omega) (by omega) h
      exact .inl ⟨rfl, hmod⟩
    · rintro (⟨-, hmod⟩ | rfl)
      · have hmod' : id % 2 ^ 8 = id' % 2 ^ 8 := hmod
        dsimp only
        rw [hmod']
      · rfl

/-! ### Stores and volumes -/

/-- **The records of a store have different IVs exactly when their uids differ modulo 256 or,
    on Signet HC, the store is of format 3; and so do the sectors of a volume.** -/
theorem iv_unique_iff (s : Firmware.Dev) (off : Nat) (root : Mem) (K : FirmwareHc.DiskKey)
    (uids : Set Nat) (ids : Set UInt32) :
    (Set.InjOn (fun uid => (Firmware.deriveIv uid off s).cmdData.read off AES_BLK_SIZE) uids ↔
      Set.InjOn (· % 256) uids) ∧
    (Set.InjOn (Firmware.recordIv root) uids ↔ Set.InjOn (· % 256) uids) ∧
    (Set.InjOn (fun id : UInt32 => K.deriveIv id.toNat) ids ↔
      K.dbFormat = .current ∨ Set.InjOn (fun id : UInt32 => id.toNat % 256) ids) := by
  refine ⟨?_, ?_, ?_⟩
  · unfold Set.InjOn
    simp only [Firmware.deriveIv_eq_iff]
  · unfold Set.InjOn
    simp only [Firmware.recordIv_eq_iff]
  · cases hformat : K.dbFormat with
    | current =>
      refine iff_of_true ?_ (.inl rfl)
      intro id _ id' _ heq
      rcases (FirmwareHc.deriveIv_eq_iff K id.toNat_lt id'.toNat_lt).mp heq with ⟨hne, -⟩ | h
      · rw [hformat] at hne
        cases hne
      · exact UInt32.toNat_inj.mp h
    | format2 =>
      constructor
      · intro hinj
        refine .inr ?_
        intro id hid id' hid' hmod
        exact hinj hid hid'
          ((FirmwareHc.deriveIv_eq_iff K id.toNat_lt id'.toNat_lt).mpr (.inl ⟨hformat, hmod⟩))
      · rintro (hne | hinj)
        · cases hne
        · intro id hid id' hid' heq
          rcases (FirmwareHc.deriveIv_eq_iff K id.toNat_lt id'.toNat_lt).mp heq with
            ⟨-, hmod⟩ | h
          · exact hinj hid hid' hmod
          · exact UInt32.toNat_inj.mp h

/-- Uids 1 and 257 share an IV on both devices, and so do sectors 0 and 256. -/
theorem shared_iv :
    ¬ ((∀ root : Mem, ∀ uid uid', MIN_UID ≤ uid → uid ≤ MAX_UID → MIN_UID ≤ uid' →
          uid' ≤ MAX_UID → uid ≠ uid' → Firmware.recordIv root uid ≠ Firmware.recordIv root uid')) ∧
    ¬ (∀ K : FirmwareHc.DiskKey, ∀ uid uid', MIN_UID ≤ uid → uid ≤ MAX_UID → MIN_UID ≤ uid' →
        uid' ≤ MAX_UID → uid ≠ uid' → K.deriveIv uid ≠ K.deriveIv uid') ∧
    ¬ (∀ K : FirmwareHc.DiskKey, ∀ sector sector' : UInt32, sector ≠ sector' →
        K.deriveIv sector.toNat ≠ K.deriveIv sector'.toNat) := by
  refine ⟨?_, ?_, ?_⟩
  · intro h
    exact h (fun _ => 0) 1 257 (by decide) (by decide) (by decide) (by decide) (by decide)
      ((Firmware.recordIv_eq_iff _ _ _).mpr rfl)
  · intro h
    exact h ⟨id, id, [], .format2⟩ 1 257 (by decide) (by decide) (by decide) (by decide)
      (by decide) ((FirmwareHc.deriveIv_eq_iff _ (by decide) (by decide)).mpr (.inl ⟨rfl, rfl⟩))
  · intro h
    exact h ⟨id, id, [], .format2⟩ 0 256 (by decide)
      ((FirmwareHc.deriveIv_eq_iff _ (by decide) (by decide)).mpr (.inl ⟨rfl, rfl⟩))

end SignetBase
