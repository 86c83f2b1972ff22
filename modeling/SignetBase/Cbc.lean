/-
  SignetBase/Cbc.lean
  ===================
  **Cipher block chaining over an arbitrary block cipher.**

  The devices encrypt records, keys and volumes with AES in CBC mode, written as
  a loop over 16-byte blocks.  The block functions are arbitrary here; that they
  undo each other on blocks is what decryption after encryption rests on.
-/
import Mathlib.Data.FinEnum
import Mathlib.Data.Fintype.Vector
import SignetBase.Common

namespace SignetBase

/-- `xor_block`: the block itself when there is no mask (a NULL IV). -/
def xorBlock (src : Bytes) : Option Bytes → Bytes
  | none => src
  | some mask => List.zipWith (· ^^^ ·) src mask

/-- The CBC encryption loop over the block function `enc`. -/
def cbcEncrypt (enc : Bytes → Bytes) : Nat → Option Bytes → Bytes → Bytes
  | 0, _, _ => []
  | n + 1, iv, din =>
    let c := enc (xorBlock (din.take AES_BLK_SIZE) iv)
    c ++ cbcEncrypt enc n (some c) (din.drop AES_BLK_SIZE)

/-- The CBC decryption loop over the block function `dec`. -/
def cbcDecrypt (dec : Bytes → Bytes) : Nat → Option Bytes → Bytes → Bytes
  | 0, _, _ => []
  | n + 1, iv, din =>
    let c := din.take AES_BLK_SIZE
    xorBlock (dec c) iv ++ cbcDecrypt dec n (some c) (din.drop AES_BLK_SIZE)

/-- `dec` undoes `enc` on blocks. -/
structure BlockInverse (enc dec : Bytes → Bytes) : Prop where
  length_enc : ∀ b : Bytes, b.length = AES_BLK_SIZE → (enc b).length = AES_BLK_SIZE
  dec_enc : ∀ b : Bytes, b.length = AES_BLK_SIZE → dec (enc b) = b

/-- An IV as the loops get it: none, or one block. -/
def ivOk : Option Bytes → Prop
  | none => True
  | some iv => iv.length = AES_BLK_SIZE

theorem length_xorBlock (src : Bytes) {iv : Option Bytes} (h : src.length = AES_BLK_SIZE)
    (hiv : ivOk iv) : (xorBlock src iv).length = AES_BLK_SIZE := by
  cases iv with
  | none => exact h
  | some iv =>
    have hlen : iv.length = AES_BLK_SIZE := hiv
    simp [xorBlock, h, hlen]

/-- Masking twice with one mask gives the block back. -/
theorem xorBlock_xorBlock (src : Bytes) {iv : Option Bytes} (h : src.length = AES_BLK_SIZE)
    (hiv : ivOk iv) : xorBlock (xorBlock src iv) iv = src := by
  cases iv with
  | none => rfl
  | some iv =>
    have hlen : iv.length = AES_BLK_SIZE := hiv
    apply List.ext_getElem (by simp [xorBlock, h, hlen])
    intro i h1 h2
    simp only [xorBlock, List.getElem_zipWith]
    rw [UInt8.xor_assoc, UInt8.xor_self, UInt8.xor_zero]

/-- The first block and the rest of a string of `n + 1` blocks. -/
theorem length_take_drop_blocks {n : Nat} {din : Bytes}
    (hlen : din.length = (n + 1) * AES_BLK_SIZE) :
    (din.take AES_BLK_SIZE).length = AES_BLK_SIZE ∧
      (din.drop AES_BLK_SIZE).length = n * AES_BLK_SIZE := by
  simp only [List.length_take, List.length_drop, hlen, AES_BLK_SIZE]
  omega

variable {enc dec : Bytes → Bytes}

theorem length_cbcEncrypt (hinv : BlockInverse enc dec) (n : Nat) {iv : Option Bytes} {din : Bytes}
    (hiv : ivOk iv) (hlen : din.length = n * AES_BLK_SIZE) :
    (cbcEncrypt enc n iv din).length = n * AES_BLK_SIZE := by
  induction n generalizing iv din with
  | zero => simp [cbcEncrypt]
  | succ n ih =>
    obtain ⟨hblk, htail⟩ := length_take_drop_blocks hlen
    have hc := hinv.length_enc _ (length_xorBlock _ hblk hiv)
    have hciv : ivOk (some (enc (xorBlock (din.take AES_BLK_SIZE) iv))) := hc
    simp only [cbcEncrypt, List.length_append, hc, ih hciv htail]
    rw [Nat.add_mul, Nat.one_mul, Nat.add_comm]

/-- There are only finitely many blocks, so `enc` reaches all of them. -/
theorem BlockInverse.length_dec (hinv : BlockInverse enc dec) {c : Bytes}
    (hc : c.length = AES_BLK_SIZE) : (dec c).length = AES_BLK_SIZE := by
  have hfinite : Finite UInt8 := Finite.of_fintype UInt8
  have hinj : Function.Injective fun b : List.Vector UInt8 AES_BLK_SIZE =>
      (⟨enc b.1, hinv.length_enc b.1 b.2⟩ : List.Vector UInt8 AES_BLK_SIZE) := by
    intro b b' heq
    have henc : enc b.1 = enc b'.1 := congrArg Subtype.val heq
    apply Subtype.ext
    rw [← hinv.dec_enc b.1 b.2, henc, hinv.dec_enc b'.1 b'.2]
  obtain ⟨b, hb⟩ := Finite.injective_iff_surjective.mp hinj ⟨c, hc⟩
  have henc : enc b.1 = c := congrArg Subtype.val hb
  rw [← henc, hinv.dec_enc b.1 b.2]
  exact b.2

theorem length_cbcDecrypt (hinv : BlockInverse enc dec) (n : Nat) {iv : Option Bytes} {din : Bytes}
    (hiv : ivOk iv) (hlen : din.length = n * AES_BLK_SIZE) :
    (cbcDecrypt dec n iv din).length = n * AES_BLK_SIZE := by
  induction n generalizing iv din with
  | zero => simp [cbcDecrypt]
  | succ n ih =>
    obtain ⟨hblk, htail⟩ := length_take_drop_blocks hlen
    have hciv : ivOk (some (din.take AES_BLK_SIZE)) := hblk
    have hx := length_xorBlock (dec (din.take AES_BLK_SIZE)) (hinv.length_dec hblk) hiv
    simp only [cbcDecrypt, List.length_append, hx, ih hciv htail]
    rw [Nat.add_mul, Nat.one_mul, Nat.add_comm]

/-- **CBC decryption undoes CBC encryption**, for every IV and number of blocks. -/
theorem cbcDecrypt_cbcEncrypt (hinv : BlockInverse enc dec) (n : Nat) {iv : Option Bytes}
    {din : Bytes} (hiv : ivOk iv) (hlen : din.length = n * AES_BLK_SIZE) :
    cbcDecrypt dec n iv (cbcEncrypt enc n iv din) = din := by
  induction n generalizing iv din with
  | zero =>
    have hnil : din = [] := List.length_eq_zero_iff.mp (by simpa using hlen)
    simp [cbcDecrypt, hnil]
  | succ n ih =>
    obtain ⟨hblk, htail⟩ := length_take_drop_blocks hlen
    have hx := length_xorBlock _ hblk hiv
    have hc := hinv.length_enc _ hx
    have hciv : ivOk (some (enc (xorBlock (din.take AES_BLK_SIZE) iv))) := hc
    simp only [cbcEncrypt, cbcDecrypt]
    -- the first ciphertext block is the mask of the second, on both sides
    rw [List.take_left' hc, List.drop_left' hc, hinv.dec_enc _ hx, xorBlock_xorBlock _ hblk hiv,
      ih hciv htail, List.take_append_drop]

end SignetBase
