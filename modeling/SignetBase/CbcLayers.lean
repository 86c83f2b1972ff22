/-
  SignetBase/CbcLayers.lean
  =========================
  **The CBC loops of the firmware, in memory.**

  `stm_aes.c` and `signet_aes.c` keep the IV as a pointer: into the output when they
  encrypt, into the input when they decrypt.  The FIDO layer (`crypto.c`) works in place,
  keeps a copy of the IV between calls, and makes a new key schedule when two mode flags say
  so.  All of them compute the chaining of `Cbc.lean` (`read_encryptCbc`, `read_decryptCbc`),
  and the FIDO layer is a machine with a key and an IV only (`Chain`), whatever calls it is
  given (`run_toChain`).

  The callers of the first two give input and output in different objects.
-/
import Mathlib.Algebra.Ring.Nat
import SignetBase.Cbc

namespace SignetBase

/-! ### Splitting a chain -/

section Chaining

variable {enc dec : Bytes → Bytes}

/-- The IV after `n` blocks: the last block of ciphertext, or the old IV without one. -/
def nextIv : Nat → Bytes → Bytes → Bytes
  | 0, iv, _ => iv
  | n + 1, _, ct => nextIv n (ct.take AES_BLK_SIZE) (ct.drop AES_BLK_SIZE)

theorem nextIv_succ (n : Nat) (iv ct : Bytes) :
    nextIv (n + 1) iv ct = (ct.drop (n * AES_BLK_SIZE)).take AES_BLK_SIZE := by
  induction n generalizing iv ct with
  | zero => rw [Nat.zero_mul, List.drop_zero, nextIv, nextIv]
  | succ n ih =>
    rw [nextIv, ih, List.drop_drop]
    congr 2
    rw [Nat.succ_mul, Nat.add_comm]

theorem length_nextIv (n : Nat) {iv ct : Bytes} (hiv : iv.length = AES_BLK_SIZE)
    (hlen : ct.length = n * AES_BLK_SIZE) : (nextIv n iv ct).length = AES_BLK_SIZE := by
  induction n generalizing iv ct with
  | zero => exact hiv
  | succ n ih =>
    obtain ⟨hblk, htail⟩ := length_take_drop_blocks hlen
    exact ih hblk htail

theorem nextIv_add (n k : Nat) {iv ct ct' : Bytes} (hlen : ct.length = n * AES_BLK_SIZE) :
    nextIv (n + k) iv (ct ++ ct') = nextIv k (nextIv n iv ct) ct' := by
  induction n generalizing iv ct with
  | zero =>
    have hnil : ct = [] := List.length_eq_zero_iff.mp (by rw [hlen, Nat.zero_mul])
    rw [hnil, Nat.zero_add, List.nil_append, nextIv]
  | succ n ih =>
    obtain ⟨hblk, htail⟩ := length_take_drop_blocks hlen
    have hle : AES_BLK_SIZE ≤ ct.length := by
      rw [hlen, Nat.succ_mul]
      exact Nat.le_add_left _ _
    rw [Nat.succ_add, nextIv, nextIv, List.take_append_of_le_length hle,
      List.drop_append_of_le_length hle, ih htail]

/-- Encrypting in two parts is encrypting at once. -/
theorem cbcEncrypt_add (hinv : BlockInverse enc dec) (n k : Nat) {iv din : Bytes}
    (hiv : iv.length = AES_BLK_SIZE) (hlen : din.length = (n + k) * AES_BLK_SIZE) :
    cbcEncrypt enc (n + k) (some iv) din =
      cbcEncrypt enc n (some iv) (din.take (n * AES_BLK_SIZE)) ++
        cbcEncrypt enc k
          (some (nextIv n iv (cbcEncrypt enc n (some iv) (din.take (n * AES_BLK_SIZE)))))
          (din.drop (n * AES_BLK_SIZE)) := by
  induction n generalizing iv din with
  | zero => simp [cbcEncrypt, nextIv]
  | succ n ih =>
    rw [Nat.succ_add] at hlen ⊢
    obtain ⟨hblk, htail⟩ := length_take_drop_blocks hlen
    have hc := hinv.length_enc _ (length_xorBlock _ hblk (show ivOk (some iv) from hiv))
    have htake : (din.take ((n + 1) * AES_BLK_SIZE)).take AES_BLK_SIZE =
        din.take AES_BLK_SIZE := by
      rw [List.take_take, Nat.min_eq_left (by rw [Nat.succ_mul]; exact Nat.le_add_left _ _)]
    have hdrop : (din.take ((n + 1) * AES_BLK_SIZE)).drop AES_BLK_SIZE =
        (din.drop AES_BLK_SIZE).take (n * AES_BLK_SIZE) := by
      rw [List.drop_take, Nat.succ_mul, Nat.add_sub_cancel]
    have hskip : din.drop ((n + 1) * AES_BLK_SIZE) =
        (din.drop AES_BLK_SIZE).drop (n * AES_BLK_SIZE) := by
      rw [List.drop_drop, Nat.succ_mul, Nat.add_comm]
    simp only [cbcEncrypt, htake, hdrop, hskip, nextIv, List.take_left' hc, List.drop_left' hc,
      List.append_assoc]
    rw [ih hc htail]

/-- Decrypting in two parts is decrypting at once. -/
theorem cbcDecrypt_add (n k : Nat) {iv ct : Bytes}
    (hlen : ct.length = (n + k) * AES_BLK_SIZE) :
    cbcDecrypt dec (n + k) (some iv) ct =
      cbcDecrypt dec n (some iv) (ct.take (n * AES_BLK_SIZE)) ++
        cbcDecrypt dec k (some (nextIv n iv (ct.take (n * AES_BLK_SIZE))))
          (ct.drop (n * AES_BLK_SIZE)) := by
  induction n generalizing iv ct with
  | zero => simp [cbcDecrypt, nextIv]
  | succ n ih =>
    rw [Nat.succ_add] at hlen ⊢
    obtain ⟨-, htail⟩ := length_take_drop_blocks hlen
    have htake : (ct.take ((n + 1) * AES_BLK_SIZE)).take AES_BLK_SIZE =
        ct.take AES_BLK_SIZE := by
      rw [List.take_take, Nat.min_eq_left (by rw [Nat.succ_mul]; exact Nat.le_add_left _ _)]
    have hdrop : (ct.take ((n + 1) * AES_BLK_SIZE)).drop AES_BLK_SIZE =
        (ct.drop AES_BLK_SIZE).take (n * AES_BLK_SIZE) := by
      rw [List.drop_take, Nat.succ_mul, Nat.add_sub_cancel]
    have hskip : ct.drop ((n + 1) * AES_BLK_SIZE) =
        (ct.drop AES_BLK_SIZE).drop (n * AES_BLK_SIZE) := by
      rw [List.drop_drop, Nat.succ_mul, Nat.add_comm]
    simp only [cbcDecrypt, htake, hdrop, hskip, nextIv, List.append_assoc]
    rw [ih htail]

/-- An IV of zeros masks nothing. -/
theorem xorBlock_zero {src : Bytes} (h : src.length = AES_BLK_SIZE) :
    xorBlock src (some (List.replicate AES_BLK_SIZE 0)) = src := by
  apply List.ext_getElem
  · simp [xorBlock, h]
  · intro i h₁ h₂
    simp [xorBlock]

theorem cbcEncrypt_zero_iv (n : Nat) {din : Bytes} (hlen : din.length = n * AES_BLK_SIZE) :
    cbcEncrypt enc n (some (List.replicate AES_BLK_SIZE 0)) din = cbcEncrypt enc n none din := by
  cases n with
  | zero => rfl
  | succ n =>
    obtain ⟨hblk, -⟩ := length_take_drop_blocks hlen
    rw [cbcEncrypt, cbcEncrypt, xorBlock_zero hblk]
    rfl

end Chaining

/-! ### The block functions of nettle -/

/-- The AES functions of nettle for keys of `keySize` bytes, on one block. -/
structure Nettle (keySize : Nat) where
  Ctx : Type
  setEncryptKey : Bytes → Ctx
  setDecryptKey : Bytes → Ctx
  encrypt : Ctx → Bytes → Bytes
  decrypt : Ctx → Bytes → Bytes

namespace Nettle

variable {keySize : Nat} (A : Nettle keySize)

/-- `signet_aes_…_encrypt` and `stm_aes_…_encrypt`: one block under a new key schedule. -/
def encryptBlock (key din : Bytes) : Bytes := A.encrypt (A.setEncryptKey key) din

/-- `signet_aes_…_decrypt` and `stm_aes_…_decrypt`. -/
def decryptBlock (key din : Bytes) : Bytes := A.decrypt (A.setDecryptKey key) din

/-- The block functions undo each other for each key. -/
def Inverse : Prop := ∀ key, BlockInverse (A.encryptBlock key) (A.decryptBlock key)

end Nettle

/-! ### The loops of `signet_aes.c` and `stm_aes.c` -/

/-- What `iv` points to: nothing, the caller's block, or a block of the object that the loop
    goes through. -/
inductive IvPtr where
  | null
  | arg (iv : Mem)
  | blk (off : Nat)

namespace IvPtr

def ofArg : Option Mem → IvPtr
  | none => null
  | some iv => arg iv

/-- The mask that `xor_block` is given, where the loop goes through `obj`. -/
def mask (obj : Mem) : IvPtr → Option Bytes
  | null => none
  | arg iv => some (iv.read 0 AES_BLK_SIZE)
  | blk off => some (obj.read off AES_BLK_SIZE)

theorem ivOk_mask (obj : Mem) (iv : IvPtr) : ivOk (iv.mask obj) := by
  cases iv with
  | null => trivial
  | arg iv => exact Mem.length_read _ _ _
  | blk off => exact Mem.length_read _ _ _

end IvPtr

/-- The mask that the argument `iv` is. -/
def argMask (iv : Option Mem) : Option Bytes := iv.map fun iv => iv.read 0 AES_BLK_SIZE

theorem mask_ofArg (obj : Mem) (iv : Option Mem) : (IvPtr.ofArg iv).mask obj = argMask iv := by
  cases iv <;> rfl

/-- The loop of the functions that encrypt: `iv` goes on to the output.  `din` and `dout` are
    both `off` bytes past where they began. -/
def encryptCbcLoop (encrypt : Bytes → Bytes) (din : Mem) : Nat → IvPtr → Nat → Mem → Mem
  | 0, _, _, dout => dout
  | n + 1, iv, off, dout =>
    let temp := xorBlock (din.read off AES_BLK_SIZE) (iv.mask dout)
    let dout := dout.write off (encrypt temp)
    encryptCbcLoop encrypt din n (.blk off) (off + AES_BLK_SIZE) dout

/-- The loop of the functions that decrypt: `iv` goes on to the input. -/
def decryptCbcLoop (decrypt : Bytes → Bytes) (din : Mem) : Nat → IvPtr → Nat → Mem → Mem
  | 0, _, _, dout => dout
  | n + 1, iv, off, dout =>
    let temp := decrypt (din.read off AES_BLK_SIZE)
    let dout := dout.write off (xorBlock temp (iv.mask din))
    decryptCbcLoop decrypt din n (.blk off) (off + AES_BLK_SIZE) dout

/-- The body that the functions which encrypt share. -/
def encryptCbc {keySize : Nat} (A : Nettle keySize) (key : Mem) (nBlocks : Nat) (iv : Option Mem)
    (din dout : Mem) : Mem :=
  encryptCbcLoop (A.encryptBlock (key.read 0 keySize)) din nBlocks (.ofArg iv) 0 dout

/-- The body that the functions which decrypt share. -/
def decryptCbc {keySize : Nat} (A : Nettle keySize) (key : Mem) (nBlocks : Nat) (iv : Option Mem)
    (din dout : Mem) : Mem :=
  decryptCbcLoop (A.decryptBlock (key.read 0 keySize)) din nBlocks (.ofArg iv) 0 dout

def AES_128_KEY_SIZE : Nat := 16

def signetAes128EncryptCbc (aes128 : Nettle AES_128_KEY_SIZE) := encryptCbc aes128
def signetAes128DecryptCbc (aes128 : Nettle AES_128_KEY_SIZE) := decryptCbc aes128
def signetAes256EncryptCbc (aes256 : Nettle AES_256_KEY_SIZE) := encryptCbc aes256
def signetAes256DecryptCbc (aes256 : Nettle AES_256_KEY_SIZE) := decryptCbc aes256
def stmAes256EncryptCbc (aes256 : Nettle AES_256_KEY_SIZE) := encryptCbc aes256
def stmAes256DecryptCbc (aes256 : Nettle AES_256_KEY_SIZE) := decryptCbc aes256

section Loops

variable {enc dec : Bytes → Bytes}

/-- The blocks before `off` are left. -/
theorem read_encryptCbcLoop_of_le (din : Mem) (n : Nat) (iv : IvPtr) {off a k : Nat} (dout : Mem)
    (h : a + k ≤ off) : (encryptCbcLoop enc din n iv off dout).read a k = dout.read a k := by
  induction n generalizing iv off dout with
  | zero => rfl
  | succ n ih =>
    rw [encryptCbcLoop, ih _ _ (Nat.le_trans h (Nat.le_add_right _ _))]
    exact Mem.read_write_disjoint _ (.inl h)

theorem read_decryptCbcLoop_of_le (din : Mem) (n : Nat) (iv : IvPtr) {off a k : Nat} (dout : Mem)
    (h : a + k ≤ off) : (decryptCbcLoop dec din n iv off dout).read a k = dout.read a k := by
  induction n generalizing iv off dout with
  | zero => rfl
  | succ n ih =>
    rw [decryptCbcLoop, ih _ _ (Nat.le_trans h (Nat.le_add_right _ _))]
    exact Mem.read_write_disjoint _ (.inl h)

theorem read_blocks_succ (m : Mem) (off n : Nat) :
    m.read off ((n + 1) * AES_BLK_SIZE) =
      m.read off AES_BLK_SIZE ++ m.read (off + AES_BLK_SIZE) (n * AES_BLK_SIZE) := by
  rw [Nat.succ_mul, Nat.add_comm (n * AES_BLK_SIZE), Mem.read_add]

/-- The blocks of a slice: the first one and the others. -/
theorem take_drop_read (m : Mem) (off n : Nat) :
    (m.read off ((n + 1) * AES_BLK_SIZE)).take AES_BLK_SIZE = m.read off AES_BLK_SIZE ∧
      (m.read off ((n + 1) * AES_BLK_SIZE)).drop AES_BLK_SIZE =
        m.read (off + AES_BLK_SIZE) (n * AES_BLK_SIZE) := by
  rw [read_blocks_succ]
  exact ⟨List.take_left' (Mem.length_read _ _ _), List.drop_left' (Mem.length_read _ _ _)⟩

/-- The loop that encrypts writes the chain. -/
theorem read_encryptCbcLoop (hinv : BlockInverse enc dec) (din : Mem) (n : Nat) (iv : IvPtr)
    (off : Nat) (dout : Mem) :
    (encryptCbcLoop enc din n iv off dout).read off (n * AES_BLK_SIZE) =
      cbcEncrypt enc n (iv.mask dout) (din.read off (n * AES_BLK_SIZE)) := by
  induction n generalizing iv off dout with
  | zero =>
    rw [Nat.zero_mul]
    rfl
  | succ n ih =>
    obtain ⟨htake, hdrop⟩ := take_drop_read din off n
    rw [encryptCbcLoop, cbcEncrypt, htake, hdrop]
    have hc := hinv.length_enc _
      (length_xorBlock (din.read off AES_BLK_SIZE) (Mem.length_read _ _ _) (iv.ivOk_mask dout))
    generalize enc (xorBlock (din.read off AES_BLK_SIZE) (iv.mask dout)) = c at hc ⊢
    -- the pointer to the block just written is the mask of the next one
    have hmask : (IvPtr.blk off).mask (dout.write off c) = some c := by
      rw [IvPtr.mask, Mem.read_write _ _ _ _ hc.symm]
    rw [read_blocks_succ, ih, hmask,
      read_encryptCbcLoop_of_le _ _ _ _ (Nat.le_refl _), Mem.read_write _ _ _ _ hc.symm]

/-- The loop that decrypts writes the chain. -/
theorem read_decryptCbcLoop (hinv : BlockInverse enc dec) (din : Mem) (n : Nat) (iv : IvPtr)
    (off : Nat) (dout : Mem) :
    (decryptCbcLoop dec din n iv off dout).read off (n * AES_BLK_SIZE) =
      cbcDecrypt dec n (iv.mask din) (din.read off (n * AES_BLK_SIZE)) := by
  induction n generalizing iv off dout with
  | zero =>
    rw [Nat.zero_mul]
    rfl
  | succ n ih =>
    obtain ⟨htake, hdrop⟩ := take_drop_read din off n
    rw [decryptCbcLoop, cbcDecrypt, htake, hdrop]
    have hp := length_xorBlock (dec (din.read off AES_BLK_SIZE))
      (hinv.length_dec (Mem.length_read _ _ _)) (iv.ivOk_mask din)
    rw [read_blocks_succ, ih,
      read_decryptCbcLoop_of_le _ _ _ _ (Nat.le_refl _), Mem.read_write _ _ _ _ hp.symm]
    rfl

variable {keySize : Nat} {A : Nettle keySize}

theorem read_encryptCbc (hA : A.Inverse) (key : Mem) (n : Nat) (iv : Option Mem) (din dout : Mem) :
    (encryptCbc A key n iv din dout).read 0 (n * AES_BLK_SIZE) =
      cbcEncrypt (A.encryptBlock (key.read 0 keySize)) n (argMask iv)
        (din.read 0 (n * AES_BLK_SIZE)) := by
  unfold encryptCbc
  rw [read_encryptCbcLoop (hA _), mask_ofArg]

theorem read_decryptCbc (hA : A.Inverse) (key : Mem) (n : Nat) (iv : Option Mem) (din dout : Mem) :
    (decryptCbc A key n iv din dout).read 0 (n * AES_BLK_SIZE) =
      cbcDecrypt (A.decryptBlock (key.read 0 keySize)) n (argMask iv)
        (din.read 0 (n * AES_BLK_SIZE)) := by
  unfold decryptCbc
  rw [read_decryptCbcLoop (hA _), mask_ofArg]

theorem ivOk_argMask (iv : Option Mem) : ivOk (argMask iv) := by
  cases iv with
  | none => trivial
  | some iv => exact Mem.length_read _ _ _

/-- What was encrypted into one object is decrypted into another. -/
theorem read_decryptCbc_encryptCbc (hA : A.Inverse) (key : Mem) (n : Nat) (iv : Option Mem)
    (din dout dout' : Mem) :
    (decryptCbc A key n iv (encryptCbc A key n iv din dout) dout').read 0 (n * AES_BLK_SIZE) =
      din.read 0 (n * AES_BLK_SIZE) := by
  rw [read_decryptCbc hA, read_encryptCbc hA]
  exact cbcDecrypt_cbcEncrypt (hA _) n (ivOk_argMask iv) (Mem.length_read _ _ _)

end Loops

/-! ### The FIDO layer -/

/-- The argument `key` of `crypto_aes256_init`: `CRYPTO_TRANSPORT_KEY`, or a pointer. -/
inductive FidoKey where
  | transportKey
  | ptr (key : Mem)

/-- The key that is copied. -/
def FidoKey.bytes (transportSecret : Mem) : FidoKey → Bytes
  | transportKey => transportSecret.read 0 AES_256_KEY_SIZE
  | ptr key => key.read 0 AES_256_KEY_SIZE

/-- The IV that a nonce stands for: zeros when it is NULL. -/
def nonceIv : Option Mem → Bytes
  | none => List.replicate AES_BLK_SIZE 0
  | some nonce => nonce.read 0 AES_BLK_SIZE

/-- The static variables of `crypto.c`. -/
structure FidoAes (A : Nettle AES_256_KEY_SIZE) where
  aesCtx : A.Ctx
  aesCtxIv : Bytes
  aesKey : Bytes
  aesDecryptMode : Bool
  aesEncryptMode : Bool
  transportSecret : Mem

/-- Where `iv` points in `crypto_aes256_encrypt`: to `aes_ctxIv` or into the buffer. -/
inductive FidoIv where
  | saved
  | blk (off : Nat)

namespace FidoAes

variable {A : Nettle AES_256_KEY_SIZE}

/-- `crypto_aes256_init`. -/
def cryptoAes256Init (key : FidoKey) (nonce : Option Mem) (s : FidoAes A) : FidoAes A :=
  { s with
    aesDecryptMode := false
    aesEncryptMode := false
    aesKey := key.bytes s.transportSecret
    aesCtxIv := nonceIv nonce }

/-- `crypto_aes256_reset_iv`. -/
def cryptoAes256ResetIv (nonce : Option Mem) (s : FidoAes A) : FidoAes A :=
  { s with aesCtxIv := nonceIv nonce }

/-- The block that `iv` points to. -/
def ivBlock (s : FidoAes A) (m : Mem) : FidoIv → Bytes
  | .saved => s.aesCtxIv
  | .blk off => m.read off AES_BLK_SIZE

/-- The loop of `crypto_aes256_encrypt` with `k` blocks left, the next one being block `i` of
    the buffer at `buf`. -/
def encryptLoop (nBlocks buf : Nat) : Nat → Nat → FidoIv → FidoAes A → Mem → FidoAes A × Mem
  | 0, _, _, s, m => (s, m)
  | k + 1, i, iv, s, m =>
    let off := buf + AES_BLK_SIZE * i
    let temp := xorBlock (m.read off AES_BLK_SIZE) (some (s.ivBlock m iv))
    let m := m.write off (A.encrypt s.aesCtx temp)
    let s := if i = nBlocks - 1 then { s with aesCtxIv := m.read off AES_BLK_SIZE } else s
    encryptLoop nBlocks buf k (i + 1) (.blk off) s m

/-- The loop of `crypto_aes256_decrypt`. -/
def decryptLoop (buf : Nat) : Nat → Nat → FidoAes A → Mem → FidoAes A × Mem
  | 0, _, s, m => (s, m)
  | k + 1, i, s, m =>
    let off := buf + AES_BLK_SIZE * i
    let srcTemp := m.read off AES_BLK_SIZE
    let temp := A.decrypt s.aesCtx (m.read off AES_BLK_SIZE)
    let m := m.write off (xorBlock temp (some s.aesCtxIv))
    decryptLoop buf k (i + 1) { s with aesCtxIv := srcTemp } m

/-- `crypto_aes256_encrypt`, on the buffer at `buf`; none when its assertion fails. -/
def cryptoAes256Encrypt (buf length : Nat) (s : FidoAes A) (m : Mem) :
    Option (FidoAes A × Mem) :=
  let s :=
    if ¬ s.aesEncryptMode then
      { s with
        aesEncryptMode := true
        aesDecryptMode := false
        aesCtx := A.setEncryptKey s.aesKey }
    else s
  let nBlocks := length / AES_BLK_SIZE
  if nBlocks * AES_BLK_SIZE = length then some (encryptLoop nBlocks buf nBlocks 0 .saved s m)
  else none

/-- `crypto_aes256_decrypt`. -/
def cryptoAes256Decrypt (buf length : Nat) (s : FidoAes A) (m : Mem) :
    Option (FidoAes A × Mem) :=
  let s :=
    if ¬ s.aesDecryptMode then
      { s with
        aesDecryptMode := true
        aesEncryptMode := false
        aesCtx := A.setDecryptKey s.aesKey }
    else s
  let nBlocks := length / AES_BLK_SIZE
  if nBlocks * AES_BLK_SIZE = length then some (decryptLoop buf nBlocks 0 s m) else none

end FidoAes

/-- The calls of the FIDO layer, those on a buffer with whole blocks. -/
inductive FidoCall where
  | init (key : FidoKey) (nonce : Option Mem)
  | resetIv (nonce : Option Mem)
  | encrypt (buf nBlocks : Nat)
  | decrypt (buf nBlocks : Nat)

section Fido

variable {A : Nettle AES_256_KEY_SIZE}

def FidoAes.call : FidoAes A × Mem → FidoCall → Option (FidoAes A × Mem)
  | (s, m), .init key nonce => some (s.cryptoAes256Init key nonce, m)
  | (s, m), .resetIv nonce => some (s.cryptoAes256ResetIv nonce, m)
  | (s, m), .encrypt buf nBlocks => s.cryptoAes256Encrypt buf (nBlocks * AES_BLK_SIZE) m
  | (s, m), .decrypt buf nBlocks => s.cryptoAes256Decrypt buf (nBlocks * AES_BLK_SIZE) m

/-- One call after the other. -/
def FidoAes.calls (cs : List FidoCall) (s : FidoAes A) (m : Mem) : Option (FidoAes A × Mem) :=
  cs.foldlM FidoAes.call (s, m)

/-- What the FIDO layer is for: a key, and the IV that the next block is chained to. -/
structure Chain where
  key : Bytes
  iv : Bytes
  transportSecret : Mem

/-- A call on a chain. -/
def Chain.call (A : Nettle AES_256_KEY_SIZE) : Chain × Mem → FidoCall → Chain × Mem
  | (c, m), .init key nonce =>
    ({ c with key := key.bytes c.transportSecret, iv := nonceIv nonce }, m)
  | (c, m), .resetIv nonce => ({ c with iv := nonceIv nonce }, m)
  | (c, m), .encrypt buf nBlocks =>
    let ct := cbcEncrypt (A.encryptBlock c.key) nBlocks (some c.iv)
      (m.read buf (nBlocks * AES_BLK_SIZE))
    ({ c with iv := nextIv nBlocks c.iv ct }, m.write buf ct)
  | (c, m), .decrypt buf nBlocks =>
    let ct := m.read buf (nBlocks * AES_BLK_SIZE)
    ({ c with iv := nextIv nBlocks c.iv ct },
      m.write buf (cbcDecrypt (A.decryptBlock c.key) nBlocks (some c.iv) ct))

def Chain.calls (A : Nettle AES_256_KEY_SIZE) (cs : List FidoCall) (c : Chain) (m : Mem) :
    Chain × Mem :=
  cs.foldl (Chain.call A) (c, m)

def FidoAes.toChain (s : FidoAes A) : Chain where
  key := s.aesKey
  iv := s.aesCtxIv
  transportSecret := s.transportSecret

/-- A mode flag promises the key schedule of its direction, and the saved IV is a block. -/
structure FidoAes.Ready (s : FidoAes A) : Prop where
  encryptMode : s.aesEncryptMode → s.aesCtx = A.setEncryptKey s.aesKey
  decryptMode : s.aesDecryptMode → s.aesCtx = A.setDecryptKey s.aesKey
  iv : s.aesCtxIv.length = AES_BLK_SIZE

/-! ### The FIDO layer is a chain -/

theorem write_nil (m : Mem) (off : Nat) : m.write off [] = m := by
  funext a
  exact Mem.write_apply_of_notMem m (by rw [List.length_nil]; omega)

namespace FidoAes

/-- The loop that encrypts writes the chain over the blocks that are left and ends with the last
    one saved. -/
theorem encryptLoop_eq (hA : A.Inverse) {nBlocks buf k i : Nat} {iv : FidoIv} {s : FidoAes A}
    {m : Mem} (hctx : s.aesCtx = A.setEncryptKey s.aesKey) (hik : i + k = nBlocks)
    (hiv : (s.ivBlock m iv).length = AES_BLK_SIZE) :
    encryptLoop nBlocks buf k i iv s m =
      ({ s with
          aesCtxIv :=
            if k = 0 then s.aesCtxIv
            else nextIv k (s.ivBlock m iv) (cbcEncrypt (A.encryptBlock s.aesKey) k
              (some (s.ivBlock m iv)) (m.read (buf + AES_BLK_SIZE * i) (k * AES_BLK_SIZE))) },
        m.write (buf + AES_BLK_SIZE * i) (cbcEncrypt (A.encryptBlock s.aesKey) k
          (some (s.ivBlock m iv)) (m.read (buf + AES_BLK_SIZE * i) (k * AES_BLK_SIZE)))) := by
  induction k generalizing i iv s m with
  | zero =>
    rw [encryptLoop, cbcEncrypt, write_nil]
    rfl
  | succ k ih =>
    have hnext : buf + AES_BLK_SIZE * (i + 1) = buf + AES_BLK_SIZE * i + AES_BLK_SIZE := by
      rw [Nat.mul_succ, Nat.add_assoc]
    obtain ⟨htake, hdrop⟩ := take_drop_read m (buf + AES_BLK_SIZE * i) k
    have hc := (hA s.aesKey).length_enc _
      (length_xorBlock (m.read (buf + AES_BLK_SIZE * i) AES_BLK_SIZE) (Mem.length_read _ _ _)
        (show ivOk (some (s.ivBlock m iv)) from hiv))
    rw [encryptLoop, cbcEncrypt, htake, hdrop, hctx]
    change (A.encrypt (A.setEncryptKey s.aesKey) _).length = _ at hc
    simp only [Nettle.encryptBlock]
    generalize A.encrypt (A.setEncryptKey s.aesKey) (xorBlock
      (m.read (buf + AES_BLK_SIZE * i) AES_BLK_SIZE) (some (s.ivBlock m iv))) = c at hc ⊢
    have hread : (m.write (buf + AES_BLK_SIZE * i) c).read (buf + AES_BLK_SIZE * i) AES_BLK_SIZE =
        c := Mem.read_write _ _ _ _ hc.symm
    have hrest : (m.write (buf + AES_BLK_SIZE * i) c).read (buf + AES_BLK_SIZE * i + AES_BLK_SIZE)
        (k * AES_BLK_SIZE) =
          m.read (buf + AES_BLK_SIZE * i + AES_BLK_SIZE) (k * AES_BLK_SIZE) :=
      Mem.read_write_disjoint _ (.inr (by rw [hc]))
    by_cases hk : k = 0
    · -- the last block is saved
      subst hk
      rw [if_pos (show i = nBlocks - 1 by omega), encryptLoop, hread]
      simp only [cbcEncrypt, nextIv, List.append_nil, one_ne_zero,
        if_false, Nat.zero_add, List.take_of_length_le (Nat.le_of_eq hc)]
    · rw [if_neg (show i ≠ nBlocks - 1 by omega), ih hctx (by omega) (hread ▸ hc)]
      simp only [ivBlock, hnext, hread, hrest, if_neg hk, if_neg (Nat.succ_ne_zero k), nextIv,
        List.take_left' hc, List.drop_left' hc, Mem.write_append, hc]
      rw [← hctx]

/-- The loop that decrypts. -/
theorem decryptLoop_eq (hA : A.Inverse) {buf k i : Nat} {s : FidoAes A} {m : Mem}
    (hctx : s.aesCtx = A.setDecryptKey s.aesKey) (hiv : s.aesCtxIv.length = AES_BLK_SIZE) :
    decryptLoop buf k i s m =
      ({ s with
          aesCtxIv := nextIv k s.aesCtxIv
            (m.read (buf + AES_BLK_SIZE * i) (k * AES_BLK_SIZE)) },
        m.write (buf + AES_BLK_SIZE * i) (cbcDecrypt (A.decryptBlock s.aesKey) k
          (some s.aesCtxIv) (m.read (buf + AES_BLK_SIZE * i) (k * AES_BLK_SIZE)))) := by
  induction k generalizing i s m with
  | zero =>
    rw [decryptLoop, cbcDecrypt, write_nil]
    rfl
  | succ k ih =>
    have hnext : buf + AES_BLK_SIZE * (i + 1) = buf + AES_BLK_SIZE * i + AES_BLK_SIZE := by
      rw [Nat.mul_succ, Nat.add_assoc]
    obtain ⟨htake, hdrop⟩ := take_drop_read m (buf + AES_BLK_SIZE * i) k
    have hlen := Mem.length_read m (buf + AES_BLK_SIZE * i) AES_BLK_SIZE
    have hp := length_xorBlock (A.decryptBlock s.aesKey _) ((hA s.aesKey).length_dec hlen)
      (show ivOk (some s.aesCtxIv) from hiv)
    have hrest : (m.write (buf + AES_BLK_SIZE * i) (xorBlock (A.decryptBlock s.aesKey
        (m.read (buf + AES_BLK_SIZE * i) AES_BLK_SIZE)) (some s.aesCtxIv))).read
          (buf + AES_BLK_SIZE * i + AES_BLK_SIZE) (k * AES_BLK_SIZE) =
            m.read (buf + AES_BLK_SIZE * i + AES_BLK_SIZE) (k * AES_BLK_SIZE) :=
      Mem.read_write_disjoint _ (.inr (by rw [hp]))
    have htemp : A.decrypt s.aesCtx (m.read (buf + AES_BLK_SIZE * i) AES_BLK_SIZE) =
        A.decryptBlock s.aesKey (m.read (buf + AES_BLK_SIZE * i) AES_BLK_SIZE) := by
      rw [hctx]
      rfl
    have htail := @ih (i + 1)
      { s with aesCtxIv := m.read (buf + AES_BLK_SIZE * i) AES_BLK_SIZE }
      (m.write (buf + AES_BLK_SIZE * i) (xorBlock (A.decryptBlock s.aesKey
        (m.read (buf + AES_BLK_SIZE * i) AES_BLK_SIZE)) (some s.aesCtxIv))) hctx hlen
    rw [decryptLoop, cbcDecrypt, nextIv, htake, hdrop, htemp]
    refine htail.trans ?_
    simp only [hnext, hrest, Mem.write_append, hp]

/-- `crypto_aes256_encrypt` on whole blocks is a link of the chain. -/
theorem cryptoAes256Encrypt_eq (hA : A.Inverse) (buf n : Nat) {s : FidoAes A} {m : Mem}
    (h : s.Ready) :
    ∃ s', s.cryptoAes256Encrypt buf (n * AES_BLK_SIZE) m =
        some (s', (Chain.call A (s.toChain, m) (.encrypt buf n)).2) ∧
      s'.toChain = (Chain.call A (s.toChain, m) (.encrypt buf n)).1 ∧ s'.Ready := by
  have hdiv : n * AES_BLK_SIZE / AES_BLK_SIZE = n := Nat.mul_div_cancel n (by decide)
  unfold cryptoAes256Encrypt
  dsimp only
  rw [hdiv, if_pos rfl]
  generalize hs₁ : (if ¬ s.aesEncryptMode then
      { s with
        aesEncryptMode := true
        aesDecryptMode := false
        aesCtx := A.setEncryptKey s.aesKey }
    else s) = s₁
  obtain ⟨hchain, hctx, hmode⟩ : s₁.toChain = s.toChain ∧
      s₁.aesCtx = A.setEncryptKey s₁.aesKey ∧ (s₁.aesDecryptMode → s₁.aesCtx =
        A.setDecryptKey s₁.aesKey) := by
    subst hs₁
    split
    · exact ⟨rfl, rfl, fun hmode => absurd hmode Bool.false_ne_true⟩
    · rename_i hmode
      exact ⟨rfl, h.encryptMode (Decidable.not_not.mp hmode), h.decryptMode⟩
  have hiv : s₁.aesCtxIv.length = AES_BLK_SIZE := congrArg (fun c => c.iv.length) hchain ▸ h.iv
  rw [encryptLoop_eq hA hctx (Nat.zero_add n)
    (show (s₁.ivBlock m .saved).length = AES_BLK_SIZE from hiv), ← hchain]
  simp only [ivBlock, Nat.mul_zero, Nat.add_zero]
  have hsaved : ∀ ct, (if n = 0 then s₁.aesCtxIv else nextIv n s₁.aesCtxIv ct) =
      nextIv n s₁.aesCtxIv ct := by
    intro ct
    by_cases hn : n = 0
    · rw [if_pos hn, hn, nextIv]
    · rw [if_neg hn]
  rw [hsaved]
  refine ⟨_, rfl, rfl, fun _ => hctx, hmode, ?_⟩
  exact length_nextIv n hiv (length_cbcEncrypt (hA _) n hiv (Mem.length_read _ _ _))

/-- `crypto_aes256_decrypt` on whole blocks is a link of the chain. -/
theorem cryptoAes256Decrypt_eq (hA : A.Inverse) (buf n : Nat) {s : FidoAes A} {m : Mem}
    (h : s.Ready) :
    ∃ s', s.cryptoAes256Decrypt buf (n * AES_BLK_SIZE) m =
        some (s', (Chain.call A (s.toChain, m) (.decrypt buf n)).2) ∧
      s'.toChain = (Chain.call A (s.toChain, m) (.decrypt buf n)).1 ∧ s'.Ready := by
  have hdiv : n * AES_BLK_SIZE / AES_BLK_SIZE = n := Nat.mul_div_cancel n (by decide)
  unfold cryptoAes256Decrypt
  dsimp only
  rw [hdiv, if_pos rfl]
  generalize hs₁ : (if ¬ s.aesDecryptMode then
      { s with
        aesDecryptMode := true
        aesEncryptMode := false
        aesCtx := A.setDecryptKey s.aesKey }
    else s) = s₁
  obtain ⟨hchain, hctx, hmode⟩ : s₁.toChain = s.toChain ∧
      s₁.aesCtx = A.setDecryptKey s₁.aesKey ∧ (s₁.aesEncryptMode → s₁.aesCtx =
        A.setEncryptKey s₁.aesKey) := by
    subst hs₁
    split
    · exact ⟨rfl, rfl, fun hmode => absurd hmode Bool.false_ne_true⟩
    · rename_i hmode
      exact ⟨rfl, h.decryptMode (Decidable.not_not.mp hmode), h.encryptMode⟩
  have hiv : s₁.aesCtxIv.length = AES_BLK_SIZE := congrArg (fun c => c.iv.length) hchain ▸ h.iv
  rw [decryptLoop_eq hA hctx hiv, ← hchain]
  simp only [Nat.mul_zero, Nat.add_zero]
  refine ⟨_, rfl, rfl, hmode, fun _ => hctx, ?_⟩
  exact length_nextIv n hiv (Mem.length_read _ _ _)

/-- `crypto_aes256_init` forgets whatever was there. -/
theorem ready_init (key : FidoKey) (nonce : Option Mem) (s : FidoAes A) :
    (s.cryptoAes256Init key nonce).Ready := by
  refine ⟨fun hmode => absurd hmode Bool.false_ne_true,
    fun hmode => absurd hmode Bool.false_ne_true, ?_⟩
  cases nonce with
  | none => rfl
  | some nonce => exact Mem.length_read _ _ _

theorem Ready.resetIv {s : FidoAes A} (h : s.Ready) (nonce : Option Mem) :
    (s.cryptoAes256ResetIv nonce).Ready := by
  refine ⟨h.encryptMode, h.decryptMode, ?_⟩
  cases nonce with
  | none => rfl
  | some nonce => exact Mem.length_read _ _ _

/-- A call is a call on the chain. -/
theorem call_toChain (hA : A.Inverse) {s : FidoAes A} (h : s.Ready) (m : Mem) (c : FidoCall) :
    ∃ s', call (s, m) c = some (s', (Chain.call A (s.toChain, m) c).2) ∧
      s'.toChain = (Chain.call A (s.toChain, m) c).1 ∧ s'.Ready := by
  cases c with
  | init key nonce => exact ⟨_, rfl, rfl, ready_init key nonce s⟩
  | resetIv nonce => exact ⟨_, rfl, rfl, h.resetIv nonce⟩
  | encrypt buf n => exact cryptoAes256Encrypt_eq hA buf n h
  | decrypt buf n => exact cryptoAes256Decrypt_eq hA buf n h

/-- A run of calls is a run on the chain. -/
theorem calls_toChain (hA : A.Inverse) (cs : List FidoCall) {s : FidoAes A} (h : s.Ready)
    (m : Mem) :
    ∃ s', s.calls cs m = some (s', (Chain.calls A cs s.toChain m).2) ∧
      s'.toChain = (Chain.calls A cs s.toChain m).1 ∧ s'.Ready := by
  induction cs generalizing s m with
  | nil => exact ⟨s, rfl, rfl, h⟩
  | cons c cs ih =>
    obtain ⟨s₁, hcall, hchain, hready⟩ := call_toChain hA h m c
    obtain ⟨s', hcalls, hend, hready'⟩ := ih hready (Chain.call A (s.toChain, m) c).2
    rw [hchain] at hcalls hend
    refine ⟨s', ?_, hend, hready'⟩
    calc s.calls (c :: cs) m
        = (call (s, m) c).bind fun p => p.1.calls cs p.2 := List.foldlM_cons
      _ = s₁.calls cs (Chain.call A (s.toChain, m) c).2 := by rw [hcall]; rfl
      _ = _ := hcalls

end FidoAes

/-! ### Splitting a buffer into calls -/

/-- Calls for `ns` blocks each, over the buffer at `buf`. -/
def splitCalls (call : Nat → Nat → FidoCall) : List Nat → Nat → List FidoCall
  | [], _ => []
  | n :: ns, buf => call buf n :: splitCalls call ns (buf + n * AES_BLK_SIZE)

namespace Chain

theorem encrypt_zero (c : Chain) (m : Mem) (buf : Nat) :
    call A (c, m) (.encrypt buf 0) = (c, m) := by
  simp only [call, cbcEncrypt, nextIv, write_nil]

theorem decrypt_zero (c : Chain) (m : Mem) (buf : Nat) :
    call A (c, m) (.decrypt buf 0) = (c, m) := by
  simp only [call, cbcDecrypt, nextIv, write_nil]

theorem read_blocks_add (m : Mem) (buf n k : Nat) :
    (m.read buf ((n + k) * AES_BLK_SIZE)).take (n * AES_BLK_SIZE) =
        m.read buf (n * AES_BLK_SIZE) ∧
      (m.read buf ((n + k) * AES_BLK_SIZE)).drop (n * AES_BLK_SIZE) =
        m.read (buf + n * AES_BLK_SIZE) (k * AES_BLK_SIZE) := by
  rw [Nat.add_mul, Mem.read_add]
  exact ⟨List.take_left' (Mem.length_read _ _ _), List.drop_left' (Mem.length_read _ _ _)⟩

/-- Two calls that encrypt neighbouring blocks are one. -/
theorem encrypt_encrypt (hA : A.Inverse) {c : Chain} (hiv : c.iv.length = AES_BLK_SIZE) (m : Mem)
    (buf n k : Nat) :
    call A (call A (c, m) (.encrypt buf n)) (.encrypt (buf + n * AES_BLK_SIZE) k) =
      call A (c, m) (.encrypt buf (n + k)) := by
  obtain ⟨htake, hdrop⟩ := read_blocks_add m buf n k
  have hlen := length_cbcEncrypt (hA c.key) n (show ivOk (some c.iv) from hiv)
    (Mem.length_read m buf (n * AES_BLK_SIZE))
  simp only [call]
  rw [cbcEncrypt_add (hA c.key) n k hiv (Mem.length_read _ _ _), htake, hdrop]
  generalize cbcEncrypt (A.encryptBlock c.key) n (some c.iv) (m.read buf (n * AES_BLK_SIZE)) = ct
    at hlen ⊢
  rw [nextIv_add n k hlen, Mem.write_append, hlen, Mem.read_write_disjoint _ (.inr (by rw [hlen]))]

/-- Two calls that decrypt neighbouring blocks are one. -/
theorem decrypt_decrypt (hA : A.Inverse) {c : Chain} (hiv : c.iv.length = AES_BLK_SIZE) (m : Mem)
    (buf n k : Nat) :
    call A (call A (c, m) (.decrypt buf n)) (.decrypt (buf + n * AES_BLK_SIZE) k) =
      call A (c, m) (.decrypt buf (n + k)) := by
  obtain ⟨htake, hdrop⟩ := read_blocks_add m buf n k
  have hlen := length_cbcDecrypt (hA c.key) n (show ivOk (some c.iv) from hiv)
    (Mem.length_read m buf (n * AES_BLK_SIZE))
  have hct : m.read buf ((n + k) * AES_BLK_SIZE) =
      m.read buf (n * AES_BLK_SIZE) ++ m.read (buf + n * AES_BLK_SIZE) (k * AES_BLK_SIZE) := by
    rw [← htake, ← hdrop, List.take_append_drop]
  simp only [call]
  rw [cbcDecrypt_add n k (Mem.length_read _ _ _), htake, hdrop, hct,
    nextIv_add n k (Mem.length_read _ _ _), Mem.write_append, hlen,
    Mem.read_write_disjoint _ (.inr (by rw [hlen]))]

theorem length_iv_encrypt (hA : A.Inverse) {c : Chain} (hiv : c.iv.length = AES_BLK_SIZE) (m : Mem)
    (buf n : Nat) : (call A (c, m) (.encrypt buf n)).1.iv.length = AES_BLK_SIZE :=
  length_nextIv n hiv (length_cbcEncrypt (hA c.key) n (show ivOk (some c.iv) from hiv)
    (Mem.length_read _ _ _))

theorem length_iv_decrypt {c : Chain} (hiv : c.iv.length = AES_BLK_SIZE) (m : Mem)
    (buf n : Nat) : (call A (c, m) (.decrypt buf n)).1.iv.length = AES_BLK_SIZE :=
  length_nextIv n hiv (Mem.length_read _ _ _)

/-- Any split of a buffer encrypts it as one call does. -/
theorem calls_encrypt (hA : A.Inverse) (ns : List Nat) {c : Chain}
    (hiv : c.iv.length = AES_BLK_SIZE) (m : Mem) (buf : Nat) :
    calls A (splitCalls .encrypt ns buf) c m = call A (c, m) (.encrypt buf ns.sum) := by
  induction ns generalizing c m buf with
  | nil => exact (encrypt_zero c m buf).symm
  | cons n ns ih =>
    rw [List.sum_cons, ← encrypt_encrypt hA hiv]
    exact ih (length_iv_encrypt hA hiv m buf n) _ _

/-- Any split of a buffer decrypts it as one call does. -/
theorem calls_decrypt (hA : A.Inverse) (ns : List Nat) {c : Chain}
    (hiv : c.iv.length = AES_BLK_SIZE) (m : Mem) (buf : Nat) :
    calls A (splitCalls .decrypt ns buf) c m = call A (c, m) (.decrypt buf ns.sum) := by
  induction ns generalizing c m buf with
  | nil => exact (decrypt_zero c m buf).symm
  | cons n ns ih =>
    rw [List.sum_cons, ← decrypt_decrypt hA hiv]
    exact ih (@length_iv_decrypt A c hiv m buf n) _ _

/-- A buffer that was encrypted is decrypted from the same IV on. -/
theorem decrypt_encrypt (hA : A.Inverse) {c c' : Chain} (hiv : c.iv.length = AES_BLK_SIZE)
    (hkey : c'.key = c.key) (hiv' : c'.iv = c.iv) (m : Mem) (buf n : Nat) :
    (call A (c', (call A (c, m) (.encrypt buf n)).2) (.decrypt buf n)).2 = m := by
  have hlen := length_cbcEncrypt (hA c.key) n (show ivOk (some c.iv) from hiv)
    (Mem.length_read m buf (n * AES_BLK_SIZE))
  have hround := cbcDecrypt_cbcEncrypt (hA c.key) n (show ivOk (some c.iv) from hiv)
    (Mem.length_read m buf (n * AES_BLK_SIZE))
  simp only [call, hkey, hiv']
  rw [Mem.read_write _ _ _ _ hlen.symm, hround]
  funext a
  by_cases hin : buf ≤ a ∧ a < buf + n * AES_BLK_SIZE
  · rw [Mem.write_apply_of_mem _ hin.1 (by rw [Mem.length_read]; exact hin.2), Mem.getElem_read,
      Nat.add_sub_cancel' hin.1]
  · rw [Mem.write_apply_of_notMem _ (by rw [Mem.length_read]; omega),
      Mem.write_apply_of_notMem _ (by rw [hlen]; omega)]

end Chain

/-- The saved IV of zeros does for a NULL one. -/
theorem cbcEncrypt_nonceIv {enc : Bytes → Bytes} (n : Nat) (nonce : Option Mem) {din : Bytes}
    (hlen : din.length = n * AES_BLK_SIZE) :
    cbcEncrypt enc n (some (nonceIv nonce)) din = cbcEncrypt enc n (argMask nonce) din := by
  cases nonce with
  | none => exact cbcEncrypt_zero_iv n hlen
  | some nonce => rfl

/-- **Every decryption function undoes its encryption function; the FIDO layer encrypts a buffer
    by any split into calls as `signet_aes_256_encrypt_cbc` does, decrypts it by any other, and
    chains each call to the one before, in whatever direction they go.** -/
theorem cbc_layers (aes128 : Nettle AES_128_KEY_SIZE) (aes256 : Nettle AES_256_KEY_SIZE)
    (h128 : aes128.Inverse) (h256 : aes256.Inverse) :
    (∀ key n iv din dout dout',
      (signetAes256DecryptCbc aes256 key n iv (signetAes256EncryptCbc aes256 key n iv din dout)
        dout').read 0 (n * AES_BLK_SIZE) = din.read 0 (n * AES_BLK_SIZE)) ∧
    (∀ key n iv din dout dout',
      (signetAes128DecryptCbc aes128 key n iv (signetAes128EncryptCbc aes128 key n iv din dout)
        dout').read 0 (n * AES_BLK_SIZE) = din.read 0 (n * AES_BLK_SIZE)) ∧
    (∀ key n iv din dout dout',
      (stmAes256DecryptCbc aes256 key n iv (stmAes256EncryptCbc aes256 key n iv din dout)
        dout').read 0 (n * AES_BLK_SIZE) = din.read 0 (n * AES_BLK_SIZE)) ∧
    (∀ (s : FidoAes aes256) key nonce m buf ns ks, ks.sum = ns.sum →
      ∃ s₁ s₁' s₂ m₁,
        s.calls (.init key nonce :: splitCalls .encrypt ns buf) m = some (s₁, m₁) ∧
        s.calls [.init key nonce, .encrypt buf ns.sum] m = some (s₁', m₁) ∧
        s₁'.aesCtxIv = s₁.aesCtxIv ∧
        (∀ keyPtr dout, keyPtr.read 0 AES_256_KEY_SIZE = key.bytes s.transportSecret →
          m₁.read buf (ns.sum * AES_BLK_SIZE) =
            (signetAes256EncryptCbc aes256 keyPtr ns.sum nonce (m.window buf) dout).read 0
              (ns.sum * AES_BLK_SIZE)) ∧
        s₁.calls (.resetIv nonce :: splitCalls .decrypt ks buf) m₁ = some (s₂, m)) ∧
    (∀ (s : FidoAes aes256) key nonce m cs,
      ∃ s', s.calls (.init key nonce :: cs) m =
          some (s', (Chain.calls aes256 (.init key nonce :: cs) s.toChain m).2) ∧
        s'.toChain = (Chain.calls aes256 (.init key nonce :: cs) s.toChain m).1) := by
  refine ⟨?_, ?_, ?_, ?_, ?_⟩
  · intro key n iv din dout dout'
    exact read_decryptCbc_encryptCbc h256 key n iv din dout dout'
  · intro key n iv din dout dout'
    exact read_decryptCbc_encryptCbc h128 key n iv din dout dout'
  · intro key n iv din dout dout'
    exact read_decryptCbc_encryptCbc h256 key n iv din dout dout'
  · intro s key nonce m buf ns ks hsum
    have hready := FidoAes.ready_init key nonce s
    obtain ⟨s₁, hcalls, hchain, hready₁⟩ :=
      FidoAes.calls_toChain h256 (splitCalls .encrypt ns buf) hready m
    obtain ⟨s₁', hcall, hchain', -⟩ :=
      FidoAes.calls_toChain h256 [.encrypt buf ns.sum] hready m
    obtain ⟨s₂, hback, -, -⟩ := FidoAes.calls_toChain h256 (splitCalls .decrypt ks buf)
      (hready₁.resetIv nonce) (Chain.calls aes256 (splitCalls .encrypt ns buf)
        (s.cryptoAes256Init key nonce).toChain m).2
    rw [Chain.calls_decrypt h256 _ (hready₁.resetIv nonce).iv, hsum] at hback
    rw [Chain.calls_encrypt h256 _ hready.iv] at hcalls hchain hback
    refine ⟨s₁, s₁', s₂, _, hcalls, hcall, ?_, ?_, ?_⟩
    · exact congrArg Chain.iv (hchain'.trans hchain.symm)
    · intro keyPtr dout hkey
      have hlen := length_cbcEncrypt (h256 (key.bytes s.transportSecret)) ns.sum
        (show ivOk (some (nonceIv nonce)) from hready.iv)
        (Mem.length_read m buf (ns.sum * AES_BLK_SIZE))
      unfold signetAes256EncryptCbc
      rw [read_encryptCbc h256, hkey, Mem.read_window, Nat.add_zero,
        ← cbcEncrypt_nonceIv _ _ (Mem.length_read _ _ _)]
      exact Mem.read_write _ _ _ _ hlen.symm
    · have hkey : s₁.aesKey = (s.cryptoAes256Init key nonce).aesKey := congrArg Chain.key hchain
      have hround := Chain.decrypt_encrypt h256 hready.iv
        (show (s₁.cryptoAes256ResetIv nonce).toChain.key =
          (s.cryptoAes256Init key nonce).toChain.key from hkey) rfl m buf ns.sum
      rw [hround] at hback
      exact hback
  · intro s key nonce m cs
    obtain ⟨s', hcalls, hchain, -⟩ :=
      FidoAes.calls_toChain h256 cs (FidoAes.ready_init key nonce s) m
    exact ⟨s', hcalls, hchain⟩

end Fido

/-- A cipher that adds the first byte of the key to every byte. -/
def addKey (keySize : Nat) : Nettle keySize where
  Ctx := UInt8
  setEncryptKey := fun key => key.headD 0
  setDecryptKey := fun key => key.headD 0
  encrypt := fun k b => b.map (· + k)
  decrypt := fun k b => b.map (· - k)

theorem inverse_addKey (keySize : Nat) : (addKey keySize).Inverse := by
  intro key
  refine ⟨fun b hb => ?_, fun b _ => ?_⟩
  · exact (List.length_map _).trans hb
  · change (b.map (· + key.headD 0)).map (· - key.headD 0) = b
    rw [List.map_map]
    refine (List.map_congr_left fun x _ => ?_).trans (List.map_id b)
    exact UInt8.add_sub_cancel x _

theorem cbc_layers_addKey :
    (addKey AES_128_KEY_SIZE).Inverse ∧ (addKey AES_256_KEY_SIZE).Inverse ∧
      (signetAes256DecryptCbc (addKey AES_256_KEY_SIZE) (fun _ => 7) 2 none
        (signetAes256EncryptCbc (addKey AES_256_KEY_SIZE) (fun _ => 7) 2 none
          (fun i => UInt8.ofNat i) fun _ => 0) fun _ => 0).read 0 (2 * AES_BLK_SIZE) =
        Mem.read (fun i => UInt8.ofNat i) 0 (2 * AES_BLK_SIZE) :=
  ⟨inverse_addKey _, inverse_addKey _,
    (cbc_layers (addKey AES_128_KEY_SIZE) (addKey AES_256_KEY_SIZE) (inverse_addKey _)
      (inverse_addKey _)).1 _ 2 none _ _ _⟩

end SignetBase
