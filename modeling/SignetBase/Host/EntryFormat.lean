/-
  SignetBase/Host/EntryFormat.lean
  ================================
  **The host's record format: `encode_entry_data` and `decode_id` (`signetdev.c`).**

  A record travels in sub-blocks of sixteen bytes, two with the mask bits and
  fourteen with the data.  The encoder walks over the bytes of the record, the decoder
  over the bytes of the message, so the decoder takes more steps than there are bytes
  of data.  What it touches on the way is kept in a list: the same list says
  in `Responses.lean` what a faulty device can make it touch.
-/
import SignetBase.RawHid

namespace SignetBase

open Function

/-! ### Bits of a byte -/

namespace Mem

/-- Bit `k` of byte `a`: `(m[a] >> k) & 1`. -/
def bit (m : Mem) (a k : Nat) : Bool := (m a).toNat.testBit k

/-- `m[a] = (m[a] & ~(1 << k)) | (b << k)`. -/
def putBit (m : Mem) (a k : Nat) (b : Bool) : Mem :=
  update m a (UInt8.ofNat (((m a).toNat &&& (255 ^^^ 1 <<< k)) ||| b.toNat <<< k))

theorem testBit_putBit (x : Nat) {k j : Nat} (hj : j < 8) (b : Bool) :
    ((((x &&& (255 ^^^ 1 <<< k)) ||| b.toNat <<< k) % 2 ^ 8)).testBit j =
      if j = k then b else x.testBit j := by
  have hbyte : Nat.testBit 255 j = true := by
    rw [show 255 = 2 ^ 8 - 1 from rfl, Nat.testBit_two_pow_sub_one]
    exact decide_eq_true hj
  have hone : ∀ i, Nat.testBit 1 i = decide (i = 0) := by
    intro i
    simpa using Nat.testBit_bool_toNat true i
  rw [Nat.testBit_mod_two_pow, Nat.testBit_or, Nat.testBit_and, Nat.testBit_xor,
    Nat.testBit_shiftLeft, Nat.testBit_shiftLeft, hbyte, Nat.testBit_bool_toNat, hone,
    decide_eq_true hj]
  by_cases h : j = k
  · simp [h]
  · by_cases hle : k ≤ j
    · have hsub : j - k ≠ 0 := by omega
      simp [h, hle, hsub]
    · simp [h, hle]

theorem bit_putBit (m : Mem) {a a' k k' : Nat} (hk' : k' < 8) (b : Bool) :
    (m.putBit a k b).bit a' k' = if a' = a ∧ k' = k then b else m.bit a' k' := by
  unfold bit putBit
  by_cases ha : a' = a
  · rw [ha, update_self, UInt8.toNat_ofNat', testBit_putBit _ hk']
    simp
  · rw [update_of_ne ha, if_neg (fun h => ha h.1)]

end Mem

/-! ### Sizes -/

/-- `g_device_type`; `none` is `SIGNETDEV_DEVICE_NONE`. -/
abbrev DeviceType := Option Device

/-- `signetdev_device_block_size`. -/
def signetdevDeviceBlockSize : DeviceType → Nat
  | some d => d.hidLink.blkSize
  | none => 0

/-- `signetdev_priv_cmd_payload_size`. -/
def signetdevPrivCmdPayloadSize (type : DeviceType) : Nat :=
  signetdevDeviceBlockSize type + CMD_PACKET_HEADER_SIZE + 1

/-! ### Encoding -/

/-- `message_size`, computed in 32 bits. -/
def entryMessageSize (size : Nat) : Nat :=
  (size + (SUB_BLK_DATA_SIZE - 1)) % 2 ^ 32 / SUB_BLK_DATA_SIZE * SUB_BLK_SIZE % 2 ^ 32

/-- The first byte of the sub-block that byte `i` of the data lies in. -/
def subBlk (i : Nat) : Nat := i / SUB_BLK_DATA_SIZE * SUB_BLK_SIZE

/-- One round of the loop of `encode_entry_data`. -/
def encodeByte (data mask : Mem) (msg : Mem) (i : Nat) : Mem :=
  let r := i % SUB_BLK_DATA_SIZE
  Mem.putBit (update msg (subBlk i + r + SUB_BLK_MASK_SIZE) (data i)) (subBlk i + r / 8) (r % 8)
    (mask.bit (i / 8) (i % 8))

/-- `encode_entry_data`: the size of the message and the message, or nothing for
    `SIGNET_ERROR_OVERFLOW`. -/
def encodeEntryData (size : Nat) (data mask msg : Mem) (msgSz : Nat) : Option (Nat × Mem) :=
  if entryMessageSize size ≥ msgSz then none
  else some (entryMessageSize size, (List.range size).foldl (encodeByte data mask) msg)

/-! ### Decoding -/

/-- What the host does with a response and with the caller's buffers: bytes read from the
    response and written to it, a byte of the data, a bit of the mask or a component of the
    progress written, and an unsigned difference. -/
inductive Access where
  | respRead (off len : Nat)
  | respWrite (off len : Nat)
  | dataWrite (i : Nat)
  | maskWrite (i : Nat)
  | progressWrite (i : Nat)
  | difference (a b : Nat)
deriving DecidableEq

/-- The caller's buffers, and what was touched so far. -/
structure Decoded where
  data : Mem
  mask : Mem
  touched : List Access

/-- One round of the loop of `decode_id`. -/
def decodeByte (resp : Mem) (d : Decoded) (i : Nat) : Decoded :=
  let blkField := i % SUB_BLK_DATA_SIZE
  { data := update d.data i (resp (subBlk i + blkField + SUB_BLK_MASK_SIZE))
    mask := d.mask.putBit (i / 8) (i % 8) (resp.bit (subBlk i + blkField / 8) (blkField % 8))
    touched := d.touched ++ [.respRead (subBlk i + blkField / 8) 1,
      .respRead (subBlk i + blkField + SUB_BLK_MASK_SIZE) 1, .dataWrite i, .maskWrite i] }

/-- The loop runs over the bytes of the response. -/
def decodeBytes (resp : Mem) (respLen : Nat) (d : Decoded) : Decoded :=
  (List.range respLen).foldl (decodeByte resp) d

/-- `SUB_BLK_SIZE * blk_count`, computed in 32 bits. -/
def decodeSize (respLen : Nat) : Nat :=
  (respLen + (SUB_BLK_SIZE - 1)) % 2 ^ 32 / SUB_BLK_SIZE * SUB_BLK_SIZE

/-- `decode_id`: true for 0, false for -1. -/
def decodeId (type : DeviceType) (resp : Mem) (respLen : Nat) (d : Decoded) : Bool × Decoded :=
  if decodeSize respLen ≥ signetdevPrivCmdPayloadSize type then (false, d)
  else if decodeSize respLen ≠ respLen then (false, d)
  else (true, decodeBytes resp respLen d)

/-! ### The two loops -/

variable {data mask msg : Mem} {d : Decoded}

theorem subBlk_eq (i : Nat) : subBlk i = 16 * (i / 14) := Nat.mul_comm _ _

/-- The encoder keeps apart what belongs to different bytes. -/
theorem encodeByte_apply (data mask msg : Mem) (i j : Nat) :
    encodeByte data mask msg i (subBlk j + j % 14 + 2) =
      if i = j then data j else msg (subBlk j + j % 14 + 2) := by
  have hi := subBlk_eq i
  have hj := subBlk_eq j
  unfold encodeByte Mem.putBit
  simp only [SUB_BLK_DATA_SIZE, SUB_BLK_MASK_SIZE]
  rw [update_of_ne (by omega)]
  by_cases h : i = j
  · subst h
    rw [if_pos rfl, update_self]
  · rw [if_neg h, update_of_ne (by omega)]

theorem encodeByte_bit (data mask msg : Mem) (i j : Nat) :
    (encodeByte data mask msg i).bit (subBlk j + j % 14 / 8) (j % 14 % 8) =
      if i = j then mask.bit (j / 8) (j % 8) else msg.bit (subBlk j + j % 14 / 8) (j % 14 % 8) := by
  have hi := subBlk_eq i
  have hj := subBlk_eq j
  unfold encodeByte
  simp only [SUB_BLK_DATA_SIZE, SUB_BLK_MASK_SIZE]
  rw [Mem.bit_putBit _ (by omega)]
  by_cases h : i = j
  · subst h
    rw [if_pos ⟨rfl, rfl⟩, if_pos rfl]
  · rw [if_neg (by omega), if_neg h]
    unfold Mem.bit
    rw [update_of_ne (by omega)]

/-- After the loop every byte and every bit of the record is in its place. -/
theorem encode_foldl (data mask msg : Mem) (n : Nat) : ∀ j < n,
    ((List.range n).foldl (encodeByte data mask) msg) (subBlk j + j % 14 + 2) = data j ∧
      ((List.range n).foldl (encodeByte data mask) msg).bit (subBlk j + j % 14 / 8) (j % 14 % 8) =
        mask.bit (j / 8) (j % 8) := by
  induction n with
  | zero =>
    intro j hj
    exact absurd hj (Nat.not_lt_zero j)
  | succ n ih =>
    intro j hj
    rw [List.range_succ, List.foldl_append]
    simp only [List.foldl_cons, List.foldl_nil]
    rw [encodeByte_apply, encodeByte_bit]
    by_cases h : n = j
    · rw [if_pos h, if_pos h]
      exact ⟨rfl, rfl⟩
    · rw [if_neg h, if_neg h]
      exact ih j (by omega)

theorem decodeBytes_succ (resp : Mem) (n : Nat) (d : Decoded) :
    decodeBytes resp (n + 1) d = decodeByte resp (decodeBytes resp n d) n := by
  unfold decodeBytes
  rw [List.range_succ, List.foldl_append]
  rfl

/-- The decoder gives back what lies in the places of the encoder. -/
theorem decodeBytes_given (resp : Mem) (n : Nat) (d : Decoded) : ∀ j < n,
    (decodeBytes resp n d).data j = resp (subBlk j + j % 14 + 2) ∧
      (decodeBytes resp n d).mask.bit (j / 8) (j % 8) =
        resp.bit (subBlk j + j % 14 / 8) (j % 14 % 8) := by
  induction n with
  | zero =>
    intro j hj
    exact absurd hj (Nat.not_lt_zero j)
  | succ n ih =>
    intro j hj
    rw [decodeBytes_succ]
    simp only [decodeByte, SUB_BLK_DATA_SIZE, SUB_BLK_MASK_SIZE]
    rw [Mem.bit_putBit _ (by omega)]
    by_cases h : j = n
    · subst h
      rw [update_self, if_pos ⟨rfl, rfl⟩]
      exact ⟨rfl, rfl⟩
    · rw [update_of_ne h, if_neg (by omega)]
      exact ih j (by omega)

/-- The rounds of the loop, in what they touch. -/
theorem mem_touched_decodeBytes (resp : Mem) (n : Nat) (d : Decoded) (a : Access) :
    a ∈ (decodeBytes resp n d).touched ↔ a ∈ d.touched ∨ ∃ i < n,
      a = .respRead (subBlk i + i % 14 / 8) 1 ∨ a = .respRead (subBlk i + i % 14 + 2) 1 ∨
        a = .dataWrite i ∨ a = .maskWrite i := by
  induction n with
  | zero =>
    refine ⟨.inl, ?_⟩
    rintro (h | ⟨i, hi, -⟩)
    · exact h
    · exact absurd hi (Nat.not_lt_zero i)
  | succ n ih =>
    rw [decodeBytes_succ]
    simp only [decodeByte, List.mem_append, ih, List.mem_cons, List.not_mem_nil, or_false,
      SUB_BLK_DATA_SIZE, SUB_BLK_MASK_SIZE]
    constructor
    · rintro ((h | ⟨i, hi, h⟩) | h)
      · exact .inl h
      · exact .inr ⟨i, by omega, h⟩
      · exact .inr ⟨n, by omega, h⟩
    · rintro (h | ⟨i, hi, h⟩)
      · exact .inl (.inl h)
      · by_cases hin : i = n
        · rw [hin] at h
          exact .inr h
        · exact .inl (.inr ⟨i, by omega, h⟩)

/-! ### The round trip -/

/-- The data and the mask bits of the record are there again. -/
def GivenBack (size : Nat) (data mask : Mem) (d : Decoded) : Prop :=
  ∀ i < size, d.data i = data i ∧ d.mask.bit (i / 8) (i % 8) = mask.bit (i / 8) (i % 8)

/-- Of the caller's buffers only what a message of `n` bytes has data for is touched:
    fourteen bytes and fourteen bits for each sub-block. -/
def WithinMessage (n : Nat) (d : Decoded) : Prop :=
  ∀ i, .dataWrite i ∈ d.touched ∨ .maskWrite i ∈ d.touched →
    i < n / SUB_BLK_SIZE * SUB_BLK_DATA_SIZE

/-- A record of this size comes back as it was, whatever the buffers held before. -/
def EntryRoundTrip (type : DeviceType) (size : Nat) (data mask : Mem) (msgSz : Nat) : Prop :=
  ∀ msg n msg', encodeEntryData size data mask msg msgSz = some (n, msg') → ∀ data₀ mask₀,
    (decodeId type msg' n ⟨data₀, mask₀, []⟩).1 = true ∧
      GivenBack size data mask (decodeId type msg' n ⟨data₀, mask₀, []⟩).2 ∧
      WithinMessage n (decodeId type msg' n ⟨data₀, mask₀, []⟩).2

/-- The message is one that `decode_id` takes from this device, and the 32 bits were enough
    for its size. -/
structure Decodable (type : DeviceType) (size : Nat) : Prop where
  small : size + (SUB_BLK_DATA_SIZE - 1) < 2 ^ 32
  fits : sizeToSubBlkCount size * SUB_BLK_SIZE < signetdevPrivCmdPayloadSize type

theorem signetdevPrivCmdPayloadSize_le (type : DeviceType) :
    7 ≤ signetdevPrivCmdPayloadSize type ∧ signetdevPrivCmdPayloadSize type ≤ 16391 := by
  match type with
  | none => decide
  | some .signet => decide
  | some .signetHc => decide

theorem Decodable.entryMessageSize {type : DeviceType} {size : Nat} (h : Decodable type size) :
    entryMessageSize size = sizeToSubBlkCount size * SUB_BLK_SIZE := by
  have hle := (signetdevPrivCmdPayloadSize_le type).2
  have hfits := h.fits
  unfold SignetBase.entryMessageSize
  rw [Nat.mod_eq_of_lt h.small]
  unfold sizeToSubBlkCount at hfits ⊢
  rw [Nat.mod_eq_of_lt (by omega)]

/-- **Data and mask come back** from every message that `decode_id` takes. -/
theorem Decodable.given_back {type : DeviceType} {size : Nat} (h : Decodable type size)
    (data mask msg : Mem) {msgSz n : Nat} {msg' : Mem}
    (henc : encodeEntryData size data mask msg msgSz = some (n, msg')) (d : Decoded) :
    (decodeId type msg' n d).1 = true ∧ GivenBack size data mask (decodeId type msg' n d).2 := by
  have hle := (signetdevPrivCmdPayloadSize_le type).2
  have hfits := h.fits
  unfold encodeEntryData at henc
  split at henc
  · cases henc
  · rw [h.entryMessageSize] at henc
    obtain ⟨rfl, rfl⟩ := Prod.mk.inj (Option.some.inj henc)
    have hsize : size ≤ sizeToSubBlkCount size * SUB_BLK_SIZE := by
      unfold sizeToSubBlkCount SUB_BLK_DATA_SIZE SUB_BLK_SIZE AES_BLK_SIZE
      omega
    have hdec : decodeSize (sizeToSubBlkCount size * SUB_BLK_SIZE) =
        sizeToSubBlkCount size * SUB_BLK_SIZE := by
      unfold decodeSize
      simp only [SUB_BLK_SIZE, AES_BLK_SIZE] at hfits ⊢
      omega
    unfold decodeId
    rw [hdec, if_neg (by omega), if_neg (by simp)]
    refine ⟨rfl, ?_⟩
    intro i hi
    obtain ⟨hdata, hmask⟩ := decodeBytes_given
      ((List.range size).foldl (encodeByte data mask) msg)
      (sizeToSubBlkCount size * SUB_BLK_SIZE) d i (by omega)
    obtain ⟨hdata', hmask'⟩ := encode_foldl data mask msg size i hi
    exact ⟨hdata.trans hdata', hmask.trans hmask'⟩

/-- An empty message is decoded without a step. -/
theorem decodeId_zero (type : DeviceType) (resp : Mem) (d : Decoded) :
    decodeId type resp 0 d = (true, d) := by
  have hle := (signetdevPrivCmdPayloadSize_le type).1
  unfold decodeId
  rw [show decodeSize 0 = 0 from rfl, if_neg (by omega)]
  rfl

/-- The loop of the decoder leaves the message behind as soon as there is one. -/
theorem not_withinMessage (resp : Mem) {n : Nat} (hn : 0 < n) (hblk : SUB_BLK_SIZE ∣ n)
    (d : Decoded) :
    ¬ WithinMessage n (decodeBytes resp n d) := by
  intro h
  obtain ⟨m, rfl⟩ := hblk
  simp only [SUB_BLK_SIZE, AES_BLK_SIZE] at hn h
  have htouched := (mem_touched_decodeBytes resp (16 * m) d (.dataWrite (14 * m))).mpr
    (.inr ⟨14 * m, by omega, .inr (.inr (.inl rfl))⟩)
  have hlt := h (14 * m) (.inl htouched)
  simp only [SUB_BLK_SIZE, AES_BLK_SIZE, SUB_BLK_DATA_SIZE] at hlt
  omega

theorem dvd_entryMessageSize (size : Nat) : SUB_BLK_SIZE ∣ entryMessageSize size := by
  unfold entryMessageSize
  rw [SUB_BLK_SIZE, AES_BLK_SIZE]
  omega

/-- A record with data does not make the round trip. -/
theorem not_entryRoundTrip (type : DeviceType) {size msgSz : Nat} (data mask : Mem)
    (hmsg : entryMessageSize size < msgSz) (hsize : 0 < size) :
    ¬ EntryRoundTrip type size data mask msgSz := by
  intro h
  have henc : encodeEntryData size data mask (fun _ => 0) msgSz = some (entryMessageSize size, _) :=
    if_neg (by omega)
  obtain ⟨hrc, hback, hwithin⟩ := h _ _ _ henc (fun i => data i + 1) (fun _ => 0)
  rcases Nat.eq_zero_or_pos (entryMessageSize size) with hzero | hpos
  · -- the size of the message was too large for 32 bits: nothing is decoded
    rw [hzero] at hback
    have hdata := (hback 0 hsize).1
    rw [decodeId_zero] at hdata
    simp at hdata
  · unfold decodeId at hrc hwithin
    split at hrc
    · cases hrc
    · split at hrc
      · cases hrc
      · rename_i hfit heq
        rw [if_neg hfit, if_neg heq] at hwithin
        exact not_withinMessage _ hpos (dvd_entryMessageSize size) _ hwithin

theorem entryRoundTrip_zero (type : DeviceType) (data mask : Mem) (msgSz : Nat) :
    EntryRoundTrip type 0 data mask msgSz := by
  intro msg n msg' henc data₀ mask₀
  unfold encodeEntryData at henc
  split at henc
  · cases henc
  · obtain ⟨rfl, rfl⟩ := Prod.mk.inj (Option.some.inj henc)
    rw [show entryMessageSize 0 = 0 from rfl, decodeId_zero]
    refine ⟨rfl, ?_, ?_⟩
    · intro i hi
      exact absurd hi (Nat.not_lt_zero i)
    · rintro i (h | h)
      · cases h
      · cases h

/-- A byte of data is enough: the decoder goes on for two bytes behind the fourteen that the
    message has. -/
theorem one_byte_overruns :
    (encodeEntryData 1 (fun _ => 0) (fun _ => 0) (fun _ => 0) 16387).isSome ∧
      ¬ EntryRoundTrip (some .signet) 1 (fun _ => 0) (fun _ => 0) 16387 := by
  refine ⟨rfl, not_entryRoundTrip _ _ _ ?_ Nat.one_pos⟩
  decide

/-- **Only a record without data makes the round trip.** -/
theorem entry_round_trip (type : DeviceType) {size msgSz : Nat} (data mask : Mem)
    (hmsg : entryMessageSize size < msgSz) :
    EntryRoundTrip type size data mask msgSz ↔ size = 0 := by
  constructor
  · intro h
    by_contra hsize
    exact not_entryRoundTrip type data mask hmsg (Nat.pos_of_ne_zero hsize) h
  · rintro rfl
    exact entryRoundTrip_zero type data mask msgSz

theorem entry_round_trip_empty :
    entryMessageSize 0 < 16387 ∧ EntryRoundTrip (some .signetHc) 0 (fun _ => 1) (fun _ => 1) 16387 :=
  ⟨by decide, (entry_round_trip _ _ _ (by decide)).mpr rfl⟩

end SignetBase
