/-
  SignetBase/Host/MessageResidue.lean
  ===================================
  **What the packets of an update carry besides the record (`signetdev.c`).**

  The message is built on the stack in a buffer that nobody clears, and copied behind the
  header into a buffer that all messages share.  The encoder writes the bytes and the mask
  bits of the record one by one, so that the rest of the last sub-block, the mask bits that
  belong to no byte, the byte of the header that is not written and the rest of the last
  packet are what was there before.  `message_residue_iff` says that this is all, and that the
  buffers are large enough for every size that does not overflow 32 bits.
-/
import SignetBase.Host.Framing

namespace SignetBase

/-! ### The code -/

/-- The calls, and how many messages follow. -/
inductive UpdateCall where
  | signetdevUpdateUid
  | signetdevUpdateUids (remainingUids : Nat)

namespace UpdateCall

def devCmd : UpdateCall → Command
  | signetdevUpdateUid => .updateUid
  | signetdevUpdateUids _ => .updateUids

def messagesRemaining : UpdateCall → Nat
  | signetdevUpdateUid => 0
  | signetdevUpdateUids remainingUids => remainingUids

end UpdateCall

/-- The bytes before the record: `k` at its end. -/
def UPDATE_HEADER_SIZE : Nat := 4

/-- `msg` with the uid and the size of the record. -/
def updateHeader (uid size : Nat) (msg : Mem) : Mem :=
  msg.write 0 (Mem.bytes16 uid ++ Mem.bytes16 size)

/-- The payload that both calls hand on, or nothing for `SIGNET_ERROR_OVERFLOW`. -/
def updatePayload (uid size : Nat) (data mask msg : Mem) : Option Bytes :=
  (encodeEntryData size data mask ((updateHeader uid size msg).window UPDATE_HEADER_SIZE)
    (MAX_CMD_PACKET_PAYLOAD_SIZE - UPDATE_HEADER_SIZE)).map fun encoded =>
      ((updateHeader uid size msg).setWindow UPDATE_HEADER_SIZE encoded.2).read 0
        (encoded.1 + UPDATE_HEADER_SIZE)

/-- The packets that are written to the device, without the number of the report. -/
def sentPackets (d : Device) (c : UpdateCall) (payload : Bytes) (tx : TxMessageState) :
    List Bytes :=
  (messagePackets d (prepareMessageState d c.devCmd c.messagesRemaining payload tx)).map
    (·.read 0 d.hidLink.rawHidPacketSize)

/-- The packets of a call, if it is accepted. -/
def UpdateCall.packets (d : Device) (c : UpdateCall) (uid size : Nat) (data mask msg : Mem)
    (tx : TxMessageState) : Option (List Bytes) :=
  (updatePayload uid size data mask msg).map fun payload => sentPackets d c payload tx

/-! ### What the code touches -/

/-- `MAX_CMD_PACKET_BUF_SIZE`. -/
def MAX_CMD_PACKET_BUF_SIZE : Nat := 16907

/-- `MAX_HID_PACKET_SIZE`. -/
def MAX_HID_PACKET_SIZE : Nat := 512

/-- Bytes of one of the three buffers. -/
inductive BufferAccess where
  | msg (off len : Nat)
  | msgBuf (off len : Nat)
  | packetBuf (off len : Nat)

def BufferAccess.Inside : BufferAccess → Prop
  | msg off len => off + len ≤ MAX_CMD_PACKET_PAYLOAD_SIZE
  | msgBuf off len => off + len ≤ MAX_CMD_PACKET_BUF_SIZE
  | packetBuf off len => off + len ≤ MAX_HID_PACKET_SIZE + 1

/-- One round of the loop of `encode_entry_data`. -/
def encodeAccesses (i : Nat) : List BufferAccess :=
  [.msg (UPDATE_HEADER_SIZE + (subBlk i + i % SUB_BLK_DATA_SIZE + SUB_BLK_MASK_SIZE)) 1,
    .msg (UPDATE_HEADER_SIZE + (subBlk i + i % SUB_BLK_DATA_SIZE / 8)) 1]

/-- One call of `signetdev_priv_advance_message_state`. -/
def advanceAccesses (d : Device) (seq : Nat) : List BufferAccess :=
  [.packetBuf 0 2, .packetBuf (1 + RAW_HID_HEADER_SIZE) d.hidLink.rawHidPayloadSize,
    .msgBuf (d.hidLink.rawHidPayloadSize * seq) d.hidLink.rawHidPayloadSize]

/-- `msg_size` of a record's message. -/
def updateMsgSize (size : Nat) : Nat :=
  entryMessageSize size + UPDATE_HEADER_SIZE + CMD_PACKET_HEADER_SIZE

/-- `msg_packet_count`. -/
def updatePacketCount (d : Device) (size : Nat) : Nat :=
  (updateMsgSize size + d.hidLink.rawHidPayloadSize - 1) / d.hidLink.rawHidPayloadSize

/-- Everything that is touched on the way of an accepted record to its last packet. -/
def updateAccesses (d : Device) (size : Nat) : List BufferAccess :=
  .msg 0 UPDATE_HEADER_SIZE :: (List.range size).flatMap encodeAccesses ++
    [.msg 0 (entryMessageSize size + UPDATE_HEADER_SIZE), .msgBuf 0 5,
      .msgBuf CMD_PACKET_HEADER_SIZE (entryMessageSize size + UPDATE_HEADER_SIZE)] ++
    (List.range (updatePacketCount d size)).flatMap (advanceAccesses d)

/-! ### What is not written -/

/-- The most bytes that a message has sub-blocks for. -/
def MAX_ENTRY_SIZE : Nat := 14336

/-- What was in the buffers before agrees wherever the message does not overwrite it. -/
structure SameResidue (d : Device) (size : Nat) (msg msg' : Mem) (tx tx' : TxMessageState) :
    Prop where
  header : tx.msgBuf 5 = tx'.msgBuf 5
  padding : ∀ i, size ≤ i → i < sizeToSubBlkCount size * SUB_BLK_DATA_SIZE →
    msg (UPDATE_HEADER_SIZE + (subBlk i + i % SUB_BLK_DATA_SIZE + SUB_BLK_MASK_SIZE)) =
      msg' (UPDATE_HEADER_SIZE + (subBlk i + i % SUB_BLK_DATA_SIZE + SUB_BLK_MASK_SIZE))
  maskBits : ∀ b < sizeToSubBlkCount size, ∀ r < 16,
    SUB_BLK_DATA_SIZE ≤ r ∨ size ≤ b * SUB_BLK_DATA_SIZE + r →
    msg.bit (UPDATE_HEADER_SIZE + (b * SUB_BLK_SIZE + r / 8)) (r % 8) =
      msg'.bit (UPDATE_HEADER_SIZE + (b * SUB_BLK_SIZE + r / 8)) (r % 8)
  tail : ∀ a, updateMsgSize size ≤ a →
    a < updatePacketCount d size * d.hidLink.rawHidPayloadSize → tx.msgBuf a = tx'.msgBuf a

variable {data mask mask' msg msg' : Mem}

/-! ### The encoder leaves the rest alone -/

/-- One round writes one bit of the mask of one sub-block. -/
theorem encodeByte_maskBit (data mask msg : Mem) (i b : Nat) {r : Nat} (hr : r < 16) :
    (encodeByte data mask msg i).bit (b * SUB_BLK_SIZE + r / 8) (r % 8) =
      if r < SUB_BLK_DATA_SIZE ∧ i = b * SUB_BLK_DATA_SIZE + r then mask.bit (i / 8) (i % 8)
      else msg.bit (b * SUB_BLK_SIZE + r / 8) (r % 8) := by
  have hi := subBlk_eq i
  by_cases h : r < SUB_BLK_DATA_SIZE ∧ i = b * SUB_BLK_DATA_SIZE + r
  · rw [if_pos h]
    unfold encodeByte
    simp only [SUB_BLK_DATA_SIZE, SUB_BLK_MASK_SIZE, SUB_BLK_SIZE, AES_BLK_SIZE] at h ⊢
    rw [Mem.bit_putBit _ (Nat.mod_lt r (by decide)), if_pos (by omega)]
  · rw [if_neg h]
    unfold encodeByte
    simp only [SUB_BLK_DATA_SIZE, SUB_BLK_MASK_SIZE, SUB_BLK_SIZE, AES_BLK_SIZE] at h ⊢
    rw [Mem.bit_putBit _ (Nat.mod_lt r (by decide)), if_neg (by omega)]
    unfold Mem.bit
    rw [Function.update_of_ne (by omega)]

/-- What the loop leaves of the data. -/
theorem encode_foldl_data (data mask msg : Mem) (n j : Nat) :
    ((List.range n).foldl (encodeByte data mask) msg)
        (subBlk j + j % SUB_BLK_DATA_SIZE + SUB_BLK_MASK_SIZE) =
      if j < n then data j else msg (subBlk j + j % SUB_BLK_DATA_SIZE + SUB_BLK_MASK_SIZE) := by
  induction n with
  | zero => rfl
  | succ n ih =>
    rw [List.range_succ, List.foldl_append]
    refine (encodeByte_apply data mask _ n j).trans ?_
    by_cases h : n = j
    · rw [if_pos h, if_pos (by omega)]
    · rw [if_neg h]
      refine ih.trans ?_
      by_cases hj : j < n
      · rw [if_pos hj, if_pos (by omega)]
      · rw [if_neg hj, if_neg (by omega)]

/-- What the loop leaves of the mask bits. -/
theorem encode_foldl_maskBit (data mask msg : Mem) (n b : Nat) {r : Nat} (hr : r < 16) :
    ((List.range n).foldl (encodeByte data mask) msg).bit (b * SUB_BLK_SIZE + r / 8) (r % 8) =
      if r < SUB_BLK_DATA_SIZE ∧ b * SUB_BLK_DATA_SIZE + r < n then
        mask.bit ((b * SUB_BLK_DATA_SIZE + r) / 8) ((b * SUB_BLK_DATA_SIZE + r) % 8)
      else msg.bit (b * SUB_BLK_SIZE + r / 8) (r % 8) := by
  induction n with
  | zero => rw [if_neg fun h => absurd h.2 (Nat.not_lt_zero _)]; rfl
  | succ n ih =>
    rw [List.range_succ, List.foldl_append]
    refine (encodeByte_maskBit data mask _ n b hr).trans ?_
    by_cases h : r < SUB_BLK_DATA_SIZE ∧ n = b * SUB_BLK_DATA_SIZE + r
    · rw [if_pos h, if_pos ⟨h.1, by omega⟩, h.2]
    · rw [if_neg h]
      refine ih.trans ?_
      by_cases hj : r < SUB_BLK_DATA_SIZE ∧ b * SUB_BLK_DATA_SIZE + r < n
      · rw [if_pos hj, if_pos ⟨hj.1, by omega⟩]
      · rw [if_neg hj, if_neg fun hlt => h ⟨hlt.1, by omega⟩]

/-! ### Two runs of the encoder -/

theorem eq_iff_bits {m m' : Mem} {a : Nat} : m a = m' a ↔ ∀ k < 8, m.bit a k = m'.bit a k := by
  constructor
  · intro h k _
    unfold Mem.bit
    rw [h]
  · intro h
    apply UInt8.toNat_inj.mp
    apply Nat.eq_of_testBit_eq
    intro k
    by_cases hk : k < 8
    · exact h k hk
    · have hle : 2 ^ 8 ≤ 2 ^ k := Nat.pow_le_pow_right (by decide) (by omega)
      rw [Nat.testBit_lt_two_pow (Nat.lt_of_lt_of_le (m a).toNat_lt hle),
        Nat.testBit_lt_two_pow (Nat.lt_of_lt_of_le (m' a).toNat_lt hle)]

/-- The encoded messages agree where the record does not overwrite what was there before. -/
theorem encoded_agree_iff (n : Nat) {size : Nat}
    (hmask : ∀ i < size, mask.bit (i / 8) (i % 8) = mask'.bit (i / 8) (i % 8)) :
    (∀ p < n * SUB_BLK_SIZE, (List.range size).foldl (encodeByte data mask) msg p =
        (List.range size).foldl (encodeByte data mask') msg' p) ↔
      (∀ i, size ≤ i → i < n * SUB_BLK_DATA_SIZE →
        msg (subBlk i + i % SUB_BLK_DATA_SIZE + SUB_BLK_MASK_SIZE) =
          msg' (subBlk i + i % SUB_BLK_DATA_SIZE + SUB_BLK_MASK_SIZE)) ∧
      ∀ b < n, ∀ r < 16, SUB_BLK_DATA_SIZE ≤ r ∨ size ≤ b * SUB_BLK_DATA_SIZE + r →
        msg.bit (b * SUB_BLK_SIZE + r / 8) (r % 8) =
          msg'.bit (b * SUB_BLK_SIZE + r / 8) (r % 8) := by
  constructor
  · intro h
    constructor
    · intro i hi hn
      have hsub := subBlk_eq i
      have hp := h (subBlk i + i % SUB_BLK_DATA_SIZE + SUB_BLK_MASK_SIZE) (by
        simp only [SUB_BLK_DATA_SIZE, SUB_BLK_MASK_SIZE, SUB_BLK_SIZE, AES_BLK_SIZE] at hn ⊢
        omega)
      rwa [encode_foldl_data, encode_foldl_data, if_neg (Nat.not_lt_of_le hi),
        if_neg (Nat.not_lt_of_le hi)] at hp
    · intro b hb r hr hout
      have hp := h (b * SUB_BLK_SIZE + r / 8) (by
        simp only [SUB_BLK_SIZE, AES_BLK_SIZE]
        omega)
      have hbit := eq_iff_bits.mp hp (r % 8) (Nat.mod_lt r (by decide))
      have hnot : ¬ (r < SUB_BLK_DATA_SIZE ∧ b * SUB_BLK_DATA_SIZE + r < size) := by omega
      rwa [encode_foldl_maskBit _ _ _ _ _ hr, encode_foldl_maskBit _ _ _ _ _ hr, if_neg hnot,
        if_neg hnot] at hbit
  · rintro ⟨hpadding, hbits⟩ p hp
    have hdiv := Nat.div_add_mod p SUB_BLK_SIZE
    by_cases ho : SUB_BLK_MASK_SIZE ≤ p % SUB_BLK_SIZE
    · -- a byte of data or padding
      obtain ⟨i, hi⟩ : ∃ i, i = p / SUB_BLK_SIZE * SUB_BLK_DATA_SIZE +
        (p % SUB_BLK_SIZE - SUB_BLK_MASK_SIZE) := ⟨_, rfl⟩
      have hsub := subBlk_eq i
      have hplace : p = subBlk i + i % SUB_BLK_DATA_SIZE + SUB_BLK_MASK_SIZE := by
        simp only [SUB_BLK_DATA_SIZE, SUB_BLK_MASK_SIZE, SUB_BLK_SIZE, AES_BLK_SIZE] at hi ho hdiv ⊢
        omega
      have hn : i < n * SUB_BLK_DATA_SIZE := by
        simp only [SUB_BLK_DATA_SIZE, SUB_BLK_MASK_SIZE, SUB_BLK_SIZE, AES_BLK_SIZE] at hi ho hp ⊢
        omega
      rw [hplace, encode_foldl_data, encode_foldl_data]
      by_cases hlt : i < size
      · rw [if_pos hlt, if_pos hlt]
      · rw [if_neg hlt, if_neg hlt]
        exact hpadding i (Nat.le_of_not_lt hlt) hn
    · refine eq_iff_bits.mpr fun k hk => ?_
      obtain ⟨r, hr⟩ : ∃ r, r = p % SUB_BLK_SIZE * 8 + k := ⟨_, rfl⟩
      have hplace : p = p / SUB_BLK_SIZE * SUB_BLK_SIZE + r / 8 ∧ k = r % 8 ∧ r < 16 ∧
          p / SUB_BLK_SIZE < n := by
        simp only [SUB_BLK_MASK_SIZE, SUB_BLK_SIZE, AES_BLK_SIZE] at hr ho hp hdiv ⊢
        omega
      obtain ⟨hplace, hbit, hlt, hb⟩ := hplace
      generalize p / SUB_BLK_SIZE = b at hplace hb
      rw [hplace, hbit, encode_foldl_maskBit _ _ _ _ _ hlt, encode_foldl_maskBit _ _ _ _ _ hlt]
      by_cases hin : r < SUB_BLK_DATA_SIZE ∧ b * SUB_BLK_DATA_SIZE + r < size
      · rw [if_pos hin, if_pos hin]
        exact hmask _ hin.2
      · rw [if_neg hin, if_neg hin]
        exact hbits b hb r hlt (by omega)

/-! ### Two runs of the packetiser -/

variable {d : Device} {tx tx' : TxMessageState}

theorem payloadSize_pos : 0 < d.hidLink.rawHidPayloadSize :=
  Nat.zero_lt_of_lt d.hidLink.header_lt

/-- The packets are the same when the bytes that they are cut from are. -/
theorem messagePackets_eq_iff (hseq : tx.msgPacketSeq = 0) (hseq' : tx'.msgPacketSeq = 0)
    (hcount : tx.msgPacketCount = tx'.msgPacketCount) :
    (messagePackets d tx).map (·.read 0 d.hidLink.rawHidPacketSize) =
        (messagePackets d tx').map (·.read 0 d.hidLink.rawHidPacketSize) ↔
      ∀ a < tx.msgPacketCount * d.hidLink.rawHidPayloadSize, tx.msgBuf a = tx'.msgBuf a := by
  have hsize := @rawHidPacketSize_eq d
  have hpos := @payloadSize_pos d
  have hget : ∀ {t : TxMessageState} (k : Nat), k < t.msgPacketCount →
      ((messagePackets d t).map (·.read 0 d.hidLink.rawHidPacketSize))[k]? =
        some (((advanced d t (k + 1)).packetBuf.window 1).read 0 d.hidLink.rawHidPacketSize) := by
    intro t k hk
    unfold messagePackets
    rw [List.map_map, List.getElem?_map, List.getElem?_range hk]
    rfl
  constructor
  · intro h a ha
    have hk : a / d.hidLink.rawHidPayloadSize < tx.msgPacketCount :=
      Nat.div_lt_of_lt_mul (by rwa [Nat.mul_comm])
    have hi := Nat.mod_lt a hpos
    have hdiv := Nat.div_add_mod a d.hidLink.rawHidPayloadSize
    have hpacket := congrArg (fun packets => packets[a / d.hidLink.rawHidPayloadSize]?) h
    rw [hget _ hk, hget _ (hcount ▸ hk), Option.some.injEq] at hpacket
    have hbyte := Mem.apply_of_read_eq hpacket (i := RAW_HID_HEADER_SIZE +
      a % d.hidLink.rawHidPayloadSize) (by rw [RAW_HID_HEADER_SIZE]; omega)
    rw [Nat.zero_add] at hbyte
    have hleft := (messagePacket_apply (d := d) tx hseq (a / d.hidLink.rawHidPayloadSize)).2 _ hi
    have hright := (messagePacket_apply (d := d) tx' hseq' (a / d.hidLink.rawHidPayloadSize)).2 _ hi
    rw [hleft, hright, hdiv] at hbyte
    exact hbyte
  · intro h
    unfold messagePackets
    rw [← hcount, List.map_map, List.map_map]
    refine List.map_congr_left fun k hk => ?_
    have hk' := List.mem_range.mp hk
    obtain ⟨hhead, hbody⟩ := messagePacket_apply (d := d) tx hseq k
    obtain ⟨hhead', hbody'⟩ := messagePacket_apply (d := d) tx' hseq' k
    refine Mem.read_congr fun i hi => ?_
    rw [Nat.zero_add]
    rcases Nat.eq_zero_or_pos i with rfl | hipos
    · rw [hhead, hhead', hcount]
    · obtain ⟨j, rfl⟩ := Nat.exists_eq_add_of_le hipos
      have hj : j < d.hidLink.rawHidPayloadSize := by omega
      have hend : d.hidLink.rawHidPayloadSize * k + j <
          tx.msgPacketCount * d.hidLink.rawHidPayloadSize := by
        have hmul := Nat.mul_le_mul_right d.hidLink.rawHidPayloadSize hk'
        rw [Nat.succ_mul, Nat.mul_comm k] at hmul
        omega
      exact (hbody j hj).trans ((h _ hend).trans (hbody' j hj).symm)

theorem write_read_apply (m src : Mem) {off n i : Nat} (hi : i < n) :
    m.write off (src.read 0 n) (off + i) = src i := by
  have hread := Mem.read_write m off (src.read 0 n) n (Mem.length_read src 0 n).symm
  have hbyte := Mem.apply_of_read_eq hread hi
  rwa [Nat.zero_add] at hbyte

/-- The shared buffers agree where neither the header nor the payload is written. -/
theorem prepared_agree_iff (c : UpdateCall) (src src' : Mem) {n len : Nat}
    (hlen : n + CMD_PACKET_HEADER_SIZE ≤ len) :
    (∀ a < len,
      (prepareMessageState d c.devCmd c.messagesRemaining (src.read 0 n) tx).msgBuf a =
        (prepareMessageState d c.devCmd c.messagesRemaining (src'.read 0 n) tx').msgBuf a) ↔
      tx.msgBuf 5 = tx'.msgBuf 5 ∧ (∀ i < n, src i = src' i) ∧
        ∀ a, n + CMD_PACKET_HEADER_SIZE ≤ a → a < len → tx.msgBuf a = tx'.msgBuf a := by
  have hheader : ∀ {bs : Bytes} {m : Mem} (a : Nat), a < CMD_PACKET_HEADER_SIZE →
      m.write CMD_PACKET_HEADER_SIZE bs a = m a :=
    fun a ha => Mem.write_apply_of_notMem _ (.inl ha)
  have hlength : ∀ m : Mem, (m.read 0 n).length = n := fun m => Mem.length_read m 0 n
  have hbehind : ∀ (m src : Mem) (bs : Bytes) (a : Nat), n + CMD_PACKET_HEADER_SIZE ≤ a →
      bs.length = 5 → (m.write 0 bs).write CMD_PACKET_HEADER_SIZE (src.read 0 n) a = m a := by
    intro m src bs a ha hbs
    rw [CMD_PACKET_HEADER_SIZE] at ha
    rw [Mem.write_apply_of_notMem _ (.inr (by rw [hlength, CMD_PACKET_HEADER_SIZE]; omega)),
      Mem.write_apply_of_notMem _ (.inr (by rw [hbs]; omega))]
  have hfive : ∀ (m : Mem) (bs : Bytes), bs.length = 5 → m.write 0 bs 5 = m 5 :=
    fun m bs hbs => Mem.write_apply_of_notMem _ (.inr (by rw [hbs]))
  unfold prepareMessageState
  dsimp only
  rw [hlength, hlength]
  generalize hbs : messageHeader (n + CMD_PACKET_HEADER_SIZE) c.devCmd c.messagesRemaining = bs
  have hbs5 : bs.length = 5 := by
    rw [← hbs]
    rfl
  constructor
  · intro h
    refine ⟨?_, ?_, ?_⟩
    · have hbyte := h 5 (Nat.lt_of_lt_of_le (by rw [CMD_PACKET_HEADER_SIZE]; omega) hlen)
      rwa [hheader 5 (by decide), hheader 5 (by decide), hfive _ _ hbs5, hfive _ _ hbs5] at hbyte
    · intro i hi
      have hbyte := h (CMD_PACKET_HEADER_SIZE + i) (by omega)
      rwa [write_read_apply _ _ hi, write_read_apply _ _ hi] at hbyte
    · intro a ha hlt
      have hbyte := h a hlt
      rwa [hbehind _ _ _ a ha hbs5, hbehind _ _ _ a ha hbs5] at hbyte
  · rintro ⟨hstale, hpayload, htail⟩ a ha
    by_cases hhead : a < CMD_PACKET_HEADER_SIZE
    · rw [hheader a hhead, hheader a hhead]
      by_cases h5 : a < 5
      · rw [Mem.write_apply_of_mem _ (Nat.zero_le a) (by rw [hbs5]; omega),
          Mem.write_apply_of_mem _ (Nat.zero_le a) (by rw [hbs5]; omega)]
      · have ha5 : a = 5 := by
          rw [CMD_PACKET_HEADER_SIZE] at hhead
          omega
        rw [ha5, hfive _ _ hbs5, hfive _ _ hbs5]
        exact hstale
    · obtain ⟨i, rfl⟩ := Nat.exists_eq_add_of_le (Nat.le_of_not_lt hhead)
      by_cases hi : i < n
      · rw [write_read_apply _ _ hi, write_read_apply _ _ hi]
        exact hpayload i hi
      · rw [hbehind _ _ _ _ (by omega) hbs5, hbehind _ _ _ _ (by omega) hbs5]
        exact htail _ (by omega) ha

/-! ### The whole way -/

/-- The payload begins with the uid and the size, and the encoded record follows. -/
theorem payload_agree_iff (uid size : Nat) (enc enc' : Mem) (n : Nat) :
    (∀ i < n + UPDATE_HEADER_SIZE, (updateHeader uid size msg).setWindow UPDATE_HEADER_SIZE enc i =
        (updateHeader uid size msg').setWindow UPDATE_HEADER_SIZE enc' i) ↔
      ∀ p < n, enc p = enc' p := by
  have hcell : ∀ (m w : Mem) (p : Nat),
      m.setWindow UPDATE_HEADER_SIZE w (UPDATE_HEADER_SIZE + p) = w p :=
    fun m w p => congrFun (Mem.window_setWindow m UPDATE_HEADER_SIZE w) p
  constructor
  · intro h p hp
    have hbyte := h (UPDATE_HEADER_SIZE + p) (by omega)
    rwa [hcell, hcell] at hbyte
  · intro h i hi
    by_cases hlt : i < UPDATE_HEADER_SIZE
    · have hlt' : i < 0 + (Mem.bytes16 uid ++ Mem.bytes16 size).length := hlt
      rw [Mem.setWindow_apply_of_lt _ _ hlt, Mem.setWindow_apply_of_lt _ _ hlt]
      unfold updateHeader
      rw [Mem.write_apply_of_mem _ (Nat.zero_le i) hlt',
        Mem.write_apply_of_mem _ (Nat.zero_le i) hlt']
    · obtain ⟨p, rfl⟩ := Nat.exists_eq_add_of_le (Nat.le_of_not_lt hlt)
      rw [hcell, hcell]
      exact h p (by omega)

/-- What an accepted call sends. -/
theorem packets_of_accepted (c : UpdateCall) (uid : Nat) {size : Nat}
    (haccepted : entryMessageSize size < MAX_CMD_PACKET_PAYLOAD_SIZE - UPDATE_HEADER_SIZE) :
    c.packets d uid size data mask msg tx = some (sentPackets d c
      (((updateHeader uid size msg).setWindow UPDATE_HEADER_SIZE
        ((List.range size).foldl (encodeByte data mask) (msg.window UPDATE_HEADER_SIZE))).read 0
          (entryMessageSize size + UPDATE_HEADER_SIZE)) tx) := by
  have hwindow : (updateHeader uid size msg).window UPDATE_HEADER_SIZE =
      msg.window UPDATE_HEADER_SIZE := Mem.window_write_of_le _ (Nat.le_refl UPDATE_HEADER_SIZE)
  unfold UpdateCall.packets updatePayload encodeEntryData
  rw [if_neg (Nat.not_le_of_lt haccepted), hwindow]
  rfl

/-- **When the packets of an accepted call are the same.** -/
theorem packets_eq_iff (c : UpdateCall) (uid : Nat) {size : Nat}
    (haccepted : entryMessageSize size < MAX_CMD_PACKET_PAYLOAD_SIZE - UPDATE_HEADER_SIZE) :
    c.packets d uid size data mask msg tx = c.packets d uid size data mask' msg' tx' ↔
      tx.msgBuf 5 = tx'.msgBuf 5 ∧
        (∀ p < entryMessageSize size,
          (List.range size).foldl (encodeByte data mask) (msg.window UPDATE_HEADER_SIZE) p =
            (List.range size).foldl (encodeByte data mask') (msg'.window UPDATE_HEADER_SIZE) p) ∧
        ∀ a, updateMsgSize size ≤ a →
          a < updatePacketCount d size * d.hidLink.rawHidPayloadSize →
          tx.msgBuf a = tx'.msgBuf a := by
  have hcount : ∀ (m : Mem) (t : TxMessageState),
      (prepareMessageState d c.devCmd c.messagesRemaining
        (m.read 0 (entryMessageSize size + UPDATE_HEADER_SIZE)) t).msgPacketCount =
      updatePacketCount d size := by
    intro m t
    unfold prepareMessageState
    dsimp only
    rw [Mem.length_read]
    rfl
  have hle : updateMsgSize size ≤ updatePacketCount d size * d.hidLink.rawHidPayloadSize :=
    le_packetCount_mul _
  rw [packets_of_accepted c uid haccepted, packets_of_accepted c uid haccepted,
    Option.some.injEq]
  unfold sentPackets
  rw [messagePackets_eq_iff rfl rfl ((hcount _ tx).trans (hcount _ tx').symm), hcount]
  refine (prepared_agree_iff c _ _ hle).trans (and_congr_right fun _ => and_congr_left fun _ => ?_)
  exact payload_agree_iff uid size _ _ _

/-! ### Bounds -/

/-- The message of a record that is not too large for 32 bits. -/
theorem entryMessageSize_of_le {size : Nat} (h : size ≤ MAX_ENTRY_SIZE) :
    entryMessageSize size = sizeToSubBlkCount size * SUB_BLK_SIZE := by
  unfold entryMessageSize sizeToSubBlkCount
  simp only [MAX_ENTRY_SIZE, SUB_BLK_DATA_SIZE, SUB_BLK_SIZE, AES_BLK_SIZE] at h ⊢
  omega

theorem encodeAccesses_inside {i : Nat} (hi : i < MAX_ENTRY_SIZE) :
    ∀ a ∈ encodeAccesses i, a.Inside := by
  have hsub := subBlk_eq i
  rw [MAX_ENTRY_SIZE] at hi
  intro a ha
  unfold encodeAccesses at ha
  rw [List.mem_cons, List.mem_singleton] at ha
  rcases ha with rfl | rfl
  · change UPDATE_HEADER_SIZE + (subBlk i + i % SUB_BLK_DATA_SIZE + SUB_BLK_MASK_SIZE) + 1 ≤
      MAX_CMD_PACKET_PAYLOAD_SIZE
    simp only [UPDATE_HEADER_SIZE, SUB_BLK_DATA_SIZE, SUB_BLK_MASK_SIZE,
      MAX_CMD_PACKET_PAYLOAD_SIZE]
    omega
  · change UPDATE_HEADER_SIZE + (subBlk i + i % SUB_BLK_DATA_SIZE / 8) + 1 ≤
      MAX_CMD_PACKET_PAYLOAD_SIZE
    simp only [UPDATE_HEADER_SIZE, SUB_BLK_DATA_SIZE, MAX_CMD_PACKET_PAYLOAD_SIZE]
    omega

theorem advanceAccesses_inside (d : Device) {size k : Nat} (hn : entryMessageSize size ≤ 16384)
    (hk : k < updatePacketCount d size) : ∀ a ∈ advanceAccesses d k, a.Inside := by
  intro a ha
  unfold updatePacketCount updateMsgSize at hk
  unfold advanceAccesses at ha
  rw [List.mem_cons, List.mem_cons, List.mem_singleton] at ha
  rcases ha with rfl | rfl | rfl
  · exact (by decide : 0 + 2 ≤ MAX_HID_PACKET_SIZE + 1)
  · cases d
    · exact (by decide : 2 + 63 ≤ MAX_HID_PACKET_SIZE + 1)
    · exact (by decide : 2 + 511 ≤ MAX_HID_PACKET_SIZE + 1)
  · rw [UPDATE_HEADER_SIZE, CMD_PACKET_HEADER_SIZE] at hk
    cases d
    · change k < (entryMessageSize size + 4 + 6 + 63 - 1) / 63 at hk
      change 63 * k + 63 ≤ 16907
      omega
    · change k < (entryMessageSize size + 4 + 6 + 511 - 1) / 511 at hk
      change 511 * k + 511 ≤ 16907
      omega

/-- **The buffers are large enough just when the size of the message has not overflowed.** -/
theorem inside_iff (d : Device) {size : Nat} (h32 : size < 2 ^ 32)
    (haccepted : entryMessageSize size < MAX_CMD_PACKET_PAYLOAD_SIZE - UPDATE_HEADER_SIZE) :
    (∀ a ∈ updateAccesses d size, a.Inside) ↔ size ≤ MAX_ENTRY_SIZE := by
  constructor
  · intro h
    by_contra hlarge
    have hwrapped : 14337 < size := by
      unfold entryMessageSize at haccepted
      simp only [MAX_ENTRY_SIZE, MAX_CMD_PACKET_PAYLOAD_SIZE, UPDATE_HEADER_SIZE,
        SUB_BLK_DATA_SIZE, SUB_BLK_SIZE, AES_BLK_SIZE] at hlarge haccepted
      omega
    have hmem : BufferAccess.msg (UPDATE_HEADER_SIZE + (subBlk 14337 + 14337 % SUB_BLK_DATA_SIZE +
        SUB_BLK_MASK_SIZE)) 1 ∈ updateAccesses d size := by
      unfold updateAccesses
      refine List.mem_append_left _ (List.mem_append_left _ (List.mem_cons_of_mem _ ?_))
      exact List.mem_flatMap.mpr ⟨14337, List.mem_range.mpr hwrapped, List.mem_cons_self⟩
    have hin : UPDATE_HEADER_SIZE + (subBlk 14337 + 14337 % SUB_BLK_DATA_SIZE +
        SUB_BLK_MASK_SIZE) + 1 ≤ MAX_CMD_PACKET_PAYLOAD_SIZE := h _ hmem
    exact absurd hin (by decide)
  · intro hsize a ha
    have hdvd := dvd_entryMessageSize size
    have hn : entryMessageSize size ≤ 16384 := by
      simp only [MAX_CMD_PACKET_PAYLOAD_SIZE, UPDATE_HEADER_SIZE, SUB_BLK_SIZE,
        AES_BLK_SIZE] at haccepted hdvd
      omega
    unfold updateAccesses at ha
    rcases List.mem_append.mp ha with ha | ha
    · rcases List.mem_append.mp ha with ha | ha
      · rcases List.mem_cons.mp ha with rfl | ha
        · exact (by decide : 0 + UPDATE_HEADER_SIZE ≤ MAX_CMD_PACKET_PAYLOAD_SIZE)
        · obtain ⟨i, hi, ha⟩ := List.mem_flatMap.mp ha
          exact encodeAccesses_inside (Nat.lt_of_lt_of_le (List.mem_range.mp hi) hsize) a ha
      · rw [List.mem_cons, List.mem_cons, List.mem_singleton] at ha
        rcases ha with rfl | rfl | rfl
        · change 0 + (entryMessageSize size + 4) ≤ 16391
          omega
        · exact (by decide : 0 + 5 ≤ MAX_CMD_PACKET_BUF_SIZE)
        · change 6 + (entryMessageSize size + 4) ≤ 16907
          omega
    · obtain ⟨k, hk, ha⟩ := List.mem_flatMap.mp ha
      exact advanceAccesses_inside d hn (List.mem_range.mp hk) a ha

/-! ### The result -/

/-- **The packets depend on nothing but the record exactly if what was in the buffers agrees
    wherever the record leaves it; and of every record there are packets that differ.** -/
theorem message_residue_iff (d : Device) (c : UpdateCall) (uid : Nat) {size : Nat}
    (data mask mask' msg msg' : Mem) (tx tx' : TxMessageState) (h32 : size < 2 ^ 32)
    (haccepted : entryMessageSize size < MAX_CMD_PACKET_PAYLOAD_SIZE - UPDATE_HEADER_SIZE)
    (hmask : ∀ i < size, mask.bit (i / 8) (i % 8) = mask'.bit (i / 8) (i % 8)) :
    (c.packets d uid size data mask msg tx = c.packets d uid size data mask' msg' tx' ∧
        (∀ a ∈ updateAccesses d size, a.Inside) ↔
      size ≤ MAX_ENTRY_SIZE ∧ SameResidue d size msg msg' tx tx') ∧
      ∃ tx tx' : TxMessageState,
        c.packets d uid size data mask msg tx ≠ c.packets d uid size data mask msg tx' := by
  constructor
  · rw [inside_iff d h32 haccepted, packets_eq_iff c uid haccepted, and_comm]
    refine and_congr_right fun hsize => ?_
    rw [entryMessageSize_of_le hsize, encoded_agree_iff _ hmask]
    constructor
    · rintro ⟨hheader, ⟨hpadding, hbits⟩, htail⟩
      exact ⟨hheader, hpadding, hbits, htail⟩
    · rintro ⟨hheader, hpadding, hbits, htail⟩
      exact ⟨hheader, ⟨hpadding, hbits⟩, htail⟩
  · refine ⟨⟨fun _ => 0, fun _ => 0, 0, 0, 0, none⟩, ⟨fun _ => 1, fun _ => 0, 0, 0, 0, none⟩, ?_⟩
    rw [Ne, packets_eq_iff c uid haccepted]
    rintro ⟨hheader, -⟩
    exact absurd hheader (by decide)

/-- A stack that holds other bytes where a record of 15 bytes is encoded, and a transmit state
    with other bytes where its message of 42 bytes is written. -/
def otherStack : Mem := fun a =>
  if a ≤ 3 ∨ 6 ≤ a ∧ a ≤ 19 ∨ a = 22 then 9 else if a = 4 then 255 else if a = 20 then 1 else 0

def otherTx : TxMessageState := ⟨fun a => if a ≠ 5 ∧ a < 42 then 8 else 0, fun _ => 7, 3, 2, 1, none⟩

theorem sameResidue_other : SameResidue .signetHc 15 (fun _ => 0) otherStack
    ⟨fun _ => 0, fun _ => 0, 0, 0, 0, none⟩ otherTx where
  header := rfl
  padding i hi hlt := (by decide : ∀ i < 28, 15 ≤ i →
    0 = otherStack (4 + (subBlk i + i % SUB_BLK_DATA_SIZE + SUB_BLK_MASK_SIZE))) i hlt hi
  maskBits := by decide
  tail a ha hlt := (if_neg fun h => absurd h.2 (Nat.not_lt_of_le ha)).symm

theorem message_residue_other :
    UpdateCall.signetdevUpdateUid.packets .signetHc 1 15 (fun _ => 5) (fun _ => 1) (fun _ => 0)
        ⟨fun _ => 0, fun _ => 0, 0, 0, 0, none⟩ =
      UpdateCall.signetdevUpdateUid.packets .signetHc 1 15 (fun _ => 5)
        (fun a => if a = 1 then 129 else 1) otherStack otherTx :=
  ((message_residue_iff .signetHc .signetdevUpdateUid 1 _ _ _ _ _ _ _ (by decide) (by decide)
    (by decide)).1.mpr ⟨by decide, sameResidue_other⟩).1

/-- A record of one byte is sent with thirteen bytes and fifteen mask bits of the stack, and with
    a size near 2^32 the encoder writes behind the message. -/
theorem stack_left_in_packet :
    UpdateCall.signetdevUpdateUid.packets .signetHc 1 1 (fun _ => 5) (fun _ => 1) (fun _ => 0)
        ⟨fun _ => 0, fun _ => 0, 0, 0, 0, none⟩ ≠
      UpdateCall.signetdevUpdateUid.packets .signetHc 1 1 (fun _ => 5) (fun _ => 1) (fun _ => 112)
        ⟨fun _ => 0, fun _ => 0, 0, 0, 0, none⟩ ∧
      entryMessageSize 4294967295 < MAX_CMD_PACKET_PAYLOAD_SIZE - UPDATE_HEADER_SIZE ∧
      ¬ ∀ a ∈ updateAccesses .signetHc 4294967295, a.Inside := by
  refine ⟨?_, by decide, ?_⟩
  · rw [Ne, packets_eq_iff _ _ (by decide)]
    rintro ⟨-, hencoded, -⟩
    exact absurd (hencoded 15 (by decide)) (by decide)
  · rw [inside_iff .signetHc (by decide) (by decide)]
    decide

end SignetBase
