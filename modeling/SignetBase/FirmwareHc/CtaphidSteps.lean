/-
  SignetBase/FirmwareHc/CtaphidSteps.lean
  =======================================
  **What a packet and an execution do in the CTAPHID layer.**

  `ctaphid_handle_packet` has ten ways out and `process_ctaphid_packet` as many commands; here
  each is said once (`Received`, `Executed`), and every invariant is read off that.  The table
  of channels is counted: how many entries are busy, and whether the first one of a channel is.
-/
import SignetBase.FirmwareHc.CtaphidReceive

namespace SignetBase.FirmwareHc

/-! ### The table of channels -/

/-- The busy ones of the entries that the loops look at. -/
def busyCount : Nat → List Channel → Nat
  | 0, _ => 0
  | _, [] => 0
  | n + 1, c :: cs => c.busy.toNat + busyCount n cs

/-- Whether the entry that a channel is looked up in is busy. -/
def heldIn (cid : Nat) : Nat → List Channel → Nat
  | 0, _ => 0
  | _, [] => 0
  | n + 1, c :: cs => if c.cid = cid then c.busy.toNat else heldIn cid n cs

section ChangeFirst

variable {found : Channel → Bool} {change : Channel → Channel} {n : Nat} {cs cs' : List Channel}
  {cid d : Nat}

theorem changeFirst_cons (c : Channel) : changeFirst found change (n + 1) (c :: cs) =
    if found c then some (change c :: cs) else (changeFirst found change n cs).map (c :: ·) := rfl

/-- The loop finds nothing just when nothing is there. -/
theorem changeFirst_eq_none :
    changeFirst found change n cs = none ↔ ∀ c ∈ cs.take n, found c = false := by
  induction n generalizing cs with
  | zero => simp [changeFirst]
  | succ n ih =>
    cases cs with
    | nil => simp [changeFirst]
    | cons c cs =>
      rw [changeFirst_cons, List.take_succ_cons, List.forall_mem_cons]
      cases hc : found c with
      | true => simp
      | false => simp [ih]

theorem length_changeFirst (h : changeFirst found change n cs = some cs') :
    cs'.length = cs.length := by
  induction n generalizing cs cs' with
  | zero => cases h
  | succ n ih =>
    cases cs with
    | nil => cases h
    | cons c cs =>
      rw [changeFirst_cons] at h
      split at h
      · cases h
        rfl
      · obtain ⟨cs'', hcs'', rfl⟩ := Option.map_eq_some_iff.mp h
        rw [List.length_cons, List.length_cons, ih hcs'']

/-- A change that keeps the channels keeps which ones are in the table. -/
theorem exists_changeFirst (h : changeFirst found change n cs = some cs')
    (hkeep : ∀ c, (change c).cid = c.cid) :
    (∃ c ∈ cs'.take n, c.cid = cid) ↔ ∃ c ∈ cs.take n, c.cid = cid := by
  induction n generalizing cs cs' with
  | zero => cases h
  | succ n ih =>
    cases cs with
    | nil => cases h
    | cons c cs =>
      rw [changeFirst_cons] at h
      split at h
      · cases h
        simp [hkeep]
      · obtain ⟨cs'', hcs'', rfl⟩ := Option.map_eq_some_iff.mp h
        simp [ih hcs'']

/-- What `cid_refresh` and `cid_del` do to the entry of the channel, and to no other. -/
theorem busyCount_setBusy {b : Bool}
    (h : changeFirst (fun c => c.cid = cid) (fun c => { c with busy := b }) n cs = some cs') :
    busyCount n cs' + heldIn cid n cs = busyCount n cs + b.toNat ∧
      heldIn cid n cs' = b.toNat ∧ ∀ d, d ≠ cid → heldIn d n cs' = heldIn d n cs := by
  induction n generalizing cs cs' with
  | zero => cases h
  | succ n ih =>
    cases cs with
    | nil => cases h
    | cons c cs =>
      rw [changeFirst_cons] at h
      split at h
      · rename_i hc
        have hcid : c.cid = cid := of_decide_eq_true hc
        cases h
        refine ⟨?_, ?_, ?_⟩
        · simp only [busyCount, heldIn, hcid, if_true]
          omega
        · simp only [heldIn, hcid, if_true]
        · intro d hd
          simp only [heldIn]
          rw [if_neg (by rw [hcid]; exact hd.symm), if_neg (by rw [hcid]; exact hd.symm)]
      · rename_i hc
        have hcid : c.cid ≠ cid := fun heq => hc (decide_eq_true heq)
        obtain ⟨cs'', hcs'', rfl⟩ := Option.map_eq_some_iff.mp h
        obtain ⟨hcount, hheld, hother⟩ := ih hcs''
        refine ⟨?_, ?_, ?_⟩
        · simp only [busyCount, heldIn, if_neg hcid]
          omega
        · simp only [heldIn, if_neg hcid, hheld]
        · intro d hd
          simp only [heldIn, hother d hd]

/-- `add_cid` takes an entry that was free; whatever entry the channel is then looked up in is
    busy. -/
theorem busyCount_add
    (h : changeFirst (fun c => !c.busy) (fun _ => ⟨cid, true⟩) n cs = some cs') :
    busyCount n cs' = busyCount n cs + 1 ∧ heldIn cid n cs' = 1 ∧
      ∃ c ∈ cs'.take n, c.cid = cid := by
  induction n generalizing cs cs' with
  | zero => cases h
  | succ n ih =>
    cases cs with
    | nil => cases h
    | cons c cs =>
      rw [changeFirst_cons] at h
      cases hc : c.busy with
      | false =>
        rw [hc, Bool.not_false, if_pos rfl] at h
        cases h
        refine ⟨?_, ?_, ⟨_, List.mem_cons_self, rfl⟩⟩
        · simp only [busyCount, hc, Bool.toNat_true, Bool.toNat_false]
          omega
        · simp only [heldIn, if_true, Bool.toNat_true]
      | true =>
        rw [hc, Bool.not_true, if_neg Bool.false_ne_true] at h
        obtain ⟨cs'', hcs'', rfl⟩ := Option.map_eq_some_iff.mp h
        obtain ⟨hcount, hheld, c', hc', hcid'⟩ := ih hcs''
        refine ⟨?_, ?_, ⟨c', List.mem_cons_of_mem _ hc', hcid'⟩⟩
        · simp only [busyCount, hcount]
          omega
        · simp only [heldIn, hheld]
          split
          · rw [hc]
            rfl
          · rfl

theorem heldIn_le (cid n : Nat) (cs : List Channel) : heldIn cid n cs ≤ 1 := by
  induction n generalizing cs with
  | zero => exact Nat.zero_le _
  | succ n ih =>
    cases cs with
    | nil => exact Nat.zero_le _
    | cons c cs =>
      simp only [heldIn]
      split
      · exact Bool.toNat_le _
      · exact ih cs

theorem heldIn_eq_zero (h : ∀ c ∈ cs.take n, c.cid ≠ cid) : heldIn cid n cs = 0 := by
  induction n generalizing cs with
  | zero => rfl
  | succ n ih =>
    cases cs with
    | nil => rfl
    | cons c cs =>
      rw [List.take_succ_cons, List.forall_mem_cons] at h
      simp only [heldIn, if_neg h.1, ih h.2]

/-- There is room as long as fewer entries are busy than the loop looks at. -/
theorem exists_free (hlen : n ≤ cs.length) (h : busyCount n cs < n) :
    ∃ c ∈ cs.take n, c.busy = false := by
  induction n generalizing cs with
  | zero => exact absurd h (Nat.lt_irrefl 0)
  | succ n ih =>
    cases cs with
    | nil => exact absurd hlen (by simp)
    | cons c cs =>
      rw [List.length_cons] at hlen
      simp only [busyCount] at h
      cases hc : c.busy with
      | false => exact ⟨c, List.mem_cons_self, hc⟩
      | true =>
        rw [hc, Bool.toNat_true] at h
        obtain ⟨c', hc', hfree⟩ := ih (Nat.le_of_succ_le_succ hlen) (by omega)
        exact ⟨c', List.mem_cons_of_mem _ hc', hfree⟩

end ChangeFirst

section Table

variable {cid d : Nat} {cids cids' : List Channel}

/-- The busy entries of the table. -/
def busyChannels (cids : List Channel) : Nat := busyCount (CID_MAX - 1) cids

/-- Whether the entry that a channel is looked up in is busy. -/
def held (cid : Nat) (cids : List Channel) : Nat := heldIn cid (CID_MAX - 1) cids

/-- How the table is after a change of the entry of `cid` alone. -/
structure EntrySet (cid : Nat) (b : Bool) (cids cids' : List Channel) : Prop where
  length : cids'.length = cids.length
  exists_iff : ∀ d, CidExists d cids' ↔ CidExists d cids
  count : busyChannels cids' + held cid cids = busyChannels cids + b.toNat
  own : held cid cids' = b.toNat
  others : ∀ d, d ≠ cid → held d cids' = held d cids

theorem cidExists_iff_refresh : CidExists cid cids ↔ (cidRefresh cid cids).isSome := by
  rw [Option.isSome_iff_ne_none, ne_eq, cidRefresh, changeFirst_eq_none]
  simp [CidExists]

theorem entrySet_refresh (h : cidRefresh cid cids = some cids') :
    EntrySet cid true cids cids' := by
  obtain ⟨hcount, hown, hothers⟩ := busyCount_setBusy h
  exact ⟨length_changeFirst h, fun _ => exists_changeFirst h fun _ => rfl, hcount, hown,
    hothers⟩

/-- Deleting a channel that is not there changes nothing. -/
theorem entrySet_del (cid : Nat) (cids : List Channel) :
    EntrySet cid false cids ((cidDel cid cids).getD cids) := by
  cases h : cidDel cid cids with
  | none =>
    have hnone := changeFirst_eq_none.mp h
    have hheld : held cid cids = 0 :=
      heldIn_eq_zero fun c hc => of_decide_eq_false (hnone c hc)
    exact ⟨rfl, fun _ => Iff.rfl, by rw [hheld]; rfl, hheld, fun _ _ => rfl⟩
  | some cids' =>
    obtain ⟨hcount, hown, hothers⟩ := busyCount_setBusy h
    exact ⟨length_changeFirst h, fun _ => exists_changeFirst h fun _ => rfl, hcount, hown,
      hothers⟩

/-- How the table is after an entry was given to `cid`. -/
structure EntryAdded (cid : Nat) (cids cids' : List Channel) : Prop where
  length : cids'.length = cids.length
  count : busyChannels cids' = busyChannels cids + 1
  own : held cid cids' = 1
  known : CidExists cid cids'

theorem entryAdded (h : addCid cid cids = some cids') : EntryAdded cid cids cids' := by
  obtain ⟨hcount, hown, hknown⟩ := busyCount_add h
  exact ⟨length_changeFirst h, hcount, hown, hknown⟩

theorem addCid_isSome (hlen : CID_MAX ≤ cids.length) (h : busyChannels cids < CID_MAX - 1) :
    ∃ cids', addCid cid cids = some cids' := by
  obtain ⟨c, hc, hfree⟩ := exists_free (Nat.le_trans (Nat.sub_le _ _) hlen) h
  refine Option.ne_none_iff_exists'.mp fun hnone => ?_
  have hbusy := changeFirst_eq_none.mp hnone c hc
  rw [hfree] at hbusy
  cases hbusy

theorem held_le (cid : Nat) (cids : List Channel) : held cid cids ≤ 1 := heldIn_le _ _ _

end Table

/-! ### What a packet does -/

namespace Ctaphid

variable {s s' : Ctaphid} {p : Packet}

/-- A packet that begins a message. -/
def Starts (p : Packet) : Prop := ¬ p.IsInitPkt ∧ ¬ p.IsContPkt

/-- The buffer after the first packet of a message. -/
def started (s : Ctaphid) (p : Packet) : Ctaphid :=
  let pktLen := min p.ctaphidPacketLen CTAPHID_INIT_PAYLOAD_SIZE
  { s with
    bufferBcnt := p.ctaphidPacketLen
    bufferCmd := p.cmd
    bufferCid := p.cid
    bufferOffset := pktLen
    packetSeq := -1
    ctapBuffer := s.ctapBuffer.copy 0 p.mem 7 pktLen }

/-- The buffer after a further packet of a message. -/
def continued (s : Ctaphid) (p : Packet) : Ctaphid :=
  let n := min (s.bufferBcnt - s.bufferOffset) CTAPHID_CONT_PAYLOAD_SIZE
  { s with
    packetSeq := s.packetSeq + 1
    ctapBuffer := s.ctapBuffer.copy s.bufferOffset p.mem 5 n
    bufferOffset := s.bufferOffset + n }

/-- A message that is complete is a request to execute. -/
def taken (s : Ctaphid) : Ctaphid :=
  if s.bufferStatus = .BUFFERING then s else { s with randNeeded := 0, processingPacket := true }

/-- CTAPHID_INIT without room for the channel: nothing is buffered any more. -/
def initRefused (s : Ctaphid) (p : Packet) : Ctaphid :=
  if p.IsBroadcast then { s.bufferReset with newCid := getNewCid 3 s.newCid } else s.bufferReset

/-- The channel that CTAPHID_INIT gives or confirms. -/
def greetedCid (s : Ctaphid) (p : Packet) : Nat :=
  if p.IsBroadcast then getNewCid 3 s.newCid else p.cid

/-- The ways a packet can go. -/
inductive Received (s : Ctaphid) (p : Packet) : Ctaphid → Prop
  | ignored (hcont : p.IsContPkt)
      (hforeign : s.bufferStatus = .EMPTY ∨ p.cid ≠ s.bufferCid ∨ ¬ CidExists p.cid s.cids) :
      Received s p s
  | rejected {e : UInt8}
      (hbad : (p.IsInitPkt → p.ctaphidPacketLen ≠ 8 ∨ p.cid = 0) ∧ (¬ p.IsInitPkt → p.IsBroadcast)) :
      Received s p ((s.del p.cid).ctaphidSendError p.cid e)
  | noRoom (hinit : p.IsInitPkt) (hlen : p.ctaphidPacketLen = 8) (hcid : p.cid ≠ 0)
      (hfull : addCid (s.greetedCid p) s.cids = none) :
      Received s p (((s.initRefused p).del p.cid).ctaphidSendError p.cid CTAP1_ERR_CHANNEL_BUSY)
  | greeted {cids : List Channel} (hinit : p.IsInitPkt) (hlen : p.ctaphidPacketLen = 8)
      (hcid : p.cid ≠ 0)
      (hroom : addCid (s.greetedCid p) s.cids = some cids ∨
        cidRefresh (s.greetedCid p) s.cids = some cids) :
      Received s p ((({ s.initRefused p with cids }).send
        (initResponse p.cid (s.greetedCid p) (p.mem.read 7 8))).del (s.greetedCid p))
  | refused {e : UInt8} (hstarts : Starts p)
      (hwhy : s.bufferStatus = .BUFFERING ∨ CTAPHID_BUFFER_SIZE < p.ctaphidPacketLen ∨
        ¬ CidExists p.cid (s.openChannel p).cids) :
      Received s p (((s.openChannel p).del p.cid).ctaphidSendError p.cid e)
  | broken (hinit : ¬ p.IsInitPkt) (hown : p.cid = s.bufferCid)
      (hnonempty : s.bufferStatus ≠ .EMPTY)
      (hwhy : s.bufferStatus = .BUFFERING ∧ ¬ p.IsContPkt ∨
        p.IsContPkt ∧ s.packetSeq + 1 ≠ p.cmd) :
      Received s p
        ((s.del p.cid).bufferReset.ctaphidSendError p.cid CTAP1_ERR_INVALID_SEQ)
  | started {cids : List Channel} (hstarts : Starts p) (hcid : ¬ p.IsBroadcast)
      (hidle : s.bufferStatus ≠ .BUFFERING) (hlen : p.ctaphidPacketLen ≤ CTAPHID_BUFFER_SIZE)
      (hknown : cidRefresh p.cid (s.openChannel p).cids = some cids) :
      Received s p { (s.openChannel p).started p with cids }.taken
  | continued {cids : List Channel} (hcont : p.IsContPkt) (hown : p.cid = s.bufferCid)
      (hnonempty : s.bufferStatus ≠ .EMPTY) (hseq : s.packetSeq + 1 = p.cmd)
      (hknown : cidRefresh p.cid s.cids = some cids) :
      Received s p { s.continued p with cids }.taken

theorem bufferPacket_start (h : ¬ p.IsContPkt) : s.bufferPacket p = (true, s.started p) := by
  unfold bufferPacket started
  rw [if_pos h]
  by_cases hlt : p.ctaphidPacketLen < CTAPHID_INIT_PAYLOAD_SIZE
  · simp only [if_pos hlt, Nat.min_eq_left (Nat.le_of_lt hlt)]
  · simp only [if_neg hlt, Nat.min_eq_right (Nat.le_of_not_lt hlt)]

theorem bufferPacket_cont (h : p.IsContPkt) : s.bufferPacket p =
    if s.packetSeq + 1 = p.cmd then (true, s.continued p)
    else (false, { s with packetSeq := s.packetSeq + 1 }) := by
  unfold bufferPacket continued
  rw [if_neg (not_not.mpr h)]
  by_cases hseq : s.packetSeq + 1 = p.cmd
  · rw [if_pos hseq]
    simp only [ne_eq, hseq, not_true_eq_false, if_false]
    by_cases hle : s.bufferBcnt - s.bufferOffset ≤ CTAPHID_CONT_PAYLOAD_SIZE
    · simp only [if_pos hle, Nat.min_eq_left hle]
    · simp only [if_neg hle, Nat.min_eq_right (Nat.le_of_not_le hle)]
  · rw [if_neg hseq]
    exact if_pos hseq

/-- What `ctaphid_handle_packet` does with the result of `ctaphid_buffer_packet` before it asks
    for the device. -/
def concluded (p : Packet) (r : BufferState × UInt8 × Ctaphid) : Ctaphid :=
  match r with
  | (.HID_IGNORE, _, s) => s
  | (.HID_ERROR, cmd, s) =>
    let s := s.del p.cid
    let s := if cmd = CTAP1_ERR_INVALID_SEQ then s.bufferReset else s
    s.ctaphidSendError p.cid cmd
  | (.BUFFERING, _, s) => s
  | (_, _, s) => { s with randNeeded := 0, processingPacket := true }

theorem ctaphidHandlePacket_none : s.ctaphidHandlePacket p none =
    concluded p (s.ctaphidBufferPacket p) := by
  unfold ctaphidHandlePacket concluded
  rcases s.ctaphidBufferPacket p with ⟨status, e, s'⟩
  cases status with
  | EMPTY => rfl
  | BUFFERING => rfl
  | BUFFERED => rfl
  | HID_ERROR => rfl
  | HID_IGNORE => rfl

/-- A message that is put together is a request when it is complete. -/
theorem concluded_status (e : UInt8) : concluded p (s.bufferStatus, e, s) = s.taken := by
  have hstatus : s.bufferStatus = .EMPTY ∨ s.bufferStatus = .BUFFERING ∨
      s.bufferStatus = .BUFFERED := by
    unfold bufferStatus
    split
    · exact .inl rfl
    · split
      · exact .inr (.inr rfl)
      · exact .inr (.inl rfl)
  unfold taken concluded
  rcases hstatus with h | h | h
  · simp only [h, reduceCtorEq, if_false]
  · simp only [h, if_true]
  · simp only [h, reduceCtorEq, if_false]

theorem concluded_error {e : UInt8} (he : e ≠ CTAP1_ERR_INVALID_SEQ) :
    concluded p (.HID_ERROR, e, s) = (s.del p.cid).ctaphidSendError p.cid e := by
  unfold concluded
  simp only [if_neg he]

theorem initRefused_cids : (s.initRefused p).cids = s.cids := by
  unfold initRefused
  split
  · rfl
  · rfl

/-- Where CTAPHID_INIT looks for an entry. -/
def greetedEntry (s : Ctaphid) (p : Packet) : Option (List Channel) :=
  if ¬ p.IsBroadcast ∧ CidExists (s.greetedCid p) s.cids then cidRefresh (s.greetedCid p) s.cids
  else addCid (s.greetedCid p) s.cids

theorem greetedEntry_eq : s.greetedEntry p =
    if ¬ p.IsBroadcast ∧ CidExists (s.greetedCid p) (s.initRefused p).cids then
      cidRefresh (s.greetedCid p) (s.initRefused p).cids
    else addCid (s.greetedCid p) (s.initRefused p).cids := by
  rw [initRefused_cids]
  rfl

/-- CTAPHID_INIT of eight bytes on a channel other than 0, without and with room. -/
theorem bufferInit_none (hlen : p.ctaphidPacketLen = 8) (hcid : p.cid ≠ 0)
    (hentry : s.greetedEntry p = none) :
    s.bufferInit p = (.HID_ERROR, CTAP1_ERR_CHANNEL_BUSY, s.initRefused p) := by
  rw [greetedEntry_eq] at hentry
  unfold bufferInit
  rw [if_neg (not_not.mpr hlen), if_neg hcid]
  have hnew : s.bufferReset.newCid = s.newCid := rfl
  unfold initRefused greetedCid at *
  by_cases hb : p.IsBroadcast
  · simp only [if_pos hb, hnew] at hentry ⊢
    simp only [hentry]
  · simp only [if_neg hb] at hentry ⊢
    simp only [hentry]

theorem bufferInit_some {cids : List Channel} (hlen : p.ctaphidPacketLen = 8) (hcid : p.cid ≠ 0)
    (hentry : s.greetedEntry p = some cids) :
    s.bufferInit p = (.HID_IGNORE, 0, (({ s.initRefused p with cids }).send
        (initResponse p.cid (s.greetedCid p) (p.mem.read 7 8))).del (s.greetedCid p)) := by
  rw [greetedEntry_eq] at hentry
  unfold bufferInit
  rw [if_neg (not_not.mpr hlen), if_neg hcid]
  have hnew : s.bufferReset.newCid = s.newCid := rfl
  unfold initRefused greetedCid at *
  by_cases hb : p.IsBroadcast
  · simp only [if_pos hb, hnew] at hentry ⊢
    simp only [hentry]
  · simp only [if_neg hb] at hentry ⊢
    simp only [hentry]

theorem received_init (hinit : p.IsInitPkt) : Received s p (concluded p (s.bufferInit p)) := by
  by_cases hlen : p.ctaphidPacketLen = 8
  · by_cases hcid : p.cid = 0
    · unfold bufferInit
      rw [if_neg (not_not.mpr hlen), if_pos hcid, concluded_error (by decide)]
      exact .rejected ⟨fun _ => .inr hcid, fun h => absurd hinit h⟩
    · cases hentry : s.greetedEntry p with
      | none =>
        rw [bufferInit_none hlen hcid hentry, concluded_error (by decide)]
        unfold greetedEntry at hentry
        split at hentry
        · rename_i hknown
          rw [← Option.isNone_iff_eq_none, ← Option.not_isSome,
            cidExists_iff_refresh.mp hknown.2] at hentry
          cases hentry
        · exact .noRoom hinit hlen hcid hentry
      | some cids =>
        rw [bufferInit_some hlen hcid hentry]
        refine .greeted hinit hlen hcid ?_
        unfold greetedEntry at hentry
        split at hentry
        · exact .inr hentry
        · exact .inl hentry
  · unfold bufferInit
    rw [if_pos hlen, concluded_error (by decide)]
    exact .rejected ⟨fun _ => .inl hlen, fun h => absurd hinit h⟩

theorem openChannel_eq_self (h : ¬ s.bufferStatus = .EMPTY ∨ p.IsContPkt) :
    s.openChannel p = s := by
  unfold openChannel
  refine if_neg fun hopen => ?_
  rcases h with h | h
  · exact h hopen.2.2
  · exact hopen.2.1 h

theorem openChannel_bufferStatus : (s.openChannel p).bufferStatus = s.bufferStatus := by
  unfold openChannel
  split
  · rfl
  · rfl

/-- The end of `bufferKnown`: the packet goes into the buffer. -/
theorem bufferKnown_start {cids : List Channel} (hidle : s.bufferStatus ≠ .BUFFERING)
    (hlen : p.ctaphidPacketLen ≤ CTAPHID_BUFFER_SIZE) (hcont : ¬ p.IsContPkt)
    (hcids : cidRefresh p.cid s.cids = some cids) :
    s.bufferKnown p = ({ s.started p with cids }.bufferStatus, 0, { s.started p with cids }) := by
  unfold bufferKnown
  rw [if_neg fun h => hidle h.1, if_neg fun h => hidle h.1, if_neg fun h => hidle h.1,
    if_neg fun h => absurd hlen (Nat.not_le_of_lt h.2), if_neg fun h => hcont h.1,
    bufferPacket_start hcont]
  dsimp only
  rw [show (s.started p).cids = s.cids from rfl, hcids]

theorem bufferKnown_cont {cids : List Channel} (hown : p.cid = s.bufferCid)
    (hnonempty : s.bufferStatus ≠ .EMPTY) (hcont : p.IsContPkt)
    (hcids : cidRefresh p.cid s.cids = some cids) :
    s.bufferKnown p =
      if s.packetSeq + 1 = p.cmd then
        ({ s.continued p with cids }.bufferStatus, 0, { s.continued p with cids })
      else (.HID_ERROR, CTAP1_ERR_INVALID_SEQ, { s with packetSeq := s.packetSeq + 1 }) := by
  unfold bufferKnown
  rw [if_neg fun h => h.2.2 hcont, if_neg fun h => h.2.2 hcont, if_neg fun h => h.2 hown,
    if_neg fun h => h.1 hcont,
    if_neg (by rintro ⟨-, h | h⟩; exacts [hnonempty h, h hown]), bufferPacket_cont hcont]
  by_cases hseq : s.packetSeq + 1 = p.cmd
  · rw [if_pos hseq, if_pos hseq]
    dsimp only
    rw [show (s.continued p).cids = s.cids from rfl, hcids]
  · rw [if_neg hseq, if_neg hseq]

/-- A packet of a channel that is in the table, by the branches of the source. -/
theorem received_known (hinit : ¬ p.IsInitPkt) (hcid : ¬ p.IsBroadcast)
    (hknown : CidExists p.cid (s.openChannel p).cids) :
    Received s p (concluded p ((s.openChannel p).bufferKnown p)) := by
  obtain ⟨cids, hcids⟩ := Option.isSome_iff_exists.mp (cidExists_iff_refresh.mp hknown)
  by_cases hcont : p.IsContPkt
  · have hopen : s.openChannel p = s := openChannel_eq_self (.inr hcont)
    rw [hopen] at hcids ⊢
    by_cases hforeign : s.bufferStatus = .EMPTY ∨ p.cid ≠ s.bufferCid
    · -- a continuation of nothing, or of a message of another channel
      have hignore : s.bufferKnown p = (.HID_IGNORE, 0, s) := by
        unfold bufferKnown
        rw [if_neg fun h => h.2.2 hcont, if_neg fun h => h.2.2 hcont]
        split
        · rfl
        · rw [if_neg fun h => h.1 hcont, if_pos ⟨hcont, hforeign⟩]
      rw [hignore]
      refine .ignored hcont ?_
      rcases hforeign with h | h
      · exact .inl h
      · exact .inr (.inl h)
    · obtain ⟨hnonempty, hown⟩ := not_or.mp hforeign
      rw [bufferKnown_cont (not_not.mp hown) hnonempty hcont hcids]
      by_cases hseq : s.packetSeq + 1 = p.cmd
      · rw [if_pos hseq, concluded_status]
        exact .continued hcont (not_not.mp hown) hnonempty hseq hcids
      · rw [if_neg hseq]
        exact .broken hinit (not_not.mp hown) hnonempty (.inr ⟨hcont, hseq⟩)
  · by_cases hbuffering : s.bufferStatus = .BUFFERING
    · have hopen : s.openChannel p = s := openChannel_eq_self (.inl (by rw [hbuffering]; decide))
      by_cases hown : p.cid = s.bufferCid
      · have hbroken : s.bufferKnown p = (.HID_ERROR, CTAP1_ERR_INVALID_SEQ, s) := by
          unfold bufferKnown
          rw [if_pos ⟨hbuffering, hown, hcont⟩]
        rw [hopen, hbroken]
        exact .broken hinit hown (by rw [hbuffering]; decide) (.inl ⟨hbuffering, hcont⟩)
      · have hbusy : s.bufferKnown p = (.HID_ERROR, CTAP1_ERR_CHANNEL_BUSY, s) := by
          unfold bufferKnown
          rw [if_neg fun h => hown h.2.1, if_pos ⟨hbuffering, hown, hcont⟩]
        have hrefused : Received s p
            (((s.openChannel p).del p.cid).ctaphidSendError p.cid CTAP1_ERR_CHANNEL_BUSY) :=
          .refused ⟨hinit, hcont⟩ (.inl hbuffering)
        rw [hopen] at hrefused ⊢
        rw [hbusy, concluded_error (by decide)]
        exact hrefused
    · have hidle : (s.openChannel p).bufferStatus ≠ .BUFFERING := by
        rw [openChannel_bufferStatus]
        exact hbuffering
      by_cases hlen : p.ctaphidPacketLen ≤ CTAPHID_BUFFER_SIZE
      · rw [bufferKnown_start hidle hlen hcont hcids, concluded_status]
        exact .started ⟨hinit, hcont⟩ hcid hbuffering hlen hcids
      · have hlong : (s.openChannel p).bufferKnown p =
            (.HID_ERROR, CTAP1_ERR_INVALID_LENGTH, s.openChannel p) := by
          unfold bufferKnown
          rw [if_neg fun h => hidle h.1, if_neg fun h => hidle h.1, if_neg fun h => hidle h.1,
            if_pos ⟨hcont, Nat.lt_of_not_le hlen⟩]
        rw [hlong, concluded_error (by decide)]
        exact .refused ⟨hinit, hcont⟩ (.inr (.inl (Nat.lt_of_not_le hlen)))

/-- **What a packet does, before a request is executed.** -/
theorem received (s : Ctaphid) (p : Packet) : Received s p (s.ctaphidHandlePacket p none) := by
  rw [ctaphidHandlePacket_none]
  unfold ctaphidBufferPacket
  by_cases hinit : p.IsInitPkt
  · rw [if_pos hinit]
    exact received_init hinit
  · rw [if_neg hinit]
    by_cases hcid : p.IsBroadcast
    · rw [if_pos hcid, concluded_error (by decide)]
      exact .rejected ⟨fun h => absurd h hinit, fun _ => hcid⟩
    · rw [if_neg hcid]
      dsimp only
      by_cases hknown : CidExists p.cid (s.openChannel p).cids
      · rw [if_pos hknown]
        exact received_known hinit hcid hknown
      · rw [if_neg hknown]
        by_cases hcont : p.IsContPkt
        · have hopen : s.openChannel p = s := openChannel_eq_self (.inr hcont)
          rw [hopen] at hknown
          rw [if_pos hcont, hopen]
          exact .ignored hcont (.inr (.inr hknown))
        · rw [if_neg hcont, concluded_error (by decide)]
          exact .refused ⟨hinit, hcont⟩ (.inr (.inr hknown))

/-! ### What an execution does -/

variable {env : Services}

/-- The request ends on a path that neither frees its channel nor empties the buffer. -/
def EndsEarly (s : Ctaphid) (env : Services) : Prop :=
  (s.bufferCmd = CTAPHID_CBOR ∨ s.bufferCmd = CTAPHID_MSG) ∧ s.bufferBcnt = 0 ∨
    s.bufferCmd = CTAPHID_CBOR ∧ (env.ctapRequest s.message).1 = CTAP2_ERR_ACTION_TIMEOUT

/-- The ways an execution of `process_ctaphid_packet` can go when no request is under way. -/
inductive Processed (s : Ctaphid) (env : Services) : Bool × Ctaphid → Prop
  | stopped (hwrong : s.bufferStatus = .BUFFERING ∨ s.bufferCmd = CTAPHID_INIT) :
      Processed s env (false, { s with exited := true })
  | pending {buffer : Mem} {n : Nat} {rs : List HidResponse}
      (hbehind : ∀ a, CTAPHID_BUFFER_SIZE ≤ a → buffer a = s.ctapBuffer a)
      (hkept : s.bufferCmd ≠ CTAPHID_GETRNG → buffer = s.ctapBuffer)
      (hneeded : s.bufferCmd = CTAPHID_GETRNG → 0 < n) :
      Processed s env (true, { s with
        ctapBuffer := buffer, randNeeded := n, isBusy := false, sent := s.sent ++ rs })
  | ended {rs : List HidResponse} (hearly : s.EndsEarly env) :
      Processed s env (false, { s with sent := s.sent ++ rs })
  | answered {buffer : Mem} {rs : List HidResponse}
      (hbehind : ∀ a, CTAPHID_BUFFER_SIZE ≤ a → buffer a = s.ctapBuffer a) :
      Processed s env
        (false, { s with ctapBuffer := buffer, sent := s.sent ++ rs, isBusy := false }.answered)

/-- The flag that a request is under way is clear between the executions. -/
theorem set_isBusy (hidle : s.isBusy = false) : { s with isBusy := false } = s := by
  rw [← hidle]

/-- A command that is answered and leaves the buffer alone. -/
theorem Processed.of_sent (hidle : s.isBusy = false) {rs : List HidResponse} :
    Processed s env (false, { s with sent := s.sent ++ rs }.answered) := by
  have hanswered : Processed s env (false,
      { s with ctapBuffer := s.ctapBuffer, sent := s.sent ++ rs, isBusy := false }.answered) :=
    .answered fun _ _ => rfl
  have hflag : { s with ctapBuffer := s.ctapBuffer, sent := s.sent ++ rs, isBusy := false } =
      { s with sent := s.sent ++ rs } := @set_isBusy { s with sent := s.sent ++ rs } hidle
  rwa [hflag] at hanswered

theorem Processed.single (hidle : s.isBusy = false) {r : HidResponse} :
    Processed s env (false, (s.send r).answered) := .of_sent hidle

theorem status_of_not_buffering (h : s.bufferStatus ≠ .BUFFERING) :
    s.bufferStatus = .BUFFERED ∨ s.bufferStatus = .EMPTY := by
  unfold bufferStatus at *
  split
  · exact .inr rfl
  · rename_i hne
    rw [if_neg hne] at h
    split
    · exact .inl rfl
    · rename_i hoff
      rw [if_neg hoff] at h
      exact absurd rfl h

/-- The status values that are reported are further responses. -/
theorem foldl_updateStatus (s : Ctaphid) (statuses : List UInt8) :
    ∃ rs, statuses.foldl ctaphidUpdateStatus s = { s with sent := s.sent ++ rs } := by
  induction statuses generalizing s with
  | nil => exact ⟨[], by rw [List.append_nil]; rfl⟩
  | cons status statuses ih =>
    obtain ⟨rs, hrs⟩ := ih (s.ctaphidUpdateStatus status)
    refine ⟨⟨s.bufferCid, CTAPHID_KEEPALIVE, 1, [[status]]⟩ :: rs, ?_⟩
    rw [List.foldl_cons, hrs, List.append_cons]
    rfl

theorem processed_cbor (hidle : s.isBusy = false) (hcmd : s.bufferCmd = CTAPHID_CBOR) :
    Processed s env (s.processCborCase env) := by
  unfold processCborCase
  by_cases hzero : s.bufferBcnt = 0
  · rw [if_pos hzero]
    exact .ended (.inl ⟨.inl hcmd, hzero⟩)
  · rw [if_neg hzero, if_neg (by rw [hidle]; exact Bool.false_ne_true)]
    dsimp only
    obtain ⟨rs, hrs⟩ := foldl_updateStatus s env.statuses
    have hflag : { s with isBusy := false, sent := s.sent ++ rs } =
        { s with sent := s.sent ++ rs } := @set_isBusy { s with sent := s.sent ++ rs } hidle
    rw [hrs]
    by_cases hpending : cborStatus env (env.ctapRequest s.message).1 = CTAP2_ERR_PROCESSING ∨
        cborStatus env (env.ctapRequest s.message).1 = CTAP2_ERR_USER_ACTION_PENDING
    · rw [if_pos hpending]
      refine .pending (fun _ _ => rfl) (fun _ => rfl) fun hrng => ?_
      rw [hcmd] at hrng
      exact absurd hrng (by decide)
    · rw [if_neg hpending]
      dsimp only
      rw [hflag]
      by_cases htimeout : cborStatus env (env.ctapRequest s.message).1 = CTAP2_ERR_ACTION_TIMEOUT
      · rw [if_pos htimeout]
        unfold ctaphidSendError send
        dsimp only
        rw [List.append_assoc]
        refine .ended (.inr ⟨hcmd, ?_⟩)
        unfold cborStatus at htimeout
        split at htimeout
        · exact absurd htimeout (by decide)
        · exact htimeout
      · rw [if_neg htimeout]
        unfold send
        dsimp only
        rw [List.append_assoc]
        exact .of_sent hidle

theorem processed_msg (hidle : s.isBusy = false) (hcmd : s.bufferCmd = CTAPHID_MSG) :
    Processed s env (s.processMsgCase env) := by
  unfold processMsgCase
  by_cases hzero : s.bufferBcnt = 0
  · rw [if_pos hzero]
    exact .ended (.inl ⟨.inr hcmd, hzero⟩)
  · rw [if_neg hzero, if_neg (by rw [hidle]; exact Bool.false_ne_true)]
    dsimp only
    split
    · have hpending : Processed s env (true, { s with
          ctapBuffer := s.ctapBuffer
          randNeeded := s.randNeeded
          isBusy := false
          sent := s.sent ++ [] }) := by
        refine .pending (fun _ _ => rfl) (fun _ => rfl) fun hrng => ?_
        rw [hcmd] at hrng
        exact absurd hrng (by decide)
      rwa [List.append_nil] at hpending
    · rw [set_isBusy hidle]
      exact .single hidle

/-- GETRNG asks for at least one byte, and they lie in the buffer. -/
theorem getrng_bcnt : 0 < (if (s.ctapBuffer 0).toNat = 0 then 57 else (s.ctapBuffer 0).toNat) ∧
    (if (s.ctapBuffer 0).toNat = 0 then 57 else (s.ctapBuffer 0).toNat) ≤
      CTAPHID_BUFFER_SIZE := by
  have hlt := (s.ctapBuffer 0).toNat_lt
  simp only [CTAPHID_BUFFER_SIZE]
  split
  · decide
  · omega

theorem processed_getrng (hcmd : s.bufferCmd = CTAPHID_GETRNG) :
    Processed s env (s.processGetrngCase env) := by
  have hbcnt := s.getrng_bcnt
  unfold processGetrngCase
  dsimp only
  generalize (if (s.ctapBuffer 0).toNat = 0 then 57 else (s.ctapBuffer 0).toNat) = bcnt at hbcnt ⊢
  have hfill : ∀ a, CTAPHID_BUFFER_SIZE ≤ a → s.ctapBuffer.fill 0 bcnt 0 a = s.ctapBuffer a :=
    fun a ha => if_neg (by omega)
  split
  · refine .answered fun a ha => ?_
    dsimp only
    rw [Mem.write_apply_of_notMem, hfill a ha]
    rw [List.length_map, List.length_range]
    exact .inr (by omega)
  · have hpending : Processed s env (true, { s with
        ctapBuffer := s.ctapBuffer.fill 0 bcnt 0
        randNeeded := bcnt
        isBusy := false
        sent := s.sent ++ [] }) := .pending hfill (fun h => absurd hcmd h) fun _ => hbcnt.1
    rwa [List.append_nil] at hpending

theorem processed_getversion : Processed s env s.processGetversionCase := by
  unfold processGetversionCase
  refine .answered fun a ha => ?_
  dsimp only
  rw [Mem.write_apply_of_notMem]
  simp only [CTAPHID_BUFFER_SIZE] at ha
  exact .inr (Nat.le_trans (by decide) ha)

/-- **What an execution does.** -/
theorem processed (hidle : s.isBusy = false) : Processed s env (s.processCtaphidPacket env) := by
  unfold processCtaphidPacket
  by_cases hbuffering : s.bufferStatus = .BUFFERING
  · rw [if_pos (by rw [hbuffering]; decide)]
    exact .stopped (.inl hbuffering)
  · rw [if_neg (not_not.mpr (status_of_not_buffering hbuffering))]
    split
    · rename_i hinit
      exact .stopped (.inr hinit)
    split
    · exact .single hidle
    split
    · exact .single hidle
    split
    · rename_i hcbor
      exact processed_cbor hidle hcbor
    split
    · rename_i hmsg
      exact processed_msg hidle hmsg
    split
    · have hanswered : Processed s env (false, { s with sent := s.sent ++ [] }.answered) :=
        .of_sent hidle
      rwa [List.append_nil] at hanswered
    split
    · rename_i hrng
      exact processed_getrng hrng
    split
    · exact processed_getversion
    · exact .single hidle

/-- The ways an execution can go, `ctaphid_processing_packet` included. -/
inductive Executed (s : Ctaphid) (env : Services) : Ctaphid → Prop
  | stopped (hwrong : s.bufferStatus = .BUFFERING ∨ s.bufferCmd = CTAPHID_INIT) {s' : Ctaphid}
      (hexited : s'.exited = true) : Executed s env s'
  | pending {buffer : Mem} {n : Nat} {rs : List HidResponse}
      (hbehind : ∀ a, CTAPHID_BUFFER_SIZE ≤ a → buffer a = s.ctapBuffer a)
      (hkept : s.bufferCmd ≠ CTAPHID_GETRNG → buffer = s.ctapBuffer)
      (hneeded : s.bufferCmd = CTAPHID_GETRNG → 0 < n) :
      Executed s env { s with
        ctapBuffer := buffer, randNeeded := n, isBusy := false, sent := s.sent ++ rs }
  | ended {rs : List HidResponse} (hearly : s.EndsEarly env) :
      Executed s env { s with
        sent := s.sent ++ rs, randNeeded := 0, processingPacket := false }
  | answered {buffer : Mem} {rs : List HidResponse}
      (hbehind : ∀ a, CTAPHID_BUFFER_SIZE ≤ a → buffer a = s.ctapBuffer a) :
      Executed s env { { s with ctapBuffer := buffer, sent := s.sent ++ rs }.answered with
        isBusy := false, randNeeded := 0, processingPacket := false }

theorem executed (hidle : s.isBusy = false) : Executed s env (s.restartCommand env) := by
  have hprocessed : Processed { s with randNeeded := 0 } env
      ({ s with randNeeded := 0 }.processCtaphidPacket env) := processed hidle
  unfold restartCommand
  dsimp only
  generalize { s with randNeeded := 0 }.processCtaphidPacket env = r at hprocessed
  cases hprocessed with
  | stopped hwrong => exact @Executed.stopped s env hwrong _ rfl
  | pending hbehind hkept hneeded =>
    dsimp only
    split
    · rename_i hmissing
      exact .pending hbehind hkept fun _ => Nat.zero_lt_of_lt hmissing.2
    · exact .pending hbehind hkept hneeded
  | ended hearly => exact .ended hearly
  | answered hbehind => exact .answered hbehind

/-- A request that is granted the device at once is executed at once. -/
theorem handled_granted (s : Ctaphid) (p : Packet) (env : Services) :
    s.ctaphidHandlePacket p (some env) = s.ctaphidHandlePacket p none ∨
      (s.ctaphidHandlePacket p none).processingPacket = true ∧
        s.ctaphidHandlePacket p (some env) =
          (s.ctaphidHandlePacket p none).restartCommand env := by
  unfold ctaphidHandlePacket
  rcases s.ctaphidBufferPacket p with ⟨status, e, s'⟩
  cases status with
  | EMPTY => exact .inr ⟨rfl, rfl⟩
  | BUFFERED => exact .inr ⟨rfl, rfl⟩
  | BUFFERING => exact .inl rfl
  | HID_ERROR => exact .inl rfl
  | HID_IGNORE => exact .inl rfl

end Ctaphid

end SignetBase.FirmwareHc
