/-
  SignetBase/FirmwareHc/CtaphidRuns.lean
  ======================================
  **Runs of the CTAPHID layer: it never stops, and which channels it keeps busy.**

  The endpoint is armed again only when a packet is done with, so no packet comes in while a
  request is executed.  Then no assertion fires and nothing behind the buffer is written,
  whatever the host sends.  A channel whose message is cut off by a CTAPHID_INIT, or whose
  request ends on an early return, stays busy for good (`ctaphid_check_timeouts` is not
  called); as long as this happened fewer than eight times every CTAPHID_INIT is answered.
-/
import SignetBase.FirmwareHc.CtaphidSteps
import SignetBase.Run

namespace SignetBase.FirmwareHc

namespace Ctaphid

/-! ### Runs -/

inductive HidEvent
  | packet (p : Packet) (granted : Option Services)
  | idle (env : Services)

def step (s : Ctaphid) : HidEvent → Ctaphid
  | .packet p granted => s.ctaphidHandlePacket p granted
  | .idle env => s.ctaphidIdle env

/-- `USBD_HID_rx_resume` has been called since the last packet. -/
def Armed (s : Ctaphid) : HidEvent → Prop
  | .packet _ _ => s.processingPacket = false
  | .idle _ => True

/-- The layer after power-on, with the bytes `m` in and behind its buffer. -/
def powerOn (m : Mem) : Ctaphid where
  cids := List.replicate CID_MAX ⟨0, false⟩
  newCid := 1
  ctapBuffer := m
  bufferCid := 0
  bufferCmd := 0
  bufferBcnt := 0
  bufferOffset := 0
  packetSeq := 0
  processingPacket := false
  randNeeded := 0
  isBusy := false
  sent := []
  exited := false

/-- A run of the layer from power-on. -/
abbrev HidRun (m : Mem) : History Ctaphid HidEvent → Ctaphid → Prop :=
  Run (· = powerOn m) step Armed

/-! ### The layer never stops -/

variable {m : Mem} {s s' : Ctaphid} {p : Packet} {env : Services}

/-- What holds along every run. -/
structure HidInv (m : Mem) (s : Ctaphid) : Prop where
  table : s.cids.length = CID_MAX
  offset : s.bufferOffset ≤ s.bufferBcnt
  bcnt : s.bufferBcnt ≤ CTAPHID_BUFFER_SIZE
  cmd : s.bufferCmd ≠ CTAPHID_INIT
  idle : s.isBusy = false
  running : s.exited = false
  request : s.processingPacket = true → s.bufferStatus ≠ .BUFFERING
  behind : ∀ a, CTAPHID_BUFFER_SIZE ≤ a → s.ctapBuffer a = m a

theorem HidInv.powerOn (m : Mem) : HidInv m (powerOn m) where
  table := List.length_replicate
  offset := Nat.le_refl 0
  bcnt := Nat.zero_le _
  cmd := fun h => absurd h (by decide : (0 : Nat) ≠ CTAPHID_INIT)
  idle := rfl
  running := rfl
  request := fun h => by cases h
  behind := fun _ _ => rfl

/-- Channels and responses do not matter. -/
theorem HidInv.frame (h : HidInv m s) {cids : List Channel} (hlen : cids.length = s.cids.length)
    (newCid : Nat) (sent : List HidResponse) : HidInv m { s with cids, newCid, sent } :=
  { h with table := hlen.trans h.table }

theorem bufferStatus_of_bcnt_zero (h : s.bufferBcnt = 0) : s.bufferStatus = .EMPTY := if_pos h

theorem HidInv.bufferReset (h : HidInv m s) : HidInv m s.bufferReset :=
  { h with
    offset := Nat.le_refl 0
    bcnt := Nat.zero_le _
    request := fun _ => by
      rw [bufferStatus_of_bcnt_zero rfl]
      decide }

theorem HidInv.del (h : HidInv m s) (cid : Nat) : HidInv m (s.del cid) :=
  h.frame (entrySet_del cid s.cids).length s.newCid s.sent

theorem HidInv.send (h : HidInv m s) (r : HidResponse) : HidInv m (s.send r) :=
  h.frame rfl s.newCid _

theorem HidInv.initRefused (h : HidInv m s) : HidInv m (s.initRefused p) := by
  unfold Ctaphid.initRefused
  split
  · exact h.bufferReset.frame rfl _ _
  · exact h.bufferReset

theorem HidInv.openChannel (h : HidInv m s) : HidInv m (s.openChannel p) := by
  unfold Ctaphid.openChannel
  split
  · refine h.frame ?_ s.newCid s.sent
    cases hadd : addCid p.cid s.cids with
    | none => rfl
    | some cids => exact (entryAdded hadd).length
  · exact h

/-- A message that is complete becomes a request. -/
theorem HidInv.taken (h : HidInv m s) : HidInv m s.taken := by
  unfold Ctaphid.taken
  split
  · exact h
  · rename_i hstatus
    exact { h with request := fun _ => hstatus }

theorem HidInv.started (h : HidInv m s) (hstarts : Starts p)
    (hlen : p.ctaphidPacketLen ≤ CTAPHID_BUFFER_SIZE) (harmed : s.processingPacket = false) :
    HidInv m (s.started p) :=
  { h with
    offset := Nat.min_le_left _ _
    bcnt := hlen
    cmd := hstarts.1
    request := fun hprocessing => by
      change s.processingPacket = true at hprocessing
      rw [harmed] at hprocessing
      cases hprocessing
    behind := fun a ha => by
      refine (Mem.copy_apply_of_notMem _ _ (.inr ?_)).trans (h.behind a ha)
      have hmin := Nat.min_le_left p.ctaphidPacketLen CTAPHID_INIT_PAYLOAD_SIZE
      omega }

theorem HidInv.continued (h : HidInv m s) (harmed : s.processingPacket = false) :
    HidInv m (s.continued p) := by
  have hmin := Nat.min_le_left (s.bufferBcnt - s.bufferOffset) CTAPHID_CONT_PAYLOAD_SIZE
  have hoffset := h.offset
  have hbcnt := h.bcnt
  exact { h with
    offset := by
      unfold Ctaphid.continued
      dsimp only
      omega
    request := fun hprocessing => by
      change s.processingPacket = true at hprocessing
      rw [harmed] at hprocessing
      cases hprocessing
    behind := fun a ha => by
      refine (Mem.copy_apply_of_notMem _ _ (.inr ?_)).trans (h.behind a ha)
      omega }

theorem openChannel_processing (harmed : s.processingPacket = false) :
    (s.openChannel p).processingPacket = false := by
  unfold Ctaphid.openChannel
  split <;> exact harmed

theorem HidInv.received (h : HidInv m s) (harmed : s.processingPacket = false)
    (hr : Received s p s') : HidInv m s' := by
  cases hr with
  | ignored => exact h
  | rejected => exact (h.del p.cid).send _
  | noRoom => exact (h.initRefused.del p.cid).send _
  | greeted hinit hlen hcid hroom =>
    refine HidInv.del (HidInv.send (h.initRefused.frame ?_ _ _) _) _
    rw [initRefused_cids]
    rcases hroom with hadd | hrefresh
    · exact (entryAdded hadd).length
    · exact (entrySet_refresh hrefresh).length
  | refused => exact (h.openChannel.del p.cid).send _
  | broken => exact (h.del p.cid).bufferReset.send _
  | started hstarts hcid hidle hlen hknown =>
    have hopen := openChannel_processing (p := p) harmed
    have hstarted := h.openChannel.started hstarts hlen hopen
    exact (hstarted.frame (entrySet_refresh hknown).length _ _).taken
  | continued hcont hown hnonempty hseq hknown =>
    exact ((h.continued harmed).frame (entrySet_refresh hknown).length _ _).taken

theorem HidInv.executed (h : HidInv m s) (hprocessing : s.processingPacket = true)
    (he : Executed s env s') : HidInv m s' := by
  cases he with
  | stopped hwrong =>
    rcases hwrong with hwrong | hwrong
    · exact absurd hwrong (h.request hprocessing)
    · exact absurd hwrong h.cmd
  | pending hbehind hkept =>
    exact { h with idle := rfl, behind := fun a ha => (hbehind a ha).trans (h.behind a ha) }
  | ended hearly => exact { h with request := fun hfalse => by cases hfalse }
  | @answered buffer rs hbehind =>
    have hanswered : HidInv m { s with ctapBuffer := buffer, sent := s.sent ++ rs } :=
      { h with behind := fun a ha => (hbehind a ha).trans (h.behind a ha) }
    exact { (hanswered.del s.bufferCid).bufferReset with
      idle := rfl
      request := fun hfalse => by cases hfalse }

/-- A packet, and the execution that may follow it at once. -/
theorem step_packet {P : Ctaphid → Prop} {granted : Option Services}
    (hreceived : P (s.ctaphidHandlePacket p none))
    (hexecuted : ∀ env, granted = some env →
      (s.ctaphidHandlePacket p none).processingPacket = true →
        P ((s.ctaphidHandlePacket p none).restartCommand env)) :
    P (s.step (.packet p granted)) := by
  cases granted with
  | none => exact hreceived
  | some env =>
    rcases handled_granted s p env with heq | ⟨hprocessing, heq⟩
    · change P (s.ctaphidHandlePacket p (some env))
      rwa [heq]
    · change P (s.ctaphidHandlePacket p (some env))
      rw [heq]
      exact hexecuted env rfl hprocessing

theorem hidInv_step (h : HidInv m s) {e : HidEvent} (harmed : s.Armed e) :
    HidInv m (s.step e) := by
  cases e with
  | packet p granted =>
    have hreceived := h.received harmed (received s p)
    exact step_packet hreceived fun env _ hprocessing =>
      hreceived.executed hprocessing (executed hreceived.idle)
  | idle env =>
    change HidInv m (s.ctaphidIdle env)
    unfold ctaphidIdle
    split
    · rename_i hprocessing
      exact h.executed hprocessing (executed h.idle)
    · exact h

theorem hidInv_run {h : History Ctaphid HidEvent} (hr : HidRun m h s) : HidInv m s := by
  refine hr.invariant (P := fun _ s => HidInv m s) (fun s hs => ?_)
    fun _ _ _ _ harmed ih => hidInv_step ih harmed
  rw [hs]
  exact HidInv.powerOn m

/-! ### Busy channels -/

/-- A CTAPHID_INIT that is well formed cuts off the message that is being put together. -/
def CutsOff (s : Ctaphid) (p : Packet) : Prop :=
  p.IsInitPkt ∧ p.ctaphidPacketLen = 8 ∧ p.cid ≠ 0 ∧ s.bufferStatus = .BUFFERING

instance (s : Ctaphid) (p : Packet) : Decidable (s.CutsOff p) := by
  unfold CutsOff
  infer_instance

instance (s : Ctaphid) (env : Services) : Decidable (s.EndsEarly env) := by
  unfold EndsEarly
  infer_instance

/-- The events that leave a channel busy although nothing is done for it any more. -/
def Abandons (s : Ctaphid) : HidEvent → Prop
  | .packet p none => s.CutsOff p
  | .packet p (some env) => s.CutsOff p ∨
      (s.ctaphidHandlePacket p none).processingPacket = true ∧
        (s.ctaphidHandlePacket p none).EndsEarly env
  | .idle env => s.processingPacket = true ∧ s.EndsEarly env

instance (s : Ctaphid) : (e : HidEvent) → Decidable (s.Abandons e)
  | .packet p none => inferInstanceAs (Decidable (s.CutsOff p))
  | .packet _ (some _) => inferInstanceAs (Decidable (_ ∨ _ ∧ _))
  | .idle _ => inferInstanceAs (Decidable (_ ∧ _))

/-- How often that happened. -/
def abandoned (h : History Ctaphid HidEvent) : Nat := h.countP fun x => x.1.Abandons x.2

/-- A message is being put together or executed. -/
def Live (s : Ctaphid) : Prop := s.bufferStatus = .BUFFERING ∨ s.processingPacket = true

instance (s : Ctaphid) : Decidable s.Live := inferInstanceAs (Decidable (_ ∨ _))

/-- At most `n` channels are busy besides the one that the layer works for. -/
def BusyLe (n : Nat) (s : Ctaphid) : Prop :=
  busyChannels s.cids ≤ n + if s.Live then held s.bufferCid s.cids else 0

theorem BusyLe.mono {n n' : Nat} (h : s.BusyLe n) (hle : n ≤ n') : s.BusyLe n' :=
  Nat.le_trans h (Nat.add_le_add_right hle _)

theorem busyLe_of_not_live {n : Nat} (hlive : ¬ s.Live) :
    s.BusyLe n ↔ busyChannels s.cids ≤ n := by
  unfold BusyLe
  rw [if_neg hlive, Nat.add_zero]

theorem BusyLe.le_succ {n : Nat} (h : s.BusyLe n) : busyChannels s.cids ≤ n + 1 := by
  refine Nat.le_trans h (Nat.add_le_add_left ?_ n)
  split
  · exact held_le _ _
  · exact Nat.zero_le _

/-- Freeing a channel. -/
theorem BusyLe.del {n : Nat} (h : s.BusyLe n) (cid : Nat) : (s.del cid).BusyLe n := by
  have hentry := entrySet_del cid s.cids
  have hcount := hentry.count
  rw [Bool.toNat_false] at hcount
  by_cases hlive : s.Live
  · have hlive' : (s.del cid).Live := hlive
    unfold BusyLe at *
    rw [if_pos hlive] at h
    rw [if_pos hlive']
    change busyChannels ((cidDel cid s.cids).getD s.cids) ≤
      n + held s.bufferCid ((cidDel cid s.cids).getD s.cids)
    by_cases hcid : s.bufferCid = cid
    · rw [hcid] at h
      omega
    · rw [hentry.others _ hcid]
      omega
  · have hlive' : ¬ (s.del cid).Live := hlive
    rw [busyLe_of_not_live hlive] at h
    rw [busyLe_of_not_live hlive']
    change busyChannels ((cidDel cid s.cids).getD s.cids) ≤ n
    omega

/-- Freeing the channel that the layer worked for. -/
theorem BusyLe.del_own {n : Nat} (h : s.BusyLe n) :
    busyChannels (s.del s.bufferCid).cids ≤ n := by
  have hentry := entrySet_del s.bufferCid s.cids
  have hcount := hentry.count
  rw [Bool.toNat_false] at hcount
  change busyChannels ((cidDel s.bufferCid s.cids).getD s.cids) ≤ n
  unfold BusyLe at h
  split at h <;> omega

theorem not_live_of_empty (harmed : s.processingPacket = false) (hzero : s.bufferBcnt = 0) :
    ¬ s.Live := by
  rintro (hlive | hlive)
  · rw [bufferStatus_of_bcnt_zero hzero] at hlive
    cases hlive
  · rw [harmed] at hlive
    cases hlive

/-- Nothing is being put together. -/
theorem not_live_of_idle (harmed : s.processingPacket = false)
    (hidle : s.bufferStatus ≠ .BUFFERING) : ¬ s.Live := by
  rintro (hlive | hlive)
  · exact hidle hlive
  · rw [harmed] at hlive
    cases hlive

/-- The entry for the channel of a first packet, given to it now or known before. -/
theorem opened_entry {cids : List Channel}
    (hknown : cidRefresh p.cid (s.openChannel p).cids = some cids) :
    busyChannels cids ≤ busyChannels s.cids + 1 ∧ held p.cid cids = 1 := by
  have hentry := entrySet_refresh hknown
  have hcount := hentry.count
  rw [Bool.toNat_true] at hcount
  refine ⟨?_, hentry.own⟩
  unfold openChannel at hcount
  split at hcount
  · cases hadd : addCid p.cid s.cids with
    | none =>
      rw [hadd, Option.getD_none] at hcount
      dsimp only at hcount
      omega
    | some cids' =>
      have hadded := entryAdded hadd
      have hone := hadded.count
      have hheld := hadded.own
      rw [hadd, Option.getD_some] at hcount
      dsimp only at hcount
      omega
  · omega

/-- A complete or growing message is what the layer works for. -/
theorem live_taken (s : Ctaphid) : s.taken.Live := by
  unfold taken
  split
  · rename_i hstatus
    exact .inl hstatus
  · exact .inr rfl

theorem taken_cids : s.taken.cids = s.cids ∧ s.taken.bufferCid = s.bufferCid := by
  unfold taken
  split
  · exact ⟨rfl, rfl⟩
  · exact ⟨rfl, rfl⟩

theorem busyLe_taken {n : Nat} (hcount : busyChannels s.cids ≤ n + 1)
    (hheld : held s.bufferCid s.cids = 1) : s.taken.BusyLe n := by
  unfold BusyLe
  rw [if_pos s.live_taken, taken_cids.1, taken_cids.2, hheld]
  exact hcount

/-- The message that CTAPHID_INIT cuts off keeps its channel busy. -/
theorem busy_of_init {n : Nat} (h : s.BusyLe n) (harmed : s.processingPacket = false)
    (hinit : p.IsInitPkt) (hlen : p.ctaphidPacketLen = 8) (hcid : p.cid ≠ 0) :
    busyChannels s.cids ≤ n + if s.CutsOff p then 1 else 0 := by
  by_cases hbuffering : s.bufferStatus = .BUFFERING
  · rw [if_pos ⟨hinit, hlen, hcid, hbuffering⟩]
    exact h.le_succ
  · rw [if_neg fun hcut => hbuffering hcut.2.2.2]
    exact (busyLe_of_not_live (not_live_of_idle harmed hbuffering)).mp h

/-- CTAPHID_INIT empties the buffer. -/
theorem initRefused_idle (s : Ctaphid) (p : Packet) : (s.initRefused p).bufferBcnt = 0 ∧
    (s.initRefused p).processingPacket = s.processingPacket := by
  unfold initRefused
  split
  · exact ⟨rfl, rfl⟩
  · exact ⟨rfl, rfl⟩

theorem not_live_initRefused (harmed : s.processingPacket = false) :
    ¬ (s.initRefused p).Live :=
  not_live_of_empty ((initRefused_idle s p).2.trans harmed) (initRefused_idle s p).1

/-- A channel that was given an entry for a packet that is then refused loses it again. -/
theorem BusyLe.refused {n : Nat} (h : s.BusyLe n) (harmed : s.processingPacket = false) :
    ((s.openChannel p).del p.cid).BusyLe n := by
  unfold openChannel
  split
  · rename_i hopen
    cases hadd : addCid p.cid s.cids with
    | none => exact h.del p.cid
    | some cids =>
      have hone := (entryAdded hadd).count
      have hheld := (entryAdded hadd).own
      have hcount := (entrySet_del p.cid cids).count
      rw [Bool.toNat_false] at hcount
      have hidle : s.bufferStatus ≠ .BUFFERING := by
        rw [hopen.2.2]
        decide
      have hle := (busyLe_of_not_live (not_live_of_idle harmed hidle)).mp h
      have hlive : ¬ ({ s with cids := cids }.del p.cid).Live := not_live_of_idle harmed hidle
      refine (busyLe_of_not_live hlive).mpr ?_
      change busyChannels ((cidDel p.cid cids).getD cids) ≤ n
      omega
  · exact h.del p.cid

/-- **What a packet does to the busy channels.** -/
theorem BusyLe.received {n : Nat} (h : s.BusyLe n) (harmed : s.processingPacket = false)
    (hr : Received s p s') : s'.BusyLe (n + if s.CutsOff p then 1 else 0) := by
  have hmono : ∀ {t : Ctaphid}, t.BusyLe n → t.BusyLe (n + if s.CutsOff p then 1 else 0) :=
    fun ht => ht.mono (Nat.le_add_right _ _)
  cases hr with
  | ignored => exact hmono h
  | rejected => exact hmono (h.del p.cid)
  | noRoom hinit hlen hcid =>
    have hbusy := busy_of_init h harmed hinit hlen hcid
    rw [← initRefused_cids (p := p)] at hbusy
    exact BusyLe.del ((busyLe_of_not_live (not_live_initRefused harmed)).mpr hbusy) p.cid
  | @greeted cids hinit hlen hcid hroom =>
    have hbusy := busy_of_init h harmed hinit hlen hcid
    have hdel := entrySet_del (s.greetedCid p) cids
    have hcount := hdel.count
    rw [Bool.toNat_false] at hcount
    have hlive : ¬ ((({ s.initRefused p with cids }).send
        (initResponse p.cid (s.greetedCid p) (p.mem.read 7 8))).del (s.greetedCid p)).Live :=
      not_live_initRefused harmed
    rw [busyLe_of_not_live hlive]
    change busyChannels ((cidDel (s.greetedCid p) cids).getD cids) ≤ _
    rcases hroom with hadd | hrefresh
    · have hone := (entryAdded hadd).count
      have hheld := (entryAdded hadd).own
      omega
    · have hone := (entrySet_refresh hrefresh).count
      have hheld := (entrySet_refresh hrefresh).own
      rw [Bool.toNat_true] at hone hheld
      omega
  | refused => exact hmono (h.refused harmed)
  | broken hinit hown hnonempty =>
    have hdel : busyChannels (s.del p.cid).cids ≤ n := by
      rw [hown]
      exact h.del_own
    have hlive : ¬ (s.del p.cid).bufferReset.Live := not_live_of_empty harmed rfl
    exact hmono ((busyLe_of_not_live hlive).mpr hdel)
  | started hstarts hcid hidle hlen hknown =>
    obtain ⟨hcount, hheld⟩ := opened_entry hknown
    have hle := (busyLe_of_not_live (not_live_of_idle harmed hidle)).mp h
    exact hmono (busyLe_taken (by dsimp only; omega) hheld)
  | @continued cids hcont hown hnonempty hseq hknown =>
    have hcount := (entrySet_refresh hknown).count
    have hheld := (entrySet_refresh hknown).own
    rw [Bool.toNat_true] at hcount hheld
    refine hmono (busyLe_taken ?_ ?_)
    · change busyChannels cids ≤ n + 1
      unfold BusyLe at h
      rw [hown] at hcount
      split at h <;> omega
    · change held s.bufferCid cids = 1
      rw [← hown]
      exact hheld

/-- **What an execution does to the busy channels.** -/
theorem BusyLe.executed {n : Nat} (h : s.BusyLe n) (hinv : HidInv m s)
    (hprocessing : s.processingPacket = true) (he : Executed s env s') :
    s'.BusyLe (n + if s.EndsEarly env then 1 else 0) := by
  cases he with
  | stopped hwrong =>
    rcases hwrong with hwrong | hwrong
    · exact absurd hwrong (hinv.request hprocessing)
    · exact absurd hwrong hinv.cmd
  | pending hbehind hkept =>
    refine BusyLe.mono (n := n) ?_ (Nat.le_add_right _ _)
    exact h
  | @ended rs hearly =>
    rw [if_pos hearly]
    have hlive : ¬ ({ s with
        sent := s.sent ++ rs, randNeeded := 0, processingPacket := false } : Ctaphid).Live :=
      not_live_of_idle rfl (hinv.request hprocessing)
    exact (busyLe_of_not_live hlive).mpr h.le_succ
  | @answered buffer rs hbehind =>
    refine BusyLe.mono (n := n) ?_ (Nat.le_add_right _ _)
    have hlive : ¬ ({ { s with ctapBuffer := buffer, sent := s.sent ++ rs }.answered with
        isBusy := false, randNeeded := 0, processingPacket := false }).Live :=
      not_live_of_empty rfl rfl
    exact (busyLe_of_not_live hlive).mpr h.del_own

/-- CTAPHID_INIT is never a request. -/
theorem processing_of_init (harmed : s.processingPacket = false) (hinit : p.IsInitPkt)
    (hr : Received s p s') : s'.processingPacket = false := by
  have hrefused := (initRefused_idle s p).2.trans harmed
  cases hr with
  | ignored => exact harmed
  | rejected => exact harmed
  | noRoom => exact hrefused
  | greeted => exact hrefused
  | refused hstarts => exact absurd hinit hstarts.1
  | broken hnot => exact absurd hinit hnot
  | started hstarts => exact absurd hinit hstarts.1
  | continued hcont =>
    unfold Packet.IsContPkt at hcont
    rw [show Packet.cmd p = CTAPHID_INIT from hinit] at hcont
    exact absurd hcont (by decide)

theorem busyLe_step {n : Nat} (h : s.BusyLe n) (hinv : HidInv m s) {e : HidEvent}
    (harmed : s.Armed e) : (s.step e).BusyLe (n + if s.Abandons e then 1 else 0) := by
  cases e with
  | packet p granted =>
    have hreceived := h.received harmed (received s p)
    have hinv' := hinv.received harmed (received s p)
    refine step_packet (hreceived.mono ?_) fun env hgranted hprocessing => ?_
    · by_cases hcut : s.CutsOff p
      · have habandons : s.Abandons (.packet p granted) := by
          cases granted with
          | none => exact hcut
          | some env => exact .inl hcut
        rw [if_pos hcut, if_pos habandons]
      · rw [if_neg hcut]
        exact Nat.le_add_right _ _
    · have hnocut : ¬ s.CutsOff p := fun hcut => by
        rw [processing_of_init harmed hcut.1 (received s p)] at hprocessing
        cases hprocessing
      rw [if_neg hnocut, Nat.add_zero] at hreceived
      have hexecuted : Executed _ env _ := executed hinv'.idle
      subst hgranted
      refine (hreceived.executed hinv' hprocessing hexecuted).mono ?_
      by_cases hearly : (s.ctaphidHandlePacket p none).EndsEarly env
      · have habandons : s.Abandons (.packet p (some env)) := .inr ⟨hprocessing, hearly⟩
        rw [if_pos hearly, if_pos habandons]
      · rw [if_neg hearly]
        exact Nat.le_add_right _ _
  | idle env =>
    change BusyLe _ (s.ctaphidIdle env)
    unfold ctaphidIdle
    by_cases hprocessing : s.processingPacket = true
    · rw [if_pos hprocessing]
      have hexecuted : Executed s env _ := executed hinv.idle
      refine (h.executed hinv hprocessing hexecuted).mono ?_
      by_cases hearly : s.EndsEarly env
      · have habandons : s.Abandons (.idle env) := ⟨hprocessing, hearly⟩
        rw [if_pos hearly, if_pos habandons]
      · rw [if_neg hearly]
        exact Nat.le_add_right _ _
    · rw [if_neg hprocessing]
      exact h.mono (Nat.le_add_right _ _)

theorem abandoned_cons (h : History Ctaphid HidEvent) (s : Ctaphid) (e : HidEvent) :
    abandoned ((s, e) :: h) = abandoned h + if s.Abandons e then 1 else 0 := by
  unfold abandoned
  rw [List.countP_cons]
  congr 1
  by_cases habandons : s.Abandons e
  · rw [if_pos habandons, if_pos (decide_eq_true habandons)]
  · rw [if_neg habandons, if_neg (by rw [decide_eq_false habandons]; exact Bool.false_ne_true)]

/-- Along a run no more channels are busy than were left busy, and the one in use. -/
theorem busyLe_run {h : History Ctaphid HidEvent} (hr : HidRun m h s) :
    s.BusyLe (abandoned h) := by
  refine hr.invariant (P := fun h s => s.BusyLe (abandoned h)) (fun s hs => ?_)
    fun h s e hr harmed ih => ?_
  · rw [hs]
    exact Nat.zero_le _
  · rw [abandoned_cons]
    exact busyLe_step ih (hidInv_run hr) harmed

/-- The channel counter steps over 0 and the broadcast channel. -/
theorem getNewCid_valid (cid : Nat) :
    getNewCid 3 cid ≠ 0 ∧ getNewCid 3 cid < CTAPHID_BROADCAST_CID := by
  have hlt : (cid + 1) % 2 ^ 32 < 2 ^ 32 := Nat.mod_lt _ (by decide)
  simp only [getNewCid]
  generalize (cid + 1) % 2 ^ 32 = cid at hlt ⊢
  by_cases hskipped : cid = 0 ∨ cid = CTAPHID_BROADCAST_CID
  · rcases hskipped with rfl | rfl
    · decide
    · decide
  · simp only [if_neg hskipped]
    unfold CTAPHID_BROADCAST_CID at *
    omega

theorem greetedCid_valid (hcid : p.cid ≠ 0) :
    s.greetedCid p ≠ 0 ∧ s.greetedCid p ≠ CTAPHID_BROADCAST_CID := by
  unfold greetedCid
  split
  · exact ⟨(getNewCid_valid _).1, Nat.ne_of_lt (getNewCid_valid _).2⟩
  · rename_i hbroadcast
    exact ⟨hcid, hbroadcast⟩

/-- A CTAPHID_INIT on the broadcast channel. -/
def hello : Packet := padded [0xff, 0xff, 0xff, 0xff, 0x86, 0, 8, 1, 2, 3, 4, 5, 6, 7, 8]

end Ctaphid

end SignetBase.FirmwareHc
