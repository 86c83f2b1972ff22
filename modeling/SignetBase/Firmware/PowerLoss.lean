/-
  SignetBase/Firmware/PowerLoss.lean
  ==================================
  **An update that power loss cuts off, and the scans that follow.**

  The device forgets everything but its flash.  The flash is the one before the update,
  or the one after its first or its second page write (`UpdateImage`).  STARTUP scans it
  and carries the write out that a scan issues, until a scan needs none (`recover`).
-/
import SignetBase.Firmware.Commits

namespace SignetBase.Firmware

variable (P : Platform)

variable {s s' : Dev} {uid b₀ b i : Nat} {old new : Rec} {t : Tables}

/-! ### Startup scans -/

/-- At most `n` startup scans, each followed by the page write it issued; `none` when the
    last of them needed a write, too. -/
def recover : Nat → Dev → Option Dev
  | 0, _ => none
  | n + 1, s =>
    match db2StartupScan P CmdData.startupBlock CmdData.startupBlkInfo s with
    | (true, s) => some s
    | (false, s) => if s.flashState = .idle then none else recover n (pageWritten s)

/-- A scan that needs no repair ends the startup. -/
theorem recover_done (h : (scanPages P (block P s) s.tables
      (Scratch.ofCmdData s.cmdData CmdData.startupBlock CmdData.startupBlkInfo)).repair = none)
    (n : Nat) :
    ∃ s', recover P (n + 1) s = some s' ∧ s'.flash = s.flash ∧
      s'.tables = (scanPages P (block P s) s.tables
        (Scratch.ofCmdData s.cmdData CmdData.startupBlock CmdData.startupBlkInfo)).tables := by
  generalize hr : scanPages P (block P s) s.tables
    (Scratch.ofCmdData s.cmdData CmdData.startupBlock CmdData.startupBlkInfo) = r at h ⊢
  generalize hs₀ : ({ s with
      tables := r.tables
      cmdData := r.scratch.toCmdData s.cmdData CmdData.startupBlock CmdData.startupBlkInfo } : Dev) =
    s₀
  have hscan : db2StartupScan P CmdData.startupBlock CmdData.startupBlkInfo s = (true, s₀) := by
    unfold db2StartupScan
    simp only [hr, h]
    rw [hs₀]
  refine ⟨s₀, ?_, ?_, ?_⟩
  · unfold recover
    rw [hscan]
  · rw [← hs₀]
  · rw [← hs₀]

/-- The write of a scan that repairs block `i` is carried out, and the next scan follows. -/
theorem recover_repair (hidle : s.flashState = .idle) (hi : i ∈ dataBlocks)
    (h : (scanPages P (block P s) s.tables
      (Scratch.ofCmdData s.cmdData CmdData.startupBlock CmdData.startupBlkInfo)).repair = some i) :
    ∃ s', (∀ n, recover P (n + 1) s = recover P n s') ∧ s'.flashState = .idle ∧
      Wrote (block P s) i (scanPages P (block P s) s.tables
        (Scratch.ofCmdData s.cmdData CmdData.startupBlock CmdData.startupBlkInfo)).scratch.block
        (block P s') := by
  generalize hr : scanPages P (block P s) s.tables
    (Scratch.ofCmdData s.cmdData CmdData.startupBlock CmdData.startupBlkInfo) = r at h ⊢
  generalize hs₀ : ({ s with
      tables := r.tables
      cmdData := r.scratch.toCmdData s.cmdData CmdData.startupBlock CmdData.startupBlkInfo } : Dev) =
    s₀
  have hidle₀ : s₀.flashState = .idle := by
    rw [← hs₀]
    exact hidle
  have hblock : block P s₀ = block P s := by
    refine block_congr ?_
    rw [← hs₀]
  have hscan : db2StartupScan P CmdData.startupBlock CmdData.startupBlkInfo s = (false,
      flashWritePage (idBlk i) (some ⟨.cmdData, CmdData.startupBlock⟩) BLK_SIZE s₀) := by
    unfold db2StartupScan
    simp only [hr, h]
    rw [if_pos (dataBlock_ne_invalid hi), hs₀]
  have hbusy : (flashWritePage (idBlk i) (some ⟨.cmdData, CmdData.startupBlock⟩) BLK_SIZE
      s₀).flashState ≠ .idle := by
    unfold flashWritePage
    rw [if_pos hidle₀]
    exact nofun
  refine ⟨pageWritten (flashWritePage (idBlk i)
    (some ⟨.cmdData, CmdData.startupBlock⟩) BLK_SIZE s₀),
    ?_, flashState_pageWritten _, ?_⟩
  · intro n
    conv_lhs => unfold recover
    rw [hscan]
    exact if_neg hbusy
  · have hw := wrote_pageWritten P i CmdData.startupBlock hidle₀
    rw [hblock] at hw
    intro k hk a ha
    rw [hw k hk a ha]
    split
    · -- the block info lies behind the page
      rw [Mem.window_apply, ← hs₀]
      unfold Scratch.toCmdData
      simp only
      rw [Mem.write_apply_of_notMem]
      · exact congrFun (Mem.window_setWindow _ _ _) a
      · left
        unfold CmdData.startupBlock CmdData.startupBlkInfo
        rw [Nat.zero_add]
        exact ha
    · rfl

/-- STARTUP goes on with the next scan when the driver has carried out the write of one. -/
theorem startupCmdIter_next (hcmd : s.activeCmd = some .startup) (hst : s.deviceState = .loggedOut)
    (hver : s.headerVersion = 2) (hdb : s.rootPage RootPage.dbVersion = 2)
    (hidle : s.flashState = .idle) {s₁ : Dev}
    (hscan : db2StartupScan P CmdData.startupBlock CmdData.startupBlkInfo
      { s with dbVersion := 2 } = (false, s₁)) (hbusy : s₁.flashState ≠ .idle) :
    (flashIdle P none)^[8] (flashHandler P true (startupCmdIter P s)) =
      startupCmdIter P (pageWritten s₁) := by
  have hiter : startupCmdIter P s = s₁ := by
    unfold startupCmdIter
    simp only [hst]
    rw [if_neg (by decide), if_pos hver, hdb, if_pos rfl, hscan]
    rfl
  -- the scan has asked for one page write
  have hasked : s₁.toControl = s.toControl ∧ s₁.flashState = .erasing ∧
      s₁.flashWriteData.isSome ∧ s₁.flashWriteCount = 256 := by
    unfold db2StartupScan at hscan
    simp only at hscan
    split at hscan
    · cases hscan
    · obtain ⟨-, rfl⟩ := Prod.mk.inj hscan
      split
      · unfold flashWritePage
        rw [if_pos hidle]
        exact ⟨rfl, rfl, rfl, rfl⟩
      · rename_i hinv
        rw [if_neg hinv] at hbusy
        exact absurd hidle hbusy
  obtain ⟨hcontrol, hera, hdata, hcount⟩ := hasked
  rw [hiter, driver_pageWritten P 7 hera hdata (by omega) (by omega)]
  have hcontrol' : (pageWritten s₁).toControl = s.toControl := by
    rw [pageWritten_frame]
    exact hcontrol
  have hst' : (pageWritten s₁).deviceState = .loggedOut :=
    (congrArg Control.deviceState hcontrol').trans hst
  have hcmd' : (pageWritten s₁).activeCmd = some .startup :=
    (congrArg Control.activeCmd hcontrol').trans hcmd
  have hstay : stateWriteComplete P (pageWritten s₁) = pageWritten s₁ := by
    unfold stateWriteComplete
    rw [hst']
  unfold flashWriteComplete
  rw [hstay]
  unfold commandWriteComplete
  rw [hcmd']

/-- The records that the tables find in the pages. -/
def storedRecs (s : Dev) : Nat → List Rec := liveRecs (block P s) s.tables.blockInfoTbl

/-- A store in order needs no repair. -/
theorem recover_ok (hok : DbOk P (block P s) t) (n : Nat) :
    ∃ s', recover P (n + 1) s = some s' ∧ DbOk P (block P s') s'.tables ∧
      storedRecs P s' = liveRecs (block P s) t.blockInfoTbl := by
  obtain ⟨hnone, hscan⟩ := dbOk_scan P (hok.consistent P) s.tables
    (Scratch.ofCmdData s.cmdData CmdData.startupBlock CmdData.startupBlkInfo)
  obtain ⟨s', hrec, hflash, htables⟩ := recover_done P hnone n
  have hblock : block P s' = block P s := block_congr hflash
  rw [← htables] at hscan
  refine ⟨s', hrec, hblock.symm ▸ hscan, ?_⟩
  unfold storedRecs
  rw [hblock, ← liveRecs_scanInfos P hscan.block t.blockInfoTbl,
    ← liveRecs_scanInfos P hok.block t.blockInfoTbl]

/-- **A record that is there twice is found once after some scans**, and it is the new
    one. -/
theorem recover_doubled (hmin : MIN_UID ≤ uid) (hmax : uid ≤ MAX_UID)
    (hidle : s.flashState = .idle) (hd : Doubled P uid b₀ b old new (block P s) t) :
    ∃ n s', recover P n s = some s' ∧ DbOk P (block P s') s'.tables ∧
      Holds recUid (storedRecs P s') uid b new ∧
      OthersKept uid (liveRecs (block P s) t.blockInfoTbl) (storedRecs P s') := by
  -- every scan drops an entry of the uid
  induction hk : entries uid (liveRecs (block P s) t.blockInfoTbl b) using Nat.strong_induction_on
    generalizing s t with
  | _ k ih =>
    obtain ⟨i, hi, hrep, hpass⟩ := hd.pass hmin hmax s.tables
      (Scratch.ofCmdData s.cmdData CmdData.startupBlock CmdData.startupBlkInfo)
    obtain ⟨s₁, hnext, hidle₁, hw⟩ := recover_repair P hidle hi hrep
    obtain ⟨t', hkept, hsettled | ⟨hdoubled, hless⟩⟩ := hpass _ hw
    · obtain ⟨s', hrec, hok, hrecs⟩ := recover_ok P hsettled.ok 0
      refine ⟨2, s', (hnext 1).trans hrec, hok, ?_, ?_⟩
      · rw [hrecs]
        exact hsettled.holds
      · rw [hrecs]
        exact hkept
    · obtain ⟨n, s', hrec, hok, hholds, hkept'⟩ := ih _ (hk ▸ hless) hidle₁ hdoubled rfl
      exact ⟨n + 1, s', (hnext n).trans hrec, hok, hholds, hkept.trans hkept'⟩

/-! ### Updates that are cut off -/

/-- The flash that power loss leaves behind an update: the flag says whether the write of
    the new record was completed. -/
inductive UpdateImage (cmd : Command) (data : Mem) (dataLen : Int) (s : Dev) : Bool → Mem → Prop
  | before : UpdateImage cmd data dataLen s false s.flash
  | first : UpdateTaken P cmd data dataLen s →
      UpdateImage cmd data dataLen s true (pageWritten (firstWrite P cmd data dataLen s)).flash
  | second : UpdateTaken P cmd data dataLen s →
      (updateUidCmdWriteFinished P (pageWritten (firstWrite P cmd data dataLen s))).flashState ≠
        .idle →
      UpdateImage cmd data dataLen s true (pageWritten (updateUidCmdWriteFinished P
        (pageWritten (firstWrite P cmd data dataLen s)))).flash

/-- The device `s'` has recovered from an update of `s`. -/
structure Recovered (s : Dev) (d : NewData) (wrote : Bool) (s' : Dev) : Prop where
  ok : DbOk P (block P s') s'.tables
  consistent : Consistent P (block P s')
  others : OthersKept d.uid (storedRecs P s) (storedRecs P s')
  record : NewStored P d (storedRecs P s') ∨
    wrote = false ∧ SameRecords recUid d.uid (storedRecs P s) (storedRecs P s')

variable {P}

/-- A store that is in order is recovered at once. -/
theorem recovered_ok {s₀ : Dev} {d : NewData} {wrote : Bool} (hok : DbOk P (block P s) t)
    (hothers : OthersKept d.uid (storedRecs P s₀) (liveRecs (block P s) t.blockInfoTbl))
    (hrec : NewStored P d (liveRecs (block P s) t.blockInfoTbl) ∨ wrote = false ∧
      SameRecords recUid d.uid (storedRecs P s₀) (liveRecs (block P s) t.blockInfoTbl)) :
    ∃ n s', recover P n s = some s' ∧ Recovered P s₀ d wrote s' := by
  obtain ⟨s', hrun, hok', hrecs⟩ := recover_ok P hok 0
  refine ⟨1, s', hrun, hok', hok'.consistent P, ?_, ?_⟩
  · rw [hrecs]
    exact hothers
  · rw [hrecs]
    exact hrec

/-- **Recovery after power loss.**  From every flash that an update leaves when power is
    lost, startup scans lead to a store in order, in which the other records are what they
    were and the updated one is the old or the new one, and the new one if its write was
    completed. -/
theorem update_recovered (hP : AesInverse P) {cmd : Command} {data : Mem} {dataLen : Int}
    {wrote : Bool} {flash : Mem} (hidle : s.flashState = .idle)
    (hok : DbOk P (block P s) s.tables)
    (hff : FindsFirst (block P s) s.tables (data.get16 0))
    (himage : UpdateImage P cmd data dataLen s wrote flash)
    (hflash : s'.flash = flash) (hidle' : s'.flashState = .idle) :
    ∃ n s₁, recover P n s' = some s₁ ∧ Recovered P s (updateData s data) wrote s₁ := by
  have hsame : ∀ s₁ : Dev, s'.flash = s₁.flash → block P s' = block P s₁ := fun s₁ h => block_congr h
  cases himage with
  | before =>
    have hblock := hsame s hflash
    refine recovered_ok (t := s.tables) (hblock.symm ▸ hok) ?_ (.inr ⟨rfl, ?_⟩)
    · rw [hblock]
      exact .refl _ _
    · rw [hblock]
      exact .refl _ _ _
  | first ht =>
    have hd := ht.1.ok s
    obtain ⟨b, prev, sc, hfw⟩ := firstWritten hP hok hidle ht
    have hblock := hsame _ hflash
    obtain ⟨hothers, ⟨-, hok', hnew⟩ | ⟨hsz, hinv, old, new, rev, hr, hdoubled⟩⟩ :=
      hfw.plan.firstWritten hd hok hff hfw.wrote
    · rw [← hblock] at hothers hok' hnew
      exact recovered_ok hok' hothers (.inl hnew)
    · rw [← hblock] at hothers hdoubled
      obtain ⟨n, s₁, hrun, hok₁, hholds, hkept⟩ :=
        recover_doubled P hd.min hd.max hidle' hdoubled
      refine ⟨n, s₁, hrun, hok₁, hok₁.consistent P, hothers.trans hkept, .inl ?_⟩
      unfold NewStored
      rw [if_neg hsz]
      exact ⟨b, new, rev, hholds, hr⟩
  | second ht hbusy =>
    have hd := ht.1.ok s
    obtain ⟨b, prev, sc, hfw⟩ := firstWritten hP hok hidle ht
    have hblock := hsame _ hflash
    by_cases hstay : ¬ (prev ≠ b ∧ prev ≠ INVALID_BLOCK)
    · exact absurd (hfw.stays hstay) hbusy
    · obtain ⟨hne, hinv⟩ := not_not.mp hstay
      obtain ⟨hothers, ⟨hnot, -, -⟩ | ⟨hsz, -, old, new, rev, hr, hdoubled⟩⟩ :=
        hfw.plan.firstWritten hd hok hff hfw.wrote
      · exact absurd ⟨hne, hinv⟩ hnot
      · obtain ⟨info, hsw⟩ := hfw.secondWritten hd.min hd.max hne hinv hdoubled
        have hok' := hsw.settled.ok
        have hholds := hsw.settled.holds
        have hkept := hothers.trans hsw.others
        rw [← hblock] at hok' hholds hkept
        refine recovered_ok hok' hkept (.inl ?_)
        unfold NewStored
        rw [if_neg hsz]
        exact ⟨b, new, rev, hholds, hr⟩

/-! ### An entry that is no first one -/

/-- All records of the store are in block `b`, and they all have the uid. -/
structure OnlyIn (P : Platform) (uid b : Nat) (rs : List Rec) (pages : Nat → Mem) (t : Tables) :
    Prop where
  but : DbOkBut P uid pages t
  mem : b ∈ dataBlocks
  recs : ∀ i, liveRecs pages t.blockInfoTbl i = if i = b then rs else []
  uid : ∀ r ∈ rs, r.ent.uid = uid

variable {pages pages' : Nat → Mem} {rs : List Rec}

/-- Then `find_uid` finds the first entry of the block. -/
theorem OnlyIn.first {k : Nat} (h : OnlyIn P uid b rs pages t)
    (hk : FirstOf pages t.blockInfoTbl uid b k) : k = 0 := by
  by_contra hne
  have hlt : 0 < k := Nat.pos_of_ne_zero hne
  refine hk.before 0 (Nat.lt_trans hlt hk.lt) hlt (h.uid _ ?_)
  have hrecs := h.recs b
  rw [if_pos rfl] at hrecs
  rw [← hrecs]
  exact List.getElem_mem _

/-- The records of the block after one of them is replaced by the page's. -/
theorem OnlyIn.wrote (h : OnlyIn P uid b rs pages t) {page : Mem} {info : BlockInfo}
    {rs' : List Rec} (hl : Leaves P page info rs') (huid : ∀ r ∈ rs', r.ent.uid = uid)
    (hw : Wrote pages b page pages') : OnlyIn P uid b rs' pages' (t.setInfo b info) := by
  have hrecs := h.recs b
  rw [if_pos rfl] at hrecs
  -- no other uid has a record in the block
  have hnone : ∀ (l : List Rec), (∀ r ∈ l, r.ent.uid = uid) → ∀ u, u ≠ uid → MIN_UID ≤ u →
      withKey recUid u l = [] := by
    intro l hl u hu hmin
    refine List.filter_eq_nil_iff.mpr fun r hr => ?_
    rw [decide_eq_true_eq]
    intro heq
    unfold recUid at heq
    rw [hl r hr] at heq
    split at heq
    · exact hu heq.symm
    · rw [← heq] at hmin
      exact absurd hmin (by decide)
  obtain ⟨hbut, hlive, -⟩ := h.but.wrote P hw h.mem hl.block hl.recs fun u hu hmin => by
    rw [hrecs, hnone rs h.uid u hu hmin, hnone rs' huid u hu hmin]
  refine ⟨hbut, h.mem, fun i => ?_, huid⟩
  rw [hlive]
  by_cases hi : i = b
  · rw [hi, Function.update_self, if_pos rfl]
  · rw [Function.update_of_ne hi, h.recs i, if_neg hi, if_neg hi]

/-- The scan drops the first entry of the block, be it a first one or not, when the uid has
    two first entries. -/
theorem OnlyIn.pass (h : OnlyIn P uid b rs pages t) (hmin : MIN_UID ≤ uid) (hmax : uid ≤ MAX_UID)
    (j₁ j₂ : Nat) (hlt : j₁ < j₂) (h₂ : j₂ < rs.length)
    (hfirst : ∀ (j : Nat) (hj : j < rs.length), recUid rs[j] = uid ↔ j = j₁ ∨ j = j₂)
    (before : Tables) (scratch : Scratch) :
    (scanPages P pages before scratch).repair = some b ∧
      ∀ pages', Wrote pages b (scanPages P pages before scratch).scratch.block pages' →
        ∃ t', OnlyIn P uid b (swapRemove rs 0) pages' t' := by
  have hrecs := h.recs b
  rw [if_pos rfl] at hrecs
  have hlive : live (t.blockInfoTbl b) := by
    by_contra hnl
    have hnil : liveRecs pages t.blockInfoTbl b = [] := if_neg fun hl => hnl hl.2
    rw [← hrecs, hnil] at h₂
    cases h₂
  have hmap : liveRecs pages t.blockInfoTbl b = _ := liveRecs_of_live h.mem hlive
  rw [hrecs] at hmap
  have hlen : rs.length = (t.blockInfoTbl b).partOccupancy := by
    rw [hmap, List.length_map, List.length_range]
  have hget : ∀ (j : Nat) (hj : j < rs.length), rs[j] = recAt (pages b) (t.blockInfoTbl b) j := by
    intro j hj
    simp only [hmap, List.getElem_map, List.getElem_range]
  have hcopy : ∀ (j : Nat) (hj : j < rs.length), j = j₁ ∨ j = j₂ →
      CopyAt pages t.blockInfoTbl uid rs[j] b j :=
    fun j hj hjj => ⟨h.mem, hlive, hlen ▸ hj, (hget j hj).symm, (hfirst j hj).mpr hjj⟩
  have honly : ∀ i k r, CopyAt pages t.blockInfoTbl uid r i k →
      i = b ∧ k = j₁ ∨ i = b ∧ k = j₂ := by
    intro i k r hr
    have hmem : r ∈ liveRecs pages t.blockInfoTbl i :=
      mem_liveRecs.mpr ⟨hr.mem, hr.live, k, hr.lt, hr.eq⟩
    rw [h.recs i] at hmem
    split at hmem
    · rename_i hi
      subst hi
      have hk : k < rs.length := hlen ▸ hr.lt
      have hkey := hr.key
      rw [← hr.eq, ← hget k hk] at hkey
      exact ((hfirst k hk).mp hkey).imp (⟨rfl, ·⟩) (⟨rfl, ·⟩)
    · cases hmem
  have hc := secondCopy_of_copies h.but hmin hmax (hcopy j₁ (Nat.lt_trans hlt h₂) (.inl rfl))
    (hcopy j₂ h₂ (.inr rfl)) (.inr ⟨rfl, hlt⟩) honly before.blockInfoTbl
  obtain ⟨i, k, k₁, hk, -, hi, hrep, info, hleaves⟩ := scanPages_drops h.but.block hc scratch
  have hib : i = b := hi.trans (ite_self b)
  subst hib
  obtain rfl := h.first hk
  rw [hrecs] at hleaves
  refine ⟨hrep, fun pages' hw => ⟨_, h.wrote hleaves (fun r hr => h.uid r ?_) hw⟩⟩
  have hmem := (perm_swapRemove (l := rs) (i := 0) (by omega)).subset (List.mem_cons_of_mem _ hr)
  exact hmem

/-- A cipher that leaves its input, and a checksum unit that leaves its register. -/
def plainPlatform : Platform where
  aes256Encrypt := fun _ blk => blk
  aes256Decrypt := fun _ blk => blk
  crcReset := 0
  crcStep := fun dr _ => dr
  memAt := fun _ => 0
  beforeRootPage := fun _ => 0

theorem aesInverse_plainPlatform : AesInverse plainPlatform :=
  fun _ => ⟨fun _ hb => hb, fun _ _ => rfl⟩

/-- A page with the entries in partitions of one sub-block. -/
def entriesPage (es : List UidEnt) : Mem :=
  sealed plainPlatform ((Mem.put16 (Mem.put16 (fun _ => 0) 4 1) 6 es.length).write 8
    (es.flatMap UidEnt.toBytes))

/-- A chip with that page in block 1 and all else erased. -/
def entriesFlash (es : List UidEnt) : Mem := fun a =>
  if idBlk 1 ≤ a ∧ a < idBlk 1 + BLK_SIZE then entriesPage es (a - idBlk 1) else 0xff

/-- The tables that the startup scan finds there. -/
def entriesTables (es : List UidEnt) : Tables :=
  (scanPages plainPlatform (block plainPlatform (powerOn plainPlatform (entriesFlash es)))
    (powerOn plainPlatform (entriesFlash es)).tables
    (Scratch.ofCmdData (fun _ => 0) CmdData.startupBlock CmdData.startupBlkInfo)).tables

/-- The device after that scan. -/
def entriesDev (es : List UidEnt) : Dev :=
  { powerOn plainPlatform (entriesFlash es) with
    deviceState := .loggedIn
    tables := entriesTables es }

/-- The page holds the entries. -/
structure HoldsEntries (es : List UidEnt) : Prop where
  fits : es.length ≤ 92
  partSize : headerPartSize (entriesPage es) = 1
  occupancy : headerOccupancy (entriesPage es) = es.length
  entries : (List.range es.length).map (uidTbl (entriesPage es)) = es

/-- No two counted entries have the same uid. -/
def OneFirst (es : List UidEnt) : Prop :=
  ∀ j, ∀ hj : j < es.length, ∀ j', ∀ hj' : j' < es.length, counted es[j] → counted es[j'] →
    es[j].uid = es[j'].uid → j = j'

instance (es : List UidEnt) : Decidable (OneFirst es) := inferInstanceAs (Decidable (∀ _, _))

section Entries

variable {es : List UidEnt} {j k : Nat}

theorem block_entries {i a : Nat} (hi : i ∈ dataBlocks) (ha : a < BLK_SIZE) :
    block plainPlatform (entriesDev es) i a = if i = 1 then entriesPage es a else 0xff := by
  have hlt := (dataBlock_bounds hi).2
  rw [block_apply hlt ha]
  have hflash : (entriesDev es).flash = entriesFlash es := rfl
  rw [hflash]
  unfold entriesFlash
  by_cases h : i = 1
  · subst h
    rw [if_pos (by omega), if_pos rfl, Nat.add_sub_cancel_left]
  · rw [if_neg h, if_neg]
    unfold idBlk
    simp only [BLK_SIZE] at ha ⊢
    omega

theorem crcCheck_entries_only {i : Nat} (hi : i ∈ dataBlocks)
    (h : blockCrcCheck plainPlatform (block plainPlatform (entriesDev es) i) = true) : i = 1 := by
  by_contra hne
  refine crcCheck_partSize _ h ?_
  have hbyte : ∀ a < BLK_SIZE, block plainPlatform (entriesDev es) i a = 0xff := by
    intro a ha
    rw [block_entries hi ha, if_neg hne]
  unfold headerPartSize Mem.get16
  rw [hbyte 4 (by decide), hbyte 5 (by decide)]
  rfl

theorem block_entries_one : ∀ a < BLK_SIZE,
    block plainPlatform (entriesDev es) 1 a = entriesPage es a := by
  intro a ha
  rw [block_entries (by decide) ha, if_pos rfl]

theorem HoldsEntries.crcCheck (h : HoldsEntries es) :
    blockCrcCheck plainPlatform (block plainPlatform (entriesDev es) 1) = true := by
  rw [blockCrcCheck_congr plainPlatform block_entries_one]
  refine blockCrcCheck_sealed plainPlatform ?_
  have hsize := h.partSize
  unfold entriesPage sealed at hsize
  rw [headerPartSize_setHeaderCrc] at hsize
  rw [hsize]
  decide

theorem HoldsEntries.blockPartSize (h : HoldsEntries es) :
    headerPartSize (block plainPlatform (entriesDev es) 1) = 1 := by
  rw [← h.partSize]
  exact Mem.get16_congr fun i hi => block_entries_one _ (by simp only [BLK_SIZE]; omega)

theorem HoldsEntries.blockOccupancy (h : HoldsEntries es) :
    headerOccupancy (block plainPlatform (entriesDev es) 1) = es.length := by
  rw [← h.occupancy]
  exact Mem.get16_congr fun i hi => block_entries_one _ (by simp only [BLK_SIZE]; omega)

theorem HoldsEntries.ent (h : HoldsEntries es) (hj : j < es.length) :
    uidTbl (block plainPlatform (entriesDev es) 1) j = es[j] := by
  have hfits := h.fits
  have hget := congrArg (fun l => l[j]?) h.entries
  have hpage : uidTbl (entriesPage es) j = es[j] := by simpa [hj] using hget
  rw [← hpage]
  refine UidEnt.get_congr fun i hi => block_entries_one _ ?_
  simp only [uidTblOff, blockHeaderSize, uidEntSize, BLK_SIZE]
  omega

theorem HoldsEntries.consistent (h : HoldsEntries es) (hone : OneFirst es) :
    Consistent plainPlatform (block plainPlatform (entriesDev es)) := by
  refine ⟨?_, ?_, ?_⟩
  · intro i hi hcrc
    obtain rfl := crcCheck_entries_only hi hcrc
    rw [h.blockPartSize]
    decide
  · intro i hi hcrc
    obtain rfl := crcCheck_entries_only hi hcrc
    rw [h.blockOccupancy, h.blockPartSize]
    exact h.fits
  · intro i hi i' hi' hcrc hcrc' j hj j' hj' hc hc' huid
    obtain rfl := crcCheck_entries_only hi hcrc
    obtain rfl := crcCheck_entries_only hi' hcrc'
    rw [h.blockOccupancy] at hj hj'
    rw [h.ent hj] at hc huid
    rw [h.ent hj'] at hc' huid
    exact ⟨rfl, hone j hj j' hj' hc hc' huid⟩

theorem HoldsEntries.dbOk (h : HoldsEntries es) (hone : OneFirst es) :
    DbOk plainPlatform (block plainPlatform (entriesDev es)) (entriesDev es).tables := by
  have hc := h.consistent hone
  have hblock : block plainPlatform (entriesDev es) =
      block plainPlatform (powerOn plainPlatform (entriesFlash es)) := rfl
  have htables : (entriesDev es).tables = entriesTables es := by simp only [entriesDev]
  rw [hblock] at hc ⊢
  rw [htables]
  unfold entriesTables
  exact (dbOk_scan plainPlatform hc _ _).2

/-- The block info of the entries. -/
theorem HoldsEntries.info (h : HoldsEntries es)
    (hok : DbOk plainPlatform (block plainPlatform (entriesDev es)) (entriesDev es).tables) :
    (entriesDev es).tables.blockInfoTbl 1 = ⟨1, 1, 92, es.length, 1, 35⟩ := by
  have hone := hok.block 1 (by decide)
  have hl : live ((entriesDev es).tables.blockInfoTbl 1) := by
    rw [← hone.live_iff plainPlatform ⟨0, 0, 0, 0, 0, 0⟩, live_scanInfo]
    exact h.crcCheck
  rw [← hone.scanInfo_of_live plainPlatform hl ⟨0, 0, 0, 0, 0, 0⟩,
    scanInfo_of_crcCheck plainPlatform h.crcCheck, h.blockPartSize,
    h.blockOccupancy,
    Nat.mod_eq_of_lt (Nat.lt_of_le_of_lt h.fits (by decide))]
  rfl

/-- `find_uid` finds the first entry of a uid that has a counted one. -/
theorem HoldsEntries.found (h : HoldsEntries es)
    (hok : DbOk plainPlatform (block plainPlatform (entriesDev es)) (entriesDev es).tables)
    (hj : j < es.length) (hc : counted es[j]) (hk : k < es.length) (huid : es[k].uid = es[j].uid)
    (hbefore : ∀ i, ∀ hi : i < k, es[i].uid ≠ es[j].uid) :
    findUid (block plainPlatform (entriesDev es)) (entriesDev es).tables es[j].uid =
      (1, some k) := by
  have hinfo := h.info hok
  have hl : live ((entriesDev es).tables.blockInfoTbl 1) := by
    rw [hinfo]
    exact ⟨Nat.one_ne_zero, Nat.one_ne_zero⟩
  have hocc : ((entriesDev es).tables.blockInfoTbl 1).partOccupancy = es.length := by rw [hinfo]
  have hmap : (entriesDev es).tables.uidMap es[j].uid = 1 := by
    rw [← h.ent hj] at hc ⊢
    exact (hok.ent_placed plainPlatform (by decide) hl (by rw [hocc]; exact hj) hc).1
  unfold findUid
  simp only [hmap, hocc]
  rw [if_neg (by decide), Prod.mk.injEq, and_iff_right rfl, List.find?_range_eq_some]
  refine ⟨?_, List.mem_range.mpr hk, ?_⟩
  · rw [h.ent hk]
    exact decide_eq_true huid
  · intro i hi
    rw [h.ent (hi.trans hk)]
    simpa using hbefore i hi

end Entries

/-- Three records of uid 1, of which only the second is a first one. -/
def threeEntries : List UidEnt := [⟨1, 0, 0, 0, 14, 0⟩, ⟨1, 0, 1, 0, 14, 0⟩, ⟨1, 0, 0, 0, 14, 0⟩]

/-- The device that holds them. -/
abbrev threeEntriesDev : Dev := entriesDev threeEntries

/-- The data of an UPDATE_UID packet that gives uid 1 ten bytes. -/
def tenBytes : Mem := Mem.put16 (Mem.put16 (fun _ => 0) 0 1) 2 10

theorem tenBytes_uid : tenBytes.get16 0 = 1 := rfl

theorem tenBytes_sz : tenBytes.get16 2 = 10 := rfl

theorem holds_threeEntries : HoldsEntries threeEntries :=
  ⟨by decide, by decide, by decide, by decide⟩

theorem oneFirst_threeEntries : OneFirst threeEntries := by decide

theorem dbOk_threeEntries :
    DbOk plainPlatform (block plainPlatform threeEntriesDev) threeEntriesDev.tables :=
  holds_threeEntries.dbOk oneFirst_threeEntries

theorem info_threeEntries : threeEntriesDev.tables.blockInfoTbl 1 = ⟨1, 1, 92, 3, 1, 35⟩ := by
  unfold threeEntriesDev
  exact holds_threeEntries.info dbOk_threeEntries

theorem uidTbl_threeEntries {j : Nat} (hj : j < 3) :
    uidTbl (block plainPlatform threeEntriesDev 1) j =
      ⟨1, 0, if j = 1 then 1 else 0, 0, 14, 0⟩ := by
  refine (holds_threeEntries.ent hj).trans ?_
  match j, hj with
  | 0, _ => rfl
  | 1, _ => rfl
  | 2, _ => rfl

/-- The three records. -/
def threeRecs : List Rec :=
  (List.range 3).map (recAt (block plainPlatform threeEntriesDev 1) ⟨1, 1, 92, 3, 1, 35⟩)

theorem onlyIn_threeEntries : OnlyIn plainPlatform 1 1 threeRecs
    (block plainPlatform threeEntriesDev) threeEntriesDev.tables := by
  have hok := dbOk_threeEntries
  have hone : (1 : Nat) ∈ dataBlocks := by decide
  refine ⟨hok.but plainPlatform 1, hone, fun i => ?_, ?_⟩
  · split
    · rename_i hi
      subst hi
      have hl : live (threeEntriesDev.tables.blockInfoTbl 1) := by
        rw [info_threeEntries]
        decide
      rw [liveRecs_of_live hone hl, info_threeEntries]
      rfl
    · rename_i hi
      refine if_neg fun h => hi ?_
      have hcrc : blockCrcCheck plainPlatform (block plainPlatform threeEntriesDev i) = true := by
        rw [← live_scanInfo plainPlatform _ ⟨0, 0, 0, 0, 0, 0⟩, (hok.block i h.1).live_iff]
        exact h.2
      exact crcCheck_entries_only h.1 hcrc
  · intro r hr
    obtain ⟨j, hj, rfl⟩ := List.mem_map.mp hr
    exact congrArg UidEnt.uid (uidTbl_threeEntries (List.mem_range.mp hj))

theorem found_threeEntries :
    findUid (block plainPlatform threeEntriesDev) threeEntriesDev.tables 1 = (1, some 0) :=
  holds_threeEntries.found dbOk_threeEntries (j := 1) (k := 0) (by decide) (by decide) (by decide)
    rfl (by simp)

theorem taken_threeEntries :
    UpdateTaken plainPlatform .updateUid tenBytes 20 threeEntriesDev := by
  have hchecked : UpdateChecked tenBytes 20 := by
    unfold UpdateChecked
    rw [tenBytes_uid, tenBytes_sz]
    decide
  have htarget : targetPartSize 10 = 1 := by decide
  have hres : ∀ data iv sc, ∃ t, updateUid plainPlatform (block plainPlatform threeEntriesDev)
      threeEntriesDev.tables threeEntriesDev.encryptKey (tenBytes.get16 0) data (tenBytes.get16 2)
        iv sc = (1, some 1, t) := by
    intro data iv sc
    unfold updateUid
    rw [tenBytes_uid, tenBytes_sz, if_neg (by decide), found_threeEntries]
    simp only [htarget, info_threeEntries]
    exact ⟨_, rfl⟩
  obtain ⟨t, ht⟩ := hres _ _ _
  exact updateTaken_of_eq hchecked ht (by decide)

/-- After the write of the new record it lies behind the old one, and an entry that is no
    first one in front of it. -/
theorem onlyIn_written : ∃ new t', recUid new = 1 ∧ new.ent.uid = 1 ∧
    OnlyIn plainPlatform 1 1 (swapRemove threeRecs 0 ++ [new]) (block plainPlatform
      (pageWritten (firstWrite plainPlatform .updateUid tenBytes 20 threeEntriesDev))) t' := by
  obtain ⟨b, prev, sc, hfw⟩ := firstWritten aesInverse_plainPlatform dbOk_threeEntries rfl
    taken_threeEntries
  have huid : (updateData threeEntriesDev tenBytes).uid = 1 := tenBytes_uid
  have hsz : (updateData threeEntriesDev tenBytes).sz = 10 := tenBytes_sz
  have hfound : findUid (block plainPlatform threeEntriesDev) threeEntriesDev.tables
      (updateData threeEntriesDev tenBytes).uid = (1, some 0) := by
    rw [huid]
    exact found_threeEntries
  cases hfw.plan with
  | delete h => exact absurd (hsz.symm.trans h) (by decide)
  | insert _ h => rw [hfound] at h; cases h
  | @replace j r s _ hfind hb hr hl =>
    rw [hfound] at hfind
    cases hfind
    have hrecs := onlyIn_threeEntries.recs 1
    rw [if_pos rfl] at hrecs
    rw [hrecs] at hl
    refine ⟨r, _, ?_, ?_, onlyIn_threeEntries.wrote hl ?_ hfw.wrote⟩
    · rw [hr.recUid, huid]
    · rw [hr.uid, huid]
    · intro r' hr'
      rcases List.mem_append.mp hr' with h | h
      · exact onlyIn_threeEntries.uid r' ((perm_swapRemove (l := threeRecs) (i := 0)
          (by decide)).subset (List.mem_cons_of_mem _ h))
      · rw [List.mem_singleton.mp h, hr.uid, huid]
  | move _ hfind _ hsize =>
    rw [hfound] at hfind
    cases hfind
    rw [info_threeEntries, hsz] at hsize
    exact absurd rfl hsize

/-- The three records, each with its size and whether it is a first one. -/
theorem threeRecs_ents :
    threeRecs.map (fun r => (recUid r, r.ent.sz)) = [(0, 14), (1, 14), (0, 14)] := by
  unfold threeRecs
  rw [List.map_map, List.map_congr_left (g := fun j => (if j = 1 then 1 else 0, 14))]
  · rfl
  · intro j hj
    have hent := uidTbl_threeEntries (List.mem_range.mp hj)
    by_cases h : j = 1
    · rw [if_pos h] at hent
      simp only [Function.comp_apply, recAt, recUid, hent, if_pos h]
      rfl
    · rw [if_neg h] at hent
      simp only [Function.comp_apply, recAt, recUid, hent, if_neg h]
      rfl

/-- **The new record is lost** although its write was completed: the scans drop the entry
    that is no first one, then the new record, and keep the old one. -/
theorem written_record_lost :
    Consistent plainPlatform (block plainPlatform threeEntriesDev) ∧
      DbOk plainPlatform (block plainPlatform threeEntriesDev) threeEntriesDev.tables ∧
      ∃ flash, UpdateImage plainPlatform .updateUid tenBytes 20 threeEntriesDev true flash ∧
        ∀ s' : Dev, s'.flash = flash → s'.flashState = .idle →
          ∃ s₁, recover plainPlatform 3 s' = some s₁ ∧
            ¬ NewStored plainPlatform (updateData threeEntriesDev tenBytes)
              (storedRecs plainPlatform s₁) := by
  refine ⟨dbOk_threeEntries.consistent plainPlatform, dbOk_threeEntries, _,
    .first taken_threeEntries, ?_⟩
  intro s' hflash hidle
  obtain ⟨x, y, z, hrecs⟩ : ∃ x y z, threeRecs = [x, y, z] := ⟨_, _, _, rfl⟩
  have hents := threeRecs_ents
  rw [hrecs] at hents
  simp only [List.map_cons, List.map_nil, List.cons.injEq, Prod.mk.injEq] at hents
  obtain ⟨⟨hx, -⟩, ⟨hy, hysz⟩, ⟨hz, -⟩, -⟩ := hents
  obtain ⟨new, t, hnew, -, honly⟩ := onlyIn_written
  rw [hrecs, show swapRemove [x, y, z] 0 ++ [new] = [z, y, new] from rfl] at honly
  have hblock : block plainPlatform s' = block plainPlatform
      (pageWritten (firstWrite plainPlatform .updateUid tenBytes 20 threeEntriesDev)) :=
    block_congr hflash
  rw [← hblock] at honly
  -- the first pass drops the entry that is no first one
  obtain ⟨hrep, hpass⟩ := honly.pass (by decide) (by decide) 1 2 (by decide)
    (Nat.lt_succ_self 2) (by
      intro j hj
      match j, hj with
      | 0, _ => simp [hz]
      | 1, _ => simp [hy]
      | 2, _ => simp [hnew])
    s'.tables (Scratch.ofCmdData s'.cmdData CmdData.startupBlock CmdData.startupBlkInfo)
  obtain ⟨s₂, hnext, hidle₂, hw⟩ := recover_repair plainPlatform hidle honly.mem hrep
  obtain ⟨t₂, honly₂⟩ := hpass _ hw
  rw [show swapRemove [z, y, new] 0 = [new, y] from rfl] at honly₂
  -- the second pass drops the new record
  obtain ⟨hrep₂, hpass₂⟩ := honly₂.pass (by decide) (by decide) 0 1 (by decide)
    (Nat.lt_succ_self 1) (by
      intro j hj
      match j, hj with
      | 0, _ => simp [hnew]
      | 1, _ => simp [hy])
    s₂.tables (Scratch.ofCmdData s₂.cmdData CmdData.startupBlock CmdData.startupBlkInfo)
  obtain ⟨s₃, hnext₂, -, hw₂⟩ := recover_repair plainPlatform hidle₂ honly₂.mem hrep₂
  obtain ⟨t₃, honly₃⟩ := hpass₂ _ hw₂
  rw [show swapRemove [new, y] 0 = [y] from rfl] at honly₃
  have hok : DbOk plainPlatform (block plainPlatform s₃) (t₃.setUid 1 1) := by
    refine (honly₃.but.setUid plainPlatform 1).ok plainPlatform (.inr ⟨honly₃.mem, y, ?_⟩)
    intro i
    rw [show (t₃.setUid 1 1).blockInfoTbl = t₃.blockInfoTbl from rfl, honly₃.recs i,
      show (t₃.setUid 1 1).uidMap 1 = 1 from rfl]
    split
    · simp [withKey, hy]
    · rfl
  obtain ⟨s₁, hrun, -, hstored⟩ := recover_ok plainPlatform hok 0
  refine ⟨s₁, (hnext 2).trans ((hnext₂ 1).trans hrun), ?_⟩
  have hsz : (updateData threeEntriesDev tenBytes).sz = 10 := tenBytes_sz
  unfold NewStored
  rw [hsz, if_neg (by decide)]
  rintro ⟨i, r, rev, hholds, hr⟩
  have hmem := hholds.mem.1
  rw [hstored, show (t₃.setUid 1 1).blockInfoTbl = t₃.blockInfoTbl from rfl, honly₃.recs i] at hmem
  split at hmem
  · rw [List.mem_singleton.mp hmem] at hr
    have hten := hr.sz.symm.trans hysz
    rw [hsz] at hten
    cases hten
  · cases hmem

/-- Two records, each with its first entry. -/
def twoEntries : List UidEnt := [⟨1, 3, 1, 0, 14, 0⟩, ⟨2, 0, 1, 0, 14, 0⟩]

/-- The device that holds them. -/
abbrev twoEntriesDev : Dev := entriesDev twoEntries

/-- The data of an UPDATE_UID packet that gives uid 1 forty bytes. -/
def fortyBytes : Mem := Mem.put16 (Mem.put16 (fun _ => 0) 0 1) 2 40

theorem holds_twoEntries : HoldsEntries twoEntries :=
  ⟨by decide, by decide, by decide, by decide⟩

/-- The update is taken, and what its first write leaves, by evaluation. -/
theorem twoEntries_written :
    let image := pageWritten (firstWrite plainPlatform .updateUid fortyBytes 52 twoEntriesDev)
    UpdateTaken plainPlatform .updateUid fortyBytes 52 twoEntriesDev ∧
      uidTbl (block plainPlatform image 1) 0 = ⟨1, 3, 1, 0, 14, 0⟩ ∧
      uidTbl (block plainPlatform image 2) 0 = ⟨1, 0, 1, 0, 40, 0⟩ := by
  decide +kernel

/-- The new record does not fit into the partitions of block 1, so that after the first write
    the chip holds the record twice, the old one with revision 3. -/
theorem update_recovered_moved :
    let image := pageWritten (firstWrite plainPlatform .updateUid fortyBytes 52 twoEntriesDev)
    uidTbl (block plainPlatform image 1) 0 = ⟨1, 3, 1, 0, 14, 0⟩ ∧
      uidTbl (block plainPlatform image 2) 0 = ⟨1, 0, 1, 0, 40, 0⟩ ∧
      UpdateImage plainPlatform .updateUid fortyBytes 52 twoEntriesDev true image.flash ∧
      ∃ n s₁, recover plainPlatform n { twoEntriesDev with flash := image.flash } = some s₁ ∧
        Recovered plainPlatform twoEntriesDev (updateData twoEntriesDev fortyBytes) true s₁ := by
  obtain ⟨htaken, hold, hnew⟩ := twoEntries_written
  have hok := holds_twoEntries.dbOk (by decide)
  have hfound : findUid (block plainPlatform twoEntriesDev) twoEntriesDev.tables 1 = (1, some 0) :=
    holds_twoEntries.found hok (j := 0) (k := 0) (by decide) (by decide) (by decide) rfl (by simp)
  have hff : FindsFirst (block plainPlatform twoEntriesDev) twoEntriesDev.tables
      (fortyBytes.get16 0) := by
    intro b j h
    have heq := hfound.symm.trans h
    simp only [Prod.mk.injEq, Option.some.injEq] at heq
    obtain ⟨rfl, rfl⟩ := heq
    rw [holds_twoEntries.ent (by decide)]
    decide
  have himage : UpdateImage plainPlatform .updateUid fortyBytes 52 twoEntriesDev true _ :=
    .first htaken
  refine ⟨hold, hnew, himage, ?_⟩
  generalize (pageWritten (firstWrite plainPlatform .updateUid fortyBytes 52 twoEntriesDev)).flash
    = flash at himage
  exact update_recovered aesInverse_plainPlatform rfl hok hff himage rfl rfl

end SignetBase.Firmware
