/-
  SignetBase/Firmware/Commits.lean
  ================================
  **What the page writes of an update make of a store in order.**

  After the first write the store is in order again, with the new record in place of the
  old one, or it has the record twice (`Plan.firstWritten`).  The second write then drops
  the old one.
-/
import SignetBase.Firmware.Recovery
import SignetBase.Firmware.Updates

namespace SignetBase.Firmware

variable {P : Platform}

variable {pages pages' : Nat → Mem} {t : Tables} {d : NewData} {b prev : Nat} {s : Scratch}

variable (P) in
/-- The store has what the update stores: no record of the uid when its size is 0, and
    else the new one. -/
def NewStored (d : NewData) (blocks : Nat → List Rec) : Prop :=
  if d.sz = 0 then Absent recUid blocks d.uid
  else ∃ i r rev, Holds recUid blocks d.uid i r ∧ NewRec P d rev r

/-- The tables after an update whose record has not moved. -/
def committed (t : Tables) (d : NewData) (b : Nat) (info : BlockInfo) : Tables :=
  (t.setInfo b info).setUid d.uid (if d.sz = 0 then INVALID_BLOCK else b)

/-- A store in which the uid is placed anew is in order. -/
theorem DbOkBut.commit (hbut : DbOkBut P d.uid pages (t.setInfo b s.blkInfo)) (hb : b ∈ dataBlocks)
    (h : if d.sz = 0 then Absent recUid (liveRecs pages (t.setInfo b s.blkInfo).blockInfoTbl) d.uid
      else ∃ r, Holds recUid (liveRecs pages (t.setInfo b s.blkInfo).blockInfoTbl) d.uid b r) :
    DbOk P pages (committed t d b s.blkInfo) := by
  refine (hbut.setUid P _).ok P ?_
  unfold Placed
  have hmap : ((t.setInfo b s.blkInfo).setUid d.uid
      (if d.sz = 0 then INVALID_BLOCK else b)).uidMap d.uid =
        if d.sz = 0 then INVALID_BLOCK else b := by
    refine (if_pos rfl).trans ?_
    split
    · rfl
    · exact dataBlock_mod hb
  rw [hmap]
  split at h
  · rename_i hsz
    rw [if_pos hsz]
    exact .inl ⟨rfl, h⟩
  · rename_i hsz
    rw [if_neg hsz]
    exact .inr ⟨hb, h⟩

/-- The old record, where `find_uid` finds it. -/
theorem FirstOf.of_plan {j : Nat} (hp : Placed pages t d.uid) (hff : FindsFirst pages t d.uid)
    (hfind : findUid pages t d.uid = (b, some j)) :
    b ∈ dataBlocks ∧ live (t.blockInfoTbl b) ∧ FirstOf pages t.blockInfoTbl d.uid b j ∧
      ∃ hj : j < (liveRecs pages t.blockInfoTbl b).length,
        recUid (liveRecs pages t.blockInfoTbl b)[j] = d.uid ∧
        Holds recUid (liveRecs pages t.blockInfoTbl) d.uid b
          (liveRecs pages t.blockInfoTbl b)[j] := by
  obtain ⟨hmem, hl, hj, hkey, -, hholds⟩ := hp.found hff hfind
  exact ⟨hmem, hl, firstOf_findUid hmem hl rfl hfind, hj, hkey, hholds⟩

/-- **The store after the first page write**: in order with the new record, or with the
    record twice when it moves. -/
theorem Plan.firstWritten (hplan : Plan P pages t d b prev s) (hd : d.Ok) (hok : DbOk P pages t)
    (hff : FindsFirst pages t d.uid) (hw : Wrote pages b (written P s) pages') :
    OthersKept d.uid (liveRecs pages t.blockInfoTbl)
        (liveRecs pages' (t.setInfo b s.blkInfo).blockInfoTbl) ∧
      (¬ (prev ≠ b ∧ prev ≠ INVALID_BLOCK) ∧ DbOk P pages' (committed t d b s.blkInfo) ∧
          NewStored P d (liveRecs pages' (t.setInfo b s.blkInfo).blockInfoTbl) ∨
        d.sz ≠ 0 ∧ prev ≠ INVALID_BLOCK ∧ ∃ old new rev, NewRec P d rev new ∧
          Doubled P d.uid prev b old new pages' (t.setInfo b s.blkInfo)) := by
  have hp := hok.placed d.uid hd.min hd.max
  have hbut := hok.but P d.uid
  have hnot : ∀ {u : Nat}, ¬ (INVALID_BLOCK ≠ u ∧ INVALID_BLOCK ≠ INVALID_BLOCK) :=
    fun h => h.2 rfl
  cases hplan with
  | @delete j s hsz hfind hb hl =>
    obtain ⟨-, -, hfirst, hj, hkey, hholds⟩ := FirstOf.of_plan hp hff hfind
    obtain ⟨hbut', hrecs, hsame⟩ :=
      hbut.wrote P hw hb hl.block hl.recs fun u hu hu' => hfirst.other hu hu'
    have habs : Absent recUid (liveRecs pages' (t.setInfo b s.blkInfo).blockInfoTbl) d.uid := by
      rw [hrecs]
      exact hholds.remove hj hkey
    refine ⟨hsame, .inl ⟨hnot, hbut'.commit hb ?_, ?_⟩⟩
    · rw [if_pos hsz]
      exact habs
    · unfold NewStored
      rw [if_pos hsz]
      exact habs
  | @insert r s hsz hnone hb hr hl =>
    obtain ⟨-, habs⟩ := hp.notFound hd.min hd.max hnone
    obtain ⟨hbut', hrecs, hsame⟩ := hbut.wrote P hw hb hl.block hl.recs fun u hu _ => by
      rw [withKey_append_of_ne (hr.recUid.symm ▸ Ne.symm hu)]
    have hholds : Holds recUid (liveRecs pages' (t.setInfo b s.blkInfo).blockInfoTbl) d.uid b r := by
      rw [hrecs, ← hr.recUid]
      rw [← hr.recUid] at habs
      exact habs.append b
    refine ⟨hsame, .inl ⟨hnot, hbut'.commit hb ?_, ?_⟩⟩
    · rw [if_neg hsz]
      exact ⟨r, hholds⟩
    · unfold NewStored
      rw [if_neg hsz]
      exact ⟨b, r, 0, hholds, hr⟩
  | @replace j r s hsz hfind hb hr hl =>
    obtain ⟨-, -, hfirst, hj, hkey, hholds⟩ := FirstOf.of_plan hp hff hfind
    obtain ⟨hbut', hrecs, hsame⟩ := hbut.wrote P hw hb hl.block hl.recs fun u hu hu' => by
      rw [withKey_append_of_ne (hr.recUid.symm ▸ Ne.symm hu)]
      exact hfirst.other hu hu'
    have hnew : Holds recUid (liveRecs pages' (t.setInfo b s.blkInfo).blockInfoTbl) d.uid b r := by
      have habs := hholds.remove hj hkey
      rw [← hr.recUid] at habs
      have happ := habs.append b
      rw [Function.update_idem, Function.update_self] at happ
      rw [hrecs, ← hr.recUid]
      exact happ
    refine ⟨hsame, .inl ⟨fun h => h.1 rfl, hbut'.commit hb ?_, ?_⟩⟩
    · rw [if_neg hsz]
      exact ⟨r, hnew⟩
    · unfold NewStored
      rw [if_neg hsz]
      exact ⟨b, r, _, hnew, hr⟩
  | @move _ j r s hsz hfind hb hsize hr hl =>
    obtain ⟨hprev, -, hfirst, hj, hkey, hholds⟩ := FirstOf.of_plan hp hff hfind
    obtain ⟨hbut', hrecs, hsame⟩ := hbut.wrote P hw hb hl.block hl.recs fun u hu _ => by
      rw [withKey_append_of_ne (hr.recUid.symm ▸ Ne.symm hu)]
    refine ⟨hsame, .inr ⟨hsz, dataBlock_ne_invalid hprev,
      (liveRecs pages t.blockInfoTbl prev)[j], r, _, hr, hbut', hprev, hb, ?_, ?_, ?_⟩⟩
    · rw [hrecs]
      by_cases hbb : prev = b
      · subst hbb
        rw [Function.update_self, List.find?_append, hfirst.find? hj]
        rfl
      · rw [Function.update_of_ne hbb]
        exact hfirst.find? hj
    · rw [hr.rev, ← hfirst.ent]
    · intro i
      rw [hrecs]
      by_cases hib : i = b
      · subst hib
        rw [Function.update_self, if_pos rfl, ← hr.recUid, withKey_append_self, hr.recUid, hholds i]
      · rw [Function.update_of_ne hib, if_neg hib, List.append_nil]
        exact hholds i

/-! ### The writes of the device -/

variable {dev dev' : Dev} {cmd : Command} {data : Mem} {dataLen : Int}

/-- The device after the first page write of an update. -/
structure FirstWritten (P : Platform) (dev : Dev) (data : Mem) (dev' : Dev) (b prev : Nat)
    (s : Scratch) : Prop where
  plan : Plan P (block P dev) dev.tables (updateData dev data) b prev s
  wrote : Wrote (block P dev) b (written P s) (block P dev')
  staged : Staged dev'.cmdData (data.get16 0) (data.get16 2) 0 b prev ⟨written P s, s.blkInfo⟩
  tables : dev'.tables = dev.tables
  idle : dev'.flashState = .idle

theorem firstWritten (hP : AesInverse P) (hok : DbOk P (block P dev) dev.tables)
    (hidle : dev.flashState = .idle) (ht : UpdateTaken P cmd data dataLen dev) :
    ∃ b prev s, FirstWritten P dev data (pageWritten (firstWrite P cmd data dataLen dev)) b prev s := by
  obtain ⟨s₁, b, prev, s, heq, hplan, hst, hflash, htables, hstate⟩ := staged_firstWrite hP hok ht
  obtain ⟨m, hdone, hst'⟩ := pageDone_first (P := P) (hstate.trans hidle) hst
  have hblock : block P s₁ = block P dev := block_congr hflash
  refine ⟨b, prev, s, hplan, ?_, ?_, ?_, ?_⟩
  · rw [heq, ← hblock]
    exact hdone.wrote
  · rw [heq, hdone.cmdData]
    exact hst'
  · rw [heq, hdone.tables, htables]
  · exact flashState_pageWritten _

/-- The completion handler of a record that stays makes no second write. -/
theorem FirstWritten.stays {b prev : Nat} {s : Scratch} (h : FirstWritten P dev data dev' b prev s)
    (hstay : ¬ (prev ≠ b ∧ prev ≠ INVALID_BLOCK)) :
    (updateUidCmdWriteFinished P dev').flashState = .idle := by
  obtain ⟨m, heq⟩ := writeFinished_stays (P := P) h.staged hstay
  rw [heq]
  exact h.idle

/-- What the second page write of a record that has moved leaves. -/
structure SecondWritten (P : Platform) (dev dev' : Dev) (uid sz b prev : Nat) (new : Rec)
    (t : Tables) (info : BlockInfo) : Prop where
  settled : OneRecord P uid b new (block P dev') ((t.setInfo prev info).setUid uid b)
  others : OthersKept uid (liveRecs (block P dev) t.blockInfoTbl)
    (liveRecs (block P dev') (t.setInfo prev info).blockInfoTbl)
  staged : ∃ page, Staged dev'.cmdData uid sz 1 b prev ⟨page, info⟩
  tables : dev'.tables = t
  idle : dev'.flashState = .idle

/-- **The second page write drops the old record** of one that has moved. -/
theorem FirstWritten.secondWritten {b prev : Nat} {s : Scratch} {old new : Rec}
    (h : FirstWritten P dev data dev' b prev s) (hmin : MIN_UID ≤ data.get16 0)
    (hmax : data.get16 0 ≤ MAX_UID) (hne : prev ≠ b) (hinv : prev ≠ INVALID_BLOCK)
    (hd : Doubled P (data.get16 0) prev b old new (block P dev') (dev.tables.setInfo b s.blkInfo)) :
    ∃ info, SecondWritten P dev' (pageWritten (updateUidCmdWriteFinished P dev')) (data.get16 0)
      (data.get16 2) b prev new (dev.tables.setInfo b s.blkInfo) info := by
  have hmap : (dev.tables.setInfo b s.blkInfo).uidMap (data.get16 0) = prev := by
    cases h.plan with
    | delete => exact absurd rfl hinv
    | insert => exact absurd rfl hinv
    | replace => exact absurd rfl hne
    | move _ hfind => exact (findUid_some hfind).1
  obtain ⟨j₀, -, hat, -⟩ := hd.places
  obtain ⟨k, hk⟩ := findUid_of_map (block P dev') hmap hd.mem₀ hat.lt
    (hat.counted hmin hmax).2
  have hfirst := firstOf_findUid hd.mem₀ hat.live rfl hk
  obtain ⟨scratch, hfinish⟩ := writeFinished_moves (P := P) h.staged hne hinv
  rw [h.tables] at hfinish
  obtain ⟨-, hleaves⟩ := deallocateUid_leaves (hd.but.block prev hd.mem₀) hd.mem₀ hat.live hk scratch
  generalize hres : deallocateUid (block P dev') (dev.tables.setInfo b s.blkInfo) (data.get16 0)
    true scratch = res at hleaves
  have hl := hleaves _ (.inr rfl)
  obtain ⟨m, hst, heq⟩ := hfinish res hres hl.bounded
  have hdone := pageDone_flashWritePage (P := P) (i := prev)
    (s := { dev' with cmdData := m, tables := dev.tables.setInfo b s.blkInfo }) h.idle hst
  rw [← heq] at hdone
  obtain ⟨hsettled, hothers⟩ := hd.dropOld hfirst hl hdone.wrote
  refine ⟨res.2.blkInfo, hsettled, hothers, ⟨sealed P res.2.block, ?_⟩, hdone.tables, hdone.idle⟩
  rw [hdone.cmdData]
  exact hst

end SignetBase.Firmware
