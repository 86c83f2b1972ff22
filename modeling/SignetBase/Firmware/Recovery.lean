/-
  SignetBase/Firmware/Recovery.lean
  =================================
  **Startup scans after an update that was cut off.**

  An update that moves a record to another block leaves it twice when power is lost
  between its two writes (`Doubled`).  Every scan of such a store drops one entry of
  the uid: the old record, or an entry in front of the new one that is no first one
  (`Doubled.pass`).  The number of those entries bounds the number of scans.
-/
import SignetBase.Firmware.Repair

namespace SignetBase.Firmware

variable {P : Platform}

variable {pages pages' : Nat → Mem} {t : Tables} {uid b₀ b i j : Nat} {old new : Rec}

/-! ### A record that is there twice -/

variable (P) in
/-- The record of the uid is in block `b₀`, where `find_uid` finds it, and with the next
    revision number in block `b`.  All other uids are placed. -/
structure Doubled (uid b₀ b : Nat) (old new : Rec) (pages : Nat → Mem) (t : Tables) : Prop where
  but : DbOkBut P uid pages t
  mem₀ : b₀ ∈ dataBlocks
  mem : b ∈ dataBlocks
  found : (liveRecs pages t.blockInfoTbl b₀).find? (fun r => r.ent.uid = uid) = some old
  rev : new.ent.rev = (old.ent.rev + 1) % 4
  copies : ∀ i, withKey recUid uid (liveRecs pages t.blockInfoTbl i) =
    (if i = b₀ then [old] else []) ++ (if i = b then [new] else [])

/-- The entry `j` of block `i` is a first one of the uid, and its record is `r`. -/
structure CopyAt (pages : Nat → Mem) (infos : Nat → BlockInfo) (uid : Nat) (r : Rec) (i j : Nat) :
    Prop where
  mem : i ∈ dataBlocks
  live : live (infos i)
  lt : j < (infos i).partOccupancy
  eq : recAt (pages i) (infos i) j = r
  key : recUid r = uid

theorem CopyAt.ent {infos : Nat → BlockInfo} {r : Rec} (h : CopyAt pages infos uid r i j) :
    uidTbl (pages i) j = r.ent := by
  rw [← h.eq]
  rfl

theorem CopyAt.counted {infos : Nat → BlockInfo} {r : Rec} (h : CopyAt pages infos uid r i j)
    (hmin : MIN_UID ≤ uid) (hmax : uid ≤ MAX_UID) :
    counted (uidTbl (pages i) j) ∧ (uidTbl (pages i) j).uid = uid := by
  rw [h.ent]
  exact counted_of_recUid h.key hmin hmax

/-- Where the records of the uid are. -/
theorem copyAt_iff (pages : Nat → Mem) (infos : Nat → BlockInfo) (uid i : Nat) :
    ∃ js : List Nat, js.Pairwise (· < ·) ∧
      js.map (recAt (pages i) (infos i)) = withKey recUid uid (liveRecs pages infos i) ∧
      ∀ j r, CopyAt pages infos uid r i j ↔ j ∈ js ∧ recAt (pages i) (infos i) j = r := by
  by_cases hi : i ∈ dataBlocks ∧ live (infos i)
  · obtain ⟨js, hsort, hmap, hmem⟩ := indices_withKey recUid uid
      (recAt (pages i) (infos i)) (infos i).partOccupancy
    rw [← liveRecs_of_live hi.1 hi.2] at hmap
    refine ⟨js, hsort, hmap, ?_⟩
    intro j r
    rw [hmem]
    constructor
    · intro h
      exact ⟨⟨h.lt, h.eq ▸ h.key⟩, h.eq⟩
    · rintro ⟨⟨hlt, hkey⟩, rfl⟩
      exact ⟨hi.1, hi.2, hlt, rfl, hkey⟩
  · refine ⟨[], List.Pairwise.nil, ?_, ?_⟩
    · rw [show liveRecs pages infos i = [] from if_neg hi]
      rfl
    · intro j r
      constructor
      · intro h
        exact absurd ⟨h.mem, h.live⟩ hi
      · rintro ⟨hj, -⟩
        cases hj

/-- The two places of a record that is there twice. -/
theorem Doubled.places (hd : Doubled P uid b₀ b old new pages t) :
    ∃ j₀ j, CopyAt pages t.blockInfoTbl uid old b₀ j₀ ∧ CopyAt pages t.blockInfoTbl uid new b j ∧
      (b₀ = b → j₀ < j) ∧
      ∀ i k r, CopyAt pages t.blockInfoTbl uid r i k → i = b₀ ∧ k = j₀ ∨ i = b ∧ k = j := by
  obtain ⟨js₀, hsort₀, hmap₀, hat₀⟩ := copyAt_iff pages t.blockInfoTbl uid b₀
  obtain ⟨js, -, hmap, hat⟩ := copyAt_iff pages t.blockInfoTbl uid b
  have hother : ∀ i k r, CopyAt pages t.blockInfoTbl uid r i k → i = b₀ ∨ i = b := by
    intro i k r hr
    obtain ⟨is, -, hmapi, hati⟩ := copyAt_iff pages t.blockInfoTbl uid i
    by_contra hne
    rw [not_or] at hne
    rw [hd.copies i, if_neg hne.1, if_neg hne.2, List.append_nil, List.map_eq_nil_iff] at hmapi
    subst hmapi
    cases ((hati k r).mp hr).1
  rw [hd.copies b₀, if_pos rfl] at hmap₀
  by_cases hb : b₀ = b
  · subst hb
    rw [if_pos rfl] at hmap₀
    obtain ⟨j₀, l, rfl, hold, hl⟩ := List.map_eq_cons_iff.mp hmap₀
    obtain ⟨j, l', rfl, hnew, hl'⟩ := List.map_eq_cons_iff.mp hl
    obtain rfl := List.map_eq_nil_iff.mp hl'
    refine ⟨j₀, j, (hat₀ _ _).mpr ⟨by simp, hold⟩, (hat₀ _ _).mpr ⟨by simp, hnew⟩, ?_, ?_⟩
    · intro _
      simpa using hsort₀
    · intro i k r hr
      have hi : i = b₀ := (hother i k r hr).elim id id
      subst hi
      have hk := ((hat₀ k r).mp hr).1
      simpa using hk
  · rw [if_neg hb, List.append_nil] at hmap₀
    rw [hd.copies b, if_neg (Ne.symm hb), if_pos rfl, List.nil_append] at hmap
    obtain ⟨j₀, l, rfl, hold, hl⟩ := List.map_eq_cons_iff.mp hmap₀
    obtain rfl := List.map_eq_nil_iff.mp hl
    obtain ⟨j, l', rfl, hnew, hl'⟩ := List.map_eq_cons_iff.mp hmap
    obtain rfl := List.map_eq_nil_iff.mp hl'
    refine ⟨j₀, j, (hat₀ _ _).mpr ⟨by simp, hold⟩, (hat _ _).mpr ⟨by simp, hnew⟩,
      fun h => absurd h hb, ?_⟩
    intro i k r hr
    rcases hother i k r hr with rfl | rfl
    · have hk := ((hat₀ k r).mp hr).1
      exact .inl ⟨rfl, by simpa using hk⟩
    · have hk := ((hat k r).mp hr).1
      exact .inr ⟨rfl, by simpa using hk⟩

/-- Two places, and no other, make a second copy for the scan. -/
theorem secondCopy_of_copies {i₁ j₁ i₂ j₂ : Nat} {r₁ r₂ : Rec} (hbut : DbOkBut P uid pages t)
    (hmin : MIN_UID ≤ uid) (hmax : uid ≤ MAX_UID)
    (h₁ : CopyAt pages t.blockInfoTbl uid r₁ i₁ j₁) (h₂ : CopyAt pages t.blockInfoTbl uid r₂ i₂ j₂)
    (hbehind : i₁ < i₂ ∨ i₁ = i₂ ∧ j₁ < j₂)
    (honly : ∀ i k r, CopyAt pages t.blockInfoTbl uid r i k → i = i₁ ∧ k = j₁ ∨ i = i₂ ∧ k = j₂)
    (before : Nat → BlockInfo) :
    SecondCopy pages (scanInfos P pages before) uid i₁ j₁ i₂ j₂ := by
  obtain ⟨hc₁, hu₁⟩ := h₁.counted hmin hmax
  obtain ⟨hc₂, hu₂⟩ := h₂.counted hmin hmax
  have hinfo : ∀ i ∈ dataBlocks, live (t.blockInfoTbl i) →
      scanInfos P pages before i = t.blockInfoTbl i :=
    fun i hi hl => (hbut.block i hi).scanInfo_of_live P hl _
  have hiff : ∀ i ∈ dataBlocks, live (scanInfos P pages before i) → live (t.blockInfoTbl i) :=
    fun i hi hl => ((hbut.block i hi).live_iff P _).mp hl
  have hl₁ := hinfo i₁ h₁.mem h₁.live
  have hl₂ := hinfo i₂ h₂.mem h₂.live
  refine ⟨h₁.mem, h₂.mem, hl₁ ▸ h₁.live, hl₂ ▸ h₂.live, hl₁ ▸ h₁.lt, hl₂ ▸ h₂.lt, hc₁, hc₂, hu₁,
    hu₂, hbehind, ?_⟩
  intro i hi i' hi' hl hl' k hk k' hk' hc hc' heq
  replace hl := hiff i hi hl
  replace hl' := hiff i' hi' hl'
  rw [hinfo i hi hl] at hk
  rw [hinfo i' hi' hl'] at hk'
  by_cases hu : (uidTbl (pages i) k).uid = uid
  · have hat := honly i k _ ⟨hi, hl, hk, rfl, (recUid_of_counted hc).trans hu⟩
    have hat' := honly i' k' _ ⟨hi', hl', hk', rfl, (recUid_of_counted hc').trans (heq ▸ hu)⟩
    rcases hat with ⟨rfl, rfl⟩ | ⟨rfl, rfl⟩
    · rcases hat' with ⟨rfl, rfl⟩ | ⟨rfl, rfl⟩
      · exact .inl ⟨rfl, rfl⟩
      · exact .inr (.inl ⟨rfl, rfl, rfl, rfl⟩)
    · rcases hat' with ⟨rfl, rfl⟩ | ⟨rfl, rfl⟩
      · exact .inr (.inr ⟨rfl, rfl, rfl, rfl⟩)
      · exact .inl ⟨rfl, rfl⟩
  · have hp := hbut.placed _ hu hc.1 hc.2.1
    obtain ⟨hmap, -⟩ := hp.ent_placed hi hl hk hc rfl
    obtain ⟨hmap', huniq⟩ := hp.ent_placed hi' hl' hk' hc' heq.symm
    have hii : i = i' := hmap.symm.trans hmap'
    subst hii
    exact .inl ⟨rfl, huniq k hk hc rfl⟩

/-! ### One scan -/

/-- `find_uid` in the block that `uid_map` names. -/
theorem findUid_of_map (pages : Nat → Mem) {t' : Tables} (hmap : t'.uidMap uid = i) (hi : i ∈ dataBlocks)
    (hj : j < (t'.blockInfoTbl i).partOccupancy) (hu : (uidTbl (pages i) j).uid = uid) :
    ∃ k, findUid pages t' uid = (i, some k) := by
  unfold findUid
  simp only
  rw [hmap, if_neg (dataBlock_ne_invalid hi)]
  have hsome : ((List.range (t'.blockInfoTbl i).partOccupancy).find? fun k =>
      (uidTbl (pages i) k).uid = uid).isSome := by
    rw [List.find?_isSome]
    exact ⟨j, List.mem_range.mpr hj, by simpa using hu⟩
  obtain ⟨k, hk⟩ := Option.isSome_iff_exists.mp hsome
  exact ⟨k, by rw [hk]⟩

/-- The first entry of the uid in block `i` is `k`. -/
structure FirstOf (pages : Nat → Mem) (infos : Nat → BlockInfo) (uid i k : Nat) : Prop where
  lt : k < (liveRecs pages infos i).length
  ent : (liveRecs pages infos i)[k].ent = uidTbl (pages i) k
  key : (liveRecs pages infos i)[k].ent.uid = uid
  before : ∀ (k' : Nat) (h : k' < (liveRecs pages infos i).length), k' < k →
    (liveRecs pages infos i)[k'].ent.uid ≠ uid

theorem FirstOf.find? {infos : Nat → BlockInfo} {k : Nat} (h : FirstOf pages infos uid i k)
    (hlt : k < (liveRecs pages infos i).length) :
    (liveRecs pages infos i).find? (fun r => r.ent.uid = uid) = some (liveRecs pages infos i)[k] := by
  rw [List.find?_eq_some_iff_getElem]
  refine ⟨by simpa using h.key, k, hlt, rfl, ?_⟩
  intro k' hk'
  simpa using h.before k' (Nat.lt_trans hk' h.lt) hk'

theorem firstOf_findUid {t' : Tables} {infos : Nat → BlockInfo} {k : Nat} (hi : i ∈ dataBlocks)
    (hl : live (infos i)) (hinfo : t'.blockInfoTbl i = infos i)
    (h : findUid pages t' uid = (i, some k)) : FirstOf pages infos uid i k := by
  obtain ⟨-, -, hlt, hu, hbefore⟩ := findUid_some h
  rw [hinfo] at hlt
  have heq : liveRecs pages infos i = _ := liveRecs_of_live hi hl
  have hget : ∀ (k' : Nat) (h : k' < (liveRecs pages infos i).length),
      (liveRecs pages infos i)[k'].ent = uidTbl (pages i) k' := by
    intro k' h
    simp only [heq, List.getElem_map, List.getElem_range]
    rfl
  have hlen : k < (liveRecs pages infos i).length := by
    rw [heq, List.length_map, List.length_range]
    exact hlt
  refine ⟨hlen, hget k hlen, ?_, ?_⟩
  · rw [hget k hlen]
    exact hu
  · intro k' hk' hkk'
    rw [hget k' hk']
    exact hbefore k' hkk'

/-- **The scan drops an entry of the uid** from the block of its second copy when that is
    the older one of the two, and else from the block of the first copy. -/
theorem scanPages_drops {before : Tables} {i₁ j₁ i₂ j₂ : Nat}
    (hblock : ∀ i ∈ dataBlocks, BlockOk P (pages i) (t.blockInfoTbl i))
    (hc : SecondCopy pages (scanInfos P pages before.blockInfoTbl) uid i₁ j₁ i₂ j₂)
    (scratch : Scratch) :
    ∃ i k k₁, FirstOf pages t.blockInfoTbl uid i k ∧ FirstOf pages t.blockInfoTbl uid i₁ k₁ ∧
      i = (if ((uidTbl (pages i₂) j₂).rev + 1) % 4 = (uidTbl (pages i₁) k₁).rev then i₂ else i₁) ∧
      (scanPages P pages before scratch).repair = some i ∧
      ∃ info, Leaves P (scanPages P pages before scratch).scratch.block info
        (swapRemove (liveRecs pages t.blockInfoTbl i) k) := by
  obtain ⟨t₁, t₂, hmap₁, hmap₂, hinfo, hrep, hscr⟩ := scanPages_second P hc scratch
  have hscan : ∀ k, k ∈ dataBlocks → live (scanInfos P pages before.blockInfoTbl k) →
      live (t.blockInfoTbl k) ∧
        scanInfos P pages before.blockInfoTbl k = t.blockInfoTbl k := by
    intro k hk hl
    have hl' := ((hblock k hk).live_iff P _).mp hl
    exact ⟨hl', (hblock k hk).scanInfo_of_live P hl' _⟩
  obtain ⟨hl₁, he₁⟩ := hscan i₁ hc.mem₁ hc.live₁
  obtain ⟨hl₂, he₂⟩ := hscan i₂ hc.mem₂ hc.live₂
  have hin₁ : t₁.blockInfoTbl i₁ = t.blockInfoTbl i₁ := (hinfo i₁ (.inl rfl)).1.trans he₁
  -- the entry whose revision number is compared
  obtain ⟨k₁, hk₁⟩ := findUid_of_map pages hmap₁ hc.mem₁
    (by
      rw [hin₁, ← he₁]
      exact hc.lt₁) hc.uid₁
  have hfirst₁ := firstOf_findUid hc.mem₁ hl₁ hin₁ hk₁
  have hrev : foundRev pages t₁ uid = (uidTbl (pages i₁) k₁).rev := by
    unfold foundRev
    rw [hk₁]
  -- the block an entry is dropped from
  obtain ⟨i, hi⟩ : ∃ i, i = dropFrom pages t₁ uid i₁ i₂ j₂ := ⟨_, rfl⟩
  rw [← hi] at hmap₂
  unfold dropFrom at hi
  rw [hrev] at hi
  have hplace : i ∈ dataBlocks ∧ live (t.blockInfoTbl i) ∧ t₂.blockInfoTbl i = t.blockInfoTbl i ∧
      ∃ j < (t.blockInfoTbl i).partOccupancy, (uidTbl (pages i) j).uid = uid := by
    split at hi
    · subst hi
      exact ⟨hc.mem₂, hl₂, (hinfo i (.inr rfl)).2.trans he₂, j₂, he₂ ▸ hc.lt₂, hc.uid₂⟩
    · subst hi
      exact ⟨hc.mem₁, hl₁, (hinfo i (.inl rfl)).2.trans he₁, j₁, he₁ ▸ hc.lt₁, hc.uid₁⟩
  obtain ⟨hmem, hl, hin₂, j, hj, hu⟩ := hplace
  obtain ⟨k, hk⟩ := findUid_of_map pages hmap₂ hmem (hin₂ ▸ hj) hu
  have hok : BlockOk P (pages i) (t₂.blockInfoTbl i) := hin₂ ▸ hblock i hmem
  obtain ⟨hdrop, hleaves⟩ := deallocateUid_leaves hok hmem (hin₂ ▸ hl) hk scratch
  have hrecs : liveRecs pages t₂.blockInfoTbl i = liveRecs pages t.blockInfoTbl i := by
    unfold liveRecs
    rw [hin₂]
  rw [hrecs] at hleaves
  refine ⟨i, k, k₁, firstOf_findUid hmem hl hin₂ hk, hfirst₁, hi, ?_,
    (deallocateUid pages t₂ uid true scratch).2.blkInfo, ?_⟩
  · rw [hrep, hdrop]
  · refine hleaves _ (.inl ?_)
    rw [hscr]
    refine repaired_block P _ ?_
    rw [hdrop]
    exact dataBlock_ne_invalid hmem

/-! ### One scan and the write it issued -/

/-- The records of the other uids are the same in two stores. -/
def OthersKept (uid : Nat) (blocks blocks' : Nat → List Rec) : Prop :=
  ∀ u, u ≠ uid → MIN_UID ≤ u → SameRecords recUid u blocks blocks'

theorem OthersKept.refl (uid : Nat) (blocks : Nat → List Rec) : OthersKept uid blocks blocks :=
  fun _ _ _ => .refl _ _ _

theorem OthersKept.trans {blocks blocks' blocks'' : Nat → List Rec}
    (h : OthersKept uid blocks blocks') (h' : OthersKept uid blocks' blocks'') :
    OthersKept uid blocks blocks'' :=
  fun u hu hmin => (h u hu hmin).trans (h' u hu hmin)

/-- An entry of the uid that is dropped is no record of another uid. -/
theorem FirstOf.other {infos : Nat → BlockInfo} {k u : Nat} (h : FirstOf pages infos uid i k)
    (hu : u ≠ uid) (hmin : MIN_UID ≤ u) :
    (withKey recUid u (swapRemove (liveRecs pages infos i) k)).Perm
      (withKey recUid u (liveRecs pages infos i)) := by
  refine withKey_swapRemove_of_ne h.lt ?_
  intro heq
  unfold recUid at heq
  rw [h.key] at heq
  split at heq
  · exact hu heq.symm
  · rw [← heq] at hmin
    exact absurd hmin (by decide)

/-- The store holds the record as the only one of its uid, and is otherwise in order. -/
structure OneRecord (P : Platform) (uid b : Nat) (new : Rec) (pages : Nat → Mem) (t : Tables) :
    Prop where
  ok : DbOk P pages t
  holds : Holds recUid (liveRecs pages t.blockInfoTbl) uid b new

/-- The entries of the uid, first ones or not. -/
def entries (uid : Nat) (rs : List Rec) : Nat := rs.countP fun r => r.ent.uid = uid

theorem FirstOf.entries_lt {infos : Nat → BlockInfo} {k : Nat} (h : FirstOf pages infos uid i k) :
    entries uid (swapRemove (liveRecs pages infos i) k) < entries uid (liveRecs pages infos i) := by
  have hperm := (perm_swapRemove h.lt).countP_eq fun r => r.ent.uid = uid
  have hlt := h.lt
  have hkey : decide ((liveRecs pages infos i)[k].ent.uid = uid) = true := decide_eq_true h.key
  rw [List.countP_cons, if_pos hkey] at hperm
  unfold entries
  omega

/-- Without the old record the new one is the only one. -/
theorem Doubled.dropOld (hd : Doubled P uid b₀ b old new pages t) {k : Nat}
    (hk : FirstOf pages t.blockInfoTbl uid b₀ k) {page : Mem} {info : BlockInfo}
    (hl : Leaves P page info (swapRemove (liveRecs pages t.blockInfoTbl b₀) k))
    (hw : Wrote pages b₀ page pages') :
    OneRecord P uid b new pages' ((t.setInfo b₀ info).setUid uid b) ∧
      OthersKept uid (liveRecs pages t.blockInfoTbl)
        (liveRecs pages' (t.setInfo b₀ info).blockInfoTbl) := by
  obtain ⟨hbut, hrecs, hsame⟩ :=
    hd.but.wrote P hw hd.mem₀ hl.block hl.recs fun u hu hu' => hk.other hu hu'
  have hlt := hk.lt
  have hold : (liveRecs pages t.blockInfoTbl b₀)[k] = old := by
    have hfound := hd.found
    rw [hk.find? hlt] at hfound
    exact Option.some.inj hfound
  have hkey : recUid old = uid := by
    obtain ⟨j₀, -, hat, -⟩ := hd.places
    exact hat.key
  have hperm := withKey_swapRemove_self hlt (show recUid _ = uid from hold.symm ▸ hkey)
  rw [hd.copies b₀, hold, if_pos rfl] at hperm
  have hleft := List.Perm.cons_inv hperm
  have hholds : Holds recUid (liveRecs pages' (t.setInfo b₀ info).blockInfoTbl) uid b new := by
    intro i
    rw [hrecs]
    by_cases hi : i = b₀
    · subst hi
      rw [Function.update_self]
      split at hleft
      · rename_i hib
        rw [if_pos hib]
        exact List.perm_singleton.mp hleft
      · rename_i hib
        rw [if_neg hib]
        exact List.perm_nil.mp hleft
    · rw [Function.update_of_ne hi, hd.copies i, if_neg hi]
      rfl
  refine ⟨⟨?_, hholds⟩, hsame⟩
  refine (hbut.setUid P b).ok P (.inr ?_)
  have hmap : ((t.setInfo b₀ info).setUid uid b).uidMap uid = b :=
    (if_pos rfl).trans (dataBlock_mod hd.mem)
  rw [hmap]
  exact ⟨hd.mem, new, hholds⟩

/-- Without an entry of the uid that is no first one, the record is still there twice. -/
theorem Doubled.dropEntry (hd : Doubled P uid b₀ b old new pages t) (hne : b ≠ b₀) {k : Nat}
    (hk : FirstOf pages t.blockInfoTbl uid b k) (hnew : (uidTbl (pages b) k).rev ≠ new.ent.rev)
    {page : Mem} {info : BlockInfo}
    (hl : Leaves P page info (swapRemove (liveRecs pages t.blockInfoTbl b) k))
    (hw : Wrote pages b page pages') :
    ∃ t', Doubled P uid b₀ b old new pages' t' ∧
      entries uid (liveRecs pages' t'.blockInfoTbl b) < entries uid (liveRecs pages t.blockInfoTbl b) ∧
      OthersKept uid (liveRecs pages t.blockInfoTbl) (liveRecs pages' t'.blockInfoTbl) := by
  obtain ⟨hbut, hrecs, hsame⟩ :=
    hd.but.wrote P hw hd.mem hl.block hl.recs fun u hu hu' => hk.other hu hu'
  have hlt := hk.lt
  have hcopies := hd.copies b
  rw [if_neg hne, if_pos rfl, List.nil_append] at hcopies
  -- the entry is not the new record, so it is not a first one
  have hother : recUid (liveRecs pages t.blockInfoTbl b)[k] ≠ uid := by
    intro hkey
    have hmem : (liveRecs pages t.blockInfoTbl b)[k] ∈
        withKey recUid uid (liveRecs pages t.blockInfoTbl b) := by
      simp only [withKey, List.mem_filter, decide_eq_true_eq]
      exact ⟨List.getElem_mem hlt, hkey⟩
    rw [hcopies, List.mem_singleton] at hmem
    exact hnew (by rw [← hk.ent, hmem])
  have hperm := withKey_swapRemove_of_ne hlt hother
  rw [hcopies] at hperm
  refine ⟨t.setInfo b info, ⟨hbut, hd.mem₀, hd.mem, ?_, hd.rev, ?_⟩, ?_, hsame⟩
  · rw [hrecs, Function.update_of_ne (Ne.symm hne)]
    exact hd.found
  · intro i
    rw [hrecs]
    by_cases hi : i = b
    · subst hi
      rw [Function.update_self, List.perm_singleton.mp hperm, if_neg hne, if_pos rfl]
      rfl
    · rw [Function.update_of_ne hi]
      exact hd.copies i
  · rw [hrecs, Function.update_self]
    exact hk.entries_lt

variable (hmin : MIN_UID ≤ uid) (hmax : uid ≤ MAX_UID)

include hmin hmax

/-- **A scan of a store with a record twice, and the write it issued**, leave the store
    with the new record only, or with one entry of the uid less. -/
theorem Doubled.pass (hd : Doubled P uid b₀ b old new pages t) (before : Tables)
    (scratch : Scratch) :
    ∃ i ∈ dataBlocks, (scanPages P pages before scratch).repair = some i ∧
      ∀ pages', Wrote pages i (scanPages P pages before scratch).scratch.block pages' →
        ∃ t', OthersKept uid (liveRecs pages t.blockInfoTbl) (liveRecs pages' t'.blockInfoTbl) ∧
          (OneRecord P uid b new pages' t' ∨ Doubled P uid b₀ b old new pages' t' ∧
            entries uid (liveRecs pages' t'.blockInfoTbl b) <
              entries uid (liveRecs pages t.blockInfoTbl b)) := by
  obtain ⟨j₀, j, hold, hnew, hsame, honly⟩ := hd.places
  have hrevold := rev_lt (pages b₀) j₀
  rw [hold.ent] at hrevold
  have hrev := hd.rev
  have hfirstRev : ∀ {k : Nat}, FirstOf pages t.blockInfoTbl uid b₀ k →
      (uidTbl (pages b₀) k).rev = old.ent.rev := by
    intro k hk
    have hlt := hk.lt
    have hfound := hd.found
    rw [hk.find? hlt] at hfound
    rw [← hk.ent, Option.some.inj hfound]
  by_cases hle : b₀ ≤ b
  · -- the old record is met first
    have hbehind : b₀ < b ∨ b₀ = b ∧ j₀ < j := by
      rcases Nat.lt_or_eq_of_le hle with h | h
      · exact .inl h
      · exact .inr ⟨h, hsame h⟩
    have hc := secondCopy_of_copies hd.but hmin hmax hold hnew hbehind honly before.blockInfoTbl
    obtain ⟨i, k, k₁, hk, hk₁, hi, hrep, info, hleaves⟩ :=
      scanPages_drops hd.but.block hc scratch
    rw [hfirstRev hk₁, hnew.ent, if_neg (by omega)] at hi
    subst hi
    refine ⟨i, hd.mem₀, hrep, fun pages' hw => ?_⟩
    obtain ⟨hsettled, hkept⟩ := hd.dropOld hk hleaves hw
    exact ⟨(t.setInfo i info).setUid uid b, hkept, .inl hsettled⟩
  · have hlt : b < b₀ := Nat.lt_of_not_le hle
    have hc := secondCopy_of_copies hd.but hmin hmax hnew hold (.inl hlt)
      (fun i k r h => (honly i k r h).symm) before.blockInfoTbl
    obtain ⟨i, k, k₁, hk, hk₁, hi, hrep, info, hleaves⟩ :=
      scanPages_drops hd.but.block hc scratch
    rw [hold.ent] at hi
    split at hi
    · subst hi
      refine ⟨i, hd.mem₀, hrep, fun pages' hw => ?_⟩
      obtain ⟨hsettled, hkept⟩ := hd.dropOld hk hleaves hw
      exact ⟨(t.setInfo i info).setUid uid b, hkept, .inl hsettled⟩
    · rename_i hdiff
      subst hi
      have hkk : k = k₁ := by
        rcases Nat.lt_trichotomy k k₁ with h | h | h
        · exact absurd hk.key (hk₁.before k hk.lt h)
        · exact h
        · exact absurd hk₁.key (hk.before k₁ hk₁.lt h)
      subst hkk
      refine ⟨i, hd.mem, hrep, fun pages' hw => ?_⟩
      obtain ⟨t', hdoubled, hless, hkept⟩ := hd.dropEntry (Nat.ne_of_lt hlt) hk
        (fun h => hdiff (by rw [h, hrev])) hleaves hw
      exact ⟨t', hkept, .inr ⟨hdoubled, hless⟩⟩

end SignetBase.Firmware
