/-
  SignetBase/Host/Typing.lean
  ===========================
  **The host's typing encoder: `signetdev_set_keymap` and `signetdev_to_scancodes_w`
  (`signetdev.c`).**

  A key of the keymap is typed with one or two presses (a dead key and the letter after
  it).  The encoder writes one entry for each press, and an entry without a scancode
  where the keyboard has to let go: a keyboard that sees the same scancode twice in a row
  types it once.

  Two keys defeat it.  For a key without a mapping the encoder returns at once, so the
  entries before it have no release at the end and `*out_len` still holds the capacity.
  Between the two presses of one key it never looks for a release, so a key with the same
  scancode in both is typed once.  The output is right exactly when it comes to neither
  within the capacity (`encodes_iff`).
-/
import SignetBase.Common
import Mathlib.Data.List.Chain

namespace SignetBase.Keyboard

open Function

/-! ### The keymap -/

/-- `struct signetdev_phy_key`. -/
structure PhyKey where
  scancode : UInt8
  modifier : UInt8
deriving DecidableEq

/-- `struct signetdev_key`, `phyKey0` and `phyKey1` being `phy_key[0]` and `phy_key[1]`. -/
structure SignetdevKey where
  key : UInt16
  phyKey0 : PhyKey
  phyKey1 : PhyKey
deriving DecidableEq

/-- The static keymap: the first `keymap_num_keys` entries of `keymap`, and `keymap_inv`. -/
structure Keymaps where
  keymap : List SignetdevKey
  keymapInv : UInt16 → SignetdevKey

/-- What the first loop of `signetdev_set_keymap` leaves of an entry: `phy_key[1]` is not
    cleared. -/
def Keymaps.cleared (m : Keymaps) (i : UInt16) : SignetdevKey :=
  { m.keymapInv i with key := i, phyKey0 := ⟨0, 0⟩ }

/-- `signetdev_set_keymap`: the entries are stored from the last to the first. -/
def signetdevSetKeymap (m : Keymaps) (keys : List SignetdevKey) : Keymaps where
  keymap := keys
  keymapInv := keys.foldr (fun k inv => update inv k.key k) m.cleared

/-- Of several entries for one key the first one counts, and a key without an entry has no
    scancode. -/
theorem keymapInv_setKeymap (m : Keymaps) (keys : List SignetdevKey) (c : UInt16) :
    (signetdevSetKeymap m keys).keymapInv c =
      (keys.find? (fun k => k.key == c)).getD (m.cleared c) := by
  unfold signetdevSetKeymap
  induction keys with
  | nil => rfl
  | cons k keys ih =>
    by_cases hk : k.key = c
    · subst hk
      simp
    · have hne : c ≠ k.key := fun h => hk h.symm
      simpa [List.find?_cons, hk, update_of_ne hne] using ih

/-! ### The encoder -/

/-- `phy_key.modifier + (phy_key.scancode << 8)`. -/
def PhyKey.entry (p : PhyKey) : UInt16 := p.modifier.toUInt16 + (p.scancode.toUInt16 <<< 8)

/-- `entry >> 8`. -/
def scancodeOf (e : UInt16) : UInt8 := (e >>> 8).toUInt8

/-- What the loop leaves: the entries it stored through `out`, `out_len`, the keys from
    `keys + i` on, and whether it returned from within. -/
structure LoopEnd where
  out : List UInt16
  outLen : Nat
  rest : List UInt16
  noMapping : Bool
deriving DecidableEq

/-- `out[0] = e; out++`, before the rest of the loop. -/
def LoopEnd.after (e : UInt16) (r : LoopEnd) : LoopEnd := { r with out := e :: r.out }

/-- The loop, from `out_len`, `prev_scancode` and the keys that are left. -/
def scancodesLoop (inv : UInt16 → SignetdevKey) : Nat → UInt8 → List UInt16 → LoopEnd
  | n + 2, prev, c :: keys =>
    let key := inv c
    if key.phyKey0.scancode ≠ 0 ∧ prev = key.phyKey0.scancode then
      (scancodesLoop inv (n + 1) 0 (c :: keys)).after 0
    else if key.phyKey0.scancode ≠ 0 then
      if key.phyKey1.scancode ≠ 0 then
        if n + 2 ≤ 3 then ⟨[], n + 2, c :: keys, false⟩
        else
          ((scancodesLoop inv n (scancodeOf key.phyKey1.entry) keys).after
            key.phyKey1.entry).after key.phyKey0.entry
      else
        (scancodesLoop inv (n + 1) (scancodeOf key.phyKey0.entry) keys).after key.phyKey0.entry
    else ⟨[], n + 2, c :: keys, true⟩
  | n, _, keys => ⟨[], n, keys, false⟩

/-- What a caller gets: the entries stored, `*out_len_` and the return value. -/
structure Scancodes where
  out : List UInt16
  outLen : Nat
  ret : Nat
deriving DecidableEq

/-- `signetdev_to_scancodes_w` with room for `outLen` entries. -/
def signetdevToScancodesW (inv : UInt16 → SignetdevKey) (keys : List UInt16) (outLen : Nat) :
    Scancodes :=
  let r := scancodesLoop inv outLen 0 keys
  if r.noMapping then ⟨r.out, outLen, 2⟩
  else ⟨r.out ++ [0], outLen + 1 - r.outLen, if r.rest = [] then 0 else 1⟩

/-- `signetdev_can_type_w`. -/
def signetdevCanTypeW (inv : UInt16 → SignetdevKey) (keys : List UInt16) : Bool :=
  keys.all (fun c => (inv c).phyKey0.scancode ≠ 0)

/-! ### What typing means -/

/-- The key has a mapping. -/
def Mapped (inv : UInt16 → SignetdevKey) (c : UInt16) : Prop := (inv c).phyKey0.scancode ≠ 0

instance (inv : UInt16 → SignetdevKey) (c : UInt16) : Decidable (Mapped inv c) :=
  inferInstanceAs (Decidable (_ ≠ _))

/-- The presses that type a key. -/
def presses (inv : UInt16 → SignetdevKey) (c : UInt16) : List UInt16 :=
  if (inv c).phyKey1.scancode ≠ 0 then [(inv c).phyKey0.entry, (inv c).phyKey1.entry]
  else [(inv c).phyKey0.entry]

/-- The presses a keyboard produces that is sent these entries while it holds a scancode: a
    scancode is pressed where it was not held before. -/
def replay : UInt8 → List UInt16 → List UInt16
  | _, [] => []
  | held, e :: es =>
    if scancodeOf e ≠ 0 ∧ scancodeOf e ≠ held then e :: replay (scancodeOf e) es
    else replay (scancodeOf e) es

/-- Two scancodes that may follow each other: a release stands between equal ones. -/
def Apart (a b : UInt8) : Prop := a ≠ 0 → a ≠ b

/-- The result is a right encoding of the keys with the given capacity. -/
structure Encodes (inv : UInt16 → SignetdevKey) (keys : List UInt16) (cap : Nat)
    (r : Scancodes) : Prop where
  /-- The entries fit, `*out_len` is their number, and the last one is a release. -/
  fits : r.out.length ≤ cap
  counted : r.outLen = r.out.length
  released : r.out.getLast? = some 0
  /-- No scancode stands twice in a row. -/
  apart : (r.out.map scancodeOf).IsChain Apart
  /-- The entries type the keys up to some key, all of them if the return value is zero; a
      key without a mapping is not typed, and it is reported if there was room for it. -/
  typed : ∃ used rest, keys = used ++ rest ∧ (∀ c ∈ used, Mapped inv c) ∧
    replay 0 r.out = used.flatMap (presses inv) ∧
    (r.ret = 0 → rest = []) ∧
    (r.ret = 2 ↔ ∃ c, rest.head? = some c ∧ ¬ Mapped inv c ∧ r.out.length < cap)

/-! ### One key -/

/-- The scancode of a key's last press. -/
def lastScancode (inv : UInt16 → SignetdevKey) (c : UInt16) : UInt8 :=
  if (inv c).phyKey1.scancode ≠ 0 then (inv c).phyKey1.scancode else (inv c).phyKey0.scancode

/-- The entries for a key: its presses, after a release if its first scancode is held. -/
def keyEntries (inv : UInt16 → SignetdevKey) (prev : UInt8) (c : UInt16) : List UInt16 :=
  (if prev = (inv c).phyKey0.scancode then [0] else []) ++ presses inv c

/-- The entries for a text. -/
def textEntries (inv : UInt16 → SignetdevKey) : UInt8 → List UInt16 → List UInt16
  | _, [] => []
  | prev, c :: keys => keyEntries inv prev c ++ textEntries inv (lastScancode inv c) keys

/-- The two presses of the key have the same scancode. -/
def SamePresses (inv : UInt16 → SignetdevKey) (c : UInt16) : Prop :=
  (inv c).phyKey1.scancode ≠ 0 ∧ (inv c).phyKey1.scancode = (inv c).phyKey0.scancode

instance (inv : UInt16 → SignetdevKey) (c : UInt16) : Decidable (SamePresses inv c) :=
  inferInstanceAs (Decidable (_ ∧ _))

/-- In the given room, with `prev` held, the encoder comes to no key without a mapping and
    types no key whose two presses have the same scancode: behind the mapped keys before it
    there is no room for two more entries. -/
def NoTrouble (inv : UInt16 → SignetdevKey) (cap : Nat) (prev : UInt8) (keys : List UInt16) :
    Prop :=
  ∀ before c rest, keys = before ++ c :: rest → (∀ b ∈ before, Mapped inv b) →
    (¬ Mapped inv c → cap < (textEntries inv prev before).length + 2) ∧
    (Mapped inv c → SamePresses inv c →
      cap < (textEntries inv prev (before ++ [c])).length + 2)

/-! ### Lemmas about one key -/

variable {inv : UInt16 → SignetdevKey}

theorem scancodeOf_entry (p : PhyKey) : scancodeOf p.entry = p.scancode := by
  apply UInt8.toNat.inj
  have hm := p.modifier.toNat_lt
  have hs := p.scancode.toNat_lt
  simp only [scancodeOf, PhyKey.entry, UInt16.toNat_toUInt8, UInt16.toNat_shiftRight,
    UInt16.toNat_add, UInt16.toNat_shiftLeft, UInt8.toNat_toUInt16, Nat.shiftLeft_eq,
    Nat.shiftRight_eq_div_pow, UInt16.toNat_ofNat, Nat.reducePow, Nat.reduceMod]
  omega

@[simp] theorem scancodeOf_zero : scancodeOf 0 = 0 := rfl

theorem keyEntries_length (prev : UInt8) (c : UInt16) :
    (keyEntries inv prev c).length =
      (if prev = (inv c).phyKey0.scancode then 1 else 0) + (presses inv c).length := by
  unfold keyEntries
  rw [List.length_append]
  split <;> rfl

/-- A release is stored where the key's first scancode is held. -/
theorem scancodesLoop_release {prev : UInt8} {c : UInt16} (keys : List UInt16) {n : Nat}
    (h : Mapped inv c) (hp : prev = (inv c).phyKey0.scancode) (hn : 2 ≤ n) :
    scancodesLoop inv n prev (c :: keys) = (scancodesLoop inv (n - 1) 0 (c :: keys)).after 0 := by
  obtain ⟨n, rfl⟩ := Nat.exists_eq_add_of_le' hn
  rw [scancodesLoop, if_pos ⟨h, hp⟩]
  rfl

/-- The key's presses are stored where its first scancode is not held. -/
theorem scancodesLoop_presses {prev : UInt8} {c : UInt16} (keys : List UInt16) {n : Nat}
    (h : Mapped inv c) (hp : prev ≠ (inv c).phyKey0.scancode)
    (hn : 2 * (presses inv c).length ≤ n) :
    scancodesLoop inv n prev (c :: keys) =
      let r := scancodesLoop inv (n - (presses inv c).length) (lastScancode inv c) keys
      { r with out := presses inv c ++ r.out } := by
  have hguard : ¬ ((inv c).phyKey0.scancode ≠ 0 ∧ prev = (inv c).phyKey0.scancode) :=
    fun hc => hp hc.2
  have h0 : (inv c).phyKey0.scancode ≠ 0 := h
  unfold presses lastScancode at *
  by_cases h1 : (inv c).phyKey1.scancode ≠ 0
  · rw [if_pos h1] at hn ⊢
    rw [if_pos h1]
    obtain ⟨n, rfl⟩ : ∃ m, n = m + 2 := ⟨n - 2, by simp at hn; omega⟩
    have hroom : ¬ n + 2 ≤ 3 := by simp at hn; omega
    rw [scancodesLoop, if_neg hguard, if_pos h0, if_pos h1, if_neg hroom, scancodeOf_entry]
    rfl
  · rw [if_neg h1] at hn ⊢
    rw [if_neg h1]
    obtain ⟨n, rfl⟩ : ∃ m, n = m + 2 := ⟨n - 2, by simp at hn; omega⟩
    rw [scancodesLoop, if_neg hguard, if_pos h0, if_neg h1, scancodeOf_entry]
    rfl

theorem presses_length_pos (inv : UInt16 → SignetdevKey) (c : UInt16) :
    1 ≤ (presses inv c).length := by
  unfold presses
  split <;> simp

theorem presses_length_le (inv : UInt16 → SignetdevKey) (c : UInt16) :
    (presses inv c).length ≤ 2 := by
  unfold presses
  split <;> simp

/-- With room for its entries and as many more as it has presses, a key's entries are stored,
    and the loop goes on behind them with its last scancode held. -/
theorem scancodesLoop_mapped {prev : UInt8} {c : UInt16} (keys : List UInt16) {n : Nat}
    (h : Mapped inv c) (hn : (keyEntries inv prev c).length + (presses inv c).length ≤ n) :
    scancodesLoop inv n prev (c :: keys) =
      let r := scancodesLoop inv (n - (keyEntries inv prev c).length) (lastScancode inv c) keys
      { r with out := keyEntries inv prev c ++ r.out } := by
  have hpos := presses_length_pos inv c
  rw [keyEntries_length] at hn
  rw [keyEntries_length]
  unfold keyEntries
  by_cases hp : prev = (inv c).phyKey0.scancode
  · rw [if_pos hp] at hn ⊢
    rw [if_pos hp]
    have hzero : (0 : UInt8) ≠ (inv c).phyKey0.scancode := fun hz => h hz.symm
    rw [scancodesLoop_release keys h hp (by omega), scancodesLoop_presses keys h hzero (by omega),
      Nat.sub_sub]
    rfl
  · rw [if_neg hp] at hn ⊢
    rw [if_neg hp]
    rw [scancodesLoop_presses keys h hp (by omega), Nat.zero_add]
    rfl

/-- Where its first scancode is not held, the loop stops in front of a key that has no room
    for twice its presses. -/
theorem scancodesLoop_stop {prev : UInt8} {c : UInt16} (keys : List UInt16) {n : Nat}
    (h : Mapped inv c) (hp : prev ≠ (inv c).phyKey0.scancode)
    (hn : n < 2 * (presses inv c).length) :
    scancodesLoop inv n prev (c :: keys) = ⟨[], n, c :: keys, false⟩ := by
  match n with
  | 0 => rfl
  | 1 => rfl
  | n + 2 =>
    have h0 : (inv c).phyKey0.scancode ≠ 0 := h
    unfold presses at hn
    by_cases h1 : (inv c).phyKey1.scancode ≠ 0
    · rw [if_pos h1] at hn
      have hroom : n + 2 ≤ 3 := by simp at hn; omega
      rw [scancodesLoop, if_neg (fun hc => hp hc.2), if_pos h0, if_pos h1, if_pos hroom]
    · rw [if_neg h1, List.length_singleton] at hn
      omega

/-- Without that room the loop stops in front of the key, perhaps behind a release. -/
theorem scancodesLoop_full {prev : UInt8} {c : UInt16} (keys : List UInt16) {n : Nat}
    (h : Mapped inv c) (hn : n < (keyEntries inv prev c).length + (presses inv c).length) :
    ∃ pad m, scancodesLoop inv n prev (c :: keys) = ⟨pad, m, c :: keys, false⟩ ∧
      (pad = [] ∨ pad = [0]) ∧ pad.length + m = n ∧ (1 ≤ n → 1 ≤ m) := by
  rw [keyEntries_length] at hn
  by_cases hp : prev = (inv c).phyKey0.scancode
  · rw [if_pos hp] at hn
    by_cases h2 : 2 ≤ n
    · have hzero : (0 : UInt8) ≠ (inv c).phyKey0.scancode := fun hz => h hz.symm
      refine ⟨[0], n - 1, ?_, Or.inr rfl, ?_, fun _ => by omega⟩
      · rw [scancodesLoop_release keys h hp h2, scancodesLoop_stop keys h hzero (by omega)]
        rfl
      · simp
        omega
    · refine ⟨[], n, ?_, Or.inl rfl, by simp, id⟩
      match n with
      | 0 => rfl
      | 1 => rfl
      | n + 2 => omega
  · rw [if_neg hp] at hn
    exact ⟨[], n, scancodesLoop_stop keys h hp (by omega), Or.inl rfl, by simp, id⟩

/-- A key without a mapping ends the loop, and the loop returns at once if it came to it. -/
theorem scancodesLoop_unmapped (prev : UInt8) {c : UInt16} (keys : List UInt16) (n : Nat)
    (h : ¬ Mapped inv c) :
    scancodesLoop inv n prev (c :: keys) = ⟨[], n, c :: keys, decide (2 ≤ n)⟩ := by
  match n with
  | 0 => rfl
  | 1 => rfl
  | n + 2 =>
    have h0 : ¬ (inv c).phyKey0.scancode ≠ 0 := h
    have hdec : decide (2 ≤ n + 2) = true := decide_eq_true (by omega)
    rw [scancodesLoop, if_neg (fun hc => h0 hc.1), if_neg h0, hdec]

/-! ### What the loop comes to -/

theorem noTrouble_unmapped (prev : UInt8) {c : UInt16} (keys : List UInt16) (n : Nat)
    (h : ¬ Mapped inv c) : NoTrouble inv n prev (c :: keys) ↔ n < 2 := by
  constructor
  · intro hno
    exact (hno [] c keys rfl (by simp)).1 h
  · intro hn before b rest hsplit hbefore
    rcases before with _ | ⟨a, before⟩
    · obtain ⟨rfl, -⟩ := List.cons.inj hsplit
      exact ⟨fun _ => by omega, fun hb => absurd hb h⟩
    · obtain ⟨rfl, -⟩ := List.cons.inj hsplit
      exact absurd (hbefore c (by simp)) h

theorem presses_of_same {c : UInt16} (h : SamePresses inv c) : (presses inv c).length = 2 := by
  unfold presses
  rw [if_pos h.1]
  rfl

theorem noTrouble_full {prev : UInt8} {c : UInt16} (keys : List UInt16) {n : Nat}
    (h : Mapped inv c) (hn : n < (keyEntries inv prev c).length + (presses inv c).length) :
    NoTrouble inv n prev (c :: keys) := by
  have htwo := presses_length_le inv c
  intro before b rest hsplit hbefore
  rcases before with _ | ⟨a, before⟩
  · obtain ⟨rfl, -⟩ := List.cons.inj hsplit
    refine ⟨fun hb => absurd h hb, fun _ _ => ?_⟩
    simp only [List.nil_append, textEntries, List.append_nil]
    omega
  · obtain ⟨rfl, -⟩ := List.cons.inj hsplit
    simp only [List.cons_append, textEntries, List.length_append]
    exact ⟨fun _ => by omega, fun _ _ => by omega⟩

theorem noTrouble_mapped {prev : UInt8} {c : UInt16} (keys : List UInt16) {n : Nat}
    (h : Mapped inv c) (hn : (keyEntries inv prev c).length + (presses inv c).length ≤ n) :
    NoTrouble inv n prev (c :: keys) ↔
      ¬ SamePresses inv c ∧
        NoTrouble inv (n - (keyEntries inv prev c).length) (lastScancode inv c) keys := by
  constructor
  · intro hno
    refine ⟨fun hsame => ?_, fun before b rest hsplit hbefore => ?_⟩
    · have hlt := (hno [] c keys rfl (by simp)).2 h hsame
      simp only [List.nil_append, textEntries, List.append_nil] at hlt
      rw [presses_of_same hsame] at hn
      omega
    · have hb := hno (c :: before) b rest (by rw [hsplit]; rfl)
        (fun a ha => (List.mem_cons.mp ha).elim (fun he => he ▸ h) (hbefore a))
      simp only [List.cons_append, textEntries, List.length_append] at hb
      exact ⟨fun hu => by have := hb.1 hu; omega, fun hm hs => by have := hb.2 hm hs; omega⟩
  · rintro ⟨hsame, hno⟩ before b rest hsplit hbefore
    rcases before with _ | ⟨a, before⟩
    · obtain ⟨rfl, -⟩ := List.cons.inj hsplit
      exact ⟨fun hb => absurd h hb, fun _ hs => absurd hs hsame⟩
    · obtain ⟨rfl, hkeys⟩ := List.cons.inj hsplit
      have hb := hno before b rest hkeys (fun a ha => hbefore a (List.mem_cons_of_mem c ha))
      simp only [List.cons_append, textEntries, List.length_append]
      exact ⟨fun hu => by have := hb.1 hu; omega, fun hm hs => by have := hb.2 hm hs; omega⟩

/-! ### The whole loop -/

/-- What the loop leaves after any text, `used` being the keys it took. -/
structure LoopEnds (inv : UInt16 → SignetdevKey) (n : Nat) (prev : UInt8) (keys : List UInt16)
    (r : LoopEnd) (used : List UInt16) : Prop where
  keys_eq : keys = used ++ r.rest
  mapped : ∀ c ∈ used, Mapped inv c
  entries : ∃ pad, (pad = [] ∨ pad = [0]) ∧ r.out = textEntries inv prev used ++ pad
  room : r.out.length + r.outLen = n
  space : 1 ≤ n → 1 ≤ r.outLen
  reported : r.noMapping = true ↔ ∃ c, r.rest.head? = some c ∧ ¬ Mapped inv c ∧ 2 ≤ r.outLen
  trouble : NoTrouble inv n prev keys ↔
    r.noMapping = false ∧ ∀ c ∈ used, ¬ SamePresses inv c

theorem scancodesLoop_ends (keys : List UInt16) :
    ∀ n prev, ∃ used, LoopEnds inv n prev keys (scancodesLoop inv n prev keys) used := by
  induction keys with
  | nil =>
    intro n prev
    have hend : scancodesLoop inv n prev [] = ⟨[], n, [], false⟩ := by
      rcases n with _ | _ | n <;> rfl
    rw [hend]
    refine ⟨[], ⟨rfl, by simp, ⟨[], Or.inl rfl, rfl⟩, by simp, id, by simp, ?_⟩⟩
    refine ⟨fun _ => ⟨rfl, by simp⟩, fun _ before c rest hsplit => ?_⟩
    simp at hsplit
  | cons c keys ih =>
    intro n prev
    by_cases h : Mapped inv c
    · by_cases hn : (keyEntries inv prev c).length + (presses inv c).length ≤ n
      · obtain ⟨used, hends⟩ := ih (n - (keyEntries inv prev c).length) (lastScancode inv c)
        rw [scancodesLoop_mapped keys h hn]
        have hpos := presses_length_pos inv c
        obtain ⟨pad, hpad, hout⟩ := hends.entries
        refine ⟨c :: used, ⟨?_, ?_, ⟨pad, hpad, ?_⟩, ?_, ?_, hends.reported, ?_⟩⟩
        · exact congrArg (c :: ·) hends.keys_eq
        · intro a ha
          rcases List.mem_cons.mp ha with rfl | ha
          · exact h
          · exact hends.mapped a ha
        · change keyEntries inv prev c ++ _ = _
          rw [hout, textEntries, List.append_assoc]
        · have hroom := hends.room
          simp only [List.length_append]
          omega
        · intro _
          exact hends.space (by omega)
        · rw [noTrouble_mapped keys h hn, hends.trouble]
          simp only [List.mem_cons, forall_eq_or_imp]
          tauto
      · have hfull : n < (keyEntries inv prev c).length + (presses inv c).length := by omega
        obtain ⟨pad, m, hend, hpad, hroom, hspace⟩ := scancodesLoop_full keys h hfull
        rw [hend]
        refine ⟨[], ⟨rfl, by simp, ⟨pad, hpad, rfl⟩, hroom, hspace, ?_, ?_⟩⟩
        · simp [h]
        · exact ⟨fun _ => ⟨rfl, by simp⟩, fun _ => noTrouble_full keys h hfull⟩
    · rw [scancodesLoop_unmapped prev keys n h]
      refine ⟨[], ⟨rfl, by simp, ⟨[], Or.inl rfl, rfl⟩, by simp, id, ?_, ?_⟩⟩
      · simp [h]
      · rw [noTrouble_unmapped prev keys n h]
        simp

/-! ### What the entries type -/

theorem replay_press {held : UInt8} {p : PhyKey} (es : List UInt16) (h : p.scancode ≠ 0)
    (hp : p.scancode ≠ held) :
    replay held (p.entry :: es) = p.entry :: replay p.scancode es := by
  rw [replay, scancodeOf_entry, if_pos ⟨h, hp⟩]

theorem replay_keyEntries (prev : UInt8) {c : UInt16} (es : List UInt16) (h : Mapped inv c)
    (hs : ¬ SamePresses inv c) :
    replay prev (keyEntries inv prev c ++ es) =
      presses inv c ++ replay (lastScancode inv c) es := by
  have hfree : ∀ held, held ≠ (inv c).phyKey0.scancode →
      replay held (presses inv c ++ es) = presses inv c ++ replay (lastScancode inv c) es := by
    intro held hheld
    unfold presses lastScancode
    by_cases h1 : (inv c).phyKey1.scancode ≠ 0
    · rw [if_pos h1, if_pos h1]
      have hne : (inv c).phyKey1.scancode ≠ (inv c).phyKey0.scancode := fun he => hs ⟨h1, he⟩
      simp only [List.cons_append, List.nil_append]
      rw [replay_press _ h (Ne.symm hheld), replay_press _ h1 hne]
    · rw [if_neg h1, if_neg h1]
      exact replay_press _ h (Ne.symm hheld)
  unfold keyEntries
  by_cases hp : prev = (inv c).phyKey0.scancode
  · rw [if_pos hp]
    exact hfree 0 (fun hz => h hz.symm)
  · rw [if_neg hp]
    exact hfree prev hp

theorem replay_textEntries (pad : List UInt16) (hpad : ∀ held, replay held pad = [])
    (used : List UInt16) : ∀ prev, (∀ c ∈ used, Mapped inv c) →
      (∀ c ∈ used, ¬ SamePresses inv c) →
      replay prev (textEntries inv prev used ++ pad) = used.flatMap (presses inv) := by
  induction used with
  | nil =>
    intro prev _ _
    exact hpad prev
  | cons c used ih =>
    intro prev hm hs
    rw [textEntries, List.append_assoc, replay_keyEntries prev _ (hm c (by simp)) (hs c (by simp)),
      ih _ (fun a ha => hm a (List.mem_cons_of_mem c ha))
        (fun a ha => hs a (List.mem_cons_of_mem c ha)), List.flatMap_cons]

/-! ### Equal scancodes in a row -/

/-- The entries keep equal scancodes apart, behind an entry with scancode `held`. -/
def KeepsApart (held : UInt8) (es : List UInt16) : Prop :=
  (held :: es.map scancodeOf).IsChain Apart

theorem keepsApart_cons (held : UInt8) (e : UInt16) (es : List UInt16) :
    KeepsApart held (e :: es) ↔ Apart held (scancodeOf e) ∧ KeepsApart (scancodeOf e) es := by
  unfold KeepsApart
  rw [List.map_cons, List.isChain_cons_cons]

theorem keepsApart_presses {held : UInt8} {c : UInt16} (es : List UInt16)
    (hp : held ≠ (inv c).phyKey0.scancode) :
    KeepsApart held (presses inv c ++ es) ↔
      ¬ SamePresses inv c ∧ KeepsApart (lastScancode inv c) es := by
  have hheld : Apart held (inv c).phyKey0.scancode := fun _ => hp
  unfold presses lastScancode
  by_cases h1 : (inv c).phyKey1.scancode ≠ 0
  · rw [if_pos h1, if_pos h1]
    simp only [List.cons_append, List.nil_append, keepsApart_cons, scancodeOf_entry]
    have hsame : Apart (inv c).phyKey0.scancode (inv c).phyKey1.scancode ↔
        ¬ SamePresses inv c := by
      unfold Apart SamePresses
      constructor
      · rintro ha ⟨-, he⟩
        exact ha (he ▸ h1) he.symm
      · intro hn _ he
        exact hn ⟨h1, he.symm⟩
    rw [hsame]
    exact ⟨fun h => h.2, fun h => ⟨hheld, h⟩⟩
  · rw [if_neg h1, if_neg h1]
    simp only [List.cons_append, List.nil_append, keepsApart_cons, scancodeOf_entry]
    exact ⟨fun h => ⟨fun hs => h1 hs.1, h.2⟩, fun h => ⟨hheld, h.2⟩⟩

theorem keepsApart_keyEntries (prev : UInt8) {c : UInt16} (es : List UInt16)
    (h : Mapped inv c) :
    KeepsApart prev (keyEntries inv prev c ++ es) ↔
      ¬ SamePresses inv c ∧ KeepsApart (lastScancode inv c) es := by
  unfold keyEntries
  by_cases hp : prev = (inv c).phyKey0.scancode
  · rw [if_pos hp, List.append_assoc]
    have hrelease : Apart prev (scancodeOf 0) := fun hne => hne
    have hzero : (0 : UInt8) ≠ (inv c).phyKey0.scancode := fun hz => h hz.symm
    rw [List.singleton_append, keepsApart_cons, scancodeOf_zero, keepsApart_presses es hzero]
    exact ⟨fun hk => hk.2, fun hk => ⟨hrelease, hk⟩⟩
  · rw [if_neg hp]
    exact keepsApart_presses es hp

theorem keepsApart_textEntries (pad : List UInt16) (hpad : ∀ held, KeepsApart held pad)
    (used : List UInt16) : ∀ prev, (∀ c ∈ used, Mapped inv c) →
      (KeepsApart prev (textEntries inv prev used ++ pad) ↔
        ∀ c ∈ used, ¬ SamePresses inv c) := by
  induction used with
  | nil =>
    intro prev _
    exact ⟨by simp, fun _ => hpad prev⟩
  | cons c used ih =>
    intro prev hm
    rw [textEntries, List.append_assoc, keepsApart_keyEntries prev _ (hm c (by simp)),
      ih _ (fun a ha => hm a (List.mem_cons_of_mem c ha))]
    simp

/-- In front of the first entry nothing is held. -/
theorem isChain_iff_keepsApart (es : List UInt16) :
    (es.map scancodeOf).IsChain Apart ↔ KeepsApart 0 es := by
  unfold KeepsApart
  rcases es with _ | ⟨e, es⟩
  · simp
  · rw [List.map_cons, List.isChain_cons_cons]
    exact ⟨fun h => ⟨fun hne => absurd rfl hne, h⟩, fun h => h.2⟩

/-- The release at the end, and perhaps one before it. -/
theorem pad_release {pad : List UInt16} (h : pad = [] ∨ pad = [0]) :
    (∀ held, replay held (pad ++ [0]) = []) ∧ ∀ held, KeepsApart held (pad ++ [0]) := by
  have hzero : ∀ held, Apart held 0 := fun held hne => hne
  rcases h with rfl | rfl
  · refine ⟨fun held => by simp [replay], fun held => ?_⟩
    exact (keepsApart_cons held 0 []).mpr ⟨hzero held, by simp [KeepsApart]⟩
  · refine ⟨fun held => by simp [replay], fun held => ?_⟩
    exact (keepsApart_cons held 0 [0]).mpr ⟨hzero held,
      (keepsApart_cons 0 0 []).mpr ⟨hzero 0, by simp [KeepsApart]⟩⟩

/-! ### The encoder -/

/-- The output is a right encoding exactly when the encoder comes to no key without a mapping
    and types no key whose two presses have the same scancode. -/
theorem encodes_iff (m : Keymaps) (table : List SignetdevKey) (keys : List UInt16) (cap : Nat)
    (hcap : 1 ≤ cap) :
    Encodes (signetdevSetKeymap m table).keymapInv keys cap
        (signetdevToScancodesW (signetdevSetKeymap m table).keymapInv keys cap) ↔
      NoTrouble (signetdevSetKeymap m table).keymapInv cap 0 keys := by
  generalize (signetdevSetKeymap m table).keymapInv = inv
  obtain ⟨used, hends⟩ := @scancodesLoop_ends inv keys cap 0
  have hspace := hends.space hcap
  have hroom := hends.room
  obtain ⟨pad, hpad, hout⟩ := hends.entries
  rw [hends.trouble]
  unfold signetdevToScancodesW
  generalize scancodesLoop inv cap 0 keys = r at *
  obtain ⟨hreplay, hkeeps⟩ := pad_release hpad
  by_cases hno : r.noMapping = true
  · -- the early return: `*out_len` is still the capacity
    dsimp only
    rw [if_pos hno]
    constructor
    · intro h
      have hlen : cap = r.out.length := h.counted
      omega
    · rintro ⟨hfalse, -⟩
      rw [hno] at hfalse
      cases hfalse
  · dsimp only
    rw [if_neg hno]
    have hfalse : r.noMapping = false := Bool.eq_false_iff.mpr hno
    have hchain := keepsApart_textEntries (pad ++ [0]) hkeeps used 0 hends.mapped
    rw [← List.append_assoc, ← hout, ← isChain_iff_keepsApart] at hchain
    constructor
    · intro h
      exact ⟨hfalse, hchain.mp h.apart⟩
    · rintro ⟨-, hsame⟩
      have hlen : (r.out ++ [0]).length = r.out.length + 1 := by simp
      refine ⟨?_, ?_, by simp, hchain.mpr hsame,
        ⟨used, r.rest, hends.keys_eq, hends.mapped, ?_, ?_, ?_⟩⟩
      · change (r.out ++ [0]).length ≤ cap
        omega
      · change cap + 1 - r.outLen = (r.out ++ [0]).length
        omega
      · have htyped := replay_textEntries (pad ++ [0]) hreplay used 0 hends.mapped hsame
        rwa [← List.append_assoc, ← hout] at htyped
      · change (if r.rest = [] then 0 else 1) = 0 → _
        split
        · intro _
          assumption
        · intro h
          cases h
      · change (if r.rest = [] then 0 else 1) = 2 ↔
          ∃ c, r.rest.head? = some c ∧ ¬ Mapped inv c ∧ (r.out ++ [0]).length < cap
        constructor
        · intro h
          split at h <;> cases h
        · rintro ⟨c, hhead, hc, hroomLeft⟩
          exact absurd (hends.reported.mpr ⟨c, hhead, hc, by omega⟩) hno

/-- A keymap with a letter and a dead key that is pressed twice for its character, set where
    there was none. -/
def deadKeymap : List SignetdevKey :=
  [⟨94, ⟨53, 0⟩, ⟨53, 0⟩⟩, ⟨97, ⟨4, 0⟩, ⟨0, 0⟩⟩]

def noKeymaps : Keymaps := ⟨[], fun c => ⟨c, ⟨0, 0⟩, ⟨0, 0⟩⟩⟩

/-- A text of keys that have a mapping, with two different scancodes where there are two, is
    encoded at every capacity. -/
theorem noTrouble_of_canType (cap : Nat) (prev : UInt8) {keys : List UInt16}
    (hall : signetdevCanTypeW inv keys = true) (hsame : ∀ c ∈ keys, ¬ SamePresses inv c) :
    NoTrouble inv cap prev keys := by
  intro before c rest hsplit hbefore
  have hmem : c ∈ keys := by
    rw [hsplit]
    simp
  have hmapped : Mapped inv c := of_decide_eq_true (List.all_eq_true.mp hall c hmem)
  exact ⟨fun h => absurd hmapped h, fun _ h => absurd h (hsame c hmem)⟩

theorem encodes_letter :
    Encodes (signetdevSetKeymap noKeymaps deadKeymap).keymapInv [97, 97] 4
      (signetdevToScancodesW (signetdevSetKeymap noKeymaps deadKeymap).keymapInv [97, 97] 4) := by
  have hletter : ¬ SamePresses (signetdevSetKeymap noKeymaps deadKeymap).keymapInv 97 := by decide
  refine (encodes_iff noKeymaps deadKeymap [97, 97] 4 (by decide)).mpr ?_
  refine noTrouble_of_canType 4 0 (by decide) ?_
  intro c hc
  have hc : c = 97 := by simpa using hc
  rw [hc]
  exact hletter

/-- Behind a letter a key without a mapping leaves the letter pressed, and the dead key is
    typed once. -/
theorem release_missing :
    ¬ Encodes (signetdevSetKeymap noKeymaps deadKeymap).keymapInv [97, 98] 8
        (signetdevToScancodesW (signetdevSetKeymap noKeymaps deadKeymap).keymapInv [97, 98] 8) ∧
      ¬ Encodes (signetdevSetKeymap noKeymaps deadKeymap).keymapInv [94] 8
        (signetdevToScancodesW (signetdevSetKeymap noKeymaps deadKeymap).keymapInv [94] 8) := by
  constructor
  · intro h
    exact absurd h.counted (by decide)
  · intro h
    have hapart := h.apart
    have hout : (signetdevToScancodesW (signetdevSetKeymap noKeymaps deadKeymap).keymapInv [94]
        8).out.map scancodeOf = [53, 53, 0] := by decide
    rw [hout, List.isChain_cons_cons] at hapart
    exact hapart.1 (by decide) rfl

end SignetBase.Keyboard
