/-
  SignetBase/Memory.lean
  ======================
  **Byte-addressed memory objects.**

  A C object (a union, a packed struct, a page of flash) is a function from byte
  offsets to bytes.  Slices of it are read and written as lists, little-endian
  integers as natural numbers, and a pointer into the middle of an object is a
  *window*.  Nothing here knows about the devices: the lemmas are the frame and
  read-back laws that a proof about overlapping structs needs.
-/
import Mathlib.Data.List.Basic
import Mathlib.Data.List.GetD
import Mathlib.Algebra.Ring.Int.Defs
import Mathlib.Algebra.Group.Nat.Defs
import Mathlib.Tactic.Common

namespace SignetBase

/-- A string of bytes, as `memcpy` and `memcmp` see it. -/
abbrev Bytes := List UInt8

/-- The bytes of one C object, by offset.  Bytes past the end of the object are
    whatever lies behind it. -/
abbrev Mem := Nat → UInt8

namespace Mem

/-! ### Slices -/

/-- The `n` bytes from offset `off`. -/
def read (m : Mem) (off n : Nat) : Bytes := (List.range n).map fun i => m (off + i)

/-- `memcpy(m + off, bs, |bs|)`. -/
def write (m : Mem) (off : Nat) (bs : Bytes) : Mem := fun a =>
  if off ≤ a ∧ a < off + bs.length then bs.getD (a - off) 0 else m a

/-- `memset(m + off, v, n)`. -/
def fill (m : Mem) (off n : Nat) (v : UInt8) : Mem := fun a =>
  if off ≤ a ∧ a < off + n then v else m a

/-- `memcpy(m + off, src + srcOff, n)` between objects. -/
def copy (m : Mem) (off : Nat) (src : Mem) (srcOff n : Nat) : Mem := fun a =>
  if off ≤ a ∧ a < off + n then src (srcOff + (a - off)) else m a

/-- The object that a pointer to offset `off` of `m` points to. -/
def window (m : Mem) (off : Nat) : Mem := fun a => m (off + a)

/-- `m` after a function that was given a pointer to offset `off` of it left `w`
    there. -/
def setWindow (m : Mem) (off : Nat) (w : Mem) : Mem := fun a =>
  if a < off then m a else w (a - off)

@[simp] theorem length_read (m : Mem) (off n : Nat) : (m.read off n).length = n := by
  simp [read]

@[simp] theorem getElem_read (m : Mem) (off n i : Nat) (h : i < (m.read off n).length) :
    (m.read off n)[i] = m (off + i) := by
  simp [read]

/-- Two slices are equal when they agree byte by byte. -/
theorem read_congr {m m' : Mem} {off off' n : Nat}
    (h : ∀ i < n, m (off + i) = m' (off' + i)) : m.read off n = m'.read off' n := by
  unfold read
  apply List.map_congr_left
  intro i hi
  exact h i (List.mem_range.mp hi)

/-- Equal slices agree byte by byte. -/
theorem apply_of_read_eq {m m' : Mem} {off off' n : Nat} (h : m.read off n = m'.read off' n)
    {i : Nat} (hi : i < n) : m (off + i) = m' (off' + i) := by
  have hlen : i < (m.read off n).length := by
    rw [length_read]
    exact hi
  have hlen' : i < (m'.read off' n).length := by
    rw [length_read]
    exact hi
  calc m (off + i) = (m.read off n)[i] := (getElem_read m off n i hlen).symm
    _ = (m'.read off' n)[i] := by simp only [h]
    _ = m' (off' + i) := getElem_read m' off' n i hlen'

theorem write_apply_of_mem (m : Mem) {off a : Nat} {bs : Bytes} (h : off ≤ a)
    (h' : a < off + bs.length) : m.write off bs a = bs[a - off] := by
  rw [write, if_pos ⟨h, h'⟩, List.getD_eq_getElem]

theorem write_apply_of_notMem (m : Mem) {off a : Nat} {bs : Bytes}
    (h : a < off ∨ off + bs.length ≤ a) : m.write off bs a = m a := by
  rw [write, if_neg (by omega)]

/-- A slice is its two parts. -/
theorem read_add (m : Mem) (off n k : Nat) :
    m.read off (n + k) = m.read off n ++ m.read (off + n) k := by
  unfold read
  rw [List.range_add, List.map_append, List.map_map]
  congr 1
  apply List.map_congr_left
  intro i _
  exact congrArg m (Nat.add_assoc off n i).symm

/-- What was just copied in is read back. -/
theorem read_write (m : Mem) (off : Nat) (bs : Bytes) (n : Nat) (hn : n = bs.length) :
    (m.write off bs).read off n = bs := by
  subst hn
  apply List.ext_getElem (by simp)
  intro i h1 h2
  rw [getElem_read, write_apply_of_mem m (by omega) (by omega)]
  simp

/-- A copy does not change a slice it does not meet. -/
theorem read_write_disjoint (m : Mem) {off a n : Nat} {bs : Bytes}
    (h : a + n ≤ off ∨ off + bs.length ≤ a) : (m.write off bs).read a n = m.read a n := by
  apply read_congr
  intro i hi
  exact write_apply_of_notMem m (by omega)

/-- Two strings written one behind the other are read back as one. -/
theorem read_write_write (m : Mem) (off : Nat) (bs bs' : Bytes) {n : Nat}
    (hn : n = bs.length + bs'.length) :
    ((m.write off bs).write (off + bs.length) bs').read off n = bs ++ bs' := by
  subst hn
  rw [read_add, read_write _ _ _ _ rfl]
  congr 1
  exact (read_write_disjoint _ (.inl (Nat.le_refl _))).trans (read_write m off bs _ rfl)

/-- A write is the writes of its two parts. -/
theorem write_append (m : Mem) (off : Nat) (bs bs' : Bytes) :
    m.write off (bs ++ bs') = (m.write off bs).write (off + bs.length) bs' := by
  funext a
  by_cases hin' : off + bs.length ≤ a ∧ a < off + bs.length + bs'.length
  · rw [write_apply_of_mem _ hin'.1 hin'.2,
      write_apply_of_mem _ (by omega) (by rw [List.length_append]; omega),
      List.getElem_append_right (by omega)]
    congr 1
    omega
  · rw [write_apply_of_notMem (m.write off bs) (by omega)]
    by_cases hin : off ≤ a ∧ a < off + bs.length
    · rw [write_apply_of_mem _ hin.1 hin.2,
        write_apply_of_mem _ hin.1 (by rw [List.length_append]; omega),
        List.getElem_append_left (by omega)]
    · rw [@write_apply_of_notMem m off a bs (by omega),
        write_apply_of_notMem m (by rw [List.length_append]; omega)]

theorem copy_apply_of_mem (m src : Mem) {off srcOff n a : Nat} (h : off ≤ a) (h' : a < off + n) :
    m.copy off src srcOff n a = src (srcOff + (a - off)) := by
  rw [copy, if_pos ⟨h, h'⟩]

theorem copy_apply_of_notMem (m src : Mem) {off srcOff n a : Nat} (h : a < off ∨ off + n ≤ a) :
    m.copy off src srcOff n a = m a := by
  rw [copy, if_neg (by omega)]

theorem read_copy (m src : Mem) (off srcOff n : Nat) :
    (m.copy off src srcOff n).read off n = src.read srcOff n := by
  apply read_congr
  intro i hi
  rw [copy_apply_of_mem m src (by omega) (by omega), Nat.add_sub_cancel_left]

theorem read_copy_disjoint (m src : Mem) {off srcOff n a k : Nat}
    (h : a + k ≤ off ∨ off + n ≤ a) : (m.copy off src srcOff n).read a k = m.read a k := by
  apply read_congr
  intro i hi
  exact copy_apply_of_notMem m src (by omega)

/-! ### Windows -/

@[simp] theorem window_apply (m : Mem) (off a : Nat) : m.window off a = m (off + a) := rfl

@[simp] theorem window_setWindow (m : Mem) (off : Nat) (w : Mem) :
    (m.setWindow off w).window off = w := by
  funext a
  rw [window_apply, setWindow, if_neg (by omega), Nat.add_sub_cancel_left]

/-- What was left behind the pointer is read back. -/
theorem read_setWindow (m : Mem) (off : Nat) (w : Mem) (n : Nat) :
    (m.setWindow off w).read off n = w.read 0 n := by
  apply read_congr
  intro i _
  have hi := congrFun (window_setWindow m off w) i
  rw [Nat.zero_add]
  exact hi

theorem setWindow_apply_of_lt (m : Mem) {off a : Nat} (w : Mem) (h : a < off) :
    m.setWindow off w a = m a := by
  rw [setWindow, if_pos h]

/-- Writes before a window leave the window alone. -/
theorem window_write_of_le (m : Mem) {off a : Nat} {bs : Bytes} (h : a + bs.length ≤ off) :
    (m.write a bs).window off = m.window off := by
  funext i
  exact write_apply_of_notMem m (by omega)

theorem read_window (m : Mem) (off a n : Nat) : (m.window off).read a n = m.read (off + a) n := by
  apply read_congr
  intro i _
  simp [Nat.add_assoc]

/-! ### Little-endian integers -/

/-- A `u16` at offset `off`. -/
def get16 (m : Mem) (off : Nat) : Nat := (m off).toNat + 256 * (m (off + 1)).toNat

/-- The two bytes of a `u16`, low byte first. -/
def bytes16 (v : Nat) : Bytes := [UInt8.ofNat v, UInt8.ofNat (v / 256)]

/-- Store a `u16`. -/
def put16 (m : Mem) (off v : Nat) : Mem := m.write off (bytes16 v)

/-- A `u32` at offset `off`. -/
def get32 (m : Mem) (off : Nat) : Nat := m.get16 off + 65536 * m.get16 (off + 2)

/-- The four bytes of a `u32`, low byte first. -/
def bytes32 (v : Nat) : Bytes := bytes16 v ++ bytes16 (v / 65536)

/-- Store a `u32`. -/
def put32 (m : Mem) (off v : Nat) : Mem := m.write off (bytes32 v)

/-- An `int` at offset `off`. -/
def getInt (m : Mem) (off : Nat) : Int :=
  if m.get32 off < 2 ^ 31 then (m.get32 off : Int) else (m.get32 off : Int) - 2 ^ 32

/-- Store an `int`. -/
def putInt (m : Mem) (off : Nat) (v : Int) : Mem := m.put32 off (v % 2 ^ 32).toNat

@[simp] theorem length_bytes16 (v : Nat) : (bytes16 v).length = 2 := rfl

@[simp] theorem length_bytes32 (v : Nat) : (bytes32 v).length = 4 := rfl

theorem get16_lt (m : Mem) (off : Nat) : m.get16 off < 65536 := by
  have h0 := (m off).toNat_lt
  have h1 := (m (off + 1)).toNat_lt
  unfold get16
  omega

theorem get32_lt (m : Mem) (off : Nat) : m.get32 off < 2 ^ 32 := by
  have h0 := m.get16_lt off
  have h1 := m.get16_lt (off + 2)
  unfold get32
  omega

/-- Integers depend on their own bytes only. -/
theorem get16_congr {m m' : Mem} {a a' : Nat} (h : ∀ i < 2, m (a + i) = m' (a' + i)) :
    m.get16 a = m'.get16 a' := by
  have h0 := h 0 (by omega)
  have h1 := h 1 (by omega)
  simp only [Nat.add_zero] at h0
  rw [get16, get16, h0, h1]

theorem get32_congr {m m' : Mem} {a a' : Nat} (h : ∀ i < 4, m (a + i) = m' (a' + i)) :
    m.get32 a = m'.get32 a' := by
  have h0 : m.get16 a = m'.get16 a' := get16_congr fun i hi => h i (by omega)
  have h1 : m.get16 (a + 2) = m'.get16 (a' + 2) := get16_congr fun i hi => by
    simpa only [Nat.add_assoc] using h (2 + i) (by omega)
  rw [get32, get32, h0, h1]

theorem getInt_congr {m m' : Mem} {a a' : Nat} (h : ∀ i < 4, m (a + i) = m' (a' + i)) :
    m.getInt a = m'.getInt a' := by
  rw [getInt, getInt, get32_congr h]

theorem get16_write (m : Mem) (off v : Nat) : (m.write off (bytes16 v)).get16 off = v % 65536 := by
  rw [get16, write_apply_of_mem m (by omega) (by simp), write_apply_of_mem m (by omega) (by simp)]
  simp [bytes16]
  omega

@[simp] theorem get16_put16 (m : Mem) (off v : Nat) : (m.put16 off v).get16 off = v % 65536 :=
  get16_write m off v

@[simp] theorem get32_put32 (m : Mem) (off v : Nat) : (m.put32 off v).get32 off = v % 2 ^ 32 := by
  have hlow : (m.put32 off v).get16 off = v % 65536 := by
    rw [← get16_write m off v]
    apply get16_congr
    intro i hi
    rw [put32, write_apply_of_mem m (by omega) (by simp; omega),
      write_apply_of_mem m (by omega) (by simp; omega)]
    simp only [bytes32, Nat.add_sub_cancel_left]
    rw [List.getElem_append_left]
  have hhigh : (m.put32 off v).get16 (off + 2) = (v / 65536) % 65536 := by
    rw [← get16_write m (off + 2) (v / 65536)]
    apply get16_congr
    intro i hi
    rw [put32, write_apply_of_mem m (by omega) (by simp; omega),
      write_apply_of_mem m (by omega) (by simp; omega)]
    simp only [bytes32]
    rw [List.getElem_append_right (by simp; omega)]
    congr 1
  rw [get32, hlow, hhigh]
  omega

/-- A copy does not change an integer it does not meet. -/
theorem get16_write_disjoint (m : Mem) {off a : Nat} {bs : Bytes}
    (h : a + 2 ≤ off ∨ off + bs.length ≤ a) : (m.write off bs).get16 a = m.get16 a :=
  get16_congr fun _ _ => write_apply_of_notMem m (by omega)

theorem get32_write_disjoint (m : Mem) {off a : Nat} {bs : Bytes}
    (h : a + 4 ≤ off ∨ off + bs.length ≤ a) : (m.write off bs).get32 a = m.get32 a :=
  get32_congr fun _ _ => write_apply_of_notMem m (by omega)

theorem getInt_write_disjoint (m : Mem) {off a : Nat} {bs : Bytes}
    (h : a + 4 ≤ off ∨ off + bs.length ≤ a) : (m.write off bs).getInt a = m.getInt a :=
  getInt_congr fun _ _ => write_apply_of_notMem m (by omega)

theorem get16_put16_disjoint (m : Mem) {off a : Nat} (v : Nat) (h : a + 2 ≤ off ∨ off + 2 ≤ a) :
    (m.put16 off v).get16 a = m.get16 a := get16_write_disjoint m h

theorem put16_apply_of_notMem (m : Mem) {off a : Nat} (v : Nat) (h : a < off ∨ off + 2 ≤ a) :
    m.put16 off v a = m a := write_apply_of_notMem m h

theorem put32_apply_of_notMem (m : Mem) {off a : Nat} (v : Nat) (h : a < off ∨ off + 4 ≤ a) :
    m.put32 off v a = m a := write_apply_of_notMem m h

theorem get16_put32_disjoint (m : Mem) {off a : Nat} (v : Nat) (h : a + 2 ≤ off ∨ off + 4 ≤ a) :
    (m.put32 off v).get16 a = m.get16 a := get16_write_disjoint m h

theorem get32_put16_disjoint (m : Mem) {off a : Nat} (v : Nat) (h : a + 4 ≤ off ∨ off + 2 ≤ a) :
    (m.put16 off v).get32 a = m.get32 a := get32_write_disjoint m h

theorem get32_put32_disjoint (m : Mem) {off a : Nat} (v : Nat) (h : a + 4 ≤ off ∨ off + 4 ≤ a) :
    (m.put32 off v).get32 a = m.get32 a := get32_write_disjoint m h

theorem get32_putInt_disjoint (m : Mem) {off a : Nat} (v : Int) (h : a + 4 ≤ off ∨ off + 4 ≤ a) :
    (m.putInt off v).get32 a = m.get32 a := get32_write_disjoint m h

end Mem

end SignetBase
