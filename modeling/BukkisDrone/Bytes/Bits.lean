import Mathlib.Data.Nat.Bitwise
import Mathlib.Tactic.Ring

/-!
# Bit fields of a byte buffer

A buffer is read as one little-endian number. A field is a slice of that number.
-/

namespace Bytes

/-- The least significant byte comes first. -/
def number : List UInt8 → ℕ
  | [] => 0
  | b :: bytes => b.toNat + 2 ^ 8 * number bytes

theorem number_append (left right : List UInt8) :
    number (left ++ right) = number left + 2 ^ (8 * left.length) * number right := by
  induction left with
  | nil => simp [number]
  | cons b left ih =>
    rw [List.cons_append, number, number, ih, List.length_cons, mul_add 8, pow_add]
    ring

theorem number_lt (bytes : List UInt8) : number bytes < 2 ^ (8 * bytes.length) := by
  induction bytes with
  | nil => simp [number]
  | cons b bytes ih =>
    have byte := b.toNat_lt
    rw [number, List.length_cons, mul_add 8, pow_add]
    omega

theorem number_drop (bytes : List UInt8) (k : ℕ) : number (bytes.drop k) = number bytes / 2 ^ (8 * k) := by
  rcases le_total bytes.length k with short | long
  · have small : number bytes < 2 ^ (8 * k) :=
      (number_lt bytes).trans_le (Nat.pow_le_pow_right (by omega) (by omega))
    rw [List.drop_of_length_le short, Nat.div_eq_of_lt small, number]
  · have split := number_append (bytes.take k) (bytes.drop k)
    have front := number_lt (bytes.take k)
    rw [List.take_append_drop, List.length_take, min_eq_left long] at split
    rw [List.length_take, min_eq_left long] at front
    rw [split, Nat.add_mul_div_left _ _ (Nat.two_pow_pos _), Nat.div_eq_of_lt front, zero_add]

theorem number_take (bytes : List UInt8) (k : ℕ) : number (bytes.take k) = number bytes % 2 ^ (8 * k) := by
  rcases le_total bytes.length k with short | long
  · have small : number bytes < 2 ^ (8 * k) :=
      (number_lt bytes).trans_le (Nat.pow_le_pow_right (by omega) (by omega))
    rw [List.take_of_length_le short, Nat.mod_eq_of_lt small]
  · have split := number_append (bytes.take k) (bytes.drop k)
    have front := number_lt (bytes.take k)
    rw [List.take_append_drop, List.length_take, min_eq_left long] at split
    rw [List.length_take, min_eq_left long] at front
    rw [split, Nat.add_mul_mod_self_left, Nat.mod_eq_of_lt front]

/-- The first `k` bytes of a number. -/
def bytesOf : ℕ → ℕ → List UInt8
  | 0, _ => []
  | k + 1, n => UInt8.ofNat n :: bytesOf k (n / 2 ^ 8)

@[simp] theorem length_bytesOf (k n : ℕ) : (bytesOf k n).length = k := by
  induction k generalizing n with
  | zero => rfl
  | succ k ih => rw [bytesOf, List.length_cons, ih]

theorem number_bytesOf {k n : ℕ} (fits : n < 2 ^ (8 * k)) : number (bytesOf k n) = n := by
  induction k generalizing n with
  | zero => simp at fits; simp [bytesOf, number, fits]
  | succ k ih =>
    rw [mul_add 8, pow_add] at fits
    have rest : n / 2 ^ 8 < 2 ^ (8 * k) := Nat.div_lt_of_lt_mul (by rwa [mul_comm])
    rw [bytesOf, number, ih rest, UInt8.toNat_ofNat']
    omega

/-! ### 32-bit shifts -/

/-- `x << n` on 32 bits. C leaves it undefined from 32 on: `wide` is what the target makes of it. -/
def shl (wide : ℕ → ℕ → ℕ) (x n : ℕ) : ℕ := (if n < 32 then x <<< n else wide x n) % 2 ^ 32

/-- A target that shifts by the low five bits of `n`. -/
def shiftModulo (x n : ℕ) : ℕ := x <<< (n % 32)

theorem shl_eq (wide : ℕ → ℕ → ℕ) {x n : ℕ} (fits : x * 2 ^ n < 2 ^ 32) (short : n < 32) :
    shl wide x n = x * 2 ^ n := by
  rw [shl, if_pos short, Nat.shiftLeft_eq, Nat.mod_eq_of_lt fits]

/-- The loop `value |= byte << (8 * i)`. -/
def gather (wide : ℕ → ℕ → ℕ) (i value : ℕ) : List UInt8 → ℕ
  | [] => value
  | b :: bytes => gather wide (i + 1) (value ||| shl wide b.toNat (8 * i)) bytes

theorem gather_eq (wide : ℕ → ℕ → ℕ) {i value : ℕ} {bytes : List UInt8} (short : i + bytes.length ≤ 4)
    (small : value < 2 ^ (8 * i)) : gather wide i value bytes = value + 2 ^ (8 * i) * number bytes := by
  induction bytes generalizing i value with
  | nil => simp [gather, number]
  | cons b bytes ih =>
    rw [List.length_cons] at short
    have byte := b.toNat_lt
    have power : (2 : ℕ) ^ (8 * i) ≤ 2 ^ 24 := Nat.pow_le_pow_right (by omega) (by omega)
    have next : (2 : ℕ) ^ (8 * (i + 1)) = 2 ^ (8 * i) * 2 ^ 8 := by rw [mul_add 8, pow_add]
    have placed : b.toNat * 2 ^ (8 * i) ≤ 255 * 2 ^ (8 * i) := Nat.mul_le_mul_right _ (by omega)
    have shifted : shl wide b.toNat (8 * i) = b.toNat * 2 ^ (8 * i) := shl_eq wide (by omega) (by omega)
    have joined : value ||| b.toNat * 2 ^ (8 * i) = value + 2 ^ (8 * i) * b.toNat := by
      rw [Nat.lor_comm, ← Nat.shiftLeft_eq, ← Nat.shiftLeft_add_eq_or_of_lt small, Nat.shiftLeft_eq]
      ring
    have bound : value + 2 ^ (8 * i) * b.toNat < 2 ^ (8 * (i + 1)) := by
      rw [next, mul_comm (2 ^ (8 * i)) b.toNat]
      omega
    rw [gather, shifted, joined, ih (by omega) bound, number, next]
    ring

/-! ### Slices -/

/-- The `size` bits of a number from bit `pos` on. -/
def slice (n pos size : ℕ) : ℕ := n / 2 ^ pos % 2 ^ size

theorem slice_number (bytes : List UInt8) (k n : ℕ) :
    slice (number bytes) (8 * k) (8 * n) = number ((bytes.drop k).take n) := by
  rw [number_take, number_drop, slice]

/-- A slice is found in any window that holds it. -/
theorem slice_window (n : ℕ) {start width pos size : ℕ} (after : start ≤ pos)
    (inside : pos + size ≤ start + width) :
    slice (n / 2 ^ start % 2 ^ width) (pos - start) size = slice n pos size := by
  refine Nat.eq_of_testBit_eq fun i => ?_
  simp only [slice, Nat.testBit_mod_two_pow, Nat.testBit_div_two_pow]
  by_cases low : i < size
  · have within : i + (pos - start) < width := by omega
    have same : i + (pos - start) + start = i + pos := by omega
    simp [low, within, same]
  · simp [low]

/-! ### Packing -/

/-- A field: its first bit, how many bits it has, and its value. -/
structure BitField where
  pos : ℕ
  size : ℕ
  value : ℕ

def pack : List BitField → ℕ
  | [] => 0
  | f :: fields => f.value * 2 ^ f.pos + pack fields

/-- Each field begins where the one before has ended, or later, and its value fits. -/
def Laid (start : ℕ) : List BitField → Prop
  | [] => True
  | f :: fields => start ≤ f.pos ∧ f.value < 2 ^ f.size ∧ Laid (f.pos + f.size) fields

theorem two_pow_dvd_pack {start : ℕ} {fields : List BitField} (laid : Laid start fields) :
    2 ^ start ∣ pack fields := by
  induction fields generalizing start with
  | nil => exact dvd_zero _
  | cons f fields ih =>
    obtain ⟨after, -, rest⟩ := laid
    have here : 2 ^ start ∣ f.value * 2 ^ f.pos := Dvd.dvd.mul_left (Nat.pow_dvd_pow 2 after) _
    exact Nat.dvd_add here ((Nat.pow_dvd_pow 2 (by omega)).trans (ih rest))

/-- Packing loses nothing. -/
theorem slice_pack {start low : ℕ} {fields : List BitField} (laid : Laid start fields)
    (below : low < 2 ^ start) :
    fields.map (fun f => slice (low + pack fields) f.pos f.size) = fields.map BitField.value := by
  induction fields generalizing start low with
  | nil => rfl
  | cons f fields ih =>
    obtain ⟨after, fits, rest⟩ := laid
    obtain ⟨above, rest_eq⟩ := two_pow_dvd_pack rest
    have under : low < 2 ^ f.pos := below.trans_le (Nat.pow_le_pow_right (by omega) after)
    have both : low + f.value * 2 ^ f.pos < 2 ^ (f.pos + f.size) := by
      have : f.value * 2 ^ f.pos + 2 ^ f.pos ≤ 2 ^ f.size * 2 ^ f.pos := by
        rw [← Nat.succ_mul]
        exact Nat.mul_le_mul_right _ fits
      rw [pow_add, mul_comm (2 ^ f.pos)]
      omega
    have here : slice (low + (f.value * 2 ^ f.pos + pack fields)) f.pos f.size = f.value := by
      rw [slice, rest_eq, pow_add, show low + (f.value * 2 ^ f.pos + 2 ^ f.pos * 2 ^ f.size * above) =
        low + 2 ^ f.pos * (f.value + 2 ^ f.size * above) by ring, Nat.add_mul_div_left _ _ (Nat.two_pow_pos _),
        Nat.div_eq_of_lt under, zero_add, Nat.add_mul_mod_self_left, Nat.mod_eq_of_lt fits]
    rw [List.map_cons, List.map_cons, pack, here, ← ih rest both, add_assoc]

theorem pack_lt {start stop : ℕ} {fields : List BitField} (laid : Laid start fields)
    (inside : ∀ f ∈ fields, f.pos + f.size ≤ stop) (reaches : start ≤ stop) : pack fields < 2 ^ stop := by
  induction fields generalizing start with
  | nil => exact Nat.two_pow_pos stop
  | cons f fields ih =>
    obtain ⟨-, fits, rest⟩ := laid
    have ends := inside f List.mem_cons_self
    have tail := ih rest (fun g member => inside g (List.mem_cons_of_mem _ member)) ends
    obtain ⟨above, rest_eq⟩ := two_pow_dvd_pack rest
    obtain ⟨room, full⟩ := Nat.pow_dvd_pow 2 ends
    have whole : above + 1 ≤ room := by
      rw [rest_eq, full] at tail
      exact Nat.lt_of_mul_lt_mul_left tail
    have head : f.value * 2 ^ f.pos < 2 ^ (f.pos + f.size) := by
      rw [pow_add, mul_comm]
      exact Nat.mul_lt_mul_of_pos_left fits (Nat.two_pow_pos _)
    calc pack (f :: fields) = f.value * 2 ^ f.pos + 2 ^ (f.pos + f.size) * above := by rw [pack, rest_eq]
      _ < 2 ^ (f.pos + f.size) * (above + 1) := by rw [mul_add]; omega
      _ ≤ 2 ^ (f.pos + f.size) * room := Nat.mul_le_mul_left _ whole
      _ = 2 ^ stop := full.symm

end Bytes
