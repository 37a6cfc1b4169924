import Mathlib.Algebra.Group.Fin.Basic
import Mathlib.Data.Vector.Basic
import Mathlib.Tactic.Abel

/-!
# Rings

A queue in a circle of `n + 1` cells. One cell stays free, which tells a full ring from an empty one.
-/

namespace Queues

variable {α : Type*} {n : ℕ}

structure Ring (α : Type*) (n : ℕ) where
  cells : Vector α (n + 1)
  head : Fin (n + 1)
  tail : Fin (n + 1)

namespace Ring

def length (r : Ring α n) : ℕ := (r.tail - r.head : Fin (n + 1))

def ahead (r : Ring α n) (k : ℕ) : Fin (n + 1) := r.head + Fin.ofNat (n + 1) k

def contents (r : Ring α n) : List α := (List.range r.length).map fun k => r.cells.get (r.ahead k)

def put (r : Ring α n) (x : α) : Ring α n :=
  { r with cells := r.cells.set r.tail x, tail := r.tail + 1 }

def get (r : Ring α n) : α × Ring α n := (r.cells.get r.head, { r with head := r.head + 1 })

def Full (r : Ring α n) : Prop := r.tail + 1 = r.head

def Empty (r : Ring α n) : Prop := r.head = r.tail

/-! ### Positions -/

theorem val_add_one_of_ne_zero {i : Fin (n + 1)} (h : i + 1 ≠ 0) : (i + 1).val = i.val + 1 := by
  rw [Fin.val_add_one, if_neg]
  rintro rfl
  exact h (Fin.last_add_one n)

theorem length_lt (r : Ring α n) : r.length < n + 1 := (r.tail - r.head).isLt

@[simp] theorem length_contents (r : Ring α n) : r.contents.length = r.length := by
  simp [contents]

@[simp] theorem ahead_zero (r : Ring α n) : r.ahead 0 = r.head := add_zero r.head

theorem ahead_succ (r : Ring α n) (k : ℕ) : r.ahead (k + 1) = r.get.2.ahead k := by
  have step : Fin.ofNat (n + 1) (k + 1) = Fin.ofNat (n + 1) k + 1 :=
    Fin.ext (by simp [Fin.ofNat, Fin.val_add])
  rw [ahead, ahead, step, get, add_comm (Fin.ofNat (n + 1) k), add_assoc]

theorem ahead_length (r : Ring α n) : r.ahead r.length = r.tail := by
  have whole : Fin.ofNat (n + 1) r.length = r.tail - r.head := Fin.ext (Nat.mod_eq_of_lt r.length_lt)
  rw [ahead, whole]
  abel

/-- The cell that `put` writes holds no element of the queue. -/
theorem ahead_ne_tail (r : Ring α n) {k : ℕ} (h : k < r.length) : r.ahead k ≠ r.tail := by
  intro same
  have distance : Fin.ofNat (n + 1) k = r.tail - r.head := by
    rw [← same, ahead]
    abel
  have value : k % (n + 1) = r.length := congrArg Fin.val distance
  rw [Nat.mod_eq_of_lt (h.trans r.length_lt)] at value
  omega

theorem length_put (r : Ring α n) (x : α) (room : ¬r.Full) : (r.put x).length = r.length + 1 := by
  have next : r.tail + 1 - r.head = r.tail - r.head + 1 := by abel
  rw [length, put, length, next]
  refine val_add_one_of_ne_zero fun wrapped => room ?_
  rwa [← next, sub_eq_zero] at wrapped

theorem length_get (r : Ring α n) (some : ¬r.Empty) : r.length = r.get.2.length + 1 := by
  have next : r.tail - (r.head + 1) + 1 = r.tail - r.head := by abel
  rw [get, length, length, ← next]
  refine val_add_one_of_ne_zero fun wrapped => some ?_
  rw [next, sub_eq_zero] at wrapped
  exact wrapped.symm

/-! ### The queue -/

theorem get_put_self (r : Ring α n) (x : α) : (r.put x).cells.get r.tail = x :=
  Vector.getElem_set_self r.tail.isLt

theorem get_put_other (r : Ring α n) (x : α) {i : Fin (n + 1)} (h : i ≠ r.tail) :
    (r.put x).cells.get i = r.cells.get i :=
  Vector.getElem_set_ne r.tail.isLt i.isLt fun same => h (Fin.ext same.symm)

theorem contents_put (r : Ring α n) (x : α) (room : ¬r.Full) :
    (r.put x).contents = r.contents ++ [x] := by
  rw [contents, r.length_put x room, List.range_succ, List.map_append, List.map_singleton]
  congr 1
  · refine List.map_congr_left fun k member => ?_
    exact r.get_put_other x (r.ahead_ne_tail (List.mem_range.mp member))
  · have last : (r.put x).ahead r.length = r.tail := r.ahead_length
    rw [last, get_put_self]

theorem contents_get (r : Ring α n) (some : ¬r.Empty) :
    r.contents = r.get.1 :: r.get.2.contents := by
  rw [contents, r.length_get some, List.range_succ_eq_map, List.map_cons, List.map_map, contents]
  congr 1
  · rw [ahead_zero, get]
  · refine List.map_congr_left fun k _ => ?_
    rw [Function.comp_apply, Nat.succ_eq_add_one, ahead_succ]
    rfl

theorem empty_iff (r : Ring α n) : r.Empty ↔ r.contents = [] := by
  rw [← List.length_eq_zero_iff, length_contents, length, Empty, Fin.val_eq_zero_iff, sub_eq_zero, eq_comm]

theorem full_iff (r : Ring α n) : r.Full ↔ r.contents.length = n := by
  have next : r.tail + 1 - r.head = r.tail - r.head + 1 := by abel
  rw [length_contents, Full, ← sub_eq_zero, next]
  constructor
  · intro wrapped
    by_contra short
    have small : r.tail - r.head < Fin.last n := by
      rw [Fin.lt_last_iff_ne_last]
      rintro same
      exact short (by rw [length, same, Fin.val_last])
    have value := congrArg Fin.val wrapped
    rw [Fin.val_add_one_of_lt small] at value
    exact absurd value (by simp)
  · intro long
    have last : r.tail - r.head = Fin.last n := Fin.ext long
    rw [last, Fin.last_add_one]

end Ring

end Queues
