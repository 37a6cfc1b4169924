import Mathlib.Data.List.Basic

/-!
# Loops

A loop emits items until it ends or aborts. A rank that falls with every item bounds how long it runs.
-/

namespace Runs

/-- One pass of a loop. -/
inductive Pass (σ α : Type*) where
  | ended
  | aborted
  | emits (a : α) (s : σ)

inductive Outcome (α : Type*) where
  | running
  | aborted
  | ended (items : List α)
  deriving DecidableEq

namespace Outcome
variable {α β : Type*}

def cons (a : α) : Outcome α → Outcome α
  | ended items => ended (a :: items)
  | other => other

def map (f : List α → List β) : Outcome α → Outcome β
  | running => running
  | aborted => aborted
  | ended items => ended (f items)

theorem cons_eq_running {a : α} {outcome : Outcome α} : outcome.cons a = running ↔ outcome = running := by
  cases outcome <;> simp [cons]

theorem cons_eq_ended {a : α} {outcome : Outcome α} {items : List α} :
    outcome.cons a = ended items ↔ ∃ rest, outcome = ended rest ∧ items = a :: rest := by
  cases outcome with
  | ended rest =>
    constructor
    · intro same
      exact ⟨rest, rfl, (ended.inj same).symm⟩
    · rintro ⟨other, same, rfl⟩
      rw [ended.inj same]
      rfl
  | _ => simp [cons]

end Outcome

variable {σ α : Type*}

/-- At most `n` passes. -/
def loop (step : σ → Pass σ α) : ℕ → σ → Outcome α
  | 0, _ => .running
  | n + 1, s =>
    match step s with
    | .ended => .ended []
    | .aborted => .aborted
    | .emits a t => (loop step n t).cons a

variable {step : σ → Pass σ α}

theorem loop_succ_emits {n : ℕ} {s t : σ} {a : α} (pass : step s = .emits a t) :
    loop step (n + 1) s = (loop step n t).cons a := by
  rw [loop, pass]

theorem loop_congr {n : ℕ} {s t : σ} (same : step s = step t) : loop step (n + 1) s = loop step (n + 1) t := by
  rw [loop, loop, same]

theorem loop_not_running {I : σ → Prop} (rank : σ → ℕ) (keeps : ∀ {s a t}, I s → step s = .emits a t → I t)
    (falls : ∀ {s a t}, I s → step s = .emits a t → rank t < rank s) {n : ℕ} {s : σ} (holds : I s)
    (enough : rank s < n) : loop step n s ≠ .running := by
  induction n generalizing s with
  | zero => omega
  | succ n ih =>
    cases pass : step s with
    | ended => simp [loop, pass]
    | aborted => simp [loop, pass]
    | emits a t =>
      have less := falls holds pass
      rw [loop_succ_emits pass]
      exact fun running => ih (keeps holds pass) (by omega) (Outcome.cons_eq_running.mp running)

theorem loop_mono {n m : ℕ} {s : σ} (finished : loop step n s ≠ .running) (le : n ≤ m) :
    loop step m s = loop step n s := by
  induction n generalizing s m with
  | zero => exact (finished rfl).elim
  | succ n ih =>
    obtain ⟨m, rfl⟩ : ∃ k, m = k + 1 := ⟨m - 1, by omega⟩
    cases pass : step s with
    | ended => simp [loop, pass]
    | aborted => simp [loop, pass]
    | emits a t =>
      rw [loop_succ_emits pass] at finished ⊢
      rw [loop_succ_emits pass, ih (mt Outcome.cons_eq_running.mpr finished) (by omega)]

theorem loop_ended {I : σ → Prop} {n : ℕ} {s : σ} (keeps : ∀ {s a t}, I s → step s = .emits a t → I t)
    (never : ∀ {s}, I s → step s ≠ .aborted) (holds : I s) (finished : loop step n s ≠ .running) :
    ∃ items, loop step n s = .ended items := by
  induction n generalizing s with
  | zero => exact (finished rfl).elim
  | succ n ih =>
    cases pass : step s with
    | ended => exact ⟨[], by simp [loop, pass]⟩
    | aborted => exact (never holds pass).elim
    | emits a t =>
      rw [loop_succ_emits pass] at finished ⊢
      obtain ⟨items, ended⟩ := ih (keeps holds pass) (mt Outcome.cons_eq_running.mpr finished)
      exact ⟨a :: items, by rw [ended, Outcome.cons]⟩

theorem loop_length {n : ℕ} {s : σ} {items : List α} (finished : loop step n s = .ended items) :
    items.length < n := by
  induction n generalizing s items with
  | zero => cases finished
  | succ n ih =>
    cases pass : step s with
    | ended =>
      rw [loop, pass] at finished
      rw [← Outcome.ended.inj finished]
      exact Nat.succ_pos n
    | aborted => rw [loop, pass] at finished; cases finished
    | emits a t =>
      rw [loop_succ_emits pass] at finished
      obtain ⟨rest, ended, rfl⟩ := Outcome.cons_eq_ended.mp finished
      exact Nat.succ_lt_succ (ih ended)

/-! ### Stretches of a loop -/

inductive Emits (step : σ → Pass σ α) : σ → List α → σ → Prop where
  | refl (s : σ) : Emits step s [] s
  | head {s t u : σ} {a : α} {items : List α} (pass : step s = .emits a t) (rest : Emits step t items u) :
      Emits step s (a :: items) u

theorem loop_emits {s t : σ} {items : List α} (emits : Emits step s items t) (n : ℕ) :
    loop step (items.length + n) s = (loop step n t).map (items ++ ·) := by
  induction emits with
  | refl s =>
    rw [List.length_nil, Nat.zero_add]
    cases loop step n s <;> rfl
  | @head _ t _ a items pass rest ih =>
    rw [List.length_cons, Nat.add_right_comm, loop_succ_emits pass, ih]
    cases loop step n _ <;> rfl

end Runs
