import Mathlib.Data.List.Induction
import Mathlib.Data.List.Basic

/-!
# Runs of deterministic machines

A machine consumes a list of inputs. What holds of every run is proved from one step, and may
mention the inputs consumed so far.
-/

namespace Runs

structure Machine (σ ε : Type*) where
  init : σ
  step : σ → ε → σ

namespace Machine
variable {σ ε : Type*} (M : Machine σ ε)

def run (es : List ε) : σ := es.foldl M.step M.init

def resume (s : σ) : Machine σ ε := { M with init := s }

@[simp] theorem run_nil : M.run [] = M.init := rfl

@[simp] theorem run_snoc (es : List ε) (e : ε) : M.run (es ++ [e]) = M.step (M.run es) e := by
  simp [run]

theorem run_append (es rest : List ε) : M.run (es ++ rest) = (M.resume (M.run es)).run rest := by
  simp [run, resume]

variable {M}

theorem run_history {P : List ε → σ → Prop} (start : P [] M.init)
    (step : ∀ es e, P es (M.run es) → P (es ++ [e]) (M.step (M.run es) e)) (es : List ε) :
    P es (M.run es) := by
  induction es using List.reverseRecOn with
  | nil => exact start
  | append_singleton es e ih => exact M.run_snoc es e ▸ step es e ih

/-- The rule for runs whose inputs all satisfy `Allowed`. -/
theorem run_allowed {P : List ε → σ → Prop} {Allowed : ε → Prop} (start : P [] M.init)
    (step : ∀ es e, Allowed e → P es (M.run es) → P (es ++ [e]) (M.step (M.run es) e)) {es : List ε}
    (allowed : ∀ e ∈ es, Allowed e) : P es (M.run es) := by
  refine run_history (M := M) (P := fun es s => (∀ e ∈ es, Allowed e) → P es s) (fun _ => start) ?_ es allowed
  intro es e ih allowed
  have before : ∀ x ∈ es, Allowed x := fun x hx => allowed x (List.mem_append_left _ hx)
  exact step es e (allowed e (by simp)) (ih before)

theorem run_invariant {I : σ → Prop} {Allowed : ε → Prop} (start : I M.init)
    (step : ∀ s e, Allowed e → I s → I (M.step s e)) {es : List ε} (allowed : ∀ e ∈ es, Allowed e) :
    I (M.run es) :=
  run_allowed (M := M) (P := fun _ s => I s) start (fun _ _ ok ih => step _ _ ok ih) allowed

variable {τ δ : Type*} {N : Machine τ δ}

/-- Two machines whose steps keep a relation keep it over runs on corresponding inputs. -/
theorem run_related {R : σ → τ → Prop} {f : ε → δ} (start : R M.init N.init)
    (step : ∀ s t e, R s t → R (M.step s e) (N.step t (f e))) (es : List ε) :
    R (M.run es) (N.run (es.map f)) := by
  induction es using List.reverseRecOn with
  | nil => exact start
  | append_singleton es e ih =>
    rw [List.map_append, List.map_singleton, run_snoc, run_snoc]
    exact step _ _ _ ih

/-! ### Endless inputs -/

def trace (M : Machine σ ε) (es : ℕ → ε) (n : ℕ) : σ := M.run ((List.range n).map es)

@[simp] theorem trace_zero (es : ℕ → ε) : M.trace es 0 = M.init := rfl

theorem trace_succ (es : ℕ → ε) (n : ℕ) : M.trace es (n + 1) = M.step (M.trace es n) (es n) := by
  rw [trace, List.range_succ, List.map_append, List.map_singleton, run_snoc, trace]

end Machine

/-! ### The latest input of a kind -/

section Latest
variable {ε : Type*} {p : ε → Prop} {es before : List ε} {e x : ε}

/-- `x` is the latest input of `es` that satisfies `p`, and `before` came before it. -/
def Latest (p : ε → Prop) (es before : List ε) (x : ε) : Prop :=
  p x ∧ ∃ after, es = before ++ x :: after ∧ ∀ y ∈ after, ¬p y

theorem snoc_eq_iff {after : List ε} : es ++ [e] = before ++ x :: after ↔
    es = before ∧ e = x ∧ after = [] ∨ ∃ rest, es = before ++ x :: rest ∧ after = rest ++ [e] := by
  constructor
  · intro same
    rcases List.eq_nil_or_concat after with rfl | ⟨rest, last, rfl⟩
    · obtain ⟨h, final⟩ := List.append_inj' same rfl
      exact Or.inl ⟨h, (List.cons.inj final).1, rfl⟩
    · rw [List.concat_eq_append, ← List.cons_append, ← List.append_assoc] at same
      obtain ⟨h, final⟩ := List.append_inj' same rfl
      exact Or.inr ⟨rest, h, by rw [List.concat_eq_append, (List.cons.inj final).1]⟩
  · rintro (⟨rfl, rfl, rfl⟩ | ⟨rest, rfl, rfl⟩)
    · rfl
    · simp

@[simp] theorem not_latest_nil : ¬Latest p [] before x := by
  rintro ⟨_, after, same, _⟩
  simp at same

theorem latest_snoc (holds : p e) : Latest p (es ++ [e]) before x ↔ before = es ∧ x = e := by
  constructor
  · rintro ⟨_, after, same, none⟩
    rcases snoc_eq_iff.mp same with ⟨rfl, rfl, _⟩ | ⟨rest, _, rfl⟩
    · exact ⟨rfl, rfl⟩
    · exact absurd holds (none e (by simp))
  · rintro ⟨rfl, rfl⟩
    exact ⟨holds, [], rfl, by simp⟩

theorem latest_snoc_skip (fails : ¬p e) :
    Latest p (es ++ [e]) before x ↔ Latest p es before x := by
  constructor
  · rintro ⟨holds, after, same, none⟩
    rcases snoc_eq_iff.mp same with ⟨_, rfl, _⟩ | ⟨rest, rfl, rfl⟩
    · exact absurd holds fails
    · exact ⟨holds, rest, rfl, fun y hy => none y (List.mem_append_left _ hy)⟩
  · rintro ⟨holds, after, rfl, none⟩
    refine ⟨holds, after ++ [e], by simp, ?_⟩
    intro y hy
    rcases List.mem_append.mp hy with old | new
    · exact none y old
    · exact (List.mem_singleton.mp new) ▸ fails

theorem latest_or_none (p : ε → Prop) (es : List ε) :
    (∃ before x, Latest p es before x) ∨ ∀ x ∈ es, ¬p x := by
  induction es using List.reverseRecOn with
  | nil => exact Or.inr (by simp)
  | append_singleton es e ih =>
    by_cases h : p e
    · exact Or.inl ⟨es, e, (latest_snoc h).mpr ⟨rfl, rfl⟩⟩
    rcases ih with ⟨before, x, latest⟩ | none
    · exact Or.inl ⟨before, x, (latest_snoc_skip h).mpr latest⟩
    · refine Or.inr fun x member => ?_
      rcases List.mem_append.mp member with old | new
      · exact none x old
      · exact List.mem_singleton.mp new ▸ h

end Latest

end Runs
