import BukkisDrone.Runs.Machine

/-!
# Folds whose steps can fail

What the steps over a list keep, when they fail, and which element was the last to write a part of the state.
-/

namespace Runs

variable {σ ε α : Type*} {step : σ → ε → Option σ} {es : List ε} {s t : σ}

theorem foldlM_cons_some {e : ε} :
    (e :: es).foldlM step s = some t ↔ ∃ u, step s e = some u ∧ es.foldlM step u = some t := by
  rw [List.foldlM_cons]
  exact Option.bind_eq_some_iff

theorem foldlM_invariant {I : σ → Prop} (keeps : ∀ e ∈ es, ∀ {s t}, I s → step s e = some t → I t) (holds : I s)
    (done : es.foldlM step s = some t) : I t := by
  induction es generalizing s with
  | nil => exact Option.some.inj done ▸ holds
  | cons e es ih =>
    obtain ⟨u, first, rest⟩ := foldlM_cons_some.mp done
    exact ih (fun x member => keeps x (List.mem_cons_of_mem _ member)) (keeps e List.mem_cons_self holds first) rest

theorem foldlM_keeps {I : σ → Prop} (keeps : ∀ e ∈ es, ∀ s, I s → ∃ t, step s e = some t ∧ I t) (holds : I s) :
    ∃ t, es.foldlM step s = some t ∧ I t := by
  induction es generalizing s with
  | nil => exact ⟨s, rfl, holds⟩
  | cons e es ih =>
    obtain ⟨u, first, next⟩ := keeps e List.mem_cons_self s holds
    obtain ⟨t, rest, last⟩ := ih (fun x member => keeps x (List.mem_cons_of_mem _ member)) next
    exact ⟨t, foldlM_cons_some.mpr ⟨u, first, rest⟩, last⟩

variable (step)

/-- Where the state does not decide whether a step fails, the fold fails if any step does. -/
theorem foldlM_eq_none_iff {fails : ε → Prop} (decides : ∀ s e, step s e = none ↔ fails e) :
    es.foldlM step s = none ↔ ∃ e ∈ es, fails e := by
  induction es generalizing s with
  | nil => simp
  | cons e es ih =>
    rw [List.exists_mem_cons_iff]
    cases first : step s e with
    | none => simp [List.foldlM_cons, first, (decides s e).mp first]
    | some u =>
      have good : ¬fails e := fun bad => by simp [(decides s e).mpr bad] at first
      rw [or_iff_right good, List.foldlM_cons, first]
      exact ih

variable {step} in
/-- Two steps that agree where an invariant holds fold to the same. -/
theorem foldlM_congr {I : σ → Prop} {other : σ → ε → Option σ} (same : ∀ {s}, I s → step s = other s)
    (keeps : ∀ {s e t}, I s → step s e = some t → I t) (holds : I s) : es.foldlM step s = es.foldlM other s := by
  induction es generalizing s with
  | nil => rfl
  | cons e es ih =>
    rw [List.foldlM_cons, List.foldlM_cons, ← same holds]
    refine Option.bind_congr fun u stepped => ?_
    exact ih (keeps holds stepped)

/-- A part of the state holds what the latest element that writes it wrote. -/
theorem foldlM_latest {p : ε → Prop} {view : σ → α} {wrote : ε → Option α}
    (writes : ∀ {s e t}, step s e = some t → p e → wrote e = some (view t))
    (skips : ∀ {s e t}, step s e = some t → ¬p e → view t = view s) (done : es.foldlM step s = some t) :
    (∀ before e, Latest p es before e → wrote e = some (view t)) ∧ ((∀ e ∈ es, ¬p e) → view t = view s) := by
  induction es using List.reverseRecOn generalizing t with
  | nil =>
    obtain rfl := Option.some.inj done
    exact ⟨fun before e latest => (not_latest_nil latest).elim, fun _ => rfl⟩
  | append_singleton es e ih =>
    rw [List.foldlM_append] at done
    obtain ⟨u, front, last⟩ := Option.bind_eq_some_iff.mp done
    obtain ⟨w, stepped, same⟩ := foldlM_cons_some.mp last
    obtain rfl := Option.some.inj same
    obtain ⟨wrote_, kept⟩ := ih front
    by_cases holds : p e
    · refine ⟨fun before x latest => ?_, fun none => (none e (by simp) holds).elim⟩
      obtain ⟨-, rfl⟩ := (latest_snoc holds).mp latest
      exact writes stepped holds
    · rw [skips stepped holds]
      exact ⟨fun before x latest => wrote_ before x ((latest_snoc_skip holds).mp latest),
        fun none => kept fun x member => none x (List.mem_append_left _ member)⟩

end Runs
