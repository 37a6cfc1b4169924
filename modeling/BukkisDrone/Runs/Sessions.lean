import BukkisDrone.Runs.Machine
import Mathlib.Data.Set.Function
import Mathlib.Logic.Function.Basic
import Mathlib.Logic.Relation

/-!
# Session tables

A fixed set of slots, each free or held under a key, and the notes about the slots that an observer
gets: a session is announced as connected, becomes ready, delivers data and is released.
-/

namespace Sessions
open Runs

/-! ### Notes that still stand -/

section Standing
variable {ε : Type*} {up down e : ε} {es after : List ε}

def Turns (up down e : ε) : Prop := e = up ∨ e = down

/-- `up` came, and `down` has not come since. -/
def Standing (up down : ε) (es : List ε) : Prop := ∃ before, Latest (Turns up down) es before up

theorem not_standing_nil : ¬Standing up down [] := fun ⟨_, latest⟩ => not_latest_nil latest

theorem standing_snoc_up : Standing up down (es ++ [up]) :=
  ⟨es, (latest_snoc (p := Turns up down) (Or.inl rfl)).mpr ⟨rfl, rfl⟩⟩

theorem not_standing_snoc_down (ne : up ≠ down) : ¬Standing up down (es ++ [down]) := by
  rintro ⟨before, latest⟩
  exact ne ((latest_snoc (p := Turns up down) (Or.inr rfl)).mp latest).2

theorem standing_snoc (notUp : e ≠ up) (notDown : e ≠ down) :
    Standing up down (es ++ [e]) ↔ Standing up down es :=
  exists_congr fun _ => latest_snoc_skip (not_or.mpr ⟨notUp, notDown⟩)

theorem Standing.append (standing : Standing up down es) (none : ∀ x ∈ after, x ≠ down) :
    Standing up down (es ++ after) := by
  induction after using List.reverseRecOn with
  | nil => rwa [List.append_nil]
  | append_singleton after e ih =>
    rw [← List.append_assoc]
    have earlier := ih fun x member => none x (List.mem_append_left _ member)
    by_cases again : e = up
    · exact again ▸ standing_snoc_up
    · exact (standing_snoc again (none e (by simp))).mpr earlier

theorem standing_map {ε' : Type*} {f : ε → ε'} (inj : Function.Injective f) :
    Standing (f up) (f down) (es.map f) ↔ Standing up down es := by
  induction es using List.reverseRecOn with
  | nil => exact iff_of_false not_standing_nil not_standing_nil
  | append_singleton es e ih =>
    rw [List.map_append, List.map_singleton]
    by_cases again : e = up
    · exact again ▸ iff_of_true standing_snoc_up standing_snoc_up
    · by_cases undone : e = down
      · subst undone
        exact iff_of_false (not_standing_snoc_down fun same => again (inj same).symm)
          (not_standing_snoc_down (Ne.symm again))
      · rw [standing_snoc (inj.ne again) (inj.ne undone), standing_snoc again undone, ih]

end Standing

/-! ### Slots -/

variable {ι κ π : Type*}

structure Slot (κ : Type*) where
  key : Option κ
  connected : Bool
  ready : Bool

def Slot.free : Slot κ := ⟨none, false, false⟩

inductive Note (ι π : Type*) where
  | connected (i : ι)
  | ready (i : ι)
  | disconnected (i : ι)
  | data (i : ι) (payload : π)

def Note.slot : Note ι π → ι
  | .connected i | .ready i | .disconnected i | .data i _ => i

/-- What may happen to slot `i`, and the notes it gives. `Fresh` says that no slot holds a key yet. -/
inductive Move (Fresh : κ → Prop) (i : ι) (old : Slot κ) : Slot κ → List (Note ι π) → Prop where
  | assign (k : κ) (vacant : old.key = none) (fresh : Fresh k) : Move Fresh i old ⟨some k, false, false⟩ []
  | connect (held : old.key ≠ none) : Move Fresh i old { old with connected := true } [.connected i]
  | becomeReady : Move Fresh i old { old with ready := true } [.ready i]
  | unready : Move Fresh i old { old with ready := false } []
  | deliver (payload : π) (ready : old.ready) : Move Fresh i old old [.data i payload]
  | release : Move Fresh i old .free (if old.connected then [.disconnected i] else [])

/-- What a slot shows is what its notes say. -/
structure Slot.Sound (i : ι) (slot : Slot κ) (notes : List (Note ι π)) : Prop where
  held : slot.connected → slot.key ≠ none
  connected : slot.connected ↔ Standing (.connected i) (.disconnected i) notes
  ready : slot.ready → Standing (.ready i) (.disconnected i) notes

section Move
variable {Fresh : κ → Prop} {i j : ι} {old new slot : Slot κ} {notes more : List (Note ι π)}

theorem Move.about (move : Move Fresh i old new more) : ∀ note ∈ more, note.slot = i := by
  cases move with
  | assign | unready => exact fun note member => absurd member List.not_mem_nil
  | connect | becomeReady | deliver => exact fun note member => by rw [List.mem_singleton.mp member]; rfl
  | release =>
    intro note member
    split at member
    · rw [List.mem_singleton.mp member]; rfl
    · exact absurd member List.not_mem_nil

theorem Slot.Sound.frame (sound : slot.Sound j notes) (other : ∀ note ∈ more, note.slot ≠ j) :
    slot.Sound j (notes ++ more) := by
  induction more using List.reverseRecOn with
  | nil => rwa [List.append_nil]
  | append_singleton more note ih =>
    rw [← List.append_assoc]
    obtain ⟨held, connected, ready⟩ := ih fun x member => other x (List.mem_append_left _ member)
    have apart : note.slot ≠ j := other note (by simp)
    have skip : ∀ up : Note ι π, up.slot = j → note ≠ up := fun up same h => apart (h ▸ same)
    exact ⟨held, connected.trans (standing_snoc (skip _ rfl) (skip _ rfl)).symm,
      fun h => (standing_snoc (skip _ rfl) (skip _ rfl)).mpr (ready h)⟩

theorem Move.sound (move : Move Fresh i old new more) (sound : old.Sound i notes) :
    new.Sound i (notes ++ more) := by
  obtain ⟨held, connected, ready⟩ := sound
  have released : ¬old.connected → ¬Standing (.connected i) (.disconnected i) notes :=
    fun down => mt connected.mpr down
  cases move with
  | assign k vacant fresh =>
    have down : ¬old.connected := fun up => held up vacant
    rw [List.append_nil]
    exact ⟨fun h => absurd h Bool.false_ne_true, iff_of_false Bool.false_ne_true (released down),
      fun h => absurd h Bool.false_ne_true⟩
  | connect present =>
    refine ⟨fun _ => present, iff_of_true rfl standing_snoc_up, fun h => ?_⟩
    exact (standing_snoc (by simp) (by simp)).mpr (ready h)
  | becomeReady =>
    exact ⟨held, connected.trans (standing_snoc (by simp) (by simp)).symm, fun _ => standing_snoc_up⟩
  | unready =>
    rw [List.append_nil]
    exact ⟨held, connected, fun h => absurd h Bool.false_ne_true⟩
  | deliver payload =>
    exact ⟨held, connected.trans (standing_snoc (by simp) (by simp)).symm,
      fun h => (standing_snoc (by simp) (by simp)).mpr (ready h)⟩
  | release =>
    refine ⟨fun h => absurd h Bool.false_ne_true, iff_of_false Bool.false_ne_true ?_,
      fun h => absurd h Bool.false_ne_true⟩
    split
    · exact not_standing_snoc_down (by simp)
    · rename_i down
      rw [List.append_nil]
      exact released down

end Move

/-! ### Tables -/

structure Table (ι κ π : Type*) where
  slots : ι → Slot κ
  notes : List (Note ι π)

def Table.empty : Table ι κ π := ⟨fun _ => .free, []⟩

def Table.Fresh (t : Table ι κ π) (k : κ) : Prop := ∀ j, (t.slots j).key ≠ some k

variable [DecidableEq ι]

def Table.put (t : Table ι κ π) (i : ι) (slot : Slot κ) (more : List (Note ι π)) : Table ι κ π :=
  ⟨Function.update t.slots i slot, t.notes ++ more⟩

def Table.Step (t t' : Table ι κ π) : Prop :=
  ∃ i slot more, Move t.Fresh i (t.slots i) slot more ∧ t' = t.put i slot more

/-- What must stand before a note comes. -/
def Note.Due (before : List (Note ι π)) : Note ι π → Prop
  | .data i _ => Standing (.ready i) (.disconnected i) before
  | .disconnected i => Standing (.connected i) (.disconnected i) before
  | _ => True

/-- What holds of every table that steps reach from the empty one: no key is held twice, each slot
shows what its notes say, only ready slots gave data, and only connected ones were disconnected. -/
structure Table.Sound (t : Table ι κ π) : Prop where
  unique : ∀ i j k, (t.slots i).key = some k → (t.slots j).key = some k → i = j
  slots : ∀ i, (t.slots i).Sound i t.notes
  due : ∀ before note after, t.notes = before ++ note :: after → note.Due before

omit [DecidableEq ι] in
theorem sound_empty : (Table.empty : Table ι κ π).Sound where
  unique i j k h := by cases h
  slots i := ⟨fun h => absurd h Bool.false_ne_true, iff_of_false Bool.false_ne_true not_standing_nil,
    fun h => absurd h Bool.false_ne_true⟩
  due before note after h := by simp [Table.empty] at h

section Step
variable {t t' : Table ι κ π}

theorem unique_step (sound : t.Sound) {n : ι} {slot : Slot κ} {more : List (Note ι π)}
    (move : Move t.Fresh n (t.slots n) slot more) {i j : ι} {k : κ}
    (hi : ((t.put n slot more).slots i).key = some k) (hj : ((t.put n slot more).slots j).key = some k) :
    i = j := by
  have changed : slot.key = some k → (t.slots n).key = some k ∨ t.Fresh k := by
    intro key
    cases move with
    | assign new vacant fresh => exact Or.inr (Option.some.inj key ▸ fresh)
    | release => cases key
    | _ => exact Or.inl key
  simp only [Table.put, Function.update_apply] at hi hj
  split at hi <;> split at hj
  · rename_i same other
    rw [same, other]
  · rename_i same other
    rcases changed hi with old | fresh
    · exact same ▸ sound.unique n j k old hj
    · exact (fresh j hj).elim
  · rename_i other same
    rcases changed hj with old | fresh
    · exact same ▸ sound.unique i n k hi old
    · exact (fresh i hi).elim
  · exact sound.unique i j k hi hj

omit [DecidableEq ι] in
theorem due_step (sound : t.Sound) {n : ι} {slot : Slot κ} {more : List (Note ι π)}
    (move : Move t.Fresh n (t.slots n) slot more) {before after : List (Note ι π)} {note : Note ι π}
    (split : t.notes ++ more = before ++ note :: after) : note.Due before := by
  have last : ∀ new : Note ι π, new.Due t.notes → t.notes ++ [new] = before ++ note :: after →
      note.Due before := by
    intro new due same
    rcases snoc_eq_iff.mp same with ⟨whole, this, -⟩ | ⟨rest, earlier, -⟩
    · exact whole ▸ this ▸ due
    · exact sound.due before note rest earlier
  cases move with
  | assign | unready =>
    rw [List.append_nil] at split
    exact sound.due before note after split
  | connect | becomeReady =>
    refine last _ ?_ split
    trivial
  | deliver payload ready =>
    refine last _ ?_ split
    exact (sound.slots n).ready ready
  | release =>
    split_ifs at split with up
    · refine last _ ?_ split
      exact (sound.slots n).connected.mp up
    · rw [List.append_nil] at split
      exact sound.due before note after split

theorem sound_step (sound : t.Sound) (step : t.Step t') : t'.Sound := by
  obtain ⟨n, slot, more, move, rfl⟩ := step
  refine ⟨fun i j k => unique_step sound move, fun i => ?_, fun _ _ _ => due_step sound move⟩
  simp only [Table.put, Function.update_apply]
  split
  · rename_i same
    subst same
    exact move.sound (sound.slots i)
  · rename_i other
    exact (sound.slots i).frame fun note member => (move.about note member) ▸ Ne.symm other

theorem sound_reach (sound : t.Sound) (reach : Relation.ReflTransGen Table.Step t t') : t'.Sound := by
  induction reach with
  | refl => exact sound
  | tail _ step ih => exact sound_step ih step

end Step

end Sessions
