import BukkisDrone.Hid.Usages

/-!
# The usage iterator ends

On every descriptor. A pass takes a main item, or a usage, or one of the usages that a range has left.
-/

namespace BukkisDrone.Hid
open Runs

variable {it : UsageIterator}

/-! ### What collecting usages leaves alone -/

structure SameReport (it after : UsageIterator) : Prop where
  descriptorIterator : after.descriptorIterator = it.descriptorIterator
  state : after.state = it.state
  descriptorItem : after.descriptorItem = it.descriptorItem
  reportType : after.reportType = it.reportType
  reportPosInBit : after.reportPosInBit = it.reportPosInBit
  requiredUsages : after.requiredUsages = it.requiredUsages
  globals : after.globals = it.globals

theorem SameReport.refl (it : UsageIterator) : SameReport it it := ⟨rfl, rfl, rfl, rfl, rfl, rfl, rfl⟩

theorem SameReport.trans {first second third : UsageIterator} (left : SameReport first second)
    (right : SameReport second third) : SameReport first third where
  descriptorIterator := right.descriptorIterator.trans left.descriptorIterator
  state := right.state.trans left.state
  descriptorItem := right.descriptorItem.trans left.descriptorItem
  reportType := right.reportType.trans left.reportType
  reportPosInBit := right.reportPosInBit.trans left.reportPosInBit
  requiredUsages := right.requiredUsages.trans left.requiredUsages
  globals := right.globals.trans left.globals

theorem usagePageFound_same (item : Item) (it : UsageIterator) : SameReport it (usagePageFound item it) := by
  unfold usagePageFound
  split
  · exact ⟨rfl, rfl, rfl, rfl, rfl, rfl, rfl⟩
  · exact .refl it

theorem localUsage_same (haveMin haveMax : Bool) (item : Item) (it : UsageIterator) :
    SameReport it (localUsage haveMin haveMax item it).2.2 := by
  unfold localUsage
  dsimp only
  split <;> exact ⟨rfl, rfl, rfl, rfl, rfl, rfl, rfl⟩

theorem usageRangeFound_same (haveMin haveMax : Bool) (it : UsageIterator) :
    SameReport it (usageRangeFound haveMin haveMax it) := by
  unfold usageRangeFound
  split
  · exact ⟨rfl, rfl, rfl, rfl, rfl, rfl, rfl⟩
  · exact .refl it

theorem findUsageLoop_same (haveMin haveMax : Bool) (it : UsageIterator) (items : List Item) :
    SameReport it (findUsageLoop haveMin haveMax it items) := by
  induction items generalizing haveMin haveMax it with
  | nil => exact ⟨rfl, rfl, rfl, rfl, rfl, rfl, rfl⟩
  | cons item rest ih =>
    rw [findUsageLoop]
    split
    · exact ⟨rfl, rfl, rfl, rfl, rfl, rfl, rfl⟩
    dsimp only
    split
    · refine (usagePageFound_same item it).trans ?_
      refine (localUsage_same haveMin haveMax item _).trans ?_
      exact (usageRangeFound_same _ _ _).trans (ih _ _ _)
    · exact (usagePageFound_same item it).trans (ih _ _ _)

theorem hidFindNextUsage_same (it : UsageIterator) : SameReport it (hidFindNextUsage it) :=
  (⟨rfl, rfl, rfl, rfl, rfl, rfl, rfl⟩ : SameReport it { it with usageRange := false }).trans
    (findUsageLoop_same _ _ _ _)

/-! ### The usage cursor goes on -/

theorem usagePageFound_available (item : Item) (it : UsageIterator) :
    (usagePageFound item it).availableUsages = it.availableUsages := by
  unfold usagePageFound
  split <;> rfl

theorem localUsage_available (haveMin haveMax : Bool) (item : Item) (it : UsageIterator)
    (small : it.availableUsages < 2 ^ 16) :
    (localUsage haveMin haveMax item it).2.2.availableUsages < 2 ^ 16 := by
  unfold localUsage
  dsimp only
  split
  · exact Nat.one_lt_two_pow (by omega)
  all_goals exact small

theorem usageRangeFound_available (haveMin haveMax : Bool) (it : UsageIterator)
    (small : it.availableUsages < 2 ^ 16) :
    (usageRangeFound haveMin haveMax it).availableUsages < 2 ^ 16 := by
  unfold usageRangeFound
  split
  · exact Nat.mod_lt _ (Nat.two_pow_pos 16)
  · exact small

theorem findUsageLoop_advances (haveMin haveMax : Bool) (it : UsageIterator) (items : List Item)
    (small : it.availableUsages < 2 ^ 16) :
    (findUsageLoop haveMin haveMax it items).availableUsages < 2 ^ 16 ∧
      (findUsageLoop haveMin haveMax it items).usagePos.length ≤ items.length ∧
      (it.availableUsages = 0 → (findUsageLoop haveMin haveMax it items).availableUsages ≠ 0 →
        (findUsageLoop haveMin haveMax it items).usagePos.length < items.length) := by
  induction items generalizing haveMin haveMax it with
  | nil => exact ⟨small, le_refl _, fun none some => (some none).elim⟩
  | cons item rest ih =>
    rw [findUsageLoop]
    split
    · exact ⟨small, le_refl _, fun none => by contradiction⟩
    have paged : (usagePageFound item it).availableUsages < 2 ^ 16 := by rwa [usagePageFound_available]
    dsimp only
    split
    · obtain ⟨bounded, shorter, -⟩ := ih (localUsage haveMin haveMax item (usagePageFound item it)).1
        (localUsage haveMin haveMax item (usagePageFound item it)).2.1
        (usageRangeFound (localUsage haveMin haveMax item (usagePageFound item it)).1
          (localUsage haveMin haveMax item (usagePageFound item it)).2.1
          (localUsage haveMin haveMax item (usagePageFound item it)).2.2)
        (usageRangeFound_available _ _ _ (localUsage_available _ _ _ _ paged))
      exact ⟨bounded, Nat.le_succ_of_le shorter, fun _ _ => Nat.lt_succ_of_le shorter⟩
    · obtain ⟨bounded, shorter, -⟩ := ih haveMin haveMax _ paged
      exact ⟨bounded, Nat.le_succ_of_le shorter, fun _ _ => Nat.lt_succ_of_le shorter⟩

theorem hidFindNextUsage_advances (small : it.availableUsages < 2 ^ 16) :
    (hidFindNextUsage it).availableUsages < 2 ^ 16 ∧
      (hidFindNextUsage it).usagePos.length ≤ it.usagePos.length ∧
      (it.availableUsages = 0 → (hidFindNextUsage it).availableUsages ≠ 0 →
        (hidFindNextUsage it).usagePos.length < it.usagePos.length) :=
  findUsageLoop_advances false false { it with usageRange := false } it.usagePos small

/-! ### The rank -/

structure Bounded (total : ℕ) (it : UsageIterator) : Prop where
  ahead : it.descriptorIterator.length ≤ total
  usages : it.usagePos.length ≤ total
  available : it.availableUsages < 2 ^ 16
  required : it.requiredUsages < 2 ^ 16
  count : it.globals.reportCount < 2 ^ 16

/-- What holds of every state of an iterator over `total` items. -/
structure Sane (total : ℕ) (it : UsageIterator) : Prop extends Bounded total it where
  going : it.state = .usagesAvailable →
    it.availableUsages ≠ 0 ∧ (it.descriptorItem.isVariable = false → it.requiredUsages ≠ 0)

def UsageIterator.left (it : UsageIterator) : ℕ :=
  if it.descriptorItem.isVariable then it.availableUsages else it.requiredUsages

def rank (total : ℕ) (it : UsageIterator) : ℕ :=
  match it.state with
  | .parserComplete => 0
  | .scanForReportItem => it.descriptorIterator.length * ((total + 1) * 2 ^ 16)
  | .usagesAvailable =>
    it.descriptorIterator.length * ((total + 1) * 2 ^ 16) + (it.usagePos.length * 2 ^ 16 + it.left)

variable {total : ℕ}

theorem init_sane (items : List Item) (reportType : ReportType) :
    Sane items.length (usageIteratorInit items reportType) where
  ahead := le_refl _
  usages := le_refl _
  available := Nat.two_pow_pos 16
  required := Nat.two_pow_pos 16
  count := Nat.two_pow_pos 16
  going := by intro going; cases going

theorem Bounded.left_lt (bounded : Bounded total it) : it.left < 2 ^ 16 := by
  unfold UsageIterator.left
  split
  · exact bounded.available
  · exact bounded.required

theorem Sane.left_pos (sane : Sane total it) (going : it.state = .usagesAvailable) : 0 < it.left := by
  obtain ⟨available, required⟩ := sane.going going
  unfold UsageIterator.left
  split
  · exact Nat.pos_of_ne_zero available
  · rename_i array
    exact Nat.pos_of_ne_zero (required (Bool.not_eq_true _ ▸ array))

theorem Bounded.below (bounded : Bounded total it) :
    it.usagePos.length * 2 ^ 16 + it.left < (total + 1) * 2 ^ 16 := by
  have usages := bounded.usages
  have left := bounded.left_lt
  omega

theorem handleGlobalItem_count {item : Item} {before after : HidGlobals}
    (handled : handleGlobalItem item before = some after) (count : before.reportCount < 2 ^ 16) :
    after.reportCount < 2 ^ 16 := by
  unfold handleGlobalItem at handled
  split at handled <;> simp only [Option.some.injEq, reduceCtorEq] at handled <;> subst handled <;>
    try exact count
  exact (Nat.mod_lt _ (Nat.two_pow_pos 8)).trans (by decide)

theorem processItem_sane {item : Item} {after : UsageIterator} (sane : Sane total it)
    (scan : it.state = .scanForReportItem) (processed : processItem item it = some after) :
    Sane total after ∧ after.state = .scanForReportItem ∧ after.descriptorIterator = it.descriptorIterator := by
  have idle {p : Prop} : it.state = .usagesAvailable → p := by simp [scan]
  unfold processItem at processed
  split at processed
  · obtain rfl := Option.some.inj processed
    unfold processMainItem
    split_ifs
    · exact ⟨⟨⟨sane.ahead, sane.usages, sane.available, sane.required, sane.count⟩, idle⟩, scan, rfl⟩
    · exact ⟨sane, scan, rfl⟩
    · exact ⟨⟨⟨sane.ahead, sane.usages, sane.available, sane.count, sane.count⟩, idle⟩, scan, rfl⟩
    · exact ⟨sane, scan, rfl⟩
  · obtain ⟨g, handled, rfl⟩ := Option.map_eq_some_iff.mp processed
    have count := handleGlobalItem_count handled sane.count
    exact ⟨⟨⟨sane.ahead, sane.usages, sane.available, sane.required, count⟩, idle⟩, scan, rfl⟩
  · obtain rfl := Option.some.inj processed
    exact ⟨sane, scan, rfl⟩
  · obtain rfl := Option.some.inj processed
    exact ⟨sane, scan, rfl⟩

theorem hidFindNextUsage_bounded (bounded : Bounded total it) : Bounded total (hidFindNextUsage it) := by
  have same := hidFindNextUsage_same it
  obtain ⟨available, usages, -⟩ := hidFindNextUsage_advances bounded.available
  refine ⟨?_, usages.trans bounded.usages, available, ?_, ?_⟩
  · rw [same.descriptorIterator]
    exact bounded.ahead
  · rw [same.requiredUsages]
    exact bounded.required
  · rw [same.globals]
    exact bounded.count

theorem startField_sane (bounded : Bounded total it) (needs : it.requiredUsages ≠ 0) :
    Sane total (startField it) ∧ (startField it).descriptorIterator = it.descriptorIterator := by
  have same := hidFindNextUsage_same it
  obtain ⟨ahead, usages, available, required, count⟩ := hidFindNextUsage_bounded bounded
  refine ⟨⟨⟨ahead, usages, available, required, count⟩, fun going => ?_⟩, same.descriptorIterator⟩
  refine ⟨fun none => ?_, fun _ => same.requiredUsages ▸ needs⟩
  have stops : (startField it).state = .parserComplete := if_neg (not_not_intro none)
  rw [stops] at going
  cases going

theorem resetUsage_sane (item : Item) {rest : List Item} (sane : Sane total it)
    (scan : it.state = .scanForReportItem) (inside : rest.length ≤ total) :
    Sane total (resetUsage item rest it) ∧ (resetUsage item rest it).state = .scanForReportItem := by
  unfold resetUsage
  split
  · exact ⟨⟨⟨sane.ahead, inside, sane.available, sane.required, sane.count⟩, by simp [scan]⟩, scan⟩
  · exact ⟨sane, scan⟩

theorem scanLoop_sane {items : List Item} {after : UsageIterator} (sane : Sane total it)
    (scan : it.state = .scanForReportItem) (inside : items.length ≤ total)
    (scanned : scanLoop it items = some after) :
    Sane total after ∧ (after.state = .usagesAvailable → after.descriptorIterator.length < items.length) := by
  induction items generalizing it with
  | nil =>
    obtain rfl := Option.some.inj scanned
    exact ⟨⟨⟨Nat.zero_le _, sane.usages, sane.available, sane.required, sane.count⟩, by simp⟩, by simp⟩
  | cons item rest ih =>
    have shorter : rest.length ≤ total := Nat.le_of_succ_le inside
    have moved : Sane total { it with descriptorIterator := rest, descriptorItem := item } :=
      ⟨⟨shorter, sane.usages, sane.available, sane.required, sane.count⟩, by simp [scan]⟩
    rw [scanLoop] at scanned
    cases processed : processItem item { it with descriptorIterator := rest, descriptorItem := item } with
    | none => rw [processed] at scanned; cases scanned
    | some next =>
      obtain ⟨kept, still, same⟩ := processItem_sane moved scan processed
      rw [processed] at scanned
      dsimp only at scanned
      split at scanned
      · rename_i needs
        obtain rfl := Option.some.inj scanned
        obtain ⟨started, ahead⟩ := startField_sane kept.toBounded needs
        refine ⟨started, fun _ => ?_⟩
        rw [ahead, same, List.length_cons]
        exact Nat.lt_succ_self _
      · obtain ⟨reset, scanning⟩ := resetUsage_sane item kept still shorter
        obtain ⟨held, ahead⟩ := ih reset scanning shorter scanned
        exact ⟨held, fun going => Nat.lt_succ_of_lt (ahead going)⟩

theorem takeUsage_bounded (bounded : Bounded total it) : Bounded total (takeUsage it) := by
  have less : (it.availableUsages + 2 ^ 16 - 1) % 2 ^ 16 < 2 ^ 16 := Nat.mod_lt _ (Nat.two_pow_pos 16)
  unfold takeUsage
  dsimp only
  split
  · exact ⟨bounded.ahead, bounded.usages, less, Nat.two_pow_pos 16, bounded.count⟩
  · exact ⟨bounded.ahead, bounded.usages, less, bounded.required, bounded.count⟩

theorem keepUsages_bounded (bounded : Bounded total it) : Bounded total (keepUsages it) := by
  unfold keepUsages
  split
  · exact ⟨bounded.ahead, bounded.usages, Nat.two_pow_pos 16, bounded.required, bounded.count⟩
  · exact bounded

/-- Either something is left of the field that is taken, or a cursor goes on. -/
theorem findFurther_falls (bounded : Bounded total it) (going : it.state = .usagesAvailable)
    (array : it.availableUsages ≠ 0 → it.descriptorItem.isVariable = false → it.requiredUsages ≠ 0)
    {bound : ℕ} (less : it.availableUsages ≠ 0 → it.left < bound) (positive : 0 < bound) :
    Sane total (findFurther it) ∧
      rank total (findFurther it) <
        it.descriptorIterator.length * ((total + 1) * 2 ^ 16) + (it.usagePos.length * 2 ^ 16 + bound) := by
  unfold findFurther
  split
  · rename_i more
    have left := less more
    refine ⟨⟨bounded, fun _ => ⟨more, array more⟩⟩, ?_⟩
    simp only [rank, going]
    omega
  split
  · refine ⟨⟨⟨bounded.ahead, bounded.usages, bounded.available, bounded.required, bounded.count⟩, by simp⟩, ?_⟩
    simp only [rank]
    omega
  · rename_i none needs
    have zero : it.availableUsages = 0 := not_ne_iff.mp none
    have same := hidFindNextUsage_same it
    have after := hidFindNextUsage_bounded bounded
    obtain ⟨-, -, further⟩ := hidFindNextUsage_advances bounded.available
    dsimp only
    split
    · refine ⟨⟨⟨after.ahead, after.usages, after.available, after.required, after.count⟩, by simp⟩, ?_⟩
      simp only [rank]
      omega
    · rename_i found
      refine ⟨⟨after, fun _ => ⟨found, fun _ => same.requiredUsages ▸ needs⟩⟩, ?_⟩
      have cursor := further zero found
      have left := after.left_lt
      simp only [rank, same.state, going, same.descriptorIterator]
      omega

/-- The field that is taken is counted off. -/
theorem getItem_falls (sane : Sane total it) (going : it.state = .usagesAvailable) :
    Sane total (getItem it) ∧ rank total (getItem it) < rank total it := by
  obtain ⟨available, required⟩ := sane.going going
  have few := sane.available
  have positive := sane.left_pos going
  have here : rank total it =
      it.descriptorIterator.length * ((total + 1) * 2 ^ 16) + (it.usagePos.length * 2 ^ 16 + it.left) := by
    simp only [rank, going]
  have counted (pos : ℕ) : Bounded total { it with
      requiredUsages := (it.requiredUsages + 2 ^ 16 - 1) % 2 ^ 16, reportPosInBit := pos } :=
    ⟨sane.ahead, sane.usages, few, Nat.mod_lt _ (Nat.two_pow_pos 16), sane.count⟩
  rw [here]
  unfold getItem
  dsimp only
  split
  · rename_i single
    have bounded := takeUsage_bounded (counted ((it.reportPosInBit + it.globals.reportSize) % 2 ^ 16))
    revert bounded
    unfold takeUsage
    dsimp only
    intro bounded
    split
    · rename_i past
      rw [if_pos past] at bounded
      refine findFurther_falls bounded going (by simp [single]) (fun _ => ?_) positive
      simp only [UsageIterator.left, single, if_true]
      omega
    · rename_i within
      rw [if_neg within] at bounded
      refine findFurther_falls bounded going (by simp [single]) (fun _ => ?_) positive
      simp only [UsageIterator.left, single, if_true]
      omega
  · rename_i array
    have needs := required (Bool.not_eq_true _ ▸ array)
    have need := sane.required
    have bounded := keepUsages_bounded (counted ((it.reportPosInBit + it.globals.reportSize) % 2 ^ 16))
    revert bounded
    unfold keepUsages
    dsimp only
    intro bounded
    split
    · rename_i last
      rw [if_pos last] at bounded
      exact findFurther_falls bounded going (by simp) (by simp) positive
    · rename_i more
      rw [if_neg more] at bounded
      refine findFurther_falls bounded going (fun _ _ => more) (fun _ => ?_) positive
      simp only [UsageIterator.left, array, Bool.false_eq_true, if_false]
      omega

theorem usagePass_falls {field : ReportField} {next : UsageIterator} (sane : Sane total it)
    (pass : usagePass it = .emits field next) :
    Sane total next ∧ rank total next < rank total it := by
  unfold usagePass usageIteratorHasMore at pass
  split at pass
  · cases pass
  rename_i ready more
  split at pass
  · rename_i going
    obtain ⟨-, rfl⟩ := Pass.emits.inj pass
    split at more
    · rename_i scan
      obtain ⟨held, ahead⟩ := scanLoop_sane sane scan sane.ahead more
      obtain ⟨kept, falls⟩ := getItem_falls held going
      refine ⟨kept, falls.trans ?_⟩
      have below := held.below
      have shorter := Nat.mul_le_mul_right ((total + 1) * 2 ^ 16) (Nat.succ_le_of_lt (ahead going))
      rw [Nat.succ_mul] at shorter
      simp only [rank, going, scan]
      omega
    · obtain rfl := Option.some.inj more
      exact getItem_falls sane going
  · cases pass

/-! ### Failed assertions -/

/-- The global items that `btstack_hid_usage_iterator_handle_global_item` has a case for. -/
def Item.Known (item : Item) : Prop := item.itemType = .globalItem → globalItemTagOf item.itemTag ≠ none

instance : DecidablePred Item.Known := fun item =>
  inferInstanceAs (Decidable (item.itemType = .globalItem → globalItemTagOf item.itemTag ≠ none))

theorem handleGlobalItem_eq_none {item : Item} {g : HidGlobals} :
    handleGlobalItem item g = none ↔ globalItemTagOf item.itemTag = none := by
  unfold handleGlobalItem
  cases globalItemTagOf item.itemTag with
  | none => simp
  | some tag => cases tag <;> simp

theorem processItem_ne_none {item : Item} (known : item.Known) (it : UsageIterator) :
    processItem item it ≠ none := by
  unfold processItem
  split
  · exact Option.some_ne_none _
  · rename_i isGlobal
    exact fun none => known isGlobal (handleGlobalItem_eq_none.mp (Option.map_eq_none_iff.mp none))
  all_goals exact Option.some_ne_none _

theorem processItem_ahead {item : Item} {after : UsageIterator} (processed : processItem item it = some after) :
    after.descriptorIterator = it.descriptorIterator := by
  unfold processItem processMainItem at processed
  split at processed
  · obtain rfl := Option.some.inj processed
    split_ifs <;> rfl
  · obtain ⟨g, -, rfl⟩ := Option.map_eq_some_iff.mp processed
    rfl
  all_goals exact Option.some.inj processed ▸ rfl

theorem scanLoop_known {items : List Item} (known : ∀ item ∈ items, item.Known) (it : UsageIterator) :
    ∃ after, scanLoop it items = some after ∧ ∀ item ∈ after.descriptorIterator, item.Known := by
  induction items generalizing it with
  | nil => exact ⟨_, rfl, by simp⟩
  | cons item rest ih =>
    have later : ∀ other ∈ rest, other.Known := fun other member => known other (List.mem_cons_of_mem _ member)
    obtain ⟨next, processed⟩ := Option.ne_none_iff_exists'.mp
      (processItem_ne_none (known item List.mem_cons_self)
        { it with descriptorIterator := rest, descriptorItem := item })
    have ahead := processItem_ahead processed
    rw [scanLoop, processed]
    dsimp only
    split
    · refine ⟨_, rfl, ?_⟩
      have same := (hidFindNextUsage_same next).descriptorIterator
      intro other member
      exact later other (by rwa [startField, same, ahead] at member)
    · exact ih later _

theorem findFurther_ahead (it : UsageIterator) :
    (findFurther it).descriptorIterator = it.descriptorIterator := by
  unfold findFurther
  split_ifs
  · rfl
  · rfl
  dsimp only
  split_ifs <;> exact (hidFindNextUsage_same it).descriptorIterator

theorem getItem_ahead (it : UsageIterator) : (getItem it).descriptorIterator = it.descriptorIterator := by
  unfold getItem
  rw [findFurther_ahead]
  unfold takeUsage keepUsages
  dsimp only
  split_ifs <;> rfl

theorem usagePass_known (known : ∀ item ∈ it.descriptorIterator, item.Known) :
    usagePass it ≠ .aborted ∧ ∀ field next, usagePass it = .emits field next →
      ∀ item ∈ next.descriptorIterator, item.Known := by
  obtain ⟨ready, more, ahead⟩ : ∃ ready, usageIteratorHasMore it = some ready ∧
      ∀ item ∈ ready.descriptorIterator, item.Known := by
    unfold usageIteratorHasMore
    split
    · exact scanLoop_known known it
    · exact ⟨it, rfl, known⟩
  rw [usagePass, more]
  dsimp only
  split
  · refine ⟨by simp, fun field next same => ?_⟩
    obtain ⟨-, rfl⟩ := Pass.emits.inj same
    rwa [getItem_ahead]
  · simp

/-! ### All fields of a descriptor -/

/-- More passes than any descriptor of so many items needs. -/
def walkBound (total : ℕ) : ℕ := total * ((total + 1) * 2 ^ 16) + 1

/-- The fields of a descriptor, for reports of a type. -/
def walk (items : List Item) (reportType : ReportType) : Outcome ReportField :=
  loop usagePass (walkBound items.length) (usageIteratorInit items reportType)

theorem walkBound_items_le (wide : ℕ → ℕ → ℕ) (descriptor : List UInt8) :
    walkBound (items wide descriptor).length ≤ descriptor.length * ((descriptor.length + 1) * 2 ^ 16) + 1 := by
  have few := length_items_le wide descriptor
  exact Nat.succ_le_succ (Nat.mul_le_mul few (Nat.mul_le_mul_right _ (Nat.succ_le_succ few)))

theorem walk_not_running (items : List Item) (reportType : ReportType) : walk items reportType ≠ .running :=
  loop_not_running (I := Sane items.length) (rank items.length)
    (fun sane pass => (usagePass_falls sane pass).1) (fun sane pass => (usagePass_falls sane pass).2)
    (init_sane items reportType) (Nat.lt_succ_self _)

theorem walk_ended {items : List Item} (known : ∀ item ∈ items, item.Known) (reportType : ReportType) :
    ∃ fields, walk items reportType = .ended fields :=
  loop_ended (I := fun it => ∀ item ∈ it.descriptorIterator, item.Known)
    (fun holds pass => (usagePass_known holds).2 _ _ pass) (fun holds => (usagePass_known holds).1) known
    (walk_not_running items reportType)

/-- On every descriptor, whoever sent it, the usage iterator stops: it has given all its fields, or has failed
the assertion that a reserved global item fails. -/
theorem usageIterator_ends (wide : ℕ → ℕ → ℕ) (descriptor : List UInt8) (reportType : ReportType) :
    ∃ n ≤ descriptor.length * ((descriptor.length + 1) * 2 ^ 16) + 1,
      (∃ fields, loop usagePass n (usageIteratorInit (items wide descriptor) reportType) = .ended fields ∧
        fields.length < n) ∨
      (loop usagePass n (usageIteratorInit (items wide descriptor) reportType) = .aborted ∧
        ∃ item ∈ items wide descriptor, item.itemType = .globalItem ∧ globalItemTagOf item.itemTag = none) := by
  refine ⟨_, walkBound_items_le wide descriptor, ?_⟩
  cases outcome : walk (items wide descriptor) reportType with
  | running => exact (walk_not_running _ _ outcome).elim
  | ended fields => exact .inl ⟨fields, outcome, loop_length outcome⟩
  | aborted =>
    refine .inr ⟨outcome, ?_⟩
    by_contra unknown
    have known : ∀ item ∈ items wide descriptor, item.Known := fun item member isGlobal none =>
      unknown ⟨item, member, isGlobal, none⟩
    obtain ⟨fields, ended⟩ := walk_ended known reportType
    rw [outcome] at ended
    cases ended

end BukkisDrone.Hid
