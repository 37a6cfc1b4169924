import BukkisDrone.Bluetooth.HidDevice
import BukkisDrone.Hid.Layout
import BukkisDrone.Hid.Walk

/-!
# The iterator reads what a descriptor means

Between main items, the items from the usage cursor to the main cursor hold the local items that no main item
has used.
-/

namespace BukkisDrone.Hid
open Runs

/-! ### The usages between the two cursors -/

def pageAfter (page : ℕ) (item : Item) : ℕ :=
  if item.itemType = .globalItem ∧ globalItemTagOf item.itemTag = some .usagePage then item.bits % 2 ^ 16
  else page

def collect (page : ℕ) : List Item → List LocalEntry × ℕ
  | [] => ([], page)
  | item :: rest =>
    ((localEntry (pageAfter page item) item).toList ++ (collect (pageAfter page item) rest).1,
      (collect (pageAfter page item) rest).2)

theorem collect_snoc (page : ℕ) (items : List Item) (item : Item) :
    collect page (items ++ [item]) =
      ((collect page items).1 ++ (localEntry (pageAfter (collect page items).2 item) item).toList,
        pageAfter (collect page items).2 item) := by
  induction items generalizing page with
  | nil => simp [collect]
  | cons first items ih => rw [List.cons_append, collect, ih, collect, List.append_assoc]

variable {it : UsageIterator}

theorem usagePageFound_eq (item : Item) (it : UsageIterator) :
    usagePageFound item it = { it with usagePage := pageAfter it.usagePage item } := by
  unfold usagePageFound pageAfter
  split_ifs <;> rfl

theorem findUsageLoop_full {haveMin haveMax : Bool} (full : it.availableUsages ≠ 0) (items : List Item) :
    findUsageLoop haveMin haveMax it items = { it with usagePos := items } := by
  cases items with
  | nil => rfl
  | cons item rest => rw [findUsageLoop, if_pos full]

theorem localUsage_of_entry_none {haveMin haveMax : Bool} {item : Item}
    (nothing : localEntry it.usagePage item = none) (isLocal : item.itemType = .localItem) :
    localUsage haveMin haveMax item it = (haveMin, haveMax, it) := by
  rw [localEntry, if_pos isLocal] at nothing
  unfold localUsage
  dsimp only
  split <;> simp_all

/-- The cursor skips what is no usage. -/
theorem findUsageLoop_skip {haveMin haveMax : Bool} {items rest : List Item} {entry : LocalEntry}
    {entries : List LocalEntry} {last : ℕ} (idle : ¬(haveMin ∧ haveMax)) (none : it.availableUsages = 0)
    (collected : collect it.usagePage items = (entry :: entries, last)) :
    ∃ item page left, item.itemType = .localItem ∧ localEntry page item = some entry ∧
      collect page left = (entries, last) ∧
      findUsageLoop haveMin haveMax it (items ++ rest) =
        findUsageLoop (localUsage haveMin haveMax item { it with usagePage := page }).1
          (localUsage haveMin haveMax item { it with usagePage := page }).2.1
          (usageRangeFound (localUsage haveMin haveMax item { it with usagePage := page }).1
            (localUsage haveMin haveMax item { it with usagePage := page }).2.1
            (localUsage haveMin haveMax item { it with usagePage := page }).2.2) (left ++ rest) := by
  induction items generalizing it with
  | nil => cases collected
  | cons item items ih =>
    rw [List.cons_append, findUsageLoop, if_neg (not_not_intro none), usagePageFound_eq]
    dsimp only
    rw [collect] at collected
    cases here : localEntry (pageAfter it.usagePage item) item with
    | some found =>
      rw [here] at collected
      obtain ⟨same, sameLast⟩ := Prod.mk.inj collected
      obtain ⟨rfl, sameEntries⟩ := List.cons.inj same
      have isLocal : item.itemType = .localItem := by
        by_contra other
        rw [localEntry, if_neg other] at here
        cases here
      rw [if_pos isLocal]
      exact ⟨item, _, items, isLocal, here, Prod.ext sameEntries sameLast, rfl⟩
    | none =>
      rw [here] at collected
      obtain ⟨next, page, left, isLocal, entry, remaining, same⟩ :=
        @ih { it with usagePage := pageAfter it.usagePage item } none collected
      refine ⟨next, page, left, isLocal, entry, remaining, ?_⟩
      split
      · rename_i here'
        rw [@localUsage_of_entry_none { it with usagePage := pageAfter it.usagePage item } _ _ _ here here']
        dsimp only
        rw [usageRangeFound, if_neg idle]
        exact same
      · exact same

theorem usageValue_lt (page : ℕ) (item : Item) : usageValue page item < 2 ^ 32 := by
  unfold usageValue
  split
  · exact UInt32.toNat_lt _
  · exact Nat.mod_lt _ (Nat.two_pow_pos 32)

theorem localUsage_of_entry {haveMin haveMax : Bool} {item : Item} {entry : LocalEntry}
    (here : localEntry it.usagePage item = some entry) :
    localUsage haveMin haveMax item it =
      match entry with
      | .usage u => (haveMin, haveMax, { it with availableUsages := 1, usageMinimum := u })
      | .usageMinimum u => (true, haveMax, { it with usageMinimum := u })
      | .usageMaximum u => (haveMin, true, { it with usageMaximum := u }) := by
  unfold localEntry at here
  split at here
  · split at here <;> rename_i tag <;> cases here <;> simp only [localUsage, tag]
  · cases here

theorem localEntry_lt {page : ℕ} {item : Item} {entry : LocalEntry} (here : localEntry page item = some entry) :
    match entry with
    | .usage u | .usageMinimum u | .usageMaximum u => u < 2 ^ 32 := by
  have small := usageValue_lt page item
  unfold localEntry at here
  split at here
  · split at here <;> cases here <;> exact small
  · cases here

/-- The usages that the cursor has found, and those that lie between it and the items `rest`. -/
inductive Stocked (rest : List Item) (page : ℕ) (it : UsageIterator) : List ℕ → Prop where
  | single {between : List Item} {entries : List LocalEntry} {us : List ℕ}
      (cursor : it.usagePos = between ++ rest) (pending : collect it.usagePage between = (entries, page))
      (others : usagesOf entries = some us) (one : it.availableUsages = 1) (noRange : it.usageRange = false) :
      Stocked rest page it (it.usageMinimum :: us)
  | range {between : List Item} {n : ℕ} (cursor : it.usagePos = between ++ rest)
      (pending : collect it.usagePage between = ([], page)) (count : it.availableUsages = n + 1)
      (few : n + 1 < 2 ^ 16) (isRange : it.usageRange = true)
      (greatest : it.usageMaximum = it.usageMinimum + n) (small : it.usageMaximum < 2 ^ 32) :
      Stocked rest page it (List.range' it.usageMinimum (n + 1))

variable {rest between : List Item} {page : ℕ} {entries : List LocalEntry} {us : List ℕ}

theorem Stocked.available (stocked : Stocked rest page it us) : it.availableUsages ≠ 0 := by
  cases stocked with
  | single _ _ _ one _ => omega
  | range _ _ count _ _ _ _ => omega

/-- A stock does not depend on the fields of the report. -/
theorem Stocked.congr {other : UsageIterator} (stocked : Stocked rest page it us)
    (usagePos : other.usagePos = it.usagePos) (usagePage : other.usagePage = it.usagePage)
    (usageMinimum : other.usageMinimum = it.usageMinimum) (usageMaximum : other.usageMaximum = it.usageMaximum)
    (availableUsages : other.availableUsages = it.availableUsages)
    (usageRange : other.usageRange = it.usageRange) : Stocked rest page other us := by
  cases stocked with
  | single cursor pending others one noRange =>
    rw [← usageMinimum]
    exact .single (usagePos.trans cursor) (usagePage ▸ pending) others (availableUsages.trans one)
      (usageRange.trans noRange)
  | range cursor pending count few isRange greatest small =>
    rw [← usageMinimum]
    exact .range (usagePos.trans cursor) (usagePage ▸ pending) (availableUsages.trans count) few
      (usageRange.trans isRange) (by rw [usageMaximum, usageMinimum, greatest]) (usageMaximum ▸ small)

theorem hidFindNextUsage_single {u : ℕ} (none : it.availableUsages = 0) (cursor : it.usagePos = between ++ rest)
    (pending : collect it.usagePage between = (.usage u :: entries, page)) (others : usagesOf entries = some us) :
    Stocked rest page (hidFindNextUsage it) (u :: us) := by
  obtain ⟨item, found, left, -, here, remaining, loop⟩ :=
    @findUsageLoop_skip { it with usageRange := false } false false between rest _ _ _ (by simp) none pending
  have same : hidFindNextUsage it =
      { it with
        usageRange := false, usagePage := found, availableUsages := 1, usageMinimum := u
        usagePos := left ++ rest } := by
    refine (congrArg (findUsageLoop false false { it with usageRange := false }) cursor).trans (loop.trans ?_)
    rw [@localUsage_of_entry { it with usageRange := false, usagePage := found } _ _ _ _ here]
    exact findUsageLoop_full Nat.one_ne_zero _
  rw [same]
  exact .single rfl remaining others rfl rfl

theorem hidFindNextUsage_range {least greatest : ℕ} (none : it.availableUsages = 0)
    (cursor : it.usagePos = between ++ rest)
    (pending : collect it.usagePage between = ([.usageMinimum least, .usageMaximum greatest], page))
    (le : least ≤ greatest) (few : greatest - least + 1 < 2 ^ 16) :
    Stocked rest page (hidFindNextUsage it) (List.range' least (greatest - least + 1)) ∧
      (hidFindNextUsage it).usageRange = true := by
  obtain ⟨first, firstPage, middle, -, here, remaining, loop⟩ :=
    @findUsageLoop_skip { it with usageRange := false } false false between rest _ _ _ (by simp) none pending
  obtain ⟨second, found, left, -, there, last, further⟩ :=
    @findUsageLoop_skip { it with usageRange := false, usagePage := firstPage, usageMinimum := least }
      true false middle rest _ _ _ (by simp) none remaining
  have small : greatest < 2 ^ 32 := localEntry_lt there
  have count : (greatest + 2 ^ 32 - least + 1) % 2 ^ 32 % 2 ^ 16 = greatest - least + 1 := by omega
  have same : hidFindNextUsage it =
      { it with
        usageRange := true, usagePage := found, availableUsages := greatest - least + 1
        usageMinimum := least, usageMaximum := greatest, usagePos := left ++ rest } := by
    refine (congrArg (findUsageLoop false false { it with usageRange := false }) cursor).trans (loop.trans ?_)
    rw [@localUsage_of_entry { it with usageRange := false, usagePage := firstPage } _ _ _ _ here]
    refine further.trans ?_
    rw [@localUsage_of_entry
      { it with usageRange := false, usagePage := found, usageMinimum := least } _ _ _ _ there]
    dsimp only
    rw [usageRangeFound, if_pos ⟨rfl, rfl⟩]
    dsimp only
    rw [count]
    exact findUsageLoop_full (Nat.succ_ne_zero _) _
  rw [same]
  exact ⟨.range rfl last rfl few rfl (by dsimp only; omega) small, rfl⟩

theorem hidFindNextUsage_stocked (none : it.availableUsages = 0) (cursor : it.usagePos = between ++ rest)
    (pending : collect it.usagePage between = (entries, page)) (named : usagesOf entries = some us)
    (more : us ≠ []) (few : us.length < 2 ^ 16) : Stocked rest page (hidFindNextUsage it) us := by
  unfold usagesOf at named
  split at named
  · exact (more (Option.some.inj named).symm).elim
  · split at named
    · rename_i le
      obtain rfl := Option.some.inj named
      rw [List.length_range'] at few
      exact (hidFindNextUsage_range none cursor pending le few).1
    · cases named
  · obtain ⟨others, read, rfl⟩ := Option.map_eq_some_iff.mp named
    exact hidFindNextUsage_single none cursor pending read
  · cases named

/-! ### The iterator and the scope -/

/-- Before a main item. -/
structure Scanning (rest : List Item) (s : Scope) (it : UsageIterator) : Prop where
  state : it.state = .scanForReportItem
  ahead : it.descriptorIterator = rest
  reportType : it.reportType = .input
  globals : it.globals = s.globals
  pos : it.reportPosInBit = s.pos
  available : it.availableUsages = 0
  required : it.requiredUsages = 0
  usages : ∃ between, it.usagePos = between ++ rest ∧
    collect it.usagePage between = (s.locals, s.globals.usagePage)

/-- In a main item, the fields of which are left to read. -/
structure InField (item : Item) (rest : List Item) (s : Scope) (left : ℕ) (it : UsageIterator) : Prop where
  state : it.state = .usagesAvailable
  ahead : it.descriptorIterator = rest
  reportType : it.reportType = .input
  globals : it.globals = s.globals
  pos : it.reportPosInBit = s.pos
  descriptorItem : it.descriptorItem = item
  required : it.requiredUsages = left

def Scope.next (s : Scope) : Scope := { s with pos := s.pos + s.globals.reportSize, locals := [] }

variable {item : Item} {s : Scope} {left : ℕ}

theorem getItem_globals (it : UsageIterator) : (getItem it).globals = it.globals := by
  have further (other : UsageIterator) : (findFurther other).globals = other.globals := by
    unfold findFurther
    split_ifs
    · rfl
    · rfl
    dsimp only
    split_ifs <;> exact (hidFindNextUsage_same other).globals
  unfold getItem
  rw [further]
  unfold takeUsage keepUsages
  dsimp only
  split_ifs <;> rfl

theorem InField.pass (inField : InField item rest s left it) :
    usagePass it = .emits ⟨s.globals, it.usageItem⟩ (getItem it) := by
  have idle : it.state ≠ .scanForReportItem := by rw [inField.state]; exact IteratorState.noConfusion
  rw [usagePass, usageIteratorHasMore, if_neg idle]
  dsimp only
  rw [if_pos inField.state, getItem_globals, inField.globals]

theorem findFurther_last (taken : InField item rest s.next 0 it) (none : it.availableUsages = 0)
    (usages : ∃ between, it.usagePos = between ++ rest ∧
      collect it.usagePage between = ([], s.globals.usagePage)) :
    Scanning rest s.next (findFurther it) := by
  rw [findFurther, if_neg (not_not_intro none), if_pos taken.required]
  exact ⟨rfl, taken.ahead, taken.reportType, taken.globals, taken.pos, none, taken.required, usages⟩

theorem findFurther_search (taken : InField item rest s.next us.length it) (none : it.availableUsages = 0)
    (cursor : it.usagePos = between ++ rest)
    (pending : collect it.usagePage between = (entries, s.globals.usagePage))
    (named : usagesOf entries = some us) (more : us ≠ []) (few : us.length < 2 ^ 16) :
    InField item rest s.next us.length (findFurther it) ∧
      Stocked rest s.globals.usagePage (findFurther it) us := by
  have stocked := hidFindNextUsage_stocked none cursor pending named more few
  have same := hidFindNextUsage_same it
  have needs : it.requiredUsages ≠ 0 := by
    rw [taken.required]
    exact mt List.length_eq_zero_iff.mp more
  have found : findFurther it = hidFindNextUsage it := by
    rw [findFurther, if_neg (not_not_intro none), if_neg needs]
    exact if_neg stocked.available
  rw [found]
  exact ⟨⟨same.state.trans taken.state, same.descriptorIterator.trans taken.ahead,
    same.reportType.trans taken.reportType, same.globals.trans taken.globals,
    same.reportPosInBit.trans taken.pos, same.descriptorItem.trans taken.descriptorItem,
    same.requiredUsages.trans taken.required⟩, stocked⟩

/-- `getItem` first counts the field off. -/
def counted (it : UsageIterator) : UsageIterator := { it with
  requiredUsages := (it.requiredUsages + 2 ^ 16 - 1) % 2 ^ 16
  reportPosInBit := (it.reportPosInBit + it.globals.reportSize) % 2 ^ 16 }

theorem InField.afterCount (inField : InField item rest s (left + 1) it)
    (fits : s.pos + s.globals.reportSize < 2 ^ 16) (few : left + 1 < 2 ^ 16) :
    InField item rest s.next left (counted it) where
  state := inField.state
  ahead := inField.ahead
  reportType := inField.reportType
  globals := inField.globals
  pos := by
    rw [Hid.counted, inField.pos, inField.globals, Nat.mod_eq_of_lt fits]
    rfl
  descriptorItem := inField.descriptorItem
  required := by
    rw [Hid.counted, inField.required]
    dsimp only
    omega

theorem getItem_variable (inField : InField item rest s left it) (isVariable : item.isVariable) :
    getItem it = findFurther (takeUsage (counted it)) := by
  rw [← inField.descriptorItem] at isVariable
  exact congrArg findFurther (if_pos isVariable)

theorem getItem_array (inField : InField item rest s left it) (array : ¬item.isVariable) :
    getItem it = findFurther (keepUsages (counted it)) := by
  rw [← inField.descriptorItem] at array
  exact congrArg findFurther (if_neg array)

/-- A usage is taken from the stock. -/
def drawn (it : UsageIterator) : UsageIterator := { counted it with
  usageMinimum := (it.usageMinimum + 1) % 2 ^ 32
  availableUsages := it.availableUsages - 1 }

theorem InField.afterDraw (taken : InField item rest s.next left (counted it)) :
    InField item rest s.next left (drawn it) :=
  ⟨taken.state, taken.ahead, taken.reportType, taken.globals, taken.pos, taken.descriptorItem, taken.required⟩

/-- Where the range ends, nothing of the field is left out. -/
theorem takeUsage_eq (taken : InField item rest s.next left (counted it)) (some : it.availableUsages ≠ 0)
    (few : it.availableUsages ≤ 2 ^ 16)
    (last : it.usageRange → it.usageMaximum < (it.usageMinimum + 1) % 2 ^ 32 → left = 0) :
    takeUsage (counted it) = drawn it := by
  have less : (it.availableUsages + 2 ^ 16 - 1) % 2 ^ 16 = it.availableUsages - 1 := by omega
  have required : (it.requiredUsages + 2 ^ 16 - 1) % 2 ^ 16 = left := taken.required
  unfold takeUsage drawn counted
  dsimp only
  rw [less, required]
  split
  · rename_i past
    rw [last past.1 past.2, mul_zero, add_zero, Nat.mod_mod]
  · rfl

theorem variable_single (inField : InField item rest s (us.length + 1) it) (isVariable : item.isVariable)
    (fits : s.pos + s.globals.reportSize < 2 ^ 16) (few : us.length + 1 < 2 ^ 16)
    (cursor : it.usagePos = between ++ rest)
    (pending : collect it.usagePage between = (entries, s.globals.usagePage))
    (others : usagesOf entries = some us) (one : it.availableUsages = 1) (noRange : it.usageRange = false) :
    (us = [] → Scanning rest s.next (getItem it)) ∧
      (us ≠ [] → InField item rest s.next us.length (getItem it) ∧
        Stocked rest s.globals.usagePage (getItem it) us) := by
  have taken := inField.afterCount fits few
  have none : (drawn it).availableUsages = 0 := by rw [drawn, one]
  rw [getItem_variable inField isVariable, takeUsage_eq taken (by omega) (by omega) (by simp [noRange])]
  refine ⟨fun last => ?_, fun more => ?_⟩
  · subst last
    have empty : entries = [] := by
      revert others
      unfold usagesOf
      split <;> simp
    subst empty
    exact findFurther_last taken.afterDraw none ⟨between, cursor, pending⟩
  · exact findFurther_search taken.afterDraw none cursor pending others more (by omega)

theorem variable_range {n : ℕ} (inField : InField item rest s (n + 1) it) (isVariable : item.isVariable)
    (fits : s.pos + s.globals.reportSize < 2 ^ 16) (few : n + 1 < 2 ^ 16)
    (cursor : it.usagePos = between ++ rest)
    (pending : collect it.usagePage between = ([], s.globals.usagePage))
    (count : it.availableUsages = n + 1) (isRange : it.usageRange = true)
    (greatest : it.usageMaximum = it.usageMinimum + n) (small : it.usageMaximum < 2 ^ 32) :
    (n = 0 → Scanning rest s.next (getItem it)) ∧
      (n ≠ 0 → InField item rest s.next n (getItem it) ∧
        Stocked rest s.globals.usagePage (getItem it) (List.range' (it.usageMinimum + 1) n)) := by
  have taken := inField.afterCount fits few
  have less : (drawn it).availableUsages = n := by rw [drawn, count]; rfl
  rw [getItem_variable inField isVariable, takeUsage_eq taken (by omega) (by omega) (by omega)]
  refine ⟨fun last => ?_, fun more => ?_⟩
  · subst last
    exact findFurther_last taken.afterDraw less ⟨between, cursor, pending⟩
  · have kept : findFurther (drawn it) = drawn it := by
      rw [findFurther, if_pos (by omega)]
    have next : (drawn it).usageMinimum = it.usageMinimum + 1 := Nat.mod_eq_of_lt (by omega)
    obtain ⟨m, rfl⟩ : ∃ m, n = m + 1 := ⟨n - 1, by omega⟩
    have maximum : (drawn it).usageMaximum = it.usageMaximum := rfl
    rw [kept, ← next]
    exact ⟨taken.afterDraw, .range cursor pending less (by omega) isRange (by omega) (by omega)⟩

/-- One field of a variable item. -/
theorem variable_step {u : ℕ} (inField : InField item rest s (us.length + 1) it)
    (stocked : Stocked rest s.globals.usagePage it (u :: us)) (isVariable : item.isVariable)
    (fits : s.pos + s.globals.reportSize < 2 ^ 16) (few : us.length + 1 < 2 ^ 16) :
    it.usageMinimum = u ∧ (us = [] → Scanning rest s.next (getItem it)) ∧
      (us ≠ [] → InField item rest s.next us.length (getItem it) ∧
        Stocked rest s.globals.usagePage (getItem it) us) := by
  generalize named : u :: us = all at stocked
  cases stocked with
  | single cursor pending others one noRange =>
    obtain ⟨rfl, rfl⟩ := List.cons.inj named
    exact ⟨rfl, variable_single inField isVariable fits few cursor pending others one noRange⟩
  | range cursor pending count short isRange greatest small =>
    rw [List.range'_succ] at named
    obtain ⟨rfl, rfl⟩ := List.cons.inj named
    rw [List.length_range'] at inField ⊢
    obtain ⟨ends, goesOn⟩ := variable_range inField isVariable fits short cursor pending count isRange
      greatest small
    refine ⟨rfl, fun last => ends ?_, fun more => goesOn ?_⟩
    · simpa using last
    · simpa using more

theorem usageItem_variable (inField : InField item rest s left it) (isVariable : item.isVariable) :
    (⟨s.globals, it.usageItem⟩ : ReportField) =
      fieldAt s.globals item s.pos (it.usageMinimum / 2 ^ 16) (it.usageMinimum % 2 ^ 16) := by
  rw [UsageIterator.usageItem, inField.descriptorItem, if_pos isVariable, inField.globals, inField.pos,
    Nat.shiftRight_eq_div_pow]
  rfl

/-- All fields of a variable item. -/
theorem variable_emits (inField : InField item rest s us.length it)
    (stocked : Stocked rest s.globals.usagePage it us) (isVariable : item.isVariable)
    (fits : s.pos + s.globals.reportSize * us.length < 2 ^ 16) (few : us.length < 2 ^ 16) :
    ∃ last, Emits usagePass it (variableFields s.globals item s.pos us) last ∧
      Scanning rest { s with pos := s.pos + s.globals.reportSize * us.length, locals := [] } last := by
  induction us generalizing it s with
  | nil => exact nomatch stocked
  | cons u us ih =>
    rw [List.length_cons, Nat.mul_succ] at fits
    rw [List.length_cons] at inField few
    obtain ⟨rfl, ends, goesOn⟩ := variable_step inField stocked isVariable (by omega) few
    have pass := inField.pass
    rw [usageItem_variable inField isVariable] at pass
    have stop : s.pos + s.globals.reportSize * (us.length + 1) =
        s.next.pos + s.next.globals.reportSize * us.length := by
      simp only [Scope.next, Nat.mul_succ]
      omega
    rw [List.length_cons, stop]
    cases us with
    | nil => exact ⟨_, .head pass (.refl _), ends rfl⟩
    | cons v us =>
      obtain ⟨next, more⟩ := goesOn (List.cons_ne_nil v us)
      obtain ⟨last, emits, scanning⟩ := ih (s := s.next) next more (by simp only [Scope.next]; omega) (by omega)
      exact ⟨last, .head pass emits, scanning⟩

/-- The stock of an array, of which nothing is taken. -/
structure Holding (rest : List Item) (page u : ℕ) (it : UsageIterator) : Prop where
  available : it.availableUsages ≠ 0
  usageMinimum : it.usageMinimum = u
  usages : ∃ between, it.usagePos = between ++ rest ∧ collect it.usagePage between = ([], page)

theorem usageItem_array (inField : InField item rest s left it) (array : ¬item.isVariable) :
    (⟨s.globals, it.usageItem⟩ : ReportField) = fieldAt s.globals item s.pos (it.usageMinimum / 2 ^ 16) 0 := by
  rw [UsageIterator.usageItem, inField.descriptorItem, if_neg array, inField.globals, inField.pos,
    Nat.shiftRight_eq_div_pow]
  rfl

theorem array_emits {u count : ℕ} (inField : InField item rest s (count + 1) it)
    (holding : Holding rest s.globals.usagePage u it) (array : ¬item.isVariable)
    (fits : s.pos + s.globals.reportSize * (count + 1) < 2 ^ 16) (few : count + 1 < 2 ^ 16) :
    ∃ last, Emits usagePass it (arrayFields s.globals item s.pos (u / 2 ^ 16) (count + 1)) last ∧
      Scanning rest { s with pos := s.pos + s.globals.reportSize * (count + 1), locals := [] } last := by
  induction count generalizing it s with
  | zero =>
    have taken := inField.afterCount (by omega) few
    have pass := inField.pass
    rw [usageItem_array inField array, holding.usageMinimum] at pass
    refine ⟨_, .head pass (.refl _), ?_⟩
    rw [getItem_array inField array, keepUsages, if_pos taken.required, Nat.mul_one]
    exact findFurther_last ⟨taken.state, taken.ahead, taken.reportType, taken.globals, taken.pos,
      taken.descriptorItem, taken.required⟩ rfl holding.usages
  | succ count ih =>
    have taken := inField.afterCount (by rw [Nat.mul_succ] at fits; omega) few
    have pass := inField.pass
    rw [usageItem_array inField array, holding.usageMinimum] at pass
    have needs : (counted it).requiredUsages ≠ 0 := by rw [taken.required]; omega
    have kept : getItem it = counted it := by
      rw [getItem_array inField array, keepUsages, if_neg needs, findFurther]
      exact if_pos holding.available
    rw [kept] at pass
    have stop : s.pos + s.globals.reportSize * (count + 1 + 1) =
        s.next.pos + s.next.globals.reportSize * (count + 1) := by
      rw [Nat.mul_succ _ (count + 1)]
      simp only [Scope.next]
      omega
    rw [stop] at fits ⊢
    obtain ⟨last, emits, scanning⟩ := ih (s := s.next) taken
      ⟨holding.available, holding.usageMinimum, holding.usages⟩ fits (by omega)
    exact ⟨last, .head pass emits, scanning⟩

theorem usagesOf_eq_nil (named : usagesOf entries = some []) : entries = [] := by
  revert named
  unfold usagesOf
  split <;> simp

theorem Stocked.holding {u : ℕ} (stocked : Stocked rest page it (u :: us)) (only : us = [] ∨ it.usageRange) :
    Holding rest page u it := by
  have available := stocked.available
  generalize named : u :: us = all at stocked
  cases stocked with
  | single cursor pending others one noRange =>
    obtain ⟨rfl, rfl⟩ := List.cons.inj named
    obtain rfl : us = [] := only.resolve_right (by simp [noRange])
    obtain rfl := usagesOf_eq_nil others
    exact ⟨available, rfl, _, cursor, pending⟩
  | range cursor pending count short isRange greatest small =>
    rw [List.range'_succ] at named
    obtain ⟨rfl, -⟩ := List.cons.inj named
    exact ⟨available, rfl, _, cursor, pending⟩

theorem hidFindNextUsage_holding {u : ℕ} (none : it.availableUsages = 0) (cursor : it.usagePos = between ++ rest)
    (pending : collect it.usagePage between = (entries, page)) (named : arrayUsageOf entries = some u) :
    Holding rest page u (hidFindNextUsage it) := by
  unfold arrayUsageOf at named
  split at named
  · obtain rfl := Option.some.inj named
    exact (hidFindNextUsage_single none cursor pending rfl).holding (.inl rfl)
  · split at named
    · rename_i fits
      obtain rfl := Option.some.inj named
      obtain ⟨stocked, isRange⟩ := hidFindNextUsage_range none cursor pending fits.1 fits.2
      rw [List.range'_succ] at stocked
      exact stocked.holding (.inr isRange)
    · cases named
  · cases named

/-! ### Items -/

theorem matches_input_iff (tag : ℕ) :
    mainItemTagMatchesReportType tag .input = true ↔ mainItemTagOf tag = some .input := by
  unfold mainItemTagMatchesReportType
  split <;> simp_all

theorem handleGlobalItem_of_declare {g after : HidGlobals} (declared : declare item g = some after) :
    handleGlobalItem item g = some after := by
  unfold declare at declared
  unfold handleGlobalItem
  cases tag : globalItemTagOf item.itemTag with
  | none => simp [tag] at declared
  | some known =>
    rw [tag] at declared
    cases known with
    | usagePage | reportSize | reportID | reportCount =>
      obtain ⟨fits, same⟩ := Option.ite_none_right_eq_some.mp declared
      dsimp only
      rw [Nat.mod_eq_of_lt (fits.trans_le (by decide)), same]
    | _ => exact declared

theorem pageAfter_of_declare {g after : HidGlobals} (isGlobal : item.itemType = .globalItem)
    (declared : declare item g = some after) : pageAfter g.usagePage item = after.usagePage := by
  unfold declare at declared
  unfold pageAfter
  cases tag : globalItemTagOf item.itemTag with
  | none => simp [tag] at declared
  | some known =>
    rw [tag] at declared
    cases known with
    | usagePage =>
      obtain ⟨fits, same⟩ := Option.ite_none_right_eq_some.mp declared
      rw [if_pos ⟨isGlobal, rfl⟩, Nat.mod_eq_of_lt fits, ← Option.some.inj same]
    | reportSize | reportID | reportCount =>
      obtain ⟨-, same⟩ := Option.ite_none_right_eq_some.mp declared
      rw [if_neg (by simp), ← Option.some.inj same]
    | _ =>
      rw [if_neg (by simp), ← Option.some.inj declared]

/-- What one item does, read by both. -/
inductive ItemRead (rest : List Item) (it : UsageIterator) (fields : List ReportField) (after : Scope) : Prop where
  | silent {next : UsageIterator} (none : fields = []) (scanning : Scanning rest after next)
      (same : usageIteratorHasMore it = usageIteratorHasMore next)
  | field {next last : UsageIterator} (more : usageIteratorHasMore it = some next)
      (going : next.state = .usagesAvailable) (emits : Emits usagePass next fields last)
      (scanning : Scanning rest after last)

variable {fields : List ReportField} {after : Scope}

theorem Scanning.hasMore (scanning : Scanning rest s it) : usageIteratorHasMore it = scanLoop it rest := by
  rw [usageIteratorHasMore, if_pos scanning.state, scanning.ahead]

/-- An item for which the iterator scans on. -/
theorem ItemRead.scanOn {next : UsageIterator} (scanning : Scanning (item :: rest) s it)
    (processed : processItem item { it with descriptorIterator := rest, descriptorItem := item } = some next)
    (idle : next.requiredUsages = 0) (after_ : Scanning rest after (resetUsage item rest next)) :
    ItemRead rest it [] after := by
  refine .silent rfl after_ ?_
  rw [scanning.hasMore, after_.hasMore, scanLoop, processed]
  exact if_neg (not_not_intro idle)

theorem localItem_read (scanning : Scanning (item :: rest) s it) (isLocal : item.itemType = .localItem) :
    ItemRead rest it [] { s with locals := s.locals ++ (localEntry s.globals.usagePage item).toList } := by
  obtain ⟨between, cursor, pending⟩ := scanning.usages
  have page : pageAfter s.globals.usagePage item = s.globals.usagePage :=
    if_neg fun h => by rw [isLocal] at h; cases h.1
  have reset (next : UsageIterator) : resetUsage item rest next = next := if_neg (by rw [isLocal]; simp)
  have processed : processItem item { it with descriptorIterator := rest, descriptorItem := item } =
      some { it with descriptorIterator := rest, descriptorItem := item } := by rw [processItem, isLocal]
  refine .scanOn scanning processed scanning.required ?_
  rw [reset]
  refine ⟨scanning.state, rfl, scanning.reportType, scanning.globals, scanning.pos, scanning.available,
    scanning.required, between ++ [item], ?_, ?_⟩
  · rw [List.append_assoc]
    exact cursor
  · rw [collect_snoc, pending, page]

theorem reservedItem_read (scanning : Scanning (item :: rest) s it) (reserved : item.itemType = .reservedItem) :
    ItemRead rest it [] s := by
  obtain ⟨between, cursor, pending⟩ := scanning.usages
  have page : pageAfter s.globals.usagePage item = s.globals.usagePage :=
    if_neg fun h => by rw [reserved] at h; cases h.1
  have nothing : localEntry s.globals.usagePage item = none := if_neg (by rw [reserved]; simp)
  have reset (next : UsageIterator) : resetUsage item rest next = next := if_neg (by rw [reserved]; simp)
  have processed : processItem item { it with descriptorIterator := rest, descriptorItem := item } =
      some { it with descriptorIterator := rest, descriptorItem := item } := by rw [processItem, reserved]
  refine .scanOn scanning processed scanning.required ?_
  rw [reset]
  refine ⟨scanning.state, rfl, scanning.reportType, scanning.globals, scanning.pos, scanning.available,
    scanning.required, between ++ [item], ?_, ?_⟩
  · rw [List.append_assoc]
    exact cursor
  · rw [collect_snoc, pending, page, nothing, Option.toList_none, List.append_nil]

theorem globalItem_read (scanning : Scanning (item :: rest) s it) (isGlobal : item.itemType = .globalItem)
    (meaning : s.global item = some after) : ItemRead rest it [] after := by
  obtain ⟨g, declared, moved⟩ := Option.bind_eq_some_iff.mp meaning
  obtain ⟨between, cursor, pending⟩ := scanning.usages
  have nothing : localEntry (pageAfter s.globals.usagePage item) item = none := if_neg (by rw [isGlobal]; simp)
  have reset (next : UsageIterator) : resetUsage item rest next = next := if_neg (by rw [isGlobal]; simp)
  obtain ⟨globals, pos, locals⟩ : after.globals = g ∧
      after.pos = (if s.globals.reportId ≠ g.reportId then 0 else s.pos) ∧ after.locals = s.locals := by
    split at moved
    · rename_i same
      obtain rfl := Option.some.inj moved
      exact ⟨rfl, (if_neg (not_not_intro same.symm)).symm, rfl⟩
    · rename_i new
      obtain ⟨-, same⟩ := Option.ite_none_left_eq_some.mp moved
      obtain rfl := Option.some.inj same
      exact ⟨rfl, (if_pos (Ne.symm new)).symm, rfl⟩
  have processed : processItem item { it with descriptorIterator := rest, descriptorItem := item } =
      some { it with
        descriptorIterator := rest, descriptorItem := item, globals := g
        reportPosInBit := if it.globals.reportId ≠ g.reportId then 0 else it.reportPosInBit } := by
    rw [processItem, isGlobal]
    dsimp only
    rw [scanning.globals, handleGlobalItem_of_declare declared]
    rfl
  refine .scanOn scanning processed scanning.required ?_
  rw [reset]
  refine ⟨scanning.state, rfl, scanning.reportType, globals.symm, ?_, scanning.available, scanning.required,
    between ++ [item], ?_, ?_⟩
  · rw [pos, ← scanning.pos, ← scanning.globals]
  · rw [List.append_assoc]
    exact cursor
  · rw [collect_snoc, pending, nothing, Option.toList_none, List.append_nil, locals, globals,
      pageAfter_of_declare isGlobal declared]

/-- A main item without fields drops the usages before it. -/
theorem mainItem_silent {stop : ℕ} (scanning : Scanning (item :: rest) s it)
    (isMain : item.itemType = .mainItem)
    (processed : processItem item { it with descriptorIterator := rest, descriptorItem := item } =
      some { it with descriptorIterator := rest, descriptorItem := item, reportPosInBit := stop }) :
    ItemRead rest it [] { s with pos := stop, locals := [] } := by
  refine .scanOn scanning processed scanning.required ?_
  rw [resetUsage, if_pos isMain]
  exact ⟨scanning.state, rfl, scanning.reportType, scanning.globals, rfl, scanning.available,
    scanning.required, [], rfl, by rw [collect, ← scanning.globals]⟩

/-- The iterator at a main item with fields. -/
def reached (item : Item) (rest : List Item) (count : ℕ) (it : UsageIterator) : UsageIterator :=
  { it with descriptorIterator := rest, descriptorItem := item, requiredUsages := count }

def started (it : UsageIterator) : UsageIterator := { hidFindNextUsage it with state := .usagesAvailable }

theorem mainItem_starts {count : ℕ} (scanning : Scanning (item :: rest) s it) (nonempty : count ≠ 0)
    (processed : processItem item { it with descriptorIterator := rest, descriptorItem := item } =
      some (reached item rest count it))
    (found : (hidFindNextUsage (reached item rest count it)).availableUsages ≠ 0) :
    usageIteratorHasMore it = some (started (reached item rest count it)) ∧
      InField item rest s count (started (reached item rest count it)) := by
  have same := hidFindNextUsage_same (reached item rest count it)
  refine ⟨?_, rfl, same.descriptorIterator, same.reportType.trans scanning.reportType,
    same.globals.trans scanning.globals, same.reportPosInBit.trans scanning.pos, same.descriptorItem,
    same.requiredUsages⟩
  have needs : (reached item rest count it).requiredUsages ≠ 0 := nonempty
  rw [scanning.hasMore, scanLoop, processed]
  dsimp only
  rw [if_pos needs, startField, if_pos found]
  rfl

theorem mainItem_fields (scanning : Scanning (item :: rest) s it) (isMain : item.itemType = .mainItem)
    (nonempty : s.globals.reportCount ≠ 0) (few : s.globals.reportCount < 2 ^ 16) (fits : s.stop < 2 ^ 16)
    (processed : processItem item { it with descriptorIterator := rest, descriptorItem := item } =
      some (reached item rest s.globals.reportCount it))
    (meaning : s.fields item = some fields) :
    ItemRead rest it fields { s with pos := s.stop, locals := [] } := by
  obtain ⟨between, cursor, pending⟩ := scanning.usages
  have page : pageAfter s.globals.usagePage item = s.globals.usagePage :=
    if_neg fun h => by rw [isMain] at h; cases h.1
  have nothing : localEntry s.globals.usagePage item = none := if_neg (by rw [isMain]; simp)
  have cursor' : (reached item rest s.globals.reportCount it).usagePos = (between ++ [item]) ++ rest := by
    rw [List.append_assoc]
    exact cursor
  have pending' : collect (reached item rest s.globals.reportCount it).usagePage (between ++ [item]) =
      (s.locals, s.globals.usagePage) := by
    rw [reached, collect_snoc, pending, page, nothing, Option.toList_none, List.append_nil]
  have none : (reached item rest s.globals.reportCount it).availableUsages = 0 := scanning.available
  unfold Scope.fields at meaning
  split at meaning
  · rename_i isVariable
    obtain ⟨us, named, enough⟩ := Option.bind_eq_some_iff.mp meaning
    obtain ⟨count, same⟩ := Option.ite_none_right_eq_some.mp enough
    obtain rfl := Option.some.inj same
    have more : us ≠ [] := fun empty => nonempty (by rw [← count, empty, List.length_nil])
    have found := hidFindNextUsage_stocked none cursor' pending' named more (by omega)
    have stocked : Stocked rest s.globals.usagePage (started (reached item rest s.globals.reportCount it)) us :=
      found.congr rfl rfl rfl rfl rfl rfl
    obtain ⟨hasMore, inField⟩ := mainItem_starts scanning nonempty processed found.available
    obtain ⟨last, emits, done⟩ := variable_emits (by rw [count]; exact inField) stocked isVariable
      (by rw [count]; exact fits) (by omega)
    rw [count] at done
    exact .field hasMore rfl emits done
  · rename_i array
    obtain ⟨u, named, rfl⟩ := Option.map_eq_some_iff.mp meaning
    have found := hidFindNextUsage_holding none cursor' pending' named
    have holding : Holding rest s.globals.usagePage u (started (reached item rest s.globals.reportCount it)) :=
      ⟨found.available, found.usageMinimum, found.usages⟩
    obtain ⟨hasMore, inField⟩ := mainItem_starts scanning nonempty processed found.available
    obtain ⟨count, positive⟩ : ∃ count, s.globals.reportCount = count + 1 :=
      ⟨s.globals.reportCount - 1, by omega⟩
    obtain ⟨last, emits, done⟩ := array_emits (by rw [← positive]; exact inField) holding array
      (by rw [← positive]; exact fits) (by omega)
    rw [← positive] at emits done
    exact .field hasMore rfl emits done

theorem mainItem_read (scanning : Scanning (item :: rest) s it) (isMain : item.itemType = .mainItem)
    (few : s.globals.reportCount < 2 ^ 16) (meaning : s.main item = some (fields, after)) :
    ItemRead rest it fields after := by
  have processed : processItem item { it with descriptorIterator := rest, descriptorItem := item } =
      some (processMainItem item { it with descriptorIterator := rest, descriptorItem := item }) := by
    rw [processItem, isMain]
  unfold Scope.main at meaning
  split at meaning
  · rename_i isInput
    have matched : mainItemTagMatchesReportType item.itemTag it.reportType = true := by
      rw [scanning.reportType]
      exact (matches_input_iff _).mpr isInput
    rw [processMainItem, if_pos matched] at processed
    obtain ⟨fits, read⟩ := Option.ite_none_left_eq_some.mp meaning
    split at read
    · rename_i silent
      obtain ⟨rfl, rfl⟩ := Prod.mk.inj (Option.some.inj read)
      refine mainItem_silent scanning isMain ?_
      rw [processed]
      split
      · have stop : (it.reportPosInBit + it.globals.reportSize * it.globals.reportCount) % 2 ^ 16 = s.stop := by
          rw [scanning.pos, scanning.globals]
          exact Nat.mod_eq_of_lt (show s.stop < 2 ^ 16 by omega)
        rw [← stop]
      · rename_i notConstant
        have none : s.globals.reportCount = 0 := silent.resolve_left notConstant
        have stop : s.stop = it.reportPosInBit := by rw [Scope.stop, none, scanning.pos]; rfl
        dsimp only
        rw [scanning.globals, if_pos none, stop]
    · rename_i loud
      obtain ⟨notConstant, nonempty⟩ := not_or.mp loud
      obtain ⟨all, named, same⟩ := Option.map_eq_some_iff.mp read
      obtain ⟨rfl, rfl⟩ := Prod.mk.inj same
      refine mainItem_fields scanning isMain nonempty few (by omega) ?_ named
      rw [processed, if_neg notConstant]
      dsimp only
      rw [scanning.globals, if_neg nonempty, reached, scanning.globals]
  · rename_i other
    obtain ⟨rfl, rfl⟩ := Prod.mk.inj (Option.some.inj meaning)
    have unmatched : ¬mainItemTagMatchesReportType item.itemTag it.reportType = true := by
      rw [scanning.reportType]
      exact mt (matches_input_iff _).mp other
    rw [processMainItem, if_neg unmatched] at processed
    refine mainItem_silent scanning isMain ?_
    rw [processed, ← scanning.pos]

theorem item_read (scanning : Scanning (item :: rest) s it) (few : s.globals.reportCount < 2 ^ 16)
    (meaning : s.item item = some (fields, after)) :
    ItemRead rest it fields after ∧ after.globals.reportCount < 2 ^ 16 := by
  unfold Scope.item at meaning
  split at meaning <;> rename_i itemType
  · refine ⟨mainItem_read scanning itemType few meaning, ?_⟩
    unfold Scope.main at meaning
    split at meaning
    · obtain ⟨-, read⟩ := Option.ite_none_left_eq_some.mp meaning
      split at read
      · obtain ⟨-, rfl⟩ := Prod.mk.inj (Option.some.inj read)
        exact few
      · obtain ⟨all, -, same⟩ := Option.map_eq_some_iff.mp read
        obtain ⟨-, rfl⟩ := Prod.mk.inj same
        exact few
    · obtain ⟨-, rfl⟩ := Prod.mk.inj (Option.some.inj meaning)
      exact few
  · obtain ⟨next, moved, same⟩ := Option.map_eq_some_iff.mp meaning
    obtain ⟨rfl, rfl⟩ := Prod.mk.inj same
    refine ⟨globalItem_read scanning itemType moved, ?_⟩
    obtain ⟨g, declared, scope⟩ := Option.bind_eq_some_iff.mp moved
    have count := handleGlobalItem_count (handleGlobalItem_of_declare declared) few
    split at scope
    · exact Option.some.inj scope ▸ count
    · exact Option.some.inj (Option.ite_none_left_eq_some.mp scope).2 ▸ count
  · obtain ⟨rfl, rfl⟩ := Prod.mk.inj (Option.some.inj meaning)
    exact ⟨localItem_read scanning itemType, few⟩
  · obtain ⟨rfl, rfl⟩ := Prod.mk.inj (Option.some.inj meaning)
    exact ⟨reservedItem_read scanning itemType, few⟩

theorem usagePass_congr {other : UsageIterator} (same : usageIteratorHasMore it = usageIteratorHasMore other) :
    usagePass it = usagePass other := by
  rw [usagePass, usagePass, same]

/-- From a scope on, the iterator gives the fields that the items mean. -/
theorem layoutFrom_read (scanning : Scanning rest s it) (few : s.globals.reportCount < 2 ^ 16)
    (meaning : layoutFrom rest s = some fields) (n : ℕ) :
    loop usagePass (fields.length + (n + 1)) it = .ended fields := by
  induction rest generalizing it s fields with
  | nil =>
    obtain rfl := Option.some.inj meaning
    have pass : usagePass it = .ended := by rw [usagePass, scanning.hasMore]; rfl
    rw [List.length_nil, Nat.zero_add, loop, pass]
  | cons item rest ih =>
    obtain ⟨⟨here, after⟩, read, others⟩ := Option.bind_eq_some_iff.mp meaning
    obtain ⟨more, meant, rfl⟩ := Option.map_eq_some_iff.mp others
    obtain ⟨itemRead, count⟩ := item_read scanning few read
    cases itemRead with
    | @silent next none scans same =>
      obtain rfl : here = [] := none
      have later := ih scans count meant
      rwa [List.nil_append, ← Nat.add_assoc, loop_congr (usagePass_congr same)]
    | @field next last hasMore going emits scans =>
      have later := ih scans count meant
      have available : usageIteratorHasMore next = some next := if_neg (by rw [going]; simp)
      rw [← Nat.add_assoc, loop_congr (usagePass_congr (hasMore.trans available.symm)), List.length_append,
        Nat.add_assoc (here.length + more.length), Nat.add_assoc here.length, loop_emits emits, later]
      rfl

theorem init_scanning (items : List Item) : Scanning items .init (usageIteratorInit items .input) :=
  ⟨rfl, rfl, rfl, rfl, rfl, rfl, rfl, [], rfl, rfl⟩

/-- On a descriptor that has a meaning, the iterator gives the fields that it means, in order. -/
theorem walk_eq_layout {items : List Item} (meaning : layout items = some fields) :
    walk items .input = .ended fields := by
  have read := layoutFrom_read (init_scanning items) (Nat.two_pow_pos 16) meaning (walkBound items.length)
  rw [← read]
  exact (loop_mono (walk_not_running items .input) (by omega)).symm

/-- The items of the descriptor that the firmware brings for the Xbox controller. -/
def xboxItems : List Item := items Bytes.shiftModulo Bluetooth.xboxHidDescriptor48Fw

def xboxFields : List ReportField := (layout xboxItems).getD []

theorem layout_xboxItems : layout xboxItems = some xboxFields := by decide +kernel

theorem walk_xboxItems : walk xboxItems .input = .ended xboxFields := walk_eq_layout layout_xboxItems

/-- A program that calls the iterator often enough, from the bytes of a descriptor that has a meaning, is given
the fields that it means and then no more. -/
theorem usageIterator_reads {wide : ℕ → ℕ → ℕ} {descriptor : List UInt8} {n : ℕ}
    (meaning : layout (items wide descriptor) = some fields)
    (often : descriptor.length * ((descriptor.length + 1) * 2 ^ 16) < n) :
    loop usagePass n (usageIteratorInit (items wide descriptor) .input) = .ended fields := by
  have bound : walkBound (items wide descriptor).length ≤ n := (walkBound_items_le wide descriptor).trans often
  calc
    _ = walk (items wide descriptor) .input := loop_mono (walk_not_running _ .input) bound
    _ = .ended fields := walk_eq_layout meaning

theorem usageIterator_reads_xbox :
    loop usagePass (10 ^ 12)
        (usageIteratorInit (items Bytes.shiftModulo Bluetooth.xboxHidDescriptor48Fw) .input) = .ended xboxFields :=
  usageIterator_reads layout_xboxItems (by decide +kernel)

end BukkisDrone.Hid
