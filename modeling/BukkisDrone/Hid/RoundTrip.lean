import BukkisDrone.Hid.Reading
import BukkisDrone.Hid.Report

/-!
# Reports are read back

The fields of a report lie one after the other. So there is a report for all values of its fields, and the
parser reads them from it.
-/

namespace BukkisDrone.Hid
open Bytes Runs

/-! ### Where fields lie -/

/-- One after the other, from bit `start` to bit `stop`. -/
def Placed (start stop : ℕ) : List ReportField → Prop
  | [] => start ≤ stop
  | f :: fields => start ≤ f.item.bitPos ∧ Placed (f.item.bitPos + f.item.size) stop fields

theorem Placed.le {start stop : ℕ} {fields : List ReportField} (placed : Placed start stop fields) :
    start ≤ stop := by
  induction fields generalizing start with
  | nil => exact placed
  | cons f fields ih => exact (Nat.le_add_right_of_le placed.1).trans (ih placed.2)

theorem Placed.append {start middle stop : ℕ} {left right : List ReportField}
    (first : Placed start middle left) (second : Placed middle stop right) :
    Placed start stop (left ++ right) := by
  induction left generalizing start with
  | nil =>
    cases right with
    | nil => exact le_trans first second
    | cons f right => exact ⟨le_trans first second.1, second.2⟩
  | cons f left ih => exact ⟨first.1, ih first.2⟩

theorem Placed.inside {start stop : ℕ} {fields : List ReportField} (placed : Placed start stop fields) :
    ∀ f ∈ fields, f.item.bitPos + f.item.size ≤ stop := by
  induction fields generalizing start with
  | nil => exact fun f member => nomatch member
  | cons f fields ih =>
    intro g member
    rcases List.mem_cons.mp member with rfl | later
    · exact placed.2.le
    · exact ih placed.2 g later

theorem variableFields_placed (g : HidGlobals) (item : Item) (pos : ℕ) (us : List ℕ) :
    Placed pos (pos + g.reportSize * us.length) (variableFields g item pos us) := by
  induction us generalizing pos with
  | nil => exact Nat.le_add_right _ _
  | cons u us ih =>
    refine ⟨le_refl _, ?_⟩
    rw [List.length_cons, Nat.mul_succ, Nat.add_comm (g.reportSize * us.length), ← Nat.add_assoc]
    exact ih (pos + g.reportSize)

theorem arrayFields_placed (g : HidGlobals) (item : Item) (pos page count : ℕ) :
    Placed pos (pos + g.reportSize * count) (arrayFields g item pos page count) := by
  induction count generalizing pos with
  | zero => exact Nat.le_add_right _ _
  | succ count ih =>
    refine ⟨le_refl _, ?_⟩
    rw [Nat.mul_succ, Nat.add_comm (g.reportSize * count), ← Nat.add_assoc]
    exact ih (pos + g.reportSize)

theorem variableFields_reportId (g : HidGlobals) (item : Item) (pos : ℕ) (us : List ℕ) :
    ∀ f ∈ variableFields g item pos us, f.item.reportId = g.reportId := by
  induction us generalizing pos with
  | nil => exact fun f member => nomatch member
  | cons u us ih =>
    intro f member
    rcases List.mem_cons.mp member with rfl | later
    · rfl
    · exact ih _ f later

theorem arrayFields_reportId (g : HidGlobals) (item : Item) (pos page count : ℕ) :
    ∀ f ∈ arrayFields g item pos page count, f.item.reportId = g.reportId := by
  induction count generalizing pos with
  | zero => exact fun f member => nomatch member
  | succ count ih =>
    intro f member
    rcases List.mem_cons.mp member with rfl | later
    · rfl
    · exact ih _ f later

variable {s after : Scope} {item : Item} {fields here : List ReportField}

theorem scopeFields_placed (meaning : s.fields item = some fields) :
    Placed s.pos s.stop fields ∧ ∀ f ∈ fields, f.item.reportId = s.globals.reportId := by
  unfold Scope.fields at meaning
  split at meaning
  · obtain ⟨us, -, enough⟩ := Option.bind_eq_some_iff.mp meaning
    obtain ⟨count, same⟩ := Option.ite_none_right_eq_some.mp enough
    obtain rfl := Option.some.inj same
    rw [Scope.stop, ← count]
    exact ⟨variableFields_placed _ _ _ _, variableFields_reportId _ _ _ _⟩
  · obtain ⟨u, -, rfl⟩ := Option.map_eq_some_iff.mp meaning
    exact ⟨arrayFields_placed _ _ _ _ _, arrayFields_reportId _ _ _ _ _⟩

/-- The current report ID is among those that are used, and the report is not too long. -/
structure Scope.Sound (s : Scope) : Prop where
  current : s.globals.reportId ∈ s.seen
  room : s.pos + 8 < 2 ^ 16

/-- What one item does to the current report: it goes on, or a new one begins. -/
inductive Moves (s after : Scope) (here : List ReportField) : Prop where
  | on (current : after.globals.reportId = s.globals.reportId) (seen : after.seen = s.seen)
      (placed : Placed s.pos after.pos here) (own : ∀ f ∈ here, f.item.reportId = s.globals.reportId)
  | new (fresh : after.globals.reportId ∉ s.seen) (seen : after.seen = after.globals.reportId :: s.seen)
      (start : after.pos = 0) (silent : here = [])

theorem main_moves (sound : s.Sound) (meaning : s.main item = some (here, after)) :
    after.Sound ∧ Moves s after here := by
  unfold Scope.main at meaning
  split at meaning
  · obtain ⟨fits, read⟩ := Option.ite_none_left_eq_some.mp meaning
    have room : s.stop + 8 < 2 ^ 16 := Nat.not_le.mp fits
    split at read
    · obtain ⟨rfl, rfl⟩ := Prod.mk.inj (Option.some.inj read)
      exact ⟨⟨sound.current, room⟩, .on rfl rfl (Nat.le_add_right _ _) fun f member => nomatch member⟩
    · obtain ⟨all, named, same⟩ := Option.map_eq_some_iff.mp read
      obtain ⟨rfl, rfl⟩ := Prod.mk.inj same
      obtain ⟨placed, own⟩ := scopeFields_placed named
      exact ⟨⟨sound.current, room⟩, .on rfl rfl placed own⟩
  · obtain ⟨rfl, rfl⟩ := Prod.mk.inj (Option.some.inj meaning)
    exact ⟨⟨sound.current, sound.room⟩, .on rfl rfl (le_refl _) fun f member => nomatch member⟩

theorem global_moves (sound : s.Sound) (meaning : s.global item = some after) :
    after.Sound ∧ Moves s after [] := by
  obtain ⟨g, -, moved⟩ := Option.bind_eq_some_iff.mp meaning
  split at moved
  · rename_i same
    obtain rfl := Option.some.inj moved
    exact ⟨⟨same ▸ sound.current, sound.room⟩, .on same rfl (le_refl _) fun f member => nomatch member⟩
  · obtain ⟨fresh, same⟩ := Option.ite_none_left_eq_some.mp moved
    obtain rfl := Option.some.inj same
    exact ⟨⟨List.mem_cons_self, show 0 + 8 < 2 ^ 16 by decide⟩, .new fresh rfl rfl rfl⟩

theorem item_moves (sound : s.Sound) (meaning : s.item item = some (here, after)) :
    after.Sound ∧ Moves s after here := by
  unfold Scope.item at meaning
  split at meaning
  · exact main_moves sound meaning
  · obtain ⟨next, moved, same⟩ := Option.map_eq_some_iff.mp meaning
    obtain ⟨rfl, rfl⟩ := Prod.mk.inj same
    exact global_moves sound moved
  all_goals
    obtain ⟨rfl, rfl⟩ := Prod.mk.inj (Option.some.inj meaning)
    exact ⟨⟨sound.current, sound.room⟩, .on rfl rfl (le_refl _) fun f member => nomatch member⟩

/-- The fields of one report. -/
def ofReport (r : ℕ) (fields : List ReportField) : List ReportField :=
  fields.filter fun f => f.item.reportId = r

/-- From a scope on, the current report goes on where it was, no other report that is used comes back, and a
new one begins at its first bit. -/
theorem layoutFrom_placed {items : List Item} (sound : s.Sound) (meaning : layoutFrom items s = some fields)
    (r : ℕ) :
    (r = s.globals.reportId → ∃ stop, stop + 8 < 2 ^ 16 ∧ Placed s.pos stop (ofReport r fields)) ∧
      (r ∈ s.seen → r ≠ s.globals.reportId → ofReport r fields = []) ∧
      (r ∉ s.seen → ∃ stop, stop + 8 < 2 ^ 16 ∧ Placed 0 stop (ofReport r fields)) := by
  induction items generalizing s fields with
  | nil =>
    obtain rfl := Option.some.inj meaning
    exact ⟨fun _ => ⟨s.pos, sound.room, le_refl _⟩, fun _ _ => rfl, fun _ => ⟨0, by decide, le_refl _⟩⟩
  | cons item items ih =>
    obtain ⟨⟨here, after⟩, read, others⟩ := Option.bind_eq_some_iff.mp meaning
    obtain ⟨more, meant, rfl⟩ := Option.map_eq_some_iff.mp others
    obtain ⟨kept, moves⟩ := item_moves sound read
    obtain ⟨goesOn, isOver, begins⟩ := ih kept meant
    have split : ofReport r (here ++ more) = ofReport r here ++ ofReport r more := List.filter_append _ _
    rw [split]
    cases moves with
    | on current seen placed own =>
      rw [current] at goesOn isOver
      rw [seen] at isOver begins
      have whole : r = s.globals.reportId → ofReport r here = here := fun same =>
        List.filter_eq_self.mpr fun f member => decide_eq_true ((own f member).trans same.symm)
      have none : r ≠ s.globals.reportId → ofReport r here = [] := fun other =>
        List.filter_eq_nil_iff.mpr fun f member same =>
          other ((of_decide_eq_true same).symm.trans (own f member))
      refine ⟨fun same => ?_, fun used other => ?_, fun fresh => ?_⟩
      · obtain ⟨stop, room, rest⟩ := goesOn same
        exact ⟨stop, room, by rw [whole same]; exact placed.append rest⟩
      · rw [none other, isOver used other]
        rfl
      · rw [none fun same => fresh (same ▸ sound.current)]
        exact begins fresh
    | new fresh seen start silent =>
      subst silent
      rw [seen] at isOver begins
      rw [start] at goesOn
      have old : r ∈ s.seen → ofReport r more = [] := fun used =>
        isOver (List.mem_cons_of_mem _ used) fun same => fresh (same ▸ used)
      refine ⟨fun same => ?_, fun used _ => old used, fun unused => ?_⟩
      · rw [old (same ▸ sound.current)]
        exact ⟨s.pos, sound.room, le_refl _⟩
      · by_cases same : r = after.globals.reportId
        · exact goesOn same
        · exact begins (by simp [same, unused])

/-- The fields of any one report lie one after the other. -/
theorem layout_placed {items : List Item} (meaning : layout items = some fields) (r : ℕ) :
    ∃ stop, stop + 8 < 2 ^ 16 ∧ Placed 0 stop (ofReport r fields) := by
  obtain ⟨current, -, fresh⟩ := layoutFrom_placed ⟨List.mem_singleton.mpr rfl, by decide⟩ meaning r
  by_cases same : r = hidReportIdUndefined
  · exact current same
  · exact fresh (by simpa [Scope.init] using same)

/-! ### Values -/

/-- The values that a field can hold. -/
def ReportField.Fits (f : ReportField) (x : ℤ) : Prop :=
  if f.item.descriptorItem.isVariable ∧ f.item.globalLogicalMinimum < 0 then
    -2 ^ (f.item.size - 1) ≤ x ∧ x < 2 ^ (f.item.size - 1)
  else 0 ≤ x ∧ x < 2 ^ f.item.size

instance (f : ReportField) (x : ℤ) : Decidable (f.Fits x) :=
  inferInstanceAs (Decidable (if f.item.descriptorItem.isVariable ∧ f.item.globalLogicalMinimum < 0 then
    -2 ^ (f.item.size - 1) ≤ x ∧ x < 2 ^ (f.item.size - 1) else 0 ≤ x ∧ x < 2 ^ f.item.size))

/-- What a field that holds a value says. -/
def ReportField.holds (f : ReportField) (x : ℤ) : UsageValue :=
  if f.item.descriptorItem.isVariable then ⟨f.globals.saved, f.item.usagePage, f.item.usage, Int32.ofInt x⟩
  else ⟨f.globals.saved, f.item.usagePage, x.toNat % 2 ^ 16, 1⟩

/-- The bits of a field that holds a value. -/
def ReportField.code (f : ReportField) (x : ℤ) : ℕ := (x % 2 ^ f.item.size).toNat

variable (wide : ℕ → ℕ → ℕ) {f : ReportField} {x : ℤ}

theorem code_lt (f : ReportField) (x : ℤ) : f.code x < 2 ^ f.item.size := by
  have positive : (0 : ℤ) < 2 ^ f.item.size := Int.pow_pos (by decide)
  have bound := Int.emod_lt_of_pos x positive
  have nonneg := Int.emod_nonneg x positive.ne'
  have cast : ((2 ^ f.item.size : ℕ) : ℤ) = 2 ^ f.item.size := by norm_cast
  unfold ReportField.code
  omega

theorem code_of_nonneg (nonneg : 0 ≤ x) (small : x < 2 ^ f.item.size) : f.code x = x.toNat := by
  rw [ReportField.code, Int.emod_eq_of_lt nonneg small]

/-- The highest bit of a field is the sign. -/
theorem and_sign {u n : ℕ} (short : n < 32) (small : u < 2 ^ (n + 1)) :
    u &&& shl wide 1 ((n + 1 + 2 ^ 32 - 1) % 2 ^ 32) ≠ 0 ↔ 2 ^ n ≤ u := by
  have at_ : (n + 1 + 2 ^ 32 - 1) % 2 ^ 32 = n := by omega
  have power : 2 ^ n < 2 ^ 32 := Nat.pow_lt_pow_right (by omega) short
  rw [at_, shl_eq wide (by omega) short, one_mul, Nat.and_two_pow]
  constructor
  · intro bit
    by_contra below
    simp [Nat.testBit_lt_two_pow (Nat.not_le.mp below)] at bit
  · intro above
    simp [Nat.testBit_of_two_pow_le_and_two_pow_add_one_gt above small]

theorem variableValue_code (positive : 0 < f.item.size) (short : f.item.size < 32)
    (isVariable : f.item.descriptorItem.isVariable) (fits : f.Fits x) :
    variableValue wide f.item (f.code x) = Int32.ofInt x := by
  have small := code_lt f x
  obtain ⟨n, size⟩ : ∃ n, f.item.size = n + 1 := ⟨f.item.size - 1, by omega⟩
  have halves : (2 : ℤ) ^ (n + 1) = 2 * 2 ^ n := by ring
  have power : (2 : ℕ) ^ (n + 1) < 2 ^ 32 := Nat.pow_lt_pow_right (by omega) (by omega)
  have cast : ((2 ^ n : ℕ) : ℤ) = 2 ^ n := by norm_cast
  have shifted : shl wide 1 (n + 1) = 2 ^ (n + 1) := by rw [shl_eq wide (by omega) (by omega), one_mul]
  have plain (nonneg : 0 ≤ x) (fitting : x < 2 ^ f.item.size) :
      (UInt32.ofNat (f.code x)).toInt32 = Int32.ofInt x := by
    rw [code_of_nonneg nonneg fitting, UInt32.toInt32_ofNat', ← Int32.ofInt_eq_ofNat,
      Int.toNat_of_nonneg nonneg]
  unfold ReportField.Fits at fits
  unfold variableValue
  rw [size] at small ⊢
  by_cases signed : f.item.globalLogicalMinimum < 0
  · rw [if_pos ⟨isVariable, signed⟩, size, Nat.add_sub_cancel] at fits
    have sign := and_sign wide (by omega) small
    rcases le_or_gt 0 x with nonneg | negative
    · have fitting : x < 2 ^ f.item.size := by rw [size]; omega
      have below : ¬2 ^ n ≤ f.code x := by rw [code_of_nonneg nonneg fitting]; omega
      rw [if_neg fun h => below (sign.mp h.2)]
      exact plain nonneg fitting
    · have code : (f.code x : ℤ) = x + 2 ^ (n + 1) := by
        rw [ReportField.code, size, Int.emod_eq_add_self_emod, Int.emod_eq_of_lt (by omega) (by omega)]
        omega
      have above : 2 ^ n ≤ f.code x := by omega
      have total : ((f.code x + 2 ^ 32 - 2 ^ (n + 1) : ℕ) : ℤ) = x + (2 ^ 32 : ℕ) * 1 := by
        push_cast [Nat.cast_sub (show 2 ^ (n + 1) ≤ f.code x + 2 ^ 32 by omega)]
        omega
      rw [if_pos ⟨signed, sign.mpr above⟩, shifted, UInt32.toInt32_ofNat', ← Int32.ofInt_eq_ofNat, total]
      apply Int32.toInt_inj.mp
      rw [Int32.toInt_ofInt, Int32.toInt_ofInt]
      exact Int.add_mul_bmod_self_left x (2 ^ 32) 1
  · rw [if_neg fun h => signed h.2] at fits
    rw [if_neg fun h => signed h.1]
    exact plain fits.1 fits.2

theorem read_code (positive : 0 < f.item.size) (short : f.item.size < 32) (fits : f.Fits x) :
    f.read wide (f.code x) = f.holds x := by
  unfold ReportField.read ReportField.holds
  split
  · rename_i isVariable
    rw [variableValue_code wide positive short isVariable fits]
  · rename_i array
    rw [ReportField.Fits, if_neg fun h => array h.1] at fits
    rw [code_of_nonneg fits.1 fits.2]

/-! ### Reports -/

def bitFields (values : ReportField → ℤ) (fields : List ReportField) : List BitField :=
  fields.map fun f => ⟨f.item.bitPos, f.item.size, f.code (values f)⟩

/-- The bit after the last field. -/
def extent (fields : List ReportField) : ℕ := (fields.map fun f => f.item.bitPos + f.item.size).foldr max 0

/-- The report with an ID, or without one, that holds the values. -/
def encode (r : ℕ) (fields : List ReportField) (values : ReportField → ℤ) : List UInt8 :=
  (if r = hidReportIdUndefined then [] else [UInt8.ofNat r]) ++
    bytesOf ((extent (ofReport r fields) + 7) / 8) (pack (bitFields values (ofReport r fields)))

variable {r : ℕ}

theorem le_extent : ∀ f ∈ fields, f.item.bitPos + f.item.size ≤ extent fields := by
  induction fields with
  | nil => exact fun f member => nomatch member
  | cons g fields ih =>
    intro f member
    rcases List.mem_cons.mp member with rfl | later
    · exact le_max_left _ _
    · exact (ih f later).trans (le_max_right _ _)

theorem Placed.laid {start stop : ℕ} (placed : Placed start stop fields) (values : ReportField → ℤ) :
    Laid start (bitFields values fields) := by
  induction fields generalizing start with
  | nil => trivial
  | cons f fields ih => exact ⟨placed.1, code_lt f _, ih placed.2⟩

theorem pack_bitFields_lt {stop : ℕ} (placed : Placed 0 stop fields) (values : ReportField → ℤ) :
    pack (bitFields values fields) < 2 ^ (8 * ((extent fields + 7) / 8)) := by
  have below : pack (bitFields values fields) < 2 ^ extent fields := by
    refine pack_lt (placed.laid values) ?_ (Nat.zero_le _)
    intro b member
    obtain ⟨f, inside, rfl⟩ := List.mem_map.mp member
    exact le_extent f inside
  exact below.trans_le (Nat.pow_le_pow_right (by omega) (by omega))

theorem slice_packed {stop : ℕ} (placed : Placed 0 stop fields) (values : ReportField → ℤ) :
    ∀ f ∈ fields, slice (pack (bitFields values fields)) f.item.bitPos f.item.size = f.code (values f) := by
  have read := slice_pack (placed.laid values) (Nat.two_pow_pos 0)
  simp only [Nat.zero_add] at read
  rw [bitFields, List.map_map, List.map_map] at read
  exact List.map_inj_left.mp read

/-- A field of the report is a slice of its packed fields, eight bits on where the ID comes first. -/
theorem slice_encode (id : r = hidReportIdUndefined ∨ r < 2 ^ 8) {stop : ℕ}
    (placed : Placed 0 stop (ofReport r fields)) (values : ReportField → ℤ) :
    ∀ f ∈ ofReport r fields,
      slice (number (encode r fields values))
        (if r = hidReportIdUndefined then f.item.bitPos else f.item.bitPos + 8) f.item.size =
          f.code (values f) := by
  intro f member
  have read := slice_packed placed values f member
  have whole := number_bytesOf (pack_bitFields_lt placed values)
  rw [encode]
  split
  · rw [List.nil_append, whole, read]
  · rename_i withId
    have byte : (UInt8.ofNat r).toNat = r := UInt8.toNat_ofNat_of_lt' (id.resolve_left withId)
    have small : r < 2 ^ 8 := id.resolve_left withId
    rw [List.singleton_append, number, whole, byte, slice, Nat.add_comm f.item.bitPos 8, pow_add,
      ← Nat.div_div_eq_div_mul, Nat.add_mul_div_left _ _ (Nat.two_pow_pos 8), Nat.div_eq_of_lt small,
      Nat.zero_add]
    exact read

theorem length_encode (r : ℕ) (fields : List ReportField) (values : ReportField → ℤ) :
    (encode r fields values).length =
      (if r = hidReportIdUndefined then 0 else 1) + (extent (ofReport r fields) + 7) / 8 := by
  rw [encode, List.length_append, length_bytesOf]
  split <;> rfl

variable {values : ReportField → ℤ}

/-- What the parser can read of a field: up to 31 bits, in four bytes. -/
def ReportField.Readable (f : ReportField) : Prop :=
  0 < f.item.size ∧ f.item.size < 32 ∧ f.item.bitPos % 8 + f.item.size ≤ 32

instance : DecidablePred ReportField.Readable := fun f =>
  inferInstanceAs (Decidable (0 < f.item.size ∧ f.item.size < 32 ∧ f.item.bitPos % 8 + f.item.size ≤ 32))

theorem getField_encode (id : r = hidReportIdUndefined ∨ r < 2 ^ 8) {stop : ℕ} (room : stop + 8 < 2 ^ 16)
    (placed : Placed 0 stop (ofReport r fields)) (beyond : UInt8) (member : f ∈ ofReport r fields)
    (readable : f.Readable) (fits : f.Fits (values f)) :
    getField wide ⟨encode r fields values, beyond⟩ f = f.holds (values f) := by
  obtain ⟨positive, short, whole⟩ := readable
  have mine : f.item.reportId = r := of_decide_eq_true (List.mem_filter.mp member).2
  have ends := placed.inside f member
  have last := le_extent f member
  have bits := slice_encode id placed values f member
  have length := length_encode r fields values
  have start : f.item.start = if r = hidReportIdUndefined then f.item.bitPos else f.item.bitPos + 8 := by
    rw [UsageItem.start, mine]
    split_ifs <;> omega
  have unsigned : unsignedValue wide ⟨encode r fields values, beyond⟩ f.item.start f.item.size =
      f.code (values f) := by
    rw [← bits, ← start]
    refine unsignedValue_of_inside wide positive short ?_ ?_ ?_
    · rw [start]
      split_ifs <;> omega
    · dsimp only
      rw [start, length]
      split_ifs <;> omega
    · rw [start]
      split_ifs <;> omega
  rw [getField, unsigned, read_code wide positive short fits]

/-- The fields of the report are those that the parser does not pass over. -/
theorem filter_inReport (id : r = hidReportIdUndefined ∨ r < 2 ^ 8)
    (unmixed : ∀ f ∈ fields, f.item.reportId = hidReportIdUndefined ↔ r = hidReportIdUndefined)
    (beyond : UInt8) :
    (fields.filter fun f => f.item.InReport ⟨encode r fields values, beyond⟩) = ofReport r fields := by
  refine List.filter_congr fun f member => decide_eq_decide.mpr ?_
  have both := unmixed f member
  by_cases plain : r = hidReportIdUndefined
  · have same := both.mpr plain
    exact ⟨fun _ => same.trans plain.symm, fun _ withId => (withId same).elim⟩
  · have byte : (UInt8.ofNat r).toNat = r := UInt8.toNat_ofNat_of_lt' (id.resolve_left plain)
    have first : (Report.byte ⟨encode r fields values, beyond⟩ 0).toNat = r := by
      rw [Report.byte, encode, if_neg plain]
      exact byte
    rw [UsageItem.InReport, first]
    exact ⟨fun h => h (mt both.mp plain), fun h _ => h⟩

/-- For every descriptor that has a meaning, and all values that its fields can hold, there is a report from
which the parser reads those values, field by field, whatever follows the report in memory. -/
theorem report_round_trip {descriptor : List UInt8} (meaning : layout (items wide descriptor) = some fields)
    (id : r = hidReportIdUndefined ∨ r < 2 ^ 8)
    (unmixed : ∀ f ∈ fields, f.item.reportId = hidReportIdUndefined ↔ r = hidReportIdUndefined)
    (readable : ∀ f ∈ ofReport r fields, f.Readable) (fits : ∀ f ∈ ofReport r fields, f.Fits (values f))
    (beyond : UInt8) :
    usageValues wide descriptor ⟨encode r fields values, beyond⟩ =
      .ended ((ofReport r fields).map fun f => f.holds (values f)) := by
  obtain ⟨stop, room, placed⟩ := layout_placed meaning r
  rw [usageValues, walk_eq_layout meaning, Outcome.map, filter_inReport id unmixed]
  refine congrArg Outcome.ended (List.map_inj_left.mpr fun f member => ?_)
  exact getField_encode wide id room placed beyond member (readable f member) (fits f member)

/-- An Xbox report with every button pressed. -/
theorem report_round_trip_xbox :
    usageValues shiftModulo Bluetooth.xboxHidDescriptor48Fw ⟨encode 1 xboxFields fun _ => 1, 0⟩ =
      .ended ((ofReport 1 xboxFields).map fun f => f.holds 1) :=
  report_round_trip shiftModulo layout_xboxItems (.inr (by decide)) (by decide +kernel) (by decide +kernel)
    (by decide +kernel) 0

end BukkisDrone.Hid
