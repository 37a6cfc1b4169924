import BukkisDrone.Hid.RoundTrip
import BukkisDrone.Numeric.Scale

/-!
# From field values to axes

`uni_hid_parser_process_axis` and its siblings. An axis keeps to its bounds for every report, if it does for the
lowest and for the highest value that its field can hold.
-/

namespace BukkisDrone.Hid
open Bytes Numeric

def axisNormalizeRange : Int32 := 1024

variable (wide : ℕ → ℕ → ℕ)

/-- A maximum of -1 stands for all bits set. -/
def HidGlobals.max (g : HidGlobals) : Int32 :=
  if g.logicalMaximum = -1 then (UInt32.ofNat (shl wide 1 g.reportSize)).toInt32 - 1 else g.logicalMaximum

def HidGlobals.range (g : HidGlobals) : Int32 := g.max wide - g.logicalMinimum + 1

/-- `none` is a division by zero. An `int` that overflows, which C leaves undefined, wraps. -/
def uniHidParserProcessAxis (g : HidGlobals) (value : Int32) : Option Int32 :=
  let range := g.range wide
  let centered := value - range / 2 - g.logicalMinimum
  if range = 0 then none else some (centered * axisNormalizeRange / range)

/-- The division is unsigned, and the minimum is not taken off. -/
def uniHidParserProcessPedal (g : HidGlobals) (value : Int32) : Option Int32 :=
  let range := g.range wide
  if range = 0 then none else some (value.toUInt32 * axisNormalizeRange.toUInt32 / range.toUInt32).toInt32

/-- Outside the logical limits, the hat is at rest. -/
def uniHidParserProcessHat (g : HidGlobals) (value : Int32) : UInt8 :=
  if value < g.logicalMinimum ∨ g.logicalMaximum < value then 0xff
  else (value - g.logicalMinimum).toUInt32.toUInt8

def dpadUp : UInt8 := 1

def dpadDown : UInt8 := 2

def dpadRight : UInt8 := 4

def dpadLeft : UInt8 := 8

def setDpad (bit : UInt8) (value : Int32) (dpad : UInt8) : UInt8 :=
  if value ≠ 0 then dpad ||| bit else dpad &&& ~~~bit

def uniHidParserProcessDpad (usage : ℕ) (value : Int32) (dpad : UInt8) : UInt8 :=
  match usage with
  | 0x90 => setDpad dpadUp value dpad
  | 0x91 => setDpad dpadDown value dpad
  | 0x92 => setDpad dpadRight value dpad
  | 0x93 => setDpad dpadLeft value dpad
  | _ => dpad

def uniHidParserHatToDpad (hat : UInt8) : UInt8 :=
  match hat.toNat with
  | 0 => dpadUp
  | 1 => dpadUp ||| dpadRight
  | 2 => dpadRight
  | 3 => dpadRight ||| dpadDown
  | 4 => dpadDown
  | 5 => dpadDown ||| dpadLeft
  | 6 => dpadLeft
  | 7 => dpadLeft ||| dpadUp
  | _ => 0

/-! ### Axes are centred scales -/

def HidGlobals.least (g : HidGlobals) : ℤ := g.logicalMinimum.toInt

def HidGlobals.greatest (g : HidGlobals) : ℤ := (g.max wide).toInt

variable {g : HidGlobals} {f : ReportField} {x : ℤ}

theorem range_toInt (positive : 0 < span g.least (g.greatest wide))
    (narrow : span g.least (g.greatest wide) ≤ 2 ^ 21) :
    (g.range wide).toInt = span g.least (g.greatest wide) := by
  have one : (1 : Int32).toInt = 1 := rfl
  rw [HidGlobals.range, Int32.toInt_add, Int32.toInt_sub, one, Int.bmod_add_bmod]
  change (g.greatest wide - g.least + 1).bmod (2 ^ 32) = _
  exact Int.bmod_eq_of_le (by unfold span at positive; omega) (by unfold span at narrow; omega)

theorem processAxis_eq_scaled {value : Int32} (positive : 0 < span g.least (g.greatest wide))
    (narrow : span g.least (g.greatest wide) ≤ 2 ^ 21)
    (low : -2 ^ 31 ≤ centred g.least (g.greatest wide) value.toInt * 1024)
    (high : centred g.least (g.greatest wide) value.toInt * 1024 < 2 ^ 31) :
    ∃ axis, uniHidParserProcessAxis wide g value = some axis ∧
      axis.toInt = scaled 1024 g.least (g.greatest wide) value.toInt := by
  have range := range_toInt wide positive narrow
  have nonzero : g.range wide ≠ 0 := fun zero => by
    rw [zero] at range
    exact positive.ne range
  have half : (g.range wide / 2).toInt = span g.least (g.greatest wide) / 2 := by
    rw [Int32.toInt_div_of_ne_right _ _ (by decide), range]
    exact Int.tdiv_eq_ediv_of_nonneg positive.le
  have middle : (value - g.range wide / 2 - g.logicalMinimum).toInt =
      centred g.least (g.greatest wide) value.toInt := by
    rw [Int32.toInt_sub, Int32.toInt_sub, half, Int.bmod_sub_bmod]
    change (centred g.least (g.greatest wide) value.toInt).bmod (2 ^ 32) = _
    exact Int.bmod_eq_of_le (by omega) (by omega)
  refine ⟨_, if_neg nonzero, ?_⟩
  rw [Int32.toInt_div_of_ne_right, Int32.toInt_mul, middle, range,
    show axisNormalizeRange.toInt = 1024 from rfl, Int.bmod_eq_of_le (by omega) (by omega)]
  · rfl
  · intro negative
    rw [negative] at range
    exact absurd (range ▸ positive) (by decide)

/-! ### What a field can hold -/

def ReportField.lowest (f : ReportField) : ℤ :=
  if f.item.descriptorItem.isVariable then
    if f.item.globalLogicalMinimum < 0 then -2 ^ (f.item.size - 1) else 0
  else 1

def ReportField.highest (f : ReportField) : ℤ :=
  if f.item.descriptorItem.isVariable then
    if f.item.globalLogicalMinimum < 0 then 2 ^ (f.item.size - 1) - 1 else 2 ^ f.item.size - 1
  else 1

theorem holds_between (short : f.item.size < 32) (fits : f.Fits x) :
    f.lowest ≤ (f.holds x).value.toInt ∧ (f.holds x).value.toInt ≤ f.highest := by
  have power : (2 : ℤ) ^ f.item.size ≤ 2 ^ 31 := pow_le_pow_right₀ (by norm_num) (by omega)
  have half : (2 : ℤ) ^ (f.item.size - 1) ≤ 2 ^ 31 := pow_le_pow_right₀ (by norm_num) (by omega)
  unfold ReportField.lowest ReportField.highest ReportField.holds
  by_cases isVariable : f.item.descriptorItem.isVariable = true
  · unfold ReportField.Fits at fits
    simp only [isVariable, if_true, true_and] at fits ⊢
    rw [Int32.toInt_ofInt, show Int32.size = 2 ^ 32 from rfl]
    split at fits
    · rename_i signed
      rw [if_pos signed, if_pos signed, Int.bmod_eq_of_le (by omega) (by omega)]
      omega
    · rename_i unsigned
      rw [if_neg unsigned, if_neg unsigned, Int.bmod_eq_of_le (by omega) (by omega)]
      omega
  · rw [if_neg isVariable, if_neg isVariable, if_neg isVariable]
    exact (by decide : (1 : ℤ) ≤ (1 : Int32).toInt ∧ (1 : Int32).toInt ≤ 1)

/-- All bits of a field stand for a value that it can hold. -/
theorem exists_code {u : ℕ} (positive : 0 < f.item.size) (small : u < 2 ^ f.item.size) :
    ∃ x, f.Fits x ∧ f.code x = u := by
  obtain ⟨n, size⟩ : ∃ n, f.item.size = n + 1 := ⟨f.item.size - 1, by omega⟩
  have cast : ((2 ^ n : ℕ) : ℤ) = 2 ^ n := by norm_cast
  have halves : (2 : ℤ) ^ (n + 1) = 2 * 2 ^ n := by ring
  have doubled : 2 ^ (n + 1) = 2 * 2 ^ n := pow_succ' 2 n
  unfold ReportField.Fits ReportField.code
  rw [size] at small ⊢
  rw [Nat.add_sub_cancel]
  by_cases negative : (f.item.descriptorItem.isVariable ∧ f.item.globalLogicalMinimum < 0) ∧ 2 ^ n ≤ u
  · refine ⟨u - 2 ^ (n + 1), ?_, ?_⟩
    · rw [if_pos negative.1]
      omega
    · rw [Int.sub_emod_right, Int.emod_eq_of_lt (by omega) (by omega), Int.toNat_natCast]
  · refine ⟨u, ?_, ?_⟩
    · split
      · rename_i signed
        have below : ¬2 ^ n ≤ u := fun above => negative ⟨signed, above⟩
        omega
      · omega
    · rw [Int.emod_eq_of_lt (by omega) (by omega), Int.toNat_natCast]

/-- Whatever the report, a field of it says one of the values that the field can hold. -/
theorem getField_holds (positive : 0 < f.item.size) (short : f.item.size < 32) (report : Report) :
    ∃ x, f.Fits x ∧ getField wide report f = f.holds x := by
  obtain ⟨x, fits, code⟩ := exists_code positive (unsignedValue_lt wide report f.item.start short)
  exact ⟨x, fits, by rw [getField, ← code, read_code wide positive short fits]⟩

/-! ### Axes that keep to their bounds -/

structure AxisWithin (bottom top : ℤ) (f : ReportField) : Prop where
  bits : 0 < f.item.size
  short : f.item.size < 32
  positive : 0 < span f.globals.least (f.globals.greatest wide)
  narrow : span f.globals.least (f.globals.greatest wide) ≤ 2 ^ 21
  lowest : bottom ≤ scaled 1024 f.globals.least (f.globals.greatest wide) f.lowest
  highest : scaled 1024 f.globals.least (f.globals.greatest wide) f.highest ≤ top

instance (bottom top : ℤ) : DecidablePred (AxisWithin wide bottom top) := fun f =>
  decidable_of_iff
    (0 < f.item.size ∧ f.item.size < 32 ∧ 0 < span f.globals.least (f.globals.greatest wide) ∧
      span f.globals.least (f.globals.greatest wide) ≤ 2 ^ 21 ∧
      bottom ≤ scaled 1024 f.globals.least (f.globals.greatest wide) f.lowest ∧
      scaled 1024 f.globals.least (f.globals.greatest wide) f.highest ≤ top)
    ⟨fun ⟨b, s, p, n, l, h⟩ => ⟨b, s, p, n, l, h⟩, fun ⟨b, s, p, n, l, h⟩ => ⟨b, s, p, n, l, h⟩⟩

theorem processAxis_within {bottom top : ℤ} (within : AxisWithin wide bottom top f) (few : -512 ≤ bottom)
    (nonpos : bottom ≤ 0) (nonneg : 0 ≤ top) (most : top ≤ 512) (report : Report) :
    ∃ axis, uniHidParserProcessAxis wide f.globals (getField wide report f).value = some axis ∧
      bottom ≤ axis.toInt ∧ axis.toInt ≤ top := by
  obtain ⟨bits, short, positive, narrow, lowest, highest⟩ := within
  obtain ⟨x, fits, same⟩ := getField_holds wide bits short report
  obtain ⟨above, below⟩ := holds_between short fits
  obtain ⟨⟨left, right⟩, bounds⟩ :=
    scaled_between positive (by decide) nonpos nonneg above below lowest highest
  obtain ⟨axis, processed, scale⟩ := processAxis_eq_scaled wide positive narrow (by nlinarith) (by nlinarith)
  exact ⟨axis, same ▸ processed, scale ▸ bounds⟩

end BukkisDrone.Hid
