import BukkisDrone.Hid.Walk

/-!
# Fields of a report

`btstack_hid_parser_get_field`, and the fields that the loop of `uni_hid_parse_input_report` hands to the
parser of the device.
-/

namespace BukkisDrone.Hid
open Bytes Runs

/-- A report, and the byte that follows it in memory, which a field past its end is read from. -/
structure Report where
  bytes : List UInt8
  beyond : UInt8
  deriving DecidableEq

def Report.byte (report : Report) (k : ℕ) : UInt8 := report.bytes.getD k report.beyond

/-- The copy that `uni_hid_parse_input_report` makes for the parser. The report ID of `hid_globals_t` has 8 bits. -/
def HidGlobals.saved (g : HidGlobals) : HidGlobals := { g with reportId := g.reportId % 2 ^ 8 }

/-- What a parser of usages is given of a field. -/
structure UsageValue where
  globals : HidGlobals
  usagePage : ℕ
  usage : ℕ
  value : Int32
  deriving DecidableEq

variable (wide : ℕ → ℕ → ℕ)

def Report.window (report : Report) (start count : ℕ) : List UInt8 :=
  (List.range count).map fun i => report.byte (start + i)

def unsignedValue (report : Report) (bitPos size : ℕ) : ℕ :=
  let posStart := min (bitPos / 8) report.bytes.length
  let posEnd := min ((bitPos + size + 2 ^ 32 - 1) % 2 ^ 32 / 8) report.bytes.length
  let multiByteValue := gather wide 0 0 (report.window posStart (posEnd + 1 - posStart))
  multiByteValue >>> (bitPos % 8) &&& (shl wide 1 size + 2 ^ 32 - 1) % 2 ^ 32

/-- The value of a variable field, whose sign is that of its logical minimum. -/
def variableValue (item : UsageItem) (unsigned : ℕ) : Int32 :=
  if item.globalLogicalMinimum < 0 ∧ unsigned &&& shl wide 1 ((item.size + 2 ^ 32 - 1) % 2 ^ 32) ≠ 0 then
    (UInt32.ofNat (unsigned + 2 ^ 32 - shl wide 1 item.size)).toInt32
  else (UInt32.ofNat unsigned).toInt32

/-- The field of an array holds the usage. -/
def ReportField.read (field : ReportField) (unsigned : ℕ) : UsageValue :=
  if field.item.descriptorItem.isVariable then
    ⟨field.globals.saved, field.item.usagePage, field.item.usage, variableValue wide field.item unsigned⟩
  else ⟨field.globals.saved, field.item.usagePage, unsigned % 2 ^ 16, 1⟩

/-- Where a field begins in a report, the report ID counted. -/
def UsageItem.start (item : UsageItem) : ℕ :=
  if item.reportId ≠ hidReportIdUndefined then (item.bitPos + 8) % 2 ^ 16 else item.bitPos

def getField (report : Report) (field : ReportField) : UsageValue :=
  field.read wide (unsignedValue wide report field.item.start field.item.size)

/-- `btstack_hid_parser_has_more` passes over the fields of other reports. -/
def UsageItem.InReport (item : UsageItem) (report : Report) : Prop :=
  item.reportId ≠ hidReportIdUndefined → item.reportId = (report.byte 0).toNat

instance (item : UsageItem) (report : Report) : Decidable (item.InReport report) :=
  inferInstanceAs (Decidable (item.reportId ≠ hidReportIdUndefined → item.reportId = (report.byte 0).toNat))

/-- The calls of the loop of `uni_hid_parse_input_report`. -/
def usageValues (descriptor : List UInt8) (report : Report) : Outcome UsageValue :=
  (walk (items wide descriptor) .input).map fun fields =>
    (fields.filter fun field => field.item.InReport report).map (getField wide report)

/-! ### Fields are slices -/

variable {report : Report} {bitPos size : ℕ}

theorem length_window (start count : ℕ) : (report.window start count).length = count := by
  simp [Report.window]

theorem window_eq {start count : ℕ} (inside : start + count ≤ report.bytes.length + 1) :
    report.window start count = ((report.bytes ++ [report.beyond]).drop start).take count := by
  refine List.ext_getElem ?_ fun i left right => ?_
  · simp only [length_window, List.length_take, List.length_drop, List.length_append, List.length_singleton]
    omega
  · rw [length_window] at left
    simp only [Report.window, Report.byte, List.getElem_map, List.getElem_range, List.getElem_take,
      List.getElem_drop, List.getD_eq_getElem?_getD, List.getElem_append]
    split
    · rename_i within
      rw [List.getElem?_eq_getElem within, Option.getD_some]
    · rename_i past
      simp [List.getElem?_eq_none (Nat.not_lt.mp past)]

/-- The value of a field is at most what its bits hold, wherever it lies. -/
theorem unsignedValue_lt (report : Report) (bitPos : ℕ) (short : size < 32) :
    unsignedValue wide report bitPos size < 2 ^ size := by
  have shifted : shl wide 1 size = 2 ^ size := by
    have power : 1 * 2 ^ size < 2 ^ 32 := by
      rw [one_mul]
      exact Nat.pow_lt_pow_right (by omega) short
    rw [shl_eq wide power short, one_mul]
  have power : 2 ^ size < 2 ^ 32 := Nat.pow_lt_pow_right (by omega) short
  have positive := Nat.two_pow_pos size
  have mask : (2 ^ size + 2 ^ 32 - 1) % 2 ^ 32 = 2 ^ size - 1 := by omega
  rw [unsignedValue, shifted, mask, Nat.and_two_pow_sub_one_eq_mod]
  exact Nat.mod_lt _ positive

/-- A field is a slice of the report and the byte after it. -/
theorem unsignedValue_eq_slice (positive : 0 < size) (short : size < 32) (whole : bitPos % 8 + size ≤ 32)
    (starts : bitPos / 8 ≤ report.bytes.length) (small : bitPos < 2 ^ 16) :
    unsignedValue wide report bitPos size =
      slice (number (report.bytes ++ [report.beyond])) bitPos size := by
  have power : 2 ^ size < 2 ^ 32 := Nat.pow_lt_pow_right (by omega) short
  have one := Nat.two_pow_pos size
  have shifted : shl wide 1 size = 2 ^ size := by rw [shl_eq wide (by omega) short, one_mul]
  have mask : (2 ^ size + 2 ^ 32 - 1) % 2 ^ 32 = 2 ^ size - 1 := by omega
  have last : (bitPos + size + 2 ^ 32 - 1) % 2 ^ 32 = bitPos + size - 1 := by omega
  rw [unsignedValue, shifted, mask, last, Nat.and_two_pow_sub_one_eq_mod, Nat.shiftRight_eq_div_pow, min_eq_left starts]
  obtain ⟨count, width⟩ : ∃ count, min ((bitPos + size - 1) / 8) report.bytes.length + 1 - bitPos / 8 = count :=
    ⟨_, rfl⟩
  have few : count ≤ 4 := by omega
  have inside : bitPos / 8 + count ≤ report.bytes.length + 1 := by omega
  rw [width, gather_eq wide (by rw [length_window]; omega) (by simp), window_eq inside, number_take,
    number_drop]
  simp only [mul_zero, pow_zero, one_mul, zero_add]
  have start : bitPos % 8 = bitPos - 8 * (bitPos / 8) := by omega
  rw [start]
  rcases Nat.lt_or_ge report.bytes.length ((bitPos + size - 1) / 8) with past | within
  · -- The window ends with the last byte that there is, and the number with it.
    have all : number (report.bytes ++ [report.beyond]) < 2 ^ (8 * (bitPos / 8) + 8 * count) := by
      have bound := number_lt (report.bytes ++ [report.beyond])
      rw [List.length_append, List.length_singleton] at bound
      exact bound.trans_le (Nat.pow_le_pow_right (by omega) (by omega))
    have rest : number (report.bytes ++ [report.beyond]) / 2 ^ (8 * (bitPos / 8)) < 2 ^ (8 * count) :=
      Nat.div_lt_of_lt_mul (by rwa [← pow_add])
    have same : 8 * (bitPos / 8) + (bitPos - 8 * (bitPos / 8)) = bitPos := by omega
    rw [Nat.mod_eq_of_lt rest, slice, Nat.div_div_eq_div_mul, ← pow_add, same]
  · exact slice_window _ (by omega) (by omega)

/-- A field that lies in the report is a slice of the report alone. -/
theorem unsignedValue_of_inside (positive : 0 < size) (short : size < 32) (whole : bitPos % 8 + size ≤ 32)
    (inside : bitPos + size ≤ 8 * report.bytes.length) (small : bitPos < 2 ^ 16) :
    unsignedValue wide report bitPos size = slice (number report.bytes) bitPos size := by
  rw [unsignedValue_eq_slice wide positive short whole (by omega) small]
  have cut := slice_window (number (report.bytes ++ [report.beyond]))
    (Nat.zero_le bitPos) (show bitPos + size ≤ 0 + 8 * report.bytes.length by omega)
  rw [← cut, pow_zero, Nat.div_one, Nat.sub_zero, ← number_take, List.take_left]

end BukkisDrone.Hid
