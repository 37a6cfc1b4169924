import BukkisDrone.Hid.Descriptor
import BukkisDrone.Runs.Loop

/-!
# The usage iterator

The usage iterator of `btstack_hid_parser.c`. One cursor goes through the items of the descriptor, a second
one collects the usages for the main item that the first has reached.
-/

namespace BukkisDrone.Hid
open Runs

inductive IteratorState where
  | scanForReportItem | usagesAvailable | parserComplete
  deriving DecidableEq

inductive ReportType where
  | reserved | input | output | feature
  deriving DecidableEq

def hidReportIdUndefined : ℕ := 0xffff

/-- The `global_` fields of the iterator. -/
structure HidGlobals where
  logicalMinimum : Int32
  logicalMaximum : Int32
  usagePage : ℕ
  reportSize : ℕ
  reportCount : ℕ
  reportId : ℕ
  deriving DecidableEq

/-- `descriptorIterator` and `usagePos` are the items from the two cursors on. -/
structure UsageIterator where
  descriptorIterator : List Item
  state : IteratorState
  descriptorItem : Item
  reportType : ReportType
  reportPosInBit : ℕ
  usagePos : List Item
  usagePage : ℕ
  usageMinimum : ℕ
  usageMaximum : ℕ
  availableUsages : ℕ
  requiredUsages : ℕ
  usageRange : Bool
  globals : HidGlobals
  deriving DecidableEq

structure UsageItem where
  reportId : ℕ
  bitPos : ℕ
  usagePage : ℕ
  usage : ℕ
  size : ℕ
  descriptorItem : Item
  globalLogicalMinimum : Int32
  deriving DecidableEq

def usageIteratorInit (items : List Item) (reportType : ReportType) : UsageIterator where
  descriptorIterator := items
  state := .scanForReportItem
  descriptorItem := .zero
  reportType := reportType
  reportPosInBit := 0
  usagePos := items
  usagePage := 0
  usageMinimum := 0
  usageMaximum := 0
  availableUsages := 0
  requiredUsages := 0
  usageRange := false
  globals := ⟨0, 0, 0, 0, 0, hidReportIdUndefined⟩

def mainItemTagMatchesReportType (tag : ℕ) (reportType : ReportType) : Bool :=
  match mainItemTagOf tag with
  | some .input => reportType = .input
  | some .output => reportType = .output
  | some .feature => reportType = .feature
  | _ => false

/-- `none` is a failed assertion. -/
def handleGlobalItem (item : Item) (g : HidGlobals) : Option HidGlobals :=
  match globalItemTagOf item.itemTag with
  | some .usagePage => some { g with usagePage := item.bits % 2 ^ 16 }
  | some .logicalMinimum => some { g with logicalMinimum := item.itemValue }
  | some .logicalMaximum => some { g with logicalMaximum := item.itemValue }
  | some .reportSize => some { g with reportSize := item.bits % 2 ^ 8 }
  | some .reportID => some { g with reportId := item.bits % 2 ^ 16 }
  | some .reportCount => some { g with reportCount := item.bits % 2 ^ 8 }
  | some _ => some g
  | none => none

/-! ### Usages -/

def usageValue (usagePage : ℕ) (item : Item) : ℕ :=
  if 2 < item.dataSize then item.bits else (usagePage <<< 16 ||| item.bits) % 2 ^ 32

/-- A local item: a usage, one end of a range, or nothing. -/
def localUsage (haveMin haveMax : Bool) (item : Item) (it : UsageIterator) : Bool × Bool × UsageIterator :=
  let value := usageValue it.usagePage item
  match localItemTagOf item.itemTag with
  | some .usage => (haveMin, haveMax, { it with availableUsages := 1, usageMinimum := value })
  | some .usageMinimum => (true, haveMax, { it with usageMinimum := value })
  | some .usageMaximum => (haveMin, true, { it with usageMaximum := value })
  | _ => (haveMin, haveMax, it)

def usageRangeFound (haveMin haveMax : Bool) (it : UsageIterator) : UsageIterator :=
  if haveMin ∧ haveMax then
    { it with
      availableUsages := (it.usageMaximum + 2 ^ 32 - it.usageMinimum + 1) % 2 ^ 32 % 2 ^ 16
      usageRange := true }
  else it

def usagePageFound (item : Item) (it : UsageIterator) : UsageIterator :=
  if item.itemType = .globalItem ∧ globalItemTagOf item.itemTag = some .usagePage then
    { it with usagePage := item.bits % 2 ^ 16 }
  else it

/-- The loop of `btstack_usage_iterator_hid_find_next_usage`. -/
def findUsageLoop (haveMin haveMax : Bool) (it : UsageIterator) : List Item → UsageIterator
  | [] => { it with usagePos := [] }
  | item :: rest =>
    if it.availableUsages ≠ 0 then { it with usagePos := item :: rest }
    else
      let it := usagePageFound item it
      if item.itemType = .localItem then
        let (haveMin, haveMax, it) := localUsage haveMin haveMax item it
        findUsageLoop haveMin haveMax (usageRangeFound haveMin haveMax it) rest
      else findUsageLoop haveMin haveMax it rest

def hidFindNextUsage (it : UsageIterator) : UsageIterator :=
  findUsageLoop false false { it with usageRange := false } it.usagePos

/-! ### Main items -/

def processMainItem (item : Item) (it : UsageIterator) : UsageIterator :=
  if mainItemTagMatchesReportType item.itemTag it.reportType then
    if item.isConstant then
      { it with
        reportPosInBit := (it.reportPosInBit + it.globals.reportSize * it.globals.reportCount) % 2 ^ 16 }
    else if it.globals.reportCount = 0 then it
    else { it with requiredUsages := it.globals.reportCount }
  else it

/-- A new report ID starts a new report. -/
def processItem (item : Item) (it : UsageIterator) : Option UsageIterator :=
  match item.itemType with
  | .mainItem => some (processMainItem item it)
  | .globalItem =>
    (handleGlobalItem item it.globals).map fun g =>
      { it with
        globals := g
        reportPosInBit := if it.globals.reportId ≠ g.reportId then 0 else it.reportPosInBit }
  | .localItem | .reservedItem => some it

/-- The usages for the main item that is reached. -/
def startField (it : UsageIterator) : UsageIterator :=
  let it := hidFindNextUsage it
  { it with state := if it.availableUsages ≠ 0 then .usagesAvailable else .parserComplete }

def resetUsage (item : Item) (rest : List Item) (it : UsageIterator) : UsageIterator :=
  if item.itemType = .mainItem then { it with usagePos := rest, usagePage := it.globals.usagePage } else it

/-- The loop of `btstack_hid_usage_iterator_find_next_usage`. -/
def scanLoop (it : UsageIterator) : List Item → Option UsageIterator
  | [] => some { it with descriptorIterator := [], state := .parserComplete }
  | item :: rest =>
    match processItem item { it with descriptorIterator := rest, descriptorItem := item } with
    | none => none
    | some it => if it.requiredUsages ≠ 0 then some (startField it) else scanLoop (resetUsage item rest it) rest

/-- Whether there is more is then what `state` says. -/
def usageIteratorHasMore (it : UsageIterator) : Option UsageIterator :=
  if it.state = .scanForReportItem then scanLoop it it.descriptorIterator else some it

/-! ### Items of a report -/

def UsageIterator.usageItem (it : UsageIterator) : UsageItem where
  reportId := it.globals.reportId
  bitPos := it.reportPosInBit
  usagePage := it.usageMinimum >>> 16
  usage := if it.descriptorItem.isVariable then it.usageMinimum % 2 ^ 16 else 0
  size := it.globals.reportSize
  descriptorItem := it.descriptorItem
  globalLogicalMinimum := it.globals.logicalMinimum

/-- A variable item takes one usage. Where a range is too short, the rest of the field is left out. -/
def takeUsage (it : UsageIterator) : UsageIterator :=
  let it := { it with
    usageMinimum := (it.usageMinimum + 1) % 2 ^ 32
    availableUsages := (it.availableUsages + 2 ^ 16 - 1) % 2 ^ 16 }
  if it.usageRange ∧ it.usageMaximum < it.usageMinimum then
    { it with
      reportPosInBit := (it.reportPosInBit + it.globals.reportSize * it.requiredUsages) % 2 ^ 16
      requiredUsages := 0 }
  else it

/-- An array item keeps its usages to the end. -/
def keepUsages (it : UsageIterator) : UsageIterator :=
  if it.requiredUsages = 0 then { it with availableUsages := 0 } else it

def findFurther (it : UsageIterator) : UsageIterator :=
  if it.availableUsages ≠ 0 then it
  else if it.requiredUsages = 0 then { it with state := .scanForReportItem }
  else
    let it := hidFindNextUsage it
    if it.availableUsages = 0 then { it with state := .parserComplete } else it

/-- What `btstack_hid_usage_iterator_get_item` leaves; the item is `usageItem`. -/
def getItem (it : UsageIterator) : UsageIterator :=
  let it := { it with
    requiredUsages := (it.requiredUsages + 2 ^ 16 - 1) % 2 ^ 16
    reportPosInBit := (it.reportPosInBit + it.globals.reportSize) % 2 ^ 16 }
  findFurther (if it.descriptorItem.isVariable then takeUsage it else keepUsages it)

/-- The globals of a field are read before its value. -/
structure ReportField where
  globals : HidGlobals
  item : UsageItem
  deriving DecidableEq

def usagePass (it : UsageIterator) : Pass UsageIterator ReportField :=
  match usageIteratorHasMore it with
  | none => .aborted
  | some it =>
    if it.state = .usagesAvailable then
      let next := getItem it
      .emits ⟨next.globals, it.usageItem⟩ next
    else .ended

end BukkisDrone.Hid
