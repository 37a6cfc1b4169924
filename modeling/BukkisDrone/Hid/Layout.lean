import BukkisDrone.Hid.Usages

/-!
# What a descriptor means

The items are read once, in order: the local items since the last main item name the fields of the next one.
A descriptor has a meaning if every main item names as many usages as it has fields, and every report is
described in one piece.
-/

namespace BukkisDrone.Hid

inductive LocalEntry where
  | usage (u : ℕ)
  | usageMinimum (u : ℕ)
  | usageMaximum (u : ℕ)
  deriving DecidableEq

def localEntry (page : ℕ) (item : Item) : Option LocalEntry :=
  if item.itemType = .localItem then
    match localItemTagOf item.itemTag with
    | some .usage => some (.usage (usageValue page item))
    | some .usageMinimum => some (.usageMinimum (usageValue page item))
    | some .usageMaximum => some (.usageMaximum (usageValue page item))
    | _ => none
  else none

/-- The usages of a main item: single ones, and after them perhaps a range. -/
def usagesOf : List LocalEntry → Option (List ℕ)
  | [] => some []
  | [.usageMinimum least, .usageMaximum greatest] =>
    if least ≤ greatest then some (List.range' least (greatest - least + 1)) else none
  | .usage u :: rest => (usagesOf rest).map (u :: ·)
  | _ => none

/-- An array has one usage or one range. -/
def arrayUsageOf : List LocalEntry → Option ℕ
  | [.usage u] => some u
  | [.usageMinimum least, .usageMaximum greatest] =>
    if least ≤ greatest ∧ greatest - least + 1 < 2 ^ 16 then some least else none
  | _ => none

/-- What the items so far have said, and the report IDs that they have used. -/
structure Scope where
  globals : HidGlobals
  pos : ℕ
  locals : List LocalEntry
  seen : List ℕ
  deriving DecidableEq

def Scope.init : Scope := ⟨⟨0, 0, 0, 0, 0, hidReportIdUndefined⟩, 0, [], [hidReportIdUndefined]⟩

def fieldAt (g : HidGlobals) (item : Item) (pos page usage : ℕ) : ReportField :=
  ⟨g, ⟨g.reportId, pos, page, usage, g.reportSize, item, g.logicalMinimum⟩⟩

def variableFields (g : HidGlobals) (item : Item) (pos : ℕ) : List ℕ → List ReportField
  | [] => []
  | u :: us => fieldAt g item pos (u / 2 ^ 16) (u % 2 ^ 16) :: variableFields g item (pos + g.reportSize) us

def arrayFields (g : HidGlobals) (item : Item) (pos page : ℕ) : ℕ → List ReportField
  | 0 => []
  | count + 1 => fieldAt g item pos page 0 :: arrayFields g item (pos + g.reportSize) page count

/-- Every value must fit its field of the globals. -/
def declare (item : Item) (g : HidGlobals) : Option HidGlobals :=
  match globalItemTagOf item.itemTag with
  | some .usagePage => if item.bits < 2 ^ 16 then some { g with usagePage := item.bits } else none
  | some .logicalMinimum => some { g with logicalMinimum := item.itemValue }
  | some .logicalMaximum => some { g with logicalMaximum := item.itemValue }
  | some .reportSize => if item.bits < 2 ^ 8 then some { g with reportSize := item.bits } else none
  | some .reportID => if item.bits < 2 ^ 8 then some { g with reportId := item.bits } else none
  | some .reportCount => if item.bits < 2 ^ 8 then some { g with reportCount := item.bits } else none
  | some _ => some g
  | none => none

/-- A report is described in one piece. -/
def Scope.global (item : Item) (s : Scope) : Option Scope :=
  (declare item s.globals).bind fun g =>
    if g.reportId = s.globals.reportId then some { s with globals := g }
    else if g.reportId ∈ s.seen then none
    else some { s with globals := g, pos := 0, seen := g.reportId :: s.seen }

/-- There are as many usages as fields. -/
def Scope.fields (item : Item) (s : Scope) : Option (List ReportField) :=
  if item.isVariable then
    (usagesOf s.locals).bind fun us =>
      if us.length = s.globals.reportCount then some (variableFields s.globals item s.pos us) else none
  else
    (arrayUsageOf s.locals).map fun u =>
      arrayFields s.globals item s.pos (u / 2 ^ 16) s.globals.reportCount

def Scope.stop (s : Scope) : ℕ := s.pos + s.globals.reportSize * s.globals.reportCount

/-- A report has less than 2^16 bits, its ID counted. -/
def Scope.main (item : Item) (s : Scope) : Option (List ReportField × Scope) :=
  if mainItemTagOf item.itemTag = some .input then
    if 2 ^ 16 ≤ s.stop + 8 then none
    else if item.isConstant ∨ s.globals.reportCount = 0 then some ([], { s with pos := s.stop, locals := [] })
    else (s.fields item).map fun fields => (fields, { s with pos := s.stop, locals := [] })
  else some ([], { s with locals := [] })

def Scope.item (item : Item) (s : Scope) : Option (List ReportField × Scope) :=
  match item.itemType with
  | .mainItem => s.main item
  | .globalItem => (s.global item).map fun s => ([], s)
  | .localItem => some ([], { s with locals := s.locals ++ (localEntry s.globals.usagePage item).toList })
  | .reservedItem => some ([], s)

def layoutFrom : List Item → Scope → Option (List ReportField)
  | [], _ => some []
  | item :: rest, s =>
    (s.item item).bind fun here => (layoutFrom rest here.2).map (here.1 ++ ·)

/-- The fields of input reports, if the descriptor has a meaning. -/
def layout (items : List Item) : Option (List ReportField) := layoutFrom items .init

end BukkisDrone.Hid
