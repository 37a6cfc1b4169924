import BukkisDrone.Bytes.Bits

/-!
# Items of a HID descriptor

`btstack_hid_descriptor_parse_item`, and the items that the descriptor iterator of `btstack_hid_parser.c`
yields.
-/

namespace BukkisDrone.Hid
open Bytes

inductive TagType where
  | mainItem | globalItem | localItem | reservedItem
  deriving DecidableEq

inductive MainItemTag where
  | input | output | coll | feature | endColl
  deriving DecidableEq

inductive GlobalItemTag where
  | usagePage | logicalMinimum | logicalMaximum | physicalMinimum | physicalMaximum | unitExponent | unit
  | reportSize | reportID | reportCount | push | pop
  deriving DecidableEq

inductive LocalItemTag where
  | usage | usageMinimum | usageMaximum | designatorIndex | designatorMinimum | designatorMaximum | stringIndex
  | stringMinimum | stringMaximum | delimiter
  deriving DecidableEq

def tagTypeOf : ℕ → TagType
  | 0 => .mainItem
  | 1 => .globalItem
  | 2 => .localItem
  | _ => .reservedItem

def mainItemTagOf : ℕ → Option MainItemTag
  | 8 => some .input
  | 9 => some .output
  | 10 => some .coll
  | 11 => some .feature
  | 12 => some .endColl
  | _ => none

def globalItemTagOf : ℕ → Option GlobalItemTag
  | 0 => some .usagePage
  | 1 => some .logicalMinimum
  | 2 => some .logicalMaximum
  | 3 => some .physicalMinimum
  | 4 => some .physicalMaximum
  | 5 => some .unitExponent
  | 6 => some .unit
  | 7 => some .reportSize
  | 8 => some .reportID
  | 9 => some .reportCount
  | 10 => some .push
  | 11 => some .pop
  | _ => none

def localItemTagOf : ℕ → Option LocalItemTag
  | 0 => some .usage
  | 1 => some .usageMinimum
  | 2 => some .usageMaximum
  | 3 => some .designatorIndex
  | 4 => some .designatorMinimum
  | 5 => some .designatorMaximum
  | 6 => some .stringIndex
  | 7 => some .stringMinimum
  | 8 => some .stringMaximum
  | 9 => some .delimiter
  | _ => none

structure Item where
  itemValue : Int32
  itemSize : ℕ
  itemType : TagType
  itemTag : ℕ
  dataSize : ℕ
  deriving DecidableEq

def Item.zero : Item := ⟨0, 0, .mainItem, 0, 0⟩

/-- The value as the bits of an unsigned integer. -/
def Item.bits (item : Item) : ℕ := item.itemValue.toUInt32.toNat

/-- The first two flags of an input, output or feature item. -/
def Item.isConstant (item : Item) : Bool := item.bits.testBit 0

def Item.isVariable (item : Item) : Bool := item.bits.testBit 1

variable (wide : ℕ → ℕ → ℕ)

/-! ### Parsing -/

def hidItemSizes : ℕ → ℕ
  | 0 => 0
  | 1 => 1
  | 2 => 2
  | _ => 4

/-- The logical and physical limits are signed. -/
def readItemValue (itemType : TagType) (itemTag : ℕ) (data : List UInt8) : Int32 :=
  let value := UInt32.ofNat (gather wide 0 0 data)
  let sgnd := itemType = .globalItem ∧ 0 < itemTag ∧ itemTag < 5
  let latestByte := data.getLastD 0
  if sgnd ∧ 0 < data.length ∧ 128 ≤ latestByte then
    (value - UInt32.ofNat (shl wide 1 (data.length * 8))).toInt32
  else value.toInt32

/-- The rest of the item, of whose header `pos` bytes are read. -/
def readItem (pos : ℕ) (itemType : TagType) (itemTag dataSize : ℕ) (rest : List UInt8) : Option Item :=
  if rest.length < dataSize then none
  else if 4 < dataSize then none
  else some
    { itemValue := readItemValue wide itemType itemTag (rest.take dataSize)
      itemSize := pos + dataSize
      itemType := itemType
      itemTag := itemTag
      dataSize := dataSize }

def parseItem : List UInt8 → Option Item
  | [] => none
  | itemHeader :: rest =>
    let dataSize := hidItemSizes (itemHeader.toNat % 4)
    let itemType := tagTypeOf (itemHeader.toNat / 4 % 4)
    let itemTag := itemHeader.toNat / 16
    if dataSize = 2 ∧ itemTag = 15 ∧ itemType = .reservedItem then
      match rest with
      | longSize :: longTag :: rest => readItem wide 3 itemType longTag.toNat longSize.toNat rest
      | _ => none
    else readItem wide 1 itemType itemTag dataSize rest

theorem readItem_size {pos tag size : ℕ} {itemType : TagType} {rest : List UInt8} {item : Item}
    (read : readItem wide pos itemType tag size rest = some item) :
    item.itemSize = pos + size ∧ size ≤ rest.length ∧ size ≤ 4 := by
  unfold readItem at read
  split at read
  · cases read
  split at read
  · cases read
  · obtain rfl := Option.some.inj read
    exact ⟨rfl, by omega, by omega⟩

theorem parseItem_size {descriptor : List UInt8} {item : Item}
    (parsed : parseItem wide descriptor = some item) :
    0 < item.itemSize ∧ item.itemSize ≤ descriptor.length := by
  cases descriptor with
  | nil => cases parsed
  | cons itemHeader rest =>
    rw [List.length_cons]
    dsimp only [parseItem] at parsed
    split at parsed
    · split at parsed
      · obtain ⟨size, fits, -⟩ := readItem_size wide parsed
        rw [size, List.length_cons, List.length_cons]
        omega
      · cases parsed
    · obtain ⟨size, fits, -⟩ := readItem_size wide parsed
      omega

/-! ### The descriptor iterator

The position of an iterator is always the end of an item, or the start. So the items from there on stand for
the position. -/

def itemsFrom : ℕ → List UInt8 → List Item
  | 0, _ => []
  | fuel + 1, descriptor =>
    match parseItem wide descriptor with
    | none => []
    | some item => item :: itemsFrom fuel (descriptor.drop item.itemSize)

/-- The items up to the end of the descriptor, or to the first that does not parse. -/
def items (descriptor : List UInt8) : List Item := itemsFrom wide descriptor.length descriptor

theorem itemsFrom_eq {fuel : ℕ} {descriptor : List UInt8} (enough : descriptor.length ≤ fuel) :
    itemsFrom wide fuel descriptor = items wide descriptor := by
  rw [items]
  induction fuel using Nat.strong_induction_on generalizing descriptor with
  | _ fuel ih =>
    cases parsed : parseItem wide descriptor with
    | none =>
      cases fuel <;> cases descriptor <;> simp [itemsFrom, parsed]
    | some item =>
      obtain ⟨positive, inside⟩ := parseItem_size wide parsed
      obtain ⟨fuel, rfl⟩ : ∃ k, fuel = k + 1 := ⟨fuel - 1, by omega⟩
      obtain ⟨len, long⟩ : ∃ k, descriptor.length = k + 1 := ⟨descriptor.length - 1, by omega⟩
      have rest : (descriptor.drop item.itemSize).length ≤ len := by
        rw [List.length_drop]
        omega
      rw [long, itemsFrom, itemsFrom, parsed]
      dsimp only
      rw [ih fuel (by omega) (by omega)]
      rcases Nat.lt_or_ge len (fuel + 1) with less | same
      · rw [ih len (by omega) rest]
      · omega

/-- The next item starts where the last one ends. -/
theorem items_eq (descriptor : List UInt8) :
    items wide descriptor =
      match parseItem wide descriptor with
      | none => []
      | some item => item :: items wide (descriptor.drop item.itemSize) := by
  cases parsed : parseItem wide descriptor with
  | none => cases descriptor <;> simp [items, itemsFrom, parsed]
  | some item =>
    obtain ⟨positive, inside⟩ := parseItem_size wide parsed
    obtain ⟨len, long⟩ : ∃ k, descriptor.length = k + 1 := ⟨descriptor.length - 1, by omega⟩
    rw [items, long, itemsFrom, parsed]
    dsimp only
    rw [itemsFrom_eq]
    rw [List.length_drop]
    omega

theorem length_items_le (descriptor : List UInt8) : (items wide descriptor).length ≤ descriptor.length := by
  induction len : descriptor.length using Nat.strong_induction_on generalizing descriptor with
  | _ len ih =>
    subst len
    rw [items_eq]
    cases parsed : parseItem wide descriptor with
    | none => exact Nat.zero_le _
    | some item =>
      obtain ⟨positive, inside⟩ := parseItem_size wide parsed
      have shorter : (descriptor.drop item.itemSize).length < descriptor.length := by
        rw [List.length_drop]
        omega
      have rest := ih _ shorter _ rfl
      dsimp only
      rw [List.length_cons]
      omega

end BukkisDrone.Hid
