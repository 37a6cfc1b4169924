import BukkisDrone.Bluetooth.HidDevice
import Mathlib.Data.List.Basic
import Mathlib.Data.Fin.Basic

/-!
# The allow list

`uni_bt_allowlist.c`: four addresses, a zero address being a free entry, and whether they are enforced.
-/

namespace BukkisDrone.Bluetooth

structure AllowList where
  addrs : Vector BdAddr 4
  enforced : Bool
  deriving DecidableEq

def AllowList.zero : AllowList := ⟨Vector.replicate 4 zeroAddr, false⟩

def isAddressInAllowlist (l : AllowList) (addr : BdAddr) : Bool :=
  (Fin.find? fun i => l.addrs.get i == addr).isSome

def uniBtAllowlistIsAllowedAddr (l : AllowList) (addr : BdAddr) : Bool :=
  if l.enforced then isAddressInAllowlist l addr else true

def uniBtAllowlistAddAddr (addr : BdAddr) (l : AllowList) : Bool × AllowList :=
  if isAddressInAllowlist l addr then (false, l)
  else match Fin.find? fun i => l.addrs.get i == zeroAddr with
    | some i => (true, { l with addrs := l.addrs.set i addr })
    | none => (false, l)

def uniBtAllowlistRemoveAddr (addr : BdAddr) (l : AllowList) : Bool × AllowList :=
  match Fin.find? fun i => l.addrs.get i == addr with
  | some i => (true, { l with addrs := l.addrs.set i zeroAddr })
  | none => (false, l)

def uniBtAllowlistSetEnabled (enabled : Bool) (l : AllowList) : AllowList := { l with enforced := enabled }

end BukkisDrone.Bluetooth
