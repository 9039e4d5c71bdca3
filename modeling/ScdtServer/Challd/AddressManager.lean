import ScdtServer.Challd.Host

/-!
# The lock-free address table

`take_next_addr` scans the slots in order, one atomic `fetch_or` each, and
keeps the first one it found unused; the address of slot `i` is `i + 1`.
-/

namespace ScdtServer.AddressManager

open ScdtServer.Interaction ScdtServer.Interaction.Program
open ScdtServer.Host

def firstSlot : Slot := ⟨0, by decide⟩

def lastSlot : Slot := ⟨maxInstances - 1, by decide⟩

def addrOf (slot : Slot) : UInt8 := UInt8.ofNat slot.val + 1

/-- The scan of `AddressManager::take_next_addr` over the slots still ahead. -/
def takeNextAddrFrom : List Slot → Prog (Option UInt8)
  | [] => return none
  | slot :: slots => do
      let inUse ← fetchOr slot
      if inUse = false then return some (addrOf slot)
      else takeNextAddrFrom slots

/-- `AddressManager::take_next_addr`. -/
def takeNextAddr : Prog (Option UInt8) :=
  takeNextAddrFrom (List.finRange maxInstances)

/-- `(1..=(MAX_INSTANCES as u8 + 1)).contains(&addr)`, which also admits the
address after the last one. -/
def addrInRange (addr : UInt8) : Bool :=
  decide (1 ≤ addr ∧ addr ≤ UInt8.ofNat maxInstances + 1)

/-- `AddressManager::relinquish_addr`.  Indexing outside the table panics. -/
def relinquishAddr (addr : UInt8) : Prog Unit := do
  assert (addrInRange addr)
  if hindex : (addr - 1).toNat < maxInstances then store ⟨(addr - 1).toNat, hindex⟩
  else .panic

@[simp]
theorem addrInRange_addrOf (slot : Slot) : addrInRange (addrOf slot) = true := by
  revert slot
  decide

theorem all_addrInRange (maybeSlot : Option Slot) :
    (maybeSlot.map addrOf).all addrInRange = true := by
  cases maybeSlot with
  | none => rfl
  | some slot => exact addrInRange_addrOf slot

theorem index_addrOf (slot : Slot) : (addrOf slot - 1).toNat = slot.val := by
  revert slot
  decide

theorem addrOf_injective : Function.Injective addrOf := by
  intro left right heq
  have hindex := index_addrOf left
  rw [heq, index_addrOf right] at hindex
  exact (Fin.ext hindex).symm

/-- On an address of the table, relinquishing is the one store to its slot. -/
@[simp]
theorem relinquishAddr_addrOf (slot : Slot) :
    relinquishAddr (addrOf slot) = store slot := by
  have hlt : (addrOf slot - 1).toNat < maxInstances := by
    rw [index_addrOf]
    exact slot.isLt
  have hslot : (⟨(addrOf slot - 1).toNat, hlt⟩ : Slot) = slot :=
    Fin.ext (index_addrOf slot)
  rw [relinquishAddr, addrInRange_addrOf, assert_true, ret_bind, dif_pos hlt, hslot]

end ScdtServer.AddressManager
