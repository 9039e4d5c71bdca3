import ScdtServer.Core.Ownership
import ScdtServer.Core.Transition
import ScdtServer.Challd.AddressManager

/-!
# Mutual exclusion of the address table

Any number of tasks call `take_next_addr` and `relinquish_addr`; each access to
a slot is one step, so scans overlap in every possible way.  A task holds an
address from the `fetch_or` that won it to the store that gives it back.
-/

namespace ScdtServer.Allocator

open Function
open ScdtServer.Interaction ScdtServer.Interaction.Program
open ScdtServer.Transition ScdtServer.Ownership
open ScdtServer.Host ScdtServer.AddressManager

inductive Activity
  | idle
  | taking (program : Prog (Option UInt8))
  | holding (addr : UInt8)
  | relinquishing (program : Prog Unit)

structure Table where
  slots : Slot → Bool
  tasks : ℕ → Activity

/-- What a task does next. -/
inductive Event
  | take (task : ℕ)
  | fetchOr (task : ℕ) (slot : Slot) (inUse : Bool)
  | taken (task : ℕ) (addr : UInt8)
  | busy (task : ℕ)
  | relinquish (task : ℕ) (addr : UInt8)
  | store (task : ℕ) (slot : Slot)
  | relinquished (task : ℕ)

def initial : Table where
  slots _ := false
  tasks _ := .idle

def Table.setTask (table : Table) (task : ℕ) (activity : Activity) : Table :=
  { table with tasks := update table.tasks task activity }

/-- Every task calls the two functions in turn, and relinquishes what it has
taken. -/
inductive Step : Table → Event → Table → Prop
  | take {table : Table} {task : ℕ} (hat : table.tasks task = .idle) :
      Step table (.take task) (table.setTask task (.taking takeNextAddr))
  | fetchOr {table : Table} {task : ℕ} {slot : Slot} {next : Bool → Prog (Option UInt8)}
      (hat : table.tasks task = .taking (.call (S := challd) (.fetchOr slot) next)) :
      Step table (.fetchOr task slot (table.slots slot))
        { slots := update table.slots slot true
          tasks := update table.tasks task (.taking (next (table.slots slot))) }
  | taken {table : Table} {task : ℕ} {addr : UInt8}
      (hat : table.tasks task = .taking (.ret (some addr))) :
      Step table (.taken task addr) (table.setTask task (.holding addr))
  | busy {table : Table} {task : ℕ} (hat : table.tasks task = .taking (.ret none)) :
      Step table (.busy task) (table.setTask task .idle)
  | relinquish {table : Table} {task : ℕ} {addr : UInt8}
      (hat : table.tasks task = .holding addr) :
      Step table (.relinquish task addr)
        (table.setTask task (.relinquishing (relinquishAddr addr)))
  | store {table : Table} {task : ℕ} {slot : Slot} {next : Unit → Prog Unit}
      (hat : table.tasks task = .relinquishing (.call (S := challd) (.store slot) next)) :
      Step table (.store task slot)
        { slots := update table.slots slot false
          tasks := update table.tasks task (.relinquishing (next ())) }
  | relinquished {table : Table} {task : ℕ}
      (hat : table.tasks task = .relinquishing (.ret ())) :
      Step table (.relinquished task) (table.setTask task .idle)

/-! ## Holding an address -/

/-- The address that a task holds: it has won the slot, and has yet to store. -/
def Activity.addr : Activity → Option UInt8
  | .taking (.ret answer) => answer
  | .holding addr => some addr
  | .relinquishing (.call (.store slot) _) => some (addrOf slot)
  | _ => none

def Activity.panicked : Activity → Bool
  | .taking .panic => true
  | .relinquishing .panic => true
  | _ => false

/-- The address belongs to a slot that is in use. -/
def InUse (table : Table) (addr : UInt8) : Prop :=
  ∃ slot, addrOf slot = addr ∧ table.slots slot = true

/-- Where the two functions can be. -/
inductive Regular : Activity → Prop
  | idle : Regular .idle
  | scanning (slots : List Slot) : Regular (.taking (takeNextAddrFrom slots))
  | taken (slot : Slot) : Regular (.taking (.ret (some (addrOf slot))))
  | holding (slot : Slot) : Regular (.holding (addrOf slot))
  | storing (slot : Slot) : Regular (.relinquishing (Host.store slot))
  | stored : Regular (.relinquishing (.ret ()))

structure Sound (table : Table) : Prop where
  owned : Owned (InUse table) fun task => (table.tasks task).addr
  regular : ∀ task, Regular (table.tasks task)

variable {table : Table} {task : ℕ} {activity : Activity}

theorem takeNextAddrFrom_cons (slot : Slot) (slots : List Slot) :
    takeNextAddrFrom (slot :: slots) =
      .call (S := challd) (.fetchOr slot) fun inUse =>
        if inUse = false then .ret (some (addrOf slot)) else takeNextAddrFrom slots := rfl

@[simp]
theorem addr_scanning (slots : List Slot) :
    (Activity.taking (takeNextAddrFrom slots)).addr = none := by
  cases slots <;> rfl

/-- A task changes what it does, but not what it holds. -/
theorem Sound.setTask (hsound : Sound table) (hregular : Regular activity)
    (haddr : activity.addr = (table.tasks task).addr) :
    Sound (table.setTask task activity) where
  owned := hsound.owned.keep haddr
  regular := by
    apply (forall_update_iff table.tasks fun _ activity => Regular activity).mpr
    exact ⟨hregular, fun other _ => hsound.regular other⟩

theorem scan_of_fetchOr {slot : Slot} {next : Bool → Prog (Option UInt8)}
    (hregular : Regular (.taking (.call (S := challd) (.fetchOr slot) next))) :
    ∃ slots, next = fun inUse =>
      if inUse = false then .ret (some (addrOf slot)) else takeNextAddrFrom slots := by
  generalize hactivity : Activity.taking (.call (S := challd) (.fetchOr slot) next) = activity
    at hregular
  cases hregular with
  | scanning slots =>
      cases slots with
      | nil => cases hactivity
      | cons first slots =>
          rw [takeNextAddrFrom_cons] at hactivity
          cases hactivity
          exact ⟨slots, rfl⟩
  | _ => cases hactivity

theorem slot_of_taken {addr : UInt8} (hregular : Regular (.taking (.ret (some addr)))) :
    ∃ slot, addr = addrOf slot := by
  generalize hactivity : Activity.taking (.ret (some addr)) = activity at hregular
  cases hregular with
  | scanning slots => cases slots <;> cases hactivity
  | taken slot =>
      cases hactivity
      exact ⟨slot, rfl⟩
  | _ => cases hactivity

theorem slot_of_holding {addr : UInt8} (hregular : Regular (.holding addr)) :
    ∃ slot, addr = addrOf slot := by
  cases hregular with
  | holding slot => exact ⟨slot, rfl⟩

theorem next_of_store {slot : Slot} {next : Unit → Prog Unit}
    (hregular : Regular (.relinquishing (.call (S := challd) (.store slot) next))) :
    next = .ret := by
  generalize hactivity : Activity.relinquishing (.call (S := challd) (.store slot) next) =
    activity at hregular
  cases hregular with
  | storing slot =>
      cases hactivity
      rfl
  | _ => cases hactivity

/-! ## The steps -/

theorem inUse_mark {slot : Slot} {tasks : ℕ → Activity} {addr : UInt8} :
    InUse { slots := update table.slots slot true, tasks := tasks } addr ↔
      InUse table addr ∨ addr = addrOf slot := by
  constructor
  · rintro ⟨other, rfl, hother⟩
    by_cases hne : other = slot
    · exact .inr (congrArg addrOf hne)
    · have hkept : table.slots other = true := (update_of_ne hne ..).symm.trans hother
      exact .inl ⟨other, rfl, hkept⟩
  · rintro (⟨other, rfl, hother⟩ | rfl)
    · refine ⟨other, rfl, ?_⟩
      by_cases hne : other = slot
      · rw [hne]
        exact update_self ..
      · exact (update_of_ne hne ..).trans hother
    · exact ⟨slot, rfl, update_self ..⟩

theorem inUse_clear {slot : Slot} {tasks : ℕ → Activity} {addr : UInt8} :
    InUse { slots := update table.slots slot false, tasks := tasks } addr ↔
      InUse table addr ∧ addr ≠ addrOf slot := by
  constructor
  · rintro ⟨other, rfl, hother⟩
    have hne : other ≠ slot := by
      rintro rfl
      cases (update_self other false table.slots).symm.trans hother
    have hkept : table.slots other = true := (update_of_ne hne ..).symm.trans hother
    exact ⟨⟨other, rfl, hkept⟩, fun hsame => hne (addrOf_injective hsame)⟩
  · rintro ⟨⟨other, rfl, hother⟩, hdifferent⟩
    have hne : other ≠ slot := fun hsame => hdifferent (congrArg addrOf hsame)
    exact ⟨other, rfl, (update_of_ne hne ..).trans hother⟩

/-- A scan goes on past a slot in use, and holds the address of a free one. -/
theorem Sound.fetchOr {slot : Slot} {next : Bool → Prog (Option UInt8)}
    (hsound : Sound table)
    (hat : table.tasks task = .taking (.call (S := challd) (.fetchOr slot) next)) :
    Sound
      { slots := update table.slots slot true
        tasks := update table.tasks task (.taking (next (table.slots slot))) } := by
  have hregular := hsound.regular task
  rw [hat] at hregular
  rcases scan_of_fetchOr hregular with ⟨slots, rfl⟩
  have hnone : (table.tasks task).addr = none := by rw [hat]; rfl
  cases hused : table.slots slot with
  | true =>
      have hslots : update table.slots slot true = table.slots := by
        rw [← hused]
        exact update_eq_self ..
      rw [hslots]
      apply hsound.setTask (.scanning slots)
      rw [hnone]
      exact addr_scanning slots
  | false =>
      have habsent : ¬ InUse table (addrOf slot) := by
        rintro ⟨other, hsame, hother⟩
        rw [addrOf_injective hsame, hused] at hother
        cases hother
      refine ⟨?_, ?_⟩
      · rw [component_update]
        exact hsound.owned.acquire hnone habsent fun _ => inUse_mark
      · apply (forall_update_iff table.tasks fun _ activity => Regular activity).mpr
        exact ⟨.taken slot, fun other _ => hsound.regular other⟩

/-- The store gives up the address. -/
theorem Sound.store {slot : Slot} {next : Unit → Prog Unit} (hsound : Sound table)
    (hat : table.tasks task = .relinquishing (.call (S := challd) (.store slot) next)) :
    Sound
      { slots := update table.slots slot false
        tasks := update table.tasks task (.relinquishing (next ())) } := by
  have hregular := hsound.regular task
  rw [hat] at hregular
  rw [next_of_store hregular]
  have hholds : (table.tasks task).addr = some (addrOf slot) := by rw [hat]; rfl
  refine ⟨?_, ?_⟩
  · rw [component_update]
    exact hsound.owned.release hholds fun _ => inUse_clear
  · apply (forall_update_iff table.tasks fun _ activity => Regular activity).mpr
    exact ⟨.stored, fun other _ => hsound.regular other⟩

theorem Sound.step {event : Event} {next : Table} (hsound : Sound table)
    (hstep : Step table event next) : Sound next := by
  cases hstep with
  | take hat =>
      apply hsound.setTask (.scanning _)
      rw [hat]
      exact addr_scanning _
  | fetchOr hat => exact hsound.fetchOr hat
  | @taken task addr hat =>
      have hregular := hsound.regular task
      rw [hat] at hregular
      rcases slot_of_taken hregular with ⟨slot, rfl⟩
      apply hsound.setTask (.holding slot)
      rw [hat]
      rfl
  | busy hat =>
      apply hsound.setTask .idle
      rw [hat]
      rfl
  | @relinquish task addr hat =>
      have hregular := hsound.regular task
      rw [hat] at hregular
      rcases slot_of_holding hregular with ⟨slot, rfl⟩
      rw [relinquishAddr_addrOf]
      apply hsound.setTask (.storing slot)
      rw [hat]
      rfl
  | store hat => exact hsound.store hat
  | relinquished hat =>
      apply hsound.setTask .idle
      rw [hat]
      rfl

theorem sound_of_run {events : List Event} (hrun : Run Step initial events table) :
    Sound table := by
  apply Run.invariant Sound _ (fun _ _ _ => Sound.step) hrun
  refine ⟨⟨?_, ?_, ?_⟩, fun _ => .idle⟩
  · rintro addr ⟨slot, -, hused⟩
    cases hused
  · intro task addr hholds
    cases hholds
  · intro left right addr hholds
    cases hholds

/-! ## What the table guarantees -/

theorem addr_range (slot : Slot) :
    1 ≤ (addrOf slot).toNat ∧ (addrOf slot).toNat ≤ maxInstances := by
  revert slot
  decide

theorem panicked_of_regular (hregular : Regular activity) : activity.panicked = false := by
  cases hregular with
  | scanning slots => cases slots <;> rfl
  | _ => rfl

/-- There are no more holders than slots. -/
theorem card_holders_le (hsound : Sound table) (holders : Finset ℕ)
    (hholders : ∀ task ∈ holders, (table.tasks task).addr.isSome = true) :
    holders.card ≤ maxInstances := by
  have hchoice : ∀ task ∈ holders,
      ∃ slot, (table.tasks task).addr = some (addrOf slot) := by
    intro task htask
    rcases Option.isSome_iff_exists.mp (hholders task htask) with ⟨addr, hholds⟩
    rcases hsound.owned.present task addr hholds with ⟨slot, rfl, -⟩
    exact ⟨slot, hholds⟩
  have : Nonempty Slot := ⟨⟨0, by decide⟩⟩
  choose! slotOf hslotOf using hchoice
  calc holders.card
      ≤ (Finset.univ : Finset Slot).card := by
        apply Finset.card_le_card_of_injOn slotOf (fun _ _ => Finset.mem_univ _)
        intro left hleft right hright hsame
        apply hsound.owned.exclusive left right _ (hslotOf left hleft)
        rw [hsame]
        exact hslotOf right hright
    _ = maxInstances := by simp

/-- In every interleaving of the slot accesses: no address is held twice; every
address that is held passes the range assertions, and no call panics; at most
`maxInstances` addresses are held; and a slot is in use exactly when some task
holds its address. -/
theorem mutual_exclusion {events : List Event} (hrun : Run Step initial events table) :
    (∀ left right addr, (table.tasks left).addr = some addr →
      (table.tasks right).addr = some addr → left = right) ∧
    (∀ task addr, (table.tasks task).addr = some addr →
      1 ≤ addr.toNat ∧ addr.toNat ≤ maxInstances ∧ addrInRange addr = true) ∧
    (∀ task, (table.tasks task).panicked = false) ∧
    (∀ holders : Finset ℕ, (∀ task ∈ holders, (table.tasks task).addr.isSome = true) →
      holders.card ≤ maxInstances) ∧
    ∀ slot, table.slots slot = true ↔
      ∃ task, (table.tasks task).addr = some (addrOf slot) := by
  have hsound := sound_of_run hrun
  have hslot : ∀ task addr, (table.tasks task).addr = some addr →
      ∃ slot, addrOf slot = addr ∧ table.slots slot = true :=
    fun task addr => hsound.owned.present task addr
  refine ⟨hsound.owned.exclusive, ?_, ?_, ?_, ?_⟩
  · intro task addr hholds
    rcases hslot task addr hholds with ⟨slot, rfl, -⟩
    exact ⟨(addr_range slot).1, (addr_range slot).2, addrInRange_addrOf slot⟩
  · exact fun task => panicked_of_regular (hsound.regular task)
  · exact card_holders_le hsound
  · intro slot
    constructor
    · intro hused
      exact hsound.owned.covered (addrOf slot) ⟨slot, rfl, hused⟩
    · rintro ⟨task, hholds⟩
      rcases hslot task _ hholds with ⟨other, hsame, hused⟩
      rwa [addrOf_injective hsame] at hused

/-! ## Schedules -/

def advance (task : ℕ) (table : Table) : Option (Event × Table) :=
  match table.tasks task with
  | .idle => some (.take task, table.setTask task (.taking takeNextAddr))
  | .taking (.call (.fetchOr slot) next) =>
      some (.fetchOr task slot (table.slots slot),
        { slots := update table.slots slot true
          tasks := update table.tasks task (.taking (next (table.slots slot))) })
  | .taking (.ret (some addr)) => some (.taken task addr, table.setTask task (.holding addr))
  | .taking (.ret none) => some (.busy task, table.setTask task .idle)
  | .holding addr =>
      some (.relinquish task addr,
        table.setTask task (.relinquishing (relinquishAddr addr)))
  | .relinquishing (.call (.store slot) next) =>
      some (.store task slot,
        { slots := update table.slots slot false
          tasks := update table.tasks task (.relinquishing (next ())) })
  | .relinquishing (.ret ()) => some (.relinquished task, table.setTask task .idle)
  | _ => none

theorem step_of_advance (task : ℕ) (table : Table) (event : Event) (next : Table)
    (hadvance : advance task table = some (event, next)) : Step table event next := by
  unfold advance at hadvance
  split at hadvance <;> cases hadvance
  · exact .take ‹_›
  · exact .fetchOr ‹_›
  · exact .taken ‹_›
  · exact .busy ‹_›
  · exact .relinquish ‹_›
  · exact .store ‹_›
  · exact .relinquished ‹_›

/-- The second task finds the first slot in use and takes the second one; while
it still scans, the first task gives its address back. -/
def overlappingScans : List ℕ := [0, 1, 0, 1, 0, 0, 0, 1]

theorem mutual_exclusion_overlappingScans : ∃ events table,
    Run Step initial events table ∧ (table.tasks 1).addr = some 2 ∧
      ∀ task, (table.tasks task).addr = some 2 → task = 1 := by
  rcases exists_run_of_follow initial overlappingScans
    (fun table => decide ((table.tasks 1).addr = some 2))
    step_of_advance (by rfl) with ⟨events, table, hrun, htest⟩
  have hholds := of_decide_eq_true htest
  exact ⟨events, table, hrun, hholds, fun task htask =>
    (mutual_exclusion hrun).1 task 1 2 htask hholds⟩

end ScdtServer.Allocator
