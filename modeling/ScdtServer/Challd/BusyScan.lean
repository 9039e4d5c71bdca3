import ScdtServer.Challd.Allocator

/-!
# What a scan that finds every slot in use has seen

`take_next_addr` looks at one slot after the other, and takes no lock.  A slot
that it has passed can be given back, and a slot ahead of it can be taken,
before the scan ends; so its answer need not describe the table at any one
instant.
-/

namespace ScdtServer.BusyScan

open Function
open ScdtServer.Interaction ScdtServer.Interaction.Program
open ScdtServer.Transition ScdtServer.Host ScdtServer.AddressManager
open ScdtServer.Allocator

/-- The task that makes a move. -/
def eventTask : Event → ℕ
  | .take task => task
  | .fetchOr task _ _ => task
  | .taken task _ => task
  | .busy task => task
  | .relinquish task _ => task
  | .store task _ => task
  | .relinquished task => task

/-- The scan of a task over the first `count` slots: where it was called, and
where it looked at each of these slots, in order, finding it in use. -/
structure Scanned (events : List Event) (task started : ℕ) (access : Slot → ℕ)
    (count : ℕ) : Prop where
  called : events[started]? = some (.take task)
  later : ∀ slot, slot.val < count → started < access slot
  found : ∀ slot, slot.val < count →
    events[access slot]? = some (.fetchOr task slot true)
  ordered : ∀ left right, left < right → right.val < count → access left < access right
  only : ∀ position event, started < position → events[position]? = some event →
    eventTask event = task → ∃ slot, slot.val < count ∧ access slot = position

/-- The call of `take_next_addr` that answers `None` at `position`, with all its
accesses. -/
structure BusyCall (events : List Event) (task started : ℕ) (access : Slot → ℕ)
    (position : ℕ) : Prop where
  scanned : Scanned (events.take position) task started access maxInstances
  answered : events[position]? = some (.busy task)

/-- At some instant from `first` to `last` all slots are in use. -/
def FullBetween (events : List Event) (first last : ℕ) : Prop :=
  ∃ instant table, first ≤ instant ∧ instant ≤ last ∧
    Run Step initial (events.take instant) table ∧ ∀ slot, table.slots slot = true

/-- A slot that the scan has passed is given back, and after that another call
takes a slot that the scan has still ahead. -/
def Overtaken (events : List Event) (task : ℕ) (access : Slot → ℕ) : Prop :=
  ∃ passed ahead freed won holder winner,
    access passed < freed ∧ events[freed]? = some (.store holder passed) ∧
      freed < won ∧ events[won]? = some (.fetchOr winner ahead false) ∧
        winner ≠ task ∧ won < access ahead

/-- A slot is given back that the scan has passed, while the scan goes on. -/
def FreedBehind (events : List Event) (access : Slot → ℕ) (freed : ℕ) : Prop :=
  freed < access lastSlot ∧
    ∃ passed holder, access passed < freed ∧ events[freed]? = some (.store holder passed)

/-! ## The table at an instant -/

def eventEffect : Event → (Slot → Bool) → Slot → Bool
  | .fetchOr _ slot _, slots => update slots slot true
  | .store _ slot, slots => update slots slot false
  | _, slots => slots

/-- The slots after a list of events. -/
def slotsAfter (events : List Event) : Slot → Bool :=
  events.foldl (fun slots event => eventEffect event slots) fun _ => false

variable {events : List Event} {table : Table} {position instant stop : ℕ}
variable {slot : Slot} {event : Event}

theorem slotsAfter_snoc (events : List Event) (event : Event) :
    slotsAfter (events ++ [event]) = eventEffect event (slotsAfter events) := by
  simp [slotsAfter]

theorem slots_of_step {next : Table} (hstep : Step table event next) :
    next.slots = eventEffect event table.slots := by
  cases hstep <;> rfl

/-- The events of a run determine its slots. -/
theorem slots_of_run (hrun : Run Step initial events table) :
    table.slots = slotsAfter events := by
  refine Run.history (fun events table => table.slots = slotsAfter events) rfl ?_ hrun
  intro events before event after hbefore hstep
  calc after.slots
      = eventEffect event before.slots := slots_of_step hstep
    _ = eventEffect event (slotsAfter events) := by rw [hbefore]
    _ = slotsAfter (events ++ [event]) := (slotsAfter_snoc events event).symm

theorem slotsAfter_take_succ (hat : events[instant]? = some event) :
    slotsAfter (events.take (instant + 1)) =
      eventEffect event (slotsAfter (events.take instant)) := by
  have htake : events.take (instant + 1) = events.take instant ++ [event] := by
    rw [List.take_add_one, hat]
    rfl
  rw [htake, slotsAfter_snoc]

theorem slotsAfter_take_end (hat : events[instant]? = none) :
    slotsAfter (events.take (instant + 1)) = slotsAfter (events.take instant) := by
  rw [List.take_add_one, hat]
  simp

/-- A `fetch_or` reports the slot as it was. -/
theorem reported {task : ℕ} {inUse : Bool} (hrun : Run Step initial events table)
    (hat : events[position]? = some (.fetchOr task slot inUse)) :
    slotsAfter (events.take position) slot = inUse := by
  obtain ⟨before, after, hprefix, hstep⟩ := hrun.step_at hat
  rw [← slots_of_run hprefix]
  cases hstep
  rfl

/-- A slot in use stays in use until a store to it. -/
theorem stays_inUse (hle : instant ≤ stop)
    (hused : slotsAfter (events.take instant) slot = true)
    (hkept : ∀ position task, instant ≤ position → position < stop →
      events[position]? ≠ some (.store task slot)) :
    slotsAfter (events.take stop) slot = true := by
  induction stop, hle using Nat.le_induction with
  | base => exact hused
  | succ stop hle ih =>
      have hbefore := ih fun position task hfrom hto =>
        hkept position task hfrom (Nat.lt_succ_of_lt hto)
      have hnot := fun task => hkept stop task hle (Nat.lt_succ_self stop)
      cases hat : events[stop]? with
      | none => rw [slotsAfter_take_end hat, hbefore]
      | some event =>
          rw [slotsAfter_take_succ hat]
          cases event with
          | fetchOr _ other _ =>
              by_cases hsame : slot = other
              · rw [hsame]
                exact update_self ..
              · exact (update_of_ne hsame ..).trans hbefore
          | store task other =>
              have hdifferent : slot ≠ other := by
                rintro rfl
                exact hnot task hat
              exact (update_of_ne hdifferent ..).trans hbefore
          | _ => exact hbefore

/-- A free slot that is in use later has been taken in between. -/
theorem taken_between (hle : instant ≤ stop)
    (hfree : slotsAfter (events.take instant) slot = false)
    (hused : slotsAfter (events.take stop) slot = true) :
    ∃ position task inUse, instant ≤ position ∧ position < stop ∧
      events[position]? = some (.fetchOr task slot inUse) ∧
        slotsAfter (events.take position) slot = false := by
  induction stop, hle using Nat.le_induction with
  | base =>
      rw [hfree] at hused
      cases hused
  | succ stop hle ih =>
      cases hbefore : slotsAfter (events.take stop) slot with
      | true =>
          obtain ⟨position, task, inUse, hfrom, hto, hat, hwas⟩ := ih hbefore
          exact ⟨position, task, inUse, hfrom, Nat.lt_succ_of_lt hto, hat, hwas⟩
      | false =>
          cases hat : events[stop]? with
          | none =>
              rw [slotsAfter_take_end hat, hbefore] at hused
              cases hused
          | some event =>
              rw [slotsAfter_take_succ hat] at hused
              cases event with
              | fetchOr task other inUse =>
                  by_cases hsame : slot = other
                  · subst hsame
                    exact ⟨stop, task, inUse, hle, Nat.lt_succ_self stop, hat, hbefore⟩
                  · rw [eventEffect, update_of_ne hsame, hbefore] at hused
                    cases hused
              | store task other =>
                  by_cases hsame : slot = other
                  · rw [eventEffect, hsame, update_self] at hused
                    cases hused
                  · rw [eventEffect, update_of_ne hsame, hbefore] at hused
                    cases hused
              | _ => cases hbefore.symm.trans hused

/-! ## The accesses of a scan -/

variable {task started count : ℕ} {access : Slot → ℕ}

theorem getElem?_snoc_old {label : Event} (hat : events[position]? = some event) :
    (events ++ [label])[position]? = some event := by
  obtain ⟨hlt, -⟩ := List.getElem?_eq_some_iff.mp hat
  rw [List.getElem?_append_left hlt, hat]

theorem getElem?_snoc {label : Event} (hat : (events ++ [label])[position]? = some event) :
    events[position]? = some event ∨ position = events.length ∧ event = label := by
  by_cases hlt : position < events.length
  · rw [List.getElem?_append_left hlt] at hat
    exact .inl hat
  · obtain ⟨hbound, hlabel⟩ := List.getElem?_eq_some_iff.mp hat
    have hposition : position = events.length := by
      simp only [List.length_append, List.length_singleton] at hbound
      omega
    subst hposition
    exact .inr ⟨rfl, by simpa using hlabel.symm⟩

theorem Scanned.access_lt (hscanned : Scanned events task started access count)
    (hslot : slot.val < count) : access slot < events.length :=
  (List.getElem?_eq_some_iff.mp (hscanned.found slot hslot)).1

/-- The move of another task does not touch a scan. -/
theorem Scanned.other (hscanned : Scanned events task started access count)
    (hother : eventTask event ≠ task) :
    Scanned (events ++ [event]) task started access count where
  called := getElem?_snoc_old hscanned.called
  later := hscanned.later
  found slot hslot := getElem?_snoc_old (hscanned.found slot hslot)
  ordered := hscanned.ordered
  only position last hstarted hat htask := by
    rcases getElem?_snoc hat with hold | ⟨-, rfl⟩
    · exact hscanned.only position last hstarted hold htask
    · exact absurd htask hother

/-- A call starts a scan. -/
theorem scanned_take (events : List Event) (task : ℕ) (access : Slot → ℕ) :
    Scanned (events ++ [.take task]) task events.length access 0 where
  called := by simp
  later _ hslot := absurd hslot (Nat.not_lt_zero _)
  found _ hslot := absurd hslot (Nat.not_lt_zero _)
  ordered _ _ _ hslot := absurd hslot (Nat.not_lt_zero _)
  only position event hstarted hat _ := by
    obtain ⟨hbound, -⟩ := List.getElem?_eq_some_iff.mp hat
    simp only [List.length_append, List.length_singleton] at hbound
    omega

/-- A scan goes on past a slot in use. -/
theorem Scanned.next (hscanned : Scanned events task started access slot.val) :
    Scanned (events ++ [.fetchOr task slot true]) task started
      (update access slot events.length) (slot.val + 1) := by
  have hkept : ∀ other : Slot, other.val < slot.val →
      update access slot events.length other = access other := by
    intro other hlt
    exact update_of_ne (Fin.ne_of_lt hlt) ..
  have hcases : ∀ other : Slot, other.val < slot.val + 1 →
      other.val < slot.val ∨ other = slot := by
    intro other hlt
    rcases Nat.lt_succ_iff_lt_or_eq.mp hlt with hbelow | hsame
    · exact .inl hbelow
    · exact .inr (Fin.ext hsame)
  have hstarted : started < events.length :=
    (List.getElem?_eq_some_iff.mp hscanned.called).1
  constructor
  · exact getElem?_snoc_old hscanned.called
  · intro other hother
    rcases hcases other hother with hlt | rfl
    · rw [hkept other hlt]
      exact hscanned.later other hlt
    · rw [update_self]
      exact hstarted
  · intro other hother
    rcases hcases other hother with hlt | rfl
    · rw [hkept other hlt]
      exact getElem?_snoc_old (hscanned.found other hlt)
    · simp [update_self]
  · intro left right hlt hright
    rcases hcases right hright with hbelow | rfl
    · rw [hkept right hbelow, hkept left (lt_trans hlt hbelow)]
      exact hscanned.ordered left right hlt hbelow
    · rw [update_self, hkept left hlt]
      exact hscanned.access_lt hlt
  · intro position event hafter hat htask
    rcases getElem?_snoc hat with hold | ⟨rfl, -⟩
    · obtain ⟨other, hlt, haccess⟩ := hscanned.only position event hafter hold htask
      exact ⟨other, Nat.lt_succ_of_lt hlt, (hkept other hlt).trans haccess⟩
    · exact ⟨slot, Nat.lt_succ_self _, update_self ..⟩

/-- Every task that scans has looked at the slots it does not have ahead. -/
def Scanning (events : List Event) (table : Table) : Prop :=
  ∀ task slots, table.tasks task = .taking (takeNextAddrFrom slots) →
    ∃ started access count, slots = (List.finRange maxInstances).drop count ∧
      Scanned events task started access count

theorem takeNextAddrFrom_injective : Injective takeNextAddrFrom := by
  intro left right hsame
  induction left generalizing right with
  | nil => cases right with
    | nil => rfl
    | cons slot slots => cases hsame
  | cons slot slots ih => cases right with
    | nil => cases hsame
    | cons other others =>
        rw [takeNextAddrFrom_cons, takeNextAddrFrom_cons] at hsame
        injection hsame with _ hcall hnext
        injection hcall with hslot
        have htail : takeNextAddrFrom slots = takeNextAddrFrom others :=
          congrFun hnext true
        rw [hslot, ih htail]

/-- The slot at the head of what is ahead is the next one. -/
theorem next_slot {slots : List Slot}
    (hahead : slot :: slots = (List.finRange maxInstances).drop count) :
    slot.val = count ∧ slots = (List.finRange maxInstances).drop (slot.val + 1) := by
  have hhead : (List.finRange maxInstances)[count]? = some slot := by
    rw [← List.head?_drop, ← hahead]
    rfl
  obtain ⟨hlt, hslot⟩ := List.getElem?_eq_some_iff.mp hhead
  have hcount : slot.val = count := by
    rw [← hslot]
    simp
  refine ⟨hcount, ?_⟩
  rw [hcount, ← List.tail_drop, ← hahead]
  rfl

/-- Only the task that moves changes what it does. -/
theorem tasks_of_step {next : Table} (hstep : Step table event next)
    (hother : task ≠ eventTask event) : next.tasks task = table.tasks task := by
  cases hstep <;> exact update_of_ne hother ..

theorem Scanning.step {next : Table} (hscanning : Scanning events table)
    (hsound : Sound table) (hstep : Step table event next) :
    Scanning (events ++ [event]) next := by
  intro task slots htaking
  by_cases hother : task = eventTask event
  · subst hother
    cases hstep with
    | take hat =>
        have hall : Activity.taking takeNextAddr = .taking (takeNextAddrFrom slots) :=
          (update_self ..).symm.trans htaking
        injection hall with hall
        exact ⟨events.length, fun _ => 0, 0, (takeNextAddrFrom_injective hall).symm,
          scanned_take events _ _⟩
    | @fetchOr task slot _ hat =>
        have hregular := hsound.regular task
        rw [hat] at hregular
        obtain ⟨ahead, rfl⟩ := scan_of_fetchOr hregular
        obtain ⟨started, access, count, hahead, hscanned⟩ := hscanning task (slot :: ahead) hat
        obtain ⟨rfl, hrest⟩ := next_slot hahead
        have hnext := (update_self ..).symm.trans htaking
        injection hnext with hnext
        cases hused : table.slots slot with
        | false =>
            rw [hused] at hnext
            cases slots <;> cases hnext
        | true =>
            rw [hused] at hnext
            obtain rfl := takeNextAddrFrom_injective hnext
            exact ⟨started, _, slot.val + 1, hrest, hscanned.next⟩
    | _ => cases (update_self ..).symm.trans htaking
  · rw [tasks_of_step hstep hother] at htaking
    obtain ⟨started, access, count, hahead, hscanned⟩ := hscanning task slots htaking
    exact ⟨started, access, count, hahead, hscanned.other (Ne.symm hother)⟩

theorem scanning_of_run (hrun : Run Step initial events table) : Scanning events table := by
  have hboth : Sound table ∧ Scanning events table := by
    refine Run.history (fun events table => Sound table ∧ Scanning events table) ?_ ?_ hrun
    · refine ⟨sound_of_run .nil, ?_⟩
      intro task slots htaking
      cases htaking
    · intro events before event after hbefore hstep
      exact ⟨hbefore.1.step hstep, hbefore.2.step hbefore.1 hstep⟩
  exact hboth.2

/-- Whoever is answered `None` has looked at all slots, in order, and found each
of them in use. -/
theorem busyCall_of_run (hrun : Run Step initial events table)
    (hbusy : events[position]? = some (.busy task)) :
    ∃ started access, BusyCall events task started access position := by
  obtain ⟨before, after, hprefix, hstep⟩ := hrun.step_at hbusy
  cases hstep with
  | busy hat =>
      obtain ⟨started, access, count, hahead, hscanned⟩ :=
        scanning_of_run hprefix task [] hat
      have hcount : maxInstances ≤ count := by
        have hlength := congrArg List.length hahead
        simp only [List.length_nil, List.length_drop, List.length_finRange] at hlength
        omega
      have hall : ∀ slot : Slot, slot.val < count := fun slot =>
        lt_of_lt_of_le slot.isLt hcount
      refine ⟨started, access, ⟨?_, hbusy⟩⟩
      constructor
      · exact hscanned.called
      · exact fun slot _ => hscanned.later slot (hall slot)
      · exact fun slot _ => hscanned.found slot (hall slot)
      · exact fun left right hlt _ => hscanned.ordered left right hlt (hall right)
      · intro position event hafter hevent htask
        obtain ⟨slot, -, haccess⟩ := hscanned.only position event hafter hevent htask
        exact ⟨slot, slot.isLt, haccess⟩

/-! ## What the answer says about the table -/

theorem firstSlot_le (slot : Slot) : firstSlot ≤ slot := Nat.zero_le slot.val

theorem le_lastSlot (slot : Slot) : slot ≤ lastSlot := Nat.le_sub_one_of_lt slot.isLt

theorem BusyCall.strictMono (hcall : BusyCall events task started access position) :
    StrictMono access :=
  fun left right hlt => hcall.scanned.ordered left right hlt right.isLt

theorem BusyCall.access_lt (hcall : BusyCall events task started access position)
    (slot : Slot) : access slot < position :=
  lt_of_lt_of_le (hcall.scanned.access_lt slot.isLt) (List.length_take_le position events)

theorem BusyCall.found (hcall : BusyCall events task started access position)
    (slot : Slot) : events[access slot]? = some (.fetchOr task slot true) := by
  rw [← List.getElem?_take_of_lt (hcall.access_lt slot)]
  exact hcall.scanned.found slot slot.isLt

/-- No other event of the task lies between the call and its answer. -/
theorem BusyCall.only (hcall : BusyCall events task started access position)
    (hafter : started < instant) (hbefore : instant < position)
    (hat : events[instant]? = some event) (htask : eventTask event = task) :
    ∃ slot, event = .fetchOr task slot true ∧ access slot = instant := by
  have hprefix : (events.take position)[instant]? = some event := by
    rw [List.getElem?_take_of_lt hbefore, hat]
  obtain ⟨slot, -, haccess⟩ := hcall.scanned.only instant event hafter hprefix htask
  have hfound := hcall.found slot
  rw [haccess, hat] at hfound
  exact ⟨slot, Option.some.inj hfound, haccess⟩

/-- A slot that the scan has passed is in use until it is given back. -/
theorem BusyCall.inUse (hcall : BusyCall events task started access position)
    (hrun : Run Step initial events table) (hpassed : access slot ≤ instant)
    (hkept : ∀ freed holder, access slot < freed → freed < instant →
      events[freed]? ≠ some (.store holder slot)) :
    slotsAfter (events.take instant) slot = true := by
  apply stays_inUse hpassed (reported hrun (hcall.found slot))
  intro freed holder hfrom hto hstore
  rcases eq_or_lt_of_le hfrom with hsame | hlt
  · rw [← hsame, hcall.found slot] at hstore
    cases hstore
  · exact hkept freed holder hlt hto hstore

theorem fullBetween_of_slots {first last : ℕ} (hrun : Run Step initial events table)
    (hfirst : first ≤ instant) (hlast : instant ≤ last)
    (hfull : ∀ slot, slotsAfter (events.take instant) slot = true) :
    FullBetween events first last := by
  obtain ⟨middle, hprefix⟩ := hrun.take instant
  refine ⟨instant, middle, hfirst, hlast, hprefix, ?_⟩
  rw [slots_of_run hprefix]
  exact hfull

/-- A slot that is free while the scan still runs is taken by another call
before the scan gets there. -/
theorem BusyCall.overtaken {ahead passed : Slot} {freed holder : ℕ}
    (hcall : BusyCall events task started access position)
    (hrun : Run Step initial events table) (hpassed : access passed < freed)
    (hstore : events[freed]? = some (.store holder passed))
    (hahead : freed < access ahead)
    (hfree : slotsAfter (events.take freed) ahead = false) :
    Overtaken events task access := by
  have hused := reported hrun (hcall.found ahead)
  obtain ⟨won, winner, inUse, hfrom, hto, hat, hwas⟩ :=
    taken_between hahead.le hfree hused
  have hreport := reported hrun hat
  rw [hwas] at hreport
  subst hreport
  have hlater : freed < won := by
    rcases eq_or_lt_of_le hfrom with hsame | hlt
    · rw [← hsame, hstore] at hat
      cases hat
    · exact hlt
  have hother : winner ≠ task := by
    intro hsame
    have hstarted : started < won :=
      calc started
          < access passed := hcall.scanned.later passed passed.isLt
        _ < freed := hpassed
        _ < won := hlater
    obtain ⟨slot, hevent, -⟩ :=
      hcall.only hstarted (hto.trans (hcall.access_lt ahead)) hat hsame
    cases hevent
  exact ⟨passed, ahead, freed, won, holder, winner, hpassed, hstore, hlater, hat, hother, hto⟩

theorem BusyCall.full_or_overtaken
    (hcall : BusyCall events task started access position)
    (hrun : Run Step initial events table) :
    FullBetween events (access firstSlot + 1) (access lastSlot) ∨
      Overtaken events task access := by
  by_cases hfreed : ∃ freed, FreedBehind events access freed
  · -- the first slot that is given back behind the scan
    classical
    obtain ⟨hlast, passed, holder, hpassed, hstore⟩ := Nat.find_spec hfreed
    have hfirst := fun position => Nat.find_min hfreed (m := position)
    generalize Nat.find hfreed = freed at hlast hpassed hstore hfirst
    by_cases hfull : ∀ slot, slotsAfter (events.take freed) slot = true
    · apply Or.inl
      apply fullBetween_of_slots hrun _ hlast.le hfull
      have hle : access firstSlot ≤ access passed :=
        hcall.strictMono.monotone (firstSlot_le passed)
      omega
    · apply Or.inr
      push Not at hfull
      obtain ⟨ahead, hnot⟩ := hfull
      apply hcall.overtaken hrun hpassed hstore _ (Bool.eq_false_of_not_eq_true hnot)
      by_contra hbehind
      apply hnot
      apply hcall.inUse hrun (Nat.le_of_not_lt hbehind)
      intro earlier other hafter hbefore hearlier
      exact hfirst earlier hbefore
        ⟨hbefore.trans hlast, ahead, other, hafter, hearlier⟩
  · apply Or.inl
    apply fullBetween_of_slots hrun _ le_rfl
    · intro slot
      apply hcall.inUse hrun (hcall.strictMono.monotone (le_lastSlot slot))
      intro freed holder hafter hbefore hstore
      exact hfreed ⟨freed, hbefore, slot, holder, hafter, hstore⟩
    · exact hcall.strictMono (by decide)

/-- `None` means that all slots were in use at some instant between the first
and the last access of the call, unless a slot that the call had passed was
given back, and after that another call took a slot before it got there. -/
theorem busy_scan (hrun : Run Step initial events table)
    (hbusy : events[position]? = some (.busy task)) :
    ∃ started access, BusyCall events task started access position ∧
      (FullBetween events (access firstSlot + 1) (access lastSlot) ∨
        Overtaken events task access) := by
  obtain ⟨started, access, hcall⟩ := busyCall_of_run hrun hbusy
  exact ⟨started, access, hcall, hcall.full_or_overtaken hrun⟩

/-! ## A scan that is overtaken -/

deriving instance DecidableEq for Event

/-- Five tasks take the first five slots.  Tasks 5 and 6 both find these in use;
then the first task gives its slot back, task 5 takes the last slot, and task 6
finds that one in use too. -/
def overtakenScan : List ℕ :=
  (List.range 5).flatMap (fun task => List.replicate (task + 3) task) ++
    List.replicate 6 5 ++ List.replicate 6 6 ++ [0, 0, 5, 6, 6]

/-- Task 6 is answered `None` at the end, with a free slot at every instant. -/
def neverFull (events : List Event) : Bool :=
  decide (events.length = 42 ∧ events[41]? = some (.busy 6) ∧
    ∀ instant < 43, slotsAfter (events.take instant) firstSlot = false ∨
      slotsAfter (events.take instant) lastSlot = false)

theorem overtaken_run : ∃ events table, Run Step initial events table ∧
    events[41]? = some (.busy 6) ∧ ∀ first last, ¬ FullBetween events first last := by
  obtain ⟨events, table, hrun, htest⟩ := exists_history_of_follow initial overtakenScan
    (fun events _ => neverFull events) step_of_advance (by rfl)
  obtain ⟨hlength, hbusy, hfree⟩ := of_decide_eq_true htest
  refine ⟨events, table, hrun, hbusy, ?_⟩
  rintro first last ⟨instant, middle, -, -, hprefix, hfull⟩
  rw [slots_of_run hprefix] at hfull
  have hshort : events.take instant = events.take (min instant 42) := by
    rw [← hlength, List.take_eq_take_iff]
    simp
  have hnot := hfree (min instant 42) (by omega)
  rw [← hshort, hfull, hfull] at hnot
  cases hnot with
  | inl hfirst => cases hfirst
  | inr hlast => cases hlast

theorem busy_scan_overtaken : ∃ events started access,
    BusyCall events 6 started access 41 ∧ Overtaken events 6 access := by
  obtain ⟨events, table, hrun, hbusy, hnever⟩ := overtaken_run
  obtain ⟨started, access, hcall, hfull | hovertaken⟩ := busy_scan hrun hbusy
  · exact absurd hfull (hnever _ _)
  · exact ⟨events, started, access, hcall, hovertaken⟩

/-- `None` does not mean that all slots were in use at one instant. -/
theorem busy_never_full : ¬ ∀ events table task position started access,
    Run Step initial events table → BusyCall events task started access position →
      FullBetween events (access firstSlot) (access lastSlot + 1) := by
  intro hclaim
  obtain ⟨events, table, hrun, hbusy, hnever⟩ := overtaken_run
  obtain ⟨started, access, hcall⟩ := busyCall_of_run hrun hbusy
  exact hnever _ _ (hclaim events table 6 41 started access hrun hcall)

end ScdtServer.BusyScan
