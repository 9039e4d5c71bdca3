import ScdtServer.Core.Transition
import ScdtServer.CtfArchive.Http

/-!
# A set whose members expire

`insert_temp` spawns a task that sleeps and then removes the value, whatever has
happened to the set meanwhile.  The set cannot tell two insertions of one value
apart; the sleeping tasks can.
-/

namespace ScdtServer.Codes

open ScdtServer.Http
open ScdtServer.Transition

variable {T : Type} [DecidableEq T]

/-- A task spawned by `insert_temp`. -/
structure Timer (T : Type) where
  task : ℕ
  value : T
  due : Time
  deriving DecidableEq

structure InMemorySet (T : Type) where
  set : Finset T
  /-- The tasks that still sleep. -/
  timers : List (Timer T)
  /-- How many tasks have been spawned. -/
  spawned : ℕ

namespace InMemorySet

protected def default : InMemorySet T where
  set := ∅
  timers := []
  spawned := 0

/-- The task that the next `insert_temp` spawns. -/
def nextTimer (codes : InMemorySet T) (now : Time) (value : T) (duration : Time) : Timer T where
  task := codes.spawned
  value := value
  due := now + duration

def insertTemp (codes : InMemorySet T) (now : Time) (value : T) (duration : Time) :
    InMemorySet T where
  set := insert value codes.set
  timers := codes.nextTimer now value duration :: codes.timers
  spawned := codes.spawned + 1

/-- Whether the value was in the set, and the set without it. -/
def remove (codes : InMemorySet T) (value : T) : Bool × InMemorySet T :=
  (decide (value ∈ codes.set), { codes with set := codes.set.erase value })

def wipe (codes : InMemorySet T) : InMemorySet T := { codes with set := ∅ }

/-- A task wakes up and removes its value. -/
def expire (codes : InMemorySet T) (timer : Timer T) : InMemorySet T :=
  { codes with
    set := codes.set.erase timer.value
    timers := codes.timers.erase timer }

end InMemorySet

/-! ## Histories of a set -/

/-- The set at a point in time. -/
structure Clocked (T : Type) where
  now : Time
  codes : InMemorySet T

inductive Op (T : Type)
  | insertTemp (timer : Timer T)
  | remove (value : T) (found : Bool)
  | wipe
  | expire (timer : Timer T)
  | elapse (duration : Time)
  | other

/-- What one operation does to the set. -/
inductive Step : Clocked T → Op T → Clocked T → Prop
  | insertTemp {now : Time} {codes : InMemorySet T} (value : T) (duration : Time) :
      Step ⟨now, codes⟩ (.insertTemp (codes.nextTimer now value duration))
        ⟨now, codes.insertTemp now value duration⟩
  | remove {now : Time} {codes : InMemorySet T} (value : T) :
      Step ⟨now, codes⟩ (.remove value (codes.remove value).1)
        ⟨now, (codes.remove value).2⟩
  | wipe {now : Time} {codes : InMemorySet T} :
      Step ⟨now, codes⟩ .wipe ⟨now, codes.wipe⟩
  | expire {now : Time} {codes : InMemorySet T} {timer : Timer T}
      (hpending : timer ∈ codes.timers) (hdue : timer.due ≤ now) :
      Step ⟨now, codes⟩ (.expire timer) ⟨now, codes.expire timer⟩
  | elapse {now : Time} {codes : InMemorySet T} (duration : Time) :
      Step ⟨now, codes⟩ (.elapse duration) ⟨now + duration, codes⟩
  | other {now : Time} {codes : InMemorySet T} :
      Step ⟨now, codes⟩ .other ⟨now, codes⟩

/-- What has been removed was in the set. -/
theorem Step.mem_of_remove {before after : Clocked T} {value : T}
    (hstep : Step before (.remove value true) after) : value ∈ before.codes.set := by
  generalize hop : Op.remove value true = op at hstep
  cases hstep with
  | @remove now codes value' =>
      injection hop with hvalue hfound
      rw [hvalue]
      exact of_decide_eq_true hfound.symm
  | insertTemp | wipe | expire | elapse | other => cases hop

/-- What has been removed in vain was not in the set. -/
theorem Step.notMem_of_remove {before after : Clocked T} {value : T}
    (hstep : Step before (.remove value false) after) : value ∉ before.codes.set := by
  generalize hop : Op.remove value false = op at hstep
  cases hstep with
  | @remove now codes value' =>
      injection hop with hvalue hfound
      rw [hvalue]
      exact of_decide_eq_false hfound.symm
  | insertTemp | wipe | expire | elapse | other => cases hop

theorem Step.now_le {before after : Clocked T} {op : Op T} (hstep : Step before op after) :
    before.now ≤ after.now := by
  cases hstep with
  | elapse duration => exact Nat.le_add_right _ duration
  | insertTemp | remove | wipe | expire | other => exact le_rfl

/-- The operations after which an insertion by `timer` no longer counts. -/
def Ends (timer : Timer T) (op : Op T) : Prop :=
  op = .wipe ∨ op = .remove timer.value true ∨ op = .expire timer

/-- The history `ops` ends with an insertion of `value` that still counts, and
no later insertion of the value. -/
def Inserted (value : T) (ops : List (Op T)) : Prop :=
  ∃ (before after : List (Op T)) (timer : Timer T),
    ops = before ++ .insertTemp timer :: after ∧ timer.value = value ∧
      ∀ op ∈ after, ¬ Ends timer op

omit [DecidableEq T] in
theorem Inserted.append {value : T} {ops : List (Op T)} {op : Op T}
    (hinserted : Inserted value ops)
    (hkeeps : ∀ timer : Timer T, timer.value = value → ¬ Ends timer op) :
    Inserted value (ops ++ [op]) := by
  obtain ⟨before, after, timer, rfl, hvalue, hafter⟩ := hinserted
  refine ⟨before, after ++ [op], timer, by simp, hvalue, ?_⟩
  intro op' hmem
  cases List.mem_append.mp hmem with
  | inl hold => exact hafter op' hold
  | inr hnew =>
      rw [List.mem_singleton.mp hnew]
      exact hkeeps timer hvalue

/-- Every member of the set is there because of an insertion. -/
theorem inserted_of_mem {now : Time} {ops : List (Op T)} {last : Clocked T}
    (hrun : Run Step ⟨now, .default⟩ ops last) :
    ∀ value ∈ last.codes.set, Inserted value ops := by
  induction hrun with
  | nil => exact fun value hmem => absurd hmem (Finset.notMem_empty value)
  | snoc hbefore hfinal ih =>
      rename_i labels middle label last
      intro value hmem
      cases hfinal with
      | @insertTemp now codes value' duration =>
          by_cases heq : value' = value
          · exact ⟨labels, [], codes.nextTimer now value' duration, rfl, heq, nofun⟩
          · apply (ih value (Finset.mem_of_mem_insert_of_ne hmem (Ne.symm heq))).append
            intro timer _ hends
            rcases hends with hends | hends | hends <;> cases hends
      | @remove now codes value' =>
          have hmem' := Finset.mem_erase.mp hmem
          apply (ih value hmem'.2).append
          intro timer hvalue hends
          rcases hends with hends | hends | hends
          · cases hends
          · injection hends with hremoved
            exact hmem'.1 (hvalue.symm.trans hremoved.symm)
          · cases hends
      | wipe => exact absurd hmem (Finset.notMem_empty value)
      | @expire now codes fired hpending hdue =>
          have hmem' := Finset.mem_erase.mp hmem
          apply (ih value hmem'.2).append
          intro timer hvalue hends
          rcases hends with hends | hends | hends
          · cases hends
          · cases hends
          · injection hends with hfired
            rw [hfired] at hmem'
            exact hmem'.1 hvalue.symm
      | elapse duration =>
          apply (ih value hmem).append
          intro timer _ hends
          rcases hends with hends | hends | hends <;> cases hends
      | other =>
          apply (ih value hmem).append
          intro timer _ hends
          rcases hends with hends | hends | hends <;> cases hends

/-! ## Matching removals with insertions -/

/-- The operation at `position` inserts what the one at `removal` removes, and
nothing in between ends that insertion. -/
def Matches (ops : List (Op T)) (position removal : ℕ) : Prop :=
  ∃ timer : Timer T, position < removal ∧
    ops[removal]? = some (.remove timer.value true) ∧
    ops[position]? = some (.insertTemp timer) ∧
    ∀ between, position < between → between < removal →
      ∀ op, ops[between]? = some op → ¬ Ends timer op

/-- Where the values that are removed are removed. -/
def Removals (ops : List (Op T)) : Set ℕ :=
  { removal | ∃ value, ops[removal]? = some (.remove value true) }

/-- Every successful removal matches an insertion. -/
theorem exists_matches {now : Time} {ops : List (Op T)} {last : Clocked T}
    (hrun : Run Step ⟨now, .default⟩ ops last) {removal : ℕ} {value : T}
    (hremoval : ops[removal]? = some (.remove value true)) :
    ∃ position, Matches ops position removal := by
  have hlt := (List.getElem?_eq_some_iff.mp hremoval).1
  obtain ⟨middle, next, hprefix, hstep⟩ := hrun.step_at hremoval
  have hmem := hstep.mem_of_remove
  obtain ⟨before, after, timer, hops, hvalue, hafter⟩ := inserted_of_mem hprefix value hmem
  have hlength : removal = before.length + (after.length + 1) := by
    have htake := congrArg List.length hops
    rw [List.length_take, Nat.min_eq_left hlt.le] at htake
    simpa using htake
  have hat : ∀ index, index < removal →
      ops[index]? = (before ++ .insertTemp timer :: after)[index]? := by
    intro index hindex
    rw [← hops, List.getElem?_take_of_lt hindex]
  refine ⟨before.length, timer, by omega, by rw [hvalue]; exact hremoval, ?_, ?_⟩
  · rw [hat before.length (by omega), List.getElem?_append_right le_rfl, Nat.sub_self]
    rfl
  · intro between hleft hright op hop'
    rw [hat between hright, List.getElem?_append_right hleft.le] at hop'
    obtain ⟨offset, hoffset⟩ : ∃ offset, between - before.length = offset + 1 :=
      ⟨between - before.length - 1, by omega⟩
    rw [hoffset, List.getElem?_cons_succ] at hop'
    exact hafter op (List.mem_of_getElem? hop')

omit [DecidableEq T] in
/-- One insertion matches one removal only. -/
theorem Matches.unique {ops : List (Op T)} {position first second : ℕ}
    (hfirst : Matches ops position first) (hsecond : Matches ops position second) :
    first = second := by
  have hle : ∀ {first second : ℕ}, Matches ops position first →
      Matches ops position second → ¬ first < second := by
    intro first second hfirst hsecond hlt
    obtain ⟨timer, hbefore, hremoved, hinserted, _⟩ := hfirst
    obtain ⟨timer', _, _, hinserted', hbetween⟩ := hsecond
    have htimer : timer = timer' := by
      have hops := hinserted.symm.trans hinserted'
      injection hops with hop
      injection hop
    rw [htimer] at hremoved
    exact hbetween first hbefore hlt _ hremoved (.inr (.inl rfl))
  have hnot := hle hfirst hsecond
  have hnot' := hle hsecond hfirst
  omega

/-- The removals of a history are matched injectively with earlier
insertions. -/
theorem exists_matching {now : Time} {ops : List (Op T)} {last : Clocked T}
    (hrun : Run Step ⟨now, .default⟩ ops last) :
    ∃ source : ℕ → ℕ, Set.InjOn source (Removals ops) ∧
      ∀ removal ∈ Removals ops, Matches ops (source removal) removal := by
  have hsources : ∀ removal, ∃ position, removal ∈ Removals ops →
      Matches ops position removal := by
    intro removal
    by_cases hremoval : removal ∈ Removals ops
    · obtain ⟨value, hvalue⟩ := hremoval
      obtain ⟨position, hmatches⟩ := exists_matches hrun hvalue
      exact ⟨position, fun _ => hmatches⟩
    · exact ⟨0, fun h => absurd h hremoval⟩
  choose source hsource using hsources
  refine ⟨source, ?_, hsource⟩
  intro first hfirst second hsecond heq
  have hmatches := hsource second hsecond
  rw [← heq] at hmatches
  exact (hsource first hfirst).unique hmatches

/-! ## Tasks that sleep -/

/-- The task of an insertion sleeps until it wakes up. -/
theorem pending_of_inserted {start last : Clocked T} {ops : List (Op T)} {timer : Timer T}
    {position : ℕ} (hrun : Run Step start ops last)
    (hat : ops[position]? = some (.insertTemp timer))
    (hsleeps : ∀ between, position < between → ops[between]? ≠ some (.expire timer)) :
    timer ∈ last.codes.timers := by
  induction hrun with
  | nil => cases hat
  | @snoc labels middle label last _ hfinal ih =>
      have hlast : (labels ++ [label])[labels.length]? = some label := by
        rw [List.getElem?_append_right le_rfl, Nat.sub_self]
        rfl
      by_cases hlt : position < labels.length
      · rw [List.getElem?_append_left hlt] at hat
        have hmem : timer ∈ middle.codes.timers := by
          apply ih hat
          intro between hbetween hfired
          apply hsleeps between hbetween
          rw [List.getElem?_append_left (List.getElem?_eq_some_iff.mp hfired).1, hfired]
        cases hfinal with
        | insertTemp value duration => exact List.mem_cons_of_mem _ hmem
        | @expire _ codes fired _ _ =>
            have hne : timer ≠ fired := by
              rintro rfl
              exact hsleeps labels.length hlt hlast
            exact (List.mem_erase_of_ne hne).mpr hmem
        | remove | wipe | elapse | other => exact hmem
      · obtain rfl : position = labels.length := by
          have hle := (List.getElem?_eq_some_iff.mp hat).1
          rw [List.length_append, List.length_singleton] at hle
          omega
        obtain rfl : label = .insertTemp timer := Option.some.inj (hlast.symm.trans hat)
        generalize hop : Op.insertTemp timer = op at hfinal
        cases hfinal with
        | insertTemp value duration =>
            rw [Op.insertTemp.inj hop]
            exact List.mem_cons_self
        | remove | wipe | expire | elapse | other => cases hop

/-- Nothing that sleeps is overdue. -/
def OnTime (current : Clocked T) : Prop :=
  ∀ timer ∈ current.codes.timers, current.now ≤ timer.due

theorem Step.onTime {before after : Clocked T} {op : Op T} (hstep : Step before op after)
    (hprompt : ∀ duration, op = .elapse duration →
      ∀ timer ∈ before.codes.timers, before.now + duration ≤ timer.due)
    (hbefore : OnTime before) : OnTime after := by
  cases hstep with
  | insertTemp value duration =>
      intro timer hmem
      cases List.mem_cons.mp hmem with
      | inl hnew =>
          rw [hnew]
          exact Nat.le_add_right _ duration
      | inr hold => exact hbefore timer hold
  | expire => exact fun timer hmem => hbefore timer (List.mem_of_mem_erase hmem)
  | elapse duration => exact hprompt duration rfl
  | remove | wipe | other => exact hbefore

end ScdtServer.Codes
