import ScdtServer.Challd.Records
import ScdtServer.Challd.Connection
import ScdtServer.CtfArchive.Sessions

/-!
# Both programs on one machine

Only the archive may connect to the socket of challd, and it does so once for
each call of `start_container`.  A connection delivers the message of its call in
order, for as long as it lasts.
-/

namespace ScdtServer.Deployment

open Function
open ScdtServer.Transition ScdtServer.ByteReader ScdtServer.TaskPool
open ScdtServer.Host ScdtServer.Interface ScdtServer.Main ScdtServer.Daemon
open ScdtServer.Soundness ScdtServer.Records
open ScdtServer.Http ScdtServer.Tables ScdtServer.Challenges
open ScdtServer.Api (Server State Exchange)
open ScdtServer.Sessions

structure Machine where
  archive : State
  /-- What has happened in the archive. -/
  events : List Api.Event
  challd : Daemon
  /-- What has happened in challd. -/
  actions : List Action
  /-- For each connection of challd the place of the exchange that has opened it. -/
  opened : ℕ → Option ℕ
  /-- What a connection has still to deliver. -/
  unread : ℕ → List UInt8

def Machine.initial (now : Time) (database : Database) : Machine where
  archive := .start now database
  events := []
  challd := Daemon.initial
  actions := []
  opened _ := none
  unread _ := []

/-- Who works for which connection. -/
abbrev Machine.origins (machine : Machine) : ℕ → ℕ :=
  originOf machine.challd.tasks

/-- At `position` the archive calls `start_container`. -/
structure Calls (events : List Api.Event) (position : ℕ) (exchange : Exchange)
    (sent : ContainerRequest) : Prop where
  event : events[position]? = some (.exchange exchange)
  sent : exchange.sent = some sent

def Machine.afterEvent (machine : Machine) (event : Api.Event) (archive : State) : Machine :=
  { machine with archive := archive, events := machine.events ++ [event] }

/-- A connection is accepted, on which a message arrives. -/
def Machine.afterConnect (machine : Machine) (position : ℕ) (message : List UInt8)
    (challd : Daemon) : Machine :=
  { machine with
    challd := challd
    actions := machine.actions ++ [.accept]
    opened := update machine.opened machine.challd.tasks.length (some position)
    unread := update machine.unread machine.challd.tasks.length message }

/-- What is read on a connection has been delivered. -/
def Machine.afterAction (machine : Machine) (action : Action) (challd : Daemon) : Machine :=
  { machine with
    challd := challd
    actions := machine.actions ++ [action]
    unread := fun origin =>
      if actsFor machine.origins origin action = true then
        (machine.unread origin).drop (bytesRead action).length
      else machine.unread origin }

inductive Label
  | archive (event : Api.Event)
  | connect (position : ℕ)
  | challd (action : Action)

variable (server : Server) (panics : DoublePanic) (int : Interface)

inductive Step : Machine → Label → Machine → Prop
  | archive {machine : Machine} {event : Api.Event} {archive : State}
      (hstep : Api.Step server machine.archive event archive) :
      Step machine (.archive event) (machine.afterEvent event archive)
  | connect {machine : Machine} {position : ℕ} {exchange : Exchange}
      {sent : ContainerRequest} {challd : Daemon}
      (hcalls : Calls machine.events position exchange sent)
      (hfirst : ∀ origin, machine.opened origin ≠ some position)
      (hstep : Daemon.Step panics int machine.challd .accept challd) :
      Step machine (.connect position) (machine.afterConnect position sent.message challd)
  | challd {machine : Machine} {action : Action} {challd : Daemon}
      (haction : action ≠ .accept) (hstep : Daemon.Step panics int machine.challd action challd)
      (hdelivers : ∀ origin, actsFor machine.origins origin action = true →
        bytesRead action <+: machine.unread origin) :
      Step machine (.challd action) (machine.afterAction action challd)

/-- What is assumed of the archive's surroundings. -/
def TrustedArchive (machine : Machine) (label : Label) : Prop :=
  ∀ event, label = .archive event → Trusted server machine.archive event

/-- A run of both programs, on the database that the archive finds. -/
abbrev Deploys (now : Time) (database : Database) (labels : List Label)
    (machine : Machine) : Prop :=
  Run (restrict (Step server panics int) (TrustedArchive server)) (.initial now database) labels
    machine

variable {server panics int}

/-! ## The tasks of challd -/

section

variable {daemon next : Daemon} {action : Action} {actions : List Action}
variable {part : Action → List UInt8} {origin task : ℕ}

/-- What a step does to the tasks: those that are there keep their origin, and a
new one has the origin of another, or a connection's own. -/
structure Grows (daemon : Daemon) (action : Action) (next : Daemon) : Prop where
  length_le : daemon.tasks.length ≤ next.tasks.length
  kept : ∀ task < daemon.tasks.length, originOf next.tasks task = originOf daemon.tasks task
  added : ∀ task < next.tasks.length, task < daemon.tasks.length ∨
    (∃ parent < daemon.tasks.length, originOf next.tasks task = originOf daemon.tasks parent) ∨
      (action = .accept ∧ originOf next.tasks task = daemon.tasks.length)

theorem grows_of_same (htasks : next.tasks = daemon.tasks) : Grows daemon action next where
  length_le := by rw [htasks]
  kept task _ := by rw [htasks]
  added task hlt := by
    rw [htasks] at hlt
    exact .inl hlt

theorem grows_of_set {world : World} {old new : TaskPool.Task challd}
    (hat : daemon.tasks[task]? = some old) (horigin : new.origin = old.origin) :
    Grows daemon action { daemon with world := world, tasks := daemon.tasks.set task new } where
  length_le := by rw [List.length_set]
  kept other _ := congrFun (originOf_set hat horigin) other
  added other hlt := by
    rw [List.length_set] at hlt
    exact .inl hlt

theorem grows_of_step (hstep : Daemon.Step panics int daemon action next) :
    Grows daemon action next := by
  cases hstep with
  | accept hphase =>
      constructor
      · rw [List.length_append]
        exact Nat.le_add_right _ _
      · exact fun task hlt => originOf_append hlt
      · intro task hlt
        rw [List.length_append, List.length_singleton] at hlt
        rcases Nat.lt_succ_iff_lt_or_eq.mp hlt with hold | rfl
        · exact .inl hold
        · exact .inr (.inr ⟨rfl, by rw [originOf_concat, update_self]⟩)
  | signal | cancel | close | wait | leave | abort | containerExit => exact grows_of_same rfl
  | task hphase hpanics hpool =>
      cases hpool with
      | answer hat hexec => exact grows_of_set hat rfl
      | join hat hother hended => exact grows_of_set hat rfl
      | @spawn _ _ task role origin childRole child rest hat =>
          have horigins : originOf (daemon.tasks.set task
              ⟨role, origin, rest daemon.tasks.length⟩ ++ [⟨childRole, origin, child⟩]) =
              update (originOf daemon.tasks) daemon.tasks.length (originOf daemon.tasks task) :=
            originOf_spawn hat
          constructor
          · rw [List.length_append, List.length_set]
            exact Nat.le_add_right _ _
          · intro other hlt
            rw [horigins, update_of_ne (Nat.ne_of_lt hlt)]
          · intro other hlt
            rw [List.length_append, List.length_set, List.length_singleton] at hlt
            rcases Nat.lt_succ_iff_lt_or_eq.mp hlt with hold | rfl
            · exact .inl hold
            · refine .inr (.inl ⟨task, (List.getElem?_eq_some_iff.mp hat).1, ?_⟩)
              rw [horigins, update_self]

/-- A task that acts is there. -/
theorem lt_of_step {call : Call} {answer : Answer call} {choice : Choice}
    (hstep : Daemon.Step panics int daemon (.task (.answer task call answer choice)) next) :
    task < daemon.tasks.length := by
  cases hstep with
  | task hphase hpanics hpool =>
      cases hpool with
      | answer hat hexec => exact (List.getElem?_eq_some_iff.mp hat).1

theorem actsFor_of_step (hstep : Daemon.Step panics int daemon action next) :
    actsFor (originOf next.tasks) origin action =
      actsFor (originOf daemon.tasks) origin action := by
  have hgrows := grows_of_step hstep
  cases action with
  | task event =>
      cases event with
      | answer task call answer choice =>
          rw [actsFor, actsFor, hgrows.kept task (lt_of_step hstep)]
      | _ => rfl
  | _ => rfl

/-- A step adds its part to the stream of the connection that it is for. -/
theorem stream_step (hrun : Runs panics int actions daemon)
    (hstep : Daemon.Step panics int daemon action next) :
    stream part (originOf next.tasks) origin (actions ++ [action]) =
      stream part (originOf daemon.tasks) origin actions ++
        if actsFor (originOf daemon.tasks) origin action = true then part action else [] := by
  obtain ⟨errands, hfiled⟩ := filed_of_run hrun
  have hold : stream part (originOf next.tasks) origin actions =
      stream part (originOf daemon.tasks) origin actions := by
    apply List.flatMap_congr
    intro past hmem
    cases past with
    | task event =>
        cases event with
        | answer task call answer choice =>
            have hlt := hfiled.past task call answer choice hmem
            rw [actsFor, actsFor, (grows_of_step hstep).kept task hlt]
        | _ => rfl
    | _ => rfl
  rw [stream_snoc, hold, actsFor_of_step hstep]

/-- Nothing is said on a connection before it is accepted. -/
theorem stream_unopened (hrun : Runs panics int actions daemon) :
    stream part (originOf daemon.tasks) daemon.tasks.length actions = [] := by
  obtain ⟨errands, hfiled⟩ := filed_of_run hrun
  by_contra hstream
  obtain ⟨task, hlt, horigin⟩ := hfiled.exists_of_stream hstream
  exact Nat.ne_of_lt ((hfiled.origin_le hlt).trans_lt hlt) horigin

end

/-! ## Wires -/

variable {now : Time} {database : Database} {labels : List Label} {label : Label}
variable {machine next : Machine}

/-- Both programs run, and every connection carries the message of one call. -/
structure Wired (server : Server) (panics : DoublePanic) (int : Interface) (now : Time)
    (database : Database) (machine : Machine) : Prop where
  archive : Run (restrict (Api.Step server) (Trusted server)) (.start now database)
    machine.events machine.archive
  challd : Runs panics int machine.actions machine.challd
  opened : ∀ task < machine.challd.tasks.length,
    ∃ position, machine.opened (machine.origins task) = some position
  bound : ∀ origin position, machine.opened origin = some position →
    origin < machine.challd.tasks.length
  carries : ∀ origin position, machine.opened origin = some position →
    ∃ exchange sent, Calls machine.events position exchange sent ∧
      stream bytesRead machine.origins origin machine.actions ++ machine.unread origin =
        sent.message
  once : ∀ origin origin' position, machine.opened origin = some position →
    machine.opened origin' = some position → origin = origin'

theorem Calls.append {events more : List Api.Event} {position : ℕ} {exchange : Exchange}
    {sent : ContainerRequest} (hcalls : Calls events position exchange sent) :
    Calls (events ++ more) position exchange sent :=
  ⟨at_append hcalls.event, hcalls.sent⟩

theorem Calls.inj {events : List Api.Event} {position : ℕ} {exchange exchange' : Exchange}
    {sent sent' : ContainerRequest} (hcalls : Calls events position exchange sent)
    (hcalls' : Calls events position exchange' sent') : exchange = exchange' ∧ sent = sent' := by
  have hevent := Option.some.inj (hcalls.event.symm.trans hcalls'.event)
  obtain rfl := Api.Event.exchange.inj hevent
  exact ⟨rfl, Option.some.inj (hcalls.sent.symm.trans hcalls'.sent)⟩

/-- A connection has delivered a part of the message of its call. -/
theorem Wired.carried {origin position : ℕ} {exchange : Exchange} {sent : ContainerRequest}
    (hwired : Wired server panics int now database machine)
    (hopened : machine.opened origin = some position)
    (hcalls : Calls machine.events position exchange sent) :
    stream bytesRead machine.origins origin machine.actions ++ machine.unread origin =
      sent.message := by
  obtain ⟨exchange', sent', hcalls', hcarries⟩ := hwired.carries origin position hopened
  obtain ⟨-, rfl⟩ := hcalls.inj hcalls'
  exact hcarries

theorem wired_initial : Wired server panics int now database (.initial now database) where
  archive := .nil
  challd := .nil
  opened _ hlt := absurd hlt (Nat.not_lt_zero _)
  bound _ _ hopened := by cases hopened
  carries _ _ hopened := by cases hopened
  once _ _ _ hopened := by cases hopened

theorem Wired.served {event : Api.Event} {archive : State}
    (hwired : Wired server panics int now database machine)
    (hstep : Api.Step server machine.archive event archive)
    (htrusted : Trusted server machine.archive event) :
    Wired server panics int now database (machine.afterEvent event archive) :=
  { hwired with
    archive := .snoc hwired.archive ⟨hstep, htrusted⟩
    carries := fun origin position hopened => by
      obtain ⟨exchange, sent, hcalls, hstream⟩ := hwired.carries origin position hopened
      exact ⟨exchange, sent, hcalls.append, hstream⟩ }

theorem Wired.connected {position : ℕ} {exchange : Exchange} {sent : ContainerRequest}
    {challd : Daemon} (hwired : Wired server panics int now database machine)
    (hcalls : Calls machine.events position exchange sent)
    (hfirst : ∀ origin, machine.opened origin ≠ some position)
    (hstep : Daemon.Step panics int machine.challd .accept challd) :
    Wired server panics int now database (machine.afterConnect position sent.message challd) := by
  have hgrows := grows_of_step hstep
  have hlength : machine.challd.tasks.length < challd.tasks.length := by
    cases hstep
    rw [List.length_append]
    exact Nat.lt_succ_self _
  have hstream : ∀ origin, stream bytesRead (originOf challd.tasks) origin
      (machine.actions ++ [.accept]) =
        stream bytesRead machine.origins origin machine.actions := by
    intro origin
    rw [stream_step hwired.challd hstep]
    exact List.append_nil _
  have hne : ∀ origin other, machine.opened origin = some other →
      origin ≠ machine.challd.tasks.length :=
    fun origin other hopened => Nat.ne_of_lt (hwired.bound origin other hopened)
  have hopened : ∀ origin other,
      update machine.opened machine.challd.tasks.length (some position) origin = some other →
        (origin = machine.challd.tasks.length ∧ other = position) ∨
          (origin ≠ machine.challd.tasks.length ∧ machine.opened origin = some other) := by
    intro origin other hupdated
    by_cases hnew : origin = machine.challd.tasks.length
    · rw [hnew, update_self] at hupdated
      exact .inl ⟨hnew, (Option.some.inj hupdated).symm⟩
    · rw [update_of_ne hnew] at hupdated
      exact .inr ⟨hnew, hupdated⟩
  refine ⟨hwired.archive, .snoc hwired.challd hstep, ?_, ?_, ?_, ?_⟩
  · intro task hlt
    show ∃ other, update machine.opened machine.challd.tasks.length (some position)
      (originOf challd.tasks task) = some other
    have hold : ∀ parent < machine.challd.tasks.length,
        ∃ other, update machine.opened machine.challd.tasks.length (some position)
          (machine.origins parent) = some other := by
      intro parent hparent
      obtain ⟨other, hother⟩ := hwired.opened parent hparent
      refine ⟨other, ?_⟩
      rwa [update_of_ne (hne _ _ hother)]
    rcases hgrows.added task hlt with hbefore | ⟨parent, hparent, horigin⟩ | ⟨-, horigin⟩
    · rw [hgrows.kept task hbefore]
      exact hold task hbefore
    · rw [horigin]
      exact hold parent hparent
    · rw [horigin, update_self]
      exact ⟨position, rfl⟩
  · intro origin other hupdated
    rcases hopened origin other hupdated with ⟨rfl, -⟩ | ⟨-, hbefore⟩
    · exact hlength
    · exact (hwired.bound origin other hbefore).trans hlength
  · intro origin other hupdated
    show ∃ exchange sent', Calls machine.events other exchange sent' ∧
      stream bytesRead (originOf challd.tasks) origin (machine.actions ++ [.accept]) ++ _ = _
    rw [hstream]
    rcases hopened origin other hupdated with ⟨rfl, rfl⟩ | ⟨hnew, hbefore⟩
    · refine ⟨exchange, sent, hcalls, ?_⟩
      show _ ++ update machine.unread machine.challd.tasks.length sent.message
        machine.challd.tasks.length = _
      rw [stream_unopened hwired.challd, update_self, List.nil_append]
    · obtain ⟨exchange', sent', hcalls', hcarries⟩ := hwired.carries origin other hbefore
      refine ⟨exchange', sent', hcalls', ?_⟩
      show _ ++ update machine.unread machine.challd.tasks.length sent.message origin = _
      rwa [update_of_ne hnew]
  · intro origin origin' other hleft hright
    rcases hopened origin other hleft with ⟨rfl, rfl⟩ | ⟨hnew, hbefore⟩ <;>
      rcases hopened origin' other hright with ⟨hnew', hother⟩ | ⟨hnew', hbefore'⟩
    · exact hnew'.symm
    · exact absurd hbefore' (hfirst origin')
    · rw [hother] at hbefore
      exact absurd hbefore (hfirst origin)
    · exact hwired.once origin origin' other hbefore hbefore'

theorem Wired.acted {action : Action} {challd : Daemon}
    (hwired : Wired server panics int now database machine) (haction : action ≠ .accept)
    (hstep : Daemon.Step panics int machine.challd action challd)
    (hdelivers : ∀ origin, actsFor machine.origins origin action = true →
      bytesRead action <+: machine.unread origin) :
    Wired server panics int now database (machine.afterAction action challd) := by
  have hgrows := grows_of_step hstep
  refine ⟨hwired.archive, .snoc hwired.challd hstep, ?_, ?_, ?_, hwired.once⟩
  · intro task hlt
    show ∃ position, machine.opened (originOf challd.tasks task) = some position
    rcases hgrows.added task hlt with hbefore | ⟨parent, hparent, horigin⟩ | ⟨haccept, -⟩
    · rw [hgrows.kept task hbefore]
      exact hwired.opened task hbefore
    · rw [horigin]
      exact hwired.opened parent hparent
    · exact absurd haccept haction
  · exact fun origin position hopened =>
      (hwired.bound origin position hopened).trans_le hgrows.length_le
  · intro origin position hopened
    obtain ⟨exchange, sent, hcalls, hcarries⟩ := hwired.carries origin position hopened
    refine ⟨exchange, sent, hcalls, ?_⟩
    show stream bytesRead (originOf challd.tasks) origin (machine.actions ++ [action]) ++
      (if _ then _ else _) = _
    rw [stream_step hwired.challd hstep, ← hcarries, List.append_assoc]
    congr 1
    split
    · rename_i hacts
      obtain ⟨rest, hrest⟩ := hdelivers origin hacts
      rw [← hrest, List.drop_left]
    · exact List.nil_append _

theorem wired_of_run (hrun : Deploys server panics int now database labels machine) :
    Wired server panics int now database machine := by
  apply hrun.invariant (Wired server panics int now database) wired_initial
  intro before label after hwired hstep
  obtain ⟨hstep, htrusted⟩ := hstep
  cases hstep with
  | archive hstep => exact hwired.served hstep (htrusted _ rfl)
  | connect hcalls hfirst hstep => exact hwired.connected hcalls hfirst hstep
  | challd haction hstep hdelivers => exact hwired.acted haction hstep hdelivers

end ScdtServer.Deployment
