import ScdtServer.Challd.Records

/-!
# Every connection is answered in full

If the calls that its answer depends on are granted, whoever of a connection's
tasks ends with the pen has written a whole response, and a complaint is about the
bytes that were read.  What becomes of the calls of others does not matter.
-/

namespace ScdtServer.Replies

open Function
open ScdtServer.Interaction ScdtServer.Interaction.Program
open ScdtServer.ByteReader ScdtServer.RequestReader
open ScdtServer.TaskPool ScdtServer.Transition
open ScdtServer.Host ScdtServer.AddressManager ScdtServer.Interface ScdtServer.Main
open ScdtServer.Daemon
open ScdtServer.Soundness
open ScdtServer.Errands
open ScdtServer.Records

/-- The rules of the errands when calls are granted: nobody ends or waits with the
pen before the answer is written. -/
abbrev strict (int : Interface) (stays : Bool) : Rules challd Errand where
  pre call errand := pre int call errand ∧ (waits call = true → errand.pen = false)
  after call answer errand errand' :=
    granted stays call answer = true ∧ (rules int).after call answer errand errand'
  spawnable := (rules int).spawnable
  give := (rules int).give
  keep := (rules int).keep
  awaiting errand := if errand.pen = true then none else errand.child
  joined := (rules int).joined
  ended := Replied int stays

variable {panics : DoublePanic} {int : Interface} {stays : Bool} {A : Type} {errand : Errand}

/-- A task without the pen owes nobody an answer. -/
theorem wp_penless {program : Prog A} {post post' : A → Errand → Prop}
    (hpen : errand.pen = false) (hwp : wp (rules int) program post errand)
    (hpost : ∀ value errand, errand.pen = false → post value errand → post' value errand) :
    wp (strict int stays) program post' errand := by
  induction program generalizing errand with
  | ret value => exact hpost value errand hpen hwp
  | panic => exact replied_penless hpen
  | call request next ih =>
      obtain ⟨hpre, hnext⟩ := hwp
      refine ⟨⟨hpre, fun _ => hpen⟩, ?_⟩
      rintro answer errand' ⟨-, hafter⟩
      obtain rfl := hafter.2
      exact ih answer hpen (hnext answer _ hafter) hpost
  | spawn role child next ihChild ih =>
      obtain ⟨hspawnable, hchild, hnext⟩ := hwp
      have hgiven : ((rules int).give role errand).pen = false := by
        cases role <;> first | exact hpen | rfl
      have hkept : ∀ task, ((rules int).keep role errand task).pen = false := by
        intro task
        cases role <;> first | exact hpen | rfl
      refine ⟨hspawnable, ?_, fun task => ih task (hkept task) (hnext task) hpost⟩
      exact ihChild hgiven hchild fun _ last hlast _ => replied_penless hlast
  | join task next ih =>
      obtain ⟨hawaits, hnext⟩ := hwp
      refine ⟨?_, fun outcome => ih outcome hpen (hnext outcome) hpost⟩
      show (if errand.pen = true then none else errand.child) = some task
      rwa [if_neg (by simp [hpen])]

theorem keeps_strict (int : Interface) (stays : Bool) : Keeps int stays (strict int stays) where
  pre call errand hwaits hpre := by
    refine ⟨hpre, fun hwaiting => ?_⟩
    cases hwaits.symm.trans hwaiting
  after _ _ _ _ hafter := hafter.2
  refused _ _ _ _ hafter hrefused := by
    cases hrefused.symm.trans hafter.1
  spawnable := rfl
  give := rfl
  keep := rfl
  penless _ _ hpen hwp := wp_penless hpen hwp fun _ _ hlast _ => replied_penless hlast
  replied _ hreplied := hreplied

/-! ## All connections -/

def grantedAction (stays : Bool) : Action → Bool
  | .task (.answer _ request answer _) => granted stays request answer
  | _ => true

/-- The calls that were made for the connection have been granted. -/
def Granted (stays : Bool) (origins : ℕ → ℕ) (origin : ℕ) (actions : List Action) : Prop :=
  ∀ action ∈ actions, actsFor origins origin action = true → grantedAction stays action = true

variable {actions : List Action} {action : Action} {origins origins' : ℕ → ℕ}
variable {origin task : ℕ} {daemon next : Daemon} {errands : ℕ → Errand}

theorem Granted.earlier (hgranted : Granted stays origins' origin (actions ++ [action]))
    (hpast : ∀ task call answer choice, .task (.answer task call answer choice) ∈ actions →
      origins' task = origins task) : Granted stays origins origin actions := by
  intro past hmem hacts
  apply hgranted past (List.mem_append_left _ hmem)
  cases past with
  | task event =>
      cases event with
      | answer task call answer choice => rwa [actsFor, hpast task call answer choice hmem]
      | _ => cases hacts
  | _ => cases hacts

/-- The files of the errands, and what the tasks of a connection owe as long as its
calls are granted. -/
structure Owed (int : Interface) (stays : Bool) (origin : ℕ) (actions : List Action)
    (daemon : Daemon) (errands : ℕ → Errand) : Prop where
  filed : Filed int actions daemon errands
  guarded : Granted stays (originOf daemon.tasks) origin actions →
    GuardedOf (strict int stays) origin daemon.tasks errands

theorem Owed.main (howed : Owed int stays origin actions daemon errands)
    (htasks : next.tasks = daemon.tasks)
    (hacts : ∀ origins origin, actsFor origins origin action = false)
    (hsame : ∀ origin, Same daemon.world next.world origin) :
    Owed int stays origin (actions ++ [action]) next errands where
  filed := howed.filed.main htasks hacts hsame
  guarded hgranted := by
    rw [htasks] at hgranted ⊢
    exact howed.guarded (hgranted.earlier fun _ _ _ _ _ => rfl)

theorem Owed.accept (howed : Owed int stays origin actions daemon errands) :
    Owed int stays origin (actions ++ [.accept])
      { daemon with
        tasks := daemon.tasks ++ [⟨.connection, daemon.tasks.length, connection int⟩] }
      (update errands daemon.tasks.length .fresh) where
  filed := howed.filed.accept
  guarded hgranted := by
    apply GuardedOf.concat _ fun _ => (keeps_strict int stays).connection
    apply howed.guarded
    exact hgranted.earlier fun task call answer choice hmem =>
      originOf_append (howed.filed.past task call answer choice hmem)

theorem Owed.answered {role : Role} {entryOrigin : ℕ} {call : Call} {answer : Answer call}
    {choice : Choice} {rest : Answer call → Prog TaskResult} {world : World}
    (howed : Owed int stays origin actions daemon errands)
    (hat : daemon.tasks[task]? = some ⟨role, entryOrigin, .call (S := challd) call rest⟩)
    (hexec : exec daemon.world entryOrigin call answer choice = some world) :
    Owed int stays origin (actions ++ [.task (.answer task call answer choice)])
      { daemon with
        world := world
        tasks := daemon.tasks.set task ⟨role, entryOrigin, rest answer⟩ }
      (update errands task
        { errands task with file := noted call answer (errands task).file }) where
  filed := howed.filed.answered hat hexec
  guarded hgranted := by
    have hsame : originOf (daemon.tasks.set task ⟨role, entryOrigin, rest answer⟩) =
        originOf daemon.tasks := originOf_set hat rfl
    have hbefore : GuardedOf (strict int stays) origin daemon.tasks errands :=
      howed.guarded (hgranted.earlier fun other _ _ _ _ => congrFun hsame other)
    apply hbefore.answer hat
    intro horigin
    refine ⟨?_, full_of_exec hexec, rfl⟩
    apply hgranted _ (List.mem_append_right _ (List.mem_singleton.mpr rfl))
    apply decide_eq_true
    calc
      originOf (daemon.tasks.set task ⟨role, entryOrigin, rest answer⟩) task =
          originOf daemon.tasks task := congrFun hsame task
      _ = entryOrigin := originOf_eq hat
      _ = origin := horigin

theorem Owed.spawned {role childRole : Role} {entryOrigin : ℕ} {child : Prog TaskResult}
    {rest : ℕ → Prog TaskResult} (howed : Owed int stays origin actions daemon errands)
    (hat : daemon.tasks[task]? =
      some ⟨role, entryOrigin, .spawn (S := challd) childRole child rest⟩) :
    Owed int stays origin (actions ++ [.task (.spawn task)])
      { daemon with
        tasks := daemon.tasks.set task ⟨role, entryOrigin, rest daemon.tasks.length⟩ ++
          [⟨childRole, entryOrigin, child⟩] }
      (update
        (update errands task ((rules int).keep childRole (errands task) daemon.tasks.length))
        daemon.tasks.length ((rules int).give childRole (errands task))) where
  filed := howed.filed.spawned hat
  guarded hgranted := by
    have hsame : originOf (daemon.tasks.set task ⟨role, entryOrigin, rest daemon.tasks.length⟩) =
        originOf daemon.tasks := originOf_set hat rfl
    have hbefore : GuardedOf (strict int stays) origin daemon.tasks errands := by
      apply howed.guarded
      apply hgranted.earlier
      intro other call answer choice hmem
      have hlt := howed.filed.past other call answer choice hmem
      rw [originOf_append (by rwa [List.length_set]), hsame]
    exact hbefore.spawn hat

theorem Owed.joined {role : Role} {entryOrigin awaited : ℕ}
    {rest : Option TaskResult → Prog TaskResult} {outcome : Option TaskResult}
    (howed : Owed int stays origin actions daemon errands)
    (hat : daemon.tasks[task]? =
      some ⟨role, entryOrigin, .join (S := challd) awaited rest⟩) :
    Owed int stays origin (actions ++ [.task (.join task)])
      { daemon with tasks := daemon.tasks.set task ⟨role, entryOrigin, rest outcome⟩ }
      (update errands task { errands task with child := none }) where
  filed := howed.filed.joined hat
  guarded hgranted := by
    have hsame : originOf (daemon.tasks.set task ⟨role, entryOrigin, rest outcome⟩) =
        originOf daemon.tasks := originOf_set hat rfl
    have hbefore : GuardedOf (strict int stays) origin daemon.tasks errands :=
      howed.guarded (hgranted.earlier fun other _ _ _ _ => congrFun hsame other)
    exact hbefore.join outcome hat

theorem Owed.step (howed : Owed int stays origin actions daemon errands)
    (hstep : Step panics int daemon action next) :
    ∃ errands', Owed int stays origin (actions ++ [action]) next errands' := by
  cases hstep with
  | accept hphase => exact ⟨_, howed.accept⟩
  | signal | cancel | close | wait | leave | abort =>
      exact ⟨errands, howed.main rfl (fun _ _ => rfl) fun _ => same_of_eq rfl⟩
  | containerExit hphase hrunning =>
      exact ⟨errands, howed.main rfl (fun _ _ => rfl) fun _ => same_of_exit hrunning⟩
  | task hphase hpanics hpool =>
      cases hpool with
      | answer hat hexec => exact ⟨_, howed.answered hat hexec⟩
      | spawn hat => exact ⟨_, howed.spawned hat⟩
      | join hat hother hended => exact ⟨_, howed.joined hat⟩

theorem owed_of_run (stays : Bool) (origin : ℕ) (hrun : Runs panics int actions daemon) :
    ∃ errands, Owed int stays origin actions daemon errands := by
  apply Run.history
    (fun actions daemon => ∃ errands, Owed int stays origin actions daemon errands) _ _ hrun
  · refine ⟨_, filed_initial, ?_⟩
    intro _ task entry hat
    cases hat
  · rintro actions before action after ⟨errands, howed⟩ hstep
    exact howed.step hstep

/-! ## The whole answer -/

/-- The task has ended, or it waits for the end of a container or for a teardown, or it
has come to abort the process. -/
def isSettled : Prog A → Bool
  | .call (.select _ _) _ => true
  | .call .abort _ => true
  | .join _ _ => true
  | program => program.isEnded

theorem replied_of_settled {program : Prog TaskResult}
    (hwp : wp (strict int stays) program (fun _ => (strict int stays).ended) errand)
    (hsettled : isSettled program = true) : Replied int stays errand := by
  cases program with
  | ret value => exact hwp
  | panic => exact hwp
  | call request next =>
      cases request with
      | select duration watched => exact replied_penless (hwp.1.2 rfl)
      | abort => exact replied_penless (hwp.1.2 rfl)
      | _ => cases hsettled
  | spawn role child next => cases hsettled
  | join task next =>
      have hawaits : (if errand.pen = true then none else errand.child) = some task := hwp.1
      intro hpen
      rw [if_pos hpen] at hawaits
      cases hawaits

/-- A whole answer, and what it rests on. -/
inductive Answered (int : Interface) (stays : Bool) (actions : List Action) (daemon : Daemon)
    (origin : ℕ) : List UInt8 → Prop
  | refused {code : UInt8} (hunserviced : Unserviced daemon origin)
      (hcode : code = resultMalformedRequest ∨ code = resultInvalidPort)
      (hreads : stays = true →
        Reads readRequest (stream bytesRead (originOf daemon.tasks) origin actions)
          (.error code)) :
      Answered int stays actions daemon origin [code]
  | busy {request : Request} (hunserviced : Unserviced daemon origin)
      (hencodable : request.Encodable)
      (hinput : stream bytesRead (originOf daemon.tasks) origin actions = request.bytes)
      (hguest : isGuest request.mode = true) :
      Answered int stays actions daemon origin [resultBusy]
  | demo (hstarted : Started daemon origin)
      (hslot : ∀ slot, ¬ TookFor actions (originOf daemon.tasks) origin slot) :
      Answered int stays actions daemon origin [resultOk]
  | guest {slot : Slot} {keypair : Keypair} (hstarted : Started daemon origin)
      (hslot : TookFor actions (originOf daemon.tasks) origin slot)
      (hgenerated : Generated actions (originOf daemon.tasks) origin keypair)
      (hconfigured : Configured actions (originOf daemon.tasks) origin
        ⟨keypair.pubkey, addrOf slot⟩) :
      Answered int stays actions daemon origin (resultOk :: configBytes (config int slot keypair))

/-- What a file has been answered in full. -/
theorem answered_of_replied {file : File}
    (hagrees : Agrees int actions daemon.world (originOf daemon.tasks) origin file)
    (hresponse : Response int file file.output) (hjustified : stays = true → Justified file) :
    Answered int stays actions daemon origin file.output := by
  generalize hwhole : file.output = response at hresponse
  have hunserviced : file.container = none → Unserviced daemon origin := by
    intro hnone id container hat horigin
    cases hnone.symm.trans (hagrees.own id container hat horigin)
  cases hresponse with
  | @invalid code _ hcontainer hcode =>
      apply Answered.refused (hunserviced hcontainer) hcode
      intro hstays
      rw [hagrees.input]
      apply hjustified hstays code hwhole
      · rcases hcode with rfl | rfl <;> decide
      · rcases hcode with rfl | rfl <;> decide
  | busy _ hcontainer hencodable hinput hguest =>
      exact .busy (hunserviced hcontainer) hencodable (hagrees.input.trans hinput) hguest
  | demo hslot hstarted =>
      refine .demo (hagrees.started_of hstarted) fun slot htook => ?_
      cases hslot.symm.trans ((hagrees.slot slot).mpr htook)
  | @guest slot keypair hslot hstarted hkeypair hconfigured =>
      obtain ⟨slot', keypair', hslot', hkeypair', hpeer⟩ := hagrees.peer hconfigured
      obtain rfl : slot = slot' := Option.some.inj (hslot.symm.trans hslot')
      obtain rfl : keypair = keypair' := Option.some.inj (hkeypair.symm.trans hkeypair')
      exact .guest (hagrees.started_of hstarted) ((hagrees.slot slot).mp hslot)
        (hagrees.key keypair hkeypair) hpeer

/-- In every run, when the calls that the answer to a connection depends on have been
granted and its tasks have ended or wait, it has been answered in full and as it
deserves; if moreover it has stayed, it has been refused only what does not decode. -/
theorem answered_in_full (hrun : Runs panics int actions daemon)
    (haccepted : ∃ entry ∈ daemon.tasks, entry.origin = origin)
    (hgranted : Granted stays (originOf daemon.tasks) origin actions)
    (hsettled : ∀ entry ∈ daemon.tasks, entry.origin = origin →
      isSettled entry.program = true) :
    Answered int stays actions daemon origin
      (stream bytesWritten (originOf daemon.tasks) origin actions) := by
  obtain ⟨errands, howed⟩ := owed_of_run stays origin hrun
  obtain ⟨entry, hmem, horigin⟩ := haccepted
  obtain ⟨task, hat⟩ := List.getElem?_of_mem hmem
  obtain ⟨holder, hpen, hequal⟩ := howed.filed.held task (List.getElem?_eq_some_iff.mp hat).1
  rw [originOf_eq hat, horigin] at hequal
  have hholder := List.getElem?_eq_getElem (howed.filed.lt_of_pen hpen)
  have hown := (originOf_eq hholder).symm.trans hequal
  have hwp := howed.guarded hgranted holder _ hholder hown
  obtain ⟨hresponse, hjustified⟩ :=
    replied_of_settled hwp (hsettled _ (List.mem_of_getElem? hholder) hown) hpen
  have hagrees := howed.filed.agrees holder hpen
  rw [hequal] at hagrees
  rw [hagrees.output]
  exact answered_of_replied hagrees hresponse hjustified

/-- A guest comes, and is told the configuration. -/
def answeredGuest : List Move := Script.guest {} 0 0 ++ Script.steps {} 4 3

/-- A connection is served without a failure as far as it goes. -/
def isServed (origin : ℕ) (actions : List Action) (daemon : Daemon) : Bool :=
  daemon.tasks.any (fun entry => decide (entry.origin = origin)) &&
    actions.all (fun action =>
      !actsFor (originOf daemon.tasks) origin action || grantedAction true action) &&
    daemon.tasks.all fun entry => decide (entry.origin ≠ origin) || isSettled entry.program

theorem granted_of_isServed (hserved : isServed origin actions daemon = true) :
    (∃ entry ∈ daemon.tasks, entry.origin = origin) ∧
      Granted true (originOf daemon.tasks) origin actions ∧
        ∀ entry ∈ daemon.tasks, entry.origin = origin → isSettled entry.program = true := by
  simp only [isServed, Bool.and_eq_true, List.any_eq_true, List.all_eq_true, Bool.or_eq_true,
    Bool.not_eq_true', decide_eq_true_eq] at hserved
  obtain ⟨⟨haccepted, hgranted⟩, hsettled⟩ := hserved
  refine ⟨haccepted, ?_, ?_⟩
  · intro action hmem hacts
    rcases hgranted action hmem with hidle | hpassed
    · cases hidle.symm.trans hacts
    · exact hpassed
  · intro entry hmem horigin
    exact (hsettled entry hmem).resolve_left (absurd horigin)

theorem answered_in_full_guest : ∃ actions daemon,
    Runs .abortsProcess ⟨""⟩ actions daemon ∧ daemon.world.isRunning 0 = true ∧
      Answered ⟨""⟩ true actions daemon 0
        (stream bytesWritten (originOf daemon.tasks) 0 actions) := by
  rcases exists_history .abortsProcess ⟨""⟩ answeredGuest
    (fun actions daemon => isServed 0 actions daemon && daemon.world.isRunning 0)
    (by decide +kernel) with ⟨actions, daemon, hrun, htest⟩
  rw [Bool.and_eq_true] at htest
  obtain ⟨haccepted, hgranted, hsettled⟩ := granted_of_isServed htest.1
  exact ⟨actions, daemon, hrun, htest.2, answered_in_full hrun haccepted hgranted hsettled⟩

end ScdtServer.Replies
