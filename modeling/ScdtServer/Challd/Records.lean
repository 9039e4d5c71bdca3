import ScdtServer.Challd.Occupancy
import ScdtServer.Challd.Orders

/-!
# Every container was asked for, and every answer is true

The files of the errands agree with the history of the run.  So a container was
created as the request says that its connection has read, with the address that
its connection has taken, and a connection is told OK only about a container that
has been started and a peer that has been configured.
-/

namespace ScdtServer.Records

open Function
open ScdtServer.Interaction ScdtServer.Interaction.Program
open ScdtServer.ByteReader ScdtServer.Ports ScdtServer.RequestReader
open ScdtServer.TaskPool ScdtServer.Transition
open ScdtServer.Host ScdtServer.AddressManager ScdtServer.WgConfig
open ScdtServer.Interface ScdtServer.Main ScdtServer.Daemon
open ScdtServer.Invariant (setContainer_same setContainer_other)
open ScdtServer.Soundness
open ScdtServer.Occupancy (takes Took took_snoc took_of_snoc Earlier earlier_set)
open ScdtServer.Errands
open ScdtServer.Orders (Publishes Describes publishes_intoHashmap describes_createBody)

/-! ## The history of a connection -/

def bytesRead : Action → List UInt8
  | .task (.answer _ (.read _) bytes _) => (bytes : Option (List UInt8)).getD []
  | _ => []

def bytesWritten : Action → List UInt8
  | .task (.answer _ (.write bytes) _ _) => bytes
  | _ => []

/-- A call of a task that works for the connection has been answered. -/
def actsFor (origins : ℕ → ℕ) (origin : ℕ) : Action → Bool
  | .task (.answer task _ _ _) => decide (origins task = origin)
  | _ => false

/-- What a connection has read or written in a run, in order. -/
def stream (part : Action → List UInt8) (origins : ℕ → ℕ) (origin : ℕ)
    (actions : List Action) : List UInt8 :=
  actions.flatMap fun action => if actsFor origins origin action = true then part action else []

/-- The connection has taken the slot. -/
def TookFor (actions : List Action) (origins : ℕ → ℕ) (origin : ℕ) (slot : Slot) : Prop :=
  ∃ task, Took actions task slot ∧ origins task = origin

/-- The key was generated for the connection. -/
def Generated (actions : List Action) (origins : ℕ → ℕ) (origin : ℕ) (keypair : Keypair) :
    Prop :=
  ∃ task choice, .task (.answer task .genKeypair keypair choice) ∈ actions ∧
    origins task = origin

/-- A peer has been configured for the connection. -/
def Configured (actions : List Action) (origins : ℕ → ℕ) (origin : ℕ) (peer : Peer) :
    Prop :=
  ∃ task choice, .task (.answer task (.configurePeer peer) (true : Bool) choice) ∈ actions ∧
    origins task = origin

/-- The peer of the file's key, with the address of its slot, has been configured. -/
def PeerConfigured (actions : List Action) (origins : ℕ → ℕ) (origin : ℕ) (file : File) :
    Prop :=
  ∃ slot keypair, file.slot = some slot ∧ file.keypair = some keypair ∧
    Configured actions origins origin ⟨keypair.pubkey, addrOf slot⟩

/-- A file agrees with what has happened for its connection. -/
structure Agrees (int : Interface) (actions : List Action) (world : World) (origins : ℕ → ℕ)
    (origin : ℕ) (file : File) : Prop where
  input : stream bytesRead origins origin actions = file.input
  output : stream bytesWritten origins origin actions = file.output
  slot : ∀ slot, file.slot = some slot ↔ TookFor actions origins origin slot
  own : ∀ (id : ContainerId) (container : DockerContainer),
    world.containers[id]? = some container → container.origin = origin →
      file.container = some id
  container : ∀ id, file.container = some id →
    ∃ container, world.containers[id]? = some container ∧ container.origin = origin ∧
      (container.status = .created ↔ file.started = false) ∧
        (file.started = true → container.bridge.isSome = true) ∧ Asked file container.body
  started : file.started = true → file.container.isSome = true
  key : ∀ keypair, file.keypair = some keypair → Generated actions origins origin keypair
  peer : file.configured = true → PeerConfigured actions origins origin file
  answer : file.output ≠ [] →
    ∃ response, Response int file response ∧ file.output <+: response

variable {panics : DoublePanic} {int : Interface} {actions : List Action} {action : Action}
variable {world world' : World}
variable {origins : ℕ → ℕ} {origin task : ℕ} {file : File} {part : Action → List UInt8}

theorem Generated.snoc {keypair : Keypair}
    (hgenerated : Generated actions origins origin keypair) :
    Generated (actions ++ [action]) origins origin keypair := by
  obtain ⟨task, choice, hmem, horigin⟩ := hgenerated
  exact ⟨task, choice, List.mem_append_left _ hmem, horigin⟩

theorem PeerConfigured.snoc (hpeer : PeerConfigured actions origins origin file) :
    PeerConfigured (actions ++ [action]) origins origin file := by
  obtain ⟨slot, keypair, hslot, hkeypair, task, choice, hmem, horigin⟩ := hpeer
  exact ⟨slot, keypair, hslot, hkeypair, task, choice, List.mem_append_left _ hmem, horigin⟩

theorem stream_snoc :
    stream part origins origin (actions ++ [action]) =
      stream part origins origin actions ++
        if actsFor origins origin action = true then part action else [] := by
  rw [stream, List.flatMap_append, List.flatMap_singleton]
  rfl

theorem stream_of_idle (hidle : actsFor origins origin action = true → part action = []) :
    stream part origins origin (actions ++ [action]) = stream part origins origin actions := by
  rw [stream_snoc]
  split
  · rename_i hacts
    rw [hidle hacts, List.append_nil]
  · exact List.append_nil _

theorem stream_of_acts (hacts : actsFor origins origin action = true) :
    stream part origins origin (actions ++ [action]) =
      stream part origins origin actions ++ part action := by
  rw [stream_snoc, if_pos hacts]

/-- A task acts for its own connection. -/
theorem stream_own {call : Call} {answer : Answer call} {choice : Choice} :
    stream part origins (origins task) (actions ++ [.task (.answer task call answer choice)]) =
      stream part origins (origins task) actions ++
        part (.task (.answer task call answer choice)) :=
  stream_of_acts (decide_eq_true rfl)

theorem exists_of_takes {slot : Slot} (htakes : takes action = some (task, slot)) :
    ∃ choice, action = .task (.answer task (.fetchOr slot) (false : Bool) choice) := by
  cases action with
  | task event =>
      cases event with
      | answer other call answer choice =>
          cases call with
          | fetchOr taken =>
              cases answer with
              | true => cases htakes
              | false =>
                  cases htakes
                  exact ⟨choice, rfl⟩
          | _ => cases htakes
      | _ => cases htakes
  | _ => cases htakes

/-- Whoever takes a slot acts for its connection. -/
theorem actsFor_of_takes {slot : Slot} (htakes : takes action = some (task, slot)) :
    actsFor origins (origins task) action = true := by
  obtain ⟨choice, rfl⟩ := exists_of_takes htakes
  exact decide_eq_true rfl

theorem tookFor_snoc {slot : Slot}
    (htakes : actsFor origins origin action = true → takes action = none) :
    TookFor (actions ++ [action]) origins origin slot ↔ TookFor actions origins origin slot := by
  constructor
  · rintro ⟨task, htook, horigin⟩
    rcases took_snoc htook with hold | hnew
    · exact ⟨task, hold, horigin⟩
    · have hacts := @actsFor_of_takes _ origins _ _ hnew
      rw [horigin] at hacts
      cases (htakes hacts).symm.trans hnew
  · rintro ⟨task, ⟨taken, hmem, htook⟩, horigin⟩
    exact ⟨task, ⟨taken, List.mem_append_left _ hmem, htook⟩, horigin⟩

/-! ## What others do -/

/-- The containers of a connection are the same as before, up to their end. -/
structure Same (world world' : World) (origin : ℕ) : Prop where
  kept : ∀ (id : ContainerId) (container : DockerContainer),
    world.containers[id]? = some container → container.origin = origin →
      ∃ after, world'.containers[id]? = some after ∧ after.origin = origin ∧
        after.body = container.body ∧ after.bridge = container.bridge ∧
          (after.status = .created ↔ container.status = .created)
  old : ∀ (id : ContainerId) (after : DockerContainer),
    world'.containers[id]? = some after → after.origin = origin →
      ∃ container, world.containers[id]? = some container ∧ container.origin = origin

theorem same_of_eq (hcontainers : world'.containers = world.containers) :
    Same world world' origin where
  kept id container hat horigin := by
    rw [hcontainers]
    exact ⟨container, hat, horigin, rfl, rfl, Iff.rfl⟩
  old id after hat horigin := by
    rw [hcontainers] at hat
    exact ⟨after, hat, horigin⟩

/-- The record of one container changes, if it is one of this connection then only
towards its end. -/
theorem same_of_change {id : ContainerId} {change : DockerContainer → DockerContainer}
    (horigin : ∀ container, (change container).origin = container.origin)
    (hbody : ∀ container, (change container).body = container.body)
    (hstatus : ∀ container, world.containers[id]? = some container →
      container.origin = origin → (change container).bridge = container.bridge ∧
        ((change container).status = .created ↔ container.status = .created)) :
    Same world (world.setContainer id change) origin where
  kept other container hat hown := by
    by_cases hother : other = id
    · subst hother
      refine ⟨change container, ?_, (horigin container).trans hown, hbody container,
        hstatus container hat hown⟩
      rw [setContainer_same, hat, Option.map_some]
    · refine ⟨container, ?_, hown, rfl, rfl, Iff.rfl⟩
      rw [setContainer_other hother, hat]
  old other after hat hown := by
    by_cases hother : other = id
    · subst hother
      rw [setContainer_same] at hat
      obtain ⟨container, hcontainer, rfl⟩ := Option.map_eq_some_iff.mp hat
      exact ⟨container, hcontainer, (horigin container).symm.trans hown⟩
    · rw [setContainer_other hother] at hat
      exact ⟨after, hat, hown⟩

theorem same_of_stop {id : ContainerId} :
    Same world (world.setContainer id DockerContainer.stop) origin := by
  apply same_of_change
  · intro container
    unfold DockerContainer.stop
    split <;> rfl
  · intro container
    unfold DockerContainer.stop
    split <;> rfl
  · intro container _ _
    unfold DockerContainer.stop
    split
    · rename_i hrunning
      simp [hrunning]
    · exact ⟨rfl, Iff.rfl⟩

theorem same_of_exit {id : ContainerId} (hrunning : world.isRunning id = true) :
    Same world (world.setContainer id DockerContainer.exit) origin := by
  apply same_of_change
  · exact fun _ => rfl
  · exact fun _ => rfl
  · intro container hat _
    have hstatus : container.status = .running := by
      simpa [World.isRunning, hat] using hrunning
    simp [DockerContainer.exit, hstatus]

/-- Something else happens than a call of this connection that its file notes. -/
theorem Agrees.snoc (hagrees : Agrees int actions world origins origin file)
    (hread : actsFor origins origin action = true → bytesRead action = [])
    (hwritten : actsFor origins origin action = true → bytesWritten action = [])
    (htakes : actsFor origins origin action = true → takes action = none)
    (hsame : Same world world' origin) :
    Agrees int (actions ++ [action]) world' origins origin file where
  input := (stream_of_idle hread).trans hagrees.input
  output := (stream_of_idle hwritten).trans hagrees.output
  slot slot := (hagrees.slot slot).trans (tookFor_snoc htakes).symm
  own id after hat horigin := by
    obtain ⟨container, hcontainer, hown⟩ := hsame.old id after hat horigin
    exact hagrees.own id container hcontainer hown
  container id hid := by
    obtain ⟨container, hat, horigin, hstatus, hbridge, hasked⟩ := hagrees.container id hid
    obtain ⟨after, hafter, hown, hbody, hsameBridge, hcreated⟩ :=
      hsame.kept id container hat horigin
    refine ⟨after, hafter, hown, hcreated.trans hstatus, ?_, ?_⟩
    · rwa [hsameBridge]
    · rwa [hbody]
  started := hagrees.started
  key keypair hkeypair := (hagrees.key keypair hkeypair).snoc
  peer hconfigured := (hagrees.peer hconfigured).snoc
  answer := hagrees.answer

/-! ## One call -/

/-- The calls that are noted in the file of the connection. -/
def isNoted : Call → Bool
  | .read _ => true
  | .write _ => true
  | .fetchOr _ => true
  | .createContainer _ => true
  | .startContainer _ => true
  | .genKeypair => true
  | .configurePeer _ => true
  | _ => false

variable {call : Call} {answer : Answer call} {choice : Choice} {errand : Errand}
variable {id : ContainerId}

theorem pen_of_noted (hnoted : isNoted call = true) (hpre : pre int call errand) :
    errand.pen = true := by
  cases call with
  | read count => exact hpre.pen
  | fetchOr slot => exact hpre.1.pen
  | write bytes => exact hpre.1
  | createContainer body => exact hpre.1.pen
  | startContainer id => exact hpre.1.pen
  | genKeypair => exact hpre.1.pen
  | configurePeer peer => exact hpre.1.pen
  | _ => cases hnoted

/-- Docker's records change only when a container is created, started or stopped. -/
theorem exec_containers (hcreate : ∀ body, call ≠ .createContainer body)
    (hstart : ∀ id, call ≠ .startContainer id) (hstop : ∀ id, call ≠ .stopContainer id)
    (hexec : exec world task call answer choice = some world') :
    world'.containers = world.containers := by
  cases call with
  | createContainer body => exact absurd rfl (hcreate body)
  | startContainer id => exact absurd rfl (hstart id)
  | stopContainer id => exact absurd rfl (hstop id)
  | _ =>
      simp only [exec] at hexec
      repeat' split at hexec
      all_goals cases hexec <;> rfl

/-- A call that is not noted may stop a container, and no more. -/
theorem same_of_not_noted (hnoted : isNoted call = false)
    (hexec : exec world task call answer choice = some world') : Same world world' origin := by
  cases call with
  | stopContainer id =>
      rcases exec_stopContainer hexec with rfl | ⟨rfl, -⟩
      · exact same_of_stop
      · exact same_of_eq rfl
  | createContainer body => cases hnoted
  | startContainer id => cases hnoted
  | _ => exact same_of_eq (exec_containers (by simp) (by simp) (by simp) hexec)

theorem idle_of_not_noted (hnoted : isNoted call = false) :
    bytesRead (.task (.answer task call answer choice)) = [] ∧
      bytesWritten (.task (.answer task call answer choice)) = [] ∧
        takes (.task (.answer task call answer choice)) = none := by
  cases call <;> first | exact ⟨rfl, rfl, rfl⟩ | cases hnoted

theorem full_of_exec (hexec : exec world task call answer choice = some world') :
    Full call answer := by
  cases call with
  | read count =>
      rintro bytes rfl
      simp only [exec] at hexec
      split at hexec
      · assumption
      · cases hexec
  | _ => trivial

/-- The containers after one has been added. -/
theorem containers_concat {containers : List DockerContainer} {added container : DockerContainer}
    (hat : (containers ++ [added])[id]? = some container) :
    containers[id]? = some container ∨ (id = containers.length ∧ container = added) := by
  rw [List.getElem?_append] at hat
  split at hat
  · exact .inl hat
  · rename_i hge
    have hlt := (List.getElem?_eq_some_iff.mp hat).1
    rw [List.length_singleton] at hlt
    have hmem := List.mem_of_getElem? hat
    exact .inr ⟨Nat.le_antisymm (by omega) (by omega), List.mem_singleton.mp hmem⟩

/-- A new container is none of another connection's. -/
theorem same_of_create {body : ContainerCreateBody} (hne : origin ≠ origins task) :
    Same world
      { world with
        containers := world.containers ++ [⟨origins task, body, .created, none⟩] } origin where
  kept id container hat horigin := by
    have hlt := (List.getElem?_eq_some_iff.mp hat).1
    refine ⟨container, ?_, horigin, rfl, rfl, Iff.rfl⟩
    exact (List.getElem?_append_left hlt).trans hat
  old id after hat horigin := by
    rcases containers_concat hat with hold | ⟨-, rfl⟩
    · exact ⟨after, hold, horigin⟩
    · exact absurd horigin.symm hne

/-- What a connection does about its own container is nothing to the others. -/
theorem same_of_other (hagrees : Agrees int actions world origins (origins task) errand.file)
    (hpre : pre int call errand) (hne : origin ≠ origins task)
    (hexec : exec world (origins task) call answer choice = some world') :
    Same world world' origin := by
  cases hnoted : isNoted call with
  | false => exact same_of_not_noted hnoted hexec
  | true =>
      cases call with
      | createContainer body =>
          cases answer with
          | none =>
              cases hexec
              exact same_of_eq rfl
          | some id =>
              obtain ⟨rfl, rfl⟩ := exec_createContainer hexec
              exact same_of_create hne
      | startContainer id =>
          cases answer with
          | false =>
              cases hexec
              exact same_of_eq rfl
          | true =>
              obtain ⟨container, hat, hstatus, rfl⟩ := exec_startContainer hexec
              apply same_of_change
              · exact fun _ => rfl
              · exact fun _ => rfl
              · intro other hother horigin
                obtain ⟨own, hown, htask, -⟩ := hagrees.container id hpre.2.1
                obtain rfl : own = other := Option.some.inj (hown.symm.trans hother)
                exact absurd (horigin.symm.trans htask) hne
      | stopContainer id => cases hnoted
      | _ => exact same_of_eq (exec_containers (by simp) (by simp) (by simp) hexec)

section Own

variable (hagrees : Agrees int actions world origins (origins task) errand.file)

include hagrees

/-- The connection has a call answered that neither reads nor writes nor takes a
slot, and nothing is noted. -/
theorem Agrees.keep (hread : bytesRead (.task (.answer task call answer choice)) = [])
    (hwritten : bytesWritten (.task (.answer task call answer choice)) = [])
    (htakes : takes (.task (.answer task call answer choice)) = none)
    (hsame : Same world world' (origins task)) :
    Agrees int (actions ++ [.task (.answer task call answer choice)]) world' origins
      (origins task) errand.file :=
  hagrees.snoc (fun _ => hread) (fun _ => hwritten) (fun _ => htakes) hsame

theorem Agrees.read {count : ℕ} {bytes : Option (List UInt8)} (hunserved : Unserved errand) :
    Agrees int (actions ++ [.task (.answer task (.read count) bytes choice)]) world origins
      (origins task) (noted (.read count) bytes errand.file) := by
  cases bytes with
  | none => exact hagrees.keep rfl rfl rfl (same_of_eq rfl)
  | some bytes =>
      exact
        { input := by
            rw [stream_own, hagrees.input]
            rfl
          output := (stream_of_idle fun _ => rfl).trans hagrees.output
          slot := fun slot => (hagrees.slot slot).trans (tookFor_snoc fun _ => rfl).symm
          own := hagrees.own
          container := fun id hid => by cases hunserved.container.symm.trans hid
          started := hagrees.started
          key := fun keypair hkeypair => (hagrees.key keypair hkeypair).snoc
          peer := fun hconfigured => by cases hunserved.configured.symm.trans hconfigured
          answer := fun houtput => absurd hunserved.output houtput }

theorem Agrees.write {bytes : List UInt8} {ok : Bool}
    (hpre : pre int (.write bytes) errand) :
    Agrees int (actions ++ [.task (.answer task (.write bytes) ok choice)]) world origins
      (origins task) (noted (.write bytes) ok errand.file) := by
  obtain ⟨-, response, hresponse, hbegins⟩ := hpre
  exact
    { input := (stream_of_idle fun _ => rfl).trans hagrees.input
      output := by
        rw [stream_own, hagrees.output]
        rfl
      slot := fun slot => (hagrees.slot slot).trans (tookFor_snoc fun _ => rfl).symm
      own := hagrees.own
      container := fun id hid => by
        obtain ⟨container, hat, horigin, hstatus, hbridge, hasked⟩ := hagrees.container id hid
        exact ⟨container, hat, horigin, hstatus, hbridge, hasked.congr rfl rfl⟩
      started := hagrees.started
      key := fun keypair hkeypair => (hagrees.key keypair hkeypair).snoc
      peer := fun hconfigured => (hagrees.peer hconfigured).snoc
      answer := fun _ => ⟨response, hresponse.rewritten, hbegins⟩ }

theorem Agrees.fetchOr {slot : Slot} {inUse : Bool} (hpre : pre int (.fetchOr slot) errand)
    (hexec : exec world (origins task) (.fetchOr slot) inUse choice = some world') :
    Agrees int (actions ++ [.task (.answer task (.fetchOr slot) inUse choice)]) world' origins
      (origins task) (noted (.fetchOr slot) inUse errand.file) := by
  obtain ⟨hunserved, -⟩ := hpre
  have hsame : Same world world' (origins task) :=
    same_of_eq (exec_containers (by simp) (by simp) (by simp) hexec)
  cases inUse with
  | true => exact hagrees.keep rfl rfl rfl hsame
  | false =>
      exact
        { input := (stream_of_idle fun _ => rfl).trans hagrees.input
          output := (stream_of_idle fun _ => rfl).trans hagrees.output
          slot := fun taken => by
            constructor
            · intro htaken
              obtain rfl : slot = taken := Option.some.inj htaken
              exact ⟨task, ⟨_, List.mem_append_right _ (List.mem_singleton.mpr rfl), rfl⟩, rfl⟩
            · rintro ⟨taker, htook, horigin⟩
              rcases took_snoc htook with hold | hnew
              · have hslot := (hagrees.slot taken).mpr ⟨taker, hold, horigin⟩
                cases hunserved.slot.symm.trans hslot
              · cases hnew
                rfl
          own := fun id after hat horigin => by
            obtain ⟨container, hcontainer, hown⟩ := hsame.old id after hat horigin
            exact hagrees.own id container hcontainer hown
          container := fun id hid => by cases hunserved.container.symm.trans hid
          started := hagrees.started
          key := fun keypair hkeypair => (hagrees.key keypair hkeypair).snoc
          peer := fun hconfigured => by cases hunserved.configured.symm.trans hconfigured
          answer := fun houtput => absurd hunserved.output houtput }

theorem Agrees.createContainer {body : ContainerCreateBody} {created : Option ContainerId}
    (hpre : pre int (.createContainer body) errand)
    (hexec : exec world (origins task) (.createContainer body) created choice = some world') :
    Agrees int (actions ++ [.task (.answer task (.createContainer body) created choice)]) world'
      origins (origins task) (noted (.createContainer body) created errand.file) := by
  obtain ⟨hsilent, hnone, hasked⟩ := hpre
  have hstarted : errand.file.started = false := by
    by_contra hstarted
    have hsome := hagrees.started (by simpa using hstarted)
    rw [hnone] at hsome
    cases hsome
  cases created with
  | none =>
      cases hexec
      exact hagrees.keep rfl rfl rfl (same_of_eq rfl)
  | some id =>
      obtain ⟨rfl, rfl⟩ := exec_createContainer hexec
      exact
        { input := (stream_of_idle fun _ => rfl).trans hagrees.input
          output := (stream_of_idle fun _ => rfl).trans hagrees.output
          slot := fun slot => (hagrees.slot slot).trans (tookFor_snoc fun _ => rfl).symm
          own := fun id after hat horigin => by
            rcases containers_concat hat with hold | ⟨rfl, -⟩
            · cases hnone.symm.trans (hagrees.own id after hold horigin)
            · rfl
          container := fun id hid => by
            obtain rfl : world.containers.length = id := Option.some.inj hid
            refine ⟨_, List.getElem?_concat_length, rfl, ?_, ?_, hasked.congr rfl rfl⟩
            · exact ⟨fun _ => hstarted, fun _ => rfl⟩
            · intro hnow
              cases hstarted.symm.trans hnow
          started := fun _ => rfl
          key := fun keypair hkeypair => (hagrees.key keypair hkeypair).snoc
          peer := fun hconfigured => (hagrees.peer hconfigured).snoc
          answer := fun houtput => absurd hsilent.output houtput }

theorem Agrees.startContainer {id : ContainerId} {ok : Bool}
    (hpre : pre int (.startContainer id) errand)
    (hexec : exec world (origins task) (.startContainer id) ok choice = some world') :
    Agrees int (actions ++ [.task (.answer task (.startContainer id) ok choice)]) world'
      origins (origins task) (noted (.startContainer id) ok errand.file) := by
  obtain ⟨hsilent, hid, -⟩ := hpre
  cases ok with
  | false =>
      cases hexec
      exact hagrees.keep rfl rfl rfl (same_of_eq rfl)
  | true =>
      obtain ⟨container, hat, -, rfl⟩ := exec_startContainer hexec
      obtain ⟨own, hown, horigin, -, -, hasked⟩ := hagrees.container id hid
      obtain rfl : own = container := Option.some.inj (hown.symm.trans hat)
      exact
        { input := (stream_of_idle fun _ => rfl).trans hagrees.input
          output := (stream_of_idle fun _ => rfl).trans hagrees.output
          slot := fun slot => (hagrees.slot slot).trans (tookFor_snoc fun _ => rfl).symm
          own := fun other after hafter hother => by
            by_cases hne : other = id
            · rw [hne]
              exact hid
            · rw [setContainer_other hne] at hafter
              exact hagrees.own other after hafter hother
          container := fun other hother => by
            obtain rfl : id = other := Option.some.inj (hid.symm.trans hother)
            refine ⟨{ own with status := .running, bridge := some choice.bridge }, ?_, horigin, ?_,
              fun _ => rfl, hasked.congr rfl rfl⟩
            · rw [setContainer_same, hat, Option.map_some]
            · simp [noted]
          started := fun _ => Option.isSome_of_mem hid
          key := fun keypair hkeypair => (hagrees.key keypair hkeypair).snoc
          peer := fun hconfigured => (hagrees.peer hconfigured).snoc
          answer := fun houtput => absurd hsilent.output houtput }

theorem Agrees.genKeypair {keypair : Keypair} (hpre : pre int .genKeypair errand) :
    Agrees int (actions ++ [.task (.answer task .genKeypair keypair choice)]) world origins
      (origins task) (noted .genKeypair keypair errand.file) := by
  obtain ⟨hsilent, hconfigured⟩ := hpre
  have hkept := @Agrees.keep _ _ _ world _ _ .genKeypair keypair choice _ hagrees rfl rfl rfl
    (same_of_eq rfl)
  exact
    { input := hkept.input
      output := hkept.output
      slot := hkept.slot
      own := hkept.own
      container := fun id hid => by
        obtain ⟨container, hat, horigin, hstatus, hbridge, hasked⟩ := hkept.container id hid
        exact ⟨container, hat, horigin, hstatus, hbridge, hasked.congr rfl rfl⟩
      started := hkept.started
      key := fun other hother => by
        obtain rfl : keypair = other := Option.some.inj hother
        exact ⟨task, choice, List.mem_append_right _ (List.mem_singleton.mpr rfl), rfl⟩
      peer := fun hnow => by cases hconfigured.symm.trans hnow
      answer := fun houtput => absurd hsilent.output houtput }

theorem Agrees.configurePeer {peer : Peer} {ok : Bool}
    (hpre : pre int (.configurePeer peer) errand)
    (hexec : exec world (origins task) (.configurePeer peer) ok choice = some world') :
    Agrees int (actions ++ [.task (.answer task (.configurePeer peer) ok choice)]) world'
      origins (origins task) (noted (.configurePeer peer) ok errand.file) := by
  obtain ⟨hsilent, -, -, slot, keypair, hslot, hkeypair, rfl⟩ := hpre
  have hsame : Same world world' (origins task) :=
    same_of_eq (exec_containers (by simp) (by simp) (by simp) hexec)
  have hkept := @Agrees.keep _ _ world world' _ _ (.configurePeer ⟨keypair.pubkey, addrOf slot⟩) ok
    choice _ hagrees rfl rfl rfl hsame
  cases ok with
  | false => exact hkept
  | true =>
      exact
        { input := hkept.input
          output := hkept.output
          slot := hkept.slot
          own := hkept.own
          container := fun id hid => by
            obtain ⟨container, hat, horigin, hstatus, hbridge, hasked⟩ := hkept.container id hid
            exact ⟨container, hat, horigin, hstatus, hbridge, hasked.congr rfl rfl⟩
          started := hkept.started
          key := hkept.key
          peer := fun _ => ⟨slot, keypair, hslot, hkeypair, task, choice,
            List.mem_append_right _ (List.mem_singleton.mpr rfl), rfl⟩
          answer := fun houtput => absurd hsilent.output houtput }

/-- The file notes what a call of its connection has come to. -/
theorem Agrees.answered (hpre : pre int call errand)
    (hexec : exec world (origins task) call answer choice = some world') :
    Agrees int (actions ++ [.task (.answer task call answer choice)]) world' origins
      (origins task) (noted call answer errand.file) := by
  cases call with
  | read count =>
      rw [exec_read hexec]
      exact hagrees.read hpre
  | write bytes =>
      cases hexec
      exact hagrees.write hpre
  | fetchOr slot => exact hagrees.fetchOr hpre hexec
  | createContainer body => exact hagrees.createContainer hpre hexec
  | startContainer id => exact hagrees.startContainer hpre hexec
  | genKeypair =>
      cases hexec
      exact hagrees.genKeypair hpre
  | configurePeer peer => exact hagrees.configurePeer hpre hexec
  | _ => exact hagrees.keep rfl rfl rfl (same_of_not_noted rfl hexec)

end Own

/-! ## All connections -/

/-- The files in use agree with the run; each belongs to one connection, and each
connection has one. -/
structure Filed (int : Interface) (actions : List Action) (daemon : Daemon)
    (errands : ℕ → Errand) : Prop where
  guarded : Guarded (rules int) daemon.tasks errands
  agrees : ∀ task, (errands task).pen = true →
    Agrees int actions daemon.world (originOf daemon.tasks) (originOf daemon.tasks task)
      (errands task).file
  alone : ∀ left right, (errands left).pen = true → (errands right).pen = true →
    originOf daemon.tasks left = originOf daemon.tasks right → left = right
  held : ∀ task < daemon.tasks.length, ∃ holder, (errands holder).pen = true ∧
    originOf daemon.tasks holder = originOf daemon.tasks task
  outside : ∀ task, daemon.tasks.length ≤ task → (errands task).pen = false
  earlier : Earlier daemon.tasks
  past : ∀ task call answer choice, .task (.answer task call answer choice) ∈ actions →
    task < daemon.tasks.length
  owners : ∀ (id : ContainerId) (container : DockerContainer),
    daemon.world.containers[id]? = some container →
      ∃ task < daemon.tasks.length, originOf daemon.tasks task = container.origin

variable {daemon next : Daemon} {errands : ℕ → Errand}

theorem filed_initial : Filed int [] initial fun _ => .idle where
  guarded _ _ hat := by simp [initial] at hat
  agrees _ hpen := by cases hpen
  alone _ _ hpen := by cases hpen
  held _ hlt := by cases hlt
  outside _ _ := rfl
  earlier _ _ hat := by simp [initial] at hat
  past _ _ _ _ hmem := by cases hmem
  owners _ _ hat := by simp [initial, initialWorld] at hat

/-- The main task goes on, or a container exits. -/
theorem Filed.main (hfiled : Filed int actions daemon errands)
    (htasks : next.tasks = daemon.tasks)
    (hacts : ∀ origins origin, actsFor origins origin action = false)
    (hsame : ∀ origin, Same daemon.world next.world origin) :
    Filed int (actions ++ [action]) next errands where
  guarded := by
    rw [htasks]
    exact hfiled.guarded
  agrees task hpen := by
    rw [htasks]
    apply (hfiled.agrees task hpen).snoc _ _ _ (hsame _)
    all_goals
      intro hacting
      rw [hacts] at hacting
      cases hacting
  alone := by
    rw [htasks]
    exact hfiled.alone
  held := by
    rw [htasks]
    exact hfiled.held
  outside := by
    rw [htasks]
    exact hfiled.outside
  earlier := by
    rw [htasks]
    exact hfiled.earlier
  past task call answer choice hmem := by
    rw [htasks]
    rcases List.mem_append.mp hmem with hold | hnew
    · exact hfiled.past task call answer choice hold
    · have hidle := hacts (fun _ => 0) 0
      rw [← List.mem_singleton.mp hnew] at hidle
      cases hidle
  owners id container hat := by
    rw [htasks]
    obtain ⟨before, hbefore, horigin⟩ := (hsame container.origin).old id container hat rfl
    rw [← horigin]
    exact hfiled.owners id before hbefore

/-- What has happened for a connection does not change when a task is added. -/
theorem Agrees.reorigin {origins' : ℕ → ℕ}
    (hagrees : Agrees int actions world origins origin file)
    (hpast : ∀ task call answer choice, .task (.answer task call answer choice) ∈ actions →
      origins' task = origins task) : Agrees int actions world origins' origin file := by
  have hacts : ∀ action ∈ actions,
      actsFor origins' origin action = actsFor origins origin action := by
    intro action hmem
    cases action with
    | task event =>
        cases event with
        | answer task call answer choice =>
            rw [actsFor, actsFor, hpast task call answer choice hmem]
        | _ => rfl
    | _ => rfl
  have hstream : ∀ part,
      stream part origins' origin actions = stream part origins origin actions := by
    intro part
    apply List.flatMap_congr
    intro action hmem
    rw [hacts action hmem]
  have htook : ∀ {task slot}, Took actions task slot → origins' task = origins task := by
    rintro task slot ⟨action, hmem, htakes⟩
    obtain ⟨choice, rfl⟩ := exists_of_takes htakes
    exact hpast _ _ _ _ hmem
  exact
    { hagrees with
      input := (hstream _).trans hagrees.input
      output := (hstream _).trans hagrees.output
      slot := fun slot => by
        rw [hagrees.slot slot]
        constructor
        · rintro ⟨task, htaken, horigin⟩
          exact ⟨task, htaken, (htook htaken).trans horigin⟩
        · rintro ⟨task, htaken, horigin⟩
          exact ⟨task, htaken, (htook htaken).symm.trans horigin⟩
      key := fun keypair hkeypair => by
        obtain ⟨task, choice, hmem, horigin⟩ := hagrees.key keypair hkeypair
        exact ⟨task, choice, hmem, (hpast _ _ _ _ hmem).trans horigin⟩
      peer := fun hconfigured => by
        obtain ⟨slot, keypair, hslot, hkeypair, task, choice, hmem, horigin⟩ :=
          hagrees.peer hconfigured
        exact ⟨slot, keypair, hslot, hkeypair, task, choice, hmem,
          (hpast _ _ _ _ hmem).trans horigin⟩ }

theorem originOf_append {tasks : Tasks challd} {entry : TaskPool.Task challd}
    (hlt : task < tasks.length) : originOf (tasks ++ [entry]) task = originOf tasks task := by
  rw [originOf_concat, update_of_ne (Nat.ne_of_lt hlt)]

/-- A new task has the origin of the task that has spawned it. -/
theorem originOf_spawn {tasks : Tasks challd} {role childRole : Role}
    {program rest child : Prog TaskResult} (hat : tasks[task]? = some ⟨role, origin, program⟩) :
    originOf (tasks.set task ⟨role, origin, rest⟩ ++ [⟨childRole, origin, child⟩]) =
      update (originOf tasks) tasks.length (originOf tasks task) := by
  rw [originOf_concat, originOf_set hat, List.length_set, originOf_eq hat]
  rfl

theorem Filed.lt_of_pen (hfiled : Filed int actions daemon errands)
    (hpen : (errands task).pen = true) : task < daemon.tasks.length := by
  by_contra hout
  rw [hfiled.outside task (Nat.le_of_not_lt hout)] at hpen
  cases hpen

theorem Filed.origin_le (hfiled : Filed int actions daemon errands)
    (hlt : task < daemon.tasks.length) : originOf daemon.tasks task ≤ task := by
  have hat := List.getElem?_eq_getElem hlt
  rw [originOf_eq hat]
  exact hfiled.earlier task _ hat

/-- Nothing has happened yet for a connection that has just been accepted. -/
theorem agrees_fresh
    (hpast : ∀ task call answer choice, .task (.answer task call answer choice) ∈ actions →
      origins task ≠ origin)
    (howners : ∀ (id : ContainerId) (container : DockerContainer),
      world.containers[id]? = some container → container.origin ≠ origin) :
    Agrees int actions world origins origin .blank := by
  have hidle : ∀ action ∈ actions, actsFor origins origin action = false := by
    intro action hmem
    cases action with
    | task event =>
        cases event with
        | answer task call answer choice =>
            exact decide_eq_false (hpast task call answer choice hmem)
        | _ => rfl
    | _ => rfl
  have hstream : ∀ part, stream part origins origin actions = [] := by
    intro part
    apply List.flatMap_eq_nil_iff.mpr
    intro action hmem
    rw [hidle action hmem, if_neg (by decide)]
  exact
    { input := hstream _
      output := hstream _
      slot := fun slot => by
        constructor
        · intro hslot
          cases hslot
        · rintro ⟨task, ⟨action, hmem, htakes⟩, rfl⟩
          have hacts := @actsFor_of_takes _ origins _ _ htakes
          rw [hidle action hmem] at hacts
          cases hacts
      own := fun id container hat horigin => absurd horigin (howners id container hat)
      container := fun id hid => by cases hid
      started := fun hstarted => by cases hstarted
      key := fun keypair hkeypair => by cases hkeypair
      peer := fun hconfigured => by cases hconfigured
      answer := fun houtput => absurd rfl houtput }

theorem Filed.accept (hfiled : Filed int actions daemon errands) :
    Filed int (actions ++ [.accept])
      { daemon with
        tasks := daemon.tasks ++ [⟨.connection, daemon.tasks.length, connection int⟩] }
      (update errands daemon.tasks.length .fresh) := by
  have hnew : originOf
      (daemon.tasks ++ [⟨.connection, daemon.tasks.length, connection int⟩])
      daemon.tasks.length = daemon.tasks.length := by
    rw [originOf_concat, update_self]
  have hpast : ∀ task call answer choice,
      .task (.answer task call answer choice) ∈ actions ++ [Action.accept] →
        task < daemon.tasks.length := by
    intro task call answer choice hmem
    rcases List.mem_append.mp hmem with hold | hlast
    · exact hfiled.past task call answer choice hold
    · cases List.mem_singleton.mp hlast
  have hpen : ∀ {task}, task ≠ daemon.tasks.length →
      (update errands daemon.tasks.length .fresh task).pen = true →
        (errands task).pen = true ∧ task < daemon.tasks.length := by
    intro task hne htask
    rw [update_of_ne hne] at htask
    exact ⟨htask, hfiled.lt_of_pen htask⟩
  refine ⟨hfiled.guarded.concat (wp_connection int), ?_, ?_, ?_, ?_, ?_, ?_, ?_⟩
  · intro task htask
    by_cases hne : task = daemon.tasks.length
    · subst hne
      rw [update_self]
      show Agrees int _ daemon.world _ (originOf _ daemon.tasks.length) _
      rw [hnew]
      apply agrees_fresh
      · intro task call answer choice hmem
        have hlt := hpast task call answer choice hmem
        rw [originOf_append hlt]
        exact Nat.ne_of_lt ((hfiled.origin_le hlt).trans_lt hlt)
      · intro id container hat
        obtain ⟨task, hlt, horigin⟩ := hfiled.owners id container hat
        rw [← horigin]
        exact Nat.ne_of_lt ((hfiled.origin_le hlt).trans_lt hlt)
    · obtain ⟨hold, hlt⟩ := hpen hne htask
      rw [update_of_ne hne]
      show Agrees int _ daemon.world _ (originOf _ task) _
      rw [originOf_append hlt]
      have hkept : Agrees int (actions ++ [.accept]) daemon.world (originOf daemon.tasks)
          (originOf daemon.tasks task) (errands task).file :=
        (hfiled.agrees task hold).snoc (by simp [actsFor]) (by simp [actsFor])
          (by simp [actsFor]) (same_of_eq rfl)
      apply hkept.reorigin
      intro other call answer choice hmem
      exact originOf_append (hpast other call answer choice hmem)
  · have hnot : ∀ {task}, task ≠ daemon.tasks.length →
        (update errands daemon.tasks.length .fresh task).pen = true →
          originOf (daemon.tasks ++ [⟨.connection, daemon.tasks.length, connection int⟩]) task ≠
            daemon.tasks.length := by
      intro task hne htask
      have hlt := (hpen hne htask).2
      rw [originOf_append hlt]
      exact Nat.ne_of_lt ((hfiled.origin_le hlt).trans_lt hlt)
    intro left right hleft hright horigin
    by_cases hl : left = daemon.tasks.length <;> by_cases hr : right = daemon.tasks.length
    · rw [hl, hr]
    · rw [hl] at horigin
      exact absurd (horigin.symm.trans hnew) (hnot hr hright)
    · rw [hr] at horigin
      exact absurd (horigin.trans hnew) (hnot hl hleft)
    · obtain ⟨hold, hlt⟩ := hpen hl hleft
      obtain ⟨hold', hlt'⟩ := hpen hr hright
      apply hfiled.alone left right hold hold'
      rwa [← originOf_append hlt, ← originOf_append hlt']
  · intro task hlt
    rw [List.length_append, List.length_singleton] at hlt
    by_cases hne : task = daemon.tasks.length
    · refine ⟨daemon.tasks.length, ?_, ?_⟩
      · rw [update_self]
        rfl
      · rw [hne]
    · have hold : task < daemon.tasks.length := by omega
      obtain ⟨holder, hholder, horigin⟩ := hfiled.held task hold
      have hholderLt := hfiled.lt_of_pen hholder
      refine ⟨holder, ?_, ?_⟩
      · rw [update_of_ne (Nat.ne_of_lt hholderLt)]
        exact hholder
      · rwa [originOf_append hholderLt, originOf_append hold]
  · intro task hout
    rw [List.length_append, List.length_singleton] at hout
    rw [update_of_ne (by omega)]
    exact hfiled.outside task (by omega)
  · intro task entry hat
    rcases at_concat hat with ⟨rfl, rfl⟩ | ⟨-, hold⟩
    · exact le_rfl
    · exact hfiled.earlier task entry hold
  · intro task call answer choice hmem
    have hlt := hpast task call answer choice hmem
    rw [List.length_append]
    omega
  · intro id container hat
    obtain ⟨task, hlt, horigin⟩ := hfiled.owners id container hat
    refine ⟨task, ?_, ?_⟩
    · rw [List.length_append]
      omega
    · rwa [originOf_append hlt]

/-- A task goes on with the same pen. -/
theorem Filed.goOn {old new : TaskPool.Task challd} {errand : Errand} {world : World}
    (hfiled : Filed int actions daemon errands) (hat : daemon.tasks[task]? = some old)
    (horigin : new.origin = old.origin) (hpen : errand.pen = (errands task).pen)
    (hguarded : Guarded (rules int) (daemon.tasks.set task new) (update errands task errand))
    (hagrees : ∀ other, (errands other).pen = true →
      Agrees int (actions ++ [action]) world (originOf daemon.tasks)
        (originOf daemon.tasks other) (update errands task errand other).file)
    (hacts : ∀ actor call answer choice, action = .task (.answer actor call answer choice) →
      actor = task)
    (howners : ∀ (id : ContainerId) (container : DockerContainer),
      world.containers[id]? = some container →
        ∃ task < daemon.tasks.length, originOf daemon.tasks task = container.origin) :
    Filed int (actions ++ [action])
      { daemon with world := world, tasks := daemon.tasks.set task new }
      (update errands task errand) := by
  have hlt := (List.getElem?_eq_some_iff.mp hat).1
  have hsame : originOf (daemon.tasks.set task new) = originOf daemon.tasks :=
    originOf_set hat horigin
  have hpens : ∀ other, (update errands task errand other).pen = (errands other).pen := by
    intro other
    by_cases hother : other = task
    · rw [hother, update_self, hpen]
    · rw [update_of_ne hother]
  exact
    { guarded := hguarded
      agrees := fun other hother => by
        show Agrees int _ world (originOf (daemon.tasks.set task new))
          (originOf (daemon.tasks.set task new) other) _
        rw [hsame]
        rw [hpens] at hother
        exact hagrees other hother
      alone := fun left right hleft hright hequal => by
        rw [hpens] at hleft hright
        rw [hsame] at hequal
        exact hfiled.alone left right hleft hright hequal
      held := fun other hother => by
        rw [List.length_set] at hother
        obtain ⟨holder, hholder, hequal⟩ := hfiled.held other hother
        refine ⟨holder, (hpens holder).trans hholder, ?_⟩
        rwa [hsame]
      outside := fun other hout => by
        rw [List.length_set] at hout
        exact (hpens other).trans (hfiled.outside other hout)
      earlier := earlier_set hfiled.earlier hat horigin
      past := fun other call answer choice hmem => by
        rw [List.length_set]
        rcases List.mem_append.mp hmem with hold | hnew
        · exact hfiled.past other call answer choice hold
        · rw [hacts other call answer choice (List.mem_singleton.mp hnew).symm]
          exact hlt
      owners := fun id container hcontainer => by
        rw [List.length_set, hsame]
        exact howners id container hcontainer }

/-- A call is answered; it is noted in the file of its connection. -/
theorem Filed.answered {role : Role} {rest : Answer call → Prog TaskResult}
    (hfiled : Filed int actions daemon errands)
    (hat : daemon.tasks[task]? = some ⟨role, origin, .call (S := challd) call rest⟩)
    (hexec : exec daemon.world origin call answer choice = some world) :
    Filed int (actions ++ [.task (.answer task call answer choice)])
      { daemon with
        world := world
        tasks := daemon.tasks.set task ⟨role, origin, rest answer⟩ }
      (update errands task
        { errands task with file := noted call answer (errands task).file }) := by
  have hlt := (List.getElem?_eq_some_iff.mp hat).1
  have hpre : pre int call (errands task) := hfiled.guarded.pre hat
  have hcall := exec_originOf hat hexec
  have hsame : ∀ other, other ≠ originOf daemon.tasks task → Same daemon.world world other := by
    intro other hne
    cases hnoted : isNoted call with
    | false => exact same_of_not_noted hnoted hcall
    | true => exact same_of_other (hfiled.agrees task (pen_of_noted hnoted hpre)) hpre hne hcall
  apply hfiled.goOn hat
  · rfl
  · rfl
  · exact hfiled.guarded.answer hat ⟨full_of_exec hexec, rfl⟩
  · intro other hother
    by_cases hself : other = task
    · subst hself
      rw [update_self]
      exact (hfiled.agrees other hother).answered hpre hcall
    · rw [update_of_ne hself]
      cases hnoted : isNoted call with
      | false =>
          obtain ⟨hread, hwritten, htakes⟩ := @idle_of_not_noted task _ answer choice hnoted
          exact (hfiled.agrees other hother).snoc (fun _ => hread) (fun _ => hwritten)
            (fun _ => htakes) (same_of_not_noted hnoted hcall)
      | true =>
          have hne : originOf daemon.tasks other ≠ originOf daemon.tasks task := fun hequal =>
            hself (hfiled.alone other task hother (pen_of_noted hnoted hpre) hequal)
          have hidle : actsFor (originOf daemon.tasks) (originOf daemon.tasks other)
              (.task (.answer task call answer choice)) ≠ true := fun hacts =>
            hne (of_decide_eq_true hacts).symm
          exact (hfiled.agrees other hother).snoc (fun h => absurd h hidle)
            (fun h => absurd h hidle) (fun h => absurd h hidle) (hsame _ hne)
  · rintro actor call' answer' choice' hequal
    cases hequal
    rfl
  · intro id container hcontainer
    by_cases hown : container.origin = originOf daemon.tasks task
    · exact ⟨task, hlt, hown.symm⟩
    · obtain ⟨before, hbefore, horigin⟩ := (hsame _ hown).old id container hcontainer rfl
      rw [← horigin]
      exact hfiled.owners id before hbefore

theorem Filed.joined {role : Role} {awaited : ℕ}
    {rest : Option TaskResult → Prog TaskResult} {outcome : Option TaskResult}
    (hfiled : Filed int actions daemon errands)
    (hat : daemon.tasks[task]? = some ⟨role, origin, .join (S := challd) awaited rest⟩) :
    Filed int (actions ++ [.task (.join task)])
      { daemon with tasks := daemon.tasks.set task ⟨role, origin, rest outcome⟩ }
      (update errands task { errands task with child := none }) := by
  apply hfiled.goOn hat
  · rfl
  · rfl
  · exact hfiled.guarded.join outcome hat
  · intro other hother
    have hkept : Agrees int (actions ++ [.task (.join task)]) daemon.world
        (originOf daemon.tasks) (originOf daemon.tasks other) (errands other).file :=
      (hfiled.agrees other hother).snoc (by simp [actsFor]) (by simp [actsFor])
        (by simp [actsFor]) (same_of_eq rfl)
    by_cases hself : other = task
    · subst hself
      rwa [update_self]
    · rwa [update_of_ne hself]
  · intro actor call answer choice hequal
    cases hequal
  · exact hfiled.owners

/-- One of parent and child has the parent's pen, and its file. -/
structure Passes (errand kept given : Errand) : Prop where
  stays : kept.pen = true → errand.pen = true ∧ kept.file = errand.file
  goes : given.pen = true → errand.pen = true ∧ given.file = errand.file
  one : kept.pen = true → given.pen ≠ true
  some : errand.pen = true → kept.pen = true ∨ given.pen = true

theorem passes_spawn {role : Role} {fresh : ℕ} (hspawnable : (rules int).spawnable role errand) :
    Passes errand ((rules int).keep role errand fresh) ((rules int).give role errand) := by
  cases role with
  | connection => exact hspawnable.elim
  | request | writer =>
      exact
        { stays := fun hpen => by cases hpen
          goes := fun hpen => ⟨hpen, rfl⟩
          one := fun hpen => by cases hpen
          some := .inr }
  | teardown =>
      exact
        { stays := fun hpen => ⟨hpen, rfl⟩
          goes := fun hpen => by cases hpen
          one := fun _ hpen => by cases hpen
          some := .inl }

/-- A task of the pool after a spawn that has a pen, and who had it before. -/
theorem pen_spawn {fresh other : ℕ} {kept given : Errand} (hne : task ≠ fresh)
    (hpasses : Passes (errands task) kept given)
    (hpen : (update (update errands task kept) fresh given other).pen = true) :
    (other = fresh ∧ given.pen = true ∧ (errands task).pen = true ∧
        (update (update errands task kept) fresh given other).file = (errands task).file) ∨
      (other ≠ fresh ∧ (other = task → kept.pen = true) ∧ (errands other).pen = true ∧
        (update (update errands task kept) fresh given other).file = (errands other).file) := by
  by_cases hfresh : other = fresh
  · subst hfresh
    rw [update_self] at hpen ⊢
    exact .inl ⟨rfl, hpen, hpasses.goes hpen⟩
  · rw [update_of_ne hfresh] at hpen ⊢
    by_cases hself : other = task
    · subst hself
      rw [update_self] at hpen ⊢
      obtain ⟨hold, hfile⟩ := hpasses.stays hpen
      exact .inr ⟨hfresh, fun _ => hpen, hold, hfile⟩
    · rw [update_of_ne hself] at hpen ⊢
      exact .inr ⟨hfresh, fun hequal => absurd hequal hself, hpen, rfl⟩

section Spawn

variable {kept given : Errand}
variable (hfiled : Filed int actions daemon errands) (hlt : task < daemon.tasks.length)
variable (hpasses : Passes (errands task) kept given)

/-- The tasks that were there keep their origins. -/
theorem origin_before {tasks : Tasks challd} {other : ℕ} (hother : other < tasks.length) :
    update (originOf tasks) tasks.length (originOf tasks task) other = originOf tasks other :=
  update_of_ne (Nat.ne_of_lt hother) ..

include hfiled in
theorem Filed.past_spawn {other : ℕ} {call : Call} {answer : Answer call} {choice : Choice}
    (hmem : .task (.answer other call answer choice) ∈ actions ++ [Action.task (.spawn task)]) :
    other < daemon.tasks.length := by
  rcases List.mem_append.mp hmem with hold | hlast
  · exact hfiled.past other call answer choice hold
  · cases List.mem_singleton.mp hlast

include hfiled in
theorem Filed.agrees_spawn {other : ℕ} (hother : (errands other).pen = true) :
    Agrees int (actions ++ [.task (.spawn task)]) daemon.world
      (update (originOf daemon.tasks) daemon.tasks.length (originOf daemon.tasks task))
      (originOf daemon.tasks other) (errands other).file := by
  have hsnoc : Agrees int (actions ++ [.task (.spawn task)]) daemon.world
      (originOf daemon.tasks) (originOf daemon.tasks other) (errands other).file :=
    (hfiled.agrees other hother).snoc (by simp [actsFor]) (by simp [actsFor])
      (by simp [actsFor]) (same_of_eq rfl)
  apply hsnoc.reorigin
  exact fun actor call answer choice hmem => origin_before (hfiled.past_spawn hmem)

include hfiled hlt hpasses

/-- There is still one pen for each connection. -/
theorem Filed.alone_spawn {left right : ℕ}
    (hleft : (update (update errands task kept) daemon.tasks.length given left).pen = true)
    (hright : (update (update errands task kept) daemon.tasks.length given right).pen = true)
    (hequal : update (originOf daemon.tasks) daemon.tasks.length (originOf daemon.tasks task) left =
      update (originOf daemon.tasks) daemon.tasks.length (originOf daemon.tasks task) right) :
    left = right := by
  have hpen := fun {other} => @pen_spawn _ errands daemon.tasks.length other kept given
    (Nat.ne_of_lt hlt) hpasses
  rcases hpen hleft with ⟨rfl, hgiven, hparent, -⟩ | ⟨hl, hlself, hlpen, -⟩ <;>
    rcases hpen hright with ⟨rfl, hgiven', hparent', -⟩ | ⟨hr, hrself, hrpen, -⟩
  · rfl
  · rw [update_self, origin_before (hfiled.lt_of_pen hrpen)] at hequal
    have hsame := hfiled.alone task right hparent hrpen hequal
    exact absurd hgiven (hpasses.one (hrself hsame.symm))
  · rw [update_self, origin_before (hfiled.lt_of_pen hlpen)] at hequal
    have hsame := hfiled.alone left task hlpen hparent' hequal
    exact absurd hgiven' (hpasses.one (hlself hsame))
  · rw [origin_before (hfiled.lt_of_pen hlpen), origin_before (hfiled.lt_of_pen hrpen)] at hequal
    exact hfiled.alone left right hlpen hrpen hequal

/-- The pen of each connection is still held. -/
theorem Filed.held_spawn {other : ℕ} (hother : other < daemon.tasks.length) :
    ∃ holder, (update (update errands task kept) daemon.tasks.length given holder).pen = true ∧
      update (originOf daemon.tasks) daemon.tasks.length (originOf daemon.tasks task) holder =
        originOf daemon.tasks other := by
  obtain ⟨holder, hholder, hequal⟩ := hfiled.held other hother
  have hholderLt := hfiled.lt_of_pen hholder
  by_cases hself : holder = task
  · subst hself
    rcases hpasses.some hholder with hpen | hpen
    · refine ⟨holder, ?_, (origin_before hholderLt).trans hequal⟩
      rwa [update_of_ne (Nat.ne_of_lt hholderLt), update_self]
    · refine ⟨daemon.tasks.length, ?_, ?_⟩
      · rwa [update_self]
      · rwa [update_self]
  · refine ⟨holder, ?_, (origin_before hholderLt).trans hequal⟩
    rwa [update_of_ne (Nat.ne_of_lt hholderLt), update_of_ne hself]

end Spawn

theorem Filed.spawned {role childRole : Role} {child : Prog TaskResult}
    {rest : ℕ → Prog TaskResult} (hfiled : Filed int actions daemon errands)
    (hat : daemon.tasks[task]? =
      some ⟨role, origin, .spawn (S := challd) childRole child rest⟩) :
    Filed int (actions ++ [.task (.spawn task)])
      { daemon with
        tasks := daemon.tasks.set task ⟨role, origin, rest daemon.tasks.length⟩ ++
          [⟨childRole, origin, child⟩] }
      (update
        (update errands task ((rules int).keep childRole (errands task) daemon.tasks.length))
        daemon.tasks.length ((rules int).give childRole (errands task))) := by
  have hlt : task < daemon.tasks.length := (List.getElem?_eq_some_iff.mp hat).1
  have hpasses := @passes_spawn int _ childRole daemon.tasks.length (hfiled.guarded task _ hat).1
  have horigins : originOf
      (daemon.tasks.set task ⟨role, origin, rest daemon.tasks.length⟩ ++
        [⟨childRole, origin, child⟩]) =
      update (originOf daemon.tasks) daemon.tasks.length (originOf daemon.tasks task) :=
    originOf_spawn hat
  have hguarded := hfiled.guarded.spawn hat
  revert hguarded
  generalize (rules int).keep childRole (errands task) daemon.tasks.length = kept at hpasses ⊢
  generalize (rules int).give childRole (errands task) = given at hpasses ⊢
  intro hguarded
  refine ⟨hguarded, ?_, ?_, ?_, ?_, ?_, ?_, ?_⟩
  · intro other hother
    show Agrees int _ daemon.world (originOf (_ ++ _)) (originOf (_ ++ _) other) _
    rw [horigins]
    rcases pen_spawn (Nat.ne_of_lt hlt) hpasses hother with
      ⟨rfl, -, hparent, hfile⟩ | ⟨hne, -, hbefore, hfile⟩
    · rw [hfile, update_self]
      exact hfiled.agrees_spawn hparent
    · rw [hfile, origin_before (hfiled.lt_of_pen hbefore)]
      exact hfiled.agrees_spawn hbefore
  · intro left right hleft hright hequal
    rw [horigins] at hequal
    exact hfiled.alone_spawn hlt hpasses hleft hright hequal
  · intro other hother
    rw [List.length_append, List.length_set, List.length_singleton] at hother
    rw [horigins]
    by_cases hfresh : other = daemon.tasks.length
    · rw [hfresh, update_self]
      exact hfiled.held_spawn hlt hpasses hlt
    · have hbefore : other < daemon.tasks.length := by omega
      rw [origin_before hbefore]
      exact hfiled.held_spawn hlt hpasses hbefore
  · intro other hout
    rw [List.length_append, List.length_set, List.length_singleton] at hout
    rw [update_of_ne (by omega), update_of_ne (by omega)]
    exact hfiled.outside other (by omega)
  · have hset : Earlier (daemon.tasks.set task ⟨role, origin, rest daemon.tasks.length⟩) :=
      earlier_set hfiled.earlier hat rfl
    have hparent : origin ≤ task := hfiled.earlier task _ hat
    intro other entry hother
    rcases at_concat hother with ⟨rfl, rfl⟩ | ⟨-, hbefore⟩
    · rw [List.length_set]
      exact hparent.trans hlt.le
    · exact hset other entry hbefore
  · intro other call answer choice hmem
    have hother := hfiled.past_spawn hmem
    rw [List.length_append, List.length_set]
    omega
  · intro id container hcontainer
    obtain ⟨owner, howner, horigin⟩ := hfiled.owners id container hcontainer
    refine ⟨owner, ?_, ?_⟩
    · rw [List.length_append, List.length_set]
      omega
    · rw [horigins, origin_before howner]
      exact horigin

theorem Filed.step (hfiled : Filed int actions daemon errands)
    (hstep : Step panics int daemon action next) :
    ∃ errands', Filed int (actions ++ [action]) next errands' := by
  cases hstep with
  | accept hphase => exact ⟨_, hfiled.accept⟩
  | signal | cancel | close | wait | leave | abort =>
      exact ⟨errands, hfiled.main rfl (fun _ _ => rfl) fun _ => same_of_eq rfl⟩
  | containerExit hphase hrunning =>
      exact ⟨errands, hfiled.main rfl (fun _ _ => rfl) fun _ => same_of_exit hrunning⟩
  | task hphase hpanics hpool =>
      cases hpool with
      | answer hat hexec => exact ⟨_, hfiled.answered hat hexec⟩
      | spawn hat => exact ⟨_, hfiled.spawned hat⟩
      | join hat hother hended => exact ⟨_, hfiled.joined hat⟩

theorem filed_of_run (hrun : Runs panics int actions daemon) :
    ∃ errands, Filed int actions daemon errands := by
  apply Run.history (fun actions daemon => ∃ errands, Filed int actions daemon errands) _ _ hrun
  · exact ⟨_, filed_initial⟩
  · rintro actions before action after ⟨errands, hfiled⟩ hstep
    exact hfiled.step hstep

/-! ## What has been asked for -/

/-- The container is the one that its connection's request asks for: the request
is all that the connection has read, its image, ports and limits are those of the
container, and the address is that of the slot that the connection has taken, in guest
mode and only then. -/
structure AskedFor (actions : List Action) (daemon : Daemon) (container : DockerContainer)
    (request : Request) (maybeSlot : Option Slot) : Prop where
  encodable : request.Encodable
  input : stream bytesRead (originOf daemon.tasks) container.origin actions = request.bytes
  mode : maybeSlot.isSome = isGuest request.mode
  slot : ∀ slot, maybeSlot = some slot ↔
    TookFor actions (originOf daemon.tasks) container.origin slot
  body : ∃ bindings, Describes request.imageName bindings container.body ∧
    Publishes request.ports (maybeSlot.map fun slot => UInt8.ofNat slot.val + 1) bindings

/-- The file of the connection that a container belongs to. -/
theorem Filed.owner (hfiled : Filed int actions daemon errands) {container : DockerContainer}
    (hat : daemon.world.containers[id]? = some container) :
    ∃ file, file.container = some id ∧
      Agrees int actions daemon.world (originOf daemon.tasks) container.origin file := by
  obtain ⟨task, hlt, horigin⟩ := hfiled.owners id container hat
  obtain ⟨holder, hpen, hequal⟩ := hfiled.held task hlt
  have hagrees := hfiled.agrees holder hpen
  rw [hequal, horigin] at hagrees
  exact ⟨_, hagrees.own id container hat rfl, hagrees⟩

theorem Filed.askedFor (hfiled : Filed int actions daemon errands)
    {container : DockerContainer} (hat : daemon.world.containers[id]? = some container) :
    ∃ request maybeSlot, AskedFor actions daemon container request maybeSlot := by
  obtain ⟨file, hid, hagrees⟩ := hfiled.owner hat
  obtain ⟨own, hown, -, -, -, request, hdecoded, hbody⟩ := hagrees.container id hid
  obtain rfl : own = container := Option.some.inj (hown.symm.trans hat)
  refine ⟨request, file.slot, hdecoded.encodable, hagrees.input.trans hdecoded.input,
    hdecoded.slot, hagrees.slot, intoHashmap request.ports (file.slot.map addrOf), ?_,
    publishes_intoHashmap⟩
  rw [hbody]
  exact describes_createBody

/-- No connection has two containers. -/
theorem Filed.eq_of_origin (hfiled : Filed int actions daemon errands) {id' : ContainerId}
    {container container' : DockerContainer}
    (hat : daemon.world.containers[id]? = some container)
    (hat' : daemon.world.containers[id']? = some container')
    (horigin : container.origin = container'.origin) : id = id' := by
  obtain ⟨file, hid, hagrees⟩ := hfiled.owner hat
  have hid' := hagrees.own id' container' hat' horigin.symm
  exact Option.some.inj (hid.symm.trans hid')

/-- In every run every container was asked for by the request of its connection,
and no connection has two. -/
theorem containers_asked_for (hrun : Runs panics int actions daemon) :
    (∀ (id : ContainerId) (container : DockerContainer),
      daemon.world.containers[id]? = some container →
        ∃ request maybeSlot, AskedFor actions daemon container request maybeSlot) ∧
    ∀ (id id' : ContainerId) (container container' : DockerContainer),
      daemon.world.containers[id]? = some container →
        daemon.world.containers[id']? = some container' →
          container.origin = container'.origin → id = id' := by
  obtain ⟨errands, hfiled⟩ := filed_of_run hrun
  constructor
  · exact fun id container hat => hfiled.askedFor hat
  · exact fun id id' container container' hat hat' horigin =>
      hfiled.eq_of_origin hat hat' horigin

theorem exists_of_isRunning (hrunning : world.isRunning id = true) :
    ∃ container, world.containers[id]? = some container := by
  unfold World.isRunning at hrunning
  split at hrunning
  · exact ⟨_, ‹_›⟩
  · cases hrunning

theorem containers_asked_for_guest : ∃ actions daemon container request maybeSlot,
    Runs .abortsProcess ⟨""⟩ actions daemon ∧ daemon.world.containers[0]? = some container ∧
      AskedFor actions daemon container request maybeSlot := by
  rcases exists_run .abortsProcess ⟨""⟩ (Script.guest {} 0 0)
    (fun daemon => daemon.world.isRunning 0) (by rfl) with ⟨actions, daemon, hrun, htest⟩
  obtain ⟨container, hat⟩ := exists_of_isRunning htest
  obtain ⟨request, maybeSlot, hasked⟩ := (containers_asked_for hrun).1 0 container hat
  exact ⟨actions, daemon, container, request, maybeSlot, hrun, hat, hasked⟩

/-! ## What has been answered -/

/-- No container has been created for the connection. -/
def Unserviced (daemon : Daemon) (origin : ℕ) : Prop :=
  ∀ (id : ContainerId) (container : DockerContainer),
    daemon.world.containers[id]? = some container → container.origin ≠ origin

/-- The container of the connection has been started. -/
def Started (daemon : Daemon) (origin : ℕ) : Prop :=
  ∃ (id : ContainerId) (container : DockerContainer),
    daemon.world.containers[id]? = some container ∧ container.origin = origin ∧
      container.status ≠ .created

/-- A response and what has happened to deserve it. -/
inductive Deserved (int : Interface) (actions : List Action) (daemon : Daemon) (origin : ℕ) :
    List UInt8 → Prop
  | invalid {code : UInt8} (hunserviced : Unserviced daemon origin)
      (hcode : code = resultMalformedRequest ∨ code = resultInvalidPort) :
      Deserved int actions daemon origin [code]
  | busy {request : Request} (hunserviced : Unserviced daemon origin)
      (hencodable : request.Encodable)
      (hinput : stream bytesRead (originOf daemon.tasks) origin actions = request.bytes)
      (hguest : isGuest request.mode = true) :
      Deserved int actions daemon origin [resultBusy]
  | demo (hstarted : Started daemon origin)
      (hslot : ∀ slot, ¬ TookFor actions (originOf daemon.tasks) origin slot) :
      Deserved int actions daemon origin [resultOk]
  | guest {slot : Slot} {keypair : Keypair} (hstarted : Started daemon origin)
      (hslot : TookFor actions (originOf daemon.tasks) origin slot)
      (hgenerated : Generated actions (originOf daemon.tasks) origin keypair)
      (hconfigured : Configured actions (originOf daemon.tasks) origin
        ⟨keypair.pubkey, addrOf slot⟩) :
      Deserved int actions daemon origin (resultOk :: configBytes (config int slot keypair))

theorem Agrees.started_of
    (hagrees : Agrees int actions daemon.world (originOf daemon.tasks) origin file)
    (hstarted : file.started = true) : Started daemon origin := by
  obtain ⟨id, hid⟩ := Option.isSome_iff_exists.mp (hagrees.started hstarted)
  obtain ⟨container, hat, horigin, hstatus, -⟩ := hagrees.container id hid
  refine ⟨id, container, hat, horigin, fun hcreated => ?_⟩
  rw [hstatus.mp hcreated] at hstarted
  cases hstarted

/-- What a file entitles to has been deserved. -/
theorem Agrees.deserved
    (hagrees : Agrees int actions daemon.world (originOf daemon.tasks) origin file)
    {response : List UInt8} (hresponse : Response int file response) :
    Deserved int actions daemon origin response := by
  have hunserviced : file.container = none → Unserviced daemon origin := by
    intro hnone id container hat horigin
    cases hnone.symm.trans (hagrees.own id container hat horigin)
  cases hresponse with
  | invalid _ hcontainer hcode => exact .invalid (hunserviced hcontainer) hcode
  | busy _ hcontainer hencodable hinput hguest =>
      exact .busy (hunserviced hcontainer) hencodable (hagrees.input.trans hinput) hguest
  | demo hslot hstarted =>
      refine .demo (hagrees.started_of hstarted) fun slot htook => ?_
      cases hslot.symm.trans ((hagrees.slot slot).mpr htook)
  | @guest slot keypair hslot hstarted hkeypair hconfigured =>
      obtain ⟨slot', keypair', hslot', hkeypair', hpeer⟩ := hagrees.peer hconfigured
      obtain rfl : slot = slot' := Option.some.inj (hslot.symm.trans hslot')
      obtain rfl : keypair = keypair' := Option.some.inj (hkeypair.symm.trans hkeypair')
      exact .guest (hagrees.started_of hstarted) ((hagrees.slot slot).mp hslot)
        (hagrees.key keypair hkeypair) hpeer

/-- Only tasks of the daemon read and write. -/
theorem Filed.exists_of_stream (hfiled : Filed int actions daemon errands)
    (hstream : stream part (originOf daemon.tasks) origin actions ≠ []) :
    ∃ task < daemon.tasks.length, originOf daemon.tasks task = origin := by
  by_contra hnone
  apply hstream
  apply List.flatMap_eq_nil_iff.mpr
  intro action hmem
  apply if_neg
  intro hacts
  cases action with
  | task event =>
      cases event with
      | answer task call answer choice =>
          exact hnone ⟨task, hfiled.past task call answer choice hmem, of_decide_eq_true hacts⟩
      | _ => cases hacts
  | _ => cases hacts

theorem Filed.deserved (hfiled : Filed int actions daemon errands)
    (hanswered : stream bytesWritten (originOf daemon.tasks) origin actions ≠ []) :
    ∃ response, Deserved int actions daemon origin response ∧
      stream bytesWritten (originOf daemon.tasks) origin actions <+: response := by
  obtain ⟨task, hlt, horigin⟩ := hfiled.exists_of_stream hanswered
  obtain ⟨holder, hpen, hequal⟩ := hfiled.held task hlt
  have hagrees := hfiled.agrees holder hpen
  rw [hequal, horigin] at hagrees
  rw [hagrees.output] at hanswered ⊢
  obtain ⟨response, hresponse, hbegins⟩ := hagrees.answer hanswered
  exact ⟨response, hagrees.deserved hresponse, hbegins⟩

/-- A guest comes up, and its connection is told the configuration. -/
def toldGuest : List Move := Script.guest {} 0 0 ++ Script.steps {} 4 3

/-- What that guest is told. -/
def toldBytes : List UInt8 := resultOk :: configBytes (config ⟨""⟩ firstSlot ⟨[1], [10]⟩)

end ScdtServer.Records
