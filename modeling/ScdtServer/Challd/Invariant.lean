import ScdtServer.Core.Ownership
import ScdtServer.Challd.TaskSpecs

/-!
# The host and the holdings of the tasks

What is on the host is exactly what the tasks hold: each slot in use, each
address on `eth42` and each NAT rule has one holder, every peer and every
container that is not down has one too, and the holdings of one task belong
together.  There is one lemma for each call; `Accounting.call_outcome` collects them.
-/

namespace ScdtServer.Invariant

open Function
open ScdtServer.Ownership
open ScdtServer.Host ScdtServer.AddressManager ScdtServer.Holdings

/-- Containers that would still be there when the daemon is gone. -/
def Live (world : World) (id : ContainerId) : Prop :=
  ∃ container, world.containers[id]? = some container ∧
    (container.status = .created ∨ container.status = .running)

/-- What a task knows about the container it holds agrees with Docker's record
of it. -/
structure Kept (origin : ℕ) (started : Bool) (bridge : Option BridgeAddr)
    (dormant : Bool) (container : DockerContainer) : Prop where
  origin : container.origin = origin
  status : container.status ≠ .stopped
  started : started = true → container.status ≠ .created
  bridge : ∀ addr, bridge = some addr → container.bridge = some addr
  dormant : dormant = true → container.status ≠ .running
  fresh : container.status = .created → container.bridge = none

/-- The holdings of one task belong together and to its connection. -/
structure Linked (world : World) (origin : ℕ) (held : Held) : Prop where
  slot : ∀ slot, held.slot = some slot → world.taker slot = origin
  eth : ∀ addr, held.eth = some addr → held.addr = some addr
  container : ∀ id, held.container = some id →
    ∃ container, world.containers[id]? = some container ∧
      Kept origin held.started held.bridge held.dormant container
  rule : ∀ rule, held.rule = some rule →
    held.addr = some rule.source ∧ held.bridge = some rule.toDestination
  peer : ∀ peer, held.peer = some peer →
    held.addr = some peer.allowedIp ∧ held.rule.isSome = true ∧ held.container.isSome = true
  idle : held.role = .connection ∨ held.role = .writer →
    held.eth = none ∧ held.rule = none ∧ held.peer = none ∧ held.container = none
  writer : held.role = .writer → held.slot = none

structure Inv (world : World) (origins : ℕ → ℕ) (ghosts : ℕ → Held) : Prop where
  slots : Owned (fun slot => world.slots slot = true) fun task => (ghosts task).slot
  eth : Owned (· ∈ world.eth42) fun task => (ghosts task).eth
  nat : Owned (· ∈ world.nat) fun task => (ghosts task).rule
  peers : Covered (· ∈ world.peers) fun task => (ghosts task).peer
  live : Covered (Live world) fun task => (ghosts task).container
  keeper : Exclusive fun task => (ghosts task).container
  ethNodup : world.eth42.Nodup
  natNodup : world.nat.Nodup
  peersNodup : world.peers.Nodup
  linked : ∀ task, Linked world (origins task) (ghosts task)

variable {world world' : World} {origin : ℕ} {origins : ℕ → ℕ} {held held' : Held}
variable {ghosts : ℕ → Held} {task : ℕ}

theorem linked_bare {role : Role} : Linked world origin (.bare role) where
  slot _ h := by cases h
  eth _ h := by cases h
  container _ h := by cases h
  rule _ h := by cases h
  peer _ h := by cases h
  idle _ := ⟨rfl, rfl, rfl, rfl⟩
  writer _ := rfl

/-- A task's links only concern its own slot and its own container. -/
theorem Linked.frame (hlinked : Linked world origin held)
    (htaker : ∀ slot, held.slot = some slot → world'.taker slot = world.taker slot)
    (hcontainer : ∀ id, held.container = some id →
      world'.containers[id]? = world.containers[id]?) : Linked world' origin held where
  slot slot hslot := (htaker slot hslot).trans (hlinked.slot slot hslot)
  eth := hlinked.eth
  container id hid := by
    rw [hcontainer id hid]
    exact hlinked.container id hid
  rule := hlinked.rule
  peer := hlinked.peer
  idle := hlinked.idle
  writer := hlinked.writer

/-- The links of all tasks after one of them has changed its holdings. -/
theorem linked_update (hself : Linked world' (origins task) held')
    (hothers : ∀ other, other ≠ task → Linked world' (origins other) (ghosts other)) :
    ∀ other, Linked world' (origins other) (update ghosts task held' other) := by
  intro other
  by_cases hother : other = task
  · subst other
    rw [update_self]
    exact hself
  · rw [update_of_ne hother]
    exact hothers other hother

/-- Two tasks that hold the same address are the same task. -/
theorem Inv.same_task (hinv : Inv world origins ghosts) {left right : ℕ} {addr : UInt8}
    (hleft : (ghosts left).addr = some addr) (hright : (ghosts right).addr = some addr) :
    left = right := by
  rcases Option.map_eq_some_iff.mp hleft with ⟨slot, hslot, haddr⟩
  rcases Option.map_eq_some_iff.mp hright with ⟨slot', hslot', haddr'⟩
  have hsame : slot' = slot := addrOf_injective (haddr'.trans haddr.symm)
  rw [hsame] at hslot'
  exact hinv.slots.exclusive left right slot hslot hslot'

/-! ## Who holds what is on the host -/

/-- The slot of an address is in use. -/
def InUse (world : World) (addr : UInt8) : Prop :=
  ∃ slot, addrOf slot = addr ∧ world.slots slot = true

/-- An address that some task holds is in use. -/
theorem inUse_of_addr {addr : UInt8} (hinv : Inv world origins ghosts)
    (haddr : (ghosts task).addr = some addr) : InUse world addr := by
  rcases Option.map_eq_some_iff.mp haddr with ⟨slot, hslot, rfl⟩
  exact ⟨slot, rfl, hinv.slots.present task slot hslot⟩

theorem holder_of_rule {rule : NatRule} (hinv : Inv world origins ghosts)
    (hrule : rule ∈ world.nat) :
    ∃ task, (ghosts task).rule = some rule ∧ (ghosts task).addr = some rule.source := by
  rcases hinv.nat.covered rule hrule with ⟨task, hholds⟩
  exact ⟨task, hholds, ((hinv.linked task).rule rule hholds).1⟩

theorem holder_of_peer {peer : Peer} (hinv : Inv world origins ghosts)
    (hpeer : peer ∈ world.peers) :
    ∃ task, (ghosts task).peer = some peer ∧ (ghosts task).addr = some peer.allowedIp := by
  rcases hinv.peers peer hpeer with ⟨task, hholds⟩
  exact ⟨task, hholds, ((hinv.linked task).peer peer hholds).1⟩

theorem holder_of_eth {addr : UInt8} (hinv : Inv world origins ghosts)
    (haddr : addr ∈ world.eth42) :
    ∃ task, (ghosts task).eth = some addr ∧ (ghosts task).addr = some addr := by
  rcases hinv.eth.covered addr haddr with ⟨task, hholds⟩
  exact ⟨task, hholds, (hinv.linked task).eth addr hholds⟩

/-! ## Changes that leave the resources with their holders -/

theorem Inv.unchanged (hinv : Inv world origins ghosts) :
    Inv world origins (update ghosts task (ghosts task)) := by
  rw [update_eq_self]
  exact hinv

/-- The task's marks or what it knows about its container change. -/
theorem Inv.relabel (hinv : Inv world origins ghosts)
    (hslot : held'.slot = (ghosts task).slot) (heth : held'.eth = (ghosts task).eth)
    (hrule : held'.rule = (ghosts task).rule) (hpeer : held'.peer = (ghosts task).peer)
    (hcontainer : held'.container = (ghosts task).container)
    (hlinked : Linked world (origins task) held') :
    Inv world origins (update ghosts task held') where
  slots := hinv.slots.keep hslot
  eth := hinv.eth.keep heth
  nat := hinv.nat.keep hrule
  peers := hinv.peers.keep hpeer
  live := hinv.live.keep hcontainer
  keeper := hinv.keeper.keep hcontainer
  ethNodup := hinv.ethNodup
  natNodup := hinv.natNodup
  peersNodup := hinv.peersNodup
  linked := linked_update hlinked fun other _ => hinv.linked other

@[simp]
theorem setContainer_same {id : ContainerId} {change : DockerContainer → DockerContainer} :
    (world.setContainer id change).containers[id]? = world.containers[id]?.map change := by
  simp [World.setContainer]

theorem setContainer_other {id other : ContainerId}
    {change : DockerContainer → DockerContainer} (hne : other ≠ id) :
    (world.setContainer id change).containers[other]? = world.containers[other]? := by
  simp [World.setContainer, Ne.symm hne]

/-- The record of a container changes without the container coming back to
life. -/
theorem Inv.modify {id : ContainerId} {change : DockerContainer → DockerContainer}
    (hinv : Inv world origins ghosts)
    (hlive : Live (world.setContainer id change) id → Live world id)
    (hkept : ∀ task container, (ghosts task).container = some id →
      world.containers[id]? = some container →
      Kept (origins task) (ghosts task).started (ghosts task).bridge
          (ghosts task).dormant container →
        Kept (origins task) (ghosts task).started (ghosts task).bridge
          (ghosts task).dormant (change container)) :
    Inv (world.setContainer id change) origins ghosts where
  slots := hinv.slots
  eth := hinv.eth
  nat := hinv.nat
  peers := hinv.peers
  live := hinv.live.mono fun other hother => by
    by_cases hne : other = id
    · subst other
      exact hlive hother
    · rcases hother with ⟨container, hat, hstatus⟩
      rw [setContainer_other hne] at hat
      exact ⟨container, hat, hstatus⟩
  keeper := hinv.keeper
  ethNodup := hinv.ethNodup
  natNodup := hinv.natNodup
  peersNodup := hinv.peersNodup
  linked task :=
    { hinv.linked task with
      container := by
        intro other hother
        rcases (hinv.linked task).container other hother with ⟨container, hat, hold⟩
        by_cases hne : other = id
        · subst other
          refine ⟨change container, ?_, hkept task container hother hat hold⟩
          rw [setContainer_same, hat, Option.map_some]
        · refine ⟨container, ?_, hold⟩
          rw [setContainer_other hne, hat] }

/-- A container exits on its own. -/
theorem Inv.containerExit {id : ContainerId} (hinv : Inv world origins ghosts) :
    Inv (world.setContainer id DockerContainer.exit) origins ghosts := by
  apply hinv.modify
  · rintro ⟨container, hat, hstatus⟩
    rw [setContainer_same] at hat
    rcases Option.map_eq_some_iff.mp hat with ⟨container, -, rfl⟩
    rcases hstatus with hstatus | hstatus <;> cases hstatus
  · intro task container _ _ hold
    exact
      { origin := hold.origin
        status := by simp [DockerContainer.exit]
        started := by simp [DockerContainer.exit]
        bridge := hold.bridge
        dormant := by simp [DockerContainer.exit]
        fresh := by simp [DockerContainer.exit] }

/-! ## The address table -/

theorem Inv.takeSlot {slot : Slot} (hinv : Inv world origins ghosts)
    (hpre : pre (.fetchOr slot) (ghosts task)) (hfree : world.slots slot = false) :
    Inv
      { world with
        slots := update world.slots slot true
        taker := update world.taker slot (origins task) }
      origins (update ghosts task { ghosts task with slot := some slot }) where
  slots := by
    rw [component_update]
    apply hinv.slots.acquire hpre.2 (by simp [hfree])
    intro other
    by_cases hother : other = slot <;> simp [hother, update_of_ne]
  eth := hinv.eth.keep rfl
  nat := hinv.nat.keep rfl
  peers := hinv.peers.keep rfl
  live := hinv.live.keep rfl
  keeper := hinv.keeper.keep rfl
  ethNodup := hinv.ethNodup
  natNodup := hinv.natNodup
  peersNodup := hinv.peersNodup
  linked := by
    have hidle := (hinv.linked task).idle (.inl hpre.1)
    apply linked_update
    · exact
        { slot := by
            intro other hother
            obtain rfl : slot = other := Option.some.inj hother
            exact update_self ..
          eth := by simp [hidle]
          container := by simp [hidle]
          rule := by simp [hidle]
          peer := by simp [hidle]
          idle := fun _ => hidle
          writer := by simp [hpre.1] }
    · intro other _
      apply (hinv.linked other).frame
      · intro taken htaken
        have hused := hinv.slots.present other taken htaken
        have hne : taken ≠ slot := by
          rintro rfl
          rw [hfree] at hused
          cases hused
        exact update_of_ne hne ..
      · exact fun _ _ => rfl

/-- Finding a slot in use changes nothing. -/
theorem Inv.slotInUse {slot : Slot} (hinv : Inv world origins ghosts)
    (hused : world.slots slot = true) :
    Inv { world with slots := update world.slots slot true } origins ghosts := by
  have hsame : update world.slots slot true = world.slots := by
    rw [← hused]
    exact update_eq_self ..
  rw [hsame]
  exact hinv

theorem Inv.store {slot : Slot} (hinv : Inv world origins ghosts)
    (hpre : pre (.store slot) (ghosts task)) :
    Inv { world with slots := update world.slots slot false } origins
      (update ghosts task { ghosts task with slot := none }) where
  slots := by
    rw [component_update]
    apply hinv.slots.release hpre.1
    intro other
    by_cases hother : other = slot <;> simp [hother, update_of_ne]
  eth := hinv.eth.keep rfl
  nat := hinv.nat.keep rfl
  peers := hinv.peers.keep rfl
  live := hinv.live.keep rfl
  keeper := hinv.keeper.keep rfl
  ethNodup := hinv.ethNodup
  natNodup := hinv.natNodup
  peersNodup := hinv.peersNodup
  linked := by
    rcases hpre with ⟨-, heth, hrule, hpeer, -⟩
    apply linked_update
    · exact
        { hinv.linked task with
          slot := by simp
          eth := by simp [heth]
          rule := by simp [hrule]
          peer := by simp [hpeer]
          writer := fun _ => rfl }
    · exact fun other _ => (hinv.linked other).frame (fun _ _ => rfl) fun _ _ => rfl

/-! ## The address on `eth42` -/

theorem Inv.addEth {addr : UInt8} (hinv : Inv world origins ghosts)
    (hpre : pre (.ipAddrAdd addr) (ghosts task)) (habsent : addr ∉ world.eth42) :
    Inv { world with eth42 := addr :: world.eth42 } origins
      (update ghosts task { ghosts task with eth := some addr }) where
  slots := hinv.slots.keep rfl
  eth := by
    rw [component_update]
    apply hinv.eth.acquire hpre.2.1 habsent
    intro other
    rw [List.mem_cons, or_comm]
  nat := hinv.nat.keep rfl
  peers := hinv.peers.keep rfl
  live := hinv.live.keep rfl
  keeper := hinv.keeper.keep rfl
  ethNodup := hinv.ethNodup.cons habsent
  natNodup := hinv.natNodup
  peersNodup := hinv.peersNodup
  linked := by
    apply linked_update
    · exact
        { hinv.linked task with
          eth := by
            intro other hother
            obtain rfl : addr = other := Option.some.inj hother
            exact hpre.2.2
          idle := by simp [hpre.1] }
    · exact fun other _ => (hinv.linked other).frame (fun _ _ => rfl) fun _ _ => rfl

theorem Inv.delEth {addr : UInt8} (hinv : Inv world origins ghosts)
    (hpre : pre (.ipAddrDel addr) (ghosts task)) :
    Inv { world with eth42 := world.eth42.erase addr } origins
      (update ghosts task { ghosts task with eth := none }) where
  slots := hinv.slots.keep rfl
  eth := by
    rw [component_update]
    apply hinv.eth.release hpre.1
    intro other
    rw [hinv.ethNodup.mem_erase_iff, and_comm]
  nat := hinv.nat.keep rfl
  peers := hinv.peers.keep rfl
  live := hinv.live.keep rfl
  keeper := hinv.keeper.keep rfl
  ethNodup := hinv.ethNodup.erase addr
  natNodup := hinv.natNodup
  peersNodup := hinv.peersNodup
  linked := by
    apply linked_update
    · exact
        { hinv.linked task with
          eth := by simp
          idle := fun hrole => ⟨rfl, ((hinv.linked task).idle hrole).2⟩ }
    · exact fun other _ => (hinv.linked other).frame (fun _ _ => rfl) fun _ _ => rfl

/-! ## The NAT rule -/

/-- A rule that a task may add is not there yet. -/
theorem Inv.rule_absent {rule : NatRule} (hinv : Inv world origins ghosts)
    (hpre : pre (.iptablesAppend rule) (ghosts task)) : rule ∉ world.nat := by
  intro hmem
  rcases hinv.nat.covered rule hmem with ⟨other, hother⟩
  have haddr := ((hinv.linked other).rule rule hother).1
  obtain rfl : other = task := hinv.same_task haddr hpre.2.2.1
  have hnone : some rule = none := hother.symm.trans hpre.2.1
  cases hnone

theorem Inv.appendRule {rule : NatRule} (hinv : Inv world origins ghosts)
    (hpre : pre (.iptablesAppend rule) (ghosts task)) :
    Inv { world with nat := world.nat ++ [rule] } origins
      (update ghosts task { ghosts task with rule := some rule }) where
  slots := hinv.slots.keep rfl
  eth := hinv.eth.keep rfl
  nat := by
    rw [component_update]
    apply hinv.nat.acquire hpre.2.1 (hinv.rule_absent hpre)
    simp
  peers := hinv.peers.keep rfl
  live := hinv.live.keep rfl
  keeper := hinv.keeper.keep rfl
  ethNodup := hinv.ethNodup
  natNodup := by
    rw [← List.concat_eq_append]
    exact hinv.natNodup.concat (hinv.rule_absent hpre)
  peersNodup := hinv.peersNodup
  linked := by
    apply linked_update
    · exact
        { hinv.linked task with
          rule := by
            intro other hother
            obtain rfl : rule = other := Option.some.inj hother
            exact hpre.2.2
          peer := by
            intro peer hpeer
            rcases (hinv.linked task).peer peer hpeer with ⟨haddr, -, hcontainer⟩
            exact ⟨haddr, rfl, hcontainer⟩
          idle := by simp [hpre.1] }
    · exact fun other _ => (hinv.linked other).frame (fun _ _ => rfl) fun _ _ => rfl

theorem Inv.deleteRule {rule : NatRule} (hinv : Inv world origins ghosts)
    (hpre : pre (.iptablesDelete rule) (ghosts task)) :
    Inv { world with nat := world.nat.erase rule } origins
      (update ghosts task { ghosts task with rule := none }) where
  slots := hinv.slots.keep rfl
  eth := hinv.eth.keep rfl
  nat := by
    rw [component_update]
    apply hinv.nat.release hpre.1
    intro other
    rw [hinv.natNodup.mem_erase_iff, and_comm]
  peers := hinv.peers.keep rfl
  live := hinv.live.keep rfl
  keeper := hinv.keeper.keep rfl
  ethNodup := hinv.ethNodup
  natNodup := hinv.natNodup.erase rule
  peersNodup := hinv.peersNodup
  linked := by
    apply linked_update
    · exact
        { hinv.linked task with
          rule := by simp
          peer := by simp [hpre.2]
          idle := by
            intro hrole
            rcases (hinv.linked task).idle hrole with ⟨heth, -, hpeer, hcontainer⟩
            exact ⟨heth, rfl, hpeer, hcontainer⟩ }
    · exact fun other _ => (hinv.linked other).frame (fun _ _ => rfl) fun _ _ => rfl

/-! ## The peer -/

/-- Configuring a peer replaces the one with its key, if there is one. -/
theorem Inv.configure {peer : Peer} (hinv : Inv world origins ghosts)
    (hpre : pre (.configurePeer peer) (ghosts task)) :
    Inv
      { world with
        peers := peer :: world.peers.filter fun other =>
          decide (other.publicKey ≠ peer.publicKey) }
      origins (update ghosts task { ghosts task with peer := some peer }) where
  slots := hinv.slots.keep rfl
  eth := hinv.eth.keep rfl
  nat := hinv.nat.keep rfl
  peers := by
    rw [component_update]
    apply hinv.peers.acquire hpre.2.1
    intro other hother
    rcases List.mem_cons.mp hother with rfl | hother
    · exact .inr rfl
    · exact .inl (List.mem_of_mem_filter hother)
  live := hinv.live.keep rfl
  keeper := hinv.keeper.keep rfl
  ethNodup := hinv.ethNodup
  natNodup := hinv.natNodup
  peersNodup := by
    apply (hinv.peersNodup.filter _).cons
    simp
  linked := by
    apply linked_update
    · exact
        { hinv.linked task with
          peer := by
            intro other hother
            obtain rfl : peer = other := Option.some.inj hother
            exact hpre.2.2
          idle := by simp [hpre.1] }
    · exact fun other _ => (hinv.linked other).frame (fun _ _ => rfl) fun _ _ => rfl

theorem Inv.remove {publicKey : PublicKey} (hinv : Inv world origins ghosts)
    (hpre : pre (.removePeer publicKey) (ghosts task)) :
    Inv
      { world with
        peers := world.peers.filter fun other => decide (other.publicKey ≠ publicKey) }
      origins (update ghosts task { ghosts task with peer := none }) where
  slots := hinv.slots.keep rfl
  eth := hinv.eth.keep rfl
  nat := hinv.nat.keep rfl
  peers := by
    rcases Option.map_eq_some_iff.mp hpre with ⟨peer, hpeer, rfl⟩
    rw [component_update]
    apply hinv.peers.release hpeer
    intro other hother
    rcases List.mem_filter.mp hother with ⟨hmem, hkey⟩
    refine ⟨hmem, ?_⟩
    rintro rfl
    simp at hkey
  live := hinv.live.keep rfl
  keeper := hinv.keeper.keep rfl
  ethNodup := hinv.ethNodup
  natNodup := hinv.natNodup
  peersNodup := hinv.peersNodup.filter _
  linked := by
    apply linked_update
    · exact
        { hinv.linked task with
          peer := by simp
          idle := by
            intro hrole
            rcases (hinv.linked task).idle hrole with ⟨heth, hrule, -, hcontainer⟩
            exact ⟨heth, hrule, rfl, hcontainer⟩ }
    · exact fun other _ => (hinv.linked other).frame (fun _ _ => rfl) fun _ _ => rfl

/-! ## The container -/

theorem Inv.create {body : ContainerCreateBody} (hinv : Inv world origins ghosts)
    (hpre : pre (.createContainer body) (ghosts task)) :
    Inv
      { world with
        containers := world.containers ++ [⟨origins task, body, .created, none⟩] }
      origins
      (update ghosts task
        { ghosts task with
          container := some world.containers.length
          started := false
          bridge := none }) where
  slots := hinv.slots.keep rfl
  eth := hinv.eth.keep rfl
  nat := hinv.nat.keep rfl
  peers := hinv.peers.keep rfl
  live := by
    rw [component_update]
    apply hinv.live.acquire hpre.2.1
    rintro other ⟨container, hat, hstatus⟩
    by_cases hlt : other < world.containers.length
    · rw [List.getElem?_append_left hlt] at hat
      exact .inl ⟨container, hat, hstatus⟩
    · have hlen := (List.getElem?_eq_some_iff.mp hat).1
      rw [List.length_append, List.length_singleton] at hlen
      exact .inr (Nat.le_antisymm (Nat.lt_succ_iff.mp hlen) (Nat.not_lt.mp hlt))
  keeper := by
    rw [component_update]
    apply hinv.keeper.acquire
    intro other hother
    rcases (hinv.linked other).container _ hother with ⟨container, hat, -⟩
    simp at hat
  ethNodup := hinv.ethNodup
  natNodup := hinv.natNodup
  peersNodup := hinv.peersNodup
  linked := by
    have hpeer : (ghosts task).peer = none := by
      cases hheld : (ghosts task).peer with
      | none => rfl
      | some peer =>
          have hrule := ((hinv.linked task).peer peer hheld).2.1
          rw [hpre.2.2.1] at hrule
          cases hrule
    apply linked_update
    · exact
        { hinv.linked task with
          container := by
            intro id hid
            obtain rfl : world.containers.length = id := Option.some.inj hid
            refine ⟨_, List.getElem?_concat_length, rfl, by simp, by simp, by simp, ?_, ?_⟩
            · simp
            · exact fun _ => rfl
          rule := by simp [hpre.2.2.1]
          peer := by simp [hpeer]
          idle := by simp [hpre.1] }
    · intro other _
      apply (hinv.linked other).frame
      · exact fun _ _ => rfl
      · intro id hid
        rcases (hinv.linked other).container id hid with ⟨container, hat, -⟩
        exact List.getElem?_append_left (List.getElem?_eq_some_iff.mp hat).1

/-- A created container is started and gets its bridge address. -/
theorem Inv.start {id : ContainerId} {container : DockerContainer} {bridge : BridgeAddr}
    (hinv : Inv world origins ghosts) (hpre : pre (.startContainer id) (ghosts task))
    (hat : world.containers[id]? = some container) (hstatus : container.status = .created) :
    Inv
      (world.setContainer id fun container =>
        { container with status := .running, bridge := some bridge })
      origins (update ghosts task { ghosts task with started := true }) := by
  have hmodified : Inv
      (world.setContainer id fun container =>
        { container with status := .running, bridge := some bridge }) origins ghosts := by
    apply hinv.modify
    · exact fun _ => ⟨container, hat, .inl hstatus⟩
    · intro other record hother _ hold
      obtain rfl : other = task := hinv.keeper other task id hother hpre.1
      refine ⟨hold.origin, by simp, by simp, ?_, ?_, by simp⟩
      · simp [hpre.2.1]
      · simp [hpre.2.2]
  refine hmodified.relabel rfl rfl rfl rfl rfl ?_
  exact
    { hmodified.linked task with
      container := by
        intro other hother
        obtain rfl : id = other := Option.some.inj (hpre.1.symm.trans hother)
        rcases (hmodified.linked task).container id hother with ⟨record, hrecord, hold⟩
        refine ⟨record, hrecord, hold.origin, hold.status, fun _ => ?_, hold.bridge,
          hold.dormant, hold.fresh⟩
        rw [setContainer_same, hat] at hrecord
        obtain rfl := Option.some.inj hrecord
        simp }

/-- The task learns the bridge address of its container. -/
theorem Inv.inspect {id : ContainerId} {container : DockerContainer} {bridge : BridgeAddr}
    (hinv : Inv world origins ghosts) (hpre : pre (.inspectContainer id) (ghosts task))
    (hat : world.containers[id]? = some container) (hbridge : container.bridge = some bridge) :
    Inv world origins (update ghosts task { ghosts task with bridge := some bridge }) := by
  refine hinv.relabel rfl rfl rfl rfl rfl ?_
  exact
    { hinv.linked task with
      container := by
        intro other hother
        rcases (hinv.linked task).container other hother with ⟨record, hrecord, hold⟩
        refine ⟨record, hrecord, hold.origin, hold.status, hold.started, ?_, hold.dormant,
          hold.fresh⟩
        obtain rfl : id = other := Option.some.inj (hpre.1.symm.trans hother)
        obtain rfl : container = record := Option.some.inj (hat.symm.trans hrecord)
        intro addr haddr
        rw [hbridge]
        exact haddr
      rule := by simp [hpre.2] }

/-- A container that is down is no longer held. -/
theorem Inv.letGo {id : ContainerId} {change : DockerContainer → DockerContainer}
    (hinv : Inv world origins ghosts) (hpre : pre (.stopContainer id) (ghosts task))
    (hdown : ¬ Live (world.setContainer id change) id) :
    Inv (world.setContainer id change) origins
      (update ghosts task { ghosts task with container := none }) where
  slots := hinv.slots.keep rfl
  eth := hinv.eth.keep rfl
  nat := hinv.nat.keep rfl
  peers := hinv.peers.keep rfl
  live := by
    rw [component_update]
    apply hinv.live.release hpre.1
    intro other hother
    have hne : other ≠ id := by
      rintro rfl
      exact hdown hother
    rcases hother with ⟨container, hat, hstatus⟩
    rw [setContainer_other hne] at hat
    exact ⟨⟨container, hat, hstatus⟩, hne⟩
  keeper := by
    rw [component_update]
    exact hinv.keeper.release
  ethNodup := hinv.ethNodup
  natNodup := hinv.natNodup
  peersNodup := hinv.peersNodup
  linked := by
    apply linked_update
    · exact
        { hinv.linked task with
          container := by simp
          peer := by simp [hpre.2.2]
          idle := by
            intro hrole
            rcases (hinv.linked task).idle hrole with ⟨heth, hrule, hpeer, -⟩
            exact ⟨heth, hrule, hpeer, rfl⟩ }
    · intro other hother
      apply (hinv.linked other).frame
      · exact fun _ _ => rfl
      · intro held hheld
        apply setContainer_other
        rintro rfl
        exact hother (hinv.keeper other task held hheld hpre.1)

end ScdtServer.Invariant
