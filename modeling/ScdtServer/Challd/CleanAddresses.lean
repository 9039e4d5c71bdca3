import ScdtServer.Challd.Soundness

/-!
# Addresses are clean when they are handed out

Whatever fails, an address, a NAT rule or a peer is on the host only while its
slot is in use, because the store to the slot comes after every other release.
-/

namespace ScdtServer.CleanAddresses

open ScdtServer.Interaction ScdtServer.Interaction.Program
open ScdtServer.TaskPool ScdtServer.Transition
open ScdtServer.Host ScdtServer.AddressManager ScdtServer.Interface ScdtServer.Daemon
open ScdtServer.Holdings ScdtServer.Invariant ScdtServer.Soundness

/-- Nothing is left on the host for an address. -/
def Clean (world : World) (addr : UInt8) : Prop :=
  addr ∉ world.eth42 ∧ addr ∉ world.nat.map NatRule.source ∧
    addr ∉ world.peers.map Peer.allowedIp

/-- Only addresses in use are configured, each at most once. -/
structure Accounted (world : World) : Prop where
  inUse : ∀ addr, ¬ Clean world addr → InUse world addr
  eth : world.eth42.Nodup
  nat : (world.nat.map NatRule.source).Nodup
  peers : (world.peers.map Peer.allowedIp).Nodup

/-- Some task is about to issue the call. -/
def Issues (daemon : Daemon) (request : Call) : Prop :=
  ∃ (task : ℕ) (role : Role) (origin : ℕ) (rest : Answer request → Prog TaskResult),
    daemon.tasks[task]? = some ⟨role, origin, .call (S := challd) request rest⟩

variable {panics : DoublePanic} {int : Interface} {actions : List Action}
variable {daemon next : Daemon} {world : World} {origins : ℕ → ℕ} {ghosts : ℕ → Held}

theorem accounted_of_inv (hinv : Inv world origins ghosts) : Accounted world where
  inUse addr hdirty := by
    by_contra hunused
    apply hdirty
    refine ⟨fun heth => ?_, fun hnat => ?_, fun hpeers => ?_⟩
    · rcases holder_of_eth hinv heth with ⟨task, -, haddr⟩
      exact hunused (inUse_of_addr hinv haddr)
    · rcases List.mem_map.mp hnat with ⟨rule, hrule, rfl⟩
      rcases holder_of_rule hinv hrule with ⟨task, -, haddr⟩
      exact hunused (inUse_of_addr hinv haddr)
    · rcases List.mem_map.mp hpeers with ⟨peer, hpeer, rfl⟩
      rcases holder_of_peer hinv hpeer with ⟨task, -, haddr⟩
      exact hunused (inUse_of_addr hinv haddr)
  eth := hinv.ethNodup
  nat := by
    apply hinv.natNodup.map_on
    intro left hleft right hright hsource
    rcases holder_of_rule hinv hleft with ⟨task, hrule, haddr⟩
    rcases holder_of_rule hinv hright with ⟨task', hrule', haddr'⟩
    rw [← hsource] at haddr'
    obtain rfl : task = task' := hinv.same_task haddr haddr'
    exact Option.some.inj (hrule.symm.trans hrule')
  peers := by
    apply hinv.peersNodup.map_on
    intro left hleft right hright hallowed
    rcases holder_of_peer hinv hleft with ⟨task, hpeer, haddr⟩
    rcases holder_of_peer hinv hright with ⟨task', hpeer', haddr'⟩
    rw [← hallowed] at haddr'
    obtain rfl : task = task' := hinv.same_task haddr haddr'
    exact Option.some.inj (hpeer.symm.trans hpeer')

/-- A slot that is won was not in use. -/
theorem free_of_won {task : ℕ} {slot : Slot} {choice : Choice}
    (hstep : Step panics int daemon
      (.task (.answer task (.fetchOr slot) (false : Bool) choice)) next) :
    daemon.world.slots slot = false := by
  cases hstep with
  | task hphase hpanics hpool =>
      cases hpool with
      | answer hat hexec =>
          exact (exec_fetchOr hexec).1.symm

/-- In every run, whatever fails: what is configured for an address is there at
most once and only while its slot is in use.  So an address that is handed out
is clean, an address is not added to `eth42` twice, and only rules and addresses
that are present are deleted. -/
theorem clean_addresses (hrun : Runs panics int actions daemon) :
    Accounted daemon.world ∧
      (∀ task slot choice next,
        Step panics int daemon (.task (.answer task (.fetchOr slot) (false : Bool) choice)) next →
          Clean daemon.world (addrOf slot)) ∧
      (∀ addr, Issues daemon (.ipAddrAdd addr) → addr ∉ daemon.world.eth42) ∧
      (∀ rule, Issues daemon (.iptablesDelete rule) → rule ∈ daemon.world.nat) ∧
      ∀ addr, Issues daemon (.ipAddrDel addr) → addr ∈ daemon.world.eth42 := by
  rcases sound_of_run hrun with ⟨ghosts, hsound⟩
  have haccounted := accounted_of_inv hsound.inv
  refine ⟨haccounted, ?_, ?_, ?_, ?_⟩
  · intro task slot choice next hstep
    by_contra hdirty
    rcases haccounted.inUse _ hdirty with ⟨other, hsame, hused⟩
    rw [addrOf_injective hsame, free_of_won hstep] at hused
    cases hused
  · rintro addr ⟨task, role, origin, rest, hat⟩ hpresent
    have hpre : pre (.ipAddrAdd addr) (ghosts task) := hsound.guarded.pre hat
    rcases holder_of_eth hsound.inv hpresent with ⟨other, heth, haddr⟩
    obtain rfl : other = task := hsound.inv.same_task haddr hpre.2.2
    rw [hpre.2.1] at heth
    cases heth
  · rintro rule ⟨task, role, origin, rest, hat⟩
    have hpre : pre (.iptablesDelete rule) (ghosts task) := hsound.guarded.pre hat
    exact hsound.inv.nat.present task rule hpre.1
  · rintro addr ⟨task, role, origin, rest, hat⟩
    have hpre : pre (.ipAddrDel addr) (ghosts task) := hsound.guarded.pre hat
    exact hsound.inv.eth.present task addr hpre.1

/-- The second slot has just been found free while the first guest, torn down up
to the release of its address, still has the first one. -/
def secondGuest : List Move :=
  Script.guest {} 0 0 ++ Script.steps {} 5 2 ++ Script.connect {} 1 4

theorem clean_addresses_secondGuest : ∃ actions daemon,
    Runs .abortsProcess ⟨""⟩ actions daemon ∧ daemon.world.eth42 = [1] ∧
      Accounted daemon.world := by
  rcases exists_run .abortsProcess ⟨""⟩ secondGuest
    (fun daemon => decide (daemon.world.eth42 = [1])) (by rfl) with ⟨actions, daemon, hrun, htest⟩
  exact ⟨actions, daemon, hrun, of_decide_eq_true htest, (clean_addresses hrun).1⟩

end ScdtServer.CleanAddresses
