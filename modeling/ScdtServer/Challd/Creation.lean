import ScdtServer.Core.Sequential
import ScdtServer.Challd.Daemon

/-!
# What a container that was not created leaves behind

`Container::create` changes the host in several steps: the address on `eth42`,
the container, the NAT rule.  None of its exits undoes a step that was made.  A
call that fails leaves the host as it was only if it comes before these steps.
-/

namespace ScdtServer.Creation

open ScdtServer.Interaction ScdtServer.Interaction.Program
open ScdtServer.TaskPool ScdtServer.Sequential
open ScdtServer.Ports ScdtServer.Host ScdtServer.AddressManager ScdtServer.Container

/-- No address, container or NAT rule has been added or taken away. -/
structure SameHost (world last : World) : Prop where
  eth42 : last.eth42 = world.eth42
  containers : last.containers = world.containers
  nat : last.nat = world.nat

/-- A call of `create` returned a container. -/
def Returned (outcome : Option (Except Error Container)) : Prop :=
  ∃ container, outcome = some (.ok container)

/-- The NAT rule of a guest container can be made: Docker tells the container's
bridge address, and the rule is accepted. -/
def Routed (oracle : Oracle challd Choice) (id : ContainerId) (maybeAddr : Option UInt8) :
    Prop :=
  ∀ addr ∈ maybeAddr, ∃ response bridgeAddr,
    said oracle (.inspectContainer id) = some (some response) ∧
      response.bridgeAddr = some bridgeAddr ∧
        said oracle (.iptablesAppend ⟨addr, bridgeAddr⟩) = some true

/-- Docker creates and starts the container, and its rule can be made. -/
def Completed (oracle : Oracle challd Choice) (body : ContainerCreateBody)
    (maybeAddr : Option UInt8) : Prop :=
  ∃ id, said oracle (.createContainer body) = some (some id) ∧
    said oracle (.startContainer id) = some true ∧ Routed oracle id maybeAddr

/-- The first step that changes the host succeeds: the address of a guest, the
container of a demo. -/
def Begun (oracle : Oracle challd Choice) (body : ContainerCreateBody)
    (maybeAddr : Option UInt8) : Prop :=
  match maybeAddr with
  | some addr => said oracle (.ipAddrAdd addr) = some true
  | none => ∃ id, said oracle (.createContainer body) = some (some id)

/-- A call fails after one that has changed the host. -/
def FailsLate (oracle : Oracle challd Choice) (body : ContainerCreateBody)
    (maybeAddr : Option UInt8) : Prop :=
  maybeAddr.all addrInRange = true ∧ said oracle .connectWithUnixDefaults = some true ∧
    Begun oracle body maybeAddr ∧ ¬ Completed oracle body maybeAddr

variable {oracle : Oracle challd Choice} {origin : ℕ} {world last : World}
variable {body : ContainerCreateBody} {maybeAddr : Option UInt8} {addr : UInt8}
variable {id : ContainerId}

/-! ## The calls -/

theorem addr_added {added : Bool} {choice : Choice}
    (hexec : exec world origin (.ipAddrAdd addr) added choice = some last) :
    last = if added = true then { world with eth42 := addr :: world.eth42 } else world := by
  cases added with
  | true => exact (exec_ipAddrAdd hexec).2
  | false => exact (Option.some.inj hexec).symm

theorem container_created {created : ContainerId} {choice : Choice}
    (hexec : exec world origin (.createContainer body) (some created) choice = some last) :
    last.eth42 = world.eth42 ∧
      last.containers.length = world.containers.length + 1 := by
  obtain ⟨-, rfl⟩ := exec_createContainer hexec
  exact ⟨rfl, List.length_append⟩

theorem container_started {started : Bool} {choice : Choice}
    (hexec : exec world origin (.startContainer id) started choice = some last) :
    last.eth42 = world.eth42 ∧ last.containers.length = world.containers.length := by
  cases started with
  | true =>
      obtain ⟨_, _, _, rfl⟩ := exec_startContainer hexec
      exact ⟨rfl, List.length_modify _ _ _⟩
  | false =>
      obtain rfl := Option.some.inj hexec
      exact ⟨rfl, rfl⟩

theorem container_inspected {response : Option ContainerInspectResponse} {choice : Choice}
    (hexec : exec world origin (.inspectContainer id) response choice = some last) :
    last = world := by
  cases response with
  | none => exact (Option.some.inj hexec).symm
  | some response => exact (exec_inspectContainer hexec).2

theorem rule_appended {rule : NatRule} {appended : Bool} {choice : Choice}
    (hexec : exec world origin (.iptablesAppend rule) appended choice = some last) :
    last.eth42 = world.eth42 ∧ last.containers = world.containers := by
  cases appended with
  | true =>
      obtain rfl := exec_iptablesAppend hexec
      exact ⟨rfl, rfl⟩
  | false =>
      obtain rfl := Option.some.inj hexec
      exact ⟨rfl, rfl⟩

/-! ## The steps of a creation -/

theorem routed_some_iff {response : Option ContainerInspectResponse}
    (hinspected : said oracle (.inspectContainer id) = some response) :
    Routed oracle id (some addr) ↔ ∃ found bridgeAddr, response = some found ∧
      found.bridgeAddr = some bridgeAddr ∧
        said oracle (.iptablesAppend ⟨addr, bridgeAddr⟩) = some true := by
  constructor
  · intro hrouted
    obtain ⟨found, bridgeAddr, hfound, hbridge, happended⟩ := hrouted addr rfl
    rw [hinspected] at hfound
    exact ⟨found, bridgeAddr, Option.some.inj hfound, hbridge, happended⟩
  · rintro ⟨found, bridgeAddr, rfl, hbridge, happended⟩ other hother
    cases hother
    exact ⟨found, bridgeAddr, hinspected, hbridge, happended⟩

/-- The rule of a guest container is made, or the call panics; nothing but the
rules changes. -/
theorem addVpnInfo_ends {outcome : Option (Option VpnInfo)}
    (hexecute : execute exec origin oracle (addVpnInfo id maybeAddr) world =
      some (outcome, last)) :
    last.eth42 = world.eth42 ∧ last.containers = world.containers ∧
      (outcome ≠ none ↔ Routed oracle id maybeAddr) := by
  cases maybeAddr with
  | none =>
      obtain ⟨rfl, rfl⟩ := execute_ret hexecute
      refine ⟨rfl, rfl, fun _ => ?_, fun _ => Option.some_ne_none _⟩
      intro addr haddr
      cases haddr
  | some addr =>
      obtain ⟨response, choice, world₁, hinspected, hexec, hfound⟩ := execute_call hexecute
      obtain rfl := container_inspected hexec
      rw [routed_some_iff hinspected]
      obtain ⟨rfl, rfl, rfl⟩ | ⟨found, rfl, hlookup⟩ := execute_unwrap hfound
      · exact ⟨rfl, rfl, by simp⟩
      obtain ⟨hbridge, rfl, rfl⟩ | ⟨bridgeAddr, hbridge, hroute⟩ := execute_unwrap hlookup
      · exact ⟨rfl, rfl, by simp [hbridge]⟩
      obtain ⟨appended, choice, world₂, happended, hexec, hchecked⟩ := execute_call hroute
      obtain ⟨heth, hcontainers⟩ := rule_appended hexec
      obtain ⟨rfl, rfl, rfl⟩ | ⟨rfl, hreturn⟩ := execute_assert hchecked
      · exact ⟨heth, hcontainers, by simp [hbridge, happended]⟩
      · obtain ⟨rfl, rfl⟩ := execute_ret hreturn
        exact ⟨heth, hcontainers, by simp [hbridge, happended]⟩

/-- The address of a guest is added, or the call panics and nothing changes. -/
theorem addHostAddr_ends {outcome : Option Unit}
    (hexecute : execute exec origin oracle (addHostAddr (some addr)) world =
      some (outcome, last)) :
    (said oracle (.ipAddrAdd addr) = some true ∧ outcome = some () ∧
        last = { world with eth42 := addr :: world.eth42 }) ∨
      (said oracle (.ipAddrAdd addr) = some false ∧ outcome = none ∧ last = world) := by
  obtain ⟨added, choice, middle, hsaid, hexec, hchecked⟩ := execute_call hexecute
  have hmiddle := addr_added hexec
  cases added with
  | true =>
      obtain ⟨houtcome, hlast⟩ := execute_ret hchecked
      exact .inl ⟨hsaid, houtcome, hlast.trans hmiddle⟩
  | false =>
      obtain ⟨houtcome, hlast⟩ := execute_panic hchecked
      exact .inr ⟨hsaid, houtcome, hlast.trans hmiddle⟩

/-- `create` from its call to `create_container` on. -/
def complete (body : ContainerCreateBody) (maybeAddr : Option UInt8) :
    Prog (Except Error Container) := do
  let id ← unwrap (← createContainer body)
  assert (← startContainer id)
  let vpnInfo ← addVpnInfo id maybeAddr
  return .ok ⟨some id, vpnInfo⟩

theorem create_eq (imageName : String) (maybeAddr : Option UInt8) (ports : PortMappings) :
    create imageName maybeAddr ports = (do
      assert (maybeAddr.all addrInRange)
      if (← connectWithUnixDefaults) = false then return .error .connect
      else
        addHostAddr maybeAddr
        complete (createBody imageName maybeAddr ports) maybeAddr) := rfl

theorem completed_iff {created : ContainerId} {started : Bool}
    (hcreated : said oracle (.createContainer body) = some (some created))
    (hstarted : said oracle (.startContainer created) = some started) :
    Completed oracle body maybeAddr ↔ started = true ∧ Routed oracle created maybeAddr := by
  constructor
  · rintro ⟨id, hid, hok, hrouted⟩
    obtain rfl : created = id := by
      rw [hcreated] at hid
      exact Option.some.inj (Option.some.inj hid)
    rw [hstarted] at hok
    exact ⟨Option.some.inj hok, hrouted⟩
  · rintro ⟨rfl, hrouted⟩
    exact ⟨created, hcreated, hstarted, hrouted⟩

/-- From `create_container` on the host's addresses do not change.  Either the
container comes up, or the call panics and leaves what Docker has created. -/
theorem complete_ends {outcome : Option (Except Error Container)}
    (hexecute : execute exec origin oracle (complete body maybeAddr) world =
      some (outcome, last)) :
    last.eth42 = world.eth42 ∧ (Returned outcome ↔ Completed oracle body maybeAddr) ∧
      (said oracle (.createContainer body) = some none ∧ last = world ∨
        ∃ id, said oracle (.createContainer body) = some (some id) ∧
          last.containers.length = world.containers.length + 1) := by
  obtain ⟨created, choice, world₁, hcreated, hexec₁, hnext⟩ := execute_call hexecute
  obtain ⟨rfl, rfl, rfl⟩ | ⟨id, rfl, hstart⟩ := execute_unwrap hnext
  · obtain rfl := Option.some.inj hexec₁
    refine ⟨rfl, ?_, .inl ⟨hcreated, rfl⟩⟩
    simp [Returned, Completed, hcreated]
  obtain ⟨heth₁, hlength₁⟩ := container_created hexec₁
  obtain ⟨started, choice, world₂, hstarted, hexec₂, hchecked⟩ := execute_call hstart
  obtain ⟨heth₂, hlength₂⟩ := container_started hexec₂
  rw [completed_iff hcreated hstarted]
  obtain ⟨rfl, rfl, rfl⟩ | ⟨rfl, hroute⟩ := execute_assert hchecked
  · refine ⟨heth₂.trans heth₁, ?_, .inr ⟨id, hcreated, hlength₂.trans hlength₁⟩⟩
    simp [Returned]
  have hreached : last.eth42 = world₂.eth42 ∧ last.containers = world₂.containers ∧
      (Returned outcome ↔ Routed oracle id maybeAddr) := by
    obtain ⟨rfl, hvpn⟩ | ⟨vpnInfo, world₃, hvpn, hreturn⟩ := execute_bind_cases hroute
    · obtain ⟨heth, hcontainers, hrouted⟩ := addVpnInfo_ends hvpn
      refine ⟨heth, hcontainers, ?_⟩
      rw [← hrouted]
      simp [Returned]
    · obtain ⟨heth, hcontainers, hrouted⟩ := addVpnInfo_ends hvpn
      obtain ⟨rfl, rfl⟩ := execute_ret hreturn
      refine ⟨heth, hcontainers, ?_⟩
      rw [← hrouted]
      simp [Returned]
  obtain ⟨heth₃, hcontainers₃, hrouted⟩ := hreached
  refine ⟨heth₃.trans (heth₂.trans heth₁), ?_, .inr ⟨id, hcreated, ?_⟩⟩
  · rw [hrouted, and_iff_right rfl]
  · rw [hcontainers₃, hlength₂, hlength₁]

/-! ## All or nothing -/

theorem SameHost.refl (world : World) : SameHost world world := ⟨rfl, rfl, rfl⟩

/-- Before its first step that changes the host, `create` can fail as it likes. -/
theorem create_early {imageName : String} {ports : PortMappings}
    {outcome : Option (Except Error Container)}
    (hexecute : execute exec origin oracle (create imageName maybeAddr ports) world =
      some (outcome, last)) :
    (¬ FailsLate oracle (createBody imageName maybeAddr ports) maybeAddr ∧
        ¬ Returned outcome ∧ last = world) ∨
      (maybeAddr.all addrInRange = true ∧ said oracle .connectWithUnixDefaults = some true ∧
        execute exec origin oracle (do
          addHostAddr maybeAddr
          complete (createBody imageName maybeAddr ports) maybeAddr) world =
            some (outcome, last)) := by
  rw [create_eq] at hexecute
  obtain ⟨hrange, rfl, rfl⟩ | ⟨hrange, hconnect⟩ := execute_assert hexecute
  · refine .inl ⟨?_, by simp [Returned], rfl⟩
    rintro ⟨hpassed, -⟩
    rw [hrange] at hpassed
    cases hpassed
  obtain ⟨connected, choice, middle, hsaid, hexec, hrest⟩ := execute_call hconnect
  obtain rfl := exec_connectWithUnixDefaults hexec
  cases connected with
  | true => exact .inr ⟨hrange, hsaid, hrest⟩
  | false =>
      obtain ⟨rfl, rfl⟩ := execute_ret hrest
      refine .inl ⟨?_, by simp [Returned], rfl⟩
      rintro ⟨-, hconnected, -⟩
      rw [hsaid] at hconnected
      cases hconnected

/-- When `create` does not return a container, it leaves the host as it was
unless a call failed after the guest's address was added, or after the container
of a demo was created; then it never does. -/
theorem create_all_or_nothing {imageName : String} {ports : PortMappings}
    {outcome : Option (Except Error Container)}
    (hexecute : execute exec origin oracle (create imageName maybeAddr ports) world =
      some (outcome, last)) :
    (¬ Returned outcome → SameHost world last) ↔
      ¬ FailsLate oracle (createBody imageName maybeAddr ports) maybeAddr := by
  obtain ⟨hearly, -, rfl⟩ | ⟨hrange, hconnected, hrest⟩ := create_early hexecute
  · exact iff_of_true (fun _ => .refl _) hearly
  have hlate : ∀ {body}, FailsLate oracle body maybeAddr ↔
      Begun oracle body maybeAddr ∧ ¬ Completed oracle body maybeAddr := by
    simp [FailsLate, hrange, hconnected]
  rw [hlate]
  cases maybeAddr with
  | none =>
      obtain ⟨-, hreturned, hcreated⟩ := complete_ends hrest
      rw [hreturned, not_and_not_right]
      obtain ⟨hnone, rfl⟩ | ⟨id, hid, hlength⟩ := hcreated
      · have hnever : ¬ Begun oracle (createBody imageName none ports) none := by
          rintro ⟨id, hid⟩
          rw [hnone] at hid
          cases hid
        exact iff_of_true (fun _ => .refl _) fun hbegun => absurd hbegun hnever
      · have hchanged : ¬ SameHost world last := by
          intro hsame
          rw [hsame.containers] at hlength
          omega
        constructor
        · intro hclean _
          exact not_imp_comm.mp hclean hchanged
        · intro hdone hfailed
          exact absurd (hdone ⟨id, hid⟩) hfailed
  | some addr =>
      obtain ⟨rfl, haddr⟩ | ⟨_, middle, haddr, hcomplete⟩ := execute_bind_cases hrest
      · obtain ⟨-, hsome, -⟩ | ⟨hfalse, -, rfl⟩ := addHostAddr_ends haddr
        · cases hsome
        · have hnever : ¬ Begun oracle (createBody imageName (some addr) ports) (some addr) := by
            intro hbegun
            cases hfalse.symm.trans hbegun
          exact iff_of_true (fun _ => .refl _) fun hboth => hnever hboth.1
      · obtain ⟨htrue, -, rfl⟩ | ⟨-, hnone, -⟩ := addHostAddr_ends haddr
        · obtain ⟨heth, hreturned, -⟩ := complete_ends hcomplete
          have hchanged : ¬ SameHost world last := by
            intro hsame
            have hgrown := heth.symm.trans hsame.eth42
            exact List.cons_ne_self _ _ hgrown
          rw [hreturned, not_and_not_right]
          constructor
          · intro hclean _
            exact not_imp_comm.mp hclean hchanged
          · intro hdone hfailed
            exact absurd (hdone htrue) hfailed
        · cases hnone

/-- `ip addr add` fails. -/
def addrRefused : Oracle challd Choice
  | .ipAddrAdd _ => some (false, ⟨"", false, false⟩)
  | request => Daemon.Script.answer {} request

theorem create_all_or_nothing_addrRefused : ∃ last,
    execute exec 0 addrRefused (create "web" (some 1) []) Daemon.initialWorld =
      some (none, last) ∧ SameHost Daemon.initialWorld last := by
  have hexecute : execute exec 0 addrRefused (create "web" (some 1) []) Daemon.initialWorld =
      some (none, Daemon.initialWorld) := rfl
  refine ⟨_, hexecute, (create_all_or_nothing hexecute).mpr ?_ ?_⟩
  · rintro ⟨-, -, hbegun, -⟩
    cases hbegun
  · rintro ⟨container, hnone⟩
    cases hnone

/-- Docker does not create the container: it has no image of that name. -/
def imageUnknown : Oracle challd Choice
  | .createContainer _ => some (none, ⟨"", false, false⟩)
  | request => Daemon.Script.answer {} request

/-- The guest's address is left on `eth42`. -/
theorem host_addr_left :
    ¬ ∀ (origin : ℕ) (oracle : Oracle challd Choice) (world last : World)
      (imageName : String) (maybeAddr : Option UInt8) (ports : PortMappings)
      (outcome : Option (Except Error Container)),
      execute exec origin oracle (create imageName maybeAddr ports) world =
        some (outcome, last) → ¬ Returned outcome → SameHost world last := by
  intro hclaim
  have hexecute : execute exec 0 imageUnknown (create "web" (some 1) []) Daemon.initialWorld =
      some (none, { Daemon.initialWorld with eth42 := [1] }) := rfl
  have hsame := hclaim _ _ _ _ _ _ _ _ hexecute (by simp [Returned])
  have heth : [1] = ([] : List UInt8) := hsame.eth42
  cases heth

end ScdtServer.Creation
