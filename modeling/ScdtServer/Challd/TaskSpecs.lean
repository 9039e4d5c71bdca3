import ScdtServer.Challd.Holdings

/-!
# What the daemon's functions do with their holdings

One lemma for each function, from the holdings it is called with to those it
returns with.  A guest container and a demo differ only in `vpn`: the slot and
the bridge address of the one, nothing for the other.
-/

namespace ScdtServer.TaskSpecs

open ScdtServer.Interaction ScdtServer.Interaction.Program
open ScdtServer.ByteReader ScdtServer.Ports ScdtServer.RequestReader
open ScdtServer.Host ScdtServer.AddressManager ScdtServer.Interface ScdtServer.Main
open ScdtServer.Holdings

/-- A request before its container is created. -/
def reserved (slot : Option Slot) : Held :=
  { Held.bare .request with slot := slot }

abbrev Vpn := Option (Slot × BridgeAddr)

def Vpn.slot (vpn : Vpn) : Option Slot := vpn.map Prod.fst

def Vpn.addr (vpn : Vpn) : Option UInt8 := vpn.map fun v => addrOf v.1

/-- A task whose container is up. -/
def up (role : Role) (id : ContainerId) (vpn : Vpn) : Held :=
  { Held.bare role with
    slot := Vpn.slot vpn
    eth := Vpn.addr vpn
    container := some id
    started := true
    bridge := vpn.map Prod.snd
    rule := vpn.map fun v => ⟨addrOf v.1, v.2⟩ }

def upContainer (id : ContainerId) (vpn : Vpn) : Container.Container where
  id := some id
  vpnInfo := vpn.map fun v => ⟨addrOf v.1, v.2⟩

/-- After `shutdown`: only the slot is left, and the container if it could not
be stopped. -/
structure ShutDown (slot : Option Slot) (held : Held) : Prop where
  slot : held.slot = slot
  eth : held.eth = none
  rule : held.rule = none
  peer : held.peer = none
  child : held.child = none
  container : held.container = none ∨ held.lost = true

/-! ## Taking an address -/

theorem wp_takeNextAddrFrom {held : Held} {post : Option UInt8 → Held → Prop}
    (slots : List Slot) (hrole : held.role = .connection) (hslot : held.slot = none)
    (hsome : ∀ slot, post (some (addrOf slot)) { held with slot := some slot })
    (hnone : post none held) : wp rules (takeNextAddrFrom slots) post held := by
  induction slots with
  | nil => exact hnone
  | cons slot slots ih =>
      rw [takeNextAddrFrom, wp_bind]
      apply wp_fetchOr hrole hslot
      · rw [if_neg (by decide)]
        exact ih
      · rw [if_pos rfl]
        exact hsome slot

/-! ## The container -/

theorem wp_addVpnInfo {id : ContainerId} {slot : Slot}
    {post : Option Container.VpnInfo → Held → Prop}
    (hok : ∀ bridge, post (some ⟨addrOf slot, bridge⟩) (up .request id (some (slot, bridge)))) :
    wp rules (Container.addVpnInfo id (some (addrOf slot))) post
      { reserved (some slot) with
        eth := some (addrOf slot)
        container := some id
        started := true } := by
  rw [Container.addVpnInfo, wp_bind]
  apply wp_inspectContainer ⟨rfl, rfl⟩
  · intro response bridge hbridge
    simp only [unwrap_some, ret_bind, hbridge, wp_bind]
    apply wp_iptablesAppend ⟨rfl, rfl, rfl, rfl⟩
    · exact hok bridge
    · intro held' hfailed
      exact hfailed.ended rfl (by simp [reserved])
  · intro answer held' hbridge hfailed
    have hended := hfailed.ended rfl (by simp [reserved])
    cases answer with
    | none => exact hended
    | some response =>
        have hnone : response.bridgeAddr = none := hbridge
        simp only [unwrap_some, ret_bind, hnone, unwrap_none, panic_bind]
        exact hended

/-- Creating and starting the container, once the host address is there. -/
private theorem wp_createStarted {body : ContainerCreateBody} {held : Held}
    {rest : ContainerId → Prog (Except Container.Error Container.Container)}
    {post : Except Container.Error Container.Container → Held → Prop}
    (hpre : pre (.createContainer body) held) (hchild : held.child = none)
    (hbare : held.slot = none → held.eth = none ∧ held.rule = none ∧ held.peer = none)
    (hrest : ∀ id, wp rules (rest id) post
      { held with container := some id, started := true, bridge := none }) :
    wp rules (do
      let id ← unwrap (← createContainer body)
      assert (← startContainer id)
      rest id) post held := by
  rw [wp_bind]
  apply wp_createContainer hpre
  · intro id
    rw [unwrap_some, ret_bind, wp_bind]
    have hstart : pre (.startContainer id)
        { held with container := some id, started := false, bridge := none } :=
      ⟨rfl, rfl, hpre.2.2.2⟩
    apply wp_startContainer hstart
    · exact hrest id
    · intro held' hfailed
      exact hfailed.ended hchild hbare
  · intro held' hfailed
    exact hfailed.ended hchild hbare

/-- `create` returns an error or a container that is up; on every other exit it
has panicked. -/
theorem wp_create {imageName : String} {ports : PortMappings} {slot : Option Slot}
    {post : Except Container.Error Container.Container → Held → Prop}
    (hok : ∀ id vpn, Vpn.slot vpn = slot →
      post (.ok (upContainer id vpn)) (up .request id vpn))
    (herror : ∀ error held, rules.ended held → post (.error error) held) :
    wp rules (Container.create imageName (slot.map addrOf) ports) post
      (reserved slot) := by
  rw [Container.create, wp_bind]
  apply wp_assert_true
  · cases slot with
    | none => rfl
    | some slot => simp
  rw [wp_bind]
  apply wp_connectWithUnixDefaults
  · rw [if_neg (by decide), wp_bind]
    cases slot with
    | none =>
        apply wp_createStarted ⟨rfl, rfl, rfl, rfl⟩ rfl fun _ => ⟨rfl, rfl, rfl⟩
        intro id
        exact hok id none rfl
    | some slot =>
        rw [Option.map_some, Container.addHostAddr, wp_bind]
        apply wp_ipAddrAdd ⟨rfl, rfl, rfl⟩
        · apply wp_createStarted ⟨rfl, rfl, rfl, rfl⟩ rfl (by simp [reserved])
          intro id
          rw [wp_bind]
          apply wp_addVpnInfo
          intro bridge
          exact hok id (some (slot, bridge)) rfl
        · intro held' hfailed
          exact hfailed.ended rfl (by simp [reserved])
  · intro held' hfailed
    rw [if_pos rfl]
    exact herror _ _ (hfailed.ended rfl fun _ => ⟨rfl, rfl, rfl⟩)

theorem wp_removeVpnInfo {vpn : Vpn} {held : Held} {post : Unit → Held → Prop}
    (hslot : held.slot = Vpn.slot vpn) (heth : held.eth = Vpn.addr vpn)
    (hrule : held.rule = vpn.map fun v => ⟨addrOf v.1, v.2⟩) (hpeer : held.peer = none)
    (hchild : held.child = none) (hcontainer : held.container = none ∨ held.lost = true)
    (hpost : ∀ held', ShutDown (Vpn.slot vpn) held' → post () held') :
    wp rules (Container.removeVpnInfo (vpn.map fun v => ⟨addrOf v.1, v.2⟩)) post held := by
  cases vpn with
  | none => exact hpost held ⟨hslot, heth, hrule, hpeer, hchild, hcontainer⟩
  | some vpn =>
      rw [Option.map_some, Container.removeVpnInfo, wp_bind]
      apply wp_iptablesDelete ⟨hrule, hpeer⟩
      · rw [assert_true, ret_bind, wp_bind]
        have hdelete : pre (.ipAddrDel (addrOf vpn.1)) { held with rule := none } :=
          ⟨heth, rfl⟩
        apply wp_ipAddrDel hdelete
        · exact hpost _ ⟨hslot, rfl, rfl, hpeer, hchild, hcontainer⟩
        · intro held' hfailed
          exact hfailed.ended hchild (by simp [hslot, Vpn.slot])
      · intro held' hfailed
        exact hfailed.ended hchild (by simp [hslot, Vpn.slot])

theorem wp_shutdown {id : ContainerId} {vpn : Vpn} {post : Unit → Held → Prop}
    (hpost : ∀ held, ShutDown (Vpn.slot vpn) held → post () held) :
    wp rules (Container.shutdown (upContainer id vpn)) post (up .teardown id vpn) := by
  rw [Container.shutdown, wp_bind]
  apply wp_connectWithUnix
  · rw [if_neg (by decide), upContainer, unwrap_some, ret_bind, wp_bind]
    apply wp_stopContainer ⟨rfl, rfl, rfl⟩
    · intro result
      exact wp_removeVpnInfo rfl rfl rfl rfl rfl (.inl rfl) hpost
    · exact wp_removeVpnInfo rfl rfl rfl rfl rfl (.inr rfl) hpost
  · intro held' hfailed
    rw [if_pos rfl, upContainer, Container.unwind_drop]
    apply wp_abort hfailed.severed
    refine hfailed.ended rfl ?_
    cases vpn <;> simp [up, Held.bare, Vpn.slot, Vpn.addr]

/-! ## The teardown -/

/-- The cleanup leaves a task that may end. -/
theorem wp_cleanup {id : ContainerId} {post : Unit → Held → Prop} (vpn : Vpn)
    (hpost : ∀ held, rules.ended held → post () held) :
    wp rules (cleanup (upContainer id vpn) (Vpn.addr vpn)).poll post
      (up .teardown id vpn) := by
  simp only [cleanup, wp_bind]
  apply wp_shutdown
  intro held hdown
  have hended : ∀ held', held'.slot = none → held'.eth = held.eth →
      held'.rule = held.rule → held'.peer = held.peer → held'.child = held.child →
      held'.container = held.container → held'.lost = held.lost →
      rules.ended held' := by
    intro held' hslot heth hrule hpeer hchild hcontainer hlost
    refine ⟨hchild.trans hdown.child, ?_⟩
    rcases hdown.container with hnone | hmarked
    · exact .inr ⟨hslot, heth.trans hdown.eth, hrule.trans hdown.rule,
        hpeer.trans hdown.peer, .inl (hcontainer.trans hnone)⟩
    · exact .inl (hlost.trans hmarked)
  cases vpn with
  | none => exact hpost held (hended held hdown.slot rfl rfl rfl rfl rfl rfl)
  | some vpn =>
      simp only [Vpn.addr, Option.map_some, relinquishAddr_addrOf]
      apply wp_store ⟨hdown.slot, hdown.eth, hdown.rule, hdown.peer, hdown.container⟩
      exact hpost _ (hended _ rfl rfl rfl rfl rfl rfl rfl)

theorem wp_demoTask {id : ContainerId} {deadline : Deadline} :
    wp rules (demoTask (cleanup (upContainer id none) none) deadline)
      (fun _ => rules.ended) (up .teardown id none) := by
  rw [demoTask, wp_bind]
  apply wp_select
  intro trigger
  rw [wp_bind]
  exact wp_cleanup none fun held hended => hended

theorem wp_removePeerTask {id : ContainerId} {slot : Slot} {bridge : BridgeAddr}
    {publicKey : PublicKey} {deadline : Deadline} :
    wp rules
      (removePeerTask publicKey
        (cleanup (upContainer id (some (slot, bridge))) (some (addrOf slot))) deadline)
      (fun _ => rules.ended)
      { up .teardown id (some (slot, bridge)) with
        peer := some ⟨publicKey, addrOf slot⟩ } := by
  rw [removePeerTask, wp_bind]
  apply wp_select
  intro trigger
  rw [wp_bind]
  have hremove : pre (.removePeer publicKey)
      { up .teardown id (some (slot, bridge)) with
        peer := some ⟨publicKey, addrOf slot⟩ } := rfl
  apply wp_removePeer hremove
  · rw [if_neg (by decide), wp_bind]
    exact wp_cleanup (some (slot, bridge)) fun held hended => hended
  · intro held' hfailed
    -- the dropped cleanup still owns the container, so its `Drop` panics
    rw [if_pos rfl]
    exact hfailed.ended rfl (by simp [up, Vpn.slot])

/-! ## The request task -/

/-- The request is left with nothing but a teardown to wait for. -/
theorem wp_spawnTeardown {int : Interface} {id : ContainerId} {vpn : Vpn}
    {post : ℕ × Option WgConfig.WgConfig → Held → Prop}
    (hpost : ∀ handle maybeCfg, maybeCfg.isSome = vpn.isSome →
      post (handle, maybeCfg) { Held.bare .request with child := some handle }) :
    wp rules (spawnTeardown int (upContainer id vpn) (Vpn.addr vpn)) post
      (up .request id vpn) := by
  rw [spawnTeardown, upContainer, unwrap_some, ret_bind]
  cases vpn with
  | none =>
      refine ⟨⟨rfl, rfl⟩, wp_demoTask, fun handle => ?_⟩
      exact hpost handle none rfl
  | some vpn =>
      simp only [Vpn.addr, Option.map_some, addTempPeer, addrInRange_addrOf,
        Bool.true_eq_false, if_false, wp_bind]
      apply wp_genKeypair
      intro keypair
      rw [wp_bind]
      apply wp_configurePeer ⟨rfl, rfl, rfl, rfl, rfl⟩
      · rw [if_neg (by decide)]
        refine ⟨⟨rfl, rfl⟩, wp_removePeerTask, fun handle => ?_⟩
        exact hpost handle _ rfl
      · intro held' hfailed
        rw [if_pos rfl]
        exact hfailed.ended rfl (by simp [up, Vpn.slot])

theorem wp_writer {maybeCfg : Option WgConfig.WgConfig} :
    wp rules (respond maybeCfg) (fun _ => rules.ended) (.bare .writer) := by
  have hended : rules.ended (.bare .writer) := ⟨rfl, .inr ⟨rfl, rfl, rfl, rfl, .inl rfl⟩⟩
  have hassert : ∀ {ok : Bool} {post : Unit → Held → Prop},
      post () (.bare .writer) → wp rules (assert ok) post (.bare .writer) := by
    intro ok post hpost
    cases ok with
    | true => exact hpost
    | false => exact hended
  rw [respond, wp_bind]
  apply wp_write
  intro ok
  have hshutdown : wp rules (do assert (← shutdownStream); return (.ok () : TaskResult))
      (fun _ => rules.ended) (.bare .writer) := by
    rw [wp_bind]
    apply wp_shutdownStream
    intro ok
    rw [wp_bind]
    exact hassert hended
  cases maybeCfg with
  | none => exact hshutdown
  | some cfg =>
      rw [wp_bind, writeMaybeConfig, writeConfig, wp_bind]
      -- a panic is as good as an answer here, so whether the length fits does not matter
      generalize decide ((utf8Bytes cfg.serialize).length < 65536) = fits
      apply hassert
      rw [wp_bind]
      apply wp_write
      intro ok
      rw [wp_bind]
      apply hassert
      rw [wp_bind]
      apply wp_write
      intro ok
      exact hassert hshutdown

theorem wp_requestTask {int : Interface} {request : Request} (slot : Option Slot) :
    wp rules (requestTask int request (slot.map addrOf)) (fun _ => rules.ended)
      (reserved slot) := by
  rw [requestTask, wp_bind]
  apply wp_create
  · intro id vpn hvpn
    have haddr : slot.map addrOf = Vpn.addr vpn := by
      rw [← hvpn, Vpn.slot, Vpn.addr, Option.map_map]
      rfl
    rw [unwrapOk, pure_eq_ret, ret_bind, wp_bind, haddr]
    apply wp_spawnTeardown
    intro handle maybeCfg _
    refine ⟨trivial, wp_writer, fun writer => ?_⟩
    refine ⟨rfl, fun outcome => ?_⟩
    have hended : rules.ended { Held.bare .request with child := none } :=
      ⟨rfl, .inr ⟨rfl, rfl, rfl, rfl, .inl rfl⟩⟩
    match outcome with
    | none => exact hended
    | some (.error error) => exact hended
    | some (.ok ()) => exact hended
  · intro error held hended
    exact hended

/-! ## The connection task -/

theorem wp_refuse {code : UInt8} {held : Held} (hended : rules.ended held) :
    wp rules (refuse code) (fun _ => rules.ended) held := by
  rw [refuse, wp_bind]
  apply wp_write
  intro ok
  exact hended

theorem wp_serve {int : Interface} {request : Request} :
    wp rules (serve int request) (fun _ => rules.ended) (.bare .connection) := by
  have hended : rules.ended (.bare .connection) := ⟨rfl, .inr ⟨rfl, rfl, rfl, rfl, .inl rfl⟩⟩
  cases hmode : request.mode with
  | guestRequest code =>
      simp only [serve, hmode, wp_bind]
      apply wp_takeNextAddrFrom _ rfl rfl
      · intro slot
        exact ⟨⟨rfl, rfl⟩, wp_requestTask (some slot), fun task => hended⟩
      · exact wp_refuse hended
  | demo =>
      simp only [serve, hmode]
      exact ⟨⟨rfl, rfl⟩, wp_requestTask none, fun task => hended⟩

/-- Every connection task meets its obligations, starting with nothing. -/
theorem wp_connection (int : Interface) :
    wp rules (connection int) (fun _ => rules.ended) (.bare .connection) := by
  rw [connection, wp_bind]
  apply wp_receive
  intro result
  cases result with
  | ok request => exact wp_serve
  | error code => exact wp_refuse ⟨rfl, .inr ⟨rfl, rfl, rfl, rfl, .inl rfl⟩⟩

end ScdtServer.TaskSpecs
