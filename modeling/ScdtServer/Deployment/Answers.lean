import ScdtServer.Deployment.Provenance

/-!
# What the client of the archive is told

The answer of challd becomes the response to the request that has called it.  So
whoever is told that a container has been started for them can rely on it.
-/

namespace ScdtServer.Deployment

open ScdtServer.Transition ScdtServer.ByteReader
open ScdtServer.Host ScdtServer.AddressManager ScdtServer.WgConfig ScdtServer.RequestReader
open ScdtServer.Interface ScdtServer.Main ScdtServer.Daemon ScdtServer.Records
open ScdtServer.Errands (config configBytes)
open ScdtServer.Http ScdtServer.Tables ScdtServer.Challenges ScdtServer.ChalldClient
open ScdtServer.Jwt ScdtServer.Models
open ScdtServer.Api (Server State Exchange Environment Reply sent_cases)
open ScdtServer.Sessions

/-- The archive has made its answer of what challd has written on the connection of
the call, or of the beginning of it. -/
structure Heard (machine : Machine) (origin position : ℕ) (exchange : Exchange)
    (sent : ContainerRequest) : Prop where
  opened : machine.opened origin = some position
  calls : Calls machine.events position exchange sent
  heard : ∃ received closed rest,
    received <+: stream bytesWritten machine.origins origin machine.actions ∧
      (readResponse sent.startMode).run received closed =
        .finished exchange.environment.challd rest

/-- What can be told about a connection. -/
inductive Told (int : Interface) (machine : Machine) (origin : ℕ) :
    StartMode → Except ChalldError String → Prop
  | io {startMode : StartMode} : Told int machine origin startMode (.error .io)
  | refused {startMode : StartMode} {code : UInt8}
      (hunserviced : Unserviced machine.challd origin)
      (hcode : code = resultMalformedRequest ∨ code = resultInvalidPort ∨
        (code = resultBusy ∧ startMode.isGuest = true)) :
      Told int machine origin startMode (.error (.responseCode code))
  | demo (hstarted : Started machine.challd origin) : Told int machine origin .demo (.ok "")
  | guest {code : GuestCode} {slot : Slot} {keypair : Keypair}
      (hstarted : Started machine.challd origin)
      (hslot : TookFor machine.actions machine.origins origin slot)
      (hgenerated : Generated machine.actions machine.origins origin keypair)
      (hconfigured : Configured machine.actions machine.origins origin
        ⟨keypair.pubkey, addrOf slot⟩) :
      Told int machine origin (.guest code) (.ok (config int slot keypair).serialize)

/-- The response that becomes of an answer. -/
def replyOf : StartMode → Except ChalldError String → Reply
  | .guest _, .ok text => .response .ok (.text text)
  | .demo, .ok _ => .response .ok .empty
  | _, .error error => .response .internalServerError (.error (.challd error))

variable {server : Server} {panics : DoublePanic} {int : Interface} {now : Time}
variable {database : Database}
variable {labels : List Label} {machine : Machine} {origin position : ℕ} {exchange : Exchange}
variable {sent : ContainerRequest}

/-! ## The archive's side -/

theorem reply_of_sent {headers : Headers} {environment : Environment} {state : State}
    {request : Api.Request} {told : Except ChalldError String}
    (hsent : (Api.serve server headers environment state request).sent = some sent)
    (htold : environment.challd = some told) :
    (Api.serve server headers environment state request).reply = replyOf sent.startMode told := by
  rcases sent_cases hsent with
    ⟨challengeId, user, rfl, hextracted, hrequest⟩ |
      ⟨challengeId, admin, rfl, hextracted, hhosts, hrequest⟩
  · obtain ⟨row, -, -, -, hmode, -⟩ := containerRequest_eq_ok hrequest
    simp only [Api.serve, Api.authorized, hextracted, Api.onContainer, start, hrequest, htold,
      hmode, Api.unchanged]
    cases told <;> rfl
  · obtain ⟨row, -, -, -, hmode, -⟩ := containerRequest_eq_ok hrequest
    have hhost : hostDemo environment.service state.database challengeId admin =
        containerRequest environment.service state.database challengeId .demo := by
      rw [hostDemo, hhosts]
      rfl
    simp only [Api.serve, Api.authorized, hextracted, Api.onContainer, hhost, hrequest, htold,
      hmode, Api.unchanged]
    cases told <;> rfl

theorem Wired.reply {told : Except ChalldError String}
    (hwired : Wired server panics int now database machine)
    (hcalls : Calls machine.events position exchange sent)
    (htold : exchange.environment.challd = some told) :
    exchange.reply = replyOf sent.startMode told := by
  obtain ⟨middle, next, -, hstep⟩ := hwired.archive.unrestrict.step_at hcalls.event
  generalize hevent : Api.Event.exchange exchange = event at hstep
  cases hstep with
  | expire => cases hevent
  | elapse => cases hevent
  | exchange =>
      obtain rfl := Api.Event.exchange.inj hevent
      exact reply_of_sent hcalls.sent htold

/-! ## The answer -/

theorem mode_of_started (hwired : Wired server panics int now database machine)
    (hopened : machine.opened origin = some position)
    (hcalls : Calls machine.events position exchange sent)
    (hstarted : Started machine.challd origin) :
    sent.startMode.isGuest = true ↔
      ∃ slot, TookFor machine.actions machine.origins origin slot := by
  obtain ⟨id, container, hat, rfl, -⟩ := hstarted
  obtain ⟨maybeSlot, hmode, hasked⟩ := hwired.asked hat hopened hcalls
  rw [← hmode, Option.isSome_iff_exists]
  exact exists_congr fun slot => hasked.slot slot

/-- What a client reads that has been sent a response is what it says. -/
theorem told_of_deserved (hwired : Wired server panics int now database machine)
    (hopened : machine.opened origin = some position)
    (hcalls : Calls machine.events position exchange sent) {response leftover : List UInt8}
    {answer : Option (Except ChalldError String)}
    (hdeserved : Deserved int machine.actions machine.challd origin response)
    (hrun : (readResponse sent.startMode).run response false = .finished answer leftover) :
    ∃ told, answer = some told ∧ Told int machine origin sent.startMode told := by
  have hreads : ∀ {value}, Reads (readResponse sent.startMode) response value →
      value = answer := by
    intro value hvalue
    have hwhole := hvalue [] false
    rw [List.append_nil, hrun] at hwhole
    cases hwhole
    rfl
  have hmode := fun hstarted => mode_of_started hwired hopened hcalls hstarted
  cases hdeserved with
  | @invalid code hunserviced hcode =>
      have hne : code ≠ responseOk := by
        rcases hcode with rfl | rfl <;> decide
      refine ⟨_, (hreads (reads_code hne)).symm, .refused hunserviced ?_⟩
      exact hcode.imp_right .inl
  | @busy request hunserviced hencodable hinput hguest =>
      have hmessage := hwired.carried hopened hcalls
      rw [hinput] at hmessage
      obtain rfl := eq_understood hencodable (name_of_calls hwired.archive.unrestrict hcalls)
        hmessage
      refine ⟨_, (hreads (reads_code (by decide))).symm, .refused hunserviced ?_⟩
      exact .inr (.inr ⟨rfl, (isGuest_modeOf sent.startMode).symm.trans hguest⟩)
  | demo hstarted hslot =>
      have hdemo : sent.startMode.isGuest = false := by
        rw [← Bool.not_eq_true, hmode hstarted]
        exact fun ⟨slot, htook⟩ => hslot slot htook
      refine ⟨_, (hreads (reads_demoOk hdemo)).symm, ?_⟩
      cases hstart : sent.startMode with
      | demo => exact .demo hstarted
      | guest code =>
          rw [hstart] at hdemo
          cases hdemo
  | @guest slot keypair hstarted hslot hgenerated hconfigured =>
      have hguest := (hmode hstarted).mpr ⟨slot, hslot⟩
      cases hstart : sent.startMode with
      | demo =>
          rw [hstart] at hguest
          cases hguest
      | guest code =>
          by_cases hlength : (utf8Bytes (config int slot keypair).serialize).length < 65536
          · rw [configBytes, if_pos hlength] at hreads
            exact ⟨_, (hreads (reads_guestOk hguest hlength)).symm,
              .guest hstarted hslot hgenerated hconfigured⟩
          · rw [configBytes, if_neg hlength, hstart] at hrun
            cases hrun

/-- The guest's request is served, and its writer writes all of the configuration. -/
def answeringGuest : List Move := servingGuest ++ Script.steps {} 3 3

/-- The guest's call has been answered with all that has been written for it. -/
def isHeard (machine : Machine) : Bool :=
  match (machine.events[9]? : Option Api.Event) with
  | some (.exchange exchange) =>
      decide (machine.opened 0 = some 9 ∧ exchange.sent = some guestRequest ∧
        exchange.environment.challd = some (.ok guestText) ∧
          stream bytesWritten machine.origins 0 machine.actions =
            responseOk :: leBytes 2 (utf8Bytes guestText).length ++ utf8Bytes guestText)
  | _ => false

end ScdtServer.Deployment
