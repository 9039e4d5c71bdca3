import ScdtServer.CtfArchive.Effects

/-!
# What it takes to change something

Every handler checks the permission it needs by itself.  What a step changes is
read off the list of effects, with the permission that it takes.
-/

namespace ScdtServer.Privileges

open ScdtServer.Transition
open ScdtServer.Http
open ScdtServer.Models
open ScdtServer.Jwt
open ScdtServer.Codes
open ScdtServer.Sql
open ScdtServer.Tables
open ScdtServer.Challenges
open ScdtServer.ChalldClient
open ScdtServer.Api
open ScdtServer.Processes
open ScdtServer.Effects

variable {server : Server} {headers : Headers} {environment : Environment} {state : State}
variable {request : Request}

/-! ## Which columns change -/

/-- The other columns. -/
def undocked (row : ChallengeRow) : ChallengeRow :=
  { row with dockerImage := none, portNumbers := [], portTypes := [] }

/-- The databases differ at most in the docker columns of challenges that are in
both. -/
structure SameButDocker (before after : Database) : Prop where
  ctfs : after.ctfs = before.ctfs
  categories : after.categories = before.categories
  challenges : ∀ id, (after.challenges.find id).map undocked =
    (before.challenges.find id).map undocked
  sequence : after.challenges.sequence = before.challenges.sequence

theorem SameButDocker.refl (database : Database) : SameButDocker database database :=
  ⟨rfl, rfl, fun _ => rfl, rfl⟩

variable {before after : Database} {admin : JWTAdmin}

theorem sameButDocker_of_writes (hwritten : Writes request before after)
    (hpermitted : permits admin request = true) :
    SameButDocker before after ∨ admin.canCreate = true := by
  cases hwritten with
  | nothing => exact .inl (.refl _)
  | @docker _ _ kept portMap =>
      refine .inl ⟨rfl, rfl, ?_, Table.update_sequence _⟩
      exact fun _ => Table.find_update_map (configured kept portMap) undocked fun _ => rfl
  | _ => exact .inr hpermitted

/-- What becomes of the docker columns of a challenge. -/
theorem dockerColumns_of_writes {id : ℤ} {row : ChallengeRow}
    (hwritten : Writes request before after) (hpermitted : permits admin request = true)
    (hfound : before.challenges.find id = some row) :
    (after.challenges.find id).map dockerColumns = some (dockerColumns row) ∨
      admin.canDocker = true := by
  by_cases hdocker : ∃ imageName portMap, request = .configureDocker id imageName portMap
  · obtain ⟨imageName, portMap, rfl⟩ := hdocker
    exact .inr hpermitted
  · apply Or.inl
    apply dockerColumns_kept hwritten hfound
    intro imageName portMap hrequest
    exact hdocker ⟨imageName, portMap, hrequest⟩

/-! ## Privileges -/

/-- The event is a request of an administrator with a permission. -/
def Requested (server : Server) (state : State) (event : Event)
    (permission : JWTAdmin → Bool) : Prop :=
  ∃ exchange admin, event = .exchange exchange ∧
    fromRequestParts server.signer JWTAdmin state.now exchange.headers = .ok admin ∧
      permission admin = true

/-- What a step does, it may do. -/
structure Separated (server : Server) (state : State) (event : Event) (next : State) :
    Prop where
  docker : ∀ id row, state.database.challenges.find id = some row →
    (next.database.challenges.find id).map dockerColumns ≠ some (dockerColumns row) →
      Requested server state event JWTAdmin.canDocker
  create : ¬ SameButDocker state.database next.database →
    Requested server state event JWTAdmin.canCreate
  invite : ∀ code ∈ next.codes.set, code ∉ state.codes.set →
    Requested server state event JWTAdmin.canInvite
  demo : ∀ exchange sent, event = .exchange exchange → exchange.sent = some sent →
    sent.startMode = .demo → Requested server state event JWTAdmin.canHostDemo
  guest : ∀ exchange sent code, event = .exchange exchange → exchange.sent = some sent →
    sent.startMode = .guest code → ∃ user, code = user.code ∧
      fromRequestParts server.signer JWTUser state.now exchange.headers = .ok user
  refused : ∀ exchange, event = .exchange exchange → Refused exchange.reply →
    next.database = state.database ∧ next.codes = state.codes ∧ exchange.sent = none

/-- A step that leaves the database alone needs no permission for it. -/
theorem separated_of_database {event : Event} {next : State}
    (hdatabase : next.database = state.database)
    (hinvite : ∀ code ∈ next.codes.set, code ∉ state.codes.set →
      Requested server state event JWTAdmin.canInvite)
    (hsender : ∀ exchange sent, event = .exchange exchange → exchange.sent = some sent →
      Sender server exchange.headers state.now sent.startMode)
    (hrefused : ∀ exchange, event = .exchange exchange → Refused exchange.reply →
      next.codes = state.codes ∧ exchange.sent = none) :
    Separated server state event next where
  docker := by
    intro id row hfound hchanged
    rw [hdatabase, hfound] at hchanged
    exact absurd rfl hchanged
  create := by
    intro hchanged
    rw [hdatabase] at hchanged
    exact absurd (.refl _) hchanged
  invite := hinvite
  demo := by
    intro exchange sent hexchange hsent hmode
    have hsent' := hsender exchange sent hexchange hsent
    rw [hmode] at hsent'
    cases hsent' with
    | @demo admin hextracted hpermitted =>
        exact ⟨exchange, admin, hexchange, hextracted, hpermitted⟩
  guest := by
    intro exchange sent code hexchange hsent hmode
    have hsent' := hsender exchange sent hexchange hsent
    rw [hmode] at hsent'
    cases hsent' with
    | @guest user hextracted => exact ⟨user, rfl, hextracted⟩
  refused := fun exchange hexchange hreply => ⟨hdatabase, hrefused exchange hexchange hreply⟩

/-- A step of the set of codes, or of time. -/
theorem separated_of_silent {event : Event} {next : State}
    (hevent : ∀ exchange, event ≠ .exchange exchange)
    (hdatabase : next.database = state.database)
    (hcodes : next.codes.set ⊆ state.codes.set) : Separated server state event next := by
  apply separated_of_database hdatabase
  · exact fun _ hmem hnew => absurd (hcodes hmem) hnew
  · exact fun exchange _ hexchange => absurd hexchange (hevent exchange)
  · exact fun exchange hexchange => absurd hexchange (hevent exchange)

/-- The same for an exchange. -/
theorem separated_of_exchange {exchange : Exchange} {next : State}
    (hdatabase : next.database = state.database)
    (hinvite : ∀ code ∈ next.codes.set, code ∉ state.codes.set →
      Requested server state (.exchange exchange) JWTAdmin.canInvite)
    (hsender : ∀ sent, exchange.sent = some sent →
      Sender server exchange.headers state.now sent.startMode)
    (hrefused : Refused exchange.reply → next.codes = state.codes ∧ exchange.sent = none) :
    Separated server state (.exchange exchange) next := by
  apply separated_of_database hdatabase hinvite
  · intro other sent hexchange hsent
    obtain rfl := Event.exchange.inj hexchange
    exact hsender sent hsent
  · intro other hexchange hreply
    obtain rfl := Event.exchange.inj hexchange
    exact hrefused hreply

theorem separated_of_effect
    (heffect : Effect server headers state request
      (serve server headers environment state request)) :
    Separated server state (.exchange (exchangeOf server headers environment state request))
      (afterRequest server headers environment state request) := by
  cases heffect with
  | nothing hdatabase hcodes hsent =>
      apply separated_of_exchange hdatabase
      · intro code hmem hnew
        exact absurd ((congrArg InMemorySet.set hcodes).subset hmem) hnew
      · intro sent hsent'
        cases hsent.symm.trans hsent'
      · exact fun _ => ⟨hcodes, hsent⟩
  | forgets hcodes hdatabase hsent hreply =>
      apply separated_of_exchange hdatabase
      · exact fun code hmem hnew => absurd (hcodes hmem) hnew
      · intro sent hsent'
        cases hsent.symm.trans hsent'
      · intro hrefused
        exact absurd hrefused hreply
  | @sends sent hsent hsender hdatabase hcodes hreply =>
      apply separated_of_exchange hdatabase
      · intro code hmem hnew
        exact absurd ((congrArg InMemorySet.set hcodes).subset hmem) hnew
      · intro sent' hsent'
        obtain rfl := Option.some.inj (hsent.symm.trans hsent')
        exact hsender
      · intro hrefused
        exact absurd hrefused hreply
  | @invites admin hextracted hpermitted hdatabase hsent hreply =>
      apply separated_of_exchange hdatabase
      · exact fun _ _ _ => ⟨_, admin, rfl, hextracted, hpermitted⟩
      · intro sent hsent'
        cases hsent.symm.trans hsent'
      · intro hrefused
        exact absurd hrefused hreply
  | @writes admin hextracted hpermitted hwritten hcodes hsent hreply _ =>
      constructor
      · intro id row hfound hchanged
        cases dockerColumns_of_writes hwritten hpermitted hfound with
        | inl hsame => exact absurd hsame hchanged
        | inr hdocker => exact ⟨_, admin, rfl, hextracted, hdocker⟩
      · intro hchanged
        cases sameButDocker_of_writes hwritten hpermitted with
        | inl hsame => exact absurd hsame hchanged
        | inr hcreate => exact ⟨_, admin, rfl, hextracted, hcreate⟩
      · intro code hmem hnew
        exact absurd ((congrArg InMemorySet.set hcodes).subset hmem) hnew
      · intro exchange sent hexchange hsent'
        obtain rfl := Event.exchange.inj hexchange
        cases hsent.symm.trans hsent'
      · intro exchange sent code hexchange hsent'
        obtain rfl := Event.exchange.inj hexchange
        cases hsent.symm.trans hsent'
      · intro exchange hexchange hrefused
        obtain rfl := Event.exchange.inj hexchange
        exact absurd hrefused hreply

theorem step_separated {event : Event} {next : State} (hstep : Step server state event next) :
    Separated server state event next := by
  cases hstep with
  | exchange => exact separated_of_effect serve_effect
  | @expire _ timer =>
      apply separated_of_silent
      · intro exchange hexchange
        cases hexchange
      · rfl
      · exact Finset.erase_subset timer.value state.codes.set
  | elapse =>
      apply separated_of_silent
      · intro exchange hexchange
        cases hexchange
      · rfl
      · exact Finset.Subset.refl state.codes.set

/-! ## Runs without privileges -/

/-- No administrator who may configure docker or create anything is at work. -/
def Unprivileged (server : Server) (state : State) (event : Event) : Prop :=
  ∀ exchange admin, event = .exchange exchange →
    fromRequestParts server.signer JWTAdmin state.now exchange.headers = .ok admin →
      admin.canDocker = false ∧ admin.canCreate = false

theorem permits_unprivileged {admin : JWTAdmin} (request : Request)
    (hdocker : admin.canDocker = false) (hcreate : admin.canCreate = false) :
    permits admin request = false := by
  cases request with
  | configureDocker challengeId imageName portMap => exact hdocker
  | ctfsCreate | categoriesCreate | challengesCreate | setConnectionInstructions
  | setArchive => exact hcreate
  | _ => rfl

theorem step_unprivileged {event : Event} {next : State}
    (hstep : Step server state event next) (hlacks : Unprivileged server state event) :
    next.database = state.database := by
  cases hstep with
  | expire => rfl
  | elapse => rfl
  | @exchange headers environment _ request =>
      have heffect : Effect server headers state request
          (serve server headers environment state request) :=
        serve_effect
      cases heffect with
      | nothing hdatabase => exact hdatabase
      | sends _ _ hdatabase => exact hdatabase
      | invites _ _ hdatabase => exact hdatabase
      | forgets _ hdatabase => exact hdatabase
      | @writes admin hextracted hpermitted =>
          obtain ⟨hdocker, hcreate⟩ := hlacks _ admin rfl hextracted
          rw [permits_unprivileged request hdocker hcreate] at hpermitted
          cases hpermitted

/-- Every step of every run does only what it may, and runs without privileges do
not change the database. -/
theorem privileges {start last : State} {events : List Event}
    (hrun : Run (Step server) start events last) :
    (∀ position event, events[position]? = some event →
      ∃ state next, Run (Step server) start (events.take position) state ∧
        Step server state event next ∧ Separated server state event next) ∧
    (Run (restrict (Step server) (Unprivileged server)) start events last →
      last.database = start.database) := by
  constructor
  · intro position event hat
    obtain ⟨state, next, hbefore, hstep⟩ := hrun.step_at hat
    exact ⟨state, next, hbefore, hstep, step_separated hstep⟩
  · intro hlacks
    apply hlacks.invariant (fun state => state.database = start.database) rfl
    intro state event next hsame hstep
    exact (step_unprivileged hstep.1 hstep.2).trans hsame

/-! ## An administrator and a guest -/

/-- A challenge with an image. -/
def hosted : Database :=
  afterAdmin oneChallenge (.configureDocker 1 "nginx" ⟨[(80, .tcp)], by decide⟩)

/-- The headers of a guest. -/
def guestHeaders : Headers
  | .userJwt => some ⟨[117]⟩
  | _ => none

/-- challd answers with a configuration. -/
def answering : Environment := ⟨none, none, .available, some (.ok "[Interface]")⟩

def exchanged (headers : Headers) (state : State) (request : Request) : Exchange :=
  exchangeOf exampleServer headers answering state request

def afterExchange (headers : Headers) (state : State) (request : Request) : State :=
  afterRequest exampleServer headers answering state request

/-- After an administrator has created a second challenge. -/
def created : State := afterExchange exampleHeaders (.start 0 hosted) (challengeRequest "second")

/-- After a guest has tried to create a category. -/
def attempted : State := afterExchange guestHeaders created webRequest

/-- After the guest has started the first challenge. -/
def started : State := afterExchange guestHeaders attempted (.start 1)

def session : List Event :=
  [.exchange (exchanged exampleHeaders (.start 0 hosted) (challengeRequest "second")),
    .exchange (exchanged guestHeaders created webRequest),
    .exchange (exchanged guestHeaders attempted (.start 1))]

theorem guest_unprivileged (state : State) (request : Request) :
    Unprivileged exampleServer state (.exchange (exchanged guestHeaders state request)) := by
  intro exchange admin hexchange hextracted
  obtain rfl := Event.exchange.inj hexchange
  cases hextracted

/-- Each of the three did what they may, and the guest has changed nothing. -/
theorem privileges_session :
    (∀ position event, session[position]? = some event →
      ∃ state next, Run (Step exampleServer) (.start 0 hosted) (session.take position) state ∧
        Step exampleServer state event next ∧ Separated exampleServer state event next) ∧
    started.database = created.database ∧
    (created.database.challenges.find 2).isSome = true ∧
    Refused (exchanged guestHeaders created webRequest).reply ∧
    (exchanged guestHeaders attempted (.start 1)).sent =
      some ⟨"nginx", [(80, 80, .tcp)], .guest ⟨7⟩⟩ := by
  have hrun : Run (Step exampleServer) (.start 0 hosted) session started :=
    .snoc (.snoc (.snoc .nil .exchange) .exchange) .exchange
  have hguest : Run (Step exampleServer) created session.tail started :=
    .snoc (.snoc .nil .exchange) .exchange
  have hlacks : Run (restrict (Step exampleServer) (Unprivileged exampleServer)) created
      session.tail started :=
    .snoc (.snoc .nil ⟨.exchange, guest_unprivileged created webRequest⟩)
      ⟨.exchange, guest_unprivileged attempted (.start 1)⟩
  exact ⟨(privileges hrun).1, (privileges hguest).2 hlacks, by decide, trivial, by decide⟩

end ScdtServer.Privileges
