import ScdtServer.CtfArchive.Calendar
import ScdtServer.CtfArchive.Pairing
import ScdtServer.CtfArchive.Sessions

/-!
# When a handler panics

The handlers unwrap what the database, the sessions and the surroundings give
them.  The rows and the tokens that the API itself makes never let it down.
-/

namespace ScdtServer.Panics

open ScdtServer.Transition
open ScdtServer.Http
open ScdtServer.Jwt
open ScdtServer.Auth
open ScdtServer.Sql
open ScdtServer.Tables
open ScdtServer.Challenges
open ScdtServer.Api
open ScdtServer.Authority
open ScdtServer.Processes
open ScdtServer.Calendar (Listable listable_of_reached list_of_listable)

/-- What is to blame for a panic: the surroundings, or a date that there is not. -/
inductive Blamed (server : Server) (environment : Environment) : Request → Panic → Prop
  | pool {request : Request} (hservice : environment.service = .noConnection) :
      Blamed server environment request .poolConnection
  | query (hservice : environment.service = .failing) :
      Blamed server environment .ctfsList .queryResult
  | date {ctf : Ctfs.CreateCtf}
      (hunreal : ctf.startDate.tryInto = none ∨ ctf.endDate.tryInto = none) :
      Blamed server environment (.ctfsCreate ctf) .dateConversion
  | signing {request : Request} {key : HS256Key} {claims : JWTClaims}
      (hfailed : server.signer.jwt.authenticate key claims = none) :
      Blamed server environment request .authenticate
  | key {r s : String} {key : AdminKey} (hlisted : key ∈ adminKeys)
      (hfailed : server.ecdsa.fromSec1Bytes (hex key.publicKey) = none) :
      Blamed server environment (.finishChallenge r s) .publicKey
  | guestConfig {challengeId : ℤ} (hchalld : environment.challd = none) :
      Blamed server environment (.start challengeId) .configUtf8
  | demoConfig {challengeId : ℤ} (hchalld : environment.challd = none) :
      Blamed server environment (.hostDemo challengeId) .configUtf8

variable {server : Server} {headers : Headers} {environment : Environment} {state : State}
variable {request : Request} {site : Panic} {E A B : Type}

/-! ## Replies -/

/-- A reply that shows nothing but the handler's own panic. -/
def Shows (reply : Handler E A → Reply) : Prop :=
  ∀ outcome site, reply outcome = .panicked site → outcome = .error (.panic site)

theorem shows_ofStatus : Shows ofStatus := by
  intro outcome site hreply
  cases outcome with
  | ok status => cases hreply
  | error abort =>
      cases abort with
      | error error => exact error.elim
      | panic found =>
          cases hreply
          rfl

theorem shows_ofTotal (body : A → Body) : Shows (ofTotal body) := by
  intro outcome site hreply
  cases outcome with
  | ok value => cases hreply
  | error abort =>
      cases abort with
      | error error => exact error.elim
      | panic found =>
          cases hreply
          rfl

theorem shows_ofValue (body : A → Body) : Shows (ofValue body) := by
  rintro ((error | site') | value) site hreply
  · cases hreply
  · cases hreply
    rfl
  · cases hreply

theorem shows_ofCreated : Shows ofCreated := by
  rintro ((error | site') | ⟨status, id⟩) site hreply
  · cases hreply
  · cases hreply
    rfl
  · cases hreply

theorem shows_ofContainer (body : String → Body) : Shows (ofContainer body) := by
  rintro ((⟨status, text⟩ | site') | config) site hreply
  · cases hreply
  · cases hreply
    rfl
  · cases hreply

theorem panicked_of_authorized {T : Type} [KeyedJWT T] {handler : T → Served}
    (hreply : (authorized server headers state T handler).reply = .panicked site) :
    ∃ value, fromRequestParts server.signer T state.now headers = .ok value ∧
      (handler value).reply = .panicked site := by
  unfold authorized at hreply
  split at hreply
  · rename_i value hvalue
    exact ⟨value, hvalue, hreply⟩
  · cases hreply

/-- A handler panics over the connection, or over the result of its statement. -/
theorem panic_of_answer {statement : Statement A} {next : Except QueryError A → Handler E B}
    {service : Service} {database : Database}
    (hpanic : (answer (execute service statement database) next).1 = .error (.panic site)) :
    (service = .noConnection ∧ site = .poolConnection) ∨
      (service = .failing ∧ next (.error .other) = .error (.panic site)) ∨
        (service = .available ∧ next (statement database).1 = .error (.panic site)) := by
  cases service with
  | noConnection =>
      cases hpanic
      exact .inl ⟨rfl, rfl⟩
  | failing => exact .inr (.inl ⟨rfl, hpanic⟩)
  | available => exact .inr (.inr ⟨rfl, hpanic⟩)

/-- A handler that takes every result of its statement. -/
theorem blamed_of_answer {statement : Statement A} {next : Except QueryError A → Handler E B}
    (hnext : ∀ result site, next result ≠ .error (.panic site))
    (hpanic : (answer (execute environment.service statement state.database) next).1 =
      .error (.panic site)) : Blamed server environment request site := by
  rcases panic_of_answer hpanic with ⟨hservice, rfl⟩ | ⟨-, hfailed⟩ | ⟨-, hfailed⟩
  · exact .pool hservice
  · exact absurd hfailed (hnext _ _)
  · exact absurd hfailed (hnext _ _)

theorem panicked_of_database {reply : Handler E A → Reply} {outcome : Handler E A × Database}
    (hshows : Shows reply) (hreply : (onDatabase state reply outcome).reply = .panicked site) :
    outcome.1 = .error (.panic site) :=
  hshows outcome.1 site hreply

/-! ## Tokens -/

theorem blamed_of_authenticate {T : Type} [KeyedJWT T] {value : T} {validFor now : Time}
    (hpanic : (authenticate server.signer value validFor now : Handler E Token) =
      .error (.panic site)) : Blamed server environment request site := by
  rcases Handler.bind_eq_error.mp hpanic with hunwrap | ⟨text, -, hdone⟩
  · cases htext : server.signer.jwt.authenticate (KeyedJWT.key T server.signer.keys)
        (withCustomClaims (KeyedJWT.serialize value) validFor now) with
    | none =>
        rw [htext] at hunwrap
        cases hunwrap
        exact .signing htext
    | some text =>
        rw [htext] at hunwrap
        cases hunwrap
  · cases hdone

theorem panicked_of_token {outcome : Handler StatusCode Token}
    (hreply : (onToken state outcome).reply = .panicked site) : outcome = .error (.panic site) :=
  shows_ofValue _ outcome site hreply

theorem blamed_of_keyPerms {r s : String} {id : UInt8} {challenge sigBytes : List UInt8}
    (hpanic : keyPerms server.ecdsa id challenge sigBytes = .error (.panic site)) :
    Blamed server environment (.finishChallenge r s) site := by
  unfold keyPerms at hpanic
  split at hpanic
  · rename_i key hkey
    split at hpanic
    · rename_i hfailed
      cases hpanic
      exact .key (List.mem_of_find?_eq_some hkey) hfailed
    · split at hpanic
      · split at hpanic <;> cases hpanic
      · cases hpanic
  · cases hpanic

/-- An accepted challenge decodes. -/
theorem blamed_of_finish {r s : String} {jwtChallenge : JWTChallenge} {bytes : List UInt8}
    {now : Time} (hdecoded : Base64.decode jwtChallenge.challenge = some bytes)
    (hpanic : finishChallenge server.ecdsa server.signer now jwtChallenge r s =
      .error (.panic site)) : Blamed server environment (.finishChallenge r s) site := by
  unfold finishChallenge at hpanic
  rw [hdecoded] at hpanic
  split at hpanic
  · rcases Handler.bind_eq_error.mp hpanic with hunwrap | ⟨challenge, -, hrest⟩
    · cases hunwrap
    · rcases Handler.bind_eq_error.mp hrest with hperms | ⟨admin, -, hproduced⟩
      · exact blamed_of_keyPerms hperms
      · exact blamed_of_authenticate hproduced
  · cases hpanic

/-! ## Rows -/

/-- The CHECK of the table knows every type of a category. -/
theorem parse_of_find {database : Database} {id : ℤ} {row : CategoryRow}
    (hrow : database.categories.find id = some row) :
    ∃ categoryType, Categories.CategoryType.parse row.categoryType = some categoryType := by
  have hadmits := Table.admits_of_find hrow
  have hvalid : row.categoryType ∈
      ["rev", "pwn", "web", "crypto", "stego", "forensics", "misc"] := by
    simpa [Schema.admits, Schema.passesAll, categorySchema, CategoryRow.validCategoryType]
      using (Bool.and_eq_true_iff.mp hadmits).2
  simp only [List.mem_cons, List.not_mem_nil, or_false] at hvalid
  rcases hvalid with htype | htype | htype | htype | htype | htype | htype <;>
  · rw [htype]
    exact ⟨_, rfl⟩

/-- What a row is shown as. -/
def categoryShown (entry : ℤ × CategoryRow) : Categories.Category where
  id := entry.1
  name := entry.2.name
  categoryType := (Categories.CategoryType.parse entry.2.categoryType).getD .miscellaneous

theorem get_rows (database : Database) (ctfId : ℤ) :
    (database.categories.filter fun row => row.ctfId == ctfId).mapM Categories.categoryOf =
      (.ok ((database.categories.filter fun row => row.ctfId == ctfId).map categoryShown) :
        Handler StatusCode (List Categories.Category)) := by
  apply Handler.mapM_eq_ok
  intro entry hmem
  obtain ⟨categoryType, hparsed⟩ := parse_of_find (Table.mem_filter_iff.mp hmem).1
  rw [Categories.categoryOf, categoryShown, hparsed]
  rfl

/-- The API writes arrays of one length. -/
theorem blamed_of_container {challengeId : ℤ} {startMode : ChalldClient.StartMode}
    {body : String → Body} (hreached : Reached anyRequest state.database)
    (hconfig : environment.challd = none → Blamed server environment request .configUtf8)
    (hreply : (onContainer environment state body
      (containerRequest environment.service state.database challengeId startMode)).reply =
        .panicked site) : Blamed server environment request site := by
  have hpanic := shows_ofContainer body _ site hreply
  rcases Handler.bind_eq_error.mp hpanic with hrequest | ⟨sent, -, hanswer⟩
  · rcases panic_of_answer hrequest with ⟨hservice, rfl⟩ | ⟨-, hfailed⟩ | ⟨-, hfailed⟩
    · exact .pool hservice
    · cases hfailed
    · cases hrow : state.database.challenges.find challengeId with
      | none =>
          simp only [getResult, hrow, Option.map_none] at hfailed
          cases hfailed
      | some row =>
          have hlength := (Pairing.sameGaps_of_reached hreached hrow).length_eq
          have hasserted : row.portNumbers.length = row.portTypes.length ∧
              (row.portNumbers.map Option.isSome).length =
                (row.portTypes.map Option.isSome).length := by
            rw [List.length_map, List.length_map]
            exact ⟨hlength, hlength⟩
          simp only [getResult, hrow, Option.map_some] at hfailed
          cases himage : row.dockerImage with
          | none =>
              rw [himage] at hfailed
              cases hfailed
          | some imageName =>
              rw [himage] at hfailed
              dsimp only at hfailed
              rw [if_pos hasserted] at hfailed
              cases hfailed
  · cases hchalld : environment.challd with
    | none =>
        rw [hchalld] at hanswer
        cases hanswer
        exact hconfig hchalld
    | some answered =>
        rw [hchalld] at hanswer
        cases answered <;> cases hanswer

/-! ## The handlers -/

theorem blamed_of_ctfsList {user : JWTUser} (hreached : Reached anyRequest state.database)
    (hpanic : (Ctfs.list environment.service state.database user).1 = .error (.panic site)) :
    Blamed server environment .ctfsList site := by
  rcases panic_of_answer hpanic with ⟨hservice, rfl⟩ | ⟨hservice, hfailed⟩ | ⟨hservice, -⟩
  · exact .pool hservice
  · cases hfailed
    exact .query hservice
  · rw [hservice, list_of_listable (listable_of_reached hreached)] at hpanic
    cases hpanic

theorem blamed_of_ctfsCreate {admin : JWTAdmin} {ctf : Ctfs.CreateCtf}
    (hpanic : (Ctfs.create environment.service state.database admin ctf).1 =
      .error (.panic site)) : Blamed server environment (.ctfsCreate ctf) site := by
  unfold Ctfs.create at hpanic
  split at hpanic
  · cases hpanic
  · split at hpanic
    · rename_i hservice
      cases hpanic
      exact .pool hservice
    · split at hpanic
      · apply blamed_of_answer _ hpanic
        intro result site hfailed
        split at hfailed <;> cases hfailed
      · rename_i hdates
        cases hpanic
        apply Blamed.date
        cases hstart : ctf.startDate.tryInto with
        | none => exact .inl rfl
        | some startDate =>
            cases hend : ctf.endDate.tryInto with
            | none => exact .inr rfl
            | some endDate => exact absurd hend (hdates startDate endDate hstart)

theorem create_panics {service : Service} {admin : JWTAdmin} {ctf : Ctfs.CreateCtf}
    (database : Database) (hcreate : admin.canCreate = true) (hservice : service ≠ .noConnection)
    (hunreal : ctf.startDate.tryInto = none ∨ ctf.endDate.tryInto = none) :
    (Ctfs.create service database admin ctf).1 = Handler.panic .dateConversion := by
  rw [Ctfs.create, hcreate, if_neg (by decide), if_neg hservice]
  split
  · rename_i hstart hend
    rw [hstart, hend] at hunreal
    rcases hunreal with hnone | hnone <;> cases hnone
  · rfl

theorem unreal_panics {admin : JWTAdmin} {ctf : Ctfs.CreateCtf}
    (hextracted : fromRequestParts server.signer JWTAdmin state.now headers = .ok admin)
    (hcreate : admin.canCreate = true) (hservice : environment.service ≠ .noConnection)
    (hunreal : ctf.startDate.tryInto = none ∨ ctf.endDate.tryInto = none) :
    (serve server headers environment state (.ctfsCreate ctf)).reply =
      .panicked .dateConversion := by
  have hpanic := create_panics state.database hcreate hservice hunreal
  simp only [serve, authorized, hextracted, onDatabase, unchanged, hpanic]
  rfl

theorem blamed_of_categoriesGet {user : JWTUser} {ctfId : ℤ}
    (hpanic : (Categories.get environment.service state.database ctfId user).1 =
      .error (.panic site)) : Blamed server environment request site := by
  rcases panic_of_answer hpanic with ⟨hservice, rfl⟩ | ⟨-, hfailed⟩ | ⟨-, hfailed⟩
  · exact .pool hservice
  · cases hfailed
  · dsimp only [getResults] at hfailed
    rw [get_rows] at hfailed
    cases hfailed

theorem blamed_of_setArchive {admin : JWTAdmin} {challengeId : ℤ} {multi : NextField}
    (hpanic : (setArchive environment.service state.database challengeId admin multi).1 =
      .error (.panic site)) : Blamed server environment request site := by
  unfold setArchive at hpanic
  split at hpanic
  · cases hpanic
  · split at hpanic
    · rename_i hservice
      cases hpanic
      exact .pool hservice
    · split at hpanic
      · cases hpanic
      · exact blamed_of_answer (fun _ _ hfailed => by cases hfailed) hpanic

theorem blamed_of_challengesCreate {admin : JWTAdmin} {query : CreateChallenge}
    {multi : NextField}
    (hpanic : (Challenges.create environment.service state.database query admin multi).1 =
      .error (.panic site)) : Blamed server environment request site := by
  unfold Challenges.create at hpanic
  split at hpanic
  · cases hpanic
  · split at hpanic
    · cases hpanic
    · apply blamed_of_answer _ hpanic
      intro result site hfailed
      split at hfailed <;> cases hfailed

theorem blamed_of_request (hreached : Reached anyRequest state.database)
    (hdecoded : ∀ jwtChallenge, fromRequestParts server.signer JWTChallenge state.now headers =
      .ok jwtChallenge → ∃ bytes, Base64.decode jwtChallenge.challenge = some bytes)
    (hreply : (serve server headers environment state request).reply = .panicked site) :
    Blamed server environment request site := by
  cases request with
  | ctfsList =>
      obtain ⟨user, -, hhandler⟩ := panicked_of_authorized hreply
      exact blamed_of_ctfsList hreached (panicked_of_database (shows_ofTotal _) hhandler)
  | ctfsCreate ctf =>
      obtain ⟨admin, -, hhandler⟩ := panicked_of_authorized hreply
      exact blamed_of_ctfsCreate (panicked_of_database shows_ofCreated hhandler)
  | categoriesGet ctfId =>
      obtain ⟨user, -, hhandler⟩ := panicked_of_authorized hreply
      exact blamed_of_categoriesGet (panicked_of_database (shows_ofValue _) hhandler)
  | categoriesCreate category =>
      obtain ⟨admin, -, hhandler⟩ := panicked_of_authorized hreply
      have hpanic := panicked_of_database shows_ofCreated hhandler
      unfold Categories.create at hpanic
      split at hpanic
      · cases hpanic
      · apply blamed_of_answer _ hpanic
        intro result site hfailed
        split at hfailed <;> cases hfailed
  | challengesList categoryId =>
      obtain ⟨user, -, hhandler⟩ := panicked_of_authorized hreply
      apply blamed_of_answer _ (panicked_of_database (shows_ofValue _) hhandler)
      intro result site hfailed
      split at hfailed <;> cases hfailed
  | getMetadata challengeId =>
      obtain ⟨user, -, hhandler⟩ := panicked_of_authorized hreply
      apply blamed_of_answer _ (panicked_of_database (shows_ofValue _) hhandler)
      intro result site hfailed
      split at hfailed <;> cases hfailed
  | challengesCreate query multi =>
      obtain ⟨admin, -, hhandler⟩ := panicked_of_authorized hreply
      exact blamed_of_challengesCreate (panicked_of_database shows_ofCreated hhandler)
  | getArchive challengeId =>
      obtain ⟨user, -, hhandler⟩ := panicked_of_authorized hreply
      apply blamed_of_answer _ (panicked_of_database (shows_ofValue _) hhandler)
      intro result site hfailed
      split at hfailed <;> cases hfailed
  | start challengeId =>
      obtain ⟨user, -, hhandler⟩ := panicked_of_authorized hreply
      exact blamed_of_container hreached .guestConfig hhandler
  | configureDocker challengeId imageName portMap =>
      obtain ⟨admin, -, hhandler⟩ := panicked_of_authorized hreply
      have hpanic := panicked_of_database shows_ofStatus hhandler
      unfold configureDocker at hpanic
      split at hpanic
      · cases hpanic
      · apply blamed_of_answer _ hpanic
        intro result site hfailed
        split at hfailed <;> cases hfailed
  | getFlag challengeId =>
      obtain ⟨user, -, hhandler⟩ := panicked_of_authorized hreply
      apply blamed_of_answer _ (panicked_of_database (shows_ofValue _) hhandler)
      intro result site hfailed
      split at hfailed <;> cases hfailed
  | setConnectionInstructions challengeId body =>
      obtain ⟨admin, -, hhandler⟩ := panicked_of_authorized hreply
      split at hhandler
      · have hpanic := panicked_of_database shows_ofStatus hhandler
        unfold setConnectionInstructions at hpanic
        split at hpanic
        · cases hpanic
        · exact blamed_of_answer (fun _ _ hfailed => by cases hfailed) hpanic
      · cases hhandler
  | hostDemo challengeId =>
      obtain ⟨admin, -, hhandler⟩ := panicked_of_authorized hreply
      unfold hostDemo at hhandler
      split at hhandler
      · cases hhandler
      · exact blamed_of_container hreached .demoConfig hhandler
  | setArchive challengeId multi =>
      obtain ⟨admin, -, hhandler⟩ := panicked_of_authorized hreply
      exact blamed_of_setArchive (panicked_of_database shows_ofStatus hhandler)
  | initiateChallenge id =>
      have hpanic := panicked_of_token hreply
      unfold initiateChallenge at hpanic
      split at hpanic
      · cases hpanic
      · split at hpanic
        · cases hpanic
        · exact blamed_of_authenticate hpanic
  | finishChallenge r s =>
      obtain ⟨jwtChallenge, hextracted, hhandler⟩ := panicked_of_authorized hreply
      obtain ⟨bytes, hbytes⟩ := hdecoded jwtChallenge hextracted
      exact blamed_of_finish hbytes (panicked_of_token hhandler)
  | generateCode =>
      obtain ⟨admin, -, hhandler⟩ := panicked_of_authorized hreply
      have hpanic := shows_ofValue _ _ _ hhandler
      unfold Guest.generateCode at hpanic
      split at hpanic
      · cases hpanic
      · split at hpanic <;> cases hpanic
  | wipeCodes =>
      obtain ⟨admin, -, hhandler⟩ := panicked_of_authorized hreply
      cases hhandler
  | redeemCode code =>
      have hpanic : (Guest.redeemCode server.signer state.codes state.now code).1 =
          .error (.panic site) := shows_ofValue _ _ _ hreply
      unfold Guest.redeemCode at hpanic
      split at hpanic
      · exact blamed_of_authenticate hpanic
      · cases hpanic

/-! ## All reachable states -/

theorem reached_of_run {condition : State → Event → Prop} {now : Time} {found : Database}
    {events : List Event} (hreached : Reached anyRequest found)
    (hrun : Run (restrict (Step server) condition) (.start now found) events state) :
    Reached anyRequest state.database :=
  .process hreached (hrun.mono fun _ _ _ hstep => ⟨hstep.1, fun _ _ => trivial⟩)

/-- On every database that the API can have led to, and after every run on it, only what
is to blame for it makes a handler panic; a date that there is not always does. -/
theorem panics_blamed {now : Time} {found : Database} {events : List Event}
    (hreached : Reached anyRequest found)
    (hrun : Run (restrict (Step server) (Unforged server)) (.start now found) events state)
    {exchange : Exchange} {next : State}
    (hstep : restrict (Step server) (Unforged server) state (.exchange exchange) next) :
    (∀ site, exchange.reply = .panicked site →
      Blamed server exchange.environment exchange.request site) ∧
    ∀ ctf admin, exchange.request = .ctfsCreate ctf →
      fromRequestParts server.signer JWTAdmin state.now exchange.headers = .ok admin →
        admin.canCreate = true → exchange.environment.service ≠ .noConnection →
          (ctf.startDate.tryInto = none ∨ ctf.endDate.tryInto = none) →
            exchange.reply = .panicked .dateConversion := by
  obtain ⟨hstep, hunforged⟩ := hstep
  generalize hevent : Event.exchange exchange = event at hstep hunforged
  cases hstep with
  | expire => cases hevent
  | elapse => cases hevent
  | @exchange headers environment _ request =>
      obtain rfl := Event.exchange.inj hevent
      constructor
      · intro site hreply
        apply blamed_of_request (reached_of_run hreached hrun) _ hreply
        intro jwtChallenge hextracted
        obtain ⟨bytes, challenge, hencoded, -⟩ :=
          challenge_of_extracted (origin_of_run hrun) hunforged hextracted
        rw [hencoded]
        exact ⟨bytes.toList, Base64.decode_encode bytes.toList⟩
      · rintro ctf admin rfl hextracted hcreate hservice hunreal
        exact unreal_panics hextracted hcreate hservice hunreal

/-- An event in February. -/
def februaryEvent : Ctfs.CreateCtf := ⟨"event", ⟨2024, 2, 30⟩, ⟨2024, 3, 1⟩⟩

theorem panics_blamed_february :
    let exchange := exchangeOf Sessions.knownServer wipeHeaders Sessions.knownEnvironment
      Sessions.known2 (.ctfsCreate februaryEvent)
    exchange.reply = .panicked .dateConversion ∧
      Blamed Sessions.knownServer exchange.environment exchange.request .dateConversion := by
  have hrun : Run (restrict (Step Sessions.knownServer) (Unforged Sessions.knownServer))
      Sessions.known0 Sessions.signingIn Sessions.known2 :=
    Sessions.signingIn_run.mono fun _ _ _ hstep => ⟨hstep.1, hstep.2.1⟩
  have hunforged : Unforged Sessions.knownServer Sessions.known2 (.exchange (exchangeOf
      Sessions.knownServer wipeHeaders Sessions.knownEnvironment Sessions.known2
      (.ctfsCreate februaryEvent))) :=
    Sessions.unforged_of_shown (by decide +kernel)
  have hboth := panics_blamed .here hrun ⟨.exchange, hunforged⟩
  have hreply := hboth.2 februaryEvent ⟨0, true, true, true, true⟩ rfl (by decide +kernel) rfl
    nofun (by decide)
  exact ⟨hreply, hboth.1 _ hreply⟩

end ScdtServer.Panics
