import ScdtServer.CtfArchive.Redemption

/-!
# How long an insertion lasts

The task of an insertion removes the value when the insertion is due, and so
does the task of any other insertion of the value that still sleeps.  Insertions
last as long as they should if no value is inserted while the tasks of earlier
insertions can cut it short, or while its own task can cut those short.
-/

namespace ScdtServer.Expiry

open ScdtServer.Transition
open ScdtServer.Http
open ScdtServer.Models
open ScdtServer.Jwt
open ScdtServer.Codes
open ScdtServer.Tables
open ScdtServer.Api
open ScdtServer.Redemption

variable {T : Type} {past ops : List (Op T)} {before after current : Clocked T}
variable {op : Op T} {timer : Timer T}

/-! ## Insertions that count -/

/-- The value of `timer` has been inserted with it, and since then it has not been
removed nor the set been wiped. -/
def Counts (past : List (Op T)) (timer : Timer T) : Prop :=
  ∃ before after, past = before ++ Op.insertTemp timer :: after ∧
    ∀ op ∈ after, op ≠ .wipe ∧ ∀ found, op ≠ .remove timer.value found

theorem counts_snoc :
    Counts (past ++ [op]) timer ↔
      op = .insertTemp timer ∨
        Counts past timer ∧ op ≠ .wipe ∧ ∀ found, op ≠ .remove timer.value found := by
  constructor
  · intro hcounts
    obtain ⟨before, after, hops, hafter⟩ := hcounts
    cases List.eq_nil_or_concat after with
    | inl hnil =>
        rw [hnil] at hops
        exact .inl (List.singleton_injective (List.append_inj' hops rfl).2)
    | inr hconcat =>
        obtain ⟨rest, final, rfl⟩ := hconcat
        rw [List.concat_eq_append, ← List.cons_append, ← List.append_assoc] at hops
        obtain ⟨hpast, hfinal⟩ := List.append_inj' hops rfl
        obtain rfl : op = final := List.singleton_injective hfinal
        refine .inr ⟨⟨before, rest, hpast, ?_⟩, hafter op (by simp)⟩
        intro op' hmem
        exact hafter op' (by simp [hmem])
  · intro hcases
    cases hcases with
    | inl hinserted => exact ⟨past, [], by rw [hinserted], nofun⟩
    | inr hkept =>
        obtain ⟨⟨before, after, hpast, hafter⟩, hop⟩ := hkept
        refine ⟨before, after ++ [op], by rw [hpast]; simp, ?_⟩
        intro op' hmem
        cases List.mem_append.mp hmem with
        | inl hold => exact hafter op' hold
        | inr hnew =>
            rw [List.mem_singleton.mp hnew]
            exact hop

theorem Counts.keep (hcounts : Counts past timer) (hwipe : op ≠ .wipe)
    (hremove : ∀ found, op ≠ .remove timer.value found) : Counts (past ++ [op]) timer :=
  counts_snoc.mpr (.inr ⟨hcounts, hwipe, hremove⟩)

theorem Counts.mem (hcounts : Counts past timer) : .insertTemp timer ∈ past := by
  obtain ⟨before, after, rfl, _⟩ := hcounts
  exact List.mem_append_right before List.mem_cons_self

/-- The step is no insertion. -/
def Quiet (_ : Clocked T) (op : Op T) : Prop := ∀ timer, op ≠ .insertTemp timer

theorem Counts.of_quiet (hquiet : Quiet current op) (hcounts : Counts (past ++ [op]) timer) :
    Counts past timer := by
  cases counts_snoc.mp hcounts with
  | inl hinserted => exact absurd hinserted (hquiet timer)
  | inr hkept => exact hkept.1

/-! ## Insertions that last -/

/-- Every insertion that counts has its value in the set until it is due, which is
its duration after it was made.  The set does not change while time elapses, so
this is about the instants between two steps as well. -/
def Lasting (past : List (Op T)) (current : Clocked T) : Prop :=
  ∀ timer, Counts past timer → current.now < timer.due → timer.value ∈ current.codes.set

/-- No sleeping task can remove the value of an insertion that counts before it is
due: it wakes up when it is due itself, or now if that has passed. -/
def Harmless (past : List (Op T)) (current : Clocked T) : Prop :=
  ∀ timer, Counts past timer → ∀ pending ∈ current.codes.timers,
    pending.value = timer.value → timer.due ≤ max current.now pending.due

structure Undisturbed (past : List (Op T)) (current : Clocked T) : Prop where
  lasting : Lasting past current
  harmless : Harmless past current

/-- An insertion is made when no sleeping task for the value can wake up before it
is due, and no insertion of the value that counts is due after it. -/
def Fits : List (Op T) × Clocked T → Op T → Prop
  | (past, current), .insertTemp timer =>
      (∀ pending ∈ current.codes.timers, pending.value = timer.value →
        timer.due ≤ max current.now pending.due) ∧
      ∀ earlier, Counts past earlier → earlier.value = timer.value →
        earlier.due ≤ timer.due
  | _, _ => True

theorem undisturbed_start (now : Time) :
    Undisturbed ([] : List (Op T)) ⟨now, .default⟩ where
  lasting _ hcounts := absurd hcounts.mem List.not_mem_nil
  harmless _ hcounts := absurd hcounts.mem List.not_mem_nil

theorem fits_of_quiet (hquiet : Quiet current op) : Fits (past, current) op := by
  cases op with
  | insertTemp timer => exact absurd rfl (hquiet timer)
  | remove | wipe | expire | elapse | other => trivial

/-! ## Steps -/

/-- A step that is no insertion disturbs nothing if the insertions that count keep
their values. -/
theorem Undisturbed.quiet (hundisturbed : Undisturbed past before) (hquiet : Quiet before op)
    (hnow : before.now ≤ after.now) (htimers : after.codes.timers ⊆ before.codes.timers)
    (hset : ∀ timer, Counts (past ++ [op]) timer → after.now < timer.due →
      timer.value ∈ before.codes.set → timer.value ∈ after.codes.set) :
    Undisturbed (past ++ [op]) after := by
  constructor
  · intro timer hcounts hdue
    apply hset timer hcounts hdue
    exact hundisturbed.lasting timer (hcounts.of_quiet hquiet) (hnow.trans_lt hdue)
  · intro timer hcounts pending hpending hvalue
    have hlate := hundisturbed.harmless timer (hcounts.of_quiet hquiet) pending
      (htimers hpending) hvalue
    exact hlate.trans (max_le_max_right pending.due hnow)

variable [DecidableEq T]

/-- An insertion disturbs nothing if it fits. -/
theorem Undisturbed.insertTemp {now duration : Time} {codes : InMemorySet T} {value : T}
    (hundisturbed : Undisturbed past ⟨now, codes⟩)
    (hfits : Fits (past, ⟨now, codes⟩) (.insertTemp (codes.nextTimer now value duration))) :
    Undisturbed (past ++ [.insertTemp (codes.nextTimer now value duration)])
      ⟨now, codes.insertTemp now value duration⟩ := by
  obtain ⟨hsleeping, hearlier⟩ := hfits
  constructor
  · intro timer hcounts hnow
    cases counts_snoc.mp hcounts with
    | inl hnew =>
        obtain rfl := Op.insertTemp.inj hnew
        exact Finset.mem_insert_self value codes.set
    | inr hold =>
        exact Finset.mem_insert_of_mem (hundisturbed.lasting timer hold.1 hnow)
  · intro timer hcounts pending hpending hvalue
    cases counts_snoc.mp hcounts with
    | inl hnew =>
        obtain rfl := Op.insertTemp.inj hnew
        cases List.mem_cons.mp hpending with
        | inl hself =>
            rw [hself]
            exact le_max_right _ _
        | inr hsleeps => exact hsleeping pending hsleeps hvalue
    | inr hold =>
        cases List.mem_cons.mp hpending with
        | inl hnew =>
            rw [hnew] at hvalue ⊢
            exact (hearlier timer hold.1 hvalue.symm).trans (le_max_right _ _)
        | inr hsleeps => exact hundisturbed.harmless timer hold.1 pending hsleeps hvalue

theorem Undisturbed.remove {now : Time} {codes : InMemorySet T} (value : T)
    (hundisturbed : Undisturbed past ⟨now, codes⟩) :
    Undisturbed (past ++ [.remove value (codes.remove value).1])
      ⟨now, (codes.remove value).2⟩ := by
  refine hundisturbed.quiet ?_ le_rfl (List.Subset.refl codes.timers) ?_
  · intro timer hinserted
    cases hinserted
  · intro timer hcounts _ hmem
    have hother : timer.value ≠ value := by
      intro hvalue
      cases counts_snoc.mp hcounts with
      | inl hinserted => cases hinserted
      | inr hkept => exact hkept.2.2 _ (by rw [hvalue])
    exact Finset.mem_erase.mpr ⟨hother, hmem⟩

/-- A task that wakes up removes no value of an insertion that is not due. -/
theorem Undisturbed.expire {now : Time} {codes : InMemorySet T} {fired : Timer T}
    (hundisturbed : Undisturbed past ⟨now, codes⟩) (hpending : fired ∈ codes.timers)
    (hdue : fired.due ≤ now) :
    Undisturbed (past ++ [.expire fired]) ⟨now, codes.expire fired⟩ := by
  have hquiet : Quiet ⟨now, codes⟩ (.expire fired) := nofun
  refine hundisturbed.quiet hquiet le_rfl List.erase_subset ?_
  intro timer hcounts hnow hmem
  have hother : timer.value ≠ fired.value := by
    intro hvalue
    have hlate := hundisturbed.harmless timer (hcounts.of_quiet hquiet) fired hpending
      hvalue.symm
    rw [max_eq_left hdue] at hlate
    exact absurd hnow (Nat.not_lt.mpr hlate)
  exact Finset.mem_erase.mpr ⟨hother, hmem⟩

theorem Undisturbed.step (hundisturbed : Undisturbed past before)
    (hstep : Codes.Step before op after) (hfits : Fits (past, before) op) :
    Undisturbed (past ++ [op]) after := by
  cases hstep with
  | insertTemp value duration => exact hundisturbed.insertTemp hfits
  | remove value => exact hundisturbed.remove value
  | @wipe now codes =>
      refine hundisturbed.quiet nofun le_rfl (List.Subset.refl codes.timers) ?_
      intro timer hcounts
      cases counts_snoc.mp hcounts with
      | inl hinserted => cases hinserted
      | inr hkept => exact absurd rfl hkept.2.1
  | expire hpending hdue => exact hundisturbed.expire hpending hdue
  | @elapse now codes duration =>
      have hnow : now ≤ now + duration := Nat.le_add_right now duration
      exact hundisturbed.quiet nofun hnow (List.Subset.refl codes.timers) fun _ _ _ hmem => hmem
  | @other now codes =>
      exact hundisturbed.quiet nofun le_rfl (List.Subset.refl codes.timers)
        fun _ _ _ hmem => hmem

/-! ## Runs -/

variable {first reached : List (Op T) × Clocked T}

/-- Nothing is disturbed in a run whose insertions fit. -/
theorem Undisturbed.run (hfirst : Undisturbed first.1 first.2)
    (hrun : Run (restrict (recorded Codes.Step) Fits) first ops reached) :
    Undisturbed reached.1 reached.2 := by
  apply hrun.invariant (fun state => Undisturbed state.1 state.2) hfirst
  intro before op after hbefore hstep
  obtain ⟨⟨hstep, hpast⟩, hfits⟩ := hstep
  rw [hpast]
  exact hbefore.step hstep hfits

/-- An insertion that is not due counts until the set is wiped or the value is found
and removed: it is not removed in vain. -/
theorem Undisturbed.counts_of_run (hfirst : Undisturbed first.1 first.2)
    (hcounts : Counts first.1 timer)
    (hrun : Run (restrict (recorded Codes.Step) Fits) first ops reached)
    (hops : ∀ op ∈ ops, op ≠ .wipe ∧ op ≠ .remove timer.value true)
    (hnow : reached.2.now < timer.due) : Counts reached.1 timer := by
  induction hrun with
  | nil => exact hcounts
  | @snoc ops middle op reached hbefore hfinal ih =>
      obtain ⟨⟨hstep, hpast⟩, _⟩ := hfinal
      have hmiddle : middle.2.now < timer.due := hstep.now_le.trans_lt hnow
      have hkept := ih (fun op' hmem => hops op' (List.mem_append_left _ hmem)) hmiddle
      have hmem := (hfirst.run hbefore).lasting timer hkept hmiddle
      obtain ⟨hwipe, hfound⟩ := hops op (List.mem_append_right ops List.mem_cons_self)
      rw [hpast]
      apply hkept.keep hwipe
      intro found hremove
      cases found with
      | true => exact hfound hremove
      | false =>
          rw [hremove] at hstep
          exact hstep.notMem_of_remove hmem

/-! ## When insertions stay -/

/-- The next insertion. -/
def insertion (current : Clocked T) (value : T) (duration : Time) : Op T :=
  .insertTemp (current.codes.nextTimer current.now value duration)

/-- The set after the next insertion. -/
def inserted (current : Clocked T) (value : T) (duration : Time) : Clocked T :=
  ⟨current.now, current.codes.insertTemp current.now value duration⟩

/-- All insertions last as long as no more are made, whatever else happens. -/
def StaysLasting (past : List (Op T)) (current : Clocked T) : Prop :=
  ∀ more final, Run (restrict Codes.Step Quiet) current more final → Lasting (past ++ more) final

theorem Undisturbed.staysLasting (hundisturbed : Undisturbed past current) :
    StaysLasting past current := by
  intro more final hrun
  have hfinal : Undisturbed (past ++ more) final := by
    apply hrun.history (fun labels state => Undisturbed (past ++ labels) state)
    · rwa [List.append_nil]
    · intro labels before op after hbefore hstep
      rw [← List.append_assoc]
      exact hbefore.step hstep.1 (fits_of_quiet hstep.2)
  exact hfinal.lasting

/-- A sleeping task that can harm an insertion does so in the worst case: time elapses
until it is due, and it wakes up. -/
theorem StaysLasting.harmless (hstays : StaysLasting past current) : Harmless past current := by
  intro timer hcounts pending hpending hvalue
  by_contra hearly
  obtain ⟨now, codes⟩ := current
  have hlate : pending.due ≤ now + (pending.due - now) := le_add_tsub
  have hrun : Run (restrict Codes.Step Quiet) ⟨now, codes⟩
      [.elapse (pending.due - now), .expire pending]
      ⟨now + (pending.due - now), codes.expire pending⟩ :=
    .snoc (.snoc .nil ⟨.elapse _, nofun⟩) ⟨.expire hpending hlate, nofun⟩
  have hcounts' : Counts (past ++ [Op.elapse (pending.due - now), .expire pending]) timer := by
    rw [List.append_cons]
    have helapsed : Counts (past ++ [Op.elapse (pending.due - now)]) timer :=
      hcounts.keep nofun nofun
    exact helapsed.keep nofun nofun
  have hnow : now + (pending.due - now) < timer.due := by
    rw [add_tsub_eq_max]
    exact not_le.mp hearly
  have hmem := hstays _ _ hrun timer hcounts' hnow
  rw [← hvalue] at hmem
  exact Finset.notMem_erase _ _ hmem

/-- A further insertion fits exactly if all insertions stay after it. -/
theorem Undisturbed.staysLasting_iff (hundisturbed : Undisturbed past current) (value : T)
    (duration : Time) :
    StaysLasting (past ++ [insertion current value duration])
        (inserted current value duration) ↔
      Fits (past, current) (insertion current value duration) := by
  constructor
  · intro hstays
    constructor
    · intro pending hpending hvalue
      exact hstays.harmless _ (counts_snoc.mpr (.inl rfl)) pending
        (List.mem_cons_of_mem _ hpending) hvalue
    · intro earlier hcounts hvalue
      have hkept : Counts (past ++ [insertion current value duration]) earlier :=
        hcounts.keep nofun nofun
      have hlate := hstays.harmless earlier hkept _ List.mem_cons_self hvalue.symm
      have hdue : current.now ≤ (current.codes.nextTimer current.now value duration).due :=
        Nat.le_add_right current.now duration
      exact hlate.trans (max_le hdue le_rfl)
  · intro hfits
    exact (hundisturbed.insertTemp hfits).staysLasting

/-! ## Guest codes -/

section

variable {server : Server} {headers : Headers} {environment : Environment}
variable {state next first last : State} {event : Event} {events before after : List Event}
variable {code : GuestCode} {timer : Timer GuestCode}

/-- No code is drawn that a task from an earlier instant still waits to remove: all
codes are given half an hour, so such a task would come too soon. -/
def Fresh (state : State) (event : Event) : Prop :=
  ∀ exchange word, event = .exchange exchange → exchange.request = .generateCode →
    exchange.environment.code = some word → ∀ pending ∈ state.codes.timers,
      pending.value = ⟨word⟩ → state.now + Guest.codeLifetime ≤ pending.due

/-- All codes are revoked, or this one is redeemed. -/
def Revokes (code : GuestCode) (event : Event) : Prop :=
  opOf event = .wipe ∨ opOf event = .remove code true

/-- Whoever presents the code is answered with the session that is minted for it. -/
def Redeemable (server : Server) (state : State) (code : GuestCode) : Prop :=
  ∀ headers environment, (serve server headers environment state (.redeemCode code)).reply =
    ofValue (fun token => .text token.text)
      (authenticate server.signer (⟨code⟩ : JWTUser) (fromHours 6) state.now)

theorem redeemable_of_mem (hmem : code ∈ state.codes.set) : Redeemable server state code := by
  intro headers environment
  have hredeemed := Guest.redeemCode_of_mem server.signer state.now hmem
  simp only [serve, hredeemed]
  rfl

theorem due_of_opOf (hstep : Api.Step server state event next)
    (hop : opOf event = .insertTemp timer) :
    timer.due = state.now + Guest.codeLifetime ∧
      ∃ exchange, event = .exchange exchange ∧ exchange.request = .generateCode ∧
        exchange.environment.code = some timer.value.code := by
  obtain ⟨exchange, rfl, hrequest, hspawned⟩ := insertTemp_of_opOf hop
  cases hstep with
  | @exchange headers environment _ request =>
      obtain rfl : request = .generateCode := hrequest
      obtain ⟨_, htimer, hdrawn, _⟩ := generated_of_spawned hspawned
      exact ⟨congrArg Timer.due htimer, _, rfl, rfl, hdrawn⟩

/-- No insertion is due later than half an hour from now. -/
def Bounded (past : List Event) (state : State) : Prop :=
  ∀ timer, .insertTemp timer ∈ past.map opOf → timer.due ≤ state.now + Guest.codeLifetime

theorem Bounded.step {past : List Event} (hbounded : Bounded past state)
    (hstep : Api.Step server state event next) : Bounded (past ++ [event]) next := by
  intro timer hmem
  have hnow : state.now + Guest.codeLifetime ≤ next.now + Guest.codeLifetime :=
    Nat.add_le_add_right (step_codes hstep).now_le Guest.codeLifetime
  rw [List.map_append] at hmem
  cases List.mem_append.mp hmem with
  | inl hold => exact (hbounded timer hold).trans hnow
  | inr hnew =>
      have hop := (List.mem_singleton.mp hnew).symm
      rwa [(due_of_opOf hstep hop).1]

/-- A fresh code fits. -/
theorem fits_of_fresh {past : List Event} (hbounded : Bounded past state)
    (hstep : Api.Step server state event next) (hfresh : Fresh state event) :
    Fits (past.map opOf, clocked state) (opOf event) := by
  cases hop : opOf event with
  | insertTemp timer =>
      obtain ⟨hdue, exchange, hevent, hrequest, hdrawn⟩ := due_of_opOf hstep hop
      constructor
      · intro pending hpending hvalue
        rw [hdue]
        exact (hfresh exchange _ hevent hrequest hdrawn pending hpending hvalue).trans
          (le_max_right _ _)
      · intro earlier hcounts _
        rw [hdue]
        exact hbounded earlier hcounts.mem
  | remove | wipe | expire | elapse | other => trivial

/-- A run in which all codes are fresh is a run of the set in which all insertions
fit. -/
theorem run_fits {past : List Event} (hbounded : Bounded past first)
    (hrun : Run (restrict (Api.Step server) Fresh) first events last) :
    Bounded (past ++ events) last ∧
      Run (restrict (recorded Codes.Step) Fits) (past.map opOf, clocked first)
        (events.map opOf) ((past ++ events).map opOf, clocked last) := by
  have hkept : ∀ {labels : List Event} {reached : State},
      Run (restrict (Api.Step server) Fresh) first labels reached →
        Bounded (past ++ labels) reached := by
    intro labels reached hprefix
    apply hprefix.history (fun labels state => Bounded (past ++ labels) state)
    · rwa [List.append_nil]
    · intro labels before event after hbefore hstep
      rw [← List.append_assoc]
      exact hbefore.step hstep.1
  refine ⟨hkept hrun, ?_⟩
  have hrecorded : Run (restrict (recorded (restrict (Api.Step server) Fresh))
      fun state event => Bounded state.1 state.2) (past, first) events
        (past ++ events, last) := by
    apply hrun.record
    intro labels before event after hprefix _
    exact hkept hprefix
  apply hrecorded.map (fun state => (state.1.map opOf, clocked state.2)) opOf
  rintro ⟨labels, state⟩ event ⟨labels', next⟩ ⟨⟨⟨hstep, hfresh⟩, hlabels⟩, hbounded⟩
  obtain rfl : labels' = labels ++ [event] := hlabels
  refine ⟨⟨step_codes hstep, ?_⟩, fits_of_fresh hbounded hstep hfresh⟩
  rw [List.map_append]
  rfl

/-- A code that has been inserted can be redeemed until it is due, whatever other
codes are drawn, as long as they are fresh. -/
theorem redeemable_of_counts {past : List Event}
    (hundisturbed : Undisturbed (past.map opOf) (clocked first))
    (hbounded : Bounded past first) (hcounts : Counts (past.map opOf) timer)
    (hcode : timer.value = code)
    (hrun : Run (restrict (Api.Step server) Fresh) first events last)
    (hkept : ∀ event ∈ events, ¬ Revokes code event) (hnow : last.now < timer.due) :
    Redeemable server last code := by
  rw [← hcode] at hkept ⊢
  have hfits := (run_fits hbounded hrun).2
  have hops : ∀ op ∈ events.map opOf, op ≠ .wipe ∧ op ≠ .remove timer.value true := by
    intro op hmem
    obtain ⟨event, hevent, rfl⟩ := List.mem_map.mp hmem
    exact not_or.mp (hkept event hevent)
  have hstill := hundisturbed.counts_of_run hcounts hfits hops hnow
  exact redeemable_of_mem ((hundisturbed.run hfits).lasting timer hstill hnow)

/-- A fresh code can be redeemed for half an hour. -/
theorem redeemable_of_fresh {now : Time} {database : Database}
    (hbefore : Run (restrict (Api.Step server) Fresh) (.start now database) before state)
    (hreply : (exchangeOf server headers environment state .generateCode).reply =
      .response .ok (.code code))
    (hfresh : Fresh state
      (.exchange (exchangeOf server headers environment state .generateCode)))
    (hafter : Run (restrict (Api.Step server) Fresh)
      (afterRequest server headers environment state .generateCode) after last)
    (hkept : ∀ event ∈ after, ¬ Revokes code event)
    (hnow : last.now < state.now + Guest.codeLifetime) : Redeemable server last code := by
  have hstart : Bounded [] (.start now database) := nofun
  have hgenerated := hbefore.snoc ⟨.exchange, hfresh⟩
  obtain ⟨hbounded, hfits⟩ := run_fits hstart hgenerated
  rw [List.nil_append] at hbounded hfits
  have hcounts : Counts
      ((before ++ [Event.exchange (exchangeOf server headers environment state
        .generateCode)]).map opOf) (state.codes.nextTimer state.now code Guest.codeLifetime) := by
    rw [List.map_append]
    exact counts_snoc.mpr (.inl (opOf_generated hreply))
  exact redeemable_of_counts ((undisturbed_start now).run hfits) hbounded hcounts rfl hafter
    hkept hnow

end

/-! ## Insertions and guest codes -/

/-- In a run of the set whose insertions fit, every insertion lasts until it is due, and
the next one fits exactly if it and all the others will last whatever else
happens.  In a run of the API whose codes are fresh, a code that is handed out
can be redeemed for half an hour unless it is redeemed or all codes are wiped. -/
theorem insertions_last (server : Server) (now : Time) (database : Database) :
    (∀ (T : Type) [DecidableEq T] (ops : List (Op T)) (last : Clocked T),
      Run (restrict (recorded Codes.Step) Fits) ([], ⟨now, .default⟩) ops (ops, last) →
        Lasting ops last ∧
        ∀ value duration,
          StaysLasting (ops ++ [insertion last value duration])
              (inserted last value duration) ↔
            Fits (ops, last) (insertion last value duration)) ∧
    ∀ (before : List Event) (state : State) (headers : Headers) (environment : Environment)
        (code : GuestCode) (after : List Event) (last : State),
      Run (restrict (Api.Step server) Fresh) (.start now database) before state →
      (exchangeOf server headers environment state .generateCode).reply =
        .response .ok (.code code) →
      Fresh state (.exchange (exchangeOf server headers environment state .generateCode)) →
      Run (restrict (Api.Step server) Fresh)
        (afterRequest server headers environment state .generateCode) after last →
      (∀ event ∈ after, ¬ Revokes code event) →
      last.now < state.now + Guest.codeLifetime → Redeemable server last code := by
  constructor
  · intro T _ ops last hrun
    have hundisturbed := (undisturbed_start now).run hrun
    exact ⟨hundisturbed.lasting, hundisturbed.staysLasting_iff⟩
  · intro before state headers environment code after last hbefore hreply hfresh hafter hkept
      hnow
    exact redeemable_of_fresh hbefore hreply hfresh hafter hkept hnow

/-! ## One code, handed out twice -/

/-- The set in which the code 7 has been inserted at the beginning. -/
def sevenSet : InMemorySet GuestCode :=
  InMemorySet.default.insertTemp 0 ⟨7⟩ Guest.codeLifetime

def sevenTimer : Timer GuestCode := InMemorySet.default.nextTimer 0 ⟨7⟩ Guest.codeLifetime

/-- The second insertion of the code, ten minutes later. -/
def againTimer : Timer GuestCode :=
  sevenSet.wipe.nextTimer (fromMins 10) ⟨7⟩ Guest.codeLifetime

def againSet : InMemorySet GuestCode :=
  sevenSet.wipe.insertTemp (fromMins 10) ⟨7⟩ Guest.codeLifetime

/-- The code is inserted, revoked and inserted again; the first task wakes up. -/
def againOps : List (Op GuestCode) :=
  [.insertTemp sevenTimer, .wipe, .elapse (fromMins 10), .insertTemp againTimer,
    .elapse (fromMins 20), .expire sevenTimer]

theorem again_run :
    Run Codes.Step ⟨0, .default⟩ againOps ⟨fromMins 30, againSet.expire sevenTimer⟩ := by
  have hinserted : Run Codes.Step ⟨0, .default⟩ [.insertTemp sevenTimer] ⟨0, sevenSet⟩ :=
    Run.nil.snoc (Codes.Step.insertTemp (GuestCode.mk 7) Guest.codeLifetime)
  have hwiped := (hinserted.snoc Codes.Step.wipe).snoc (Codes.Step.elapse (fromMins 10))
  have hagain := hwiped.snoc (Codes.Step.insertTemp (GuestCode.mk 7) Guest.codeLifetime)
  have hlater := hagain.snoc (Codes.Step.elapse (fromMins 20))
  have hpending : sevenTimer ∈ againSet.timers := by decide
  have hdue : sevenTimer.due ≤ fromMins 30 := by decide
  exact hlater.snoc (Codes.Step.expire hpending hdue)

/-- The second insertion is cut short. -/
theorem insertion_cut_short :
    ¬ ∀ (T : Type) [DecidableEq T] (now : Time) (ops : List (Op T)) (last : Clocked T),
      Run Codes.Step ⟨now, .default⟩ ops last → Lasting ops last := by
  intro hclaim
  have hcounts : Counts againOps againTimer :=
    ⟨[.insertTemp sevenTimer, .wipe, .elapse (fromMins 10)],
      [.elapse (fromMins 20), .expire sevenTimer], rfl, by simp⟩
  have hnow : fromMins 30 < againTimer.due := by decide
  have hmem := hclaim GuestCode 0 againOps _ again_run againTimer hcounts hnow
  exact absurd hmem (by decide)

/-- The set in which the first insertion has expired. -/
def expiredSet : InMemorySet GuestCode := sevenSet.expire sevenTimer

theorem expired_run :
    Run (restrict (recorded Codes.Step) Fits) ([], ⟨0, .default⟩)
      [.insertTemp sevenTimer, .elapse (fromMins 30), .expire sevenTimer]
      ([.insertTemp sevenTimer, .elapse (fromMins 30), .expire sevenTimer],
        ⟨fromMins 30, expiredSet⟩) := by
  have hinsert : restrict (recorded Codes.Step) Fits ([], ⟨0, .default⟩)
      (.insertTemp sevenTimer) ([.insertTemp sevenTimer], ⟨0, sevenSet⟩) :=
    ⟨⟨Codes.Step.insertTemp (GuestCode.mk 7) Guest.codeLifetime, rfl⟩, nofun,
      fun _ hcounts => absurd hcounts.mem List.not_mem_nil⟩
  have helapse : restrict (recorded Codes.Step) Fits ([.insertTemp sevenTimer], ⟨0, sevenSet⟩)
      (.elapse (fromMins 30))
      ([.insertTemp sevenTimer, .elapse (fromMins 30)], ⟨fromMins 30, sevenSet⟩) :=
    ⟨⟨Codes.Step.elapse (fromMins 30), rfl⟩, trivial⟩
  have hpending : sevenTimer ∈ sevenSet.timers := by decide
  have hdue : sevenTimer.due ≤ fromMins 30 := by decide
  exact ((Run.nil.snoc hinsert).snoc helapse).snoc
    ⟨⟨Codes.Step.expire hpending hdue, rfl⟩, trivial⟩

/-- The code is inserted again after it has expired, and a guest can redeem the code that
was handed out ten minutes ago. -/
theorem insertions_last_again :
    StaysLasting
        ([Op.insertTemp sevenTimer, .elapse (fromMins 30), .expire sevenTimer] ++
          [insertion ⟨fromMins 30, expiredSet⟩ ⟨7⟩ Guest.codeLifetime])
        (inserted ⟨fromMins 30, expiredSet⟩ ⟨7⟩ Guest.codeLifetime) ∧
      Redeemable guestServer { guest1 with now := guest1.now + fromMins 10 } ⟨7⟩ := by
  obtain ⟨hinsertions, hcodes⟩ := insertions_last guestServer 0 .empty
  constructor
  · apply ((hinsertions GuestCode _ _ expired_run).2 ⟨7⟩ Guest.codeLifetime).mpr
    refine ⟨by decide, ?_⟩
    intro earlier hcounts _
    have hearlier : earlier = sevenTimer := by simpa using hcounts.mem
    rw [hearlier]
    decide
  · have hreply : (exchangeOf guestServer guestHeaders guestEnvironment guest0
        .generateCode).reply = .response .ok (.code ⟨7⟩) := rfl
    have hnoTimers : guest0.codes.timers = [] := rfl
    have hfresh : Fresh guest0 (.exchange (exchangeOf guestServer guestHeaders
        guestEnvironment guest0 .generateCode)) := by
      intro exchange word _ _ _ pending hpending
      rw [hnoTimers] at hpending
      cases hpending
    have helapse : restrict (Api.Step guestServer) Fresh guest1 (.elapse (fromMins 10))
        { guest1 with now := guest1.now + fromMins 10 } := by
      refine ⟨.elapse (fromMins 10), ?_⟩
      intro exchange word hevent
      cases hevent
    have hkept : ∀ event ∈ [Event.elapse (fromMins 10)], ¬ Revokes ⟨7⟩ event := by
      intro event hmem hrevokes
      rw [List.mem_singleton.mp hmem] at hrevokes
      cases hrevokes with
      | inl hwipe => cases hwipe
      | inr hredeemed => cases hredeemed
    have hnow : (guest1.now + fromMins 10 : Time) < guest0.now + Guest.codeLifetime := by
      decide
    exact hcodes [] guest0 guestHeaders guestEnvironment ⟨7⟩ [.elapse (fromMins 10)] _ .nil
      hreply hfresh (Run.nil.snoc helapse) hkept hnow

end ScdtServer.Expiry
