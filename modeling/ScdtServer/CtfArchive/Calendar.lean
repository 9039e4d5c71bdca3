import ScdtServer.CtfArchive.Processes

/-!
# The dates of CTF events

The dates of a request are any three numbers.  `create` unwraps their conversion
to days of the calendar, and has no answer for the CHECK on their order, nor for a
name with U+0000 in it.
-/

namespace ScdtServer.Calendar

open ScdtServer.Http
open ScdtServer.Jwt
open ScdtServer.Sql
open ScdtServer.Dates
open ScdtServer.Tables
open ScdtServer.Ctfs
open ScdtServer.Api
open ScdtServer.Processes

/-! ## Conversions -/

/-- The numbers are those of a day. -/
def Real (date : Date) : Prop :=
  isDay date.year.toNat date.month.toNat date.day.toNat = true

/-- The order of the calendar, on the numbers. -/
def NotAfter (first second : Date) : Prop :=
  first.year < second.year ∨
    first.year = second.year ∧ (first.month < second.month ∨
      first.month = second.month ∧ first.day ≤ second.day)

instance (date : Date) : Decidable (Real date) := inferInstanceAs (Decidable (_ = true))

instance (first second : Date) : Decidable (NotAfter first second) :=
  inferInstanceAs (Decidable (_ ∨ _))

theorem tryInto_real {date : Date} (hreal : Real date) :
    date.tryInto = some ⟨date.year.toNat, date.month.toNat, date.day.toNat, hreal⟩ :=
  dif_pos hreal

theorem tryInto_unreal {date : Date} (hreal : ¬ Real date) : date.tryInto = none :=
  dif_neg hreal

theorem tryInto_eq_some {date : Date} {day : NaiveDate} (hday : date.tryInto = some day) :
    ∃ hreal : Real date,
      day = ⟨date.year.toNat, date.month.toNat, date.day.toNat, hreal⟩ := by
  by_cases hreal : Real date
  · exact ⟨hreal, Option.some.inj (hday.symm.trans (tryInto_real hreal))⟩
  · rw [tryInto_unreal hreal] at hday
    cases hday

/-- What has been converted converts back. -/
theorem tryFrom_tryInto {date : Date} {day : NaiveDate} (hday : date.tryInto = some day) :
    Date.tryFrom day = some date := by
  obtain ⟨hreal, rfl⟩ := tryInto_eq_some hday
  have hyear := date.year.toNat_lt
  have hrange : (0 : ℤ) ≤ date.year.toNat ∧ (date.year.toNat : ℤ) < 65536 := by omega
  rw [Date.tryFrom, if_pos hrange]
  simp

theorem ble_iff {first second : Date} (hfirst : Real first) (hsecond : Real second) :
    NaiveDate.ble ⟨first.year.toNat, first.month.toNat, first.day.toNat, hfirst⟩
        ⟨second.year.toNat, second.month.toNat, second.day.toNat, hsecond⟩ = true ↔
      NotAfter first second := by
  simp only [NaiveDate.ble, NotAfter, decide_eq_true_eq, Nat.cast_lt, Nat.cast_inj,
    UInt16.lt_iff_toNat_lt, UInt8.lt_iff_toNat_lt, UInt8.le_iff_toNat_le,
    ← UInt16.toNat_inj, ← UInt8.toNat_inj]

/-! ## Listing -/

/-- The dates of every CTF convert back. -/
def Listable (database : Database) : Prop :=
  ∀ entry ∈ database.ctfs.rows, ∃ startDate endDate,
    Date.tryFrom entry.2.startDate = some startDate ∧
      Date.tryFrom entry.2.endDate = some endDate

theorem listable_of_writes {request : Request} {before after : Database}
    (hlistable : Listable before) (hwritten : Writes request before after) :
    Listable after := by
  cases hwritten with
  | ctf hstart hend hstored =>
      intro entry hmem
      have hfound := Table.find_eq_some_iff.mpr hmem
      cases Table.find_insert hfound with
      | inl hold => exact hlistable entry (Table.find_eq_some_iff.mp hold)
      | inr hnew =>
          rw [hnew.1, CtfRow.eq_of_stored hstored]
          exact ⟨_, _, tryFrom_tryInto hstart, tryFrom_tryInto hend⟩
  | _ => exact hlistable

theorem listable_of_reached {database : Database} (hreached : Reached anyRequest database) :
    Listable database := by
  apply hreached.invariant
  · exact nofun
  · exact fun _ _ _ _ => listable_of_writes

variable {database : Database} {user : JWTUser}

/-- What a row is listed as. -/
def listed (entry : ℤ × CtfRow) : Ctf where
  id := entry.1
  name := entry.2.name
  startDate := (Date.tryFrom entry.2.startDate).getD ⟨0, 0, 0⟩
  endDate := (Date.tryFrom entry.2.endDate).getD ⟨0, 0, 0⟩

theorem list_of_listable (hlistable : Listable database) :
    (list .available database user).1 = .ok (database.ctfs.rows.map listed) := by
  have hrows : database.ctfs.rows.mapM ctfOf = .ok (database.ctfs.rows.map listed) := by
    apply Handler.mapM_eq_ok
    intro entry hmem
    obtain ⟨startDate, endDate, hstart, hend⟩ := hlistable entry hmem
    simp only [ctfOf, listed, hstart, hend]
    rfl
  exact hrows

/-! ## Creating -/

variable {admin : JWTAdmin} {ctf : CreateCtf}

/-- The dates are real and in order. -/
structure Valid (ctf : CreateCtf) : Prop where
  realStart : Real ctf.startDate
  realEnd : Real ctf.endDate
  order : NotAfter ctf.startDate ctf.endDate

/-- A CTF has the name already. -/
def Taken (database : Database) (name : String) : Prop :=
  ∃ id row, database.ctfs.find id = some row ∧ row.name = name

/-- The row of a CTF with real dates. -/
def rowOf (ctf : CreateCtf) (hstart : Real ctf.startDate) (hend : Real ctf.endDate) : CtfRow where
  name := ctf.name
  startDate := ⟨ctf.startDate.year.toNat, ctf.startDate.month.toNat,
    ctf.startDate.day.toNat, hstart⟩
  endDate := ⟨ctf.endDate.year.toNat, ctf.endDate.month.toNat, ctf.endDate.day.toNat, hend⟩

theorem create_unreal (database : Database) (hcreate : admin.canCreate = true)
    (hunreal : ¬ (Real ctf.startDate ∧ Real ctf.endDate)) :
    create .available database admin ctf = (Handler.panic .dateConversion, database) := by
  unfold create
  rw [hcreate]
  by_cases hstart : Real ctf.startDate
  · have hend : ¬ Real ctf.endDate := fun hend => hunreal ⟨hstart, hend⟩
    rw [tryInto_real hstart, tryInto_unreal hend]
    rfl
  · rw [tryInto_unreal hstart]
    rfl

theorem create_real (hcreate : admin.canCreate = true) (hstart : Real ctf.startDate)
    (hend : Real ctf.endDate) :
    create .available database admin ctf =
      answer (execute .available (withValues (rowOf ctf hstart hend).stored insertCtf)
          database)
        fun result =>
          match result with
          | .ok id => .ok (.created, id)
          | .error (.databaseError .unique) => Handler.fail .conflict
          | .error _ => Handler.fail .internalServerError := by
  unfold create
  rw [hcreate, tryInto_real hstart, tryInto_real hend]
  rfl

/-- A name that fits is stored as it is. -/
theorem stored_rowOf (hname : fitsVarchar 127 ctf.name = true) (hstart : Real ctf.startDate)
    (hend : Real ctf.endDate) :
    (rowOf ctf hstart hend).stored = some (rowOf ctf hstart hend) :=
  CtfRow.stored_of_fits hname

theorem admits_rowOf (hname : fitsVarchar 127 ctf.name = true) (hvalid : Valid ctf) :
    ctfSchema.admits (rowOf ctf hvalid.realStart hvalid.realEnd) = true := by
  have hble := (ble_iff hvalid.realStart hvalid.realEnd).mpr hvalid.order
  rw [admits_ctf, rowOf, hname, hble, Bool.and_self]

theorem free_rowOf_iff (hvalid : Valid ctf) :
    database.ctfs.free (database.ctfs.sequence + 1)
        (rowOf ctf hvalid.realStart hvalid.realEnd) = true ↔
      ¬ Taken database ctf.name := by
  rw [Table.free_next_iff]
  constructor
  · intro hfree htaken
    obtain ⟨id, row, hfound, hname⟩ := htaken
    exact beq_eq_false_iff_ne.mp (hfree id row hfound) hname
  · intro htaken id row hfound
    apply beq_eq_false_iff_ne.mpr
    exact fun hname => htaken ⟨id, row, hfound, hname⟩

/-- A name with U+0000 in it is refused, as an error of the server. -/
theorem create_zero (database : Database) (hcreate : admin.canCreate = true)
    (hzero : '\x00' ∈ ctf.name.toList) (hstart : Real ctf.startDate) (hend : Real ctf.endDate) :
    (create .available database admin ctf).1 = Handler.fail .internalServerError := by
  have hstored : (rowOf ctf hstart hend).stored = none := by
    rw [CtfRow.stored, rowOf, varchar, if_pos hzero]
    rfl
  rw [create_real hcreate hstart hend, hstored]
  rfl

/-- The CHECK refuses an end before the start, as an error of the server. -/
theorem create_reversed (database : Database) (hcreate : admin.canCreate = true)
    (hname : fitsVarchar 127 ctf.name = true) (hstart : Real ctf.startDate)
    (hend : Real ctf.endDate) (horder : ¬ NotAfter ctf.startDate ctf.endDate) :
    (create .available database admin ctf).1 = Handler.fail .internalServerError := by
  have hble := Bool.eq_false_of_not_eq_true (mt (ble_iff hstart hend).mp horder)
  have hfits : ¬ ctfSchema.fits (rowOf ctf hstart hend) = false := by
    simp only [ctfSchema, rowOf, hname]
    exact Bool.noConfusion
  have hadmits : ¬ ctfSchema.admits (rowOf ctf hstart hend) = true := by
    rw [admits_ctf, rowOf, hname, hble]
    decide
  rw [create_real hcreate hstart hend, stored_rowOf hname]
  simp only [answer, execute, withValues, insertCtf, Table.insert, if_neg hfits,
    dif_neg hadmits]
  rfl

theorem create_taken (hcreate : admin.canCreate = true)
    (hname : fitsVarchar 127 ctf.name = true) (hvalid : Valid ctf)
    (htaken : Taken database ctf.name) :
    (create .available database admin ctf).1 = Handler.fail .conflict ∧
      (create .available database admin ctf).2.ctfs.rows = database.ctfs.rows := by
  have hfree := mt (free_rowOf_iff hvalid).mp (not_not.mpr htaken)
  rw [create_real hcreate hvalid.realStart hvalid.realEnd, stored_rowOf hname]
  simp only [answer, execute, withValues, insertCtf,
    Table.insert_of_admits (admits_rowOf hname hvalid), dif_neg hfree]
  exact ⟨rfl, rfl⟩

theorem create_new (hcreate : admin.canCreate = true)
    (hname : fitsVarchar 127 ctf.name = true) (hvalid : Valid ctf)
    (htaken : ¬ Taken database ctf.name) :
    ∃ id, (create .available database admin ctf).1 = .ok (.created, id) ∧
      (create .available database admin ctf).2.ctfs.find id =
        some (rowOf ctf hvalid.realStart hvalid.realEnd) := by
  have hfree := (free_rowOf_iff hvalid).mpr htaken
  have hinsert := Table.insert_of_free (admits_rowOf hname hvalid) hfree
  have hfind := Table.find_insert_of_free (database.ctfs.sequence + 1)
    (admits_rowOf hname hvalid) hfree
  rw [create_real hcreate hvalid.realStart hvalid.realEnd, stored_rowOf hname]
  simp only [answer, execute, withValues, insertCtf]
  refine ⟨database.ctfs.sequence + 1, ?_, hfind.trans (if_pos rfl)⟩
  rw [hinsert]
  rfl

/-! ## What is created is listed from then on -/

/-- A row and its dates are kept. -/
theorem kept_of_later {before after : Database} {id : ℤ} {row : CtfRow}
    (hlater : Later before after)
    (hbefore : Listable before ∧ before.ctfs.find id = some row) :
    Listable after ∧ after.ctfs.find id = some row := by
  apply hlater.invariant hbefore
  intro request before after hbefore hwritten
  refine ⟨listable_of_writes hbefore.1 hwritten, ?_⟩
  cases hwritten with
  | ctf => exact Table.find_insert_of_find hbefore.2
  | _ => exact hbefore.2

theorem listed_rowOf {id : ℤ} (hstart : Real ctf.startDate) (hend : Real ctf.endDate) :
    listed (id, rowOf ctf hstart hend) = ⟨id, ctf.name, ctf.startDate, ctf.endDate⟩ := by
  have hfrom := tryFrom_tryInto (tryInto_real hstart)
  have hto := tryFrom_tryInto (tryInto_real hend)
  simp only [listed, rowOf, hfrom, hto, Option.getD_some]

/-- Every later list has the CTF with the dates that were submitted. -/
def ListedFrom (database : Database) (id : ℤ) (ctf : CreateCtf) : Prop :=
  ∀ later user, Later database later → ∃ ctfs, (list .available later user).1 = .ok ctfs ∧
    ⟨id, ctf.name, ctf.startDate, ctf.endDate⟩ ∈ ctfs

theorem listedFrom_of_find {id : ℤ} (hlistable : Listable database)
    (hstart : Real ctf.startDate) (hend : Real ctf.endDate)
    (hfound : database.ctfs.find id = some (rowOf ctf hstart hend)) :
    ListedFrom database id ctf := by
  intro later user hlater
  have hkept := kept_of_later hlater ⟨hlistable, hfound⟩
  refine ⟨_, list_of_listable hkept.1, ?_⟩
  rw [← listed_rowOf hstart hend]
  exact List.mem_map_of_mem (Table.find_eq_some_iff.mp hkept.2)

/-! ## Requests that are answered -/

def isClientError : StatusCode → Bool
  | .badRequest => true
  | .unauthorized => true
  | .forbidden => true
  | .notFound => true
  | .conflict => true
  | _ => false

/-- A request is answered, and in every way as it should be. -/
structure Handled (database : Database) (admin : JWTAdmin) (ctf : CreateCtf) : Prop where
  created : Valid ctf → ¬ Taken database ctf.name →
    ∃ id, (create .available database admin ctf).1 = .ok (.created, id) ∧
      ListedFrom (create .available database admin ctf).2 id ctf
  refused : ¬ (Valid ctf ∧ ¬ Taken database ctf.name) →
    (∃ status, isClientError status = true ∧
      (create .available database admin ctf).1 = Handler.fail status) ∧
    (create .available database admin ctf).2.ctfs.rows = database.ctfs.rows

theorem create_listable (hlistable : Listable database) :
    Listable (create .available database admin ctf).2 := by
  unfold create
  split
  · exact hlistable
  · split
    · exact hlistable
    · split
      · rename_i startDate endDate hstart hend
        dsimp only [answer, execute]
        cases hstored : CtfRow.stored ⟨ctf.name, startDate, endDate⟩ with
        | none => exact hlistable
        | some row => exact listable_of_writes hlistable (.ctf hstart hend hstored)
      · exact hlistable

/-- What is an error of the server is not handled. -/
theorem not_handled (hfailed : (create .available database admin ctf).1 =
    Handler.fail .internalServerError) : ¬ Handled database admin ctf := by
  intro hhandled
  by_cases hboth : Valid ctf ∧ ¬ Taken database ctf.name
  · obtain ⟨id, hcreated, _⟩ := hhandled.created hboth.1 hboth.2
    cases hfailed.symm.trans hcreated
  · obtain ⟨⟨status, hclient, hrefused⟩, _⟩ := hhandled.refused hboth
    obtain rfl := Abort.error.inj (Except.error.inj (hfailed.symm.trans hrefused))
    cases hclient

theorem handled_iff (hlistable : Listable database) (hcreate : admin.canCreate = true)
    (hlength : ctf.name.length ≤ 127) :
    Handled database admin ctf ↔ Valid ctf ∧ '\x00' ∉ ctf.name.toList := by
  constructor
  · intro hhandled
    have hreal : Real ctf.startDate ∧ Real ctf.endDate := by
      by_contra hunreal
      obtain ⟨⟨status, _, hrefused⟩, _⟩ := hhandled.refused
        fun hboth => hunreal ⟨hboth.1.realStart, hboth.1.realEnd⟩
      rw [create_unreal database hcreate hunreal] at hrefused
      cases hrefused
    have hzero : '\x00' ∉ ctf.name.toList :=
      fun hzero => not_handled (create_zero database hcreate hzero hreal.1 hreal.2) hhandled
    have hname : fitsVarchar 127 ctf.name = true := fitsVarchar_iff.mpr ⟨hzero, hlength⟩
    refine ⟨⟨hreal.1, hreal.2, ?_⟩, hzero⟩
    by_contra horder
    exact not_handled (create_reversed database hcreate hname hreal.1 hreal.2 horder) hhandled
  · intro hboth
    obtain ⟨hvalid, hzero⟩ := hboth
    have hname : fitsVarchar 127 ctf.name = true := fitsVarchar_iff.mpr ⟨hzero, hlength⟩
    constructor
    · intro _ htaken
      obtain ⟨id, hanswer, hfound⟩ := create_new hcreate hname hvalid htaken
      exact ⟨id, hanswer, listedFrom_of_find (create_listable hlistable) hvalid.realStart
        hvalid.realEnd hfound⟩
    · intro hrefused
      have htaken : Taken database ctf.name := by
        by_contra hnew
        exact hrefused ⟨hvalid, hnew⟩
      have hanswer := create_taken hcreate hname hvalid htaken
      exact ⟨⟨.conflict, rfl, hanswer.1⟩, hanswer.2⟩

/-- CTFs can always be listed, and the requests to create one that are handled are
those with real dates in order and without U+0000 in the name. -/
theorem calendar (hreached : Reached anyRequest database) :
    (∀ user, ∃ ctfs, (list .available database user).1 = .ok ctfs) ∧
    ∀ admin ctf, admin.canCreate = true → ctf.name.length ≤ 127 →
      (Handled database admin ctf ↔ Valid ctf ∧ '\x00' ∉ ctf.name.toList) := by
  have hlistable := listable_of_reached hreached
  constructor
  · intro user
    exact ⟨_, list_of_listable hlistable⟩
  · intro admin ctf hcreate hname
    exact handled_iff hlistable hcreate hname

/-! ## A day in February -/

/-- An event in February 2023 that lasts until some day of it. -/
def february (day : UInt8) : CreateCtf := ⟨"event", ⟨2023, 2, 1⟩, ⟨2023, 2, day⟩⟩

/-- The 29th is not a day of that year. -/
theorem february_panics :
    ¬ ∀ database, Reached anyRequest database → ∀ admin ctf, admin.canCreate = true →
      ctf.name.length ≤ 127 → Handled database admin ctf := by
  intro hclaim
  have hhandled := hclaim .empty .here exampleAdmin (february 29) rfl (by decide)
  have hunreal : ¬ (Real (february 29).startDate ∧ Real (february 29).endDate) :=
    fun hreal => absurd hreal.2 (by decide)
  obtain ⟨status, _, hrefused⟩ :=
    (hhandled.refused fun hboth => hunreal ⟨hboth.1.realStart, hboth.1.realEnd⟩).1
  have hcreate : exampleAdmin.canCreate = true := rfl
  rw [create_unreal .empty hcreate hunreal] at hrefused
  cases hrefused

/-- The 28th is. -/
theorem calendar_february : Handled .empty exampleAdmin (february 28) := by
  have hempty : Reached anyRequest Database.empty := .here
  exact ((calendar hempty).2 exampleAdmin (february 28) rfl (by decide)).mpr
    ⟨⟨by decide, by decide, by decide⟩, by decide⟩

end ScdtServer.Calendar
