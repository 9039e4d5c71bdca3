import ScdtServer.CtfArchive.Jwt
import ScdtServer.CtfArchive.Tables

/-!
# CTF events
-/

namespace ScdtServer.Ctfs

open ScdtServer.Http
open ScdtServer.Jwt
open ScdtServer.Dates
open ScdtServer.Tables

structure Ctf where
  id : ℤ
  name : String
  startDate : Date
  endDate : Date
  deriving DecidableEq

/-- The conversion of one row in `list`. -/
def ctfOf (entry : ℤ × CtfRow) : Handler Empty Ctf := do
  let startDate ← Handler.unwrap .dateConversion (Date.tryFrom entry.2.startDate)
  let endDate ← Handler.unwrap .dateConversion (Date.tryFrom entry.2.endDate)
  return ⟨entry.1, entry.2.name, startDate, endDate⟩

def list (service : Service) (database : Database) (_user : JWTUser) :
    Handler Empty (List Ctf) × Database :=
  answer (execute service (getResults fun database => database.ctfs.rows) database)
    fun result =>
      match result with
      | .ok rows => rows.mapM ctfOf
      | .error _ => Handler.panic .queryResult

structure CreateCtf where
  name : String
  startDate : Date
  endDate : Date
  deriving DecidableEq

/-- The dates are converted once there is a connection. -/
def create (service : Service) (database : Database) (admin : JWTAdmin) (ctf : CreateCtf) :
    Handler StatusCode (StatusCode × ℤ) × Database :=
  if !admin.canCreate then (Handler.fail .forbidden, database)
  else if service = .noConnection then (Handler.panic .poolConnection, database)
  else
    match ctf.startDate.tryInto, ctf.endDate.tryInto with
    | some startDate, some endDate =>
        let row : CtfRow := ⟨ctf.name, startDate, endDate⟩
        answer (execute service (withValues row.stored insertCtf) database)
          fun result =>
            match result with
            | .ok id => .ok (.created, id)
            | .error (.databaseError .unique) => Handler.fail .conflict
            | .error _ => Handler.fail .internalServerError
    | _, _ => (Handler.panic .dateConversion, database)

end ScdtServer.Ctfs
