import ScdtServer.CtfArchive.Jwt
import ScdtServer.CtfArchive.Tables

/-!
# Categories of a CTF event
-/

namespace ScdtServer.Categories

open ScdtServer.Http
open ScdtServer.Jwt
open ScdtServer.Tables

inductive CategoryType
  | reversing
  | exploitation
  | web
  | cryptography
  | stegonography
  | forensics
  | miscellaneous
  deriving DecidableEq

def CategoryType.parse : String → Option CategoryType
  | "rev" => some .reversing
  | "pwn" => some .exploitation
  | "web" => some .web
  | "crypto" => some .cryptography
  | "stego" => some .stegonography
  | "forensics" => some .forensics
  | "misc" => some .miscellaneous
  | _ => none

def CategoryType.asStr : CategoryType → String
  | .reversing => "rev"
  | .exploitation => "pwn"
  | .web => "web"
  | .cryptography => "crypto"
  | .stegonography => "stego"
  | .forensics => "forensics"
  | .miscellaneous => "misc"

structure Category where
  id : ℤ
  name : String
  categoryType : CategoryType
  deriving DecidableEq

/-- The conversion of one row in `get`. -/
def categoryOf (entry : ℤ × CategoryRow) : Handler StatusCode Category := do
  let categoryType ←
    Handler.unwrap .categoryType (CategoryType.parse entry.2.categoryType)
  return ⟨entry.1, entry.2.name, categoryType⟩

def get (service : Service) (database : Database) (ctfId : ℤ) (_user : JWTUser) :
    Handler StatusCode (List Category) × Database :=
  let rows := getResults fun database => database.categories.filter fun row => row.ctfId == ctfId
  answer (execute service rows database) fun result =>
    match result with
    | .ok rows => rows.mapM categoryOf
    | .error _ => Handler.fail .internalServerError

structure CreateCategory where
  name : String
  ctfId : ℤ
  categoryType : CategoryType
  deriving DecidableEq

def create (service : Service) (database : Database) (admin : JWTAdmin)
    (category : CreateCategory) : Handler StatusCode (StatusCode × ℤ) × Database :=
  if !admin.canCreate then (Handler.fail .forbidden, database)
  else
    let row : CategoryRow := ⟨category.name, category.ctfId, category.categoryType.asStr⟩
    answer (execute service (withValues row.stored insertCategory) database) fun result =>
      match result with
      | .ok id => .ok (.created, id)
      | .error (.databaseError .unique) => Handler.fail .conflict
      | .error (.databaseError .foreignKey) => Handler.fail .notFound
      | .error _ => Handler.fail .internalServerError

end ScdtServer.Categories
