import UniversityQA.Py.Text
import UniversityQA.Py.Unquote

/-!
# The connection settings

The fields of `Settings` that go into the connection string, the string and
the way the driver takes it apart.
-/

namespace UniversityQA.Config

open UniversityQA.Py

/-- The `postgres_*` fields. -/
structure Settings where
  postgresUser : String := "university"
  postgresPassword : String := "university"
  postgresDb : String := "university"
  postgresHost : String := "localhost"
  postgresPort : Int := 5432
  deriving DecidableEq, Repr

/-- `Settings.postgres_dsn`. -/
def Settings.postgresDsn (self : Settings) : String :=
  "postgresql://" ++ self.postgresUser ++ ":" ++ self.postgresPassword
    ++ ("@" ++ self.postgresHost ++ ":" ++ toString self.postgresPort ++ "/" ++ self.postgresDb)

/-! ## The driver's reading -/

/-- What a connection string says.  A text that is missing is empty, a port
that is missing or no number is `none`. -/
structure DsnParts where
  user : String
  password : String
  host : String
  port : Option Int
  database : String
  deriving DecidableEq, Repr

def endsAuthority (c : Char) : Bool := c == '/' || c == '?' || c == '#'

def endsPath (c : Char) : Bool := c == '?' || c == '#'

def decodePart (s : List Char) : String := .ofList (unquote s)

/-- The authority, its user information and its host with the port, and the
path; each part percent-decoded after the splitting. -/
def splitDsn (dsn : String) : DsnParts :=
  let body := dsn.toList.drop "postgresql://".length
  let authority := body.takeWhile fun c => !endsAuthority c
  let rest := body.dropWhile fun c => !endsAuthority c
  let (userInfo, hostSpec) := rpartition '@' authority
  let (user, password) := partition ':' userInfo
  let (host, port) := partition ':' hostSpec
  -- a path begins with the slash that ended the authority
  let database := (rest.takeWhile fun c => !endsPath c).drop 1
  { user := decodePart user
    password := decodePart password
    host := decodePart host
    port := parseInt (decodePart port)
    database := decodePart database }

/-- What the settings mean the string to say. -/
def Settings.parts (self : Settings) : DsnParts where
  user := self.postgresUser
  password := self.postgresPassword
  host := self.postgresHost
  port := some self.postgresPort
  database := self.postgresDb

example : splitDsn ({} : Settings).postgresDsn = ({} : Settings).parts := by decide +kernel

end UniversityQA.Config
