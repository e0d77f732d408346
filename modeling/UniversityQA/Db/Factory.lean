import UniversityQA.Config.Settings
import UniversityQA.Db.ConnectorCalls

/-!
# What depends on the driver

`DB_DRIVER` is matched twice, for the connector and for the few-shot examples.
`repr` is the interpreter's `repr` of a string.

* `getConnector`, `examplesFile`: the two matches;
* `getConnector_isOk_iff`, `examplesFile_isOk_iff`: they know the same drivers.
-/

namespace UniversityQA.Db

/-- The fields of `Settings` that `get_connector` reads. -/
structure FactorySettings where
  dbDriver : String := "postgres"
  postgres : Config.Settings := {}
  sqlitePath : String := ":memory:"

/-- A connector as it is constructed, not connected yet. -/
inductive NewConnector where
  | postgres (dsn : String)
  | sqlite (path : String)
  deriving DecidableEq, Repr

/-- `get_connector`, or the text of its `ValueError`. -/
def getConnector (repr : String → String) (settings : FactorySettings) :
    Except String NewConnector :=
  match settings.dbDriver with
  | "postgres" => .ok (.postgres settings.postgres.postgresDsn)
  | "sqlite" => .ok (.sqlite settings.sqlitePath)
  | driver => .error ("Unknown DB_DRIVER: " ++ repr driver)

/-- The file of `load_few_shot_examples`, or the text of its `ValueError`. -/
def examplesFile (repr : String → String) (driver : String) : Except String String :=
  match driver with
  | "postgres" => .ok "postgres_examples.sql"
  | "sqlite" => .ok "sqlite_examples.sql"
  | driver => .error ("No SQL examples for driver: " ++ repr driver)

/-- How the connector goes about its calls; `record` is `dict(record)` of the
driver's records. -/
def NewConnector.calls (record : RecordDict) : NewConnector → Connector
  | .postgres _ => .postgres record
  | .sqlite _ => .sqlite

def KnownDriver (driver : String) : Prop := driver = "postgres" ∨ driver = "sqlite"

theorem getConnector_isOk_iff (repr : String → String) (settings : FactorySettings) :
    (∃ c, getConnector repr settings = .ok c) ↔ KnownDriver settings.dbDriver := by
  unfold getConnector KnownDriver
  split
  · next h => simp [h]
  · next h => simp [h]
  · next hpostgres hsqlite => simpa using ⟨hpostgres, hsqlite⟩

theorem examplesFile_isOk_iff (repr : String → String) (driver : String) :
    (∃ file, examplesFile repr driver = .ok file) ↔ KnownDriver driver := by
  unfold examplesFile KnownDriver
  split
  · simp
  · simp
  · next hpostgres hsqlite => simpa using ⟨hpostgres, hsqlite⟩

/-- **The two matches agree.** -/
theorem examplesFile_of_getConnector {repr : String → String} {settings : FactorySettings}
    {c : NewConnector} (h : getConnector repr settings = .ok c) :
    ∃ file, examplesFile repr settings.dbDriver = .ok file :=
  (examplesFile_isOk_iff repr _).2 ((getConnector_isOk_iff repr settings).1 ⟨c, h⟩)

end UniversityQA.Db
