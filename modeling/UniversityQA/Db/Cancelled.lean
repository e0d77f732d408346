import UniversityQA.Db.ConnectorCalls
import UniversityQA.Lib.Cancellation

/-!
# A call that is cancelled

A `CancelledError` is raised by what the call awaits of the driver.  The
`async with` statements give back what they were given and let it through.

* `interrupt`: the awaits;
* `GivesBack`, `Done`: giving back a connection or closing a cursor, and that
  such things succeed;
* `executeQuerySteps_letsThrough` and its like: so goes every call.
-/

namespace UniversityQA.Db

open UniversityQA.Py Coroutine SharedHandle

variable {ε α : Type}

/-- What a cancelled call is answered where it awaits the driver. -/
def interrupt (cancelled : ε) : (op : Op Request) → Option (Op.Answer Request.Answer ε op)
  | .connect => some (.error cancelled)
  | .request _ _ => some (.error cancelled)
  | .close _ => some (.error cancelled)
  | _ => none

/-- The end of an `async with`. -/
def GivesBack : Op Request → Prop
  | .request _ .release => True
  | .request _ .closeCursor => True
  | _ => False

/-- It succeeds, and so does closing. -/
def Done : OpEvent Request.Answer ε → Prop
  | ⟨.request _ .release, a⟩ => a = .ok ()
  | ⟨.request _ .closeCursor, a⟩ => a = .ok ()
  | ⟨.close _, a⟩ => a = .ok ()
  | _ => True

/-- A call that returns nothing has returned. -/
def decidableReturned (a : Except ε Unit) : Decidable (a = .ok ()) :=
  match a with
  | .ok () => isTrue rfl
  | .error _ => isFalse nofun

instance (e : OpEvent Request.Answer ε) : Decidable (Done e) :=
  match e with
  | ⟨.request _ .release, a⟩ => decidableReturned a
  | ⟨.request _ .closeCursor, a⟩ => decidableReturned a
  | ⟨.close _, a⟩ => decidableReturned a
  | ⟨.request _ .acquire, _⟩ | ⟨.request _ (.fetch _), _⟩ | ⟨.request _ (.execute _), _⟩
  | ⟨.request _ (.fetchall _), _⟩ | ⟨.request _ (.fetchCells _), _⟩ | ⟨.read, _⟩ | ⟨.connect, _⟩
  | ⟨.store _, _⟩ | ⟨.clear _, _⟩ => isTrue trivial

/-- Cancelled anywhere, the program gives back what it holds and lets the
exception through. -/
abbrev LetsThrough (cancelled : ε) (p : Steps ε α) : Prop :=
  p.CancelSafe (interrupt cancelled) Done GivesBack (.driver cancelled)

variable (cancelled : ε)

theorem request_letsThrough (h : Nat) (r : Request) :
    LetsThrough cancelled (request h r) := by
  refine ⟨fun a => cancelSafe_ofExcept _, ?_⟩
  rintro a ⟨⟩
  rfl

theorem connect_letsThrough : LetsThrough cancelled (connect : Steps ε Nat) := by
  refine ⟨fun a => cancelSafe_ofExcept _, ?_⟩
  rintro a ⟨⟩
  rfl

theorem readField_letsThrough : LetsThrough cancelled (readField : Steps ε (Option Nat)) :=
  ⟨fun _ => trivial, by rintro a ⟨⟩⟩

theorem storeField_letsThrough (h : Nat) : LetsThrough cancelled (storeField h : Steps ε Unit) :=
  ⟨fun _ => trivial, by rintro a ⟨⟩⟩

/-- Leaving after the exception, which is raised again. -/
theorem leave_aborts {h : Nat} {r : Request} (hr : r = .release ∨ r = .closeCursor)
    (f : r.Answer → Steps ε α)
    (hf : ∀ a, f a = .raise (.driver cancelled)) :
    (request h r >>= f).Aborts Done GivesBack (.driver cancelled) := by
  have hdone : ∀ a : Except ε r.Answer, Done ⟨.request h r, a⟩ → ∃ v, a = .ok v := by
    rintro a ha
    rcases hr with rfl | rfl
    · exact ⟨(), ha⟩
    · exact ⟨(), ha⟩
  refine ⟨by rcases hr with rfl | rfl <;> trivial, fun a ha => ?_⟩
  obtain ⟨v, rfl⟩ := hdone a ha
  change (f v).Aborts Done GivesBack _
  rw [hf v]
  rfl

theorem within_letsThrough {enter leave : Steps ε Unit} {body : Steps ε α}
    (henter : LetsThrough cancelled enter) (hbody : LetsThrough cancelled body)
    (hleave : LetsThrough cancelled leave)
    (haborts : (leave >>= fun _ => .raise (.driver cancelled) : Steps ε α).Aborts Done GivesBack
      (.driver cancelled)) : LetsThrough cancelled (within enter body leave) := by
  refine cancelSafe_bind henter fun _ => cancelSafe_bind (cancelSafe_tryCatch hbody ?_ haborts) ?_
  · exact fun e => cancelSafe_bind hleave fun _ => trivial
  · exact fun a => cancelSafe_bind hleave fun _ => trivial

theorem PostgresConnector.query_letsThrough (record : RecordDict) (sql : String) (pool : Nat) :
    LetsThrough cancelled (PostgresConnector.query record sql pool) :=
  within_letsThrough cancelled (request_letsThrough cancelled pool .acquire)
    (cancelSafe_bind (request_letsThrough cancelled pool _) fun _ => trivial)
    (request_letsThrough cancelled pool .release)
    (leave_aborts cancelled (.inl rfl) _ fun _ => rfl)

theorem SQLiteConnector.query_letsThrough (sql : String) (conn : Nat) :
    LetsThrough cancelled (SQLiteConnector.query sql conn) :=
  within_letsThrough cancelled (request_letsThrough cancelled conn _)
    (cancelSafe_bind (request_letsThrough cancelled conn _) fun _ => trivial)
    (request_letsThrough cancelled conn .closeCursor)
    (leave_aborts cancelled (.inr rfl) _ fun _ => rfl)

theorem SQLiteConnector.readRows_letsThrough (sql : String)
    (read : List SqliteRow → Except (SqliteError ε) α) (conn : Nat) :
    LetsThrough cancelled (SQLiteConnector.readRows sql read conn) :=
  within_letsThrough cancelled (request_letsThrough cancelled conn _)
    (cancelSafe_bind (request_letsThrough cancelled conn _) fun _ => cancelSafe_ofExcept _)
    (request_letsThrough cancelled conn .closeCursor)
    (leave_aborts cancelled (.inr rfl) _ fun _ => rfl)

theorem SQLiteConnector.tablesSteps_letsThrough (conn : Nat) (tables : List String) :
    LetsThrough cancelled (SQLiteConnector.tablesSteps conn tables) := by
  induction tables with
  | nil => trivial
  | cons table tables ih =>
    refine cancelSafe_bind (readRows_letsThrough cancelled _ _ conn) fun pairs => ?_
    refine cancelSafe_bind (readRows_letsThrough cancelled _ _ conn) fun records => ?_
    exact cancelSafe_bind ih fun result => trivial

theorem PostgresConnector.pool_letsThrough :
    LetsThrough cancelled (PostgresConnector.pool : Steps ε Nat) := by
  refine cancelSafe_bind (readField_letsThrough cancelled) fun field => ?_
  cases field with
  | some pool => trivial
  | none =>
    refine cancelSafe_bind (connect_letsThrough cancelled) fun pool => ?_
    exact cancelSafe_bind (storeField_letsThrough cancelled pool) fun _ => trivial

theorem SQLiteConnector.conn_letsThrough :
    LetsThrough cancelled (SQLiteConnector.getConn >>= SQLiteConnector.deref : Steps ε Nat) := by
  refine cancelSafe_bind (cancelSafe_bind (readField_letsThrough cancelled) fun field => ?_) ?_
  · cases field with
    | some conn => trivial
    | none =>
      refine cancelSafe_bind (connect_letsThrough cancelled) fun conn => ?_
      refine cancelSafe_bind (storeField_letsThrough cancelled conn) fun _ => ?_
      exact cancelSafe_bind (request_letsThrough cancelled conn _) fun _ =>
        readField_letsThrough cancelled
  · intro conn
    cases conn <;> trivial

theorem executeQuerySteps_letsThrough (c : Connector) (sql : String) :
    LetsThrough cancelled (c.executeQuerySteps sql) := by
  cases c with
  | postgres record =>
    exact cancelSafe_bind (PostgresConnector.pool_letsThrough cancelled)
      (PostgresConnector.query_letsThrough cancelled record sql)
  | sqlite =>
    have hconn := cancelSafe_bind (SQLiteConnector.conn_letsThrough cancelled)
      (SQLiteConnector.query_letsThrough cancelled sql)
    rwa [Prog.bind_assoc] at hconn

theorem fetchSchemaSteps_letsThrough (c : Connector) :
    LetsThrough cancelled c.fetchSchemaSteps := by
  cases c with
  | postgres record =>
    exact cancelSafe_bind (executeQuerySteps_letsThrough cancelled (.postgres record) schemaQuery)
      fun rows => cancelSafe_ofExcept _
  | sqlite =>
    have hconn := cancelSafe_bind (SQLiteConnector.conn_letsThrough cancelled) fun conn =>
      cancelSafe_bind (SQLiteConnector.readRows_letsThrough cancelled tablesQuery
        (fun rows => rows.mapM fun row => textCell row 0) conn)
        (SQLiteConnector.tablesSteps_letsThrough cancelled conn)
    rwa [Prog.bind_assoc] at hconn

theorem healthcheckSteps_letsThrough (c : Connector) {isException : ε → Bool}
    (hcancelled : isException cancelled = false) :
    LetsThrough cancelled (c.healthcheckSteps isException) := by
  refine cancelSafe_tryCatch (cancelSafe_bind (executeQuerySteps_letsThrough cancelled c _)
    fun rows => trivial) (fun e => ?_) ?_
  · cases e with
    | driver e =>
      dsimp only
      split <;> trivial
    | _ => trivial
  · simp [hcancelled, Prog.Aborts]

end UniversityQA.Db
