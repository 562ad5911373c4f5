import Botik.Library.Connection
import Botik.Storage.Migrations
import Mathlib.Data.List.Nodup
import Mathlib.Logic.Relation

/-!
# Migrations that are run again

A run that stopped leaves a database from which the next run comes to the same end: the migrations
that are marked are skipped, and the one it stopped in is executed from its beginning, where every
statement that was executed has nothing left to do. This is so with SQLite. With PostgreSQL, where
a row of `RealDictCursor` has no first column, the marks cannot be read, and every run applies all
migrations.

## Main definitions

* `Ends` — how a program that talks to SQLite may end
* `Restartable` — a migration function may be stopped and executed again
* `migrate` — the databases before and after a run
* `StopsAt` — the database after a run that stopped
* `CompletedRun` — what a run to completion leaves

## Main results

* `repeatable_script`, `restartable_executescript`, `restartable_ignoringErrors`
* `applyPending_ends`, `runMigrations_ends` — the ends of a run
* `count_of_postgres` — what a run with PostgreSQL applies
* `migrations_restartable_iff`
-/

namespace Botik

open Program

/-! ### Statements -/

/-- The statements of the scripts. -/
def Statement.IsCreate : Statement → Prop
  | .createTable _ _ _ | .createIndex _ _ _ => True
  | .dropColumn _ _ | .addColumn _ _ => False

instance : DecidablePred Statement.IsCreate := fun statement => by
  cases statement <;> unfold Statement.IsCreate <;> infer_instance

/-- Every object of a schema is in another one. -/
def Objects.Extends (objs objs' : Objects) : Prop :=
  ∀ name object, objs.get? name = some object → objs'.get? name = some object

theorem extends_set {objs : Objects} {name : String} (h : objs.get? name = none)
    (object : SchemaObject) : Objects.Extends objs (Dict.set objs name object) := by
  intro name' object' hget
  rw [Dict.get?_set_of_ne, hget]
  rintro rfl
  rw [h] at hget
  cases hget

/-- What a statement that creates something is for is there. -/
def Statement.IsDone (objs : Objects) : Statement → Prop
  | .createTable name _ _ => (∃ t, objs.get? name = some (.table t)) ∨ objs.get? name = some .view
  | .createIndex name table _ =>
    (∃ t, objs.get? table = some (.table t)) ∧
      ∃ table' columns, objs.get? name = some (.index table' columns)
  | .dropColumn _ _ | .addColumn _ _ => False

section Creates

variable {dropsColumns : Bool} {objs objs' : Objects} {statement : Statement}

theorem Statement.IsDone.mono (h : statement.IsDone objs) (hext : objs.Extends objs') :
    statement.IsDone objs' := by
  cases statement with
  | createTable name columns constraints =>
    rcases h with ⟨t, ht⟩ | hview
    · exact Or.inl ⟨t, hext _ _ ht⟩
    · exact Or.inr (hext _ _ hview)
  | createIndex name table columns =>
    obtain ⟨⟨t, ht⟩, table', columns', hindex⟩ := h
    exact ⟨⟨t, hext _ _ ht⟩, table', columns', hext _ _ hindex⟩
  | dropColumn table column => exact h
  | addColumn table column => exact h

/-- Then it has nothing to do. -/
theorem execute_of_isDone (h : statement.IsDone objs) :
    statement.execute dropsColumns objs = .ok objs := by
  cases statement with
  | createTable name columns constraints =>
    rcases h with ⟨t, ht⟩ | hview
    · simp [Statement.execute, ht]
    · simp [Statement.execute, hview]
  | createIndex name table columns =>
    obtain ⟨⟨t, ht⟩, table', columns', hindex⟩ := h
    simp [Statement.execute, ht, hindex]
  | dropColumn table column => exact h.elim
  | addColumn table column => exact h.elim

/-- A statement that was executed is done and took nothing away. -/
theorem isDone_of_execute (hcreate : statement.IsCreate)
    (h : statement.execute dropsColumns objs = .ok objs') :
    statement.IsDone objs' ∧ objs.Extends objs' := by
  cases statement with
  | createTable name columns constraints =>
    simp only [Statement.execute] at h
    split at h
    · rename_i hnone
      cases h
      exact ⟨Or.inl ⟨_, Dict.get?_set_self ..⟩, extends_set hnone _⟩
    · rename_i t htable
      cases h
      exact ⟨Or.inl ⟨t, htable⟩, fun _ _ hget => hget⟩
    · rename_i hview
      cases h
      exact ⟨Or.inr hview, fun _ _ hget => hget⟩
    · cases h
  | createIndex name table columns =>
    simp only [Statement.execute] at h
    split at h
    · rename_i t htable
      split at h
      · rename_i table' columns' hindex
        cases h
        exact ⟨⟨⟨t, htable⟩, table', columns', hindex⟩, fun _ _ hget => hget⟩
      · cases h
      · rename_i hnone
        split_ifs at h
        cases h
        have hext := extends_set hnone (.index table columns)
        exact ⟨⟨⟨t, hext _ _ htable⟩, table, columns, Dict.get?_set_self ..⟩, hext⟩
    · cases h
  | dropColumn table column => exact hcreate.elim
  | addColumn table column => exact hcreate.elim

end Creates

/-- What SQLite does with a statement. -/
abbrev sqliteExecute (dropsColumns : Bool) (statement : Statement) (objs : Objects) :
    Except SqlError Objects :=
  statement.execute dropsColumns objs

/-- A script that only creates may be executed again. -/
theorem repeatable_script (dropsColumns : Bool) {script : List Statement}
    (hscript : ∀ statement ∈ script, statement.IsCreate) :
    Scripts.Repeatable (sqliteExecute dropsColumns) script where
  settles statement hmem _ _ h :=
    execute_of_isDone (isDone_of_execute (hscript statement hmem) h).1
  stays statement hmem other hother _ _ hsettled h :=
    execute_of_isDone ((isDone_of_execute (hscript statement hmem) hsettled).1.mono
      (isDone_of_execute (hscript other hother) h).2)

/-! ### How a program ends -/

/-- A program that begins with nothing to commit returns with nothing to commit, as `spec` says,
or raises its error, or stops and leaves a database of which `stopped` holds. -/
inductive Ends {α : Type} (x : MigrationM α) (spec : Except SqlError (α × Database))
    (stopped : Database → Prop) (log : List ℕ) (s : MigrationState) : Prop
  | returns (a : α) (db : Database) (left : Option ℕ) (hspec : spec = .ok (a, db))
      (hleft : s.left = none → left = none) (h : x s = .ok a ⟨.opened db, left, s.log ++ log⟩)
  | raises (err : SqlError) (s' : MigrationState) (hspec : spec = .error err)
      (h : x s = .error (.sql err) s')
  | stops (s' : MigrationState) (hleft : s.left ≠ none) (hstopped : stopped s'.conn.stored)
      (h : x s = .error .stopped s')

namespace Ends

variable {α β : Type} {x : MigrationM α} {f : α → MigrationM β}
variable {spec : Except SqlError (α × Database)} {stopped : Database → Prop} {log : List ℕ}
variable {s : MigrationState}

theorem mono (h : Ends x spec stopped log s) {stopped' : Database → Prop}
    (hstopped : ∀ db, stopped db → stopped' db) : Ends x spec stopped' log s := by
  cases h with
  | returns a db left hspec hleft h => exact .returns a db left hspec hleft h
  | raises err s' hspec h => exact .raises err s' hspec h
  | stops s' hleft hstop h => exact .stops s' hleft (hstopped _ hstop) h

theorem of_eq (h : Ends x spec stopped log s) {y : MigrationM α} (heq : y s = x s) :
    Ends y spec stopped log s := by
  cases h with
  | returns a db left hspec hleft h => exact .returns a db left hspec hleft (heq.trans h)
  | raises err s' hspec h => exact .raises err s' hspec (heq.trans h)
  | stops s' hleft hstop h => exact .stops s' hleft hstop (heq.trans h)

/-- Two programs one after the other. -/
theorem bind (h : Ends x spec stopped log s)
    (spec' : α → Database → Except SqlError (β × Database)) {log' : List ℕ}
    (hf : ∀ a db left, spec = .ok (a, db) →
      Ends (f a) (spec' a db) stopped log' ⟨.opened db, left, s.log ++ log⟩) :
    Ends (x >>= f) (spec >>= fun p => spec' p.1 p.2) stopped (log ++ log') s := by
  cases h with
  | returns a db left hspec hleft h =>
    have hthen := hf a db left hspec
    subst hspec
    cases hthen with
    | returns b db' left' hspec' hleft' h' =>
      refine .returns b db' left' hspec' (fun hnone => hleft' (hleft hnone)) ?_
      rw [bind_of_ok h, h', List.append_assoc]
    | raises err s' hspec' h' =>
      exact .raises err s' hspec' (by rw [bind_of_ok h, h'])
    | stops s' hleft' hstop h' =>
      exact .stops s' (fun hnone => hleft' (hleft hnone)) hstop (by rw [bind_of_ok h, h'])
  | raises err s' hspec h =>
    subst hspec
    exact .raises err s' rfl (bind_of_error h)
  | stops s' hleft hstop h => exact .stops s' hleft hstop (bind_of_error h)

/-- The same where the first one logs nothing. -/
theorem bind_silent (h : Ends x spec stopped [] s)
    (spec' : α → Database → Except SqlError (β × Database)) {log' : List ℕ}
    (hf : ∀ a db left, spec = .ok (a, db) →
      Ends (f a) (spec' a db) stopped log' ⟨.opened db, left, s.log⟩) :
    Ends (x >>= f) (spec >>= fun p => spec' p.1 p.2) stopped log' s :=
  h.bind spec' fun a db left hspec => by
    rw [List.append_nil]
    exact hf a db left hspec

/-- A program whose value is changed at the end. -/
theorem then_return (h : Ends x spec stopped log s) (g : α → β) :
    Ends (do let a ← x; return g a) (spec >>= fun p => .ok (g p.1, p.2)) stopped log s := by
  have hboth : Ends (do let a ← x; return g a) (spec >>= fun p => .ok (g p.1, p.2)) stopped
      (log ++ []) s :=
    h.bind (fun a db => .ok (g a, db)) fun a db left _ =>
      .returns (g a) db left rfl (fun h => h) (by rw [List.append_nil]; rfl)
  rwa [List.append_nil] at hboth

/-- A program after an entry of the log. -/
theorem logged {conn : Connection Database} {left : Option ℕ} {entries : List ℕ} {version : ℕ}
    (h : Ends x spec stopped log ⟨conn, left, entries ++ [version]⟩) :
    Ends (do modify fun s => { s with log := s.log ++ [version] }; x) spec stopped (version :: log)
      ⟨conn, left, entries⟩ := by
  have hlog : (modify fun s => { s with log := s.log ++ [version] } : MigrationM PUnit)
      ⟨conn, left, entries⟩ = .ok ⟨⟩ ⟨conn, left, entries ++ [version]⟩ := rfl
  cases h with
  | returns a db left' hspec hleft h =>
    exact .returns a db left' hspec hleft (by rw [bind_of_ok hlog, h]; simp)
  | raises err s' hspec h => exact .raises err s' hspec (by rw [bind_of_ok hlog, h])
  | stops s' hleft hstop h => exact .stops s' hleft hstop (by rw [bind_of_ok hlog, h])

/-- A program that runs as long as it takes does not stop. -/
theorem eq_of_left_eq_none (h : Ends x spec stopped log s) (hleft : s.left = none) :
    (∃ a db, spec = .ok (a, db) ∧ x s = .ok a ⟨.opened db, none, s.log ++ log⟩) ∨
      ∃ err s', spec = .error err ∧ x s = .error (.sql err) s' := by
  cases h with
  | returns a db left hspec hleft' h =>
    rw [hleft' hleft] at h
    exact Or.inl ⟨a, db, hspec, h⟩
  | raises err s' hspec h => exact Or.inr ⟨err, s', hspec, h⟩
  | stops s' hne hstop h => exact absurd hleft hne

end Ends

section Sqlite

variable {dropsColumns : Bool} {db : Database} {left : Option ℕ} {log : List ℕ}

/-- An operation that stores something. -/
theorem ends_operation_commit (f : Database → Database) (db : Database) (left : Option ℕ)
    (log : List ℕ) :
    Ends (do operation; modifyConn fun c => (c.write f).commit) (.ok ((), f db)) (· = db) []
      ⟨.opened db, left, log⟩ := by
  by_cases hleft : left = some 0
  · subst hleft
    exact .stops _ (by simp) rfl rfl
  · refine .returns () (f db) (left.map Nat.pred) rfl ?_ ?_
    · rintro rfl
      rfl
    · have hop : operation ⟨.opened db, left, log⟩ =
          .ok () ⟨.opened db, left.map Nat.pred, log⟩ := if_neg hleft
      rw [bind_of_ok hop, List.append_nil]
      rfl

theorem ends_commit (db : Database) (left : Option ℕ) (log : List ℕ) :
    Ends commit (.ok ((), db)) (· = db) [] ⟨.opened db, left, log⟩ := ends_operation_commit id db left log

variable (dropsColumns) in
/-- What a statement that changes the schema leaves. -/
theorem execute_run (statement : Statement) (db : Database) (left : Option ℕ) (log : List ℕ) :
    execute (.sqlite dropsColumns) statement ⟨.opened db, left, log⟩ =
      if left = some 0 then .error .stopped ⟨.opened db, left, log⟩
      else match sqliteExecute dropsColumns statement db.objects with
        | .ok objs => .ok () ⟨.opened (setObjects objs db), left.map Nat.pred, log⟩
        | .error err => .error (.sql err) ⟨.opened db, left.map Nat.pred, log⟩ := by
  unfold execute
  split_ifs with hleft
  · exact bind_of_error (if_pos hleft)
  · have hop : operation ⟨.opened db, left, log⟩ =
        .ok () ⟨.opened db, left.map Nat.pred, log⟩ := if_neg hleft
    rw [bind_of_ok hop, bind_of_ok (get_run _)]
    cases h : sqliteExecute dropsColumns statement db.objects with
    | ok objs =>
      simp only [Connection.opened_current, h]
      rfl
    | error err =>
      simp only [Connection.opened_current, h]
      rfl

variable (dropsColumns) in
theorem ends_execute (statement : Statement) (db : Database) (left : Option ℕ) (log : List ℕ) :
    Ends (execute (.sqlite dropsColumns) statement)
      ((sqliteExecute dropsColumns statement db.objects).map fun objs => ((), setObjects objs db))
      (· = db) [] ⟨.opened db, left, log⟩ := by
  have hrun := execute_run dropsColumns statement db left log
  split_ifs at hrun with hleft
  · exact .stops _ (by simp [hleft]) rfl hrun
  · cases h : sqliteExecute dropsColumns statement db.objects with
    | ok objs =>
      rw [h] at hrun
      refine .returns () (setObjects objs db) (left.map Nat.pred) rfl ?_ ?_
      · rintro rfl
        rfl
      · rw [List.append_nil]
        exact hrun
    | error err =>
      rw [h] at hrun
      exact .raises err _ rfl hrun

/-- A script that was stopped: some of its statements were executed. -/
def Interrupted (dropsColumns : Bool) (script : List Statement) (db stored : Database) : Prop :=
  stored.marks = db.marks ∧ ∃ done rest, script = done ++ rest ∧
    Scripts.run (sqliteExecute dropsColumns) done db.objects = .ok stored.objects

theorem Interrupted.start (script : List Statement) (db : Database) :
    Interrupted dropsColumns script db db :=
  ⟨rfl, [], script, rfl, rfl⟩

theorem Interrupted.cons {statement : Statement} {script : List Statement} {objs : Objects}
    {stored : Database} (hexec : sqliteExecute dropsColumns statement db.objects = .ok objs)
    (h : Interrupted dropsColumns script (setObjects objs db) stored) :
    Interrupted dropsColumns (statement :: script) db stored := by
  obtain ⟨hmarks, done, rest, rfl, hrun⟩ := h
  exact ⟨hmarks, statement :: done, rest, rfl, (Scripts.run_cons_of_ok hexec done).trans hrun⟩

/-- What a script does to a database. -/
def runScript (dropsColumns : Bool) (script : List Statement) (db : Database) :
    Except SqlError (Unit × Database) :=
  (Scripts.run (sqliteExecute dropsColumns) script db.objects).map fun objs =>
    ((), setObjects objs db)

theorem runScript_cons_of_ok {statement : Statement} {objs : Objects}
    (h : sqliteExecute dropsColumns statement db.objects = .ok objs) (script : List Statement) :
    runScript dropsColumns (statement :: script) db =
      runScript dropsColumns script (setObjects objs db) := by
  unfold runScript
  rw [Scripts.run_cons_of_ok h]
  rfl

theorem runScript_cons_of_error {statement : Statement} {err : SqlError}
    (h : sqliteExecute dropsColumns statement db.objects = .error err) (script : List Statement) :
    runScript dropsColumns (statement :: script) db = .error err := by
  unfold runScript
  rw [Scripts.run_cons_of_error h]
  rfl

variable (dropsColumns) in
/-- The statements of a script, one after the other. -/
theorem ends_each_execute (script : List Statement) (db : Database) (left : Option ℕ)
    (log : List ℕ) :
    Ends (each (execute (.sqlite dropsColumns)) script) (runScript dropsColumns script db)
      (Interrupted dropsColumns script db) [] ⟨.opened db, left, log⟩ := by
  induction script generalizing db left with
  | nil =>
    refine .returns () db left rfl (fun h => h) ?_
    rw [List.append_nil]
    rfl
  | cons statement script ih =>
    rw [each_cons]
    rcases hexec : sqliteExecute dropsColumns statement db.objects with err | objs
    · cases ends_execute dropsColumns statement db left log with
      | returns a db' left' hspec hleft h =>
        rw [hexec] at hspec
        cases hspec
      | raises err' s' hspec h =>
        rw [hexec] at hspec
        cases hspec
        exact .raises err s' (runScript_cons_of_error hexec script) (bind_of_error h)
      | stops s' hleft hstop h =>
        exact .stops s' hleft (by rw [hstop]; exact .start _ db) (bind_of_error h)
    · rw [runScript_cons_of_ok hexec]
      have hfirst : Ends (execute (.sqlite dropsColumns) statement) (.ok ((), setObjects objs db))
          (Interrupted dropsColumns (statement :: script) db) [] ⟨.opened db, left, log⟩ := by
        have h := ends_execute dropsColumns statement db left log
        rw [hexec] at h
        refine h.mono ?_
        rintro stored rfl
        exact .start _ _
      refine hfirst.bind_silent (fun _ db' => runScript dropsColumns script db')
        fun a db' left' hspec => ?_
      cases hspec
      exact (ih (setObjects objs db) left').mono fun stored hstored => hstored.cons hexec

/-- A migration function may be stopped anywhere and executed again: what is stored then comes to
the same end, and once it is there, stays. -/
structure Restartable (dropsColumns : Bool) (fn : Engine → MigrationM Unit)
    (effect : Objects → Except SqlError Objects) : Prop where
  ends : ∀ db left log, Ends (fn (.sqlite dropsColumns))
    ((effect db.objects).map fun objs => ((), setObjects objs db))
    (fun stored => stored.marks = db.marks ∧ effect stored.objects = effect db.objects) []
    ⟨.opened db, left, log⟩
  again : ∀ objs objs', effect objs = .ok objs' → effect objs' = .ok objs'

theorem restartable_executescript (dropsColumns : Bool) {script : List Statement}
    (hscript : ∀ statement ∈ script, statement.IsCreate) :
    Restartable dropsColumns (fun e => executescript e script)
      (Scripts.run (sqliteExecute dropsColumns) script) where
  ends db left log := by
    have hcommit : modifyConn Connection.commit ⟨.opened db, left, log⟩ =
        .ok () ⟨.opened db, left, log⟩ := rfl
    refine Ends.of_eq ((ends_each_execute dropsColumns script db left log).mono ?_)
      (bind_of_ok hcommit)
    rintro stored ⟨hmarks, done, rest, hsplit, hrun⟩
    exact ⟨hmarks, (repeatable_script dropsColumns hscript).run_of_interrupted hsplit hrun⟩
  again objs objs' h := (repeatable_script dropsColumns hscript).run_run h

/-- What a statement does whose errors are ignored. -/
def orIgnored (dropsColumns : Bool) (statement : Statement) (objs : Objects) : Objects :=
  match sqliteExecute dropsColumns statement objs with
  | .ok objs' => objs'
  | .error _ => objs

/-- A statement that is refused the second time may be executed again where errors are ignored. -/
theorem restartable_ignoringErrors (dropsColumns : Bool) {statement : Statement}
    (hagain : ∀ objs objs', sqliteExecute dropsColumns statement objs = .ok objs' →
      ∃ err, sqliteExecute dropsColumns statement objs' = .error err) :
    Restartable dropsColumns (fun e => ignoringErrors (execute e statement))
      (fun objs => .ok (orIgnored dropsColumns statement objs)) where
  ends db left log := by
    have hrun := execute_run dropsColumns statement db left log
    have hnone : left = none → left.map Nat.pred = none := by
      rintro rfl
      rfl
    unfold orIgnored ignoringErrors
    split_ifs at hrun with hleft
    · exact .stops _ (by simp [hleft]) ⟨rfl, rfl⟩ (by rw [hrun])
    · cases h : sqliteExecute dropsColumns statement db.objects with
      | ok objs =>
        rw [h] at hrun
        exact .returns () (setObjects objs db) _ rfl hnone (by rw [hrun, List.append_nil])
      | error err =>
        rw [h] at hrun
        exact .returns () db _ rfl hnone (by rw [hrun, List.append_nil])
  again objs objs' h := by
    cases Except.ok.inj h
    unfold orIgnored
    cases hexec : sqliteExecute dropsColumns statement objs with
    | ok objs' =>
      obtain ⟨err, herr⟩ := hagain objs objs' hexec
      simp only [herr]
    | error err => simp only [hexec]

theorem dropColumn_again (table column : String) (objs objs' : Objects)
    (h : sqliteExecute dropsColumns (.dropColumn table column) objs = .ok objs') :
    ∃ err, sqliteExecute dropsColumns (.dropColumn table column) objs' = .error err := by
  simp only [sqliteExecute, Statement.execute] at h
  split_ifs at h with hdrops
  split at h
  · rename_i t htable
    split at h
    · cases h
    · split_ifs at h
      cases h
      have hgone : ((t.withoutColumn column).columns.find? fun c => c.name = column) = none := by
        simp [Table.withoutColumn, List.find?_eq_none]
      refine ⟨.noSuchColumn, ?_⟩
      simp only [sqliteExecute, Statement.execute, if_pos hdrops, Dict.get?_set_self, hgone]
  · cases h

theorem addColumn_again (table : String) (column : Column) (objs objs' : Objects)
    (h : sqliteExecute dropsColumns (.addColumn table column) objs = .ok objs') :
    ∃ err, sqliteExecute dropsColumns (.addColumn table column) objs' = .error err := by
  simp only [sqliteExecute, Statement.execute] at h
  split at h
  · rename_i t htable
    split_ifs at h
    cases h
    have hthere : column.name ∈ (t.withColumn column).columnNames := by
      simp [Table.withColumn, Table.columnNames]
    refine ⟨.duplicateColumn, ?_⟩
    simp only [sqliteExecute, Statement.execute, Dict.get?_set_self, if_pos hthere]
  · cases h

variable (dropsColumns) in
/-- Every migration function may be stopped and executed again. -/
theorem restartable_migrations :
    ∀ m ∈ migrations, ∃ effect, Restartable dropsColumns m.fn effect := by
  have hscript {script : List Statement} (h : ∀ statement ∈ script, statement.IsCreate) :
      ∃ effect, Restartable dropsColumns (fun e => executescript e script) effect :=
    ⟨_, restartable_executescript dropsColumns h⟩
  simp only [migrations, List.forall_mem_cons]
  refine ⟨hscript ?_, hscript ?_, hscript ?_, hscript ?_, hscript ?_, hscript ?_, hscript ?_,
    hscript ?_, hscript ?_, hscript ?_, hscript ?_, hscript ?_, hscript ?_,
    ⟨_, restartable_ignoringErrors dropsColumns (dropColumn_again _ _)⟩,
    ⟨_, restartable_ignoringErrors dropsColumns (addColumn_again _ _)⟩, by simp⟩
  all_goals decide

end Sqlite

/-! ### Marks -/

/-- The versions that are marked. -/
def markedVersions (db : Database) : List ℕ := (db.marks.map Dict.keys).getD []

/-- The database with the mark of a migration. -/
def Database.mark (db : Database) (m : Migration) : Database :=
  { db with marks := db.marks.map fun marks => marks.insertIfAbsent m.version m.name }

section Marks

variable {db : Database} {m : Migration} {v : ℕ}

theorem isSome_marks_mark : (db.mark m).marks.isSome = db.marks.isSome := by
  unfold Database.mark
  cases db.marks <;> rfl

theorem mem_markedVersions_mark (hdb : db.marks.isSome) :
    v ∈ markedVersions (db.mark m) ↔ v = m.version ∨ v ∈ markedVersions db := by
  obtain ⟨marks, hmarks⟩ := Option.isSome_iff_exists.mp hdb
  unfold markedVersions Database.mark
  simp only [hmarks, Option.map_some, Option.getD_some, Dict.mem_keys_iff]
  by_cases hv : v = m.version
  · subst hv
    simp [Dict.get?_insertIfAbsent_self]
  · simp [Dict.get?_insertIfAbsent_of_ne hv, hv]

end Marks

/-- The migrations of a list that are not marked, executed and marked one after the other. -/
def migrate (effect : Migration → Objects → Except SqlError Objects) :
    List Migration → Database → Except SqlError Database
  | [], db => .ok db
  | m :: ms, db =>
    if m.version ∈ markedVersions db then migrate effect ms db
    else effect m db.objects >>= fun objs => migrate effect ms ((setObjects objs db).mark m)

/-- The versions of a list that are not applied. -/
def pendingVersions (applied : List ℕ) (ms : List Migration) : List ℕ :=
  (ms.map Migration.version).filter fun version => version ∉ applied

section Migrate

variable {effect : Migration → Objects → Except SqlError Objects} {m : Migration}
variable {ms : List Migration} {db stored : Database}

theorem migrate_cons_of_marked (h : m.version ∈ markedVersions db) :
    migrate effect (m :: ms) db = migrate effect ms db := if_pos h

theorem migrate_cons_of_ok {objs : Objects} (h : m.version ∉ markedVersions db)
    (heffect : effect m db.objects = .ok objs) :
    migrate effect (m :: ms) db = migrate effect ms ((setObjects objs db).mark m) := by
  rw [migrate, if_neg h, heffect]
  rfl

theorem migrate_cons_of_error {err : SqlError} (h : m.version ∉ markedVersions db)
    (heffect : effect m db.objects = .error err) : migrate effect (m :: ms) db = .error err := by
  rw [migrate, if_neg h, heffect]
  rfl

/-- What is stored when the process stops in a migration comes to the same end. -/
theorem migrate_of_interrupted (h : m.version ∉ markedVersions db)
    (hmarks : stored.marks = db.marks)
    (heffect : effect m stored.objects = effect m db.objects) :
    migrate effect (m :: ms) stored = migrate effect (m :: ms) db := by
  have hnot : m.version ∉ markedVersions stored := by
    unfold markedVersions
    rwa [hmarks]
  have hset (objs : Objects) : setObjects objs stored = setObjects objs db := by
    unfold setObjects
    rw [hmarks]
  rw [migrate, migrate, if_neg h, if_neg hnot, heffect]
  simp only [hset]

/-- A list of which every migration is marked has nothing to do. -/
theorem migrate_of_forall_marked (h : ∀ m ∈ ms, m.version ∈ markedVersions db) :
    migrate effect ms db = .ok db := by
  induction ms with
  | nil => rfl
  | cons m ms ih =>
    obtain ⟨hm, hms⟩ := List.forall_mem_cons.mp h
    rw [migrate_cons_of_marked hm, ih hms]

/-- Afterwards all of them are marked, and no mark was taken away. -/
theorem marked_of_migrate {final : Database} (hdb : db.marks.isSome)
    (h : migrate effect ms db = .ok final) :
    final.marks.isSome ∧ (∀ m ∈ ms, m.version ∈ markedVersions final) ∧
      ∀ v ∈ markedVersions db, v ∈ markedVersions final := by
  induction ms generalizing db with
  | nil =>
    cases h
    exact ⟨hdb, by simp, fun _ hv => hv⟩
  | cons m ms ih =>
    by_cases hm : m.version ∈ markedVersions db
    · rw [migrate_cons_of_marked hm] at h
      obtain ⟨hsome, hall, hkept⟩ := ih hdb h
      exact ⟨hsome, List.forall_mem_cons.mpr ⟨hkept _ hm, hall⟩, hkept⟩
    · cases heffect : effect m db.objects with
      | error err =>
        rw [migrate_cons_of_error hm heffect] at h
        cases h
      | ok objs =>
        rw [migrate_cons_of_ok hm heffect] at h
        have hset : (setObjects objs db).marks.isSome := hdb
        obtain ⟨hsome, hall, hkept⟩ := ih (by rwa [isSome_marks_mark]) h
        have hmark (v : ℕ) (hv : v = m.version ∨ v ∈ markedVersions db) :
            v ∈ markedVersions final :=
          hkept v ((mem_markedVersions_mark hset).mpr hv)
        exact ⟨hsome, List.forall_mem_cons.mpr ⟨hmark _ (Or.inl rfl), hall⟩,
          fun v hv => hmark v (Or.inr hv)⟩

end Migrate

/-! ### The loop -/

section Loop

variable {dropsColumns : Bool} {effect : Migration → Objects → Except SqlError Objects}
variable {m : Migration} {db : Database} {left : Option ℕ} {log : List ℕ}

/-- A mark and its commit. -/
theorem ends_mark (m : Migration) (hdb : db.marks.isSome) (left : Option ℕ) (log : List ℕ) :
    Ends (do markApplied m.version m.name; commit) (.ok ((), db.mark m)) (· = db) []
      ⟨.opened db, left, log⟩ := by
  obtain ⟨marks, hmarks⟩ := Option.isSome_iff_exists.mp hdb
  have hmark : db.mark m = { db with marks := some (marks.insertIfAbsent m.version m.name) } := by
    unfold Database.mark
    rw [hmarks]
    rfl
  by_cases hfirst : left = some 0
  · exact .stops _ (by simp [hfirst]) rfl (bind_of_error (bind_of_error (if_pos hfirst)))
  · have hwritten : markApplied m.version m.name ⟨.opened db, left, log⟩ =
        .ok () ⟨⟨db, db.mark m⟩, left.map Nat.pred, log⟩ := by
      have hop : operation ⟨.opened db, left, log⟩ =
          .ok () ⟨.opened db, left.map Nat.pred, log⟩ := if_neg hfirst
      unfold markApplied
      rw [bind_of_ok hop, bind_of_ok (get_run _)]
      simp only [Connection.opened_current, hmarks, hmark]
      rfl
    by_cases hsecond : left.map Nat.pred = some 0
    · refine .stops ⟨⟨db, db.mark m⟩, left.map Nat.pred, log⟩ ?_ rfl ?_
      · rintro rfl
        cases hsecond
      · rw [bind_of_ok hwritten]
        exact bind_of_error (if_pos hsecond)
    · refine .returns () (db.mark m) ((left.map Nat.pred).map Nat.pred) rfl ?_ ?_
      · rintro rfl
        rfl
      · have hop : operation ⟨⟨db, db.mark m⟩, left.map Nat.pred, log⟩ =
            .ok () ⟨⟨db, db.mark m⟩, (left.map Nat.pred).map Nat.pred, log⟩ := if_neg hsecond
        rw [bind_of_ok hwritten, List.append_nil]
        exact bind_of_ok hop

/-- What a loop that stopped leaves: all marks, and the same end. -/
structure GoesOn (effect : Migration → Objects → Except SqlError Objects) (ms : List Migration)
    (db stored : Database) : Prop where
  table : stored.marks.isSome
  kept : ∀ v ∈ markedVersions db, v ∈ markedVersions stored
  same : migrate effect ms stored = migrate effect ms db

/-- A migration that is not marked. -/
theorem applyMigration_ends (hfn : Restartable dropsColumns m.fn (effect m))
    (hdb : db.marks.isSome) (left : Option ℕ) (log : List ℕ) :
    Ends (applyMigration (.sqlite dropsColumns) m)
      ((effect m db.objects).map fun objs => ((), (setObjects objs db).mark m))
      (fun stored => stored.marks = db.marks ∧ effect m stored.objects = effect m db.objects)
      [m.version] ⟨.opened db, left, log⟩ := by
  unfold applyMigration
  refine Ends.logged ?_
  cases heffect : effect m db.objects with
  | error err =>
    have hfails := hfn.ends db left (log ++ [m.version])
    rw [heffect] at hfails
    exact hfails.bind_silent (fun _ _ => .error err) fun a db' left' hspec => by cases hspec
  | ok objs =>
    have hruns := hfn.ends db left (log ++ [m.version])
    rw [heffect] at hruns
    refine hruns.bind_silent (fun _ db' => .ok ((), db'.mark m)) fun a db' left' hspec => ?_
    obtain rfl : setObjects objs db = db' := congrArg Prod.snd (Except.ok.inj hspec)
    -- from here on the effect is stored, and not the mark
    have hstored (stored : Database) (h : stored = setObjects objs db) :
        stored.marks = db.marks ∧ effect m stored.objects = .ok objs := by
      subst h
      exact ⟨rfl, hfn.again _ _ heffect⟩
    refine ((ends_commit _ left' _).mono hstored).bind_silent (fun _ db' => .ok ((), db'.mark m))
      fun a db' left' hspec => ?_
    obtain rfl : setObjects objs db = db' := congrArg Prod.snd (Except.ok.inj hspec)
    have hset : (setObjects objs db).marks.isSome := hdb
    exact (ends_mark m hset left' _).mono hstored

variable (dropsColumns) in
/-- The loop marks what is not applied, and may be stopped anywhere. -/
theorem applyPending_ends {ms : List Migration} {applied : List ℕ}
    (hfn : ∀ m ∈ ms, Restartable dropsColumns m.fn (effect m))
    (hnodup : (ms.map Migration.version).Nodup) (hdb : db.marks.isSome)
    (happlied : ∀ m ∈ ms, m.version ∈ applied ↔ m.version ∈ markedVersions db)
    (left : Option ℕ) (log : List ℕ) :
    Ends (applyPending (.sqlite dropsColumns) applied ms)
      ((migrate effect ms db).map fun final => ((pendingVersions applied ms).length, final))
      (GoesOn effect ms db) (pendingVersions applied ms) ⟨.opened db, left, log⟩ := by
  induction ms generalizing db left log with
  | nil =>
    refine .returns 0 db left rfl (fun h => h) ?_
    rw [pendingVersions, List.map_nil, List.filter_nil, List.append_nil]
    rfl
  | cons m ms ih =>
    obtain ⟨hm, hms⟩ := List.forall_mem_cons.mp hfn
    obtain ⟨hfirst, hrest⟩ := List.forall_mem_cons.mp happlied
    obtain ⟨hnew, hnodup'⟩ := List.nodup_cons.mp hnodup
    by_cases hmarked : m.version ∈ markedVersions db
    · -- a marked migration is skipped, now and when the loop runs again
      have hpending : pendingVersions applied (m :: ms) = pendingVersions applied ms := by
        simp [pendingVersions, hfirst.mpr hmarked]
      rw [applyPending, if_pos (hfirst.mpr hmarked), hpending, migrate_cons_of_marked hmarked]
      refine (ih hms hnodup' hdb hrest left log).mono ?_
      rintro stored ⟨htable, hkept, hsame⟩
      exact ⟨htable, hkept, by
        rw [migrate_cons_of_marked (hkept _ hmarked), hsame, migrate_cons_of_marked hmarked]⟩
    · have hpending : pendingVersions applied (m :: ms) =
          m.version :: pendingVersions applied ms := by
        simp [pendingVersions, hfirst.not.mpr hmarked]
      rw [applyPending, if_neg (hfirst.not.mpr hmarked), hpending]
      have hmigration : Ends (applyMigration (.sqlite dropsColumns) m)
          ((effect m db.objects).map fun objs => ((), (setObjects objs db).mark m))
          (GoesOn effect (m :: ms) db) [m.version] ⟨.opened db, left, log⟩ := by
        refine (applyMigration_ends hm hdb left log).mono ?_
        rintro stored ⟨hmarks, hsame⟩
        refine ⟨by rwa [hmarks], fun v hv => ?_, migrate_of_interrupted hmarked hmarks hsame⟩
        unfold markedVersions at hv ⊢
        rwa [hmarks]
      cases heffect : effect m db.objects with
      | error err =>
        have hend : (migrate effect (m :: ms) db).map (fun final =>
            ((m.version :: pendingVersions applied ms).length, final)) = .error err := by
          rw [migrate_cons_of_error hmarked heffect]
          rfl
        rw [hend]
        rw [heffect] at hmigration
        exact hmigration.bind (fun _ _ => .error err) fun a db' left' hspec => by cases hspec
      | ok objs =>
        have hset : (setObjects objs db).marks.isSome := hdb
        have hnext : migrate effect (m :: ms) db =
            migrate effect ms ((setObjects objs db).mark m) := migrate_cons_of_ok hmarked heffect
        have hend : (migrate effect (m :: ms) db).map (fun final =>
            ((m.version :: pendingVersions applied ms).length, final)) =
            ((migrate effect ms ((setObjects objs db).mark m)).map fun final =>
              ((pendingVersions applied ms).length, final)) >>= fun p => .ok (p.1 + 1, p.2) := by
          rw [hnext]
          cases migrate effect ms ((setObjects objs db).mark m) <;> rfl
        rw [hend]
        rw [heffect] at hmigration
        refine hmigration.bind (fun _ db' => ((migrate effect ms db').map fun final =>
          ((pendingVersions applied ms).length, final)) >>= fun p => .ok (p.1 + 1, p.2))
          fun a db' left' hspec => ?_
        obtain rfl : (setObjects objs db).mark m = db' := congrArg Prod.snd (Except.ok.inj hspec)
        have hmark (v : ℕ) : v ∈ markedVersions ((setObjects objs db).mark m) ↔
            v = m.version ∨ v ∈ markedVersions db := mem_markedVersions_mark hset
        have happlied' : ∀ m' ∈ ms, m'.version ∈ applied ↔
            m'.version ∈ markedVersions ((setObjects objs db).mark m) := by
          intro m' hm'
          have hne : m'.version ≠ m.version := fun heq =>
            hnew (heq ▸ List.mem_map_of_mem hm')
          rw [hrest m' hm', hmark, or_iff_right hne]
        have hloop : Ends (applyPending (.sqlite dropsColumns) applied ms)
            ((migrate effect ms ((setObjects objs db).mark m)).map fun final =>
              ((pendingVersions applied ms).length, final))
            (GoesOn effect (m :: ms) db) (pendingVersions applied ms)
            ⟨.opened ((setObjects objs db).mark m), left', log ++ [m.version]⟩ := by
          refine (ih hms hnodup' (by rwa [isSome_marks_mark]) happlied' left' _).mono ?_
          rintro stored ⟨htable, hkept, hsame⟩
          refine ⟨htable, fun v hv => hkept v ((hmark v).mpr (Or.inr hv)), ?_⟩
          -- the mark is stored, and the migration is skipped when the loop runs again
          rw [migrate_cons_of_marked (hkept _ ((hmark _).mpr (Or.inl rfl))), hsame, hnext]
        exact hloop.then_return fun count => count + 1

end Loop

/-! ### Runs -/

/-- The versions of the migrations that are not marked, in the order in which they are applied. -/
def remainingVersions (db : Database) : List ℕ :=
  pendingVersions (markedVersions db) sortedMigrations

theorem mem_sortedMigrations {m : Migration} : m ∈ sortedMigrations ↔ m ∈ migrations :=
  List.mem_insertionSort _

theorem versions_sortedMigrations : sortedMigrations.map Migration.version = List.range' 1 15 := by
  decide

theorem remainingVersions_increasing (db : Database) : (remainingVersions db).Pairwise (· < ·) := by
  unfold remainingVersions pendingVersions
  rw [versions_sortedMigrations]
  exact List.Pairwise.filter _ (by decide)

theorem remainingVersions_eq_nil {db : Database}
    (h : ∀ m ∈ sortedMigrations, m.version ∈ markedVersions db) : remainingVersions db = [] := by
  unfold remainingVersions pendingVersions
  rw [List.filter_eq_nil_iff]
  intro v hv
  obtain ⟨m, hm, rfl⟩ := List.mem_map.mp hv
  simp [h m hm]

theorem markedVersions_withVersionTable (db : Database) :
    markedVersions db.withVersionTable = markedVersions db := by
  unfold markedVersions Database.withVersionTable
  cases db.marks with
  | none => rfl
  | some marks => rfl

theorem withVersionTable_of_isSome {db : Database} (h : db.marks.isSome) :
    db.withVersionTable = db := by
  obtain ⟨marks, hmarks⟩ := Option.isSome_iff_exists.mp h
  unfold Database.withVersionTable
  rw [hmarks, Option.getD_some, ← hmarks]

section Sqlite

variable {dropsColumns : Bool} {effect : Migration → Objects → Except SqlError Objects}

variable (dropsColumns) in
theorem appliedVersions_run (db : Database) (left : Option ℕ) (log : List ℕ) :
    appliedVersions (.sqlite dropsColumns) ⟨.opened db, left, log⟩ =
      .ok (markedVersions db) ⟨.opened db, left, log⟩ := by
  have hread : appliedVersions (.sqlite dropsColumns) ⟨.opened db, left, log⟩ =
      .ok (((markedVersions db).mapM (firstColumn (.sqlite dropsColumns))).getD [])
        ⟨.opened db, left, log⟩ := rfl
  have hall (versions : List ℕ) :
      versions.mapM (firstColumn (.sqlite dropsColumns)) = some versions := by
    induction versions with
    | nil => rfl
    | cons v versions ih => simp [firstColumn, ih]
  rw [hread, hall, Option.getD_some]

variable (dropsColumns) in
/-- A run with SQLite. -/
theorem runMigrations_ends
    (hfn : ∀ m ∈ sortedMigrations, Restartable dropsColumns m.fn (effect m)) (db : Database)
    (left : Option ℕ) :
    Ends (runMigrations (.sqlite dropsColumns))
      ((migrate effect sortedMigrations db.withVersionTable).map fun final =>
        ((remainingVersions db).length, final))
      (fun stored => migrate effect sortedMigrations stored.withVersionTable =
        migrate effect sortedMigrations db.withVersionTable)
      (remainingVersions db) (.connected db left) := by
  have htable : db.withVersionTable.marks.isSome := rfl
  -- before the loop there is at most the version table
  have hensure : Ends ensureVersionTable (.ok ((), db.withVersionTable))
      (fun stored => migrate effect sortedMigrations stored.withVersionTable =
        migrate effect sortedMigrations db.withVersionTable) [] (.connected db left) := by
    have hcreate := (ends_operation_commit .withVersionTable db left []).mono fun stored h =>
      congrArg (fun d => migrate effect sortedMigrations (Database.withVersionTable d)) h
    refine (hcreate.bind_silent (f := fun _ => commit) (fun _ db' => .ok ((), db'))
      fun a db' left' hspec => ?_).of_eq ?_
    · obtain rfl : db.withVersionTable = db' := congrArg Prod.snd (Except.ok.inj hspec)
      exact (ends_commit _ left' _).mono fun stored h => by
        rw [h, withVersionTable_of_isSome htable]
    · unfold ensureVersionTable
      rw [bind_assoc]
  refine hensure.bind_silent (fun _ db' => (migrate effect sortedMigrations db').map fun final =>
    ((remainingVersions db).length, final)) fun a db' left' hspec => ?_
  obtain rfl : db.withVersionTable = db' := congrArg Prod.snd (Except.ok.inj hspec)
  have hread := appliedVersions_run dropsColumns db.withVersionTable left' []
  rw [markedVersions_withVersionTable] at hread
  refine Ends.of_eq ((applyPending_ends dropsColumns hfn ?_ htable ?_ left' []).mono ?_)
    (bind_of_ok hread)
  · rw [versions_sortedMigrations]
    decide
  · intro m _
    rw [markedVersions_withVersionTable]
  · intro stored h
    rw [withVersionTable_of_isSome h.table, h.same]

end Sqlite

/-- With PostgreSQL no version is read. -/
theorem appliedVersions_postgres (run : Statement → Objects → Except SqlError Objects)
    {first : ℕ → Option ℕ} (hrows : (Engine.postgres run first).RealDictRows) (s : MigrationState) :
    appliedVersions (.postgres run first) s = .ok [] s := by
  have hread (versions : List ℕ) :
      (versions.mapM (firstColumn (.postgres run first))).getD [] = [] := by
    cases versions with
    | nil => rfl
    | cons v versions => simp [firstColumn, hrows v]
  have hrun : appliedVersions (.postgres run first) s =
      .ok (((markedVersions s.conn.current).mapM (firstColumn (.postgres run first))).getD []) s :=
    rfl
  rw [hrun, hread]

/-- What the loop returns is what it applied. -/
theorem applyPending_eq_ok {e : Engine} {applied : List ℕ} {ms : List Migration} {count : ℕ}
    {s s' : MigrationState} (h : applyPending e applied ms s = .ok count s') :
    count = (pendingVersions applied ms).length := by
  induction ms generalizing s count with
  | nil =>
    cases h
    rfl
  | cons m ms ih =>
    rw [applyPending] at h
    split_ifs at h with happlied
    · rw [ih h]
      simp [pendingVersions, happlied]
    · obtain ⟨-, s₁, -, h⟩ := bind_eq_ok h
      obtain ⟨count', s₂, hrest, h⟩ := bind_eq_ok h
      cases h
      rw [ih hrest]
      simp [pendingVersions, happlied]

/-- Every run with PostgreSQL that completes applies all migrations. -/
theorem count_of_postgres {run : Statement → Objects → Except SqlError Objects}
    {first : ℕ → Option ℕ} (hrows : (Engine.postgres run first).RealDictRows) {count : ℕ}
    {s s' : MigrationState} (h : runMigrations (.postgres run first) s = .ok count s') :
    count = 15 := by
  unfold runMigrations at h
  obtain ⟨-, s₁, -, h⟩ := bind_eq_ok h
  rw [bind_of_ok (appliedVersions_postgres run hrows s₁)] at h
  rw [applyPending_eq_ok h, pendingVersions, versions_sortedMigrations]
  decide

/-! ### The database after a run -/

/-- A run from a database stops and leaves another one. -/
def StopsAt (e : Engine) (db stored : Database) : Prop :=
  ∃ n s, runMigrations e (.connected db (some n)) = .error .stopped s ∧ s.conn.stored = stored

/-- A version has one row. -/
def MarkedOnce (db : Database) (version : ℕ) : Prop :=
  ∃ marks, db.marks = some marks ∧
    (marks.entries.filter fun entry => entry.1 = version).length = 1

/-- What a run to completion from a database leaves, where the runs began with `start`. -/
structure CompletedRun (e : Engine) (start db : Database) (count : ℕ) (s : MigrationState) :
    Prop where
  applied : s.log = remainingVersions db
  increasing : s.log.Pairwise (· < ·)
  counted : count = s.log.length
  marked : ∀ m ∈ migrations, MarkedOnce s.conn.stored m.version
  same : ∃ count' s', runMigrations e (.connected start none) = .ok count' s' ∧
    s'.conn.stored = s.conn.stored
  again : ∃ s', runMigrations e (.connected s.conn.stored none) = .ok 0 s' ∧ s'.log = [] ∧
    s'.conn.stored = s.conn.stored

theorem markedOnce_of_mem {db : Database} {version : ℕ} (h : version ∈ markedVersions db) :
    MarkedOnce db version := by
  unfold markedVersions at h
  cases hmarks : db.marks with
  | none => simp [hmarks] at h
  | some marks =>
    simp only [hmarks, Option.map_some, Option.getD_some, Dict.mem_keys_iff] at h
    obtain ⟨name, hname⟩ := h
    refine ⟨marks, hmarks, ?_⟩
    rw [Dict.filter_entries_eq_singleton hname (by simp) fun k v _ hk => by simpa using hk]
    rfl

/-- A run to completion with SQLite. -/
theorem completedRun_of_migrate {dropsColumns : Bool}
    {effect : Migration → Objects → Except SqlError Objects}
    (hfn : ∀ m ∈ sortedMigrations, Restartable dropsColumns m.fn (effect m))
    {start db final : Database}
    (hstart : migrate effect sortedMigrations start.withVersionTable = .ok final)
    (hdb : migrate effect sortedMigrations db.withVersionTable = .ok final) :
    ∃ count s, runMigrations (.sqlite dropsColumns) (.connected db none) = .ok count s ∧
      CompletedRun (.sqlite dropsColumns) start db count s := by
  have hrun (db' : Database) (h : migrate effect sortedMigrations db'.withVersionTable = .ok final) :
      runMigrations (.sqlite dropsColumns) (.connected db' none) =
        .ok (remainingVersions db').length ⟨.opened final, none, remainingVersions db'⟩ := by
    rcases (runMigrations_ends dropsColumns hfn db' none).eq_of_left_eq_none rfl with
      ⟨count, final', hspec, hrun⟩ | ⟨err, s', hspec, -⟩
    · rw [h] at hspec
      cases hspec
      exact hrun
    · rw [h] at hspec
      cases hspec
  have hsome : db.withVersionTable.marks.isSome := rfl
  obtain ⟨htable, hmarked, -⟩ := marked_of_migrate hsome hdb
  have hagain := hrun final (by
    rw [withVersionTable_of_isSome htable, migrate_of_forall_marked hmarked])
  rw [remainingVersions_eq_nil hmarked] at hagain
  refine ⟨_, _, hrun db hdb, rfl, remainingVersions_increasing db, rfl, fun m hm => ?_,
    ⟨_, _, hrun start hstart, rfl⟩, ⟨_, hagain, rfl, rfl⟩⟩
  exact markedOnce_of_mem (hmarked m (mem_sortedMigrations.mpr hm))

/-- However often a run stopped, with SQLite a run to completion comes to the same end, and leaves
nothing to apply. With PostgreSQL it does not. -/
theorem migrations_restartable_iff (e : Engine) (hrows : e.RealDictRows) {start : Database}
    (hcompletes : ∃ count s, runMigrations e (.connected start none) = .ok count s) :
    (∀ db, Relation.ReflTransGen (StopsAt e) start db →
      ∃ count s, runMigrations e (.connected db none) = .ok count s ∧
        CompletedRun e start db count s) ↔ ∃ dropsColumns, e = .sqlite dropsColumns := by
  constructor
  · intro h
    cases e with
    | sqlite dropsColumns => exact ⟨dropsColumns, rfl⟩
    | postgres run first =>
      obtain ⟨count, s, -, hrun⟩ := h start .refl
      obtain ⟨s', hagain, -⟩ := hrun.again
      cases count_of_postgres hrows hagain
  · rintro ⟨dropsColumns, rfl⟩ db hstops
    have hfn : ∀ m ∈ sortedMigrations, ∃ effect, Restartable dropsColumns m.fn effect :=
      fun m hm => restartable_migrations dropsColumns m (mem_sortedMigrations.mp hm)
    choose! effect hfn using hfn
    obtain ⟨final, hstart⟩ : ∃ final,
        migrate effect sortedMigrations start.withVersionTable = .ok final := by
      obtain ⟨count, s, hrun⟩ := hcompletes
      cases hmigrate : migrate effect sortedMigrations start.withVersionTable with
      | ok final => exact ⟨final, rfl⟩
      | error err =>
        rcases (runMigrations_ends dropsColumns hfn start none).eq_of_left_eq_none rfl with
          ⟨count', final, hspec, -⟩ | ⟨err', s', -, herror⟩
        · rw [hmigrate] at hspec
          cases hspec
        · rw [hrun] at herror
          cases herror
    -- by induction on the runs that stopped
    have hdb : migrate effect sortedMigrations db.withVersionTable = .ok final := by
      induction hstops with
      | refl => exact hstart
      | tail _ hstop ih =>
        obtain ⟨n, s, hrun, rfl⟩ := hstop
        cases runMigrations_ends dropsColumns hfn _ (some n) with
        | returns a db' left hspec hleft h => rw [hrun] at h; cases h
        | raises err s' hspec h => rw [hrun] at h; cases h
        | stops s' hleft hsame h =>
          rw [hrun] at h
          cases h
          rw [hsame, ih]
    exact completedRun_of_migrate hfn hstart hdb

/-! ### A new database -/

def newDatabase : Database := ⟨.empty, none⟩

/-- A run completes. -/
def completes (e : Engine) (db : Database) : Bool :=
  match runMigrations e (.connected db none) with
  | .ok _ _ => true
  | .error _ _ => false

theorem exists_of_completes {e : Engine} {db : Database} (h : completes e db) :
    ∃ count s, runMigrations e (.connected db none) = .ok count s := by
  unfold completes at h
  split at h
  · exact ⟨_, _, ‹_›⟩
  · cases h

/-- What a run leaves that stops before its operation `n`, if it does. -/
def stoppedBefore (e : Engine) (n : ℕ) (db : Database) : Option Database :=
  match runMigrations e (.connected db (some n)) with
  | .error .stopped s => some s.conn.stored
  | _ => none

theorem stopsAt_stoppedBefore {e : Engine} {n : ℕ} {db : Database}
    (h : (stoppedBefore e n db).isSome) (other : Database) :
    StopsAt e db ((stoppedBefore e n db).getD other) := by
  unfold stoppedBefore at h ⊢
  split at h
  · rename_i s hrun
    exact ⟨n, s, hrun, rfl⟩
  · cases h

/-- The first run stops inside the script of the second migration. -/
def insideScript : Database := (stoppedBefore (.sqlite true) 20 newDatabase).getD newDatabase

/-- The next run stops before it commits the mark of the second migration. -/
def beforeMark : Database := (stoppedBefore (.sqlite true) 14 insideScript).getD insideScript

/-- The run after them completes what both left. -/
theorem newDatabase_migrated :
    insideScript.objects.keys.length = 15 ∧ beforeMark.objects.keys.length = 19 ∧
      remainingVersions beforeMark = List.range' 2 14 ∧
      ∃ count s, runMigrations (.sqlite true) (.connected beforeMark none) = .ok count s ∧
        CompletedRun (.sqlite true) newDatabase beforeMark count s := by
  -- each of the two runs stops, and leaves a database of its own
  have hfirst : StopsAt (.sqlite true) newDatabase insideScript :=
    stopsAt_stoppedBefore (by decide +kernel) newDatabase
  have hsecond : StopsAt (.sqlite true) insideScript beforeMark :=
    stopsAt_stoppedBefore (by decide +kernel) insideScript
  refine ⟨by decide +kernel, by decide +kernel, by decide +kernel, ?_⟩
  exact (migrations_restartable_iff (.sqlite true) trivial
    (exists_of_completes (by decide +kernel))).mpr ⟨true, rfl⟩ beforeMark
      (.tail (.single hfirst) hsecond)

/-- A PostgreSQL database that does with the statements of the scripts what SQLite does. -/
def postgresEngine : Engine := .postgres (sqliteExecute true) fun _ => none

/-- How many migrations a second run applies. -/
def countAgain (e : Engine) (db : Database) : Option ℕ :=
  match runMigrations e (.connected db none) with
  | .ok _ s =>
    match runMigrations e (.connected s.conn.stored none) with
    | .ok count _ => some count
    | .error _ _ => none
  | .error _ _ => none

/-- There a second run applies all migrations again. -/
theorem newDatabase_migrated_again : countAgain postgresEngine newDatabase = some 15 ∧
    ¬ ∀ db, Relation.ReflTransGen (StopsAt postgresEngine) newDatabase db →
      ∃ count s, runMigrations postgresEngine (.connected db none) = .ok count s ∧
        CompletedRun postgresEngine newDatabase db count s := by
  refine ⟨by decide +kernel, fun h => ?_⟩
  obtain ⟨count, s, -, hrun⟩ := h newDatabase .refl
  obtain ⟨s', hagain, -⟩ := hrun.again
  cases count_of_postgres (fun _ => rfl) hagain

end Botik
