import Mathlib.Data.List.Basic
import Atra.Transaction
/-!
# Connection — the transaction wrapper of one SQLite connection

SQLite has no nested `BEGIN`, so the wrapper of db/database.ts counts the calls that are open: only the outermost call issues
`BEGIN` and `COMMIT`.  The counter goes up once in a call and comes down once on each way out, but a `COMMIT` that throws
leaves the call by both.
-/
namespace Atra
namespace Connection

variable {D V : Type}

inductive Sql where
  | BEGIN | COMMIT | ROLLBACK | statement
  deriving DecidableEq

/-- What SQLite does with a `COMMIT`: it ends the transaction, or it throws and leaves it open (busy), or it throws after
rolling it back (a full disk, an I/O error). -/
inductive CommitAnswer where
  | done | busy | rolledBack
  deriving DecidableEq

/-- One SQL text as SQLite got it: the counter then, the `fn`s that were running, and whether a transaction was open. -/
structure Entry where
  sql : Sql
  depth : Int
  frames : Nat
  inTransaction : Bool
  deriving DecidableEq

/-- A connection: the database as its statements see it, while a transaction is open the database it began from, the
wrapper's counter, and what SQLite was given so far. -/
structure Conn (D : Type) where
  database : D
  saved : Option D
  depth : Int
  log : List Entry
  deriving DecidableEq

/-- `wrap(handle)`. -/
def wrap (d : D) : Conn D := ⟨d, none, 0, []⟩

def issue (sql : Sql) (frames : Nat) : Script (Conn D) String Unit :=
  modify fun c => { c with log := c.log ++ [⟨sql, c.depth, frames, c.saved.isSome⟩] }

def execBegin (frames : Nat) : Script (Conn D) String Unit := do
  issue .BEGIN frames
  let c ← get
  if c.saved.isSome then throw "cannot start a transaction within a transaction"
  else set { c with saved := some c.database }

def execCommit (frames : Nat) (answer : CommitAnswer) : Script (Conn D) String Unit := do
  issue .COMMIT frames
  let c ← get
  match c.saved, answer with
  | none, _ => throw "cannot commit - no transaction is active"
  | some _, .done => set { c with saved := none }
  | some _, .busy => throw "database is locked"
  | some d, .rolledBack => do
    set { c with database := d, saved := none }
    throw "database or disk is full"

def execRollback (frames : Nat) : Script (Conn D) String Unit := do
  issue .ROLLBACK frames
  let c ← get
  match c.saved with
  | none => throw "cannot rollback - no transaction is active"
  | some d => set { c with database := d, saved := none }

/-- `depth -= 1`. -/
def leave : Script (Conn D) String Unit := modify fun c => { c with depth := c.depth - 1 }

/-- The `try` block of a call. -/
def attempted (outermost : Bool) (frames : Nat) (answer : CommitAnswer) (fn : Script (Conn D) String V) :
    Script (Conn D) String V := do
  let result ← fn
  leave
  if outermost then execCommit frames answer
  return result

/-- The `catch` block of a call, its inner `catch` dropping what `ROLLBACK` throws. -/
def caught (outermost : Bool) (frames : Nat) (error : String) : Script (Conn D) String V := do
  leave
  if outermost then tryCatch (execRollback frames) fun _ => pure ()
  throw error

/-- `db.transaction(fn)()`, called while `frames` others run; `answer` is for the `COMMIT` it may issue. -/
def transaction (frames : Nat) (answer : CommitAnswer) (fn : Script (Conn D) String V) : Script (Conn D) String V := do
  let outermost := (← get).depth == 0
  if outermost then execBegin frames
  modify fun c => { c with depth := c.depth + 1 }
  tryCatch (attempted outermost frames answer fn) (caught outermost frames)

/-- What an `fn` does on its connection: it runs statements and nested calls one after the other, each answered by a value
or an error that it may catch, and in the end it returns or throws. -/
inductive Fn (D V : Type) where
  | ret (result : V)
  | throw (error : String)
  | statement (run : D → Except String V × D) (next : Except String V → Fn D V)
  | transaction (fn : Fn D V) (answer : CommitAnswer) (next : Except String V → Fn D V)

/-- A statement: its effect on the database is open until the transaction ends, if one is open. -/
def runStatement (frames : Nat) (run : D → Except String V × D) : Script (Conn D) String V := do
  issue .statement frames
  let c ← get
  set { c with database := (run c.database).2 }
  liftM (run c.database).1

/-- An `fn` run as the innermost of `frames`. -/
def Fn.script (frames : Nat) : Fn D V → Script (Conn D) String V
  | ret result => pure result
  | throw error => throwThe String error
  | statement run next => do (next (← Script.attempt (runStatement frames run))).script frames
  | transaction fn answer next => do
    (next (← Script.attempt (Connection.transaction frames answer (fn.script (frames + 1))))).script frames

/-- What an `fn` makes of the database and what it returns or throws, all of its statements applied. -/
def Fn.applied : Fn D V → D → Except String V × D
  | ret result, d => (.ok result, d)
  | throw error, d => (.error error, d)
  | statement run next, d => (next (run d).1).applied (run d).2
  | transaction fn _ next, d => (next (fn.applied d).1).applied (fn.applied d).2

/-- An outermost call: the function it is given, and what SQLite answers to its `COMMIT`. -/
structure Call (D V : Type) where
  fn : Fn D V
  answer : CommitAnswer

def Call.script (k : Call D V) : Script (Conn D) String V := transaction 0 k.answer (k.fn.script 1)

/-! ## What an outermost call owes -/

/-- The connection an outermost call leaves. -/
def Call.left (k : Call D V) (c : Conn D) : Conn D := (k.script.exec c).2

/-- What SQLite is given in an outermost call. -/
def Call.issued (k : Call D V) (c : Conn D) : List Entry := (k.left c).log.drop c.log.length

/-- A call is whole: the counter is the number of running `fn`s throughout; the call issues one `BEGIN` and then its
statements, all of them in the transaction; and it ends by `COMMIT`, returns, and leaves everything `fn` wrote, or it ends by
`ROLLBACK`, throws, and leaves nothing of it. -/
structure Whole (k : Call D V) (c : Conn D) : Prop where
  idle : c.depth = 0 ∧ (k.left c).depth = 0
  counted : ∀ e ∈ k.issued c, e.depth = e.frames
  within : ∀ e ∈ k.issued c, e.sql = .statement → e.inTransaction = true
  closed : (k.left c).saved = none
  returned : ∀ v, (k.script.exec c).1 = .ok v → k.fn.applied c.database = (.ok v, (k.left c).database) ∧
    ∃ body, (k.issued c).map (·.sql) = .BEGIN :: body ++ [.COMMIT] ∧ ∀ q ∈ body, q = .statement
  threw : ∀ e, (k.script.exec c).1 = .error e → (k.left c).database = c.database ∧
    ∃ body tried, (k.issued c).map (·.sql) = .BEGIN :: body ++ tried ++ [.ROLLBACK] ∧ (∀ q ∈ body, q = .statement) ∧
      (tried = [] ∨ tried = [.COMMIT])

/-- Every outermost call of a sequence is whole where it comes. -/
def EachWhole : List (Call D V) → Conn D → Prop
  | [], _ => True
  | k :: ks, c => Whole k c ∧ EachWhole ks (k.left c)

/-- The database a call should leave. -/
def Call.due (k : Call D V) (d : D) : D := if (k.fn.applied d).1.isOk then (k.fn.applied d).2 else d

/-- No `COMMIT` throws: a call whose `fn` returns has its `COMMIT` done. -/
def EachCommits : List (Call D V) → D → Prop
  | [], _ => True
  | k :: ks, d => ((k.fn.applied d).1.isOk = true → k.answer = .done) ∧ EachCommits ks (k.due d)

/-! ## Inside a call -/

def Inside (e : Entry) : Prop := e.sql = .statement ∧ e.depth = e.frames ∧ e.inTransaction = true

theorem exec_runStatement (n : Nat) (run : D → Except String V × D) (c : Conn D) :
    (runStatement n run).exec c = ((run c.database).1,
      { c with database := (run c.database).2, log := c.log ++ [⟨.statement, c.depth, n, c.saved.isSome⟩] }) := rfl

theorem exec_attempted_ok {o : Bool} {n : Nat} {answer : CommitAnswer} {fn : Script (Conn D) String V} {c t : Conn D} {v : V}
    (h : fn.exec c = (.ok v, t)) : (attempted o n answer fn).exec c =
      ((if o then execCommit n answer else pure ()) >>= fun _ => pure v).exec { t with depth := t.depth - 1 } := by
  unfold attempted
  rw [Script.exec_bind, h]
  cases o <;> rfl

theorem exec_attempted_error {o : Bool} {n : Nat} {answer : CommitAnswer} {fn : Script (Conn D) String V} {c t : Conn D}
    {e : String} (h : fn.exec c = (.error e, t)) : (attempted o n answer fn).exec c = (.error e, t) := by
  unfold attempted
  rw [Script.exec_bind, h]

/-- **A nested call only counts.** -/
theorem exec_nested {n : Nat} {answer : CommitAnswer} {fn : Script (Conn D) String V} {c t : Conn D} {r : Except String V}
    (hc : c.depth ≠ 0) (h : fn.exec { c with depth := c.depth + 1 } = (r, t)) :
    (transaction n answer fn).exec c = (r, { t with depth := t.depth - 1 }) := by
  unfold transaction
  have ho : (c.depth == 0) = false := by simpa using hc
  rw [Script.exec_get_bind, ho]
  show (tryCatch (attempted false n answer fn) (caught false n)).exec { c with depth := c.depth + 1 } = _
  rw [Script.exec_tryCatch]
  cases r with
  | ok v =>
    rw [exec_attempted_ok h]
    rfl
  | error e =>
    rw [exec_attempted_error h]
    rfl

/-- **An `fn` that runs in the transaction.**  It leaves what its statements make of the database, with the counter and the
transaction as they were, and every statement of it ran in that transaction. -/
theorem exec_script (fn : Fn D V) : ∀ (n : Nat) (c : Conn D), c.depth = (n + 1 : Nat) → c.saved.isSome = true →
    ∃ body, (fn.script (n + 1)).exec c = ((fn.applied c.database).1,
        { c with database := (fn.applied c.database).2, log := c.log ++ body }) ∧ ∀ e ∈ body, Inside e := by
  induction fn with
  | ret v =>
    intro n c _ _
    exact ⟨[], by simp [Fn.script, Fn.applied], by simp⟩
  | throw e =>
    intro n c _ _
    refine ⟨[], ?_, by simp⟩
    rw [List.append_nil]
    rfl
  | statement run next ih =>
    intro n c hd hs
    obtain ⟨body, hrun, hin⟩ := ih (run c.database).1 n
      { c with database := (run c.database).2, log := c.log ++ [⟨.statement, c.depth, n + 1, c.saved.isSome⟩] } hd hs
    refine ⟨⟨.statement, c.depth, n + 1, c.saved.isSome⟩ :: body, ?_, ?_⟩
    · show (Script.attempt (runStatement (n + 1) run) >>= fun r => (next r).script (n + 1)).exec c = _
      rw [Script.exec_attempt_bind, exec_runStatement, hrun]
      simp [Fn.applied]
    · intro e he
      rcases List.mem_cons.1 he with rfl | he
      · exact ⟨rfl, hd, hs⟩
      · exact hin e he
  | transaction fn answer next ihf ihn =>
    intro n c hd hs
    obtain ⟨body, hrun, hin⟩ := ihf (n + 1) { c with depth := c.depth + 1 } (by show c.depth + 1 = _; rw [hd]; rfl) hs
    obtain ⟨rest, hnext, hrest⟩ := ihn (fn.applied c.database).1 n
      { c with database := (fn.applied c.database).2, log := c.log ++ body } hd hs
    refine ⟨body ++ rest, ?_, ?_⟩
    · show (Script.attempt (Connection.transaction (n + 1) answer (fn.script (n + 2))) >>=
        fun r => (next r).script (n + 1)).exec c = _
      rw [Script.exec_attempt_bind, exec_nested (by rw [hd]; exact_mod_cast Nat.succ_ne_zero n) hrun]
      simp only [Int.add_sub_cancel]
      rw [hnext]
      simp [Fn.applied]
    · intro e he
      rcases List.mem_append.1 he with he | he
      · exact hin e he
      · exact hrest e he

/-! ## An outermost call -/

variable {k : Call D V} {c : Conn D}

/-- A connection between two outermost calls. -/
def Idle (c : Conn D) : Prop := c.depth = 0 ∧ c.saved = none

/-- The connection as `fn` finds it in an outermost call. -/
def Conn.begun (c : Conn D) : Conn D :=
  { c with saved := some c.database, depth := 1, log := c.log ++ [⟨.BEGIN, 0, 0, false⟩] }

theorem exec_outermost (hc : Idle c) : k.script.exec c =
    (tryCatch (attempted true 0 k.answer (k.fn.script 1)) (caught true 0)).exec c.begun := by
  obtain ⟨d, saved, depth, log⟩ := c
  obtain ⟨rfl, rfl⟩ := hc
  rfl

/-- The `fn` of an outermost call runs in the transaction, from the connection's database. -/
theorem exec_body (k : Call D V) (c : Conn D) : ∃ body, (k.fn.script 1).exec c.begun =
    ((k.fn.applied c.database).1,
      { c.begun with database := (k.fn.applied c.database).2, log := c.log ++ ⟨.BEGIN, 0, 0, false⟩ :: body }) ∧
    ∀ e ∈ body, Inside e := by
  obtain ⟨body, hrun, hin⟩ := exec_script k.fn 0 c.begun rfl rfl
  refine ⟨body, ?_, hin⟩
  rw [hrun]
  simp [Conn.begun]

theorem exec_caught {n : Nat} {e : String} {c : Conn D} : (caught true n e : Script (Conn D) String V).exec c =
    (.error e, { c with
      database := c.saved.getD c.database, saved := none, depth := c.depth - 1,
      log := c.log ++ [⟨.ROLLBACK, c.depth - 1, n, c.saved.isSome⟩] }) := by
  obtain ⟨d, saved, depth, log⟩ := c
  unfold caught
  rw [Script.exec_bind]
  simp only [leave, Script.exec_modify, if_true]
  rw [Script.exec_bind, Script.exec_tryCatch]
  cases saved <;> rfl

theorem exec_commit_done {n : Nat} {c : Conn D} (hs : c.saved.isSome = true) : (execCommit n .done).exec c =
    (.ok (), { c with saved := none, log := c.log ++ [⟨.COMMIT, c.depth, n, c.saved.isSome⟩] }) := by
  obtain ⟨d, saved, depth, log⟩ := c
  obtain ⟨d₀, rfl⟩ := Option.isSome_iff_exists.1 hs
  rfl

theorem exec_commit_throws {n : Nat} {answer : CommitAnswer} (ha : answer ≠ .done) {c : Conn D} :
    ∃ e t, (execCommit n answer).exec c = (.error e, t) ∧ t.depth = c.depth := by
  obtain ⟨d, _ | d₀, depth, log⟩ := c
  · exact ⟨_, _, rfl, rfl⟩
  · cases answer with
    | done => exact absurd rfl ha
    | busy => exact ⟨_, _, rfl, rfl⟩
    | rolledBack => exact ⟨_, _, rfl, rfl⟩

/-- **A call whose `fn` throws is rolled back.** -/
theorem exec_of_throws (hc : Idle c) {e : String} (h : (k.fn.applied c.database).1 = .error e) :
    ∃ body, k.script.exec c = (.error e, { c with
      log := c.log ++ (⟨.BEGIN, 0, 0, false⟩ :: body ++ [⟨.ROLLBACK, 0, 0, true⟩]) }) ∧ ∀ e ∈ body, Inside e := by
  obtain ⟨body, hrun, hin⟩ := exec_body k c
  refine ⟨body, ?_, hin⟩
  rw [h] at hrun
  rw [exec_outermost hc, Script.exec_tryCatch, exec_attempted_error hrun]
  obtain ⟨d, saved, depth, log⟩ := c
  obtain ⟨rfl, rfl⟩ := hc
  simp only [exec_caught]
  simp [Conn.begun]

/-- **A call whose `fn` returns is committed** when its `COMMIT` is done. -/
theorem exec_of_commits (hc : Idle c) {v : V} (h : (k.fn.applied c.database).1 = .ok v) (ha : k.answer = .done) :
    ∃ body, k.script.exec c = (.ok v, { c with
      database := (k.fn.applied c.database).2,
      log := c.log ++ (⟨.BEGIN, 0, 0, false⟩ :: body ++ [⟨.COMMIT, 0, 0, true⟩]) }) ∧ ∀ e ∈ body, Inside e := by
  obtain ⟨body, hrun, hin⟩ := exec_body k c
  refine ⟨body, ?_, hin⟩
  rw [h] at hrun
  rw [exec_outermost hc, Script.exec_tryCatch, exec_attempted_ok hrun, ha, if_pos rfl, Script.exec_bind,
    exec_commit_done rfl]
  obtain ⟨d, saved, depth, log⟩ := c
  obtain ⟨rfl, rfl⟩ := hc
  simp [Conn.begun]

/-- **A `COMMIT` that throws is counted twice.**  The `catch` block finds the counter already down. -/
theorem depth_of_not_commits (hc : Idle c) {v : V} (h : (k.fn.applied c.database).1 = .ok v) (ha : k.answer ≠ .done) :
    (k.left c).depth = -1 := by
  obtain ⟨body, hrun, -⟩ := exec_body k c
  rw [h] at hrun
  unfold Call.left
  obtain ⟨e, t, hcommit, ht⟩ := exec_commit_throws ha
  rw [exec_outermost hc, Script.exec_tryCatch, exec_attempted_ok hrun, if_pos rfl, Script.exec_bind, hcommit]
  show ((caught true 0 e : Script (Conn D) String V).exec t).2.depth = -1
  rw [exec_caught, ht]
  rfl

/-! ## A sequence of calls -/

/-- A log that brackets statements run inside by a `BEGIN` and `last`. -/
theorem bracketed {body : List Entry} (hin : ∀ e ∈ body, Inside e) (q : Sql) :
    (∀ e ∈ (⟨.BEGIN, 0, 0, false⟩ :: body ++ [⟨q, 0, 0, true⟩] : List Entry), e.depth = e.frames) ∧
    (∀ e ∈ (⟨.BEGIN, 0, 0, false⟩ :: body ++ [⟨q, 0, 0, true⟩] : List Entry), e.sql = .statement → e.inTransaction = true) ∧
    ∀ r ∈ body.map (·.sql), r = .statement := by
  refine ⟨fun e he => ?_, fun e he hq => ?_, fun r hr => ?_⟩
  · rcases List.mem_append.1 he with he | he
    · rcases List.mem_cons.1 he with rfl | he
      · rfl
      · exact (hin e he).2.1
    · obtain rfl := List.mem_singleton.1 he
      rfl
  · rcases List.mem_append.1 he with he | he
    · rcases List.mem_cons.1 he with rfl | he
      · cases hq
      · exact (hin e he).2.2
    · obtain rfl := List.mem_singleton.1 he
      rfl
  · obtain ⟨e, he, rfl⟩ := List.mem_map.1 hr
    exact (hin e he).1

/-- **A call that meets no failing `COMMIT` is whole**, and leaves what is due. -/
theorem whole_of_commits (hc : Idle c) (h : (k.fn.applied c.database).1.isOk = true → k.answer = .done) :
    Whole k c ∧ Idle (k.left c) ∧ (k.left c).database = k.due c.database := by
  rcases hr : (k.fn.applied c.database).1 with e | v
  · obtain ⟨body, hrun, hin⟩ := exec_of_throws hc hr
    obtain ⟨hcount, hwithin, hstat⟩ := bracketed hin .ROLLBACK
    have hl : k.left c = _ := congrArg Prod.snd hrun
    have hi : k.issued c = ⟨.BEGIN, 0, 0, false⟩ :: body ++ [⟨.ROLLBACK, 0, 0, true⟩] := by
      rw [Call.issued, hl, List.drop_left]
    refine ⟨⟨⟨hc.1, by rw [hl]; exact hc.1⟩, by rwa [hi], by rwa [hi], by rw [hl]; exact hc.2, ?_, ?_⟩,
      by rw [hl]; exact hc, by rw [hl, Call.due, hr]; rfl⟩
    · intro v hv
      rw [hrun] at hv
      cases hv
    · intro e' _
      exact ⟨by rw [hl], body.map (·.sql), [], by simp [hi], hstat, .inl rfl⟩
  · obtain ⟨body, hrun, hin⟩ := exec_of_commits hc hr (h (by rw [hr]; rfl))
    obtain ⟨hcount, hwithin, hstat⟩ := bracketed hin .COMMIT
    have hl : k.left c = _ := congrArg Prod.snd hrun
    have hi : k.issued c = ⟨.BEGIN, 0, 0, false⟩ :: body ++ [⟨.COMMIT, 0, 0, true⟩] := by
      rw [Call.issued, hl, List.drop_left]
    refine ⟨⟨⟨hc.1, by rw [hl]; exact hc.1⟩, by rwa [hi], by rwa [hi], by rw [hl]; exact hc.2, ?_, ?_⟩,
      by rw [hl]; exact hc, by rw [hl, Call.due, hr]; rfl⟩
    · intro v' hv
      rw [hrun] at hv
      obtain rfl := Except.ok.inj hv
      exact ⟨by rw [hl, ← hr], body.map (·.sql), by simp [hi], hstat⟩
    · intro e' he
      rw [hrun] at he
      cases he

theorem eachWhole_iff (ks : List (Call D V)) (hc : Idle c) : EachWhole ks c ↔ EachCommits ks c.database := by
  induction ks generalizing c with
  | nil => exact Iff.rfl
  | cons k ks ih =>
    constructor
    · rintro ⟨hk, hks⟩
      have h : (k.fn.applied c.database).1.isOk = true → k.answer = .done := by
        intro hok
        by_contra ha
        rcases hr : (k.fn.applied c.database).1 with e | v
        · rw [hr] at hok
          cases hok
        · have hd := hk.idle.2
          rw [depth_of_not_commits hc hr ha] at hd
          cases hd
      obtain ⟨-, hi, hd⟩ := whole_of_commits hc h
      exact ⟨h, hd ▸ (ih hi).1 hks⟩
    · rintro ⟨h, hks⟩
      obtain ⟨hk, hi, hd⟩ := whole_of_commits hc h
      exact ⟨hk, (ih hi).2 (hd ▸ hks)⟩

/-- **The wrapper is atomic as long as no `COMMIT` throws, and no longer.**  From a connection just opened, every outermost
call of a sequence is whole exactly when SQLite does the `COMMIT` of each whose `fn` returns. -/
theorem transaction_atomic_iff (ks : List (Call D V)) (d : D) : EachWhole ks (wrap d) ↔ EachCommits ks d :=
  eachWhole_iff ks ⟨rfl, rfl⟩

/-- A call that runs one statement, `write`, and is answered `answer`. -/
def writes (write : String) (answer : CommitAnswer) : Call (List String) Unit where
  fn := .statement (fun rows => (.ok (), rows ++ [write])) fun _ => .ret ()
  answer := answer

/-- A call that runs one statement, `write`, and throws. -/
def writesAndThrows (write : String) : Call (List String) Unit where
  fn := .statement (fun rows => (.ok (), rows ++ [write])) fun _ => .throw "refused"
  answer := .done

/-- **After one busy `COMMIT` a call that throws keeps what it wrote**, its statement having run in no transaction. -/
theorem transaction_not_atomic :
    ¬ EachWhole [writes "first" .busy, writesAndThrows "second"] (wrap []) ∧
    (writesAndThrows "second").issued ((writes "first" .busy).left (wrap [])) = [⟨.statement, 0, 1, false⟩] ∧
    ((writesAndThrows "second").left ((writes "first" .busy).left (wrap []))).database = ["second"] := by
  refine ⟨fun h => ?_, by decide, by decide⟩
  have hd : ((writes "first" .busy).left (wrap [])).depth = 0 := h.1.idle.2
  exact absurd hd (by decide)

end Connection
end Atra
