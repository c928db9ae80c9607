import Atra.Lockout
import Atra.OnePassword
/-!
# GuessRate — how fast passwords and admin secrets can be guessed

A guess is a call that waits for the key derivation.  The operator password is charged before it waits, so every call that
is let through has been counted; the treasury's admin secret is charged when it turns out wrong, so as many calls as arrive
together pass the check of the lock.  Both counts are instances of `Lockout`.
-/
namespace Atra
namespace Auth

open History Lockout

/-- The two calls that check the operator password. -/
inductive PasswordCall where
  | login
  | issueReauthToken
deriving DecidableEq, Repr

/-- The stored throttle, the calls that wait for a derivation, and the time. -/
structure Guarded where
  throttle : ThrottleRow
  calls : List PasswordCall
  clock : Int

/-- What happens to the guard.  `written` and `audited` say whether the statements on the way go through. -/
inductive GuardEvent where
  | tick (ms : Nat)
  | call (call : PasswordCall) (configured written audited : Bool)
  /-- The derivation of a call is done; `verified` says whether the password was right. -/
  | derived (i : Nat) (verified written : Bool)
  | restart

/-- Charge an attempt: the throttle, and whether the call goes on. -/
def charge (throttle : ThrottleRow) (now : Int) (written audited : Bool) : ThrottleRow × Bool :=
  match beginAttempt throttle now with
  | .error _ => (throttle, false)
  | .ok next => if written then (next, next.lockedUntil.isNone || audited) else (throttle, false)

/-- `login` asks for a credential first; `issueReauthToken` does not. -/
def refusesUnset (call : PasswordCall) (configured : Bool) : Bool := call = .login && !configured

def guardStep (s : Guarded) : GuardEvent → Guarded
  | .tick ms => { s with clock := s.clock + ms }
  | .call call configured written audited =>
    if refusesUnset call configured then s
    else
      let (throttle, goesOn) := charge s.throttle s.clock written audited
      { s with throttle, calls := if goesOn then s.calls ++ [call] else s.calls }
  | .derived i verified written =>
    if i < s.calls.length then
      { s with throttle := if verified && written then ⟨[], none⟩ else s.throttle, calls := s.calls.eraseIdx i }
    else s
  | .restart => { s with calls := [] }

def guarded (clock : Int) (es : List GuardEvent) : Guarded := after guardStep ⟨⟨[], none⟩, [], clock⟩ es

def succeeds (s : Guarded) : GuardEvent → Bool
  | .derived i verified _ => verified && i < s.calls.length
  | _ => false

/-- The attempts an event lets through to the derivation, by their time. -/
def letThrough (s : Guarded) : GuardEvent → List Int
  | .call call configured written audited =>
    if !refusesUnset call configured && (charge s.throttle s.clock written audited).2 then [s.clock] else []
  | _ => []

def locksSet (s : Guarded) : GuardEvent → List Int
  | .call call configured written _ =>
    match beginAttempt s.throttle s.clock with
    | .error _ => []
    | .ok next => if !refusesUnset call configured && written && next.lockedUntil.isSome then [s.clock] else []
  | _ => []

def loginPolicy : Policy where
  limit := LOGIN_FAILURE_LIMIT
  window := LOGIN_FAILURE_WINDOW_MS
  lock := LOGIN_LOCKOUT_MS
  limit_pos := by decide
  lock_nonneg := by decide
  lock_le := by decide

/-! ## One attempt -/

theorem beginAttempt_cases (throttle : ThrottleRow) (now : Int) :
    (throttle.lockedUntil.any (now < ·) = true ∧ ∃ e, beginAttempt throttle now = .error e) ∨
      throttle.lockedUntil.any (now < ·) = false ∧
        ((recent loginPolicy throttle.failures now).length + 1 < loginPolicy.limit ∧
            beginAttempt throttle now = .ok ⟨recent loginPolicy throttle.failures now ++ [now], none⟩ ∨
          loginPolicy.limit ≤ (recent loginPolicy throttle.failures now).length + 1 ∧
            beginAttempt throttle now = .ok ⟨[], some (now + loginPolicy.lock)⟩) := by
  have hkept : throttle.failures.filter (fun time => now - time < LOGIN_FAILURE_WINDOW_MS) =
      recent loginPolicy throttle.failures now := rfl
  unfold beginAttempt
  rw [hkept]
  by_cases hlocked : throttle.lockedUntil.any (now < ·) = true
  · rw [if_pos hlocked]
    exact .inl ⟨hlocked, _, rfl⟩
  · rw [if_neg hlocked]
    refine .inr ⟨Bool.not_eq_true _ ▸ hlocked, ?_⟩
    dsimp only
    rw [List.length_append, List.length_singleton]
    by_cases hfull : LOGIN_FAILURE_LIMIT ≤ (recent loginPolicy throttle.failures now).length + 1
    · rw [if_pos hfull]
      exact .inr ⟨hfull, rfl⟩
    · rw [if_neg hfull]
      exact .inl ⟨Nat.lt_of_not_le hfull, rfl⟩

/-- The charges and locks of a stretch, as the stored throttle tracks them. -/
def Tracks (s : Guarded) (charges locks : List Int) : Prop :=
  ∃ barrier, (∀ now, s.clock ≤ now → s.throttle.lockedUntil.any (now < ·) = false → barrier ≤ now) ∧
    Tracked loginPolicy s.throttle.failures barrier s.clock charges locks

variable {s : Guarded} {charges locks : List Int}

/-- **A charge is tracked**, whatever becomes of the call. -/
theorem Tracks.charge (h : Tracks s charges locks) {call : PasswordCall} {configured : Bool} (written audited : Bool)
    (hset : refusesUnset call configured = false) :
    Tracks { s with throttle := (charge s.throttle s.clock written audited).1 }
      (charges ++ letThrough s (.call call configured written audited))
      (locks ++ locksSet s (.call call configured written audited)) := by
  obtain ⟨barrier, hbarrier, htracked⟩ := h
  unfold letThrough locksSet Auth.charge
  dsimp only
  rw [hset]
  rcases beginAttempt_cases s.throttle s.clock with ⟨-, e, he⟩ | ⟨hopen, ⟨hfew, he⟩ | ⟨hfull, he⟩⟩
  · rw [he]
    simp only [Bool.not_false, Bool.and_false, Bool.false_eq_true, if_false, List.append_nil]
    exact ⟨barrier, hbarrier, htracked⟩
  · have hb := hbarrier s.clock (le_refl _) hopen
    rw [he]
    cases written with
    | false =>
      simp only [Bool.not_false, Bool.and_false, Bool.false_and, Bool.false_eq_true, if_false, List.append_nil]
      exact ⟨barrier, hbarrier, htracked⟩
    | true =>
      simp only [Bool.not_false, Bool.and_true, Option.isNone_none, Bool.true_or, if_true, Option.isSome_none,
        Bool.and_false, Bool.false_eq_true, if_false, List.append_nil]
      exact ⟨barrier, fun now hnow _ => hb.trans hnow, htracked.charge hb hfew⟩
  · have hb := hbarrier s.clock (le_refl _) hopen
    rw [he]
    cases written with
    | false =>
      simp only [Bool.not_false, Bool.and_false, Bool.false_and, Bool.false_eq_true, if_false, List.append_nil]
      exact ⟨barrier, hbarrier, htracked⟩
    | true =>
      simp only [Bool.not_false, Bool.and_true, Option.isNone_some, Bool.false_or, Bool.true_and, if_true, Option.isSome_some]
      refine ⟨s.clock + loginPolicy.lock, fun now _ hlocked => ?_, htracked.lock hb ?_⟩
      · simpa using hlocked
      · cases audited with
        | true => exact .inr rfl
        | false => exact .inl rfl

/-- **A step that is no success is tracked.** -/
theorem Tracks.step (h : Tracks s charges locks) (e : GuardEvent) (he : succeeds s e = false) :
    Tracks (guardStep s e) (charges ++ letThrough s e) (locks ++ locksSet s e) := by
  cases e with
  | tick ms =>
    obtain ⟨barrier, hbarrier, htracked⟩ := h
    simp only [letThrough, locksSet, List.append_nil]
    refine ⟨barrier, fun now hnow => hbarrier now ?_, htracked.later (le_refl _) ?_⟩
    · exact le_trans (Int.le_add_of_nonneg_right (Int.natCast_nonneg ms)) hnow
    · exact Int.le_add_of_nonneg_right (Int.natCast_nonneg ms)
  | call call configured written audited =>
    unfold guardStep
    dsimp only
    cases hset : refusesUnset call configured with
    | true =>
      have hnone : locksSet s (.call call configured written audited) = [] := by
        unfold locksSet
        dsimp only
        rw [hset]
        split
        · rfl
        · rfl
      simp only [letThrough, hset, hnone, Bool.not_true, Bool.false_and, Bool.false_eq_true, if_false, if_true, List.append_nil]
      exact h
    | false =>
      rw [if_neg Bool.false_ne_true]
      exact h.charge written audited hset
  | derived i verified written =>
    simp only [letThrough, locksSet, List.append_nil]
    unfold guardStep
    dsimp only
    split
    · rename_i hi
      have hwrong : verified = false := by simpa [succeeds, hi] using he
      rw [hwrong]
      exact h
    · exact h
  | restart =>
    simp only [letThrough, locksSet, List.append_nil]
    exact h

theorem few_guarded (clock : Int) (es : List GuardEvent) :
    (guarded clock es).throttle.failures.length < loginPolicy.limit := by
  unfold guarded
  apply invariant (P := fun s : Guarded => s.throttle.failures.length < loginPolicy.limit)
  · exact loginPolicy.limit_pos
  · intro s e h
    cases e with
    | tick ms => exact h
    | restart => exact h
    | derived i verified written =>
      unfold guardStep
      dsimp only
      split
      · cases verified <;> cases written <;> first | exact h | exact loginPolicy.limit_pos
      · exact h
    | call call configured written audited =>
      unfold guardStep Auth.charge
      dsimp only
      split
      · exact h
      · rcases beginAttempt_cases s.throttle s.clock with ⟨-, e, he⟩ | ⟨-, ⟨hfew, he⟩ | ⟨-, he⟩⟩
        · rw [he]
          exact h
        · rw [he]
          cases written with
          | true => simpa using hfew
          | false => exact h
        · rw [he]
          cases written with
          | true => exact loginPolicy.limit_pos
          | false => exact h

/-- **The attempts of a stretch without a success are tracked.** -/
theorem tracks_stretch {es : List GuardEvent} (hfew : s.throttle.failures.length < loginPolicy.limit)
    (h : Along guardStep (fun s e => succeeds s e = false) s es) :
    Tracks (after guardStep s es) (collect guardStep letThrough s es) (collect guardStep locksSet s es) := by
  induction es using List.reverseRecOn with
  | nil =>
    refine ⟨s.throttle.lockedUntil.getD s.clock, fun now hnow hopen => ?_, tracked_start hfew⟩
    replace hopen : s.throttle.lockedUntil.any (now < ·) = false := hopen
    cases hl : s.throttle.lockedUntil with
    | none => exact hnow
    | some lockedUntil =>
      rw [hl] at hopen
      simpa using hopen
  | append_singleton es e ih =>
    obtain ⟨hes, he⟩ := along_snoc.1 h
    rw [after_snoc, collect_snoc, collect_snoc]
    exact (ih hes).step e he

/-- **How fast the operator password can be guessed.**  While no attempt succeeds, `LOGIN_LOCKOUT_MS` let through at most
`LOGIN_FAILURE_LIMIT` attempts, and `LOGIN_FAILURE_WINDOW_MS` that let through so many hold a lock. -/
theorem guesses_bounded (clock : Int) (pre es : List GuardEvent)
    (h : Along guardStep (fun s e => succeeds s e = false) (guarded clock pre) es) (start : Int) :
    (Lockout.stretch (collect guardStep letThrough (guarded clock pre) es) start LOGIN_LOCKOUT_MS).length ≤ LOGIN_FAILURE_LIMIT ∧
      (LOGIN_FAILURE_LIMIT ≤
          (Lockout.stretch (collect guardStep letThrough (guarded clock pre) es) start LOGIN_FAILURE_WINDOW_MS).length →
        ∃ time ∈ collect guardStep locksSet (guarded clock pre) es, start ≤ time ∧ time < start + LOGIN_FAILURE_WINDOW_MS) := by
  obtain ⟨barrier, -, htracked⟩ := tracks_stretch (few_guarded clock pre) h
  exact ⟨htracked.bounded start, htracked.locked start⟩

/-- Five wrong passwords at once, all of them let through; the sixth call is refused. -/
def burst : List GuardEvent := List.replicate 6 (.call .login true true true)

theorem burst_along : Along guardStep (fun s e => succeeds s e = false) (guarded 0 []) burst :=
  ⟨rfl, rfl, rfl, rfl, rfl, rfl, trivial⟩

theorem guesses_bounded_burst :
    (Lockout.stretch (collect guardStep letThrough (guarded 0 []) burst) 0 LOGIN_LOCKOUT_MS).length ≤ LOGIN_FAILURE_LIMIT :=
  (guesses_bounded 0 [] burst burst_along 0).1

end Auth

namespace Treasury

open History Lockout

def TREASURY_ADMIN_FAILURE_LIMIT : Nat := 5
def TREASURY_ADMIN_FAILURE_WINDOW_MS : Int := 15 * 60 * 1000
def TREASURY_ADMIN_LOCKOUT_MS : Int := 5 * 60 * 1000

/-- `TreasuryAdminAuth`: its counter, the calls of `login` that wait for a derivation, by their sessions, and the time. -/
structure AdminAuth where
  failures : List Int
  lockedUntil : Int
  calls : List String
  clock : Int

inductive AdminEvent where
  | tick (ms : Nat)
  | login (sessionId : String) (configured : Bool)
  /-- The derivation of a call is done; `verified` says whether the secret was right. -/
  | derived (i : Nat) (verified : Bool)

def recordFailure (s : AdminAuth) : AdminAuth :=
  let failures := s.failures.filter (fun time => s.clock - time < TREASURY_ADMIN_FAILURE_WINDOW_MS) ++ [s.clock]
  if TREASURY_ADMIN_FAILURE_LIMIT ≤ failures.length then
    { s with failures := [], lockedUntil := s.clock + TREASURY_ADMIN_LOCKOUT_MS }
  else { s with failures }

/-- `login` is refused without a credential and while a lock stands. -/
def admits (s : AdminAuth) (configured : Bool) : Bool := configured && !decide (s.clock < s.lockedUntil)

def adminStep (s : AdminAuth) : AdminEvent → AdminAuth
  | .tick ms => { s with clock := s.clock + ms }
  | .login sessionId configured => if admits s configured then { s with calls := s.calls ++ [sessionId] } else s
  | .derived i verified =>
    if i < s.calls.length then
      let s := { s with calls := s.calls.eraseIdx i }
      if verified then { s with failures := [] } else recordFailure s
    else s

def administered (clock : Int) (es : List AdminEvent) : AdminAuth := after adminStep ⟨[], 0, [], clock⟩ es

/-- A login is correct. -/
def signsIn (s : AdminAuth) : AdminEvent → Bool
  | .derived i verified => verified && i < s.calls.length
  | _ => false

/-- The wrong secrets an event evaluates, by their time. -/
def evaluated (s : AdminAuth) : AdminEvent → List Int
  | .derived i verified => if i < s.calls.length && !verified then [s.clock] else []
  | _ => []

/-- A secret is evaluated although a lock stands: its call came before the lock. -/
def underLock (s : AdminAuth) (e : AdminEvent) : Bool := !(evaluated s e).isEmpty && decide (s.clock < s.lockedUntil)

def adminPolicy : Policy where
  limit := TREASURY_ADMIN_FAILURE_LIMIT
  window := TREASURY_ADMIN_FAILURE_WINDOW_MS
  lock := TREASURY_ADMIN_LOCKOUT_MS
  limit_pos := by decide
  lock_nonneg := by decide
  lock_le := by decide

theorem recordFailure_cases (s : AdminAuth) :
    (recent adminPolicy s.failures s.clock).length + 1 < adminPolicy.limit ∧
        recordFailure s = { s with failures := recent adminPolicy s.failures s.clock ++ [s.clock] } ∨
      recordFailure s = { s with failures := [], lockedUntil := s.clock + adminPolicy.lock } := by
  have hkept : s.failures.filter (fun time => s.clock - time < TREASURY_ADMIN_FAILURE_WINDOW_MS) =
      recent adminPolicy s.failures s.clock := rfl
  unfold recordFailure
  rw [hkept]
  dsimp only
  rw [List.length_append, List.length_singleton]
  by_cases hfull : TREASURY_ADMIN_FAILURE_LIMIT ≤ (recent adminPolicy s.failures s.clock).length + 1
  · rw [if_pos hfull]
    exact .inr rfl
  · rw [if_neg hfull]
    exact .inl ⟨Nat.lt_of_not_le hfull, rfl⟩

theorem few_administered (clock : Int) (es : List AdminEvent) :
    (administered clock es).failures.length < adminPolicy.limit := by
  unfold administered
  apply invariant (P := fun s : AdminAuth => s.failures.length < adminPolicy.limit)
  · exact adminPolicy.limit_pos
  · intro s e h
    cases e with
    | tick ms => exact h
    | login sessionId configured =>
      unfold adminStep
      dsimp only
      split
      · exact h
      · exact h
    | derived i verified =>
      unfold adminStep
      dsimp only
      split
      · cases verified with
        | true => exact adminPolicy.limit_pos
        | false =>
          rw [if_neg Bool.false_ne_true]
          rcases recordFailure_cases { s with calls := s.calls.eraseIdx i } with ⟨hfew, heq⟩ | heq
          · rw [heq]
            simpa using hfew
          · rw [heq]
            exact adminPolicy.limit_pos
      · exact h

/-- The evaluations of a stretch, as the counter tracks them. -/
def Tracks (s : AdminAuth) (charges locks : List Int) : Prop :=
  ∃ barrier, (∀ now, s.clock ≤ now → s.lockedUntil ≤ now → barrier ≤ now) ∧
    Tracked adminPolicy s.failures barrier s.clock charges locks

/-- **A step that neither signs in nor evaluates a secret under a lock is tracked.** -/
theorem Tracks.step {s : AdminAuth} {charges locks : List Int} (h : Tracks s charges locks) (e : AdminEvent)
    (hright : signsIn s e = false) (hopen : underLock s e = false) :
    ∃ locks', Tracks (adminStep s e) (charges ++ evaluated s e) locks' := by
  obtain ⟨barrier, hbarrier, htracked⟩ := h
  cases e with
  | tick ms =>
    rw [show evaluated s (.tick ms) = [] from rfl, List.append_nil]
    refine ⟨locks, barrier, fun now hnow => hbarrier now ?_, htracked.later (le_refl _) ?_⟩
    · exact le_trans (Int.le_add_of_nonneg_right (Int.natCast_nonneg ms)) hnow
    · exact Int.le_add_of_nonneg_right (Int.natCast_nonneg ms)
  | login sessionId configured =>
    rw [show evaluated s (.login sessionId configured) = [] from rfl, List.append_nil]
    unfold adminStep
    dsimp only
    split
    · exact ⟨locks, barrier, hbarrier, htracked⟩
    · exact ⟨locks, barrier, hbarrier, htracked⟩
  | derived i verified =>
    unfold adminStep
    dsimp only
    by_cases hi : i < s.calls.length
    · have hwrong : verified = false := by simpa [signsIn, hi] using hright
      subst hwrong
      have heval : evaluated s (.derived i false) = [s.clock] := by
        unfold evaluated
        simp [hi]
      have hunlocked : s.lockedUntil ≤ s.clock := by
        unfold underLock at hopen
        rw [heval] at hopen
        simpa using hopen
      have hb := hbarrier s.clock (le_refl _) hunlocked
      rw [if_pos hi, if_neg Bool.false_ne_true, heval]
      rcases recordFailure_cases { s with calls := s.calls.eraseIdx i } with ⟨hfew, heq⟩ | heq
      · rw [heq]
        exact ⟨locks, barrier, hbarrier, htracked.charge hb hfew⟩
      · rw [heq]
        exact ⟨locks ++ [s.clock], s.clock + adminPolicy.lock, fun now _ hlocked => hlocked, htracked.lock hb (.inr rfl)⟩
    · have heval : evaluated s (.derived i verified) = [] := by
        unfold evaluated
        simp [hi]
      rw [if_neg hi, heval, List.append_nil]
      exact ⟨locks, barrier, hbarrier, htracked⟩

/-- **How fast the admin secret can be guessed.**  Between two correct logins `TREASURY_ADMIN_LOCKOUT_MS` evaluate at most
`TREASURY_ADMIN_FAILURE_LIMIT` secrets, if none is evaluated while a lock stands. -/
theorem evaluations_bounded (clock : Int) (pre es : List AdminEvent)
    (h : Along adminStep (fun s e => signsIn s e = false ∧ underLock s e = false) (administered clock pre) es) (start : Int) :
    (Lockout.stretch (collect adminStep evaluated (administered clock pre) es) start TREASURY_ADMIN_LOCKOUT_MS).length ≤
      TREASURY_ADMIN_FAILURE_LIMIT := by
  have htracks : ∃ locks, Tracks (after adminStep (administered clock pre) es)
      (collect adminStep evaluated (administered clock pre) es) locks := by
    induction es using List.reverseRecOn with
    | nil => exact ⟨[], (administered clock pre).lockedUntil, fun _ _ h => h, tracked_start (few_administered clock pre)⟩
    | append_singleton es e ih =>
      obtain ⟨hes, hright, hopen⟩ := along_snoc.1 h
      obtain ⟨locks, htracks⟩ := ih hes
      rw [after_snoc, collect_snoc]
      exact htracks.step e hright hopen
  obtain ⟨locks, barrier, -, htracked⟩ := htracks
  exact htracked.bounded start

/-- One wrong secret after another. -/
def oneByOne : List AdminEvent := [.login "s" true, .derived 0 false, .tick 1000, .login "s" true, .derived 0 false]

theorem evaluations_bounded_oneByOne :
    (Lockout.stretch (collect adminStep evaluated (administered 0 []) oneByOne) 0 TREASURY_ADMIN_LOCKOUT_MS).length ≤
      TREASURY_ADMIN_FAILURE_LIMIT :=
  evaluations_bounded 0 [] oneByOne ⟨⟨rfl, rfl⟩, ⟨rfl, rfl⟩, ⟨rfl, rfl⟩, ⟨rfl, rfl⟩, ⟨rfl, rfl⟩, trivial⟩ 0

/-- Six calls that arrive together are all evaluated. -/
def together : List AdminEvent := List.replicate 6 (.login "s" true) ++ List.replicate 6 (.derived 0 false)

theorem together_unbounded : ¬ ∀ es : List AdminEvent, Along adminStep (fun s e => signsIn s e = false) (administered 0 []) es →
    ∀ start, (Lockout.stretch (collect adminStep evaluated (administered 0 []) es) start TREASURY_ADMIN_LOCKOUT_MS).length ≤
      TREASURY_ADMIN_FAILURE_LIMIT := by
  intro h
  have hsix := h together ⟨rfl, rfl, rfl, rfl, rfl, rfl, rfl, rfl, rfl, rfl, rfl, rfl, trivial⟩ 0
  revert hsix
  decide +kernel

end Treasury
end Atra
