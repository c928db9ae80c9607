import Atra.TelegramPairing
/-!
# PairingSafety — how a link comes to be, over whole histories

Issuing a code retires the ones before it, so one code can succeed at a time, and a code is consumed once.  A link made by
`verify` consumes its code.  One made on the gateway's word consumes the pending code where there is one, and is made all the
same where there is none; so links come from codes in just those runs in which the gateway names no one unasked (`Asked`).
-/
namespace Atra
namespace PairingService

open History

inductive PairingCall where
  | issue (transport : TransportKind) (codeHash : String)
  | verify (code : String) (identity : TelegramIdentity) (transport : TransportKind)
  | confirm (identity : TelegramIdentity) (pairedAt : Int)
  | unpair
deriving DecidableEq, Repr

/-- A call, and the time since the one before it. -/
structure PairingEvent where
  wait : Nat
  call : PairingCall
deriving DecidableEq, Repr

structure PairingState where
  pairing : Pairing
  clock : Int

def unpaired (clock : Int) : PairingState := ⟨noCodes, clock⟩

/-- What a call leaves; one that throws leaves what it found. -/
def perform (host : TextHost) (p : Pairing) (now : Int) : PairingCall → Pairing
  | .issue transport codeHash => match issue p transport codeHash now with
    | .ok issued => issued
    | .error _ => p
  | .verify code identity transport => (verify host p code identity transport now).1
  | .confirm identity pairedAt => confirmFromGateway p identity pairedAt now
  | .unpair => unpair p now

def pairingStep (host : TextHost) (s : PairingState) (e : PairingEvent) : PairingState :=
  ⟨perform host s.pairing (s.clock + e.wait) e.call, s.clock + e.wait⟩

def reached (host : TextHost) (t0 : Int) (es : List PairingEvent) : PairingState := after (pairingStep host) (unpaired t0) es

/-! ## What pairing is for -/

def codeHashOf (host : TextHost) (code : String) : Option String := (normalizePairCode host code).map (hashPairCode host)

/-- A code that was unused, unexpired and not retired is used up in this step. -/
def Consumes (host : TextHost) (s : PairingState) (e : PairingEvent) (codeHash : String) : Prop :=
  ∃ row row', s.pairing.codes.get codeHash = some row ∧ pendingRow row = true ∧ s.clock + e.wait < row.expiresAt ∧
    (pairingStep host s e).pairing.codes.get codeHash = some row' ∧ row'.usedAt ≠ none

def Issues (e : PairingEvent) (codeHash : String) : Prop := ∃ transport, e.call = .issue transport codeHash

/-- The gateway names no one to an unpaired runtime that has no code outstanding. -/
def Asked (s : PairingState) (e : PairingEvent) : Prop :=
  ∀ identity pairedAt, e.call = .confirm identity pairedAt → s.pairing.link = none →
    ∃ row ∈ s.pairing.codes.rows, pendingRow row = true ∧ s.clock + e.wait < row.expiresAt

/-! ## What a call does -/

section
variable {host : TextHost} {p : Pairing} {now : Int} {call : PairingCall} {codeHash : String} {row : PairCodeRow}

theorem invalidate_kept (now : Int) (r : PairCodeRow) :
    (invalidate now r).usedAt = r.usedAt ∧ pendingRow (invalidate now r) = false := by
  unfold invalidate pendingRow
  cases r.usedAt with
  | none => cases r.invalidatedAt <;> exact ⟨rfl, rfl⟩
  | some t => exact ⟨rfl, rfl⟩

/-- **Verifying** refuses and changes nothing, or consumes the code's row and links its sender. -/
theorem verify_cases (host : TextHost) (p : Pairing) (code : String) (identity : TelegramIdentity)
    (transport : TransportKind) (now : Int) :
    (∃ refusal, verify host p code identity transport now = (p, some refusal)) ∨
    ∃ codeHash row, codeHashOf host code = some codeHash ∧ linkedElsewhere p identity = false ∧
      p.codes.get codeHash = some row ∧ pendingRow row = true ∧ now < row.expiresAt ∧
      verify host p code identity transport now =
        (writeLink { p with codes := p.codes.put { row with usedAt := some now } } identity transport now, none) := by
  unfold verify codeHashOf
  cases normalizePairCode host code with
  | none => exact .inl ⟨_, rfl⟩
  | some normalized =>
    dsimp only
    by_cases hl : linkedElsewhere p identity = true
    · rw [if_pos hl]
      exact .inl ⟨_, rfl⟩
    · rw [if_neg hl]
      cases hg : (p.codes.get (hashPairCode host normalized)).filter fun r => pendingRow r && decide (now < r.expiresAt) with
      | none => exact .inl ⟨_, rfl⟩
      | some row =>
        obtain ⟨hrow, hlive⟩ := Option.filter_eq_some_iff.1 hg
        rw [Bool.and_eq_true, decide_eq_true_eq] at hlive
        exact .inr ⟨_, row, rfl, by simpa using hl, hrow, hlive.1, hlive.2, rfl⟩

theorem get_retire (codes : Table PairCodeRow.codeHash) (now : Int) (k : String) :
    (retire codes now).get k = (codes.get k).map (invalidate now) := Table.get_update _ _ _ _

/-- **Issuing** retires the codes and adds one, while there is no link. -/
theorem issue_ok {transport : TransportKind} {issued : Pairing} (h : issue p transport codeHash now = .ok issued) :
    p.link = none ∧ (retire p.codes now).get codeHash = none ∧ issued.link = none ∧
    ∀ k, issued.codes.get k = (if k = codeHash then some ⟨codeHash, transport, now, now + PAIR_CODE_TTL_MS, none, none⟩
      else (p.codes.get k).map (invalidate now)).filter fun r => !(r.expiresAt < now - 24 * 60 * 60 * 1000) := by
  unfold issue at h
  cases hl : p.link with
  | some existing =>
    rw [hl] at h
    cases h
  | none =>
    rw [hl] at h
    dsimp only at h
    by_cases hu : ((retire p.codes now).get codeHash).isSome = true
    · rw [if_pos hu] at h
      cases h
    · rw [if_neg hu] at h
      obtain rfl := pure_ok.1 h
      refine ⟨rfl, by simpa using hu, rfl, fun k => ?_⟩
      dsimp only
      rw [Table.get_keep, Table.get_put, get_retire]

theorem get_consume (codes : Table PairCodeRow.codeHash) (now : Int) (k : String) :
    (codes.update (consume now) fun _ => rfl).get k = (codes.get k).map (consume now) := Table.get_update _ _ _ _

theorem consume_kept (now : Int) (r : PairCodeRow) :
    (pendingRow (consume now r) = true → pendingRow r = true) ∧ (r.usedAt ≠ none → (consume now r).usedAt ≠ none) := by
  unfold consume
  by_cases hc : (pendingRow r && decide (now < r.expiresAt)) = true
  · rw [if_pos hc]
    refine ⟨fun h => ?_, fun _ => Option.some_ne_none now⟩
    cases h
  · rw [if_neg hc]
    exact ⟨id, id⟩

/-- **What a call leaves of the codes**: a row is one that was there, no less used and no more pending, or it was issued by the
call, and then nothing else is pending. -/
theorem code_kept {k : String} {r : PairCodeRow} (h : (perform host p now call).codes.get k = some r) :
    (∃ r₀, p.codes.get k = some r₀ ∧ (pendingRow r = true → pendingRow r₀ = true) ∧ (r₀.usedAt ≠ none → r.usedAt ≠ none)) ∨
    (∃ transport, call = .issue transport k) ∧
      ∀ k' r', k' ≠ k → (perform host p now call).codes.get k' = some r' → pendingRow r' = false := by
  have hretired : ∀ {k : String} {r : PairCodeRow}, (p.codes.get k).map (invalidate now) = some r →
      ∃ r₀, p.codes.get k = some r₀ ∧ pendingRow r = false ∧ (r₀.usedAt ≠ none → r.usedAt ≠ none) := by
    intro k r hr
    obtain ⟨r₀, hr₀, rfl⟩ := Option.map_eq_some_iff.1 hr
    obtain ⟨hu, hp⟩ := invalidate_kept now r₀
    exact ⟨r₀, hr₀, hp, fun hused => by rw [hu]; exact hused⟩
  cases call with
  | issue transport codeHash =>
    unfold perform at h ⊢
    dsimp only at h ⊢
    cases hi : issue p transport codeHash now with
    | error e =>
      rw [hi] at h
      exact .inl ⟨r, h, id, id⟩
    | ok issued =>
      rw [hi] at h
      obtain ⟨-, -, -, hget⟩ := issue_ok hi
      dsimp only at h ⊢
      by_cases hk : k = codeHash
      · subst hk
        refine .inr ⟨⟨transport, rfl⟩, fun k' r' hne hr' => ?_⟩
        rw [hget, if_neg hne] at hr'
        obtain ⟨_, _, hp, _⟩ := hretired (Option.filter_eq_some_iff.1 hr').1
        exact hp
      · rw [hget, if_neg hk] at h
        obtain ⟨r₀, hr₀, hp, hu⟩ := hretired (Option.filter_eq_some_iff.1 h).1
        exact .inl ⟨r₀, hr₀, fun hpend => absurd hpend (by rw [hp]; decide), hu⟩
  | verify code identity transport =>
    unfold perform at h
    dsimp only at h
    rcases verify_cases host p code identity transport now with ⟨refusal, hv⟩ | ⟨codeHash, row, -, -, hrow, -, -, hv⟩
    · rw [hv] at h
      exact .inl ⟨r, h, id, id⟩
    · rw [hv] at h
      replace h : (p.codes.put { row with usedAt := some now }).get k = some r := h
      rw [Table.get_put] at h
      by_cases hk : k = row.codeHash
      · rw [if_pos hk] at h
        obtain rfl := Option.some.inj h
        have hkey : row.codeHash = codeHash := Table.key_of_get hrow
        refine .inl ⟨row, by rw [hk, hkey]; exact hrow, fun hp => ?_, fun _ => Option.some_ne_none now⟩
        cases hp
      · rw [if_neg hk] at h
        exact .inl ⟨r, h, id, id⟩
  | confirm identity pairedAt =>
    unfold perform confirmFromGateway at h
    dsimp only at h
    by_cases hl : linkedElsewhere p identity = true
    · rw [if_pos hl] at h
      exact .inl ⟨r, h, id, id⟩
    · rw [if_neg hl] at h
      replace h : (p.codes.update (consume now) fun _ => rfl).get k = some r := h
      rw [get_consume] at h
      obtain ⟨r₀, hr₀, rfl⟩ := Option.map_eq_some_iff.1 h
      exact .inl ⟨r₀, hr₀, (consume_kept now r₀).1, (consume_kept now r₀).2⟩
  | unpair =>
    unfold perform unpair at h
    dsimp only at h
    rw [get_retire] at h
    obtain ⟨r₀, hr₀, hp, hu⟩ := hretired h
    exact .inl ⟨r₀, hr₀, fun hpend => absurd hpend (by rw [hp]; decide), hu⟩

end

/-! ## What holds along every run -/

section
variable {host : TextHost} {t0 : Int} {es pre mid : List PairingEvent} {s : PairingState} {e : PairingEvent} {codeHash : String}

theorem reached_snoc : reached host t0 (es ++ [e]) = pairingStep host (reached host t0 es) e := after_snoc

/-- At most one row is pending. -/
def Alone (codes : Table PairCodeRow.codeHash) : Prop :=
  ∀ k r k' r', codes.get k = some r → pendingRow r = true → codes.get k' = some r' → pendingRow r' = true → k = k'

theorem Alone.step (h : Alone s.pairing.codes) (e : PairingEvent) : Alone (pairingStep host s e).pairing.codes := by
  intro k r k' r' hr hp hr' hp'
  by_contra hne
  rcases code_kept hr with ⟨r₀, hr₀, hpend, -⟩ | ⟨-, hothers⟩
  · rcases code_kept hr' with ⟨r₀', hr₀', hpend', -⟩ | ⟨-, hothers⟩
    · exact hne (h k r₀ k' r₀' hr₀ (hpend hp) hr₀' (hpend' hp'))
    · rw [hothers k r hne hr] at hp
      cases hp
  · rw [hothers k' r' (Ne.symm hne) hr'] at hp'
    cases hp'

theorem alone_reached (host : TextHost) (t0 : Int) (es : List PairingEvent) : Alone (reached host t0 es).pairing.codes := by
  refine invariant (P := fun s : PairingState => Alone s.pairing.codes) ?_ (fun s e h => h.step e) es
  intro k r k' r' hr
  cases hr

/-- A code that is not waiting to be used: there is none of that hash, or it was used. -/
def Spent (s : PairingState) (codeHash : String) : Prop := ∀ r, s.pairing.codes.get codeHash = some r → r.usedAt ≠ none

theorem Spent.step (h : Spent s codeHash) (he : ¬ Issues e codeHash) : Spent (pairingStep host s e) codeHash := by
  intro r hr
  rcases code_kept hr with ⟨r₀, hr₀, -, hu⟩ | ⟨hissue, -⟩
  · exact hu (h r₀ hr₀)
  · exact absurd hissue he

theorem Spent.after (h : Spent s codeHash) (hmid : ∀ x ∈ mid, ¬ Issues x codeHash) :
    Spent (History.after (pairingStep host) s mid) codeHash := by
  induction mid generalizing s with
  | nil => exact h
  | cons x mid ih =>
    exact ih (h.step (hmid x List.mem_cons_self)) fun y hy => hmid y (List.mem_cons_of_mem _ hy)

end

end PairingService
end Atra
