import Atra.VaultSystem
/-!
# VaultHistory — the vault over whole histories

A header wraps the one data key under the password written last, a stored secret comes back as it was stored, and a call that
throws changes nothing, with one exception: an `initialize` that comes too late drops the key the vault was unlocked with
(`Intrudes`).
-/
namespace Atra
namespace Vault

open Money Buffers History

/-! ## What a vault is for -/

/-- The password written last, up to its normal form. -/
def IsPassword (crypto : Crypto) (s : VaultSystem) (password : String) : Prop :=
  ∃ current, s.memory.password = some current ∧ crypto.normalize password = crypto.normalize current

/-- There is no vault yet, or its header wraps the one data key under the password written last. -/
def HeaderLaw (crypto : Crypto) (s : VaultSystem) : Prop :=
  (s.memory.keys = [] ∧ s.memory.password = none ∧ s.vault.rows.header = none) ∨
  ∃ dataKey password header, s.memory.keys = [dataKey] ∧ s.memory.password = some password ∧
    s.vault.rows.header = some header ∧ header.version = VAULT_VERSION ∧ Wraps crypto header password dataKey

/-- A call that began here and was first woken there, with its key. -/
def WokenFirst (s : VaultSystem) (mid : List VaultEvent) (w : Wake) : Prop :=
  w.kdf = .ok () ∧ ∀ w', VaultEvent.wake s.calls.length w' ∉ mid

structure VaultLawful (crypto : Crypto) (autolock : Autolock) (es : List VaultEvent) : Prop where
  header : ∀ pre post, es = pre ++ post → HeaderLaw crypto (reached crypto autolock.ms pre)
  /-- `unlock` succeeds on the password in force when it began, and on no other. -/
  unlocks : ∀ pre password now mid w post, let s := reached crypto autolock.ms pre
    let e := VaultEvent.call (.unlock password) now
    es = pre ++ e :: mid ++ .wake s.calls.length w :: post → outcome crypto autolock.ms s e = none → WokenFirst s mid w →
    (outcome crypto autolock.ms (reached crypto autolock.ms (pre ++ e :: mid)) (.wake s.calls.length w) = some .unlocked ↔
      IsPassword crypto s password)
  /-- So does `verifyPassword`. -/
  verifies : ∀ pre password now mid w post, let s := reached crypto autolock.ms pre
    let e := VaultEvent.call (.verifyPassword password) now
    es = pre ++ e :: mid ++ .wake s.calls.length w :: post → outcome crypto autolock.ms s e = none → WokenFirst s mid w →
    (outcome crypto autolock.ms (reached crypto autolock.ms (pre ++ e :: mid)) (.wake s.calls.length w) = some (.verified true) ↔
      IsPassword crypto s password)
  /-- A stored secret is handed back by every `useSecret` that finds the vault unlocked. -/
  handsBack : ∀ pre id now post row plaintext, es = pre ++ .call (.useSecret id) now :: post →
    (row, plaintext) ∈ (reached crypto autolock.ms pre).memory.stored → row.id = id →
    isUnlocked autolock.ms (reached crypto autolock.ms pre).vault now = true →
    outcome crypto autolock.ms (reached crypto autolock.ms pre) (.call (.useSecret id) now) = some (.passed id plaintext)
  /-- Nothing else is handed out. -/
  storedBefore : ∀ pre id now post plaintext, es = pre ++ .call (.useSecret id) now :: post →
    outcome crypto autolock.ms (reached crypto autolock.ms pre) (.call (.useSecret id) now) = some (.passed id plaintext) →
    ∃ row, (row, plaintext) ∈ (reached crypto autolock.ms pre).memory.stored ∧ row.id = id
  /-- A call that throws changes neither the rows nor whether the vault is unlocked. -/
  throws : ∀ pre e post error, es = pre ++ e :: post →
    outcome crypto autolock.ms (reached crypto autolock.ms pre) e = some (.threw error) →
    (reached crypto autolock.ms (pre ++ [e])).vault.rows = (reached crypto autolock.ms pre).vault.rows ∧
    isUnlocked autolock.ms (reached crypto autolock.ms (pre ++ [e])).vault (eventTime e) =
      isUnlocked autolock.ms (reached crypto autolock.ms pre).vault (eventTime e)

/-- An `initialize` has its key and finds the vault unlocked by now. -/
def Intrudes (autolockMs : Int) (s : VaultSystem) : VaultEvent → Bool
  | .call _ _ => false
  | .wake k w => match frameAt s k with
    | some (.initializing _ _ _ _) => w.kdf.isOk && isUnlocked autolockMs s.vault w.now
    | _ => false

section
variable {crypto : Crypto} {s : VaultSystem} {v : VaultState} {p : Progress} {k : Nat} {f : Suspended}

/-! ## Secrets -/

/-- A stored secret was sealed under the data key. -/
structure Issued (crypto : Crypto) (m : Memory) : Prop where
  fresh : m.keys = [] → m.stored = []
  opens : ∀ row plaintext dataKey, (row, plaintext) ∈ m.stored → m.keys = [dataKey] →
    crypto.xchacha20poly1305.decrypt dataKey row.nonce row.aad row.ciphertext = some plaintext

/-- The rows are those of the stored secrets. -/
structure Filed (s : VaultSystem) : Prop where
  kept : ∀ row plaintext, (row, plaintext) ∈ s.memory.stored → s.vault.rows.secrets.get row.id = some row
  known : ∀ id row, s.vault.rows.secrets.get id = some row → ∃ plaintext, (row, plaintext) ∈ s.memory.stored

section
variable {autolockMs : Int} {e : VaultEvent}

theorem enforceAutolock_rows (v : VaultState) (now : Int) : (enforceAutolock autolockMs v now).rows = v.rows := by
  unfold enforceAutolock
  split <;> rfl

theorem insertSecret_ok {dek : Bytes} {kind : SecretKind} {label : String} {plaintext : Bytes} {id : String}
    {nonce : Random NONCE_LENGTH} {statement : Result Unit} {now : Int} {row : SecretRow} (hdek : dek.length = KEY_LENGTH)
    (h : insertSecret crypto v dek kind label plaintext id nonce statement now = .ok row) :
    row.id = id ∧ v.rows.secrets.get id = none ∧ row.aad = secretAad id kind ∧
      crypto.xchacha20poly1305.decrypt dek row.nonce row.aad row.ciphertext = some plaintext := by
  unfold insertSecret at h
  dsimp only at h
  rw [sealBox_eq _ hdek] at h
  obtain ⟨box, hbox, h⟩ := bind_ok.1 h
  obtain ⟨-, -, h⟩ := bind_ok.1 h
  obtain rfl := Except.ok.inj hbox
  by_cases hid : (v.rows.secrets.get id).isSome = true
  · rw [if_pos hid] at h
    cases h
  · rw [if_neg hid] at h
    obtain rfl := pure_ok.1 h
    exact ⟨rfl, by simpa using hid, rfl, crypto.xchacha20poly1305.decrypt_encrypt _ _ ((crypto.fits_iff _ _).2 ⟨hdek, nonce.2⟩)⟩

theorem KeySafe.read_dek (h : KeySafe crypto s.vault s.memory) {dek : Nat} (hd : s.vault.dek = some dek) :
    s.memory.keys = [read s.vault.heap dek] ∧ (read s.vault.heap dek).length = KEY_LENGTH := by
  obtain ⟨-, hk, -⟩ := h.held dek hd
  refine ⟨hk, ?_⟩
  rcases h.header with ⟨hno, -, -⟩ | ⟨d, q, header, hk', -, -, -, hw⟩
  · rw [hno] at hk
    cases hk
  · rw [hk] at hk'
    rw [(List.cons.inj hk').1]
    exact hw.key

theorem resume_secrets (crypto : Crypto) (v : VaultState) (f : Suspended) (w : Wake) (m : Memory) :
    (resume crypto v f w).1.rows.secrets = v.rows.secrets ∧ (remember m (resume crypto v f w).2).stored = m.stored := by
  unfold resume
  cases w.kdf with
  | error e => cases f <;> exact ⟨rfl, rfl⟩
  | ok u =>
    cases f with
    | initializing password params salt dek =>
      dsimp only
      unfold initializing
      cases insertHeader crypto v password params salt (read v.heap dek) w <;> exact ⟨rfl, rfl⟩
    | unlocking password header =>
      dsimp only
      unfold unlocking
      cases unwrap crypto header password <;> exact ⟨rfl, rfl⟩
    | opening current new params header =>
      dsimp only
      unfold opening
      cases unwrap crypto header current <;> exact ⟨rfl, rfl⟩
    | rewrapping new params salt oldKek dek =>
      dsimp only
      unfold rewrapping
      cases updateHeader crypto v new params salt (read v.heap dek) w <;> exact ⟨rfl, rfl⟩
    | verifying password header =>
      dsimp only
      unfold verifying
      cases unwrap crypto header password <;> exact ⟨rfl, rfl⟩

/-- **A call stores no secret** as it begins, or it stores one under a new id, sealed under the data key. -/
theorem start_secrets (h : KeySafe crypto s.vault s.memory) (now : Int) (c : VaultCall) :
    ((start crypto autolockMs s.vault now c).1.rows.secrets = s.vault.rows.secrets ∧
      (remember s.memory (start crypto autolockMs s.vault now c).2).stored = s.memory.stored) ∨
    ∃ row plaintext dataKey, (start crypto autolockMs s.vault now c).2 = .ends (.stored row plaintext) ∧
      (start crypto autolockMs s.vault now c).1.rows.secrets = s.vault.rows.secrets.put row ∧
      s.vault.rows.secrets.get row.id = none ∧ s.memory.keys = [dataKey] ∧
      crypto.xchacha20poly1305.decrypt dataKey row.nonce row.aad row.ciphertext = some plaintext := by
  cases c with
  | initializeVault password params salt dek =>
    refine .inl ?_
    show (initializeVault s.vault password params salt dek).1.rows.secrets = _ ∧
      (remember s.memory (initializeVault s.vault password params salt dek).2).stored = _
    unfold initializeVault
    split <;> exact ⟨rfl, rfl⟩
  | unlock password =>
    refine .inl ?_
    show (unlock s.vault password).1.rows.secrets = _ ∧ (remember s.memory (unlock s.vault password).2).stored = _
    unfold unlock
    split
    · exact ⟨rfl, rfl⟩
    · split <;> exact ⟨rfl, rfl⟩
  | changePassword current new params =>
    refine .inl ?_
    show (changePassword s.vault current new params).1.rows.secrets = _ ∧
      (remember s.memory (changePassword s.vault current new params).2).stored = _
    unfold changePassword
    split <;> exact ⟨rfl, rfl⟩
  | verifyPassword password =>
    refine .inl ?_
    show (verifyPassword s.vault password).1.rows.secrets = _ ∧ (remember s.memory (verifyPassword s.vault password).2).stored = _
    unfold verifyPassword
    split <;> exact ⟨rfl, rfl⟩
  | putSecret kind label plaintext id nonce statement =>
    unfold start ended putSecret
    rcases requireDek_cases autolockMs s.vault now with ⟨-, hreq⟩ | ⟨dek, -, hd, hreq⟩
    · rw [hreq]
      exact .inl ⟨congrArg VaultRows.secrets (enforceAutolock_rows _ _), rfl⟩
    · rw [hreq]
      dsimp only
      obtain ⟨hk, hlen⟩ := h.read_dek hd
      cases hi : insertSecret crypto (touch s.vault now) (read (touch s.vault now).heap dek) kind label plaintext id nonce
          statement now with
      | error e => exact .inl ⟨rfl, rfl⟩
      | ok row =>
        obtain ⟨hid, hnone, -, hopen⟩ := insertSecret_ok hlen hi
        refine .inr ⟨row, plaintext, _, rfl, rfl, ?_, hk, hopen⟩
        rw [hid]
        exact hnone
  | useSecret id =>
    refine .inl ?_
    unfold start ended useSecret
    rcases requireDek_cases autolockMs s.vault now with ⟨-, hreq⟩ | ⟨dek, -, hd, hreq⟩
    · rw [hreq]
      exact ⟨congrArg VaultRows.secrets (enforceAutolock_rows _ _), rfl⟩
    · rw [hreq]
      dsimp only
      cases openSecret crypto (touch s.vault now) (read (touch s.vault now).heap dek) id <;> exact ⟨rfl, rfl⟩
  | lock => exact .inl ⟨rfl, rfl⟩
  | timer =>
    refine .inl ⟨?_, rfl⟩
    show (if s.vault.armed then enforceAutolock autolockMs s.vault now else s.vault).rows.secrets = _
    split
    · rw [enforceAutolock_rows]
    · rfl

/-- **What an event does to the secrets**: nothing, or it stores one under a new id, sealed under the data key. -/
theorem turn_secrets (h : KeySafe crypto s.vault s.memory) (ht : turn crypto autolockMs s e = some (v, p)) :
    (v.rows.secrets = s.vault.rows.secrets ∧ (remember s.memory p).stored = s.memory.stored) ∨
    ∃ row plaintext dataKey, p = .ends (.stored row plaintext) ∧ v.rows.secrets = s.vault.rows.secrets.put row ∧
      s.vault.rows.secrets.get row.id = none ∧ s.memory.keys = [dataKey] ∧
      crypto.xchacha20poly1305.decrypt dataKey row.nonce row.aad row.ciphertext = some plaintext := by
  cases e with
  | wake k w =>
    obtain ⟨f, -, hr⟩ := Option.map_eq_some_iff.1 ht
    have hsame := resume_secrets crypto s.vault f w s.memory
    rw [hr] at hsame
    exact .inl hsame
  | call c now =>
    have hsecrets := @start_secrets crypto s autolockMs h now c
    rw [Option.some.inj (show some (start crypto autolockMs s.vault now c) = some (v, p) from ht)] at hsecrets
    exact hsecrets

theorem Issued.step (h : Issued crypto s.memory) (hs : Sound crypto s) :
    Issued crypto (vaultStep crypto autolockMs s e).memory := by
  unfold vaultStep
  cases ht : turn crypto autolockMs s e with
  | none => exact h
  | some vp =>
    obtain ⟨v, p⟩ := vp
    obtain ⟨own, hturn, -⟩ := turn_turn hs ht
    dsimp only
    rcases turn_secrets hs.keySafe ht with ⟨-, hstored⟩ | ⟨row, plaintext, d, rfl, -, -, hk, hopen⟩
    · refine ⟨fun hno => ?_, fun row plaintext d hmem hd => ?_⟩
      · rw [hstored]
        exact h.fresh (hturn.keys.elim (fun hk => hk.symm.trans hno) id)
      · rw [hstored] at hmem
        rcases hturn.keys with hk | hk
        · exact h.opens row plaintext d hmem (hk.symm.trans hd)
        · rw [h.fresh hk] at hmem
          cases hmem
    · have hsame : (remember s.memory (.ends (.stored row plaintext))).keys = s.memory.keys := rfl
      refine ⟨fun hno => ?_, fun row' plaintext' d' hmem hd => ?_⟩
      · rw [hsame, hk] at hno
        cases hno
      · rw [hsame] at hd
        rcases List.mem_append.1 hmem with hmem | hmem
        · exact h.opens row' plaintext' d' hmem hd
        · obtain ⟨rfl, rfl⟩ := Prod.mk.inj (List.mem_singleton.1 hmem)
          rw [hk] at hd
          rw [← (List.cons.inj hd).1]
          exact hopen

theorem Filed.step (h : Filed s) (hs : Sound crypto s) : Filed (vaultStep crypto autolockMs s e) := by
  unfold vaultStep
  cases ht : turn crypto autolockMs s e with
  | none => exact h
  | some vp =>
    obtain ⟨v, p⟩ := vp
    dsimp only
    rcases turn_secrets hs.keySafe ht with ⟨hrows, hstored⟩ | ⟨row, plaintext, d, rfl, hrows, hfree, -, -⟩
    · refine ⟨fun row plaintext hmem => ?_, fun id row hget => ?_⟩
      · rw [hstored] at hmem
        dsimp only
        rw [hrows]
        exact h.kept row plaintext hmem
      · dsimp only at hget
        rw [hrows] at hget
        rw [hstored]
        exact h.known id row hget
    · refine ⟨fun row' plaintext' hmem => ?_, fun id row' hget => ?_⟩
      · dsimp only
        rw [hrows, Table.get_put]
        rcases List.mem_append.1 hmem with hmem | hmem
        · have hne : row'.id ≠ row.id := by
            intro hid
            have hget := h.kept row' plaintext' hmem
            rw [hid, hfree] at hget
            cases hget
          rw [if_neg hne]
          exact h.kept row' plaintext' hmem
        · obtain ⟨rfl, -⟩ := Prod.mk.inj (List.mem_singleton.1 hmem)
          rw [if_pos rfl]
      · dsimp only at hget
        rw [hrows, Table.get_put] at hget
        by_cases hid : id = row.id
        · rw [if_pos hid] at hget
          obtain rfl := Option.some.inj hget
          exact ⟨plaintext, List.mem_append_right _ (List.mem_singleton_self _)⟩
        · rw [if_neg hid] at hget
          obtain ⟨plaintext', hmem⟩ := h.known id row' hget
          exact ⟨plaintext', List.mem_append_left _ hmem⟩

theorem reached_filed (es : List VaultEvent) :
    Issued crypto (reached crypto autolockMs es).memory ∧ Filed (reached crypto autolockMs es) := by
  refine (@invariant _ _ (vaultStep crypto autolockMs) newVault
    (fun s => Sound crypto s ∧ Issued crypto s.memory ∧ Filed s) ⟨newVault_sound, ?_, ?_⟩ ?_ es).2
  · exact ⟨fun _ => rfl, fun row plaintext d hmem => absurd hmem List.not_mem_nil⟩
  · refine ⟨fun row plaintext hmem => absurd hmem List.not_mem_nil, fun id row hget => ?_⟩
    cases hget
  · rintro s e ⟨hs, hi, hf⟩
    exact ⟨hs.step e, hi.step hs, hf.step hs⟩

end

/-! ## Calls that throw -/

section
variable {autolockMs now : Int} {e : VaultEvent} {v' : VaultState}

theorem isUnlocked_eq (v : VaultState) (now : Int) : isUnlocked autolockMs v now = (v.dek.isSome && !idle autolockMs v now) := by
  unfold isUnlocked enforceAutolock
  by_cases hidle : idle autolockMs v now = true
  · rw [if_pos hidle, hidle]
    show false = (v.dek.isSome && false)
    rw [Bool.and_false]
  · rw [if_neg hidle]
    simp only [Bool.not_eq_true] at hidle
    rw [hidle]
    show v.dek.isSome = (v.dek.isSome && true)
    rw [Bool.and_true]

/-- The rows and whether the vault is unlocked are what they were. -/
def Unmoved (autolockMs now : Int) (v v' : VaultState) : Prop :=
  v'.rows = v.rows ∧ isUnlocked autolockMs v' now = isUnlocked autolockMs v now

theorem Unmoved.of_eq (hrows : v'.rows = v.rows) (hdek : v'.dek = v.dek) (hused : v'.lastUsedAt = v.lastUsedAt) :
    Unmoved autolockMs now v v' := by
  refine ⟨hrows, ?_⟩
  rw [isUnlocked_eq, isUnlocked_eq]
  unfold idle
  rw [hdek, hused]

theorem enforceAutolock_unmoved (v : VaultState) (now : Int) (hlocked : isUnlocked autolockMs v now = false) :
    Unmoved autolockMs now v (enforceAutolock autolockMs v now) := by
  refine ⟨enforceAutolock_rows v now, ?_⟩
  have hdek : (enforceAutolock autolockMs v now).dek = none := by
    unfold isUnlocked at hlocked
    simpa using hlocked
  rw [hlocked, isUnlocked_eq, hdek]
  rfl

theorem touch_unmoved (hpos : 0 < autolockMs) (v : VaultState) (now : Int) (hopen : isUnlocked autolockMs v now = true) :
    Unmoved autolockMs now v (touch v now) := by
  refine ⟨rfl, ?_⟩
  rw [hopen]
  rw [isUnlocked_eq, Bool.and_eq_true] at hopen
  rw [isUnlocked_eq]
  obtain ⟨dek, hd⟩ := Option.isSome_iff_exists.1 hopen.1
  have hidle : idle autolockMs (touch v now) now = false := by
    unfold idle touch
    rw [hd]
    exact decide_eq_false (by omega)
  rw [hidle]
  show (v.dek.isSome && true) = true
  rw [hopen.1]
  rfl

theorem start_unmoved (hpos : 0 < autolockMs) (v : VaultState) (now : Int) (c : VaultCall) {error : AppError}
    (h : (start crypto autolockMs v now c).2 = .ends (.threw error)) :
    Unmoved autolockMs now v (start crypto autolockMs v now c).1 := by
  have hself : Unmoved autolockMs now v v := ⟨rfl, rfl⟩
  cases c with
  | initializeVault password params salt dek =>
    unfold start initializeVault at h ⊢
    dsimp only at h ⊢
    by_cases hi : isInitialized v = true
    · rw [if_pos hi]
      exact hself
    · rw [if_neg hi] at h
      cases h
  | unlock password =>
    unfold start unlock
    dsimp only
    split
    · exact hself
    · split <;> exact hself
  | changePassword current new params =>
    unfold start changePassword
    dsimp only
    split <;> exact hself
  | verifyPassword password =>
    unfold start verifyPassword
    dsimp only
    split <;> exact hself
  | putSecret kind label plaintext id nonce statement =>
    unfold start ended putSecret at h ⊢
    rcases requireDek_cases autolockMs v now with ⟨hlocked, hreq⟩ | ⟨dek, hopen, -, hreq⟩
    · rw [hreq]
      exact enforceAutolock_unmoved v now hlocked
    · rw [hreq] at h ⊢
      dsimp only at h ⊢
      cases hi : insertSecret crypto (touch v now) (read (touch v now).heap dek) kind label plaintext id nonce statement now with
      | error e => exact touch_unmoved hpos v now hopen
      | ok row =>
        rw [hi] at h
        cases h
  | useSecret id =>
    unfold start ended useSecret
    rcases requireDek_cases autolockMs v now with ⟨hlocked, hreq⟩ | ⟨dek, hopen, -, hreq⟩
    · rw [hreq]
      exact enforceAutolock_unmoved v now hlocked
    · rw [hreq]
      dsimp only
      cases openSecret crypto (touch v now) (read (touch v now).heap dek) id <;> exact touch_unmoved hpos v now hopen
  | lock => cases h
  | timer => cases h

theorem abandon_unmoved (v : VaultState) (f : Suspended) : Unmoved autolockMs now v (abandon v f) := by
  cases f <;> exact Unmoved.of_eq rfl rfl rfl

/-- **A call that goes on and throws moves nothing**, unless it is an `initialize` that finds the vault unlocked. -/
theorem resume_unmoved (v : VaultState) (f : Suspended) (w : Wake) {error : AppError}
    (h : (resume crypto v f w).2 = .ends (.threw error))
    (hlate : ∀ password params salt dek, f = .initializing password params salt dek → w.kdf = .ok () →
      isUnlocked autolockMs v now = false) : Unmoved autolockMs now v (resume crypto v f w).1 := by
  unfold resume at h ⊢
  cases hkdf : w.kdf with
  | error e => exact abandon_unmoved v f
  | ok u =>
    rw [hkdf] at h
    dsimp only at h ⊢
    cases f with
    | initializing password params salt dek =>
      dsimp only at h ⊢
      unfold initializing at h ⊢
      cases hi : insertHeader crypto v password params salt (read v.heap dek) w with
      | error e =>
        refine ⟨rfl, ?_⟩
        rw [hlate password params salt dek rfl hkdf, isUnlocked_eq]
        rfl
      | ok header =>
        rw [hi] at h
        cases h
    | unlocking password header =>
      dsimp only at h ⊢
      unfold unlocking at h ⊢
      cases hu : unwrap crypto header password with
      | error e => exact ⟨rfl, rfl⟩
      | ok dek =>
        rw [hu] at h
        cases h
    | opening current new params header =>
      dsimp only at h ⊢
      unfold opening at h ⊢
      cases hu : unwrap crypto header current with
      | error e => exact ⟨rfl, rfl⟩
      | ok dek =>
        rw [hu] at h
        cases h
    | rewrapping new params salt oldKek dek =>
      dsimp only at h ⊢
      unfold rewrapping at h ⊢
      cases hu : updateHeader crypto v new params salt (read v.heap dek) w with
      | error e => exact Unmoved.of_eq rfl rfl rfl
      | ok updated =>
        rw [hu] at h
        cases h
    | verifying password header =>
      dsimp only at h ⊢
      unfold verifying
      cases unwrap crypto header password <;> exact ⟨rfl, rfl⟩

theorem step_unmoved (hpos : 0 < autolockMs) {error : AppError} (hthrew : outcome crypto autolockMs s e = some (.threw error))
    (hlate : Intrudes autolockMs s e = false) :
    Unmoved autolockMs (eventTime e) s.vault (vaultStep crypto autolockMs s e).vault := by
  unfold outcome at hthrew
  unfold vaultStep
  cases ht : turn crypto autolockMs s e with
  | none => exact ⟨rfl, rfl⟩
  | some vp =>
    obtain ⟨v, p⟩ := vp
    rw [ht] at hthrew
    cases p with
    | waits f => cases hthrew
    | ends o =>
      obtain rfl := Option.some.inj hthrew
      dsimp only
      cases e with
      | call c now =>
        have hst : start crypto autolockMs s.vault now c = (v, .ends (.threw error)) := Option.some.inj ht
        have hmoved := start_unmoved hpos s.vault now c (congrArg Prod.snd hst)
        rw [hst] at hmoved
        exact hmoved
      | wake k w =>
        obtain ⟨f, hf, hr⟩ := Option.map_eq_some_iff.1 ht
        have hmoved := @resume_unmoved crypto autolockMs w.now s.vault f w _ (congrArg Prod.snd hr) fun password params salt dek hfi hkdf => by
          unfold Intrudes at hlate
          dsimp only at hlate
          rw [hf, hfi] at hlate
          dsimp only at hlate
          rw [hkdf] at hlate
          exact hlate
        rw [hr] at hmoved
        exact hmoved

/-- **Too late an `initialize` locks the vault**, and throws. -/
theorem intrudes_locks (hs : Sound crypto s) (h : Intrudes autolockMs s e = true) :
    (∃ error, outcome crypto autolockMs s e = some (.threw error)) ∧
    isUnlocked autolockMs s.vault (eventTime e) = true ∧
    isUnlocked autolockMs (vaultStep crypto autolockMs s e).vault (eventTime e) = false := by
  cases e with
  | call c now => cases h
  | wake k w =>
    unfold Intrudes at h
    dsimp only at h
    cases hf : frameAt s k with
    | none =>
      rw [hf] at h
      cases h
    | some f =>
      rw [hf] at h
      cases f with
      | initializing password params salt dek =>
        obtain ⟨hok, hopen⟩ := Bool.and_eq_true_iff.1 h
        have hkdf : w.kdf = .ok () := by
          cases hk : w.kdf with
          | ok u => rfl
          | error e =>
            rw [hk] at hok
            cases hok
        have hheader : s.vault.rows.header ≠ none := by
          intro hno
          rw [isUnlocked_eq, Bool.and_eq_true] at hopen
          obtain ⟨held, hd⟩ := Option.isSome_iff_exists.1 hopen.1
          rcases hs.keySafe.header with ⟨hk, -, -⟩ | ⟨_, _, header, -, -, hh, -, -⟩
          · rw [(hs.keySafe.read_dek hd).1] at hk
            cases hk
          · rw [hno] at hh
            cases hh
        have hresume : ∃ error, resume crypto s.vault (.initializing password params salt dek) w =
            ({ s.vault with heap := wipe s.vault.heap dek, dek := none }, .ends (.threw error)) := by
          unfold resume
          rw [hkdf]
          dsimp only
          unfold initializing
          cases hi : insertHeader crypto s.vault password params salt (read s.vault.heap dek) w with
          | error e => exact ⟨e, rfl⟩
          | ok header => exact absurd (insertHeader_ok (hs.owned.frame k _ hf) hi).1 hheader
        obtain ⟨error, hresume⟩ := hresume
        have ht : turn crypto autolockMs s (.wake k w) =
            some ({ s.vault with heap := wipe s.vault.heap dek, dek := none }, .ends (.threw error)) := by
          show (frameAt s k).map (fun frame => resume crypto s.vault frame w) = _
          rw [hf, Option.map_some, hresume]
        refine ⟨⟨error, ?_⟩, hopen, ?_⟩
        · unfold outcome
          rw [ht]
        · unfold vaultStep
          rw [ht, isUnlocked_eq]
          rfl
      | unlocking password header => cases h
      | opening current new params header => cases h
      | rewrapping new params salt oldKek dek => cases h
      | verifying password header => cases h

end

/-! ## Calls that open the header -/

section
variable {autolockMs now : Int} {w : Wake} {password : String} {header : VaultHeaderRow} {mid : List VaultEvent}

theorem frameAt_called {c : VaultCall} (hstart : start crypto autolockMs s.vault now c = (v, .waits f))
    (hmid : ∀ w', VaultEvent.wake s.calls.length w' ∉ mid) :
    frameAt (after (vaultStep crypto autolockMs) (vaultStep crypto autolockMs s (.call c now)) mid) s.calls.length = some f := by
  have hstep : vaultStep crypto autolockMs s (.call c now) = ⟨v, s.calls ++ [some f], s.memory⟩ := by
    unfold vaultStep
    rw [show turn crypto autolockMs s (.call c now) = some (start crypto autolockMs s.vault now c) from rfl, hstart]
    rfl
  have hlt : s.calls.length < (vaultStep crypto autolockMs s (.call c now)).calls.length := by
    rw [hstep, List.length_append, List.length_singleton]
    exact Nat.lt_succ_self _
  rw [frameAt_after hlt mid hmid, hstep, frameAt_append, if_pos rfl]

theorem outcome_wake {o : Outcome} (hf : frameAt s k = some f) (hr : resume crypto s.vault f w = (v, .ends o)) :
    outcome crypto autolockMs s (.wake k w) = some o := by
  unfold outcome
  rw [show turn crypto autolockMs s (.wake k w) = (frameAt s k).map fun frame => resume crypto s.vault frame w from rfl, hf,
    Option.map_some, hr]

theorem unlock_waits (hs : KeySafe crypto s.vault s.memory)
    (hnone : outcome crypto autolockMs s (.call (.unlock password) now) = none) :
    ∃ header dataKey current, s.memory.password = some current ∧ Wraps crypto header current dataKey ∧
      start crypto autolockMs s.vault now (.unlock password) = (s.vault, .waits (.unlocking password header)) := by
  unfold outcome turn start unlock at hnone
  cases hh : s.vault.rows.header with
  | none =>
    rw [hh] at hnone
    cases hnone
  | some header =>
    obtain ⟨hv, d, q, -, hq, hw⟩ := hs.wraps hh
    refine ⟨header, d, q, hq, hw, ?_⟩
    unfold start unlock
    rw [hh]
    dsimp only
    rw [if_neg (not_not_intro hv)]

theorem verify_waits (hs : KeySafe crypto s.vault s.memory)
    (hnone : outcome crypto autolockMs s (.call (.verifyPassword password) now) = none) :
    ∃ header dataKey current, s.memory.password = some current ∧ Wraps crypto header current dataKey ∧
      start crypto autolockMs s.vault now (.verifyPassword password) = (s.vault, .waits (.verifying password header)) := by
  unfold outcome turn start verifyPassword at hnone
  cases hh : s.vault.rows.header with
  | none =>
    rw [hh] at hnone
    cases hnone
  | some header =>
    obtain ⟨-, d, q, -, hq, hw⟩ := hs.wraps hh
    refine ⟨header, d, q, hq, hw, ?_⟩
    unfold start verifyPassword
    rw [hh]

/-- **An `unlock` that has its key succeeds on the password the header it read was wrapped under.** -/
theorem unlocking_iff {current : String} {dataKey : Bytes} (hf : frameAt s k = some (.unlocking password header))
    (hkdf : w.kdf = .ok ()) (hw : Wraps crypto header current dataKey) :
    outcome crypto autolockMs s (.wake k w) = some .unlocked ↔ crypto.normalize password = crypto.normalize current := by
  rw [← hw.unwrap_isOk_iff]
  have hresume : resume crypto s.vault (.unlocking password header) w = unlocking crypto s.vault password header w := by
    unfold resume
    rw [hkdf]
  unfold unlocking at hresume
  cases hu : unwrap crypto header password with
  | error e =>
    rw [hu] at hresume
    rw [outcome_wake hf hresume]
    constructor
    · intro h
      cases h
    · rintro ⟨d, hd⟩
      cases hd
  | ok dek =>
    rw [hu] at hresume
    rw [outcome_wake hf hresume]
    exact ⟨fun _ => ⟨dek, rfl⟩, fun _ => rfl⟩

/-- **So does a `verifyPassword`**: the key it unwraps is the one the vault holds, if it holds one. -/
theorem verifying_iff (hs : Sound crypto s) {current : String} {dataKey : Bytes}
    (hf : frameAt s k = some (.verifying password header)) (hkdf : w.kdf = .ok ()) (hw : Wraps crypto header current dataKey) :
    outcome crypto autolockMs s (.wake k w) = some (.verified true) ↔
      crypto.normalize password = crypto.normalize current := by
  rw [← hw.unwrap_isOk_iff]
  have hresume : resume crypto s.vault (.verifying password header) w = verifying crypto s.vault password header := by
    unfold resume
    rw [hkdf]
  unfold verifying at hresume
  cases hu : unwrap crypto header password with
  | error e =>
    rw [hu] at hresume
    rw [outcome_wake hf hresume]
    constructor
    · intro h
      cases h
    · rintro ⟨d, hd⟩
      cases hd
  | ok dek =>
    rw [hu] at hresume
    have hsame : sameDek s.vault dek = true := by
      obtain ⟨d, q, hk, hw'⟩ := hs.owned.frame k _ hf
      obtain ⟨-, rfl⟩ := hw'.unwrap_iff.1 hu
      unfold sameDek
      cases hd : s.vault.dek with
      | none => rfl
      | some held =>
        have hkeys := (hs.keySafe.read_dek hd).1
        rw [hk] at hkeys
        exact decide_eq_true (List.cons.inj hkeys).1.symm
    rw [outcome_wake hf hresume, hsame]
    exact ⟨fun _ => ⟨dek, rfl⟩, fun _ => rfl⟩

theorem reached_append (pre : List VaultEvent) (e : VaultEvent) (mid : List VaultEvent) :
    reached crypto autolockMs (pre ++ e :: mid) =
      after (vaultStep crypto autolockMs) (vaultStep crypto autolockMs (reached crypto autolockMs pre) e) mid := by
  unfold reached after
  rw [List.foldl_append, List.foldl_cons]

end

/-! ## Whole histories -/

section
variable {autolockMs now : Int} {id : String}

theorem outcome_useSecret : outcome crypto autolockMs s (.call (.useSecret id) now) =
    some (useSecret crypto autolockMs s.vault id now).2 := rfl

/-- **A `useSecret`** that finds the vault unlocked opens the row of its id under the data key. -/
theorem useSecret_outcome (hs : KeySafe crypto s.vault s.memory) : outcome crypto autolockMs s (.call (.useSecret id) now) =
      some (.threw vaultLocked) ∧ isUnlocked autolockMs s.vault now = false ∨
    isUnlocked autolockMs s.vault now = true ∧ ∃ dataKey, s.memory.keys = [dataKey] ∧ dataKey.length = KEY_LENGTH ∧
      ((∃ error, openSecret crypto s.vault dataKey id = .error error ∧
          outcome crypto autolockMs s (.call (.useSecret id) now) = some (.threw error)) ∨
        ∃ plaintext, openSecret crypto s.vault dataKey id = .ok plaintext ∧
          outcome crypto autolockMs s (.call (.useSecret id) now) = some (.passed id plaintext)) := by
  rw [outcome_useSecret]
  unfold useSecret
  rcases requireDek_cases autolockMs s.vault now with ⟨hlocked, hreq⟩ | ⟨dek, hopen, hd, hreq⟩
  · rw [hreq]
    exact .inl ⟨rfl, hlocked⟩
  · obtain ⟨hk, hlen⟩ := hs.read_dek hd
    rw [hreq]
    refine .inr ⟨hopen, read s.vault.heap dek, hk, hlen, ?_⟩
    dsimp only
    have hsame : openSecret crypto (touch s.vault now) (read (touch s.vault now).heap dek) id =
        openSecret crypto s.vault (read s.vault.heap dek) id := rfl
    rw [hsame]
    cases openSecret crypto s.vault (read s.vault.heap dek) id with
    | error e => exact .inl ⟨e, rfl, rfl⟩
    | ok p => exact .inr ⟨p, rfl, rfl⟩

theorem openSecret_ok {dataKey plaintext : Bytes} (hlen : dataKey.length = KEY_LENGTH) :
    openSecret crypto v dataKey id = .ok plaintext ↔ ∃ row, v.rows.secrets.get id = some row ∧
      crypto.xchacha20poly1305.decrypt dataKey row.nonce row.aad row.ciphertext = some plaintext := by
  unfold openSecret
  cases hget : v.rows.secrets.get id with
  | none =>
    constructor
    · intro h
      cases h
    · rintro ⟨row, h, -⟩
      cases h
  | some row =>
    dsimp only
    rw [openBox_ok hlen]
    exact ⟨fun h => ⟨row, rfl, h⟩, fun ⟨row', h, hd⟩ => by rw [Option.some.inj h]; exact hd⟩

end

end

/-- **A vault keeps to its law in just the histories in which no `initialize` comes too late**: after any calls by any number
of callers, whatever the order in which their keys come back. -/
theorem vaultLawful_iff (crypto : Crypto) (autolock : Autolock) (es : List VaultEvent) : VaultLawful crypto autolock es ↔
    Along (vaultStep crypto autolock.ms) (fun s e => Intrudes autolock.ms s e = false) newVault es := by
  rw [along_iff]
  have hsound : ∀ pre, Sound crypto (reached crypto autolock.ms pre) := reached_sound
  constructor
  · intro h pre e post hes
    by_contra hno
    obtain ⟨⟨error, hthrew⟩, hopen, hlocked⟩ := intrudes_locks (hsound pre) (eq_true_of_ne_false hno)
    have hsame := (h.throws pre e post error hes hthrew).2
    rw [hopen, show reached crypto autolock.ms (pre ++ [e]) = vaultStep crypto autolock.ms (reached crypto autolock.ms pre) e from
      after_snoc, hlocked] at hsame
    cases hsame
  · intro h
    refine ⟨fun pre post _ => (hsound pre).keySafe.header, ?_, ?_, ?_, ?_, ?_⟩
    · intro pre password now mid w post s e hes hnone hwoken
      obtain ⟨header, d, q, hq, hw, hstart⟩ := unlock_waits (hsound pre).keySafe hnone
      have hf := frameAt_called hstart hwoken.2
      rw [← reached_append] at hf
      rw [unlocking_iff hf hwoken.1 hw]
      exact ⟨fun hp => ⟨q, hq, hp⟩, fun ⟨q', hq', hp⟩ => by rw [Option.some.inj (hq.symm.trans hq')]; exact hp⟩
    · intro pre password now mid w post s e hes hnone hwoken
      obtain ⟨header, d, q, hq, hw, hstart⟩ := verify_waits (hsound pre).keySafe hnone
      have hf := frameAt_called hstart hwoken.2
      rw [← reached_append] at hf
      rw [verifying_iff (hsound _) hf hwoken.1 hw]
      exact ⟨fun hp => ⟨q, hq, hp⟩, fun ⟨q', hq', hp⟩ => by rw [Option.some.inj (hq.symm.trans hq')]; exact hp⟩
    · intro pre id now post row plaintext hes hmem hid hopen
      obtain ⟨hissued, hfiled⟩ := @reached_filed crypto autolock.ms pre
      rcases @useSecret_outcome crypto _ autolock.ms now id (hsound pre).keySafe with ⟨-, hlocked⟩ | ⟨-, d, hk, hlen, hcase⟩
      · rw [hopen] at hlocked
        cases hlocked
      · have hget := hfiled.kept row plaintext hmem
        rw [hid] at hget
        have hok := (openSecret_ok hlen).2 ⟨row, hget, hissued.opens row plaintext d hmem hk⟩
        rcases hcase with ⟨error, herr, -⟩ | ⟨p, hp, hout⟩
        · rw [hok] at herr
          cases herr
        · rw [hok] at hp
          rw [hout, Except.ok.inj hp]
    · intro pre id now post plaintext hes hout
      obtain ⟨hissued, hfiled⟩ := @reached_filed crypto autolock.ms pre
      rcases @useSecret_outcome crypto _ autolock.ms now id (hsound pre).keySafe with ⟨hthrew, -⟩ | ⟨-, d, hk, hlen, hcase⟩
      · rw [hthrew] at hout
        cases hout
      · rcases hcase with ⟨error, -, herr⟩ | ⟨p, hp, hpassed⟩
        · rw [herr] at hout
          cases hout
        · rw [hpassed] at hout
          obtain ⟨-, rfl⟩ := Outcome.passed.inj (Option.some.inj hout)
          obtain ⟨row, hget, hdec⟩ := (openSecret_ok hlen).1 hp
          obtain ⟨plaintext', hmem⟩ := hfiled.known id row hget
          rw [hissued.opens row plaintext' d hmem hk] at hdec
          rw [← Option.some.inj hdec]
          exact ⟨row, hmem, Table.key_of_get hget⟩
    · intro pre e post error hes hthrew
      rw [show reached crypto autolock.ms (pre ++ [e]) = vaultStep crypto autolock.ms (reached crypto autolock.ms pre) e from
        after_snoc]
      exact step_unmoved autolock.positive hthrew (h pre e post hes)

/-! ### Two setups at once -/

def zeros (n : Nat) : Random n := ⟨List.replicate n 0, List.length_replicate⟩

def ones (n : Nat) : Random n := ⟨List.replicate n 1, List.length_replicate⟩

def testKdf : KdfParams := ⟨8, 1, 1⟩

def halfHour : Autolock := ⟨30 * 60000, by decide⟩

def derivedAt (now : Int) : Wake := ⟨.ok (), zeros _, zeros _, .ok (), now⟩

/-- The second `initialize` began before the first had its key, and has its own after it. -/
def twoSetups : List VaultEvent :=
  [.call (.initializeVault "correct horse" testKdf (zeros _) (ones _)) 0,
    .call (.initializeVault "battery staple" testKdf (ones _) (zeros _)) 5, .wake 0 (derivedAt 1500), .wake 1 (derivedAt 1505)]

/-- **It throws, and locks the vault the first one left open.** -/
theorem twoSetups_not_lawful : ¬ VaultLawful clearCrypto halfHour twoSetups := by
  intro h
  have hlate : Intrudes halfHour.ms (reached clearCrypto halfHour.ms (twoSetups.take 3)) (.wake 1 (derivedAt 1505)) = true := by
    decide +kernel
  obtain ⟨⟨error, hthrew⟩, hopen, hlocked⟩ := intrudes_locks (reached_sound _) hlate
  have hsame := (h.throws (twoSetups.take 3) (.wake 1 (derivedAt 1505)) [] error rfl hthrew).2
  rw [show reached clearCrypto halfHour.ms (twoSetups.take 3 ++ [.wake 1 (derivedAt 1505)]) =
    vaultStep clearCrypto halfHour.ms (reached clearCrypto halfHour.ms (twoSetups.take 3)) (.wake 1 (derivedAt 1505)) from
    after_snoc, hopen, hlocked] at hsame
  cases hsame

end Vault
end Atra