import Atra.VaultHistory
/-!
# VaultSlots — a vault whose rows were edited

Someone without the data key overwrites rows of `vault_secrets`.  Such rows hold no box that was not issued (`Unforged`), but
they may hold an issued one under another id: `useSecret` opens a row with the associated data of the row itself, so it hands
out the secret of that box.
-/
namespace Atra
namespace Vault

open Money Buffers History

inductive TamperEvent where
  | vault (e : VaultEvent)
  /-- The table is replaced. -/
  | edit (table : Table SecretRow.id)
  /-- The process starts again on the rows. -/
  | restart

def tamperStep (crypto : Crypto) (autolockMs : Int) (s : VaultSystem) : TamperEvent → VaultSystem
  | .vault e => vaultStep crypto autolockMs s e
  | .edit table => { s with vault := { s.vault with rows := { s.vault.rows with secrets := table } } }
  | .restart => restartVault s

def tampered (crypto : Crypto) (autolockMs : Int) (es : List TamperEvent) : VaultSystem :=
  after (tamperStep crypto autolockMs) newVault es

/-- Two rows hold the same box, with the same associated data. -/
structure SameBox (issued row : SecretRow) : Prop where
  nonce : issued.nonce = row.nonce
  aad : issued.aad = row.aad
  ciphertext : issued.ciphertext = row.ciphertext

def opensUnder (crypto : Crypto) (row : SecretRow) (dataKey : Bytes) : Bool :=
  (crypto.xchacha20poly1305.decrypt dataKey row.nonce row.aad row.ciphertext).isSome

/-- An edit comes after the data key, and its rows open under it with issued boxes only. -/
def Unforged (crypto : Crypto) (s : VaultSystem) : TamperEvent → Prop
  | .edit table => s.memory.keys ≠ [] ∧ ∀ row ∈ table.rows, ∀ dataKey ∈ s.memory.keys, opensUnder crypto row dataKey = true →
      ∃ issued ∈ s.memory.stored, SameBox issued.1 row
  | _ => True

/-- `useSecret` throws, or hands out what was stored under the id. -/
def InSlot (crypto : Crypto) (autolockMs : Int) (s : VaultSystem) (id : String) (now : Int) : Prop :=
  (∃ error, outcome crypto autolockMs s (.call (.useSecret id) now) = some (.threw error)) ∨
  ∃ row plaintext, outcome crypto autolockMs s (.call (.useSecret id) now) = some (.passed id plaintext) ∧
    (row, plaintext) ∈ s.memory.stored ∧ row.id = id

/-- The row under an id does not hold the box of another id's secret, unless the two secrets are the same. -/
def OwnSlot (s : VaultSystem) (id : String) : Prop :=
  ∀ row, s.vault.rows.secrets.get id = some row → ∀ issued plaintext, (issued, plaintext) ∈ s.memory.stored →
    SameBox issued row → ∃ own, (own, plaintext) ∈ s.memory.stored ∧ own.id = id

/-- What edits leave: the keys are sound, the issued boxes open, and what opens was issued. -/
structure Guarded (crypto : Crypto) (s : VaultSystem) : Prop where
  sound : Sound crypto s
  issued : Issued crypto s.memory
  empty : s.memory.keys = [] → s.vault.rows.secrets.rows = []
  unforged : ∀ row ∈ s.vault.rows.secrets.rows, ∀ dataKey, s.memory.keys = [dataKey] → opensUnder crypto row dataKey = true →
    ∃ issued ∈ s.memory.stored, SameBox issued.1 row

section
variable {crypto : Crypto} {autolockMs now : Int} {s : VaultSystem} {id : String}

theorem mem_put {table : Table SecretRow.id} {row x : SecretRow} (h : x ∈ (table.put row).rows) : x = row ∨ x ∈ table.rows := by
  have hget := Table.get_key_of_mem h
  rw [Table.get_put] at hget
  by_cases hx : x.id = row.id
  · rw [if_pos hx] at hget
    exact .inl (Option.some.inj hget).symm
  · rw [if_neg hx] at hget
    exact .inr (Table.mem_of_get hget)

theorem Guarded.vault (h : Guarded crypto s) (e : VaultEvent) : Guarded crypto (vaultStep crypto autolockMs s e) := by
  refine ⟨h.sound.step e, h.issued.step h.sound, ?_, ?_⟩
  · unfold vaultStep
    cases ht : turn crypto autolockMs s e with
    | none => exact h.empty
    | some vp =>
      obtain ⟨v, p⟩ := vp
      obtain ⟨own, hturn, -⟩ := turn_turn h.sound ht
      intro hno
      have hkeys : s.memory.keys = [] := hturn.keys.elim (fun hk => hk.symm.trans hno) fun hk => hk
      rcases turn_secrets h.sound.keySafe ht with ⟨hrows, -⟩ | ⟨row, plaintext, d, -, -, -, hk, -⟩
      · dsimp only
        rw [hrows]
        exact h.empty hkeys
      · rw [hkeys] at hk
        cases hk
  · unfold vaultStep
    cases ht : turn crypto autolockMs s e with
    | none => exact h.unforged
    | some vp =>
      obtain ⟨v, p⟩ := vp
      obtain ⟨own, hturn, -⟩ := turn_turn h.sound ht
      intro row hrow d hd hopen
      dsimp only at hrow hd ⊢
      rcases turn_secrets h.sound.keySafe ht with ⟨hrows, hstored⟩ | ⟨row', plaintext, d', rfl, hrows, -, hk, -⟩
      · rw [hrows] at hrow
        rw [hstored]
        rcases hturn.keys with hk | hk
        · exact h.unforged row hrow d (hk.symm.trans hd) hopen
        · rw [h.empty hk] at hrow
          cases hrow
      · rw [hrows] at hrow
        rcases mem_put hrow with rfl | hrow
        · exact ⟨(row, plaintext), List.mem_append_right _ (List.mem_singleton_self _), rfl, rfl, rfl⟩
        · obtain ⟨issued, hmem, hsame⟩ := h.unforged row hrow d hd hopen
          exact ⟨issued, List.mem_append_left _ hmem, hsame⟩

theorem Guarded.edit (h : Guarded crypto s) {table : Table SecretRow.id} (hedit : Unforged crypto s (.edit table)) :
    Guarded crypto (tamperStep crypto autolockMs s (.edit table)) := by
  refine ⟨⟨⟨h.sound.keySafe.header, h.sound.keySafe.held⟩, h.sound.owned.frame, h.sound.owned.buffer, h.sound.owned.apart⟩,
    h.issued, fun hno => absurd hno hedit.1, fun row hrow d hd hopen => ?_⟩
  have hmem : d ∈ s.memory.keys := by
    rw [show s.memory.keys = [d] from hd]
    exact List.mem_singleton_self _
  exact hedit.2 row hrow d hmem hopen

theorem Guarded.restart (h : Guarded crypto s) : Guarded crypto (tamperStep crypto autolockMs s .restart) :=
  ⟨h.sound.restart, h.issued, h.empty, h.unforged⟩

/-- **No edit breaks the guard.** -/
theorem tampered_guarded {es : List TamperEvent} (h : Along (tamperStep crypto autolockMs) (Unforged crypto) newVault es) :
    Guarded crypto (tampered crypto autolockMs es) := by
  unfold tampered
  induction es using List.reverseRecOn with
  | nil =>
    refine ⟨newVault_sound, ⟨fun _ => rfl, fun row plaintext d hmem => absurd hmem List.not_mem_nil⟩, fun _ => rfl, ?_⟩
    exact fun row hrow => absurd hrow List.not_mem_nil
  | append_singleton es e ih =>
    obtain ⟨hes, he⟩ := along_snoc.1 h
    have hg := ih hes
    rw [after_snoc]
    cases e with
    | vault e => exact hg.vault e
    | edit table => exact hg.edit he
    | restart => exact hg.restart

/-- **A use of a secret is in its slot in just the case that the row is**, while the vault is unlocked. -/
theorem inSlot_iff (h : Guarded crypto s) : InSlot crypto autolockMs s id now ↔
    (isUnlocked autolockMs s.vault now = true → OwnSlot s id) := by
  rcases @useSecret_outcome crypto s autolockMs now id h.sound.keySafe with ⟨hthrew, hlocked⟩ | ⟨hopen, d, hk, hlen, hcase⟩
  · rw [hlocked]
    exact ⟨fun _ hno => absurd hno Bool.false_ne_true, fun _ => .inl ⟨_, hthrew⟩⟩
  · -- a row with an issued box opens to the secret the box was issued for
    have hissued : ∀ issued plaintext row, (issued, plaintext) ∈ s.memory.stored → SameBox issued row →
        crypto.xchacha20poly1305.decrypt d row.nonce row.aad row.ciphertext = some plaintext := by
      intro issued plaintext row hmem hsame
      rw [← hsame.nonce, ← hsame.aad, ← hsame.ciphertext]
      exact h.issued.opens issued plaintext d hmem hk
    constructor
    · intro hslot _ row hrow issued plaintext hmem hsame
      have hok := (openSecret_ok hlen).2 ⟨row, hrow, hissued issued plaintext row hmem hsame⟩
      rcases hcase with ⟨error, herr, -⟩ | ⟨p, hp, hout⟩
      · rw [hok] at herr
        cases herr
      · rw [hok] at hp
        rcases hslot with ⟨error, hthrew⟩ | ⟨own, p', hpassed, hown, hid⟩
        · rw [hout] at hthrew
          cases hthrew
        · rw [hout] at hpassed
          obtain ⟨-, rfl⟩ := Outcome.passed.inj (Option.some.inj hpassed)
          rw [Except.ok.inj hp]
          exact ⟨own, hown, hid⟩
    · intro hown
      rcases hcase with ⟨error, -, hthrew⟩ | ⟨p, hp, hout⟩
      · exact .inl ⟨error, hthrew⟩
      · obtain ⟨row, hrow, hdec⟩ := (openSecret_ok hlen).1 hp
        obtain ⟨⟨issued, plaintext⟩, hmem, hsame⟩ :=
          h.unforged row (Table.mem_of_get hrow) d hk (Option.isSome_of_eq_some hdec)
        have hsecret := hissued issued plaintext row hmem hsame
        rw [hdec] at hsecret
        obtain ⟨own, hstored, hid⟩ := hown hopen row hrow issued plaintext hmem hsame
        rw [← Option.some.inj hsecret] at hstored
        exact .inr ⟨own, p, hout, hstored, hid⟩

end

/-- **A vault row works in its own slot alone** in just the histories in which every secret that is used with the vault unlocked
is looked for in a row that does not hold another one's box. -/
theorem slots_iff (crypto : Crypto) (autolock : Autolock) (es : List TamperEvent)
    (h : Along (tamperStep crypto autolock.ms) (Unforged crypto) newVault es) :
    (∀ pre id now post, es = pre ++ .vault (.call (.useSecret id) now) :: post →
      InSlot crypto autolock.ms (tampered crypto autolock.ms pre) id now) ↔
    ∀ pre id now post, es = pre ++ .vault (.call (.useSecret id) now) :: post →
      isUnlocked autolock.ms (tampered crypto autolock.ms pre).vault now = true → OwnSlot (tampered crypto autolock.ms pre) id := by
  have hguarded : ∀ pre post, es = pre ++ post → Guarded crypto (tampered crypto autolock.ms pre) := by
    intro pre post hes
    refine tampered_guarded (along_iff.2 fun pre' e post' hpre => ?_)
    exact along_iff.1 h pre' e (post' ++ post) (by rw [hes, hpre, List.append_assoc, List.cons_append])
  constructor
  · exact fun hall pre id now post hes => (inSlot_iff (hguarded pre _ hes)).1 (hall pre id now post hes)
  · exact fun hall pre id now post hes => (inSlot_iff (hguarded pre _ hes)).2 (hall pre id now post hes)

/-! ### A box copied into another row -/

instance (issued row : SecretRow) : Decidable (SameBox issued row) :=
  decidable_of_iff (issued.nonce = row.nonce ∧ issued.aad = row.aad ∧ issued.ciphertext = row.ciphertext)
    ⟨fun h => ⟨h.1, h.2.1, h.2.2⟩, fun h => ⟨h.nonce, h.aad, h.ciphertext⟩⟩

def copyBox (source row : SecretRow) : SecretRow :=
  { row with nonce := source.nonce, ciphertext := source.ciphertext, aad := source.aad }

def copyInto (table : Table SecretRow.id) (sourceId id : String) : Table SecretRow.id :=
  match table.get sourceId with
  | none => table
  | some source => table.update (fun row => if row.id = id then copyBox source row else row) fun row => by split <;> rfl

def twoSecrets : List TamperEvent :=
  [.vault (.call (.initializeVault "correct horse" testKdf (zeros _) (ones _)) 0), .vault (.wake 0 (derivedAt 1500)),
    .vault (.call (.putSecret .evm_private_key "agent-evm" [17, 4] "e" (zeros _) (.ok ())) 1600),
    .vault (.call (.putSecret .solana_keypair "agent-solana" [9, 9, 2] "s" (ones _) (.ok ())) 1700)]

/-- The second one's box in the row of the first, which is then used. -/
def copiedBox : List TamperEvent :=
  twoSecrets ++ [.edit (copyInto (tampered clearCrypto halfHour.ms twoSecrets).vault.rows.secrets "s" "e"),
    .vault (.call (.useSecret "e") 1800)]

theorem copiedBox_unforged : Along (tamperStep clearCrypto halfHour.ms) (Unforged clearCrypto) newVault copiedBox := by
  refine ⟨trivial, trivial, trivial, trivial, ⟨by decide +kernel, ?_⟩, trivial, trivial⟩
  decide +kernel

theorem slots_iff_copiedBox : (∀ pre id now post, copiedBox = pre ++ .vault (.call (.useSecret id) now) :: post →
      InSlot clearCrypto halfHour.ms (tampered clearCrypto halfHour.ms pre) id now) ↔
    ∀ pre id now post, copiedBox = pre ++ .vault (.call (.useSecret id) now) :: post →
      isUnlocked halfHour.ms (tampered clearCrypto halfHour.ms pre).vault now = true →
      OwnSlot (tampered clearCrypto halfHour.ms pre) id :=
  slots_iff clearCrypto halfHour copiedBox copiedBox_unforged

/-- **The first secret's id hands out the second one's.** -/
theorem copiedBox_not_inSlot : ¬ ∀ es, Along (tamperStep clearCrypto halfHour.ms) (Unforged clearCrypto) newVault es →
    ∀ pre id now post, es = pre ++ .vault (.call (.useSecret id) now) :: post →
      InSlot clearCrypto halfHour.ms (tampered clearCrypto halfHour.ms pre) id now := by
  intro h
  have hslot := h copiedBox copiedBox_unforged (copiedBox.take 5) "e" 1800 [] rfl
  have hout : outcome clearCrypto halfHour.ms (tampered clearCrypto halfHour.ms (copiedBox.take 5))
      (.call (.useSecret "e") 1800) = some (.passed "e" [9, 9, 2]) := by decide +kernel
  have hstored : ∀ secret ∈ (tampered clearCrypto halfHour.ms (copiedBox.take 5)).memory.stored,
      secret.2 = [9, 9, 2] → secret.1.id ≠ "e" := by decide +kernel
  rcases hslot with ⟨error, hthrew⟩ | ⟨row, plaintext, hpassed, hmem, hid⟩
  · rw [hout] at hthrew
    cases hthrew
  · rw [hout] at hpassed
    obtain ⟨-, rfl⟩ := Outcome.passed.inj (Option.some.inj hpassed)
    exact hstored (row, _) hmem rfl hid

end Vault
end Atra
