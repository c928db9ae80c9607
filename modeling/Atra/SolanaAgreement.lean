import Atra.BinaryLog
import Atra.SolanaMessage
/-!
# SolanaAgreement — the signer reads what was compiled

The encoder and the parser are two hand-written byte codecs.  Each part of a message is an encoding its reader parses
(`parses_readKeys`, `parses_readInstruction`), so the whole is; and since the reader ends inside what it was given, no part
of a message that is cut short is read.
-/
namespace Atra
namespace Solana

open ByteReader

/-! ## Accounts -/

theorem mem_mentioned {feePayer : String} {instructions : List LegacyInstruction} {key : String} :
    key ∈ (mentioned feePayer instructions).map (·.pubkey) ↔ key = feePayer ∨
      ∃ i ∈ instructions, key = i.programId ∨ ∃ account ∈ i.accounts, key = account.pubkey := by
  unfold mentioned
  rw [List.map_cons, List.mem_cons, List.map_flatMap, List.mem_flatMap]
  refine or_congr Iff.rfl (exists_congr fun i => and_congr Iff.rfl ?_)
  unfold LegacyInstruction.mentions
  rw [List.map_append, List.mem_append, List.map_singleton, List.mem_singleton, List.mem_map, or_comm]
  refine or_congr Iff.rfl (exists_congr fun account => and_congr Iff.rfl ?_)
  exact eq_comm

theorem mem_keys_upsert {roles : Table AccountMeta.pubkey} {account : AccountMeta} {k : String} :
    k ∈ (upsert roles account).rows.map (·.pubkey) ↔ k ∈ roles.rows.map (·.pubkey) ∨ k = account.pubkey :=
  Table.mem_keys_put roles _ k

theorem mem_keys_foldl (accounts : List AccountMeta) (roles : Table AccountMeta.pubkey) (k : String) :
    k ∈ (accounts.foldl upsert roles).rows.map (·.pubkey) ↔
      k ∈ roles.rows.map (·.pubkey) ∨ k ∈ accounts.map (·.pubkey) := by
  induction accounts generalizing roles with
  | nil => simp
  | cons account accounts ih =>
    rw [List.foldl_cons, ih, mem_keys_upsert, List.map_cons, List.mem_cons, or_assoc]

theorem mem_keys_rolesOf {feePayer : String} {instructions : List LegacyInstruction} {k : String} :
    k ∈ (rolesOf feePayer instructions).rows.map (·.pubkey) ↔ k ∈ (mentioned feePayer instructions).map (·.pubkey) := by
  unfold rolesOf
  rw [mem_keys_foldl]
  simp [Table.empty]

theorem roles_perm (roles : Table AccountMeta.pubkey) :
    (signersOf roles ++ (writableOf roles ++ readonlyOf roles)).Perm (roles.rows.map (·.pubkey)) := by
  unfold signersOf writableOf readonlyOf
  rw [← List.map_append, ← List.map_append]
  refine List.Perm.map _ ?_
  have hrest : (roles.rows.filter (fun m => !m.isSigner && m.isWritable) ++
      roles.rows.filter (fun m => !m.isSigner && !m.isWritable)).Perm (roles.rows.filter fun m => !m.isSigner) := by
    have h := List.filter_append_perm (·.isWritable) (roles.rows.filter fun m => !m.isSigner)
    rw [List.filter_filter, List.filter_filter] at h
    simpa only [Bool.and_comm] using h
  exact (List.Perm.append_left _ hrest).trans (List.filter_append_perm (·.isSigner) roles.rows)

/-- **The keys of a message** are the accounts its instructions name and the fee payer, each once. -/
theorem orderedKeys_spec {feePayer : String} {instructions : List LegacyInstruction}
    (h : signersOf (rolesOf feePayer instructions) = [feePayer]) :
    (orderedKeys feePayer (rolesOf feePayer instructions)).Nodup ∧
    ∀ k, k ∈ orderedKeys feePayer (rolesOf feePayer instructions) ↔
      k ∈ (mentioned feePayer instructions).map (·.pubkey) := by
  have hperm := roles_perm (rolesOf feePayer instructions)
  rw [h, List.singleton_append] at hperm
  refine ⟨hperm.nodup_iff.2 (rolesOf feePayer instructions).keyed, fun k => ?_⟩
  rw [← mem_keys_rolesOf]
  exact hperm.mem_iff

/-! ## Numbers -/

theorem and_seven_bits (n : Nat) : n &&& 0x7f = n % 128 := Nat.and_two_pow_sub_one_eq_mod n 7

theorem high_bit_clear {n : Nat} (h : n < 128) : n &&& 0x80 = 0 := by
  have hall : (List.range 128).all (fun n => n &&& 0x80 == 0) = true := by decide +kernel
  exact beq_iff_eq.1 (List.all_eq_true.1 hall n (List.mem_range.2 h))

theorem with_high_bit {n : Nat} (h : n < 128) : n ||| 0x80 = n + 128 := by
  rw [Nat.or_comm, BinaryLog.nat_or_eq_add (show 2 ^ 7 ∣ 0x80 by decide) h, Nat.add_comm]

theorem high_bit_set {n : Nat} (h : n < 128) : (n + 128) &&& 0x80 ≠ 0 := by
  have hall : (List.range 128).all (fun n => (n + 128) &&& 0x80 != 0) = true := by decide +kernel
  exact bne_iff_ne.1 (List.all_eq_true.1 hall n (List.mem_range.2 h))

/-- The bits read so far and the next seven do not overlap. -/
theorem or_shifted {value digit shift : Nat} (h : value < 2 ^ shift) :
    value ||| (digit <<< shift) = value + digit * 2 ^ shift := by
  rw [Nat.shiftLeft_eq, Nat.or_comm, BinaryLog.nat_or_eq_add (Dvd.intro_left digit rfl) h, Nat.add_comm]

theorem parses_lastDigit {rounds digit value shift : Nat} (hd : digit < 128) (hv : value < 2 ^ shift) :
    Parses (readCompactFrom (rounds + 1) value shift) [UInt8.ofNat digit] (value + digit * 2 ^ shift) := by
  have hbyte : (UInt8.ofNat digit).toNat = digit := UInt8.toNat_ofNat_of_lt' (show digit < 2 ^ 8 by omega)
  have hrest : Parses (if (UInt8.ofNat digit).toNat &&& 0x80 = 0 then
      pure (value ||| (((UInt8.ofNat digit).toNat &&& 0x7f) <<< shift))
    else readCompactFrom rounds (value ||| (((UInt8.ofNat digit).toNat &&& 0x7f) <<< shift)) (shift + 7)) []
      (value + digit * 2 ^ shift) := by
    rw [hbyte, if_pos (high_bit_clear hd), and_seven_bits, Nat.mod_eq_of_lt hd, or_shifted hv]
    exact .pure _
  exact (parses_byte (UInt8.ofNat digit) _).bind hrest

theorem parses_digit {rounds digit value shift result : Nat} {out : List UInt8} (hd : digit < 128)
    (hv : value < 2 ^ shift) (h : Parses (readCompactFrom rounds (value + digit * 2 ^ shift) (shift + 7)) out result) :
    Parses (readCompactFrom (rounds + 1) value shift) (UInt8.ofNat (digit ||| 0x80) :: out) result := by
  have hbyte : (UInt8.ofNat (digit ||| 0x80)).toNat = digit + 128 := by
    rw [with_high_bit hd]
    exact UInt8.toNat_ofNat_of_lt' (show digit + 128 < 2 ^ 8 by omega)
  have hrest : Parses (if (UInt8.ofNat (digit ||| 0x80)).toNat &&& 0x80 = 0 then
      pure (value ||| (((UInt8.ofNat (digit ||| 0x80)).toNat &&& 0x7f) <<< shift))
    else readCompactFrom rounds (value ||| (((UInt8.ofNat (digit ||| 0x80)).toNat &&& 0x7f) <<< shift)) (shift + 7))
      out result := by
    rw [hbyte, if_neg (high_bit_set hd), and_seven_bits, Nat.add_mod_right, Nat.mod_eq_of_lt hd, or_shifted hv]
    exact h
  exact (parses_byte (UInt8.ofNat (digit ||| 0x80)) _).bind hrest

/-- **A number is read back from its digits**, on top of what was read before them. -/
theorem parses_readCompactFrom {rounds remaining value shift : Nat} (hr : remaining < 128 ^ (rounds + 1))
    (hv : value < 2 ^ shift) :
    Parses (readCompactFrom (rounds + 1) value shift) (compactDigits (rounds + 1) remaining)
      (value + remaining * 2 ^ shift) := by
  induction rounds generalizing remaining value shift with
  | zero =>
    unfold compactDigits
    have hz : remaining >>> 7 = 0 := by
      rw [Nat.shiftRight_eq_div_pow]
      omega
    rw [if_pos hz, and_seven_bits, Nat.mod_eq_of_lt (by omega)]
    exact parses_lastDigit (by omega) hv
  | succ rounds ih =>
    unfold compactDigits
    rw [Nat.shiftRight_eq_div_pow, and_seven_bits, show 2 ^ 7 = 128 from rfl]
    have hmod : remaining % 128 < 128 := Nat.mod_lt _ (by decide)
    by_cases hz : remaining / 128 = 0
    · rw [if_pos hz, Nat.mod_eq_of_lt (by omega)]
      exact parses_lastDigit (by omega) hv
    · rw [if_neg hz]
      apply parses_digit hmod hv
      have hsplit : value + remaining * 2 ^ shift =
          value + remaining % 128 * 2 ^ shift + remaining / 128 * 2 ^ (shift + 7) := by
        calc value + remaining * 2 ^ shift
            = value + (128 * (remaining / 128) + remaining % 128) * 2 ^ shift := by rw [Nat.div_add_mod]
          _ = value + remaining % 128 * 2 ^ shift + remaining / 128 * 2 ^ (shift + 7) := by ring
      rw [hsplit]
      refine ih ?_ ?_
      · rw [Nat.div_lt_iff_lt_mul (by decide)]
        exact hr
      · rw [Nat.pow_add]
        have hdigit : remaining % 128 * 2 ^ shift ≤ 127 * 2 ^ shift := Nat.mul_le_mul_right _ (by omega)
        omega

/-- **Every number the encoder takes is one the parser reads back.** -/
theorem parses_readCompactU16 {n : Nat} {out : List UInt8} (h : compactU16 n = .ok out) : Parses readCompactU16 out n := by
  unfold compactU16 at h
  by_cases hn : 0xffff < n
  · rw [if_pos hn] at h
    cases h
  · rw [if_neg hn] at h
    obtain rfl := Except.ok.inj h
    have hp : Parses (readCompactFrom (2 + 1) 0 0) (compactDigits (2 + 1) n) (0 + n * 2 ^ 0) :=
      parses_readCompactFrom (by omega) (by decide)
    rw [Nat.zero_add, Nat.pow_zero, Nat.mul_one] at hp
    exact hp

theorem readCompactFrom_stable (rounds value shift : Nat) : Stable (readCompactFrom rounds value shift) := by
  induction rounds generalizing value shift with
  | zero => exact fun _ _ _ _ h => h
  | succ rounds ih =>
    refine (stable_byte _).bind fun b => ?_
    show Stable (if _ then _ else _)
    by_cases hb : b.toNat &&& 0x80 = 0
    · rw [if_pos hb]
      exact .pure _
    · rw [if_neg hb]
      exact ih _ _

theorem readCompactFrom_ends (rounds value shift : Nat) : Ends (readCompactFrom rounds value shift) := by
  induction rounds generalizing value shift with
  | zero =>
    intro bytes offset a o h
    cases h
  | succ rounds ih =>
    refine (ends_byte _).bind fun b => ?_
    show Stays (if _ then _ else _)
    by_cases hb : b.toNat &&& 0x80 = 0
    · rw [if_pos hb]
      exact .pure _
    · rw [if_neg hb]
      exact (ih _ _).stays

/-! ## Keys -/

/-- Equal chunks of a whole are cut out of it again. -/
theorem chunks_flatten {k : Nat} (chunks : List (List UInt8)) (h : ∀ c ∈ chunks, c.length = k) :
    (List.range chunks.length).map (fun i => (chunks.flatten.drop (i * k)).take k) = chunks := by
  induction chunks with
  | nil => rfl
  | cons c chunks ih =>
    have hc : c.length = k := h c (by simp)
    have ih' := ih fun d hd => h d (List.mem_cons_of_mem _ hd)
    rw [List.length_cons, List.range_succ_eq_map, List.map_cons, List.map_map, List.flatten_cons]
    congr 1
    · rw [Nat.zero_mul, List.drop_zero, ← hc, List.take_left]
    · refine Eq.trans (List.map_congr_left fun i _ => ?_) ih'
      show ((c ++ chunks.flatten).drop ((i + 1) * k)).take k = _
      rw [Nat.succ_mul, Nat.add_comm, ← List.drop_drop, ← hc, List.drop_left]

theorem map_base58Encode {codecs : BaseCodecs} {keys : List String} {decoded : List (List UInt8)}
    (hdecoded : List.Forall₂ (fun key bytes => codecs.base58Decode key = .ok bytes) keys decoded)
    (hlaw : ∀ text bytes, codecs.base58Decode text = .ok bytes → codecs.base58Encode bytes = text) :
    decoded.map codecs.base58Encode = keys := by
  induction hdecoded with
  | nil => rfl
  | cons h _ ih => rw [List.map_cons, ih, hlaw _ _ h]

theorem parses_readKeys {codecs : BaseCodecs} {keys : List String} {decoded : List (List UInt8)} {count : List UInt8}
    (hne : keys ≠ []) (hcount : compactU16 keys.length = .ok count)
    (hdecoded : List.Forall₂ (fun key bytes => codecs.base58Decode key = .ok bytes) keys decoded)
    (hlaw : ∀ text bytes, codecs.base58Decode text = .ok bytes → codecs.base58Encode bytes = text)
    (hlen : ∀ bytes ∈ decoded, bytes.length = PUBKEY_BYTES) :
    Parses (readKeys codecs) (count ++ decoded.flatten) keys := by
  have hsize : decoded.flatten.length = keys.length * PUBKEY_BYTES := by
    rw [List.length_flatten, List.map_congr_left hlen, List.map_const', List.sum_replicate, hdecoded.length_eq,
      smul_eq_mul]
  have hkeys : (List.range keys.length).map (fun index =>
      codecs.base58Encode ((decoded.flatten.drop (index * PUBKEY_BYTES)).take PUBKEY_BYTES)) = keys := by
    have hchunks := congrArg (List.map codecs.base58Encode) (chunks_flatten decoded hlen)
    rw [List.map_map, ← hdecoded.length_eq, map_base58Encode hdecoded hlaw] at hchunks
    exact hchunks
  have hcut := parses_take decoded.flatten (malformed "Message account keys are truncated")
  rw [hsize] at hcut
  have hsome : refuseWhen (keys.length < 1) (malformed "Message account keys are truncated") = .ok () :=
    refuseWhen_ok.2 (by have := List.length_pos_iff.2 hne; omega)
  refine (parses_readCompactU16 hcount).bind (parses_lift_bind hsome ?_)
  have hread := hcut.bind_pure fun bytes => (List.range keys.length).map fun index =>
    codecs.base58Encode ((bytes.drop (index * PUBKEY_BYTES)).take PUBKEY_BYTES)
  rw [hkeys] at hread
  exact hread

/-! ## Instructions -/

theorem indexOf_toNat {ordered : List String} {key : String} (h : key ∈ ordered) (hlen : ordered.length ≤ 256) :
    ordered[(indexOf ordered key).toNat]? = some key := by
  have hlt := List.idxOf_lt_length_iff.2 h
  have hbyte : (indexOf ordered key).toNat = ordered.idxOf key :=
    UInt8.toNat_ofNat_of_lt' (show ordered.idxOf key < 2 ^ 8 by omega)
  rw [hbyte, List.getElem?_eq_getElem hlt, List.getElem_idxOf hlt]

theorem parses_readInstruction {ordered : List String} {instruction : LegacyInstruction} {out : List UInt8}
    (h : encodeInstruction ordered instruction = .ok out) (hmem : instruction.programId ∈ ordered)
    (hlen : ordered.length ≤ 256) : Parses (readInstruction ordered) out instruction.programId := by
  unfold encodeInstruction at h
  simp only [bind_ok, pure_ok] at h
  obtain ⟨accountCount, haccounts, dataLength, hdata, rfl⟩ := h
  have hkey : keyAt ordered (indexOf ordered instruction.programId).toNat = .ok instruction.programId := by
    unfold keyAt
    rw [indexOf_toNat hmem hlen]
    rfl
  have hskip : Parses (skip (instruction.accounts.map fun account => indexOf ordered account.pubkey).length :
      ByteReader AppError Unit) _ () := parses_skip _
  rw [List.length_map] at hskip
  have hlast : Parses (skip instruction.data.length >>= fun _ => need 0 (malformed "Instruction data is truncated") >>=
      fun _ => pure instruction.programId) (instruction.data ++ []) instruction.programId :=
    (parses_skip _).bind ((parses_need _).bind_pure fun _ => instruction.programId)
  rw [List.append_nil] at hlast
  refine (parses_byte _ _).bind (parses_lift_bind hkey ?_)
  exact (parses_readCompactU16 haccounts).bind (hskip.bind ((parses_readCompactU16 hdata).bind hlast))

theorem readInstruction_stable (keys : List String) : Stable (readInstruction keys) :=
  (stable_byte _).bind fun _ => (stable_lift _).bind fun _ => (readCompactFrom_stable _ _ _).bind fun _ =>
    (stable_skip _).bind fun _ => (readCompactFrom_stable _ _ _).bind fun _ => (stable_skip _).bind fun _ =>
      (stable_need _ _).bind fun _ => .pure _

/-- An instruction ends inside the message, though its accounts and data are passed over unread. -/
theorem readInstruction_ends (keys : List String) : Ends (readInstruction keys) :=
  ends_bind fun _ => ends_bind fun _ => ends_bind fun _ => ends_bind fun _ => ends_bind fun _ => ends_bind fun _ =>
    (ends_need _ _).bind fun _ => .pure _

/-! ## Messages -/

theorem mem_sortedSet {ids : List String} {id : String} : id ∈ sortedSet ids ↔ id ∈ ids := by
  unfold sortedSet
  rw [List.mem_insertionSort, List.mem_dedup]

/-- **The members of a list, each once and in order.** -/
theorem sortedSet_sorted (ids : List String) : (sortedSet ids).Pairwise (· < ·) := by
  have hle : (sortedSet ids).Pairwise (· ≤ ·) := List.pairwise_insertionSort _ _
  have hne : (sortedSet ids).Nodup := (List.perm_insertionSort _ _).nodup_iff.2 (List.nodup_dedup ids)
  exact (hle.and hne).imp fun h => lt_of_le_of_ne h.1 h.2

/-- What the parser is to find in a message. -/
def compiledSummary (ordered : List String) (instructions : List LegacyInstruction) : SolanaMessageSummary :=
  { version := .legacy
    numRequiredSignatures := 1
    feePayer := ordered.headD ""
    staticAccountKeys := ordered
    programIds := sortedSet (instructions.map (·.programId)) }

theorem length_of_base58Length {codecs : BaseCodecs} {key : String} {bytes : List UInt8} {n : Nat}
    (hd : codecs.base58Decode key = .ok bytes) (h : base58Length codecs key = some n) : bytes.length = n := by
  unfold base58Length at h
  rw [hd] at h
  exact Option.some.inj h

theorem decoded_sized {codecs : BaseCodecs} {keys : List String} {decoded : List (List UInt8)}
    (hdecoded : List.Forall₂ (fun key bytes => codecs.base58Decode key = .ok bytes) keys decoded)
    (hkeys : ∀ key ∈ keys, base58Length codecs key = some PUBKEY_BYTES) : ∀ bytes ∈ decoded, bytes.length = PUBKEY_BYTES := by
  induction hdecoded with
  | nil =>
    intro bytes hb
    cases hb
  | @cons key bytes keys decoded hd _ ih =>
    rw [List.forall_mem_cons]
    exact ⟨length_of_base58Length hd (hkeys key List.mem_cons_self), ih fun k hk => hkeys k (List.mem_cons_of_mem _ hk)⟩

/-- **What the encoder wrote behind the version of a message is read back.** -/
theorem parses_readBody {codecs : BaseCodecs} {ordered : List String} {readonlyUnsigned : Nat} {recentBlockhash : String}
    {instructions : List LegacyInstruction} {message : List UInt8}
    (hlaw : ∀ text bytes, codecs.base58Decode text = .ok bytes → codecs.base58Encode bytes = text)
    (hne : ordered ≠ []) (hfew : ordered.length ≤ 256)
    (hkeys : ∀ key ∈ recentBlockhash :: ordered, base58Length codecs key = some PUBKEY_BYTES)
    (hprograms : ∀ i ∈ instructions, i.programId ∈ ordered)
    (h : encodeMessage codecs ordered readonlyUnsigned recentBlockhash instructions = .ok message) :
    Parses (readBody codecs .legacy) message (compiledSummary ordered instructions) := by
  unfold encodeMessage at h
  simp only [bind_ok, pure_ok, mapM_ok] at h
  obtain ⟨keyCount, hcount, decoded, hdecoded, blockhash, hblockhash, instructionCount, hinstructions, compiled, hcompiled,
    rfl⟩ := h
  have hlen := decoded_sized hdecoded fun key hk => hkeys key (List.mem_cons_of_mem _ hk)
  have hblock := length_of_base58Length hblockhash (hkeys recentBlockhash List.mem_cons_self)
  have hreads : List.Forall₂ (Parses (readInstruction ordered)) compiled (instructions.map (·.programId)) := by
    rw [List.forall₂_map_right_iff]
    apply List.Forall₂.flip
    refine List.Forall₂.imp ?_ ((List.forall₂_and_left _ _).2 ⟨hprograms, hcompiled⟩)
    exact fun i out hi => parses_readInstruction hi.2 hi.1 hfew
  have htimes := parses_times hreads
  rw [List.length_map] at htimes
  have hheader := parses_take [1, 0, UInt8.ofNat readonlyUnsigned] (malformed "Message header is truncated")
  have hhash := parses_take blockhash (malformed "Message blockhash is truncated")
  rw [hblock] at hhash
  refine hheader.bind ?_
  rw [← List.append_assoc keyCount]
  refine (parses_readKeys hne hcount hdecoded hlaw hlen).bind (hhash.bind ((parses_readCompactU16 hinstructions).bind ?_))
  exact htimes.bind_pure fun programIds => ({
    version := .legacy
    numRequiredSignatures := 1
    feePayer := ordered.headD ""
    staticAccountKeys := ordered
    programIds := sortedSet programIds } : SolanaMessageSummary)

theorem readBody_stable (codecs : BaseCodecs) (version : MessageVersion) : Stable (readBody codecs version) := by
  have hkeys : Stable (readKeys codecs) := (readCompactFrom_stable _ _ _).bind fun _ => (stable_lift _).bind fun _ =>
    (stable_take _ _).bind fun _ => .pure _
  exact (stable_take _ _).bind fun _ => hkeys.bind fun _ => (stable_take _ _).bind fun _ =>
    (readCompactFrom_stable _ _ _).bind fun _ => (stable_times (readInstruction_stable _) _).bind fun _ => .pure _

theorem readBody_ends (codecs : BaseCodecs) (version : MessageVersion) : Ends (readBody codecs version) :=
  ends_bind fun _ => ends_bind fun _ => ends_bind fun _ => (readCompactFrom_ends _ _ _).bind fun _ =>
    (stays_times (readInstruction_ends _).stays _).bind fun _ => .pure _

/-- A message whose first byte is the one signer has no version byte. -/
theorem exec_readMessage (codecs : BaseCodecs) (rest : List UInt8) :
    (readMessage codecs).exec (1 :: rest) 0 = (readBody codecs .legacy).exec (1 :: rest) 0 := rfl

theorem encodeMessage_head {codecs : BaseCodecs} {ordered : List String} {readonlyUnsigned : Nat}
    {recentBlockhash : String} {instructions : List LegacyInstruction} {message : List UInt8}
    (h : encodeMessage codecs ordered readonlyUnsigned recentBlockhash instructions = .ok message) :
    ∃ rest, message = 1 :: 0 :: UInt8.ofNat readonlyUnsigned :: rest := by
  unfold encodeMessage at h
  simp only [bind_ok, pure_ok] at h
  obtain ⟨_, -, _, -, _, -, _, -, _, -, rfl⟩ := h
  exact ⟨_, rfl⟩

/-- **A message is summarized as what it was compiled from, and no strict prefix of it is.** -/
theorem summarizeMessage_parses {codecs : BaseCodecs} {rest : List UInt8} {summary : SolanaMessageSummary}
    (h : Parses (readBody codecs .legacy) (1 :: rest) summary) : summarizeMessage codecs (1 :: rest) = .ok summary ∧
    ∀ n < (1 :: rest).length, ∃ e, summarizeMessage codecs ((1 :: rest).take n) = .error e := by
  unfold summarizeMessage
  constructor
  · have hread := h [] []
    rw [List.nil_append, List.append_nil, List.length_nil] at hread
    rw [exec_readMessage, hread]
    rfl
  · intro n hn
    cases n with
    | zero => exact ⟨_, rfl⟩
    | succ n =>
      obtain ⟨e, he⟩ := h.truncated (readBody_stable codecs .legacy) (readBody_ends codecs .legacy) hn
      rw [List.take_succ_cons] at he ⊢
      rw [exec_readMessage, he]
      exact ⟨e, rfl⟩

/-! ## Transactions -/

theorem splitTransaction_unsigned {message : List UInt8} (h : message ≠ []) :
    splitTransaction (unsignedTransaction message) = .ok (1, message) := by
  have hcount : readCompactU16.exec (unsignedTransaction message) 0 = .ok (1, 1) := rfl
  have hlen : (unsignedTransaction message).length = 65 + message.length := by
    unfold unsignedTransaction
    rw [List.length_append, List.length_append, List.length_replicate, List.length_singleton]
    unfold SIGNATURE_BYTES
    omega
  have hdrop : (unsignedTransaction message).drop 65 = message := rfl
  have hpos := List.length_pos_iff.2 h
  unfold splitTransaction
  rw [hcount, bind_ok]
  refine ⟨(1, 1), rfl, ?_⟩
  simp only [bind_ok, pure_ok, refuseWhen_ok]
  exact ⟨(), by rw [hlen]; unfold SIGNATURE_BYTES; omega, by rw [← hdrop]; rfl⟩

/-- A prefix that keeps the signature array is an unsigned transaction of a prefix of the message. -/
theorem unsignedTransaction_take (message : List UInt8) (n : Nat) :
    (unsignedTransaction message).take (65 + n) = unsignedTransaction (message.take n) := by
  have hslots : ([1] ++ List.replicate SIGNATURE_BYTES (0 : UInt8)).length = 65 := rfl
  unfold unsignedTransaction
  rw [← List.append_assoc, ← List.append_assoc, ← hslots, List.take_length_add_append]

theorem decodeTransaction_encode {codecs : BaseCodecs}
    (hlaw : ∀ bytes, codecs.base64Decode (Base64.encode bytes) = .ok bytes) (bytes : List UInt8) :
    decodeTransaction codecs (Base64.encode bytes) =
      if bytes.length < 1 + SIGNATURE_BYTES + 3 then .error (malformed "Malformed serialized transaction")
      else .ok bytes := by
  unfold decodeTransaction
  rw [hlaw]
  rfl

/-- **A transaction is summarized as its message is, and no strict prefix of it is.** -/
theorem summarize_unsigned {codecs : BaseCodecs} {message : List UInt8} {summary : SolanaMessageSummary}
    (hlaw : ∀ bytes, codecs.base64Decode (Base64.encode bytes) = .ok bytes) (hlen : 3 ≤ message.length)
    (hread : summarizeMessage codecs message = .ok summary)
    (hcut : ∀ n < message.length, ∃ e, summarizeMessage codecs (message.take n) = .error e) :
    summarizeSolanaTransaction codecs (unsignedTransactionBase64 message) = .ok summary ∧
    ∀ n < (unsignedTransaction message).length,
      ∃ e, summarizeSolanaTransaction codecs (Base64.encode ((unsignedTransaction message).take n)) = .error e := by
  have hsize (m : List UInt8) : (unsignedTransaction m).length = 65 + m.length := by
    unfold unsignedTransaction SIGNATURE_BYTES
    rw [List.length_append, List.length_append, List.length_replicate, List.length_singleton]
    omega
  have hbehind {m : List UInt8} (hm : 3 ≤ m.length) :
      summarizeSolanaTransaction codecs (unsignedTransactionBase64 m) = summarizeMessage codecs m := by
    unfold summarizeSolanaTransaction unsignedTransactionBase64
    rw [decodeTransaction_encode hlaw, if_neg (by rw [hsize]; unfold SIGNATURE_BYTES; omega)]
    show (splitTransaction (unsignedTransaction m) >>= fun split => summarizeMessage codecs split.2) = _
    rw [splitTransaction_unsigned (List.length_pos_iff.1 (by omega))]
    rfl
  refine ⟨(hbehind hlen).trans hread, fun n hn => ?_⟩
  rw [hsize] at hn
  by_cases hshort : n < 1 + SIGNATURE_BYTES + 3
  · have htake : ((unsignedTransaction message).take n).length < 1 + SIGNATURE_BYTES + 3 := by
      rw [List.length_take]
      omega
    refine ⟨malformed "Malformed serialized transaction", ?_⟩
    unfold summarizeSolanaTransaction
    rw [decodeTransaction_encode hlaw, if_pos htake]
    rfl
  · unfold SIGNATURE_BYTES at hshort
    obtain ⟨k, rfl⟩ : ∃ k, n = 65 + k := ⟨n - 65, by omega⟩
    obtain ⟨e, he⟩ := hcut k (by omega)
    refine ⟨e, ?_⟩
    rw [unsignedTransaction_take]
    exact (hbehind (by rw [List.length_take]; omega)).trans he

/-- The package's codecs: base58 texts are encoded again as they were, and standard base64 is decoded. -/
structure BaseCodecs.Lawful (codecs : BaseCodecs) : Prop where
  base58 : ∀ text bytes, codecs.base58Decode text = .ok bytes → codecs.base58Encode bytes = text
  base64 : ∀ bytes, codecs.base64Decode (Base64.encode bytes) = .ok bytes

/-- **The signer reads what was compiled**: of every message the encoder accepts, over 32-byte keys and at most 256 accounts,
it reads the one signer, the accounts named and the programs invoked, and it rejects every strict prefix of the
transaction. -/
theorem compiled_agrees {codecs : BaseCodecs} (hlaw : codecs.Lawful) {feePayer recentBlockhash : String}
    {instructions : List LegacyInstruction} {message : List UInt8}
    (hkeys : ∀ key ∈ recentBlockhash :: (mentioned feePayer instructions).map (·.pubkey),
      base58Length codecs key = some PUBKEY_BYTES)
    (hfew : ((mentioned feePayer instructions).map (·.pubkey)).dedup.length ≤ 256)
    (h : compileLegacyMessage codecs feePayer recentBlockhash instructions = .ok message) :
    (∃ summary, summarizeSolanaTransaction codecs (unsignedTransactionBase64 message) = .ok summary ∧
      summary.version = .legacy ∧ summary.numRequiredSignatures = 1 ∧ summary.feePayer = feePayer ∧
      summary.staticAccountKeys.Nodup ∧
      (∀ key, key ∈ summary.staticAccountKeys ↔ key = feePayer ∨
        ∃ i ∈ instructions, key = i.programId ∨ ∃ account ∈ i.accounts, key = account.pubkey) ∧
      summary.programIds.Pairwise (· < ·) ∧
      ∀ program, program ∈ summary.programIds ↔ ∃ i ∈ instructions, i.programId = program) ∧
    ∀ n < (unsignedTransaction message).length,
      ∃ e, summarizeSolanaTransaction codecs (Base64.encode ((unsignedTransaction message).take n)) = .error e := by
  unfold compileLegacyMessage at h
  simp only [bind_ok, refuseWhen_ok, ne_eq, not_not] at h
  obtain ⟨_, hsigners, h⟩ := h
  obtain ⟨hnodup, hmem⟩ := orderedKeys_spec hsigners
  obtain ⟨rest, rfl⟩ := encodeMessage_head h
  have hfew' : (orderedKeys feePayer (rolesOf feePayer instructions)).length ≤ 256 := by
    refine le_trans (List.Perm.length_eq ?_).le hfew
    rw [List.perm_ext_iff_of_nodup hnodup (List.nodup_dedup _)]
    intro key
    rw [hmem, List.mem_dedup]
  have hne : orderedKeys feePayer (rolesOf feePayer instructions) ≠ [] := List.cons_ne_nil _ _
  have hkeys' : ∀ key ∈ recentBlockhash :: orderedKeys feePayer (rolesOf feePayer instructions),
      base58Length codecs key = some PUBKEY_BYTES := by
    intro key hk
    rw [List.mem_cons, hmem, ← List.mem_cons] at hk
    exact hkeys key hk
  have hprograms : ∀ i ∈ instructions, i.programId ∈ orderedKeys feePayer (rolesOf feePayer instructions) := by
    intro i hi
    rw [hmem, mem_mentioned]
    exact .inr ⟨i, hi, .inl rfl⟩
  obtain ⟨hread, hcut⟩ := summarizeMessage_parses (parses_readBody hlaw.base58 hne hfew' hkeys' hprograms h)
  obtain ⟨hok, hprefix⟩ := summarize_unsigned hlaw.base64 (by simp) hread hcut
  refine ⟨⟨_, hok, rfl, rfl, rfl, hnodup, fun key => ?_, sortedSet_sorted _, fun program => ?_⟩, hprefix⟩
  · exact (hmem key).trans mem_mentioned
  · show program ∈ sortedSet _ ↔ _
    rw [mem_sortedSet, List.mem_map]

/-! The four keys of 31 zero bytes and a last one below four, which base58 writes as 31 ones and a digit. -/

def smallKey (n : Nat) : List UInt8 := List.replicate 31 0 ++ [UInt8.ofNat n]

def smallText (n : Nat) : String := String.ofList (List.replicate 31 '1' ++ [Nat.digitChar (n + 1)])

def smallCodecs : BaseCodecs where
  base58Decode text := ((List.range 4).find? fun n => smallText n = text).elim
    (.error (malformed "Unknown letter")) fun n => .ok (smallKey n)
  base58Encode bytes := ((List.range 4).find? fun n => smallKey n = bytes).elim "" smallText
  base64Decode text := (Base64.decode text).elim (.error (malformed "Unknown letter")) .ok

theorem smallCodecs_lawful : smallCodecs.Lawful := by
  constructor
  · intro text bytes h
    have hall : (List.range 4).all (fun n => smallCodecs.base58Encode (smallKey n) = smallText n) = true := by
      decide +kernel
    unfold smallCodecs at h
    dsimp only at h
    cases hn : (List.range 4).find? (fun n => smallText n = text) with
    | none =>
      rw [hn] at h
      cases h
    | some n =>
      rw [hn] at h
      obtain rfl := Except.ok.inj h
      have htext : smallText n = text := by simpa using List.find?_some hn
      rw [← htext]
      simpa using List.all_eq_true.1 hall n (List.mem_of_find?_eq_some hn)
  · intro bytes
    show (Base64.decode (Base64.encode bytes)).elim _ _ = _
    rw [Base64.decode_encode]
    rfl

/-- A transfer of five lamports by the system program, from the first key to the second. -/
def smallTransfer : LegacyInstruction :=
  { programId := smallText 0
    accounts := [⟨smallText 1, true, true⟩, ⟨smallText 2, false, true⟩]
    data := [2, 0, 0, 0, 5, 0, 0, 0, 0, 0, 0, 0] }

theorem compiled_agrees_transfer : ∃ message summary,
    compileLegacyMessage smallCodecs (smallText 1) (smallText 3) [smallTransfer] = .ok message ∧
    summarizeSolanaTransaction smallCodecs (unsignedTransactionBase64 message) = .ok summary ∧
    summary.feePayer = smallText 1 := by
  have hok : (compileLegacyMessage smallCodecs (smallText 1) (smallText 3) [smallTransfer]).toOption.isSome = true := by
    decide +kernel
  cases h : compileLegacyMessage smallCodecs (smallText 1) (smallText 3) [smallTransfer] with
  | error e =>
    rw [h] at hok
    cases hok
  | ok message =>
    obtain ⟨⟨summary, hs, -, -, hpayer, -⟩, -⟩ := compiled_agrees smallCodecs_lawful (by decide +kernel) (by decide +kernel) h
    exact ⟨message, summary, rfl, hs, hpayer⟩

end Solana
end Atra
