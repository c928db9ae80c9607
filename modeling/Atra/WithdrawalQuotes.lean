import Atra.WithdrawalSafety
/-!
# WithdrawalQuotes — which submittable quotes can be paid

A quote is submittable when the fee of its first preparation is known and the balances that were read cover it.  What is signed
later is the transfer that is stored with it.  The two come apart in two places: a native `all` is prepared a second time and
keeps the fee of the first (`FeeKept`), and an `all` of a token that holds nothing, or was not read, asks for nothing
(`HoldsSome`).  Everywhere else a submittable quote can be paid.  The USD value of a quote adds warnings, and is left out.
-/
namespace Atra
namespace Wallet

open Money

/-! ## The balances -/

/-- What an adapter answers while balances are read. -/
structure BalanceAnswers where
  native : Result Int
  transferFee : Result Int
  token : String → Result Int

/-- `readBalances`, where there is a wallet and an adapter: a token that cannot be read is left out. -/
def readBalances (chain : ChainId) (answers : BalanceAnswers) (wanted : List String) : BalanceReading :=
  match answers.native with
  | .error e => ⟨none, [], some e.message⟩
  | .ok native => match answers.transferFee with
    | .error e => ⟨some native, [], some e.message⟩
    | .ok _ => ⟨some native, (wanted.filter (· ≠ (CHAINS chain).nativeSentinel)).filterMap fun token =>
        (answers.token token).toOption.map (token, ·), none⟩

/-- A token that was read was read beside the native balance. -/
theorem native_of_lookup {chain : ChainId} {answers : BalanceAnswers} {wanted : List String} {address : String} {held : Int}
    (h : (readBalances chain answers wanted).tokens.lookup address = some held) :
    ∃ native, (readBalances chain answers wanted).native = some native := by
  unfold readBalances at h ⊢
  cases hnative : answers.native with
  | error e =>
    rw [hnative] at h
    cases h
  | ok native =>
    dsimp only
    cases answers.transferFee with
    | error e => exact ⟨native, rfl⟩
    | ok fee => exact ⟨native, rfl⟩

/-- What one call of `quote` reads and prepares, on a chain that has an adapter. -/
structure AdapterAnswers where
  balances : BalanceAnswers
  first : TransferRequest → Result PreparedTransfer
  second : TransferRequest → Result PreparedTransfer

def AdapterAnswers.reading (adapter : AdapterAnswers) (chain : ChainId) (token : ResolvedAsset) : BalanceReading :=
  readBalances chain adapter.balances (if token.native then [] else [token.address])

def AdapterAnswers.answers (adapter : AdapterAnswers) (chain : ChainId) (sender : String) : QuoteAnswers :=
  ⟨.ok sender, true, fun token => .ok (adapter.reading chain token), adapter.first, adapter.second⟩

/-! ## What a quote promises -/

/-- What leaves the balance of the asset when the stored transfer is sent. -/
def leaving (token : ResolvedAsset) (pending : PendingQuote) (fee : Int) : Int :=
  if token.native then pending.request.amount + fee else pending.request.amount

/-- The stored transfer costs the fee that is shown, and the balances that were read cover it. -/
structure Covered (chain : ChainId) (token : ResolvedAsset) (reading : BalanceReading) (pending : PendingQuote)
    (fee held : Int) : Prop where
  fee_known : pending.prepared.feeNative = some fee
  fee_shown : pending.quote.fee = some (view fee (CHAINS chain).nativeDecimals (nativeSymbol chain))
  positive : 0 < pending.request.amount
  read : (if token.native then reading.native else reading.tokens.lookup token.address) = some held
  enough : leaving token pending fee ≤ held
  network_fee : token.native = false → ∃ native, reading.native = some native ∧ fee ≤ native
  remaining : pending.quote.remainingBalance = none ∨
    pending.quote.remainingBalance = some (view (held - leaving token pending fee) token.decimals token.symbol)

def CanPay (chain : ChainId) (token : ResolvedAsset) (reading : BalanceReading) (pending : PendingQuote) : Prop :=
  ∃ fee held, Covered chain token reading pending fee held

/-- The first preparation of a native `all`, with a provisional amount. -/
def provisional (sender recipient : String) (token : ResolvedAsset) (held : Int) : TransferRequest :=
  ⟨sender, recipient, none, if 0 < held then held else 1, token.decimals⟩

/-- The second preparation of a native `all` answers with the fee of the first. -/
def FeeKept (adapter : AdapterAnswers) (chain : ChainId) (token : ResolvedAsset) (sender recipient : String) : Prop :=
  ∀ held fee first second, (adapter.reading chain token).native = some held →
    adapter.first (provisional sender recipient token held) = .ok first → first.feeNative = some fee →
    adapter.second ⟨sender, recipient, none, held - fee, token.decimals⟩ = .ok second → second.feeNative = some fee

/-- The token's balance was read, and is not nothing. -/
def HoldsSome (adapter : AdapterAnswers) (chain : ChainId) (token : ResolvedAsset) : Prop :=
  ∃ held, (adapter.reading chain token).tokens.lookup token.address = some held ∧ 0 < held

/-! ## How a quote comes about -/

theorem requestedAmount_cases {input : WithdrawQuoteRequest} {available : Option Int} {decimals : Nat} {amount : Int}
    (h : requestedAmount input available decimals = .ok amount) :
    (input.amount = "all" ∧ available = some amount) ∨ (input.amount ≠ "all" ∧ 0 < amount) := by
  unfold requestedAmount at h
  by_cases hall : input.amount = "all"
  · rw [if_pos hall] at h
    cases available with
    | none => cases h
    | some held => exact .inl ⟨hall, congrArg some (Except.ok.inj h)⟩
  · rw [if_neg hall] at h
    simp only [bind_ok, pure_ok, refuseWhen_ok] at h
    obtain ⟨parsed, -, _, hpos, rfl⟩ := h
    exact .inr ⟨hall, by omega⟩

/-- A transfer is prepared once, except that a native `all` is prepared again with what the fee leaves. -/
theorem settleAmount_cases {input : WithdrawQuoteRequest} {token : ResolvedAsset}
    {first second : TransferRequest → Result PreparedTransfer} {sender recipient : String} {amount : Int} {settled : Settled}
    (h : settleAmount input token first second sender recipient amount = .ok settled) :
    (¬ (input.amount = "all" ∧ token.native = true) ∧ settled.amount = amount ∧
      settled.fee = settled.prepared.feeNative) ∨
    ((input.amount = "all" ∧ token.native = true) ∧ ∃ prepared fee,
      first (provisional sender recipient token amount) = .ok prepared ∧ prepared.feeNative = some fee ∧
      settled.amount = amount - fee ∧ 0 < settled.amount ∧ settled.fee = some fee ∧
      second ⟨sender, recipient, none, amount - fee, token.decimals⟩ = .ok settled.prepared) := by
  simp only [settleAmount, bind_ok] at h
  obtain ⟨prepared, hprepared, h⟩ := h
  by_cases hall : input.amount = "all" ∧ token.native = true
  · rw [if_pos hall] at h
    cases hfee : prepared.feeNative with
    | none => rw [hfee] at h; cases h
    | some fee =>
      rw [hfee] at h
      simp only [bind_ok, pure_ok, refuseWhen_ok] at h
      obtain ⟨_, hpos, again, hagain, rfl⟩ := h
      have hfirst := preparing_ok hprepared
      rw [if_pos hall.2] at hfirst
      exact .inr ⟨hall, prepared, fee, hfirst, hfee, rfl, by dsimp only; omega, rfl, hagain⟩
  · rw [if_neg hall, pure_ok] at h
    subst h
    exact .inl ⟨hall, rfl, rfl⟩

theorem available_native {token : ResolvedAsset} {reading : BalanceReading} {held : Int} (hnative : token.native = true)
    (h : availableOf token reading = some held) : reading.native = some held := by
  unfold availableOf at h
  rw [if_pos hnative] at h
  split at h
  · cases h
  · exact h

theorem available_token {token : ResolvedAsset} {reading : BalanceReading} {held : Int} (hnative : token.native = false)
    (h : availableOf token reading = some held) : (reading.tokens.lookup token.address).getD 0 = held := by
  unfold availableOf at h
  rw [hnative] at h
  split at h
  · cases h
  · exact Option.some.inj h

theorem submittable_iff {token : ResolvedAsset} {reading : BalanceReading} {available fee : Option Int} {amount : Int} :
    submittable token reading available amount fee = true ↔
      ∃ f held, fee = some f ∧ available = some held ∧ neededOf token amount (some f) ≤ held ∧
        (token.native = false → ∀ native, reading.native = some native → f ≤ native) := by
  unfold submittable nativeShort
  cases fee with
  | none => simp
  | some f =>
    cases available with
    | none => simp
    | some held =>
      cases token.native <;> cases reading.native <;> simp

/-- A quote shows what was settled, and is submittable on the balances that were read. -/
structure QuotedAs (chain : ChainId) (token : ResolvedAsset) (reading : BalanceReading) (settled : Settled)
    (pending : PendingQuote) : Prop where
  amount : pending.request.amount = settled.amount
  prepared : pending.prepared = settled.prepared
  fee : pending.quote.fee = settled.fee.map fun fee => view fee (CHAINS chain).nativeDecimals (nativeSymbol chain)
  remaining : pending.quote.remainingBalance =
    (((availableOf token reading).map (· - neededOf token settled.amount settled.fee)).filter (0 ≤ ·)).map fun left =>
      view left token.decimals token.symbol
  submittable : pending.quote.submittable =
    submittable token reading (availableOf token reading) settled.amount settled.fee

section
variable {deps : WithdrawalDeps} {adapter : AdapterAnswers} {input : WithdrawQuoteRequest} {quoteId : String} {now : Int}
  {sender recipient : String} {token : ResolvedAsset} {pending : PendingQuote}

theorem quoteWith_ok (h : quoteWith deps quoteId now input (adapter.answers input.chainId sender) = .ok pending)
    (hrecipient : deps.validateDestination input.chainId input.destination = .ok recipient)
    (htoken : resolveAsset deps input.chainId input.asset = .ok token) :
    ∃ requested settled,
      requestedAmount input (availableOf token (adapter.reading input.chainId token)) token.decimals = .ok requested ∧
      settleAmount input token adapter.first adapter.second sender recipient requested = .ok settled ∧
      QuotedAs input.chainId token (adapter.reading input.chainId token) settled pending := by
  simp only [quoteWith, AdapterAnswers.answers, bind_ok, pure_ok] at h
  obtain ⟨recipient', hrecipient', token', htoken', sender', hsender, _, -, _, -, reading, hreading, requested, hrequested,
    settled, hsettled, rfl⟩ := h
  obtain rfl := Except.ok.inj (hrecipient.symm.trans hrecipient')
  obtain rfl := Except.ok.inj (htoken.symm.trans htoken')
  obtain rfl := Except.ok.inj hsender
  obtain rfl := Except.ok.inj hreading
  exact ⟨requested, settled, hrequested, hsettled, rfl, rfl, rfl, rfl, rfl⟩

/-- What is asked for is positive, unless it is all of a token that holds nothing. -/
theorem amount_pos {requested : Int} {settled : Settled} (hpos : input.amount = "all" → token.native = false →
      HoldsSome adapter input.chainId token)
    (hrequested : requestedAmount input (availableOf token (adapter.reading input.chainId token)) token.decimals =
      .ok requested)
    (hsettled : settleAmount input token adapter.first adapter.second sender recipient requested = .ok settled) :
    0 < settled.amount := by
  rcases settleAmount_cases hsettled with ⟨hnot, hamount, -⟩ | ⟨-, prepared, fee, -, -, -, hpositive, -⟩
  · rw [hamount]
    rcases requestedAmount_cases hrequested with ⟨hall, havailable⟩ | ⟨-, hpositive⟩
    · have htoken : token.native = false := by
        cases hnative : token.native with
        | false => rfl
        | true => exact absurd ⟨hall, hnative⟩ hnot
      obtain ⟨held, hlookup, hpositive⟩ := hpos hall htoken
      have hread := available_token htoken havailable
      rw [hlookup] at hread
      exact hread ▸ hpositive
    · exact hpositive
  · exact hpositive

/-- The transfer that is kept costs what was settled, unless a native `all` was prepared again at another fee. -/
theorem fee_stored {requested fee : Int} {settled : Settled} (hkept : input.amount = "all" → token.native = true →
      FeeKept adapter input.chainId token sender recipient)
    (hrequested : requestedAmount input (availableOf token (adapter.reading input.chainId token)) token.decimals =
      .ok requested)
    (hsettled : settleAmount input token adapter.first adapter.second sender recipient requested = .ok settled)
    (hfee : settled.fee = some fee) : settled.prepared.feeNative = some fee := by
  rcases settleAmount_cases hsettled with ⟨-, -, hsame⟩ | ⟨hall, prepared, fee', hfirst, hknown, -, -, hshown, hsecond⟩
  · rw [← hsame, hfee]
  · obtain rfl := Option.some.inj (hshown.symm.trans hfee)
    rcases requestedAmount_cases hrequested with ⟨-, havailable⟩ | ⟨hnot, -⟩
    · exact hkept hall.1 hall.2 requested fee' prepared _ (available_native hall.2 havailable) hfirst hknown hsecond
    · exact absurd hall.1 hnot

theorem view_inj {a b : Int} {decimals : Nat} {symbol : String} (h : view a decimals symbol = view b decimals symbol) :
    a = b := intToString_inj (congrArg TokenAmountView.raw h)

/-- **A submittable quote can be paid exactly when the fee of what is signed is the one that was asked about, and an `all` of a
token found some of it.** -/
theorem submittable_payable
    (h : quoteWith deps quoteId now input (adapter.answers input.chainId sender) = .ok pending)
    (hsubmittable : pending.quote.submittable = true)
    (hrecipient : deps.validateDestination input.chainId input.destination = .ok recipient)
    (htoken : resolveAsset deps input.chainId input.asset = .ok token) :
    CanPay input.chainId token (adapter.reading input.chainId token) pending ↔
      (input.amount = "all" → token.native = true → FeeKept adapter input.chainId token sender recipient) ∧
      (input.amount = "all" → token.native = false → HoldsSome adapter input.chainId token) := by
  obtain ⟨requested, settled, hrequested, hsettled, hquoted⟩ := quoteWith_ok h hrecipient htoken
  rw [hquoted.submittable] at hsubmittable
  obtain ⟨fee, held, hfee, havailable, hneeded, hshort⟩ := submittable_iff.1 hsubmittable
  constructor
  · rintro ⟨stored, held', hcovered⟩
    constructor
    · intro hall hnative held₀ fee₀ first second hread hfirst hknown hsecond
      rcases settleAmount_cases hsettled with ⟨hnot, -⟩ | ⟨-, prepared, fee₁, hfirst', hknown', -, -, hshown, hsecond'⟩
      · exact absurd ⟨hall, hnative⟩ hnot
      rcases requestedAmount_cases hrequested with ⟨-, hrequest⟩ | ⟨hnot, -⟩
      · obtain rfl := Option.some.inj (hread.symm.trans (available_native hnative hrequest))
        obtain rfl := Except.ok.inj (hfirst.symm.trans hfirst')
        obtain rfl := Option.some.inj (hknown.symm.trans hknown')
        obtain rfl := Except.ok.inj (hsecond.symm.trans hsecond')
        have hview := hquoted.fee
        rw [hcovered.fee_shown, hshown] at hview
        rw [← hquoted.prepared, hcovered.fee_known, view_inj (Option.some.inj hview)]
      · exact absurd hall hnot
    · intro hall hnative
      have hread := hcovered.read
      rw [if_neg (by simp [hnative])] at hread
      have henough := hcovered.enough
      unfold leaving at henough
      rw [if_neg (by simp [hnative])] at henough
      exact ⟨held', hread, Int.lt_of_lt_of_le hcovered.positive henough⟩
  · rintro ⟨hkept, hsome⟩
    have hpos : 0 < settled.amount := amount_pos hsome hrequested hsettled
    have hstored := fee_stored hkept hrequested hsettled hfee
    have hleaving : leaving token pending fee = neededOf token settled.amount (some fee) := by
      unfold leaving neededOf
      rw [hquoted.amount]
      rfl
    have hread : (if token.native then (adapter.reading input.chainId token).native
        else (adapter.reading input.chainId token).tokens.lookup token.address) = some held := by
      cases hnative : token.native with
      | true => exact available_native hnative havailable
      | false =>
        have hheld := available_token hnative havailable
        unfold neededOf at hneeded
        rw [if_neg (by simp [hnative])] at hneeded
        cases hlookup : (adapter.reading input.chainId token).tokens.lookup token.address with
        | none =>
          rw [hlookup] at hheld
          rw [← hheld] at hneeded
          exact absurd (Int.lt_of_lt_of_le hpos hneeded) (Int.lt_irrefl 0)
        | some read =>
          rw [hlookup] at hheld
          exact congrArg some hheld
    refine ⟨fee, held, by rw [hquoted.prepared, hstored], by rw [hquoted.fee, hfee]; rfl, by rw [hquoted.amount]; exact hpos,
      hread, hleaving ▸ hneeded, fun hnative => ?_, .inr ?_⟩
    · rw [if_neg (by simp [hnative])] at hread
      obtain ⟨native, hknown⟩ := native_of_lookup hread
      exact ⟨native, hknown, hshort hnative native hknown⟩
    · rw [hquoted.remaining, havailable, hfee, hleaving, Option.map_some,
        Option.filter_some_pos (by simpa using hneeded), Option.map_some]

end

/-! ## Two withdrawals of everything -/

/-- A node that knows the price of gas, and one that has lost it. -/
def nodeWith (gasPrice : Result Nat) : Network :=
  ⟨⟨.ok false, .ok 50000, gasPrice⟩, ⟨.ok ("", 0), .ok none, .ok true, .ok 0⟩⟩

/-- Some of both assets is held; the price of gas is there when a transfer is first prepared. -/
def holdsBoth (later : Result Nat) : AdapterAnswers where
  balances := ⟨.ok 10000000000000000, .ok 0, fun _ => .ok 2500000⟩
  first := prepareTransfer sampleDeps.codecs .base (nodeWith (.ok 1000000000))
  second := prepareTransfer sampleDeps.codecs .base (nodeWith later)

def holder : String := "0x1111111111111111111111111111111111111111"

def allOf (asset : WithdrawAsset) : WithdrawQuoteRequest := ⟨.base, asset, "0x2222222222222222222222222222222222222222", "all"⟩

theorem submittable_payable_token :
    ∃ pending token, quoteWith sampleDeps "quote" 0 (allOf .USDC) ((holdsBoth (.ok 0)).answers .base holder) = .ok pending ∧
      CanPay .base token ((holdsBoth (.ok 0)).reading .base token) pending := by
  obtain ⟨pending, hquote, hsubmittable⟩ : ∃ pending, quoteWith sampleDeps "quote" 0 (allOf .USDC)
      ((holdsBoth (.ok 0)).answers .base holder) = .ok pending ∧ pending.quote.submittable = true := by decide +kernel
  obtain ⟨token, htoken, hnative, hread⟩ : ∃ token, resolveAsset sampleDeps .base .USDC = .ok token ∧
      (token.native = false ∧
        ((holdsBoth (.ok 0)).reading .base token).tokens.lookup token.address = some 2500000) := by decide +kernel
  exact ⟨pending, token, hquote, (submittable_payable hquote hsubmittable rfl htoken).2
    ⟨fun _ h => absurd (hnative.symm.trans h) Bool.false_ne_true, fun _ _ => ⟨2500000, hread, by decide⟩⟩⟩

/-- All of the native coin is submittable with the fee of the first preparation, while the transfer that is stored has none. -/
theorem unknown_fee_submittable :
    ∃ pending, quoteWith sampleDeps "quote" 0 (allOf .ETH)
        ((holdsBoth (.error ⟨.upstreamUnavailable, "no gas price"⟩)).answers .base holder) = .ok pending ∧
      pending.quote.submittable = true ∧ ∀ token reading, ¬ CanPay .base token reading pending := by
  obtain ⟨pending, hquote, hsubmittable, hfee⟩ : ∃ pending, quoteWith sampleDeps "quote" 0 (allOf .ETH)
      ((holdsBoth (.error ⟨.upstreamUnavailable, "no gas price"⟩)).answers .base holder) = .ok pending ∧
      (pending.quote.submittable = true ∧ pending.prepared.feeNative = none) := by decide +kernel
  refine ⟨pending, hquote, hsubmittable, ?_⟩
  rintro token reading ⟨fee, held, hcovered⟩
  exact absurd (hfee.symm.trans hcovered.fee_known) (by simp)

end Wallet
end Atra
