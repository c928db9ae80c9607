import Atra.LiveProcess
import Atra.Transfers
import Atra.Table
import Atra.History
/-!
# Withdrawal — quotes, their execution statement by statement, and the refresh of a row

A quote is kept in memory and taken by the `execute` that uses it; the row that `execute` inserts outlives the process.  From
there `execute` waits for the network before it signs, writes the hash, hands the bytes to the network, waits again, and polls.
Between two waits its statements run one by one: a crash may come before any of them, another call only at a wait.
-/
namespace Atra
namespace Wallet

open Money

def WITHDRAW_QUOTE_TTL_MS : Int := 90000
def CONFIRM_POLL_MS : Int := 3000
def CONFIRM_TIMEOUT_MS : Int := 30000

/-! ## Amounts -/

/-- The digits before the point, and those after it, of a text that is `\d+` or `\d+.\d+`. -/
def decimalParts (cs : List Char) : Option (List Char × List Char) :=
  let whole := cs.takeWhile Char.isDigit
  if whole = [] then none
  else match cs.dropWhile Char.isDigit with
    | [] => some (whole, [])
    | c :: frac => if c = '.' ∧ frac ≠ [] ∧ frac.all Char.isDigit = true then some (whole, frac) else none

/-- "25", "0.5" in base units; more decimals than the token has are refused. -/
def parseDecimalAmount (value : String) (decimals : Nat) : Result Int :=
  match decimalParts (Live.jsTrim value.toList) with
  | none => throw ⟨.schemaInvalid, "Amount must be a decimal number"⟩
  | some (whole, frac) =>
    if decimals < frac.length then
      throw ⟨.schemaInvalid, "Amount has more than " ++ toString decimals ++ " decimals"⟩
    else
      pure (Decimal.natOf whole * 10 ^ decimals +
        Decimal.natOf (frac ++ List.replicate (decimals - frac.length) '0') : Nat)

def formatUnits (amount : Int) (decimals : Nat) : String :=
  let abs := amount.natAbs
  let frac := (padStart (toString (abs % 10 ^ decimals)) decimals).toList.reverse.dropWhile (· = '0')
  (if amount < 0 then "-" else "") ++ toString (abs / 10 ^ decimals) ++
    (if frac = [] then "" else "." ++ String.ofList frac.reverse)

structure TokenAmountView where
  raw : String
  decimals : Nat
  formatted : String
  symbol : String
deriving DecidableEq, Repr

def view (amount : Int) (decimals : Nat) (symbol : String) : TokenAmountView :=
  ⟨toString amount, decimals, formatUnits amount decimals, symbol⟩

/-! ## Quotes -/

inductive WithdrawAsset where
  | USDC | ETH | BNB | SOL
deriving DecidableEq, Repr

def WithdrawAsset.name : WithdrawAsset → String
  | .USDC => "USDC"
  | .ETH => "ETH"
  | .BNB => "BNB"
  | .SOL => "SOL"

def displayName : ChainId → String
  | .base => "Base"
  | .bsc => "BNB Smart Chain"
  | .robinhood => "Robinhood Chain"
  | .solana => "Solana"

structure WithdrawQuoteRequest where
  chainId : ChainId
  asset : WithdrawAsset
  destination : String
  /-- A decimal amount, or the literal "all". -/
  amount : String

structure ResolvedAsset where
  address : String
  decimals : Nat
  symbol : String
  native : Bool

structure WithdrawQuote where
  quoteId : String
  expiresAt : Int
  chainId : ChainId
  asset : WithdrawAsset
  destination : String
  amount : TokenAmountView
  availableBalance : Option TokenAmountView
  fee : Option TokenAmountView
  feeSource : String
  remainingBalance : Option TokenAmountView
  warnings : List String
  /-- `false` when the quote cannot be submitted: fee unknown, or too little. -/
  submittable : Bool
deriving DecidableEq, Repr

structure PendingQuote where
  quote : WithdrawQuote
  prepared : PreparedTransfer
  request : TransferRequest
  symbol : String
  createdAt : Int
deriving DecidableEq, Repr

/-- Balances read now: what could not be read is missing, and `error` says so for the native one. -/
structure BalanceReading where
  native : Option Int
  tokens : List (String × Int)
  error : Option String

/-- What a quote finds outside: its wallet, its adapter, the balances and the two preparations. -/
structure QuoteWorld where
  depositAddress : Result String
  adapter : Bool
  reading : Result BalanceReading
  first : Network
  second : Network

/-- What the service is built from. -/
structure WithdrawalDeps where
  host : Host
  codecs : TransferCodecs
  validateDestination : ChainId → String → Result String
  /-- The identifier a network derives from the bytes of a signed transaction. -/
  hashOf : ChainId → String → String

section
variable (deps : WithdrawalDeps)

def resolveAsset (chain : ChainId) (asset : WithdrawAsset) : Result ResolvedAsset :=
  let info := CHAINS chain
  if asset.name = nativeSymbol chain then pure ⟨info.nativeSentinel, info.nativeDecimals, nativeSymbol chain, true⟩
  else match info.tokens.find? fun t => t.symbol = asset.name && !isNativeToken deps.host chain t.address with
    | some t => pure ⟨t.address, t.decimals, t.symbol, false⟩
    | none => throw ⟨.schemaInvalid, asset.name ++ " is not available on " ++ displayName chain⟩

def hasChecksumCase (address : String) : Bool :=
  let body := address.toList.drop 2
  body ≠ body.map Char.toLower && body ≠ body.map Char.toUpper

/-- The balance the withdrawal is measured against: a token that is not among those read counts as none held. -/
def availableOf (token : ResolvedAsset) (reading : BalanceReading) : Option Int :=
  if (reading.error.filter (· ≠ "")).isSome then none
  else if token.native then reading.native
  else some ((reading.tokens.lookup token.address).getD 0)

def requestedAmount (input : WithdrawQuoteRequest) (available : Option Int) (decimals : Nat) : Result Int :=
  if input.amount = "all" then match available with
    | none => throw ⟨.upstreamUnavailable, "Cannot withdraw all: balance unknown"⟩
    | some available => pure available
  else do
    let amount ← parseDecimalAmount input.amount decimals
    refuseWhen (amount ≤ 0) ⟨.schemaInvalid, "Amount must be greater than zero"⟩
    return amount

/-- A malformed request is refused as it is; anything else is the network's. -/
def preparing (x : Result PreparedTransfer) : Result PreparedTransfer :=
  match x with
  | .ok prepared => .ok prepared
  | .error e =>
    if e.code = .schemaInvalid then .error e
    else .error ⟨.upstreamUnavailable, "Could not prepare the transfer: " ++ e.message⟩

/-- The amount, the fee that is shown, the transfer that will be signed, and the warnings of the first preparation. -/
structure Settled where
  amount : Int
  fee : Option Int
  prepared : PreparedTransfer
  warnings : List String

/-- What is transferred and how: prepared with a provisional amount, so that the fee can be estimated, and for all of a native
coin once more with what the fee leaves. -/
def settleAmount (input : WithdrawQuoteRequest) (token : ResolvedAsset)
    (first second : TransferRequest → Result PreparedTransfer) (sender recipient : String) (amount : Int) :
    Result Settled := do
  let asset := if token.native then none else some token.address
  let prepared ← preparing (first ⟨sender, recipient, asset, if 0 < amount then amount else 1, token.decimals⟩)
  if input.amount = "all" ∧ token.native = true then match prepared.feeNative with
    | none => throw ⟨.upstreamUnavailable, "Cannot withdraw all: fee unknown"⟩
    | some fee => do
      refuseWhen (amount - fee ≤ 0) ⟨.conflict, "Balance does not cover the network fee"⟩
      let again ← second ⟨sender, recipient, none, amount - fee, token.decimals⟩
      return ⟨amount - fee, some fee, again, prepared.warnings⟩
  else return ⟨amount, prepared.feeNative, prepared, prepared.warnings⟩

/-- What leaves the balance of the asset. -/
def neededOf (token : ResolvedAsset) (amount : Int) (fee : Option Int) : Int :=
  if token.native then amount + fee.getD 0 else amount

def nativeShort (token : ResolvedAsset) (reading : BalanceReading) (fee : Option Int) : Bool :=
  !token.native && fee.any fun fee => reading.native.any fun held => held < fee

def submittable (token : ResolvedAsset) (reading : BalanceReading) (available : Option Int) (amount : Int)
    (fee : Option Int) : Bool :=
  fee.isSome && available.any (fun held => neededOf token amount fee ≤ held) && !nativeShort token reading fee

def quoteWarnings (input : WithdrawQuoteRequest) (token : ResolvedAsset) (reading : BalanceReading)
    (available : Option Int) (amount : Int) (fee : Option Int) (prepared : List String) : List String :=
  (if chainFamily input.chainId = .evm ∧ hasChecksumCase input.destination = false then
      ["This address has no EIP-55 checksum; verify every character."] else []) ++
    ((reading.error.filter (· ≠ "")).toList.map fun e => "Balance could not be read: " ++ e) ++ prepared ++
    (available.toList.flatMap fun held =>
      if held < neededOf token amount fee then
        ["Insufficient " ++ token.symbol ++ " balance: " ++ formatUnits held token.decimals ++ " available."] else []) ++
    (if nativeShort token reading fee then ["Insufficient " ++ nativeSymbol input.chainId ++ " for the network fee."]
      else []) ++
    (if fee.isNone then ["Network fee unknown; the withdrawal cannot be submitted."] else [])

/-- The wallet and the adapter of a chain, as one call finds them. -/
structure QuoteAnswers where
  depositAddress : Result String
  adapter : Bool
  reading : ResolvedAsset → Result BalanceReading
  first : TransferRequest → Result PreparedTransfer
  second : TransferRequest → Result PreparedTransfer

/-- `quote`, whatever its adapter answers; `quoteId` and `now` are those of its end. -/
def quoteWith (quoteId : String) (now : Int) (input : WithdrawQuoteRequest) (world : QuoteAnswers) :
    Result PendingQuote := do
  let destination ← deps.validateDestination input.chainId input.destination
  let token ← resolveAsset deps input.chainId input.asset
  let sender ← world.depositAddress
  refuseWhen (deps.host.toLowerCase destination = deps.host.toLowerCase sender)
    ⟨.schemaInvalid, "Destination is the agent wallet itself"⟩
  refuseWhen (world.adapter = false) ⟨.adapterUnavailable, "No transfer adapter for " ++ input.chainId.name⟩
  let reading ← world.reading token
  let available := availableOf token reading
  let requested ← requestedAmount input available token.decimals
  let ⟨amount, fee, prepared, warnings⟩ ← settleAmount input token world.first world.second sender destination requested
  let remaining := (available.map (· - neededOf token amount fee)).filter (0 ≤ ·)
  let info := CHAINS input.chainId
  return {
    quote := {
      quoteId, expiresAt := now + WITHDRAW_QUOTE_TTL_MS, chainId := input.chainId, asset := input.asset, destination
      amount := view amount token.decimals token.symbol
      availableBalance := available.map fun held => view held token.decimals token.symbol
      fee := fee.map fun fee => view fee info.nativeDecimals (nativeSymbol input.chainId)
      feeSource := if fee.isNone then "none" else prepared.feeSource
      remainingBalance := remaining.map fun left => view left token.decimals token.symbol
      warnings := quoteWarnings input token reading available amount fee warnings
      submittable := submittable token reading available amount fee }
    prepared
    request := ⟨sender, destination, if token.native then none else some token.address, amount, token.decimals⟩
    symbol := token.symbol
    createdAt := now }

/-- `quote` over the adapters of the chains, with what it found outside. -/
def quote (quoteId : String) (now : Int) (input : WithdrawQuoteRequest) (world : QuoteWorld) : Result PendingQuote :=
  quoteWith deps quoteId now input ⟨world.depositAddress, world.adapter, fun _ => world.reading,
    prepareTransfer deps.codecs input.chainId world.first, prepareTransfer deps.codecs input.chainId world.second⟩

end

/-! ## Rows and calls under way -/

inductive TxStatus where
  | prepared | simulated | submitted | confirmed | failed | cancelled
deriving DecidableEq, Repr

structure TxRow where
  id : String
  chain : ChainId
  tokenAddress : Option String
  tokenSymbol : String
  decimals : Nat
  amountBase : Int
  toAddress : String
  fromAddress : String
  feeBase : Option Int
  txHash : Option String
  status : TxStatus
  idempotencyKey : Option String
  errorMessage : Option String
deriving DecidableEq, Repr

inductive ResultStatus where
  | submitted | confirmed | failed
deriving DecidableEq, Repr

structure WithdrawResult where
  txId : String
  txHash : Option String
  status : ResultStatus
deriving DecidableEq, Repr

def toResult (row : TxRow) : WithdrawResult :=
  ⟨row.id, row.txHash, match row.status with
    | .confirmed => .confirmed
    | .failed => .failed
    | .cancelled => .failed
    | _ => .submitted⟩

structure SignedTransaction where
  raw : String
  hash : String
deriving DecidableEq, Repr

/-- What a chain has decided about a transaction. -/
inductive Final where
  | confirmed | failed
deriving DecidableEq, Repr

def Final.status : Final → TxStatus
  | .confirmed => .confirmed
  | .failed => .failed

/-- Where a call under way is: at a wait, or before its next statement. -/
inductive Phase where
  /-- `execute` waits for the signing context. -/
  | context (pending : PendingQuote) (key : Option String)
  /-- Signed; the hash is written next, then the bytes are handed to the network. -/
  | record (signed : SignedTransaction)
  | send (signed : SignedTransaction)
  | broadcasting (signed : SignedTransaction)
  /-- The network has taken the bytes. -/
  | submit (hash : String)
  | polling (hash : String) (deadline : Int)
  | sleeping (hash : String) (deadline : Int)
  | settle (hash : String) (verdict : Final)
  | fail (reason : String) (txHash : Option String)
  /-- `refresh` waits for the chain, and writes what it said. -/
  | refreshing (hash : String)
  | refreshed (hash : String) (verdict : Final)
  | done
deriving DecidableEq, Repr

/-- A statement comes next. -/
def Phase.running : Phase → Bool
  | .record _ | .send _ | .submit _ | .settle _ _ | .fail _ _ | .refreshed _ _ => true
  | _ => false

structure Job where
  txId : String
  chain : ChainId
  phase : Phase
deriving DecidableEq, Repr

structure WithdrawalState where
  clock : Int
  /-- The quotes in memory. -/
  quotes : List PendingQuote
  /-- The identifiers given to quotes so far. -/
  issued : List String
  rows : Table TxRow.id
  jobs : List Job
  /-- The transactions the chains have decided about so far. -/
  landed : List String

def newWithdrawals (clock : Int) : WithdrawalState := ⟨clock, [], [], .empty, [], []⟩

def WithdrawalState.idle (s : WithdrawalState) : Bool := s.jobs.all fun j => !j.phase.running

def WithdrawalState.setPhase (s : WithdrawalState) (i : Nat) (phase : Phase) : WithdrawalState :=
  { s with jobs := s.jobs.modify i fun j => { j with phase } }

def WithdrawalState.edit (s : WithdrawalState) (txId : String) (f : TxRow → TxRow) : WithdrawalState :=
  match s.rows.get txId with
  | some row => { s with rows := s.rows.put { f row with id := row.id } }
  | none => s

def pruneQuotes (s : WithdrawalState) : WithdrawalState :=
  { s with quotes := s.quotes.filter fun p => s.clock - p.createdAt ≤ WITHDRAW_QUOTE_TTL_MS }

/-! ## execute -/

structure ExecuteCall where
  quoteId : String
  confirmation : Option String
  idempotencyKey : Option String
  /-- A wallet of the chain's family exists. -/
  wallet : Bool
  adapter : Bool
  /-- The identifier of the row, should one be inserted. -/
  txId : String

/-- The key a request carries: an empty header is none, and so is one that is too long. -/
def keyOfHeader (header : Option String) : Option String := header.filter fun key => key ≠ "" ∧ jsLength key ≤ 128

def findByIdempotencyKey (key : String) (s : WithdrawalState) : Option TxRow :=
  s.rows.rows.find? fun row => row.idempotencyKey = some key

def rowOf (txId : String) (pending : PendingQuote) (key : Option String) : TxRow :=
  ⟨txId, pending.quote.chainId, pending.request.token, pending.symbol, pending.request.decimals, pending.request.amount,
    pending.request.recipient, pending.request.sender, pending.prepared.feeNative, none, .prepared, key, none⟩

/-- How `execute` ends its first section. -/
inductive Reply where
  | replayed (result : WithdrawResult)
  | refused (e : AppError)
  | started
deriving DecidableEq, Repr

def takeQuote (quoteId : String) (s : WithdrawalState) : WithdrawalState :=
  { s with quotes := s.quotes.filter fun p => p.quote.quoteId ≠ quoteId }

/-- The row is inserted, and the signing context asked for. -/
def insertRow (call : ExecuteCall) (pending : PendingQuote) (s : WithdrawalState) : Reply × WithdrawalState :=
  if (s.rows.get call.txId).isSome then (.refused ⟨.internal, "UNIQUE constraint failed: wallet_transactions.id"⟩, s)
  else if call.idempotencyKey.any fun key => (findByIdempotencyKey key s).isSome then
    (.refused ⟨.internal, "UNIQUE constraint failed: wallet_transactions.idempotency_key"⟩, s)
  else (.started, { s with
    rows := s.rows.put (rowOf call.txId pending call.idempotencyKey)
    jobs := s.jobs ++ [⟨call.txId, pending.quote.chainId, .context pending call.idempotencyKey⟩] })

/-- `execute` as far as its first wait. -/
def execute (call : ExecuteCall) (s : WithdrawalState) : Reply × WithdrawalState :=
  let s := pruneQuotes s
  match (call.idempotencyKey.filter (· ≠ "")).bind fun key => findByIdempotencyKey key s with
  | some row => (.replayed (toResult row), s)
  | none => match s.quotes.find? fun p => p.quote.quoteId = call.quoteId with
    | none => (.refused ⟨.conflict, "Quote expired or unknown; request a new quote"⟩, s)
    | some pending =>
      if pending.quote.submittable = false then (.refused ⟨.conflict, "This quote cannot be submitted"⟩, s)
      else if call.confirmation ≠ some "WITHDRAW" then
        (.refused ⟨.schemaInvalid, "Type WITHDRAW to confirm this withdrawal"⟩, s)
      else if call.wallet = false then (.refused ⟨.notFound, "No wallet exists for this chain"⟩, s)
      -- The quote is consumed before anything is signed: a retry gets a fresh one.
      else if call.adapter = false then
        (.refused ⟨.adapterUnavailable, "No transfer adapter for " ++ pending.quote.chainId.name⟩,
          takeQuote call.quoteId s)
      else insertRow call pending (takeQuote call.quoteId s)

/-- `POST /withdraw`: the key is what the header says. -/
def withdraw (call : ExecuteCall) (s : WithdrawalState) : Reply × WithdrawalState :=
  execute { call with idempotencyKey := keyOfHeader call.idempotencyKey } s

/-! ## Steps -/

/-- `refresh` as far as its wait: only a row that says `submitted` and carries a hash is asked about. -/
def refreshStart (txId : String) (adapter : Bool) (s : WithdrawalState) : Option Job :=
  match s.rows.get txId with
  | none => none
  | some row =>
    match row.status, row.txHash, adapter with
    | .submitted, some hash, true => some ⟨txId, row.chain, .refreshing hash⟩
    | _, _, _ => none

inductive WithdrawalEvent where
  | tick (ms : Nat)
  /-- `quote` is called, and ends with what it found outside. -/
  | quoteBegins
  | quoted (quoteId : String) (input : WithdrawQuoteRequest) (world : QuoteWorld)
  | withdraw (call : ExecuteCall)
  /-- The signing context is there, and the key was used on it or refused. -/
  | context (i : Nat) (fees : Result FeeReading) (signer : Result String)
  /-- The next statement of a call under way. -/
  | statement (i : Nat)
  /-- `broadcastSigned` answers: an error leaves open what the network did. -/
  | broadcast (i : Nat) (error : Option String)
  /-- A poll, of `execute` or `refresh`, is answered or fails. -/
  | polled (i : Nat) (answered : Bool)
  | woke (i : Nat)
  | refresh (txId : String) (adapter : Bool)
  /-- The chain decides about a transaction. -/
  | lands (hash : String)
  /-- A crash, and the next start. -/
  | restart

section
-- What each chain will decide about a transaction, if it ever gets to it.
variable (deps : WithdrawalDeps) (chain : String → Option Final)

/-- What a poll that is answered says now. -/
def reported (s : WithdrawalState) (hash : String) : Option Final := if hash ∈ s.landed then chain hash else none

/-- The context arrives: the key signs it, or the call is on its way to fail. -/
def signNext (j : Job) (pending : PendingQuote) (fees : Result FeeReading) (signer : Result String) : Phase :=
  match transferSigningContext j.chain pending.prepared.payload fees with
  | .error e => .fail ("prepare failed: " ++ e.message) none
  | .ok _ => match signer with
    | .error e => .fail ("signing failed: " ++ e.message) none
    | .ok raw => .record ⟨raw, deps.hashOf j.chain raw⟩

/-- What the next statement of a call writes into its row, and where the call is then. -/
def statementOf (clock : Int) : Phase → Option ((TxRow → TxRow) × Phase)
  | .record signed => some (fun row => { row with txHash := some signed.hash, status := .simulated }, .send signed)
  -- The bytes are handed to the network: nothing is written.
  | .send signed => some (fun row => row, .broadcasting signed)
  | .submit hash => some (fun row => { row with status := .submitted }, .polling hash (clock + CONFIRM_TIMEOUT_MS))
  | .settle _ verdict => some (fun row => { row with status := verdict.status }, .done)
  | .refreshed _ verdict => some (fun row => { row with status := verdict.status }, .done)
  | .fail reason _ => some (fun row => { row with status := .failed, errorMessage := some (jsSlice 500 reason) }, .done)
  | _ => none

def runStatement (s : WithdrawalState) (i : Nat) (j : Job) : WithdrawalState :=
  match statementOf s.clock j.phase with
  | some (write, phase) => (s.edit j.txId write).setPhase i phase
  | none => s

/-- What the answer to a wait makes of a call, which then goes on with statements or waits again. -/
def answered (s : WithdrawalState) (j : Job) : WithdrawalEvent → Option Phase
  | .context _ fees signer => match j.phase with
    | .context pending _ => some (signNext deps j pending fees signer)
    | _ => none
  | .broadcast _ error => match j.phase with
    | .broadcasting signed => some (match error with
      | none => .submit signed.hash
      | some message => .fail ("broadcast failed: " ++ message) (some signed.hash))
    | _ => none
  | .polled _ ok => match j.phase with
    | .polling hash deadline => some (match (if ok then reported chain s hash else none) with
      | some verdict => .settle hash verdict
      | none => .sleeping hash deadline)
    | .refreshing hash => some (match (if ok then reported chain s hash else none) with
      | some verdict => .refreshed hash verdict
      | none => .done)
    | _ => none
  | .woke _ => match j.phase with
    | .sleeping hash deadline => some (if s.clock < deadline then .polling hash deadline else .done)
    | _ => none
  | _ => none

def answer (s : WithdrawalState) (i : Nat) (e : WithdrawalEvent) : WithdrawalState :=
  if s.idle then match s.jobs[i]? with
    | some j => match answered deps chain s j e with
      | some phase => s.setPhase i phase
      | none => s
    | none => s
  else s

def withdrawalStep (s : WithdrawalState) (e : WithdrawalEvent) : WithdrawalState :=
  match e with
  | .tick ms => { s with clock := s.clock + ms }
  | .lands hash => if (chain hash).isSome then { s with landed := hash :: s.landed } else s
  | .restart => { s with quotes := [], jobs := [] }
  | .statement i => match s.jobs[i]? with
    | some j => runStatement s i j
    | none => s
  | .quoteBegins => if s.idle then pruneQuotes s else s
  | .quoted quoteId input world =>
    if s.idle ∧ quoteId ∉ s.issued then match quote deps quoteId s.clock input world with
      | .ok pending => { s with quotes := s.quotes ++ [pending], issued := quoteId :: s.issued }
      | .error _ => s
    else s
  | .withdraw call => if s.idle then (withdraw call s).2 else s
  | .refresh txId adapter => if s.idle then { s with jobs := s.jobs ++ (refreshStart txId adapter s).toList } else s
  | .context i _ _ => answer deps chain s i e
  | .broadcast i _ => answer deps chain s i e
  | .polled i _ => answer deps chain s i e
  | .woke i => answer deps chain s i e

end

end Wallet
end Atra
