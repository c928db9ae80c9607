import Atra.GatewayPairing
/-!
# GatewayLinks — whose link an installation has

Codes are safe whatever is interleaved: one unused code an installation, consumed once, kept from other installations.  Links
are safe in the runs in which every redemption still finds, when it writes, what it read before (`Current`): nothing in the
tables holds a redemption to that.
-/
namespace Atra
namespace Gateway

open History

variable {storedPairHash : String → String}

/-! ## What is safe -/

def userOf (db : D1) (installId : String) : Option Int := (db.tgLinks.get installId).map (·.telegram.userId)

/-- The state after a run. -/
def reached (storedPairHash : String → String) (t0 : Int) (es : List Event) : State :=
  after (step storedPairHash) (start t0) es

/-- A step that takes a user's link away: `unlinkInstall`, or that user pairing elsewhere. -/
def Removes (storedPairHash : String → String) (s : State) (e : Event) (installId : String) (user : Int) : Prop :=
  userOf s.db installId = some user ∧ userOf (step storedPairHash s e).db installId = none ∧
    (e = .unlink installId ∨ ∃ id r displaced, e = .advance id ∧ s.redemptions.get id = some r ∧
      r.stage = .selected displaced ∧ r.telegram.userId = user ∧ r.installId ≠ installId)

/-- A frame by which a code was stored. -/
def Offers (storedPairHash : String → String) (s : State) (e : Event) (stored : String) : Prop :=
  ∃ installId codeHash expiresAt now, e = .offer installId codeHash expiresAt now ∧ storedPairHash codeHash = stored ∧
    now ≤ s.clock ∧ now < expiresAt ∧ (storePairOffer s.db installId stored expiresAt now).2.isSome

/-- An update by which a code was consumed. -/
def Consumes (storedPairHash : String → String) (s : State) (e : Event) (stored : String) : Prop :=
  ∃ id telegram codeHash now, e = .redeem id telegram codeHash now ∧ storedPairHash codeHash = stored ∧ now ≤ s.clock ∧
    s.redemptions.get id = none ∧ (consumePairCode s.db stored now).2.isSome

/-- A code that can be redeemed. -/
def Live (s : State) (c : PairCode) : Prop := c.usedAt = none ∧ s.clock < c.expiresAt

/-- The links and the codes along a run. -/
structure LinksSafe (storedPairHash : String → String) (t0 : Int) (es : List Event) : Prop where
  /-- A link goes from one user to another only where it was removed in between. -/
  moves : ∀ pre mid post, es = pre ++ mid ++ post → ∀ installId u v,
    userOf (reached storedPairHash t0 pre).db installId = some u →
    userOf (reached storedPairHash t0 (pre ++ mid)).db installId = some v → u ≠ v →
    ∃ m e m', mid = m ++ e :: m' ∧ Removes storedPairHash (reached storedPairHash t0 (pre ++ m)) e installId u
  /-- A user is linked to one installation. -/
  alone : ∀ pre post, es = pre ++ post → ∀ i j u, userOf (reached storedPairHash t0 pre).db i = some u →
    userOf (reached storedPairHash t0 pre).db j = some u → i = j
  /-- A code that is consumed was offered, and not consumed since. -/
  once : ∀ pre e post, es = pre ++ e :: post → ∀ stored,
    Consumes storedPairHash (reached storedPairHash t0 pre) e stored →
    Since (step storedPairHash) (fun pre e => Offers storedPairHash (reached storedPairHash t0 pre) e stored)
      (fun s e => Consumes storedPairHash s e stored) (start t0) pre
  /-- An installation has one code that can be redeemed. -/
  single : ∀ pre post, es = pre ++ post → ∀ stored stored' c c',
    (reached storedPairHash t0 pre).db.pairCodes.get stored = some c →
    (reached storedPairHash t0 pre).db.pairCodes.get stored' = some c' →
    Live (reached storedPairHash t0 pre) c → Live (reached storedPairHash t0 pre) c' →
    c.installId = c'.installId → stored = stored'
  /-- A code that can be redeemed is not taken over by another installation. -/
  held : ∀ pre e post, es = pre ++ e :: post → ∀ stored c c',
    (reached storedPairHash t0 pre).db.pairCodes.get stored = some c → Live (reached storedPairHash t0 pre) c →
    (reached storedPairHash t0 (pre ++ [e])).db.pairCodes.get stored = some c' → c'.installId = c.installId

/-- A redemption about to write finds what it read: its installation without another user's link, and no other installation
of its user where it found none. -/
def Current (s : State) (e : Event) : Prop :=
  ∀ id r displaced, e = .advance id → s.redemptions.get id = some r → r.stage = .selected displaced →
    (∀ u, userOf s.db r.installId = some u → u = r.telegram.userId) ∧
    (displaced = [] → ∀ i, userOf s.db i = some r.telegram.userId → i = r.installId)

/-! ## What a step does to the tables -/

section
variable {db : D1} {s : State} {e : Event} {stored installId : String} {expiresAt now : Int}

theorem get_withoutUnused : (withoutUnused db installId).get stored =
    (db.pairCodes.get stored).filter fun c => !(c.installId == installId && c.usedAt.isNone) := Table.get_keep ..

theorem storePairOffer_cases (db : D1) (installId stored : String) (expiresAt now : Int) :
    (∃ clamped, storePairOffer db installId stored expiresAt now =
      ({ db with pairCodes := (withoutUnused db installId).put ⟨stored, installId, clamped, none, now⟩ }, some clamped) ∧
      ∀ held, (withoutUnused db installId).get stored = some held → held.usedAt = none → held.expiresAt ≤ now) ∨
    storePairOffer db installId stored expiresAt now = ({ db with pairCodes := withoutUnused db installId }, none) := by
  unfold storePairOffer
  dsimp only
  cases hg : (withoutUnused db installId).get stored with
  | none => exact .inl ⟨_, rfl, fun _ h => by cases h⟩
  | some held =>
    dsimp only
    by_cases h : held.usedAt.isSome ∨ held.expiresAt ≤ now
    · rw [if_pos h]
      refine .inl ⟨_, rfl, fun held' hh hu => ?_⟩
      obtain rfl := Option.some.inj hh
      rw [hu] at h
      exact h.resolve_left (by simp)
    · rw [if_neg h]
      exact .inr rfl

theorem consumePairCode_cases (db : D1) (stored : String) (now : Int) :
    (∃ c, db.pairCodes.get stored = some c ∧ c.usedAt = none ∧ now < c.expiresAt ∧ consumePairCode db stored now = ({ db with pairCodes := db.pairCodes.put { c with usedAt := some now } }, some c.installId)) ∨
    consumePairCode db stored now = (db, none) := by
  unfold consumePairCode
  cases hg : db.pairCodes.get stored with
  | none => exact .inr rfl
  | some c =>
    dsimp only
    by_cases h : c.usedAt.isNone ∧ now < c.expiresAt
    · rw [if_pos h]
      exact .inl ⟨c, rfl, Option.isNone_iff_eq_none.1 h.1, h.2, rfl⟩
    · rw [if_neg h]
      exact .inr rfl

/-- **What a step does to the codes.** -/
inductive CodesStep (storedPairHash : String → String) (s : State) (e : Event) : D1 → Prop
  | same {db : D1} (h : db.pairCodes = s.db.pairCodes) : CodesStep storedPairHash s e db
  | kept {db : D1} (p : PairCode → Bool) (h : db.pairCodes = s.db.pairCodes.keep p) : CodesStep storedPairHash s e db
  | offered {db : D1} (stored installId : String) (clamped now : Int)
      (hoffers : Offers storedPairHash s e stored) (hnow : now ≤ s.clock)
      (hfree : ∀ held, (withoutUnused s.db installId).get stored = some held → held.usedAt = none → held.expiresAt ≤ now)
      (h : db.pairCodes = (withoutUnused s.db installId).put ⟨stored, installId, clamped, none, now⟩) :
      CodesStep storedPairHash s e db
  | consumed {db : D1} (c : PairCode) (now : Int) (hg : s.db.pairCodes.get c.codeHash = some c) (hu : c.usedAt = none)
      (h : db.pairCodes = s.db.pairCodes.put { c with usedAt := some now }) : CodesStep storedPairHash s e db

theorem codes_step (s : State) (e : Event) : CodesStep storedPairHash s e (step storedPairHash s e).db := by
  cases e with
  | tick ms => exact .same rfl
  | offer installId codeHash expiresAt now =>
    unfold step
    dsimp only
    by_cases h : now ≤ s.clock ∧ now < expiresAt
    · rw [if_pos h]
      rcases storePairOffer_cases s.db installId (storedPairHash codeHash) expiresAt now with ⟨clamped, ho, hfree⟩ | ho
      · rw [ho]
        refine .offered (storedPairHash codeHash) installId clamped now ⟨_, _, _, _, rfl, rfl, h.1, h.2, ?_⟩ h.1 hfree rfl
        rw [ho]
        rfl
      · rw [ho]
        exact .kept _ rfl
    · rw [if_neg h]
      exact .same rfl
  | redeem id telegram codeHash now =>
    unfold step
    dsimp only
    by_cases h : now ≤ s.clock ∧ s.redemptions.get id = none
    · rw [if_pos h]
      rcases consumePairCode_cases s.db (storedPairHash codeHash) now with ⟨c, hg, hu, -, hc⟩ | hc
      · rw [hc]
        obtain hk := Table.key_of_get hg
        exact .consumed c now (by rw [hk]; exact hg) hu rfl
      · rw [hc]
        exact .same rfl
    · rw [if_neg h]
      exact .same rfl
  | advance id =>
    unfold step
    dsimp only
    cases s.redemptions.get id with
    | none => exact .same rfl
    | some r =>
      dsimp only
      unfold advance
      cases r.stage with
      | consumed =>
        dsimp only
        cases getLinkByInstall s.db r.installId with
        | none => exact .same rfl
        | some existing =>
          dsimp only
          split
          · exact .same rfl
          · exact .same rfl
      | checked => exact .same rfl
      | selected displaced => exact .same rfl
  | abandon id => exact .same rfl
  | unlink installId => exact .kept _ rfl
  | purge now =>
    unfold step
    dsimp only
    by_cases h : now ≤ s.clock
    · rw [if_pos h]
      exact .kept _ rfl
    · rw [if_neg h]
      exact .same rfl

/-! ### Codes -/

def OneUnused (codes : Table PairCode.codeHash) : Prop :=
  ∀ h h' c c', codes.get h = some c → codes.get h' = some c' → c.usedAt = none → c'.usedAt = none →
    c.installId = c'.installId → h = h'

theorem survives {c : PairCode} (h : (withoutUnused db installId).get stored = some c) :
    db.pairCodes.get stored = some c ∧ (c.usedAt = none → c.installId ≠ installId) := by
  rw [get_withoutUnused, Option.filter_eq_some_iff] at h
  refine ⟨h.1, fun hu hi => ?_⟩
  have hf := h.2
  rw [hu, hi] at hf
  simp at hf

theorem oneUnused_step {db : D1} (h : OneUnused s.db.pairCodes) (hs : CodesStep storedPairHash s e db) :
    OneUnused db.pairCodes := by
  intro k k' c c' hc hc' hu hu' hi
  cases hs with
  | same hdb =>
    rw [hdb] at hc hc'
    exact h k k' c c' hc hc' hu hu' hi
  | kept p hdb =>
    rw [hdb, Table.get_keep, Option.filter_eq_some_iff] at hc hc'
    exact h k k' c c' hc.1 hc'.1 hu hu' hi
  | offered stored installId clamped now _ _ _ hdb =>
    rw [hdb, Table.get_put] at hc hc'
    split at hc
    · split at hc'
      · rename_i hk hk'
        rw [hk, hk']
      · obtain rfl := Option.some.inj hc
        exact absurd hi.symm ((survives hc').2 hu')
    · split at hc'
      · obtain rfl := Option.some.inj hc'
        exact absurd hi ((survives hc).2 hu)
      · exact h k k' c c' (survives hc).1 (survives hc').1 hu hu' hi
  | consumed c₀ now _ _ hdb =>
    rw [hdb, Table.get_put] at hc hc'
    split at hc
    · obtain rfl := Option.some.inj hc
      cases hu
    · split at hc'
      · obtain rfl := Option.some.inj hc'
        cases hu'
      · exact h k k' c c' hc hc' hu hu' hi

theorem held_step {db : D1} {c c' : PairCode} (hs : CodesStep storedPairHash s e db)
    (hc : s.db.pairCodes.get stored = some c) (hl : Live s c) (hc' : db.pairCodes.get stored = some c') :
    c'.installId = c.installId := by
  cases hs with
  | same hdb =>
    rw [hdb, hc] at hc'
    rw [Option.some.inj hc']
  | kept p hdb =>
    rw [hdb, Table.get_keep, Option.filter_eq_some_iff, hc] at hc'
    rw [Option.some.inj hc'.1]
  | offered stored' installId clamped now _ hnow hfree hdb =>
    rw [hdb, Table.get_put] at hc'
    split at hc'
    · rename_i hk
      subst hk
      obtain rfl := Option.some.inj hc'
      by_contra hne
      have hsurvives : (withoutUnused s.db installId).get stored = some c := by
        rw [get_withoutUnused, hc, Option.filter_some, if_pos]
        have : c.installId ≠ installId := fun he => hne he.symm
        simp [this]
      have := hfree c hsurvives hl.1
      have := hl.2
      omega
    · have hc'' := (survives hc').1
      rw [hc] at hc''
      rw [Option.some.inj hc'']
  | consumed c₀ now hg _ hdb =>
    rw [hdb, Table.get_put] at hc'
    split at hc'
    · rename_i hk
      obtain rfl := Option.some.inj hc'
      replace hk : stored = c₀.codeHash := hk
      rw [hk, hg] at hc
      rw [← Option.some.inj hc]
    · rw [hc] at hc'
      rw [Option.some.inj hc']

theorem consumes_used {c : PairCode} (h : Consumes storedPairHash s e stored)
    (hc : (step storedPairHash s e).db.pairCodes.get stored = some c) : c.usedAt ≠ none := by
  obtain ⟨id, telegram, codeHash, now, rfl, rfl, hnow, hid, hsome⟩ := h
  unfold step at hc
  dsimp only at hc
  rw [if_pos ⟨hnow, hid⟩] at hc
  rcases consumePairCode_cases s.db (storedPairHash codeHash) now with ⟨c₀, hg, -, -, hcons⟩ | hcons
  · rw [hcons] at hc
    replace hc : (s.db.pairCodes.put { c₀ with usedAt := some now }).get (storedPairHash codeHash) = some c := hc
    rw [Table.get_put, if_pos (Table.key_of_get hg).symm] at hc
    obtain rfl := Option.some.inj hc
    exact Option.some_ne_none _
  · rw [hcons] at hsome
    cases hsome

/-- **An unused code was offered in this step**, or was there and not consumed in it. -/
theorem unused_step {c : PairCode} (hc : (step storedPairHash s e).db.pairCodes.get stored = some c) (hu : c.usedAt = none) :
    Offers storedPairHash s e stored ∨ (s.db.pairCodes.get stored = some c ∧ ¬ Consumes storedPairHash s e stored) := by
  have hnot : ¬ Consumes storedPairHash s e stored := fun h => consumes_used h hc hu
  have hs : CodesStep storedPairHash s e (step storedPairHash s e).db := codes_step s e
  generalize (step storedPairHash s e).db = db at hc hs
  cases hs with
  | same hdb => exact .inr ⟨by rw [← hdb]; exact hc, hnot⟩
  | kept p hdb =>
    rw [hdb, Table.get_keep, Option.filter_eq_some_iff] at hc
    exact .inr ⟨hc.1, hnot⟩
  | offered stored' installId clamped now hoffers _ _ hdb =>
    rw [hdb, Table.get_put] at hc
    split at hc
    · rename_i hk
      rw [hk]
      exact .inl hoffers
    · exact .inr ⟨(survives hc).1, hnot⟩
  | consumed c₀ now _ _ hdb =>
    rw [hdb, Table.get_put] at hc
    split at hc
    · obtain rfl := Option.some.inj hc
      cases hu
    · exact .inr ⟨hc, hnot⟩

/-! ### Links -/

/-- **What a step does to the links.** -/
inductive LinksStep (s : State) (e : Event) : D1 → Prop
  | same {db : D1} (h : db.tgLinks = s.db.tgLinks) : LinksStep s e db
  | unlinked {db : D1} (installId : String) (he : e = .unlink installId) (h : db.tgLinks = s.db.tgLinks.delete installId) :
      LinksStep s e db
  | written {db : D1} (id : Nat) (r : Redemption) (displaced : List String) (he : e = .advance id)
      (hr : s.redemptions.get id = some r) (hstage : r.stage = .selected displaced)
      (h : db = writeLink s.db r.installId r.telegram displaced r.now) : LinksStep s e db

theorem links_step (s : State) (e : Event) : LinksStep s e (step storedPairHash s e).db := by
  cases e with
  | tick ms => exact .same rfl
  | offer installId codeHash expiresAt now =>
    unfold step
    dsimp only
    split
    · rcases storePairOffer_cases s.db installId (storedPairHash codeHash) expiresAt now with ⟨clamped, ho, -⟩ | ho
      · rw [ho]
        exact .same rfl
      · rw [ho]
        exact .same rfl
    · exact .same rfl
  | redeem id telegram codeHash now =>
    unfold step
    dsimp only
    split
    · rcases consumePairCode_cases s.db (storedPairHash codeHash) now with
        ⟨c, -, -, -, hc⟩ | hc
      · rw [hc]
        exact .same rfl
      · rw [hc]
        exact .same rfl
    · exact .same rfl
  | advance id =>
    unfold step
    dsimp only
    cases hr : s.redemptions.get id with
    | none => exact .same rfl
    | some r =>
      dsimp only
      unfold advance
      cases hstage : r.stage with
      | consumed =>
        dsimp only
        cases getLinkByInstall s.db r.installId with
        | none => exact .same rfl
        | some existing =>
          dsimp only
          split
          · exact .same rfl
          · exact .same rfl
      | checked => exact .same rfl
      | selected displaced => exact .written id r displaced rfl hr hstage rfl
  | abandon id => exact .same rfl
  | unlink installId => exact .unlinked installId rfl rfl
  | purge now =>
    unfold step
    dsimp only
    split
    · exact .same rfl
    · exact .same rfl

theorem get_writeLink (db : D1) (installId : String) (telegram : TelegramIdentity) (displaced : List String) (now : Int)
    (i : String) : (writeLink db installId telegram displaced now).tgLinks.get i =
      if i = installId then some ⟨installId, telegram, now⟩
      else if displaced = [] then db.tgLinks.get i
      else (db.tgLinks.get i).filter fun l => l.telegram.userId ≠ telegram.userId := by
  unfold writeLink
  dsimp only
  by_cases hd : displaced = []
  · rw [if_pos (by simp [hd]), if_pos hd, Table.get_put]
  · rw [if_neg (by simpa using hd), if_neg hd, Table.get_keep, Table.get_put]
    dsimp only
    by_cases hi : i = installId
    · rw [if_pos hi, if_pos hi]
      simp
    · rw [if_neg hi, if_neg hi]
      cases hl : db.tgLinks.get i with
      | none => rfl
      | some l =>
        have hl' : l.installId ≠ installId := by
          rw [Table.key_of_get hl]
          exact hi
        simp [Option.filter, hl']

/-- **No link is taken over** in a step whose redemption finds what it read. -/
theorem user_step {db : D1} {u v : Int} (hs : LinksStep s e db) (hc : Current s e) (hu : userOf s.db installId = some u)
    (hv : userOf db installId = some v) : u = v := by
  cases hs with
  | same hdb =>
    unfold userOf at hu hv
    rw [hdb, hu] at hv
    exact Option.some.inj hv
  | unlinked i _ hdb =>
    unfold userOf at hu hv
    rw [hdb, Table.get_delete] at hv
    split at hv
    · cases hv
    · rw [hu] at hv
      exact Option.some.inj hv
  | written id r displaced he hr hstage hdb =>
    subst hdb
    by_cases hi : installId = r.installId
    · have hmine := (hc id r displaced he hr hstage).1 u (by rw [← hi]; exact hu)
      unfold userOf at hv
      rw [get_writeLink, if_pos hi] at hv
      rw [hmine]
      exact Option.some.inj hv
    · unfold userOf at hu hv
      rw [get_writeLink, if_neg hi] at hv
      split at hv
      · rw [hu] at hv
        exact Option.some.inj hv
      · obtain ⟨l, hl, rfl⟩ := Option.map_eq_some_iff.1 hv
        obtain ⟨hl, -⟩ := Option.filter_eq_some_iff.1 hl
        rw [hl] at hu
        exact (Option.some.inj hu).symm

/-- **A link that goes in a step was removed.** -/
theorem removes_step {u : Int} (hu : userOf s.db installId = some u)
    (hn : userOf (step storedPairHash s e).db installId = none) : Removes storedPairHash s e installId u := by
  refine ⟨hu, hn, ?_⟩
  have hs : LinksStep s e (step storedPairHash s e).db := links_step s e
  generalize (step storedPairHash s e).db = db at hn hs
  unfold userOf at hu hn
  cases hs with
  | same hdb =>
    rw [hdb, hu] at hn
    cases hn
  | unlinked i he hdb =>
    rw [hdb, Table.get_delete] at hn
    split at hn
    · rename_i hi
      rw [hi]
      exact .inl he
    · rw [hu] at hn
      cases hn
  | written id r displaced he hr hstage hdb =>
    rw [hdb, get_writeLink] at hn
    split at hn
    · cases hn
    · rename_i hi
      split at hn
      · rw [hu] at hn
        cases hn
      · obtain ⟨l, hl, hlu⟩ := Option.map_eq_some_iff.1 hu
        rw [hl, Option.filter_some] at hn
        split at hn
        · cases hn
        · rename_i hne
          have huser : l.telegram.userId = r.telegram.userId := by simpa using hne
          exact .inr ⟨id, r, displaced, he, hr, hstage, huser.symm.trans hlu, Ne.symm hi⟩

/-- No user is linked twice. -/
def Alone (db : D1) : Prop := ∀ i j u, userOf db i = some u → userOf db j = some u → i = j

theorem alone_step {db : D1} (h : Alone s.db) (hs : LinksStep s e db) (hc : Current s e) : Alone db := by
  intro i j u hi hj
  cases hs with
  | same hdb =>
    unfold userOf at hi hj
    rw [hdb] at hi hj
    exact h i j u hi hj
  | unlinked k _ hdb =>
    unfold userOf at hi hj
    rw [hdb, Table.get_delete] at hi hj
    split at hi
    · cases hi
    · split at hj
      · cases hj
      · exact h i j u hi hj
  | written id r displaced he hr hstage hdb =>
    have hold : ∀ k, k ≠ r.installId → userOf db k = some u → userOf s.db k = some u ∧ u ≠ r.telegram.userId := by
      intro k hk hu
      unfold userOf at hu
      rw [hdb, get_writeLink, if_neg hk] at hu
      split at hu
      · rename_i hd
        refine ⟨hu, fun huser => ?_⟩
        subst huser
        exact hk ((hc id r displaced he hr hstage).2 hd k hu)
      · obtain ⟨l, hl, rfl⟩ := Option.map_eq_some_iff.1 hu
        obtain ⟨hl, hne⟩ := Option.filter_eq_some_iff.1 hl
        refine ⟨?_, by simpa using hne⟩
        unfold userOf
        rw [hl]
        rfl
    have hnew : ∀ k, k = r.installId → userOf db k = some u → u = r.telegram.userId := by
      intro k hk hu
      unfold userOf at hu
      rw [hdb, get_writeLink, if_pos hk] at hu
      exact (Option.some.inj hu).symm
    by_cases hi' : i = r.installId
    · by_cases hj' : j = r.installId
      · rw [hi', hj']
      · exact absurd (hnew i hi' hi) (hold j hj' hj).2
    · by_cases hj' : j = r.installId
      · exact absurd (hnew j hj' hj) (hold i hi' hi).2
      · exact h i j u (hold i hi' hi).1 (hold j hj' hj).1

end

/-! ## Runs -/

section
variable {t0 : Int} {es pre : List Event}

theorem reached_snoc (pre : List Event) (e : Event) :
    reached storedPairHash t0 (pre ++ [e]) = step storedPairHash (reached storedPairHash t0 pre) e := after_snoc

theorem oneUnused_reached (es : List Event) : OneUnused (reached storedPairHash t0 es).db.pairCodes := by
  have h0 : OneUnused (start t0).db.pairCodes := fun k _ c _ hc => by
    cases hc
  exact invariant (P := fun s => OneUnused s.db.pairCodes) h0 (fun s e h => oneUnused_step h (codes_step s e)) es

/-- **An unused code was offered, and not consumed since.** -/
theorem unused_since (es : List Event) : ∀ stored c, (reached storedPairHash t0 es).db.pairCodes.get stored = some c →
    c.usedAt = none → Since (step storedPairHash)
      (fun pre e => Offers storedPairHash (reached storedPairHash t0 pre) e stored)
      (fun s e => Consumes storedPairHash s e stored) (start t0) es := by
  induction es using List.reverseRecOn with
  | nil =>
    intro stored c hc
    cases hc
  | append_singleton es e ih =>
    intro stored c hc hu
    rw [reached_snoc] at hc
    rcases unused_step hc hu with ho | ⟨hc', hn⟩
    · exact since_now ho
    · exact since_later (ih stored c hc' hu) hn

theorem consumes_unused {s : State} {e : Event} {stored : String} (h : Consumes storedPairHash s e stored) :
    ∃ c, s.db.pairCodes.get stored = some c ∧ c.usedAt = none := by
  obtain ⟨id, telegram, codeHash, now, rfl, rfl, -, -, hsome⟩ := h
  rcases consumePairCode_cases s.db (storedPairHash codeHash) now with ⟨c, hg, hu, -, -⟩ | hc
  · exact ⟨c, hg, hu⟩
  · rw [hc] at hsome
    cases hsome

theorem alone_reached (h : Along (step storedPairHash) Current (start t0) es) : Alone (reached storedPairHash t0 es).db := by
  induction es using List.reverseRecOn with
  | nil =>
    intro i j u hi
    cases hi
  | append_singleton es e ih =>
    obtain ⟨hpre, he⟩ := along_snoc.1 h
    rw [reached_snoc]
    exact alone_step (ih hpre) (links_step _ e) he

/-- A link that is another user's after a run was removed in it. -/
theorem removed_between {installId : String} {u v : Int} (mid : List Event) (h : ∀ m e m', mid = m ++ e :: m' →
      Current (reached storedPairHash t0 (pre ++ m)) e)
    (hu : userOf (reached storedPairHash t0 pre).db installId = some u)
    (hv : userOf (reached storedPairHash t0 (pre ++ mid)).db installId = some v) (hne : u ≠ v) :
    ∃ m e m', mid = m ++ e :: m' ∧ Removes storedPairHash (reached storedPairHash t0 (pre ++ m)) e installId u := by
  induction mid generalizing pre with
  | nil =>
    rw [List.append_nil, hu] at hv
    exact absurd (Option.some.inj hv) hne
  | cons e mid ih =>
    have hcurrent : Current (reached storedPairHash t0 pre) e := by
      have := h [] e mid rfl
      rwa [List.append_nil] at this
    cases hstep : userOf (reached storedPairHash t0 (pre ++ [e])).db installId with
    | none =>
      refine ⟨[], e, mid, rfl, ?_⟩
      rw [List.append_nil]
      rw [reached_snoc] at hstep
      exact removes_step hu hstep
    | some u' =>
      have hsame : u = u' := by
        rw [reached_snoc] at hstep
        exact user_step (links_step _ e) hcurrent hu hstep
      subst hsame
      have hsplit : pre ++ e :: mid = (pre ++ [e]) ++ mid := by simp
      rw [hsplit] at hv
      obtain ⟨m, e', m', hmid, hrem⟩ := ih (fun m e' m' hm => by
        have := h (e :: m) e' m' (by rw [hm]; rfl)
        rwa [show pre ++ e :: m = pre ++ [e] ++ m by simp] at this) hstep hv
      refine ⟨e :: m, e', m', by rw [hmid]; rfl, ?_⟩
      rwa [show pre ++ e :: m = pre ++ [e] ++ m by simp]

theorem only_event {e e' : Event} {m m' : List Event} (h : [e] = m ++ e' :: m') : m = [] ∧ e' = e := by
  cases m with
  | nil => exact ⟨rfl, (List.cons.inj h).1.symm⟩
  | cons x m => exact absurd (List.cons.inj h).2.symm (by simp)

theorem advance_selected {s : State} {id : Nat} {r : Redemption} {displaced : List String}
    (hr : s.redemptions.get id = some r) (hstage : r.stage = .selected displaced) :
    (step storedPairHash s (.advance id)).db = writeLink s.db r.installId r.telegram displaced r.now := by
  unfold step
  dsimp only
  rw [hr]
  dsimp only
  unfold advance
  rw [hstage]

/-- **Codes are safe in every run, and links in just those whose redemptions find, when they write, what they read.** -/
theorem linksSafe_iff (storedPairHash : String → String) (t0 : Int) (es : List Event) :
    LinksSafe storedPairHash t0 es ↔ Along (step storedPairHash) Current (start t0) es := by
  constructor
  · intro h
    refine along_iff.2 fun pre e post hes id r displaced he hr hstage => ?_
    subst he
    have hafter : (reached storedPairHash t0 (pre ++ [.advance id])).db =
        writeLink (reached storedPairHash t0 pre).db r.installId r.telegram displaced r.now := by
      rw [reached_snoc]
      exact advance_selected hr hstage
    have hnew : userOf (reached storedPairHash t0 (pre ++ [.advance id])).db r.installId = some r.telegram.userId := by
      unfold userOf
      rw [hafter, get_writeLink, if_pos rfl]
      rfl
    constructor
    · intro u hu
      by_contra hne
      obtain ⟨m, e, m', hm, -, hnone, -⟩ :=
        h.moves pre [.advance id] post (by rw [hes]; simp) r.installId u r.telegram.userId hu hnew hne
      obtain ⟨rfl, rfl⟩ := only_event hm
      rw [List.append_nil, ← reached_snoc, hnew] at hnone
      cases hnone
    · intro hd i hi
      by_contra hne
      have hkept : userOf (reached storedPairHash t0 (pre ++ [.advance id])).db i = some r.telegram.userId := by
        unfold userOf
        rw [hafter, get_writeLink, if_neg hne, if_pos hd]
        exact hi
      exact hne (h.alone (pre ++ [.advance id]) post (by rw [hes]; simp) i r.installId _ hkept hnew)
  · intro h
    have hcurrent := along_iff.1 h
    refine ⟨fun pre mid post hes installId u v hu hv hne => ?_, fun pre post hes => ?_, fun pre e post hes stored hcons => ?_,
      fun pre post hes stored stored' c c' hc hc' hl hl' hi => ?_, fun pre e post hes stored c c' hc hl hc' => ?_⟩
    · refine removed_between mid (fun m e m' hm => hcurrent (pre ++ m) e (m' ++ post) ?_) hu hv hne
      rw [hes, hm]
      simp
    · refine alone_reached (along_iff.2 fun pre' e post' hpre => hcurrent pre' e (post' ++ post) ?_)
      rw [hes, hpre]
      simp
    · obtain ⟨c, hc, hu⟩ := consumes_unused hcons
      exact unused_since pre stored c hc hu
    · exact oneUnused_reached pre stored stored' c c' hc hc' hl.1 hl'.1 hi
    · rw [reached_snoc] at hc'
      exact held_step (codes_step _ e) hc hl hc'

end

/-! ### Two users, two codes of one installation -/

/-- Both redemptions read the installation's link before either writes it. -/
def raced : List Event :=
  [.offer "install-1" "c1" 1300000 1000000, .redeem 1 ⟨7, 7, "owner"⟩ "c1" 1000000, .advance 1,
   .offer "install-1" "c2" 1300000 1000000, .redeem 2 ⟨8, 8, "stranger"⟩ "c2" 1000000, .advance 2,
   .advance 1, .advance 1, .advance 2, .advance 2]

/-- **A stranger's redemption takes a paired installation over**: both checks came before both links. -/
theorem raced_not_safe : ¬ LinksSafe id 1000000 raced := by
  intro h
  have hu : userOf (reached id 1000000 (raced.take 9)).db "install-1" = some 7 := by decide +kernel
  have hv : userOf (reached id 1000000 (raced.take 9 ++ [.advance 2])).db "install-1" = some 8 := by decide +kernel
  obtain ⟨m, e, m', hm, -, hnone, -⟩ := h.moves (raced.take 9) [.advance 2] [] rfl "install-1" 7 8 hu hv (by decide)
  obtain ⟨rfl, rfl⟩ := only_event hm
  rw [List.append_nil, ← reached_snoc, hv] at hnone
  cases hnone

end Gateway
end Atra
