import Atra.Notifier
import Mathlib.Data.List.Perm.Basic
import Mathlib.Algebra.Order.Group.Unbundled.Int
/-!
# NotifierLimits — how often a message goes out

The cap holds over every half-open hour of every run.  The spacing of messages with one deduplication key or one rejection
code holds as long as each delivery that fails does so while what stands under its key and its code is its own: a delivery
that fails later than that takes back what another call has reserved since.
-/
namespace Atra
namespace Notifier

open History

/-- The calls that hold what they reserved: the message went out, or waits for its delivery. -/
def alive (s : System) : List Call := sentCalls s ++ s.inFlight.map Sending.call

/-- A call made in the hour that ends with `t`. -/
def inHour (t : Int) (call : Call) : Bool := t - dedupeMs < call.now && call.now ≤ t

/-- Far enough apart, in either order. -/
structure Apart (c d : Call) : Prop where
  dedupe : dedupeKey c.event = dedupeKey d.event → dedupeMs ≤ |c.now - d.now|
  cooldown : ∀ key, cooldownKey c.event = some key → cooldownKey d.event = some key →
    rejectionCooldownMs ≤ |c.now - d.now|

/-- The deduplication key and the cooldown of each call that went out or waits stand until they expire. -/
structure Standing (s : System) : Prop where
  dedupe : ∀ call ∈ alive s, s.clock - dedupeMs < call.now → s.notifier.dedupe (dedupeKey call.event) = some call.now
  cooldowns : ∀ call ∈ alive s, ∀ key, cooldownKey call.event = some key → s.clock < call.now + rejectionCooldownMs →
    ∃ entry, s.notifier.cooldowns key = some entry ∧ entry.endsAt = call.now + rejectionCooldownMs

/-- Whatever these calls have reserved stands, a slot each included. -/
structure Reserved (s : System) : Prop extends Standing s where
  slots : s.notifier.sentAt.Perm (((alive s).map Call.now).filter fun time => s.clock - dedupeMs < time)

/-- A delivery that fails finds nothing under its deduplication key and its rejection code but what it put there. -/
def OwnStanding (s : System) : Event → Prop
  | .settled i false => ∀ sending ∈ s.inFlight[i]?,
      (∀ time ∈ s.notifier.dedupe (dedupeKey sending.call.event), time = sending.call.now) ∧
      ∀ entry ∈ standingCooldown sending.call.event s.notifier, entry.endsAt = sending.call.now + rejectionCooldownMs
  | _ => True

theorem Apart.symm {c d : Call} (h : Apart c d) : Apart d c where
  dedupe hkey := by
    rw [abs_sub_comm]
    exact h.dedupe hkey.symm
  cooldown key hd hc := by
    rw [abs_sub_comm]
    exact h.cooldown key hc hd

/-! ## The calls that hold a reservation -/

variable {s s' : System} {e : Event}

theorem sentCalls_ended {notifier : State} {inFlight : List Sending} {last : Ended} {clock : Int} :
    sentCalls ⟨notifier, inFlight, s.ended ++ [last], clock⟩ =
      sentCalls s ++ if last.outcome = .sent then [last.call] else [] := by
  unfold sentCalls
  rw [List.filter_append, List.map_append]
  by_cases hsent : last.outcome = .sent
  · rw [if_pos hsent]
    simp [hsent]
  · rw [if_neg hsent]
    simp [hsent]

theorem inFlight_perm {l : List Sending} {i : Nat} {sending : Sending} (hi : l[i]? = some sending) :
    (sending :: l.eraseIdx i).Perm l := by
  obtain ⟨hlt, rfl⟩ := List.getElem?_eq_some_iff.1 hi
  exact List.getElem_cons_eraseIdx_perm hlt

section
variable {notifier : State} {clock : Int} {i : Nat} {sending : Sending}

theorem alive_returned {last : Ended} (h : last.outcome ≠ .sent) :
    alive ⟨notifier, s.inFlight, s.ended ++ [last], clock⟩ = alive s := by
  unfold alive
  rw [sentCalls_ended, if_neg h, List.append_nil]

theorem alive_began : alive ⟨notifier, s.inFlight ++ [sending], s.ended, clock⟩ = alive s ++ [sending.call] := by
  show sentCalls s ++ List.map Sending.call (s.inFlight ++ [sending]) = _
  rw [List.map_append, ← List.append_assoc]
  rfl

theorem alive_delivered (notifier : State) (clock : Int) (n : Nat) (hi : s.inFlight[i]? = some sending) :
    (alive ⟨notifier, s.inFlight.eraseIdx i, s.ended ++ [⟨sending.call, .sent, n⟩], clock⟩).Perm (alive s) := by
  unfold alive
  rw [sentCalls_ended, if_pos rfl, List.append_assoc]
  exact ((inFlight_perm hi).map Sending.call).append_left _

theorem alive_failed (notifier : State) (clock : Int) (n : Nat) (hi : s.inFlight[i]? = some sending) :
    (alive s).Perm
      (sending.call :: alive ⟨notifier, s.inFlight.eraseIdx i, s.ended ++ [⟨sending.call, .failed, n⟩], clock⟩) := by
  unfold alive
  rw [sentCalls_ended, if_neg (by decide : NotifyOutcome.failed ≠ .sent), List.append_nil]
  exact (((inFlight_perm hi).symm.map Sending.call).append_left _).trans List.perm_middle

end

@[simp] theorem setCooldown_sentAt (event : NotificationEvent) (entry : Option Cooldown) (st : State) :
    (setCooldown event entry st).sentAt = st.sentAt := by
  unfold setCooldown
  cases cooldownKey event <;> rfl

@[simp] theorem setCooldown_dedupe (event : NotificationEvent) (entry : Option Cooldown) (st : State) :
    (setCooldown event entry st).dedupe = st.dedupe := by
  unfold setCooldown
  cases cooldownKey event <;> rfl

theorem setCooldown_self {event : NotificationEvent} {key : String} (h : cooldownKey event = some key)
    (entry : Option Cooldown) (st : State) : (setCooldown event entry st).cooldowns key = entry := by
  unfold setCooldown
  rw [h]
  exact Function.update_self ..

theorem setCooldown_other {event : NotificationEvent} {key : String} (h : cooldownKey event ≠ some key)
    (entry : Option Cooldown) (st : State) : (setCooldown event entry st).cooldowns key = st.cooldowns key := by
  unfold setCooldown
  cases hkey : cooldownKey event with
  | none => rfl
  | some own => exact Function.update_of_ne (fun heq => h (by rw [hkey, heq])) ..

/-! ## The slots -/

/-- The slots taken, with what keeps `#prune` exact: the times are in order, and none is ahead of the clock. -/
structure Slots (s : System) : Prop where
  taken : s.notifier.sentAt.Perm (((alive s).map Call.now).filter fun time => s.clock - dedupeMs < time)
  sorted : s.notifier.sentAt.Pairwise (· ≤ ·)
  past : ∀ call ∈ alive s, call.now ≤ s.clock

theorem dropWhile_sorted {times : List Int} (h : times.Pairwise (· ≤ ·)) (t : Int) :
    times.dropWhile (fun time => time ≤ t) = times.filter fun time => t < time := by
  induction times with
  | nil => rfl
  | cons time times ih =>
    obtain ⟨hhead, htail⟩ := List.pairwise_cons.1 h
    by_cases hle : time ≤ t
    · rw [List.dropWhile_cons_of_pos (by simpa using hle), ih htail, List.filter_cons_of_neg (by simpa using hle)]
    · have hlater : ∀ other ∈ time :: times, t < other := by
        intro other hother
        rcases List.mem_cons.1 hother with rfl | hother
        · exact Int.not_le.1 hle
        · exact lt_of_lt_of_le (Int.not_le.1 hle) (hhead other hother)
      rw [List.dropWhile_cons_of_neg (by simpa using hle), List.filter_eq_self.2 fun other hother =>
        decide_eq_true (hlater other hother)]

/-- **Pruning leaves the slots of the last hour.** -/
theorem Slots.pruned (h : Slots s) {now : Int} (hnow : s.clock ≤ now) :
    (prune now s.notifier).sentAt.Perm (((alive s).map Call.now).filter fun time => now - dedupeMs < time) ∧
      (prune now s.notifier).sentAt.Pairwise (· ≤ ·) := by
  have hfilter : (prune now s.notifier).sentAt = s.notifier.sentAt.filter fun time => now - dedupeMs < time :=
    dropWhile_sorted h.sorted _
  rw [hfilter]
  refine ⟨?_, h.sorted.filter _⟩
  have hperm := h.taken.filter fun time => now - dedupeMs < time
  rw [List.filter_filter] at hperm
  convert hperm using 2
  funext time
  by_cases htime : now - dedupeMs < time
  · have hclock : s.clock - dedupeMs < time := by omega
    simp [htime, hclock]
  · simp [htime]

theorem removeLast_perm (time : Int) (times : List Int) : (removeLast time times).Perm (times.erase time) := by
  unfold removeLast
  exact (List.reverse_perm _).trans ((List.reverse_perm times).erase time)

theorem removeLast_sublist (time : Int) (times : List Int) : (removeLast time times).Sublist times := by
  unfold removeLast
  simpa using (List.erase_sublist (a := time) (l := times.reverse)).reverse

/-- A call that returns at once changes no slot beyond those that expire. -/
theorem Slots.returned (h : Slots s) {notifier : State} {now : Int} {last : Ended} (hnow : s.clock ≤ now)
    (hsent : last.outcome ≠ .sent) (hslots : notifier.sentAt = (prune now s.notifier).sentAt) :
    Slots ⟨notifier, s.inFlight, s.ended ++ [last], now⟩ := by
  obtain ⟨htaken, hsorted⟩ := h.pruned hnow
  refine ⟨?_, ?_, ?_⟩
  · rw [alive_returned hsent, hslots]
    exact htaken
  · rw [hslots]
    exact hsorted
  · rw [alive_returned hsent]
    exact fun call hcall => (h.past call hcall).trans hnow

theorem Slots.step (h : Slots s) (hforward : Forward s e) (hdid : Did s e s') : Slots s' := by
  cases hdid with
  | refused settings call outcome hsent hcooldown => exact h.returned hforward hsent rfl
  | cooled settings call key active hkey hactive hends =>
    exact h.returned hforward (by simp) (setCooldown_sentAt ..)
  | began settings call hdedupe hover hcap =>
    obtain ⟨htaken, hsorted⟩ := h.pruned hforward
    have hslots : (reserve call (prune call.now s.notifier)).sentAt = (prune call.now s.notifier).sentAt ++ [call.now] :=
      setCooldown_sentAt ..
    have hold : call.now - dedupeMs < call.now := by
      have hhour : (0 : Int) < dedupeMs := by decide
      omega
    refine ⟨?_, ?_, ?_⟩
    · rw [alive_began, hslots, List.map_append, List.filter_append]
      refine htaken.append ?_
      simp [hold]
    · rw [hslots, List.pairwise_append]
      refine ⟨hsorted, List.pairwise_singleton .., ?_⟩
      intro time htime last hlast
      obtain ⟨other, hother, rfl⟩ := List.mem_map.1 (List.mem_of_mem_filter (htaken.subset htime))
      rw [List.mem_singleton.1 hlast]
      exact (h.past other hother).trans hforward
    · rw [alive_began]
      intro other hother
      rcases List.mem_append.1 hother with hother | hother
      · exact (h.past other hother).trans hforward
      · exact le_of_eq (congrArg Call.now (List.mem_singleton.1 hother))
  | delivered i sending hi =>
    have halive := alive_delivered s.notifier s.clock sending.suppressed hi
    refine ⟨?_, h.sorted, fun call hcall => h.past call (halive.subset hcall)⟩
    exact h.taken.trans ((halive.map Call.now).filter _).symm
  | failed i sending hi =>
    have halive := alive_failed (giveBack sending s.notifier) s.clock sending.suppressed hi
    have hslots : (giveBack sending s.notifier).sentAt = removeLast sending.call.now s.notifier.sentAt :=
      setCooldown_sentAt ..
    refine ⟨?_, ?_, fun call hcall => h.past call (halive.symm.subset (List.mem_cons_of_mem _ hcall))⟩
    · -- the time given back is the first of the filtered times, or it has expired and is not among them
      rw [hslots]
      have hrest := (removeLast_perm sending.call.now s.notifier.sentAt).trans (h.taken.erase _)
      have hall := (halive.map Call.now).filter fun time => s.clock - dedupeMs < time
      rw [List.map_cons] at hall
      refine hrest.trans ((hall.erase _).trans ?_)
      by_cases hkept : s.clock - dedupeMs < sending.call.now
      · rw [List.filter_cons_of_pos (by simpa using hkept), List.erase_cons_head]
      · rw [List.filter_cons_of_neg (by simpa using hkept), List.erase_of_not_mem]
        intro hmem
        exact hkept (of_decide_eq_true (List.mem_filter.1 hmem).2)
    · rw [hslots]
      exact h.sorted.sublist (removeLast_sublist ..)
  | missed i delivered hi => exact h

/-! ## The cap -/

/-- No half-open hour holds more calls than the cap. -/
def Capped (s : System) : Prop := ∀ t, (alive s).countP (inHour t) ≤ hourlyCap

theorem Capped.step (h : Capped s) (hslots : Slots s) (hforward : Forward s e) (hdid : Did s e s') : Capped s' := by
  intro t
  cases hdid with
  | refused settings call outcome hsent hcooldown =>
    rw [alive_returned hsent]
    exact h t
  | cooled settings call key active hkey hactive hends =>
    rw [alive_returned (by simp)]
    exact h t
  | began settings call hdedupe hover hcap =>
    rw [alive_began, List.countP_append, List.countP_singleton]
    by_cases hin : inHour t call = true
    · -- an hour the new call falls in holds only slots that are still taken
      have hout : (alive s).countP (inHour t) ≤ (prune call.now s.notifier).sentAt.length := by
        rw [(hslots.pruned hforward).1.length_eq, ← List.countP_eq_length_filter, List.countP_map]
        apply List.countP_mono_left
        intro other hother hother'
        simp only [inHour, Bool.and_eq_true, decide_eq_true_eq] at hin hother'
        simp only [Function.comp_apply, decide_eq_true_eq]
        omega
      rw [if_pos hin]
      omega
    · rw [if_neg hin]
      exact h t
  | delivered i sending hi =>
    rw [(alive_delivered s.notifier s.clock sending.suppressed hi).countP_eq]
    exact h t
  | failed i sending hi =>
    have hcount := (alive_failed (giveBack sending s.notifier) s.clock sending.suppressed hi).countP_eq (inHour t)
    rw [List.countP_cons] at hcount
    have hle := h t
    omega
  | missed i delivered hi => exact h t

theorem sentCalls_countP_le (s : System) (t : Int) : (sentCalls s).countP (inHour t) ≤ (alive s).countP (inHour t) := by
  unfold alive
  rw [List.countP_append]
  exact Nat.le_add_right ..

/-! ## The spacing -/

/-- What carries the spacing: the calls are apart, and what they reserved stands. -/
structure Spaced (s : System) : Prop extends Standing s where
  apart : (alive s).Pairwise Apart

theorem prune_dedupe {now time : Int} {key : String} {st : State} (h : st.dedupe key = some time)
    (hkept : now - dedupeMs < time) : (prune now st).dedupe key = some time := by
  show (st.dedupe key).filter _ = some time
  rw [h]
  simp [Option.filter_some, hkept]

theorem Standing.hour_after (h : Standing s) {call other : Call} (hclock : s.clock ≤ call.now) (hother : other ∈ alive s)
    (hdedupe : (prune call.now s.notifier).dedupe (dedupeKey call.event) = none)
    (hkey : dedupeKey other.event = dedupeKey call.event) : other.now + dedupeMs ≤ call.now := by
  by_contra hlt
  have hkept : call.now - dedupeMs < other.now := by omega
  have hstands := prune_dedupe (h.dedupe other hother (by omega)) hkept
  rw [hkey, hdedupe] at hstands
  cases hstands

theorem Standing.cooldown_after (h : Standing s) {call other : Call} {key : String} (hclock : s.clock ≤ call.now)
    (hother : other ∈ alive s) (hover : ∀ entry ∈ standingCooldown call.event s.notifier, entry.endsAt ≤ call.now)
    (hkey : cooldownKey other.event = some key) (hkey' : cooldownKey call.event = some key) :
    other.now + rejectionCooldownMs ≤ call.now := by
  by_contra hlt
  obtain ⟨entry, hentry, hend⟩ := h.cooldowns other hother key hkey (by omega)
  have hstanding : standingCooldown call.event s.notifier = some entry := by
    unfold standingCooldown
    rw [hkey']
    exact hentry
  have hends := hover entry hstanding
  omega

theorem Apart.now_ne_of_dedupe {c d : Call} (h : Apart c d) (hkey : dedupeKey c.event = dedupeKey d.event) :
    c.now ≠ d.now := by
  intro heq
  have hle := h.dedupe hkey
  rw [heq, sub_self, abs_zero] at hle
  exact absurd hle (by decide)

theorem Apart.now_ne_of_cooldown {c d : Call} (h : Apart c d) {key : String} (hc : cooldownKey c.event = some key)
    (hd : cooldownKey d.event = some key) : c.now ≠ d.now := by
  intro heq
  have hle := h.cooldown key hc hd
  rw [heq, sub_self, abs_zero] at hle
  exact absurd hle (by decide)

theorem Spaced.step (h : Spaced s) (hforward : Forward s e) (hown : OwnStanding s e) (hdid : Did s e s') : Spaced s' := by
  cases hdid with
  | refused settings call outcome hsent hcooldown =>
    have hclock : s.clock ≤ call.now := hforward
    refine ⟨⟨?_, ?_⟩, ?_⟩ <;> rw [alive_returned hsent]
    · exact fun other hother hkept => prune_dedupe (h.dedupe other hother (by dsimp only at hkept; omega)) hkept
    · intro other hother key hkey hlive
      exact h.cooldowns other hother key hkey (by dsimp only at hlive; omega)
    · exact h.apart
  | cooled settings call key active hkey hactive hends =>
    have hclock : s.clock ≤ call.now := hforward
    refine ⟨⟨?_, ?_⟩, ?_⟩ <;> rw [alive_returned (by simp)]
    · intro other hother hkept
      rw [setCooldown_dedupe]
      exact prune_dedupe (h.dedupe other hother (by dsimp only at hkept; omega)) hkept
    · -- counting a suppressed call leaves the end of the cooldown as it was
      intro other hother key' hkey' hlive
      obtain ⟨entry, hentry, hend⟩ := h.cooldowns other hother key' hkey' (by dsimp only at hlive; omega)
      by_cases hsame : cooldownKey call.event = some key'
      · refine ⟨_, setCooldown_self hsame .., ?_⟩
        have heq : active = entry := by
          rw [hkey] at hsame
          rw [← Option.some.inj hsame, hactive] at hentry
          exact Option.some.inj hentry
        rw [heq]
        exact hend
      · exact ⟨entry, (setCooldown_other hsame ..).trans hentry, hend⟩
    · exact h.apart
  | began settings call hdedupe hover hcap =>
    have hclock : s.clock ≤ call.now := hforward
    have hhour : ∀ other ∈ alive s, dedupeKey other.event = dedupeKey call.event → other.now + dedupeMs ≤ call.now :=
      fun other hother => h.hour_after hclock hother hdedupe
    have hcool : ∀ other ∈ alive s, ∀ key, cooldownKey other.event = some key → cooldownKey call.event = some key →
        other.now + rejectionCooldownMs ≤ call.now := fun other hother key => h.cooldown_after hclock hother hover
    refine ⟨⟨?_, ?_⟩, ?_⟩ <;> rw [alive_began]
    · intro other hother hkept
      dsimp only at hkept
      show (setCooldown call.event _ _).dedupe (dedupeKey other.event) = some other.now
      rw [setCooldown_dedupe]
      dsimp only
      rcases List.mem_append.1 hother with hother | hother
      · by_cases hkey : dedupeKey other.event = dedupeKey call.event
        · have hgone := hhour other hother hkey
          omega
        · rw [Function.update_of_ne hkey]
          exact prune_dedupe (h.dedupe other hother (by omega)) hkept
      · rw [List.mem_singleton.1 hother]
        exact Function.update_self ..
    · intro other hother key hkey hlive
      dsimp only at hlive
      by_cases hsame : cooldownKey call.event = some key
      · refine ⟨_, setCooldown_self hsame .., ?_⟩
        rcases List.mem_append.1 hother with hother | hother
        · have hgone := hcool other hother key hkey hsame
          omega
        · rw [List.mem_singleton.1 hother]
      · rcases List.mem_append.1 hother with hother | hother
        · obtain ⟨entry, hentry, hend⟩ := h.cooldowns other hother key hkey (by omega)
          exact ⟨entry, (setCooldown_other hsame ..).trans hentry, hend⟩
        · rw [List.mem_singleton.1 hother] at hkey
          exact absurd hkey hsame
    · rw [List.pairwise_append]
      refine ⟨h.apart, List.pairwise_singleton .., ?_⟩
      intro other hother last hlast
      rw [List.mem_singleton.1 hlast]
      have hfar : call.now - other.now ≤ |other.now - call.now| := by
        rw [abs_sub_comm]
        exact le_abs_self _
      constructor
      · intro hkey
        have hgone := hhour other hother hkey
        show dedupeMs ≤ |other.now - call.now|
        omega
      · intro key hkey hkey'
        have hgone := hcool other hother key hkey hkey'
        show rejectionCooldownMs ≤ |other.now - call.now|
        omega
  | delivered i sending hi =>
    have halive := alive_delivered s.notifier s.clock sending.suppressed hi
    refine ⟨⟨fun call hcall => ?_, fun call hcall => ?_⟩, (halive.pairwise_iff Apart.symm).2 h.apart⟩
    · exact h.dedupe call (halive.subset hcall)
    · exact h.cooldowns call (halive.subset hcall)
  | failed i sending hi =>
    have halive := alive_failed (giveBack sending s.notifier) s.clock sending.suppressed hi
    obtain ⟨hdedupe, hcooldown⟩ := hown sending hi
    obtain ⟨hapart, hrest⟩ := List.pairwise_cons.1 ((halive.pairwise_iff Apart.symm).1 h.apart)
    have hmem : ∀ call, _ → call ∈ alive s := fun call hcall => halive.symm.subset (List.mem_cons_of_mem _ hcall)
    refine ⟨⟨?_, ?_⟩, hrest⟩
    · intro call hcall hkept
      have hstands := h.dedupe call (hmem call hcall) hkept
      show (setCooldown _ _ _).dedupe (dedupeKey call.event) = some call.now
      rw [setCooldown_dedupe]
      by_cases hkey : dedupeKey call.event = dedupeKey sending.call.event
      · rw [hkey] at hstands
        exact absurd (hdedupe _ hstands).symm ((hapart call hcall).now_ne_of_dedupe hkey.symm)
      · exact (Function.update_of_ne hkey ..).trans hstands
    · intro call hcall key hkey hlive
      obtain ⟨entry, hentry, hend⟩ := h.cooldowns call (hmem call hcall) key hkey hlive
      by_cases hsame : cooldownKey sending.call.event = some key
      · have hstanding : standingCooldown sending.call.event s.notifier = some entry := by
          unfold standingCooldown
          rw [hsame]
          exact hentry
        have hown' := hcooldown entry hstanding
        exact absurd (by omega) ((hapart call hcall).now_ne_of_cooldown hsame hkey)
      · exact ⟨entry, (setCooldown_other hsame ..).trans hentry, hend⟩
  | missed i delivered hi => exact h

/-! ## Whole runs -/

theorem slots_start (clock : Int) : Slots (start clock) :=
  ⟨List.Perm.refl _, List.Pairwise.nil, by simp [alive, sentCalls, start]⟩

theorem capped_start (clock : Int) : Capped (start clock) := fun _ => Nat.zero_le _

theorem spaced_start (clock : Int) : Spaced (start clock) := by
  have hnone : ∀ call, call ∉ alive (start clock) := by simp [alive, sentCalls, start]
  exact ⟨⟨fun call hcall => absurd hcall (hnone call), fun call hcall => absurd hcall (hnone call)⟩, List.Pairwise.nil⟩

variable {clock : Int} {es : List Event}

theorem capped_after (hforward : Along step Forward (start clock) es) :
    Slots (after step (start clock) es) ∧ Capped (after step (start clock) es) := by
  induction es using List.reverseRecOn with
  | nil => exact ⟨slots_start clock, capped_start clock⟩
  | append_singleton es e ih =>
    obtain ⟨hpre, he⟩ := along_snoc.1 hforward
    obtain ⟨hslots, hcap⟩ := ih hpre
    rw [after_snoc]
    exact ⟨hslots.step he (did _ e), hcap.step hslots he (did _ e)⟩

theorem spaced_after (hforward : Along step Forward (start clock) es) (hown : Along step OwnStanding (start clock) es) :
    Spaced (after step (start clock) es) := by
  induction es using List.reverseRecOn with
  | nil => exact spaced_start clock
  | append_singleton es e ih =>
    obtain ⟨hpre, he⟩ := along_snoc.1 hforward
    obtain ⟨hpre', he'⟩ := along_snoc.1 hown
    rw [after_snoc]
    exact (ih hpre hpre').step he he' (did _ e)

/-- **The limits of a run with a clock that never goes back.**  No half-open hour holds more messages than the cap,
whatever fails and when.  As long as each delivery that fails finds nothing under its key and its code but its own,
messages with one deduplication key are an hour apart and those with one rejection code a cooldown, and what a call has
reserved stands. -/
theorem notification_limits (hforward : Along step Forward (start clock) es) :
    (∀ t, ((sentCalls (after step (start clock) es)).filter (inHour t)).length ≤ hourlyCap) ∧
      (Along step OwnStanding (start clock) es →
        (sentCalls (after step (start clock) es)).Pairwise Apart ∧ Reserved (after step (start clock) es)) := by
  obtain ⟨hslots, hcap⟩ := capped_after hforward
  constructor
  · intro t
    rw [← List.countP_eq_length_filter]
    exact (sentCalls_countP_le _ t).trans (hcap t)
  · intro hown
    have hspaced := spaced_after hforward hown
    exact ⟨(List.pairwise_append.1 hspaced.apart).1, hspaced.toStanding, hslots.taken⟩

section
def allOn : Settings := ⟨true, true, ⟨true, true, true, true⟩⟩

def rejected (trade : String) : NotificationEvent where
  kind := .tradeRejected
  summary := trade
  dedupeKey := some trade
  rejectionCode := some "DAILY_LOSS_LIMIT"

/-- The first delivery takes an hour to fail, and the second call reserves the key meanwhile. -/
def lateFailure (event : NotificationEvent) : List Event :=
  [.notify allOn ⟨event, 0⟩, .notify allOn ⟨event, dedupeMs⟩, .settled 0 false,
    .notify allOn ⟨event, dedupeMs + 1⟩, .settled 0 true, .settled 0 true]

/-- The same with three trades of one rejection code, whose first delivery takes ten minutes to fail. -/
def lateRejection : List Event :=
  [.notify allOn ⟨rejected "t1", 0⟩, .notify allOn ⟨rejected "t2", rejectionCooldownMs⟩, .settled 0 false,
    .notify allOn ⟨rejected "t3", rejectionCooldownMs + 1⟩, .settled 0 true, .settled 0 true]

/-- A delivery that fails before anyone else calls, and two messages an hour apart after it. -/
def timelyFailure (event : NotificationEvent) : List Event :=
  [.notify allOn ⟨event, 0⟩, .settled 0 false, .notify allOn ⟨event, 1⟩, .settled 0 true,
    .notify allOn ⟨event, 1 + dedupeMs⟩, .settled 0 true]

theorem notification_limits_timely :
    sentCalls (after step (start 0) (timelyFailure (rejected "t1"))) =
        [⟨rejected "t1", 1⟩, ⟨rejected "t1", 1 + dedupeMs⟩] ∧
      (sentCalls (after step (start 0) (timelyFailure (rejected "t1")))).Pairwise Apart ∧
      Reserved (after step (start 0) (timelyFailure (rejected "t1"))) := by
  have hforward : Along step Forward (start 0) (timelyFailure (rejected "t1")) :=
    ⟨(by decide : (0 : Int) ≤ 0), trivial, (by decide : (0 : Int) ≤ 1), trivial, (by decide : (1 : Int) ≤ 1 + dedupeMs),
      trivial, trivial⟩
  have hown : Along step OwnStanding (start 0) (timelyFailure (rejected "t1")) := by
    refine ⟨trivial, ?_, trivial, trivial, trivial, trivial, trivial⟩
    rintro sending ⟨⟩
    exact ⟨by rintro time ⟨⟩; rfl, by rintro entry ⟨⟩; rfl⟩
  exact ⟨rfl, (notification_limits hforward).2 hown⟩

/-- **A delivery that fails late takes back what another call has reserved**: two messages with one key, and two with one
rejection code, go out a millisecond apart. -/
theorem late_failure_frees :
    (Along step Forward (start 0) (lateFailure (rejected "t1")) ∧
      sentCalls (after step (start 0) (lateFailure (rejected "t1"))) =
        [⟨rejected "t1", dedupeMs⟩, ⟨rejected "t1", dedupeMs + 1⟩] ∧
      ¬ (sentCalls (after step (start 0) (lateFailure (rejected "t1")))).Pairwise Apart) ∧
    (Along step Forward (start 0) lateRejection ∧
      sentCalls (after step (start 0) lateRejection) =
        [⟨rejected "t2", rejectionCooldownMs⟩, ⟨rejected "t3", rejectionCooldownMs + 1⟩] ∧
      ¬ (sentCalls (after step (start 0) lateRejection)).Pairwise Apart) := by
  refine ⟨⟨⟨?_, ?_, trivial, ?_, trivial, trivial, trivial⟩, rfl, fun h => ?_⟩,
    ⟨?_, ?_, trivial, ?_, trivial, trivial, trivial⟩, rfl, fun h => ?_⟩
  · exact (by decide : (0 : Int) ≤ 0)
  · exact (by decide : (0 : Int) ≤ dedupeMs)
  · exact (by decide : dedupeMs ≤ dedupeMs + 1)
  · have hapart : Apart ⟨rejected "t1", dedupeMs⟩ ⟨rejected "t1", dedupeMs + 1⟩ :=
      (List.pairwise_cons.1 h).1 _ (List.mem_singleton_self _)
    exact absurd (hapart.dedupe rfl) (by decide)
  · exact (by decide : (0 : Int) ≤ 0)
  · exact (by decide : (0 : Int) ≤ rejectionCooldownMs)
  · exact (by decide : rejectionCooldownMs ≤ rejectionCooldownMs + 1)
  · have hapart : Apart ⟨rejected "t2", rejectionCooldownMs⟩ ⟨rejected "t3", rejectionCooldownMs + 1⟩ :=
      (List.pairwise_cons.1 h).1 _ (List.mem_singleton_self _)
    exact absurd (hapart.cooldown _ rfl rfl) (by decide)

end

end Notifier
end Atra
