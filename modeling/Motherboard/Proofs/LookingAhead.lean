import Motherboard.Proofs.EventHistory

/-!
# Passes that end

A pass ends when each of its handlers looks ahead: every event that a handler orders is due after the
cycle at which it is ordered. The queue may grow at every hand-out, so its length is no measure. But with
each hand-out the clock moves on towards the limit of the pass, or it stands still and one of the events
that are overdue is gone; and what handlers order is not overdue. So a pass comes closer to its end in
the lexicographic order of the cycles that are left and of the number of events that are overdue
(`remaining_react_lt`).

A pass that ends has scheduled finitely many events. Words of 64 bits carry their numbers if fewer than
2 ^ 64 have been scheduled since power-on (`Life.fits_words`).

## Results

* `Handler.LooksAhead`   — wherever a pass gets to, the handler orders for later cycles only.
* `exists_turns_to_end`  — such a pass takes finitely many turns.
* `passes_end`           — so `advance`, `dispatchDue` and `jump` return.
-/

namespace Motherboard.Scheduler

variable {ψ : Type}

/-! ## Looking ahead -/

/-- The way that a conduct takes on a scheduler has no reset in it, and every event that it orders is due
after the cycle at which it is ordered. What is cancelled does not matter. -/
def Conduct.LooksAhead : Conduct ψ → Scheduler → Prop
  | .done _, _ => True
  | .act op next, s =>
    op ≠ .reset ∧ (∀ due spec, op.order? s.now = some (due, spec) → s.now < due) ∧
      (next (op.perform s).1 (op.perform s).2).LooksAhead (op.perform s).2

/-- Wherever a pass up to `limit` gets to, the handler looks ahead with the event that comes next. -/
def Handler.LooksAhead (handler : Handler ψ) (limit : UInt64) (s : Scheduler)
    (world : ψ × List Moment) : Prop :=
  ∀ n s' world' event rest, Turns handler.react limit n s world s' world' →
    s'.popDue? limit = some (event, rest) →
    (handler event (rest.arrive event) world'.1).LooksAhead (rest.arrive event)

/-- A handler that looks ahead goes on doing so after each turn. -/
theorem Handler.LooksAhead.turn {handler : Handler ψ} {limit : UInt64} {s rest : Scheduler}
    {world : ψ × List Moment} {event : Event} (h : handler.LooksAhead limit s world)
    (hpop : s.popDue? limit = some (event, rest)) :
    handler.LooksAhead limit (handler.react event (rest.arrive event) world).1
      (handler.react event (rest.arrive event) world).2 :=
  fun n s' world' event' rest' hturns hpop' =>
    h (n + 1) s' world' event' rest' (.turn hpop hturns) hpop'

/-! ## What is left of a pass -/

/-- Number of waiting events that are due by now. -/
def overdue (s : Scheduler) : Nat :=
  s.queue.countP fun e => e.due ≤ s.now

/-- What is left of a pass up to `limit`: cycles to go, and events that are due without going further. -/
def remaining (limit : UInt64) (s : Scheduler) : Nat × Nat :=
  (limit.toNat - s.now.toNat, s.overdue)

/-- An event that is scheduled ahead is not overdue. -/
theorem overdue_scheduleAt {s : Scheduler} {due : UInt64} (hlater : s.now < due) (spec : EventSpec) :
    (s.scheduleAt due spec).2.overdue = s.overdue := by
  have hnot : ¬ (s.eventFor due spec).due ≤ s.now := UInt64.not_le.2 hlater
  unfold overdue
  rw [scheduleAt_snd]
  dsimp only
  rw [((s.eventFor due spec).perm_insertSorted s.queue).countP_eq,
    List.countP_cons_of_neg (by simpa using hnot)]

/-- Cancelling makes nothing overdue. -/
theorem overdue_cancel_le (s : Scheduler) (handle : EventHandle) :
    (s.cancel handle).2.overdue ≤ s.overdue := by
  unfold cancel
  cases s.index.lookup handle with
  | none => exact Nat.le_refl _
  | some key => exact List.filter_sublist.countP_le

/-- An operation that orders nothing for now leaves no more events overdue. -/
theorem overdue_perform_le {s : Scheduler} {op : Operation} (hreset : op ≠ .reset)
    (hahead : ∀ due spec, op.order? s.now = some (due, spec) → s.now < due) :
    (op.perform s).2.overdue ≤ s.overdue := by
  cases op with
  | scheduleAt due spec => exact Nat.le_of_eq (overdue_scheduleAt (hahead due spec rfl) spec)
  | scheduleAfter delta spec => exact Nat.le_of_eq (overdue_scheduleAt (hahead _ spec rfl) spec)
  | cancel handle => exact overdue_cancel_le s handle
  | reset => exact absurd rfl hreset

/-- A conduct that looks ahead does not touch the clock and leaves no more events overdue. -/
theorem Conduct.LooksAhead.run {conduct : Conduct ψ} {s : Scheduler} (h : conduct.LooksAhead s)
    (past : List Moment) :
    (conduct.run s past).1.now = s.now ∧ (conduct.run s past).1.overdue ≤ s.overdue := by
  induction conduct generalizing s past with
  | done world => exact ⟨rfl, Nat.le_refl _⟩
  | act op next ih =>
    obtain ⟨hreset, hahead, hnext⟩ := h
    obtain ⟨hclock, hoverdue⟩ := ih _ _ hnext (⟨.performed op (op.perform s).1, (op.perform s).2⟩ :: past)
    exact ⟨hclock.trans (now_perform_of_ne_reset hreset s),
      Nat.le_trans hoverdue (overdue_perform_le hreset hahead)⟩

/-! ## Each turn leaves less -/

/-- When an event is handed out, the clock moves on within the limit, or the event was overdue and is
gone. -/
theorem arrive_cases {s rest : Scheduler} {limit : UInt64} {event : Event}
    (hpop : s.popDue? limit = some (event, rest)) :
    (s.now < (rest.arrive event).now ∧ (rest.arrive event).now ≤ limit) ∨
      (rest.arrive event).now = s.now ∧ (rest.arrive event).overdue + 1 = s.overdue := by
  obtain ⟨tail, hqueue, hdue, rfl⟩ := popDue?_eq_some_iff.1 hpop
  -- either the clock rises, which it cannot do forever below the limit, or an overdue event is gone
  by_cases hlater : s.now < event.due
  · have hclock : laterCycle s.now event.due = event.due := laterCycle_eq_right (UInt64.le_of_lt hlater)
    refine .inl ⟨?_, ?_⟩
    · show s.now < laterCycle s.now event.due
      rwa [hclock]
    · show laterCycle s.now event.due ≤ limit
      rwa [hclock]
  · have hclock : laterCycle s.now event.due = s.now := by
      unfold laterCycle
      rw [if_neg hlater]
    have hoverdue : event.due ≤ s.now := UInt64.not_lt.1 hlater
    refine .inr ⟨hclock, ?_⟩
    show tail.countP (fun e => e.due ≤ laterCycle s.now event.due) + 1 =
      s.queue.countP fun e => e.due ≤ s.now
    rw [hclock, hqueue, List.countP_cons_of_pos (by simpa using hoverdue)]

/-- A turn whose handler looks ahead leaves less of the pass. -/
theorem remaining_react_lt {handler : Handler ψ} {limit : UInt64} {s rest : Scheduler}
    {event : Event} {world : ψ × List Moment} (hpop : s.popDue? limit = some (event, rest))
    (hahead : (handler event (rest.arrive event) world.1).LooksAhead (rest.arrive event)) :
    Prod.Lex (· < ·) (· < ·)
      (remaining limit (handler.react event (rest.arrive event) world).1) (remaining limit s) := by
  obtain ⟨hclock, hoverdue⟩ := hahead.run (⟨.handedOut event, rest.arrive event⟩ :: world.2)
  change (handler.react event (rest.arrive event) world).1.now = _ at hclock
  change (handler.react event (rest.arrive event) world).1.overdue ≤ _ at hoverdue
  unfold remaining
  rw [hclock]
  rcases arrive_cases hpop with ⟨hforward, hlimit⟩ | ⟨hsame, hgone⟩
  · -- the clock has moved on
    rw [UInt64.lt_iff_toNat_lt] at hforward
    rw [UInt64.le_iff_toNat_le] at hlimit
    exact .left _ _ (by omega)
  · -- the clock stands, and one event that was overdue is gone
    rw [hsame]
    exact .right _ (by omega)

/-- A pass whose handlers look ahead takes finitely many turns until nothing is due by its limit. -/
theorem exists_turns_to_end {handler : Handler ψ} {limit : UInt64} {s : Scheduler}
    {world : ψ × List Moment} (h : handler.LooksAhead limit s world) :
    ∃ n s' world', Turns handler.react limit n s world s' world' ∧ s'.popDue? limit = none := by
  cases hpop : s.popDue? limit with
  | none => exact ⟨0, s, world, .refl s world, hpop⟩
  | some taken =>
    obtain ⟨event, rest⟩ := taken
    have hless := remaining_react_lt hpop (h 0 s world event rest (.refl s world) hpop)
    obtain ⟨n, s', world', hturns, hend⟩ := exists_turns_to_end (h.turn hpop)
    exact ⟨n + 1, s', world', .turn hpop hturns, hend⟩
termination_by remaining limit s
decreasing_by exact hless

/-! ## Passes return -/

variable {handler : Handler ψ} {s : Scheduler} {world : ψ × List Moment}

/-- An advance returns. -/
theorem exists_advance (delta : UInt64)
    (h : handler.LooksAhead (addCycles s.now delta) s world) :
    ∃ bound count s' world', s.advance handler.react bound delta world = some (count, s', world') := by
  obtain ⟨n, last, world', hturns, hend⟩ := exists_turns_to_end h
  obtain ⟨bound, hadvance⟩ := exists_advance_iff.2 ⟨last, hturns, hend, rfl⟩
  exact ⟨bound, n, _, world', hadvance⟩

/-- A dispatch returns. -/
theorem exists_dispatchDue (h : handler.LooksAhead s.now s world) :
    ∃ bound count s' world', s.dispatchDue handler.react bound world = some (count, s', world') := by
  obtain ⟨n, s', world', hturns, hend⟩ := exists_turns_to_end h
  obtain ⟨bound, hdispatch⟩ := exists_pass_iff.2 ⟨hturns, hend⟩
  exact ⟨bound, n, s', world', hdispatch⟩

/-- A jump returns. -/
theorem exists_jump (h : ∀ due, s.nextDue? = some due →
      handler.LooksAhead (laterCycle s.now due) { s with now := laterCycle s.now due } world) :
    ∃ bound s' world', s.jump handler.react bound world = some (!s.queue.isEmpty, s', world') := by
  unfold jump
  cases hdue : s.nextDue? with
  | none =>
    rw [nextDue?_eq_none_iff.1 hdue]
    exact ⟨0, s, world, rfl⟩
  | some due =>
    -- there is a next due cycle, so something waits
    have hwaits : s.queue.isEmpty = false := by
      cases hempty : s.queue.isEmpty with
      | false => rfl
      | true =>
        rw [nextDue?_eq_none_iff.2 (List.isEmpty_iff.1 hempty)] at hdue
        cases hdue
    have hahead := h due hdue
    obtain ⟨bound, count, s', world', hdispatch⟩ :=
      @exists_dispatchDue _ handler { s with now := laterCycle s.now due } world hahead
    refine ⟨bound, s', world', ?_⟩
    dsimp only
    rw [hdispatch, hwaits]
    rfl

/-- Every pass returns after finitely many hand-outs, if its handler orders events for later cycles only,
as many as it likes, and cancels what it likes: advancing by any number of cycles, dispatching what is
due, and jumping to the first event, whatever the scheduler is. What the handler does elsewhere than in
the pass does not matter, so a handler who works periodically may be stuck at the last cycle. -/
theorem passes_end (handler : Handler ψ) (s : Scheduler) (world : ψ) (past : List Moment) :
    (∀ delta, handler.LooksAhead (addCycles s.now delta) s (world, past) →
      ∃ bound count s' world' past',
        s.advance handler.react bound delta (world, past) = some (count, s', world', past')) ∧
    (handler.LooksAhead s.now s (world, past) →
      ∃ bound count s' world' past',
        s.dispatchDue handler.react bound (world, past) = some (count, s', world', past')) ∧
    ((∀ due, s.nextDue? = some due → handler.LooksAhead (laterCycle s.now due)
        { s with now := laterCycle s.now due } (world, past)) →
      ∃ bound s' world' past',
        s.jump handler.react bound (world, past) = some (!s.queue.isEmpty, s', world', past')) := by
  refine ⟨fun delta h => ?_, fun h => ?_, fun h => ?_⟩
  · obtain ⟨bound, count, s', ⟨world', past'⟩, hadvance⟩ := exists_advance delta h
    exact ⟨bound, count, s', world', past', hadvance⟩
  · obtain ⟨bound, count, s', ⟨world', past'⟩, hdispatch⟩ := exists_dispatchDue h
    exact ⟨bound, count, s', world', past', hdispatch⟩
  · obtain ⟨bound, s', ⟨world', past'⟩, hjump⟩ := exists_jump h
    exact ⟨bound, s', world', past', hjump⟩

/-- Short of the last cycle, the ticker looks ahead. -/
theorem ticker_looksAhead {limit : UInt64} (hlimit : limit < 0xFFFFFFFFFFFFFFFF) {s : Scheduler}
    (hnow : s.now ≤ limit) (world : Unit × List Moment) : ticker.LooksAhead limit s world := by
  intro n s' world' event rest hturns hpop
  have hclock : (rest.arrive event).now ≤ limit :=
    now_arrive_le hpop (hturns.now_le ticker.now_react_le hnow)
  refine ⟨nofun, fun due spec horder => ?_, trivial⟩
  cases horder
  rw [UInt64.lt_iff_toNat_lt] at hlimit ⊢
  rw [UInt64.le_iff_toNat_le] at hclock
  -- below the last cycle there is a later one to order for
  rw [toNat_addCycles]
  have hlast : (0xFFFFFFFFFFFFFFFF : UInt64).toNat = 0xFFFFFFFFFFFFFFFF := rfl
  have hfour : (4 : UInt64).toNat = 4 := rfl
  omega

/-- The ticker's events recur without end. At cycle 5, with an event overdue since cycle 3, an advance by
nine cycles hands out three of them, and to dispatch what is due or to jump hands out one. -/
theorem passes_end_ticker :
    ∃ s : Scheduler, s.now = 5 ∧ s.nextDue? = some 3 ∧ ticker.LooksAhead 14 s ((), []) ∧
      (∃ bound count s' world' past',
        s.advance ticker.react bound 9 ((), []) = some (count, s', world', past')) ∧
      (∃ bound count s' world' past',
        s.dispatchDue ticker.react bound ((), []) = some (count, s', world', past')) ∧
      (∃ bound s' world' past',
        s.jump ticker.react bound ((), []) = some (true, s', world', past')) ∧
      (s.advance ticker.react 3 9 ((), [])).map Prod.fst = some 3 := by
  have hahead : ∀ limit, 5 ≤ limit → limit < 0xFFFFFFFFFFFFFFFF →
      ticker.LooksAhead limit (({ now := 5 } : Scheduler).scheduleAt 3 timer).2 ((), []) :=
    fun limit hfive hlast => ticker_looksAhead hlast hfive _
  obtain ⟨hadvance, hdispatch, hjump⟩ :=
    passes_end ticker (({ now := 5 } : Scheduler).scheduleAt 3 timer).2 () []
  refine ⟨_, rfl, rfl, hahead 14 (by decide) (by decide), hadvance 9 (hahead 14 (by decide) (by decide)),
    hdispatch (hahead 5 (by decide) (by decide)), hjump ?_, rfl⟩
  -- the overdue event leaves the clock where it is
  rintro due ⟨⟩
  exact hahead 5 (by decide) (by decide)

end Motherboard.Scheduler
