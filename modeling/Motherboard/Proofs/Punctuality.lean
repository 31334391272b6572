import Mathlib.Data.List.Pairwise
import Motherboard.Proofs.EventFates

/-!
# Punctual events

An event is handed out when the clock stands at its due cycle, or at the cycle at which it was scheduled
if it was overdue then: at the later of the two. While an event waits, the clock has not passed that
cycle, and the event was scheduled at or before now (`Life.inTime`). Handing it out moves the clock up to
the due cycle, if it is not there yet, and so to the later of the two exactly.

A pass moves the clock forward only, and ends with it at the cycle that it was meant to reach, with
nothing due any more (`Reaches`).

That a handle was given out at one cycle needs handles that differ: words of 64 bits do while fewer than
2 ^ 64 events have been scheduled (`Life.fits_words`).

## Results

* `Life.orderedAt_unique`    — a handle was given out at one cycle.
* `Turns.clockRises`         — the clock never goes back in a pass, ended or not.
* `handOut_on_time`          — hand-outs are on time, and passes reach their cycles.
-/

namespace Motherboard.Scheduler

/-! ## When events were scheduled -/

/-- The record tells that the event was scheduled when the clock stood at `cycle`: its handle was
answered to an operation that ordered just this event. -/
def OrderedAt (past : List Moment) (event : Event) (cycle : UInt64) : Prop :=
  ∃ op after, ⟨.performed op (.scheduled event.handle), after⟩ ∈ past ∧ after.now = cycle ∧
    op.order? cycle = some (event.due, event.toEventSpec)

/-- The clock stands at the later of the event's due cycle and the one cycle at which it was
scheduled. -/
def OnTime (past : List Moment) (event : Event) (now : UInt64) : Prop :=
  ∃ cycle, OrderedAt past event cycle ∧ (∀ other, OrderedAt past event other → other = cycle) ∧
    now = laterCycle event.due cycle

variable {past : List Moment} {s : Scheduler}

/-- When an event was ordered does not change afterwards. -/
theorem OrderedAt.cons {event : Event} {cycle : UInt64} (h : OrderedAt past event cycle)
    (m : Moment) : OrderedAt (m :: past) event cycle := by
  obtain ⟨op, after, hmem, hcycle, horder⟩ := h
  exact ⟨op, after, List.mem_cons_of_mem m hmem, hcycle, horder⟩

/-- Two moments at which the same handle was given out have the same clock. -/
def AgreeOnClock (m m' : Moment) : Prop :=
  ∀ handle ∈ m.returned?, handle ∈ m'.returned? → m.after.now = m'.after.now

instance : Std.Symm AgreeOnClock where
  symm _ _ h handle hm' hm := (h handle hm hm').symm

/-- An event is ordered once, because its handle is new then. -/
theorem Life.orderedAt_unique (life : Life Elapses past s) {event : Event} {cycle other : UInt64}
    (h : OrderedAt past event cycle) (h' : OrderedAt past event other) : other = cycle := by
  obtain ⟨op, after, hmem, hcycle, -⟩ := h
  obtain ⟨op', after', hmem', hcycle', -⟩ := h'
  have hdistinct : (returned past).Nodup :=
    List.nodup_iff_count_le_one.2 life.count_returned_le_one
  -- no two moments share a handle, so the clocks agree for want of a case
  have hagree : past.Pairwise AgreeOnClock :=
    (List.pairwise_filterMap.1 hdistinct).imp fun hne handle hm hm' => absurd rfl (hne _ hm _ hm')
  have hclock := hagree.forall_of_forall (fun _ _ _ _ _ => rfl) hmem hmem' event.handle rfl rfl
  exact hcycle'.symm.trans (hclock.symm.trans hcycle)

/-- The event was scheduled at or before `now`, and `now` is not past the cycle at which it is to be
handed out. -/
def InTime (past : List Moment) (event : Event) (now : UInt64) : Prop :=
  ∃ cycle, OrderedAt past event cycle ∧ cycle ≤ now ∧ now ≤ laterCycle event.due cycle

theorem InTime.cons {event : Event} {now : UInt64} (h : InTime past event now) (m : Moment) :
    InTime (m :: past) event now := by
  obtain ⟨cycle, hordered, hle, hle'⟩ := h
  exact ⟨cycle, hordered.cons m, hle, hle'⟩

/-- The clock may be set forward, as long as it is not set past the due cycle. -/
theorem InTime.forward {event : Event} {now later : UInt64} (h : InTime past event now)
    (hforward : now ≤ later) (hlater : later ≤ laterCycle event.due now) : InTime past event later := by
  obtain ⟨cycle, hordered, hle, hle'⟩ := h
  refine ⟨cycle, hordered, UInt64.le_trans hle hforward, UInt64.le_trans hlater ?_⟩
  exact laterCycle_le (le_laterCycle_left _ _) hle'

/-- What waits is in time. -/
theorem Life.inTime (life : Life Elapses past s) : ∀ e ∈ s.queue, InTime past e s.now := by
  induction life using Life.induction with
  | start => exact fun _ h => nomatch h
  | @scheduled past s op due spec life horder ih =>
    intro e he
    rcases mem_queue_scheduleAt.1 he with rfl | he
    · exact ⟨s.now, ⟨op, _, List.mem_cons_self, rfl, horder⟩, UInt64.le_refl _,
        le_laterCycle_right _ _⟩
    · exact (ih e he).cons _
  | cancelled _ _ ih => exact fun e he => (ih e (mem_queue_without.1 he).1).cons _
  | missed _ _ ih => exact fun e he => (ih e he).cons _
  | reset _ _ => exact fun _ h => nomatch h
  | @handedOut past s event life hmem hfirst ih =>
    intro e he
    obtain ⟨hwaiting, hother⟩ := mem_queue_without.1 he
    have hne : e ≠ event := fun heq => hother (congrArg Event.handle heq)
    -- the clock moves to a due cycle that is not after this event's
    have hdue : event.due ≤ e.due := EventKey.due_le_of_before (hfirst e hwaiting hne)
    refine ((ih e hwaiting).forward (le_laterCycle_left _ _) ?_).cons _
    exact laterCycle_le (le_laterCycle_right _ _) (UInt64.le_trans hdue (le_laterCycle_left _ _))
  | @setClock past s cycle life helapses ih =>
    -- the clock is not set past the due cycle of anything that waits
    obtain ⟨hforward, hearly⟩ := helapses
    intro e he
    exact (ih e he).forward hforward (UInt64.le_trans (hearly e he) (le_laterCycle_left _ _))

/-- To speak of all hand-outs is to speak of those of the past, and of the newest moment if it is one. -/
theorem forall_handOut_cons {P : Event → Scheduler → List Moment → Prop} {m : Moment}
    (hpast : ∀ event after earlier, (⟨.handedOut event, after⟩ :: earlier) <:+ past →
      P event after earlier)
    (hm : ∀ event after, m = ⟨.handedOut event, after⟩ → P event after past) :
    ∀ event after earlier, (⟨.handedOut event, after⟩ :: earlier) <:+ m :: past →
      P event after earlier := by
  -- A hand-out is one of the past, or the moment just added.
  intro event after earlier h
  rcases List.suffix_cons_iff.1 h with heq | h
  · obtain ⟨hm', rfl⟩ := List.cons.inj heq
    exact hm event after hm'.symm
  · exact hpast event after earlier h

/-- Every event that was handed out was handed out on time. -/
theorem Life.handedOut_onTime (life : Life Elapses past s) :
    ∀ event after earlier, (⟨.handedOut event, after⟩ :: earlier) <:+ past →
      OnTime earlier event after.now := by
  induction life using Life.induction with
  | start => exact fun _ _ _ h => absurd (List.suffix_nil.1 h) (List.cons_ne_nil _ _)
  | scheduled _ _ ih => exact forall_handOut_cons ih fun _ _ h => nomatch h
  | cancelled _ _ ih => exact forall_handOut_cons ih fun _ _ h => nomatch h
  | missed _ _ ih => exact forall_handOut_cons ih fun _ _ h => nomatch h
  | reset _ ih => exact forall_handOut_cons ih fun _ _ h => nomatch h
  | @handedOut past s event life hmem _ ih =>
    refine forall_handOut_cons ih fun event' after h => ?_
    cases h
    obtain ⟨cycle, hordered, hle, hle'⟩ := life.inTime event hmem
    refine ⟨cycle, hordered, fun _ => life.orderedAt_unique hordered, ?_⟩
    -- neither clock nor due cycle is past the later of due cycle and cycle of scheduling
    show laterCycle s.now event.due = laterCycle event.due cycle
    exact UInt64.le_antisymm (laterCycle_le hle' (le_laterCycle_left _ _))
      (laterCycle_le (le_laterCycle_right _ _) (UInt64.le_trans hle (le_laterCycle_left _ _)))
  | setClock _ _ ih => exact ih

/-! ## The clock in a pass -/

/-- From `s`, with `past` behind it, to `s'`, with more behind it, the clock never goes back. -/
def ClockRises (s : Scheduler) (past : List Moment) (s' : Scheduler) (past' : List Moment) : Prop :=
  s.now ≤ s'.now ∧ ∃ recent, past' = recent ++ past ∧
    (∀ m ∈ recent, s.now ≤ m.after.now ∧ m.after.now ≤ s'.now) ∧
    recent.Pairwise fun later sooner => sooner.after.now ≤ later.after.now

theorem ClockRises.refl (s : Scheduler) (past : List Moment) : ClockRises s past s past :=
  ⟨UInt64.le_refl _, [], rfl, (fun _ h => nomatch h), .nil⟩

/-- Two stretches of a life, one after the other. -/
theorem ClockRises.trans {s' s'' : Scheduler} {past' past'' : List Moment}
    (h : ClockRises s past s' past') (h' : ClockRises s' past' s'' past'') :
    ClockRises s past s'' past'' := by
  obtain ⟨hle, recent, rfl, hbounds, hrises⟩ := h
  obtain ⟨hle', recent', rfl, hbounds', hrises'⟩ := h'
  refine ⟨UInt64.le_trans hle hle', recent' ++ recent, by rw [List.append_assoc], ?_, ?_⟩
  · intro m hm
    rcases List.mem_append.1 hm with hm | hm
    · exact ⟨UInt64.le_trans hle (hbounds' m hm).1, (hbounds' m hm).2⟩
    · exact ⟨(hbounds m hm).1, UInt64.le_trans (hbounds m hm).2 hle'⟩
  · refine List.pairwise_append.2 ⟨hrises', hrises, fun later hlater sooner hsooner => ?_⟩
    exact UInt64.le_trans (hbounds sooner hsooner).2 (hbounds' later hlater).1

/-- One moment at which the clock has not gone back. -/
theorem ClockRises.moment {after : Scheduler} (h : s.now ≤ after.now) (what : Happening) :
    ClockRises s past after (⟨what, after⟩ :: past) := by
  refine ⟨h, [⟨what, after⟩], rfl, fun m hm => ?_, List.pairwise_singleton _ _⟩
  rw [List.mem_singleton.1 hm]
  exact ⟨h, UInt64.le_refl _⟩

/-- The clock may have been set forward before and may be set forward afterwards. -/
theorem ClockRises.widen {s₀ s' s₁ : Scheduler} {past' : List Moment} (h : ClockRises s past s' past')
    (hbefore : s₀.now ≤ s.now) (hafter : s'.now ≤ s₁.now) : ClockRises s₀ past s₁ past' := by
  obtain ⟨hle, recent, hpast, hbounds, hrises⟩ := h
  exact ⟨UInt64.le_trans hbefore (UInt64.le_trans hle hafter), recent, hpast, fun m hm =>
    ⟨UInt64.le_trans hbefore (hbounds m hm).1, UInt64.le_trans (hbounds m hm).2 hafter⟩, hrises⟩

section Passes

variable {ψ : Type} {handler : Handler ψ} {limit : UInt64} {n : Nat} {s' : Scheduler}
  {world world' : ψ × List Moment}

/-- What a handler does in a call leaves the clock alone, unless it resets. -/
theorem Conduct.clockRises {conduct : Conduct ψ} (h : conduct.NeverResets) (s : Scheduler)
    (past : List Moment) : ClockRises s past (conduct.run s past).1 (conduct.run s past).2.2 := by
  induction conduct generalizing s past with
  | done world => exact .refl s past
  | act op next ih =>
    have hsame : s.now ≤ (op.perform s).2.now :=
      now_perform_of_ne_reset h.1 s ▸ UInt64.le_refl _
    exact (ClockRises.moment hsame _).trans (ih _ _ (h.2 _ _) _ _)

/-- In a pass whose handlers do not reset, the clock never goes back, wherever the pass stands. -/
theorem Turns.clockRises (h : Turns handler.react limit n s world s' world')
    (hquiet : handler.NeverResets) : ClockRises s world.2 s' world'.2 := by
  induction h with
  | refl s world => exact .refl s world.2
  | @turn _ s _ rest world _ event hpop _ ih =>
    have hforward : s.now ≤ (rest.arrive event).now := by
      obtain ⟨tail, -, -, rfl⟩ := popDue?_eq_some_iff.1 hpop
      exact le_laterCycle_left _ _
    have hconduct := Conduct.clockRises (hquiet event (rest.arrive event) world.1) (rest.arrive event)
      (⟨.handedOut event, rest.arrive event⟩ :: world.2)
    exact ((ClockRises.moment hforward _).trans hconduct).trans ih

/-- A pass has ended with the clock at `target`: it has only gone on with the life of the scheduler, the
clock has never gone back, and nothing that waits is due. -/
structure Reaches (target : UInt64) (s : Scheduler) (past : List Moment) (s' : Scheduler)
    (past' : List Moment) : Prop where
  life : Life Elapses past' s'
  rises : ClockRises s past s' past'
  clock : s'.now = target
  nothingDue : ∀ e ∈ s'.queue, s'.now < e.due

/-- An advance reaches the cycle it is for, and everything due by then has been handed out. -/
theorem Life.reaches_advance (life : Life Elapses world.2 s) (hquiet : handler.NeverResets)
    {bound count : Nat} {delta : UInt64}
    (h : s.advance handler.react bound delta world = some (count, s', world')) :
    Reaches (addCycles s.now delta) s world.2 s' world'.2 := by
  have hlife := life.advance h
  obtain ⟨last, hturns, hend, rfl⟩ := exists_advance_iff.1 ⟨bound, h⟩
  have hlast := hturns.now_le handler.now_react_le (le_addCycles s.now delta)
  exact ⟨hlife, (hturns.clockRises hquiet).widen (UInt64.le_refl _) hlast, rfl,
    (life.turns hturns).wellKept.lt_due_of_popDue?_eq_none hend⟩

/-- A dispatch stays at the cycle it starts from. -/
theorem Life.reaches_dispatchDue (life : Life Elapses world.2 s) (hquiet : handler.NeverResets)
    {bound count : Nat}
    (h : s.dispatchDue handler.react bound world = some (count, s', world')) :
    Reaches s.now s world.2 s' world'.2 := by
  obtain ⟨hturns, hend⟩ := exists_pass_iff.1 ⟨bound, h⟩
  have hrises := hturns.clockRises hquiet
  have hclock : s'.now = s.now :=
    UInt64.le_antisymm (hturns.now_le handler.now_react_le (UInt64.le_refl _)) hrises.1
  have hlife := life.turns hturns
  refine ⟨hlife, hrises, hclock, ?_⟩
  rw [hclock]
  exact hlife.wellKept.lt_due_of_popDue?_eq_none hend

/-- The earliest due cycle among waiting events. -/
def Earliest (s : Scheduler) (due : UInt64) : Prop :=
  (∃ e ∈ s.queue, e.due = due) ∧ ∀ e ∈ s.queue, due ≤ e.due

/-- A jump reaches the earliest due cycle, or does nothing if nothing waits. -/
theorem Life.reaches_jump (life : Life Elapses world.2 s) (hquiet : handler.NeverResets)
    {bound : Nat} {woken : Bool}
    (h : s.jump handler.react bound world = some (woken, s', world')) :
    (s.queue = [] ∧ Reaches s.now s world.2 s' world'.2) ∨
      ∃ due, Earliest s due ∧ Reaches (laterCycle s.now due) s world.2 s' world'.2 := by
  unfold Scheduler.jump at h
  cases hdue : s.nextDue? with
  | none =>
    have hempty := nextDue?_eq_none_iff.1 hdue
    rw [hdue] at h
    cases h
    refine .inl ⟨hempty, life, .refl s _, rfl, ?_⟩
    rw [hempty]
    exact fun _ h => nomatch h
  | some due =>
    rw [hdue] at h
    obtain ⟨⟨count, last, after⟩, hpass, heq⟩ := Option.map_eq_some_iff.1 h
    cases heq
    -- the pass starts where the clock has jumped to; before that it has only moved on
    have hreaches := (life.wake hdue).reaches_dispatchDue hquiet hpass
    exact .inr ⟨due, life.wellKept.of_nextDue?_eq_some hdue, hreaches.life,
      hreaches.rises.widen (le_laterCycle_left _ _) (UInt64.le_refl _), hreaches.clock,
      hreaches.nothingDue⟩

end Passes

/-- Whatever has happened to a scheduler, every event was handed out at the later of its due cycle and
the cycle at which it was scheduled. Whatever handlers that schedule and cancel do in a pass that starts
there, the clock never goes back, and a pass that ends has reached its cycle with nothing due any more:
`advance` the sum of now and `delta`, `dispatchDue` the present one, `jump` the later of now and the
earliest due cycle. -/
theorem handOut_on_time {ψ : Type} (life : Life Elapses past s) :
    (∀ event after earlier, (⟨.handedOut event, after⟩ :: earlier) <:+ past →
      OnTime earlier event after.now) ∧
    ∀ (handler : Handler ψ), handler.NeverResets → ∀ world,
      (∀ limit n s' world' past', Turns handler.react limit n s (world, past) s' (world', past') →
        Life Elapses past' s' ∧ ClockRises s past s' past') ∧
      (∀ bound delta count s' world' past',
        s.advance handler.react bound delta (world, past) = some (count, s', world', past') →
        Reaches (addCycles s.now delta) s past s' past') ∧
      (∀ bound count s' world' past',
        s.dispatchDue handler.react bound (world, past) = some (count, s', world', past') →
        Reaches s.now s past s' past') ∧
      ∀ bound woken s' world' past',
        s.jump handler.react bound (world, past) = some (woken, s', world', past') →
        (s.queue = [] ∧ Reaches s.now s past s' past') ∨
          ∃ due, Earliest s due ∧ Reaches (laterCycle s.now due) s past s' past' := by
  refine ⟨life.handedOut_onTime, fun handler hquiet world => ?_⟩
  have hlife : Life Elapses (world, past).2 s := life
  refine ⟨?_, ?_, ?_, ?_⟩
  · exact fun _ _ _ _ _ hturns => ⟨hlife.turns hturns, hturns.clockRises hquiet⟩
  · exact fun _ _ _ _ _ _ hadvance => hlife.reaches_advance hquiet hadvance
  · exact fun _ _ _ _ _ hdispatch => hlife.reaches_dispatchDue hquiet hdispatch
  · exact fun _ _ _ _ _ hjump => hlife.reaches_jump hquiet hjump

/-- At cycle 5 an event is overdue since cycle 3. Advancing by 9 cycles hands it out at once; its handler
schedules it anew for cycle 9 and then for 13, and the pass ends at 14. -/
theorem handOut_on_time_overdue :
    ∃ past s s' past', Life Elapses past s ∧ ticker.NeverResets ∧
      s.advance ticker.react 3 9 ((), past) = some (3, s', (), past') ∧
      (∀ event after earlier, (⟨.handedOut event, after⟩ :: earlier) <:+ past →
        OnTime earlier event after.now) ∧
      Reaches 14 s past s' past' := by
  have powerOn : Life Elapses [] {} := .start
  have life := ((powerOn.perform (.scheduleAt 5 timer)).handOut
    (show popDue? 5 _ = some (_, _) from rfl)).perform (.scheduleAt 3 timer)
  have hquiet : ticker.NeverResets := fun _ _ _ => ⟨nofun, fun _ _ => trivial⟩
  obtain ⟨honTime, hpasses⟩ := @handOut_on_time _ _ Unit life
  obtain ⟨-, hadvance, -⟩ := hpasses ticker hquiet ()
  exact ⟨_, _, _, _, life, hquiet, rfl, honTime, hadvance 3 9 3 _ _ _ rfl⟩

end Motherboard.Scheduler
