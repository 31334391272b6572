import Motherboard.Proofs.SilentAccess

/-!
# How accesses are carried

An access that completes was carried either by one device cycle of its width or byte by byte. Which of the
two it was shows in what the targets were asked: one request for all of the bytes, or none for more than a
single byte (`Bus.carriesByLanes`). The flag with which the bus reports a completed access says the same
(`decomposed_of_checked`).

* `noticed_eq_judge` — the routing comes to one of three verdicts, and asks accordingly.
* `asked_dispatch` — a device cycle asks its target once, if the target is there.
-/

namespace Motherboard

/-- What the policy makes of an access. -/
inductive Verdict where
  /-- It is refused. -/
  | refused (fault : Fault)
  /-- It is one device cycle of its width, through a page entry. -/
  | once (entry : PageEntry)
  /-- It is a byte cycle for each of its bytes. -/
  | byBytes

theorem Width.one_lt_bytes {w : Width} (h : w ≠ .byte) : 1 < w.bytes := by
  cases w with
  | byte => exact absurd rfl h
  | word | dword => decide

namespace Routing

variable {σ : Type} {answer : Requests.Answerer σ}

/-- The verdict to which the routing comes. -/
def judge (r : Routing) (a : Access) : Verdict :=
  match r.resolve .checked a with
  | .error fault => .refused fault
  | .ok entry =>
    if a.width = .byte then .once entry
    else if r.refusesAlignment .checked a then .refused (pageFault .misaligned entry a)
    else
      match r.route a entry with
      | .wide => .once entry
      | .lanes => .byBytes

/-- What the routing asks depends on its verdict alone. -/
theorem noticed_eq_judge (r : Routing) (a : Access) :
    r.noticed .checked a =
      match r.judge a with
      | .refused fault => .done (.error fault)
      | .once entry => r.whole entry a
      | .byBytes => r.decompose .checked a := by
  unfold noticed judge
  cases r.resolve .checked a with
  | error fault => rfl
  | ok entry =>
    dsimp only
    split_ifs
    · rfl
    · rfl
    · cases r.route a entry <;> rfl

/-- What goes byte by byte is wide. -/
theorem wide_of_judge {r : Routing} {a : Access} (h : r.judge a = .byBytes) : a.width ≠ .byte := by
  intro hbyte
  unfold judge at h
  cases hentry : r.resolve .checked a with
  | error fault =>
    rw [hentry] at h
    cases h
  | ok entry =>
    rw [hentry] at h
    dsimp only at h
    -- a byte that is granted is judged to go once
    rw [if_pos hbyte] at h
    cases h

/-- What a device cycle of the full width of an access asks its target. -/
def deviceCycle (r : Routing) (entry : PageEntry) (a : Access) : Request :=
  if a.intent.isWrite then
    .write entry.target a.width (r.deviceOffset entry a.address) a.value a
  else
    .read entry.target a.width (r.deviceOffset entry a.address) a

/-- A device cycle is as wide as the access it is for. -/
@[simp] theorem byteCount_deviceCycle (r : Routing) (entry : PageEntry) (a : Access) :
    (r.deviceCycle entry a).byteCount = a.width.bytes := by
  unfold deviceCycle
  split_ifs <;> rfl

/-- One request, and none where there is no target to ask. -/
theorem asked_dispatch (r : Routing) (entry : PageEntry) (a : Access) (s : σ) :
    (r.dispatch entry a).asked answer s =
      if entry.target.index < r.targets then [r.deviceCycle entry a] else [] := by
  unfold dispatch deviceCycle
  dsimp only
  split_ifs
  -- whatever the answer is, nothing is asked after it
  · rw [Requests.asked_ask]
    rcases (answer (.write entry.target a.width (r.deviceOffset entry a.address) a.value a) s).1
      with e | _ <;> rfl
  · rw [Requests.asked_ask]
    rcases (answer (.read entry.target a.width (r.deviceOffset entry a.address) a) s).1
      with e | value <;> rfl
  · rfl

/-- A dispatch that succeeds has found its target. -/
theorem lt_targets_of_dispatch {r : Routing} {entry : PageEntry} {a : Access} {s : σ}
    {value cost : UInt32} (h : ((r.dispatch entry a).run answer s).1 = .ok (value, cost)) :
    entry.target.index < r.targets := by
  by_contra hmissing
  unfold dispatch at h
  dsimp only at h
  rw [if_neg hmissing] at h
  cases h

/-- One dispatch asks for all bytes of its access at once. -/
theorem dispatch_byteCount (r : Routing) (entry : PageEntry) (a : Access) :
    (r.dispatch entry a).All fun request => request.byteCount = a.width.bytes := by
  unfold dispatch
  dsimp only
  split_ifs
  · refine ⟨rfl, ?_⟩
    rintro (e | _) <;> trivial
  · refine ⟨rfl, ?_⟩
    rintro (e | value) <;> trivial
  · trivial

/-- A byte cycle too, where all of them is one. -/
theorem byteCycle_byteCount (r : Routing) (checking : Checking) (a : Access) :
    (r.byteCycle checking a).All fun request => request.byteCount = a.width.bytes := by
  unfold byteCycle
  cases r.resolve checking a with
  | error fault => trivial
  | ok entry => exact r.dispatch_byteCount entry a

/-- A decomposed access asks for single bytes. -/
theorem lanesFrom_byteCount (r : Routing) (checking : Checking) (a : Access) (lanes : List Nat)
    (value cycles : UInt32) :
    (r.lanesFrom checking a lanes value cycles).All fun request => request.byteCount = 1 := by
  induction lanes generalizing value cycles with
  | nil => trivial
  | cons i lanes ih =>
    refine (r.byteCycle_byteCount checking (r.lane a i)).bind ?_
    rintro (fault | ⟨byte, cost⟩)
    · trivial
    · exact ih _ _

theorem lanesFrom_ends_decomposed (r : Routing) (checking : Checking) (a : Access) (lanes : List Nat)
    (value cycles : UInt32) :
    (r.lanesFrom checking a lanes value cycles).Ends fun result =>
      ∀ c, result = .ok c → c.decomposed = true := by
  induction lanes generalizing value cycles with
  | nil =>
    rintro c ⟨⟩
    rfl
  | cons i lanes ih =>
    refine (Requests.ends_true _).bind ?_
    rintro (fault | ⟨byte, cost⟩) -
    · exact fun c h => by cases h
    · exact ih _ _

/-- An access that one device cycle completes was asked for in one piece. -/
theorem whole_eq_ok {r : Routing} {entry : PageEntry} {a : Access} {s : σ} {c : Completed}
    (h : ((r.whole entry a).run answer s).1 = .ok c) :
    c.decomposed = false ∧ (r.whole entry a).asked answer s = [r.deviceCycle entry a] := by
  unfold whole at h ⊢
  rw [Requests.run_map] at h
  rw [Requests.asked_map, asked_dispatch]
  rcases hcycle : ((r.dispatch entry a).run answer s).1 with fault | ⟨value, cost⟩
  · rw [hcycle] at h
    cases h
  · rw [hcycle] at h
    cases h
    exact ⟨rfl, if_pos (lt_targets_of_dispatch hcycle)⟩

end Routing

namespace Bus

variable {ω δ γ : Type} [Device δ ω] [Card γ δ ω] {bus : Bus ω δ γ} {a : Access} {c : Completed}

/-- The bus carries the access byte by byte: it is wide, and no target is asked for more than a byte of it
at a time. -/
def carriesByLanes (bus : Bus ω δ γ) (a : Access) : Bool :=
  a.width != .byte && (bus.requests a).all fun request => decide (request.byteCount ≤ 1)

theorem carriesByLanes_of_byte (h : a.width = .byte) : bus.carriesByLanes a = false := by
  rw [carriesByLanes, h]
  rfl

/-- A wide access is, if it asks for single bytes only. -/
theorem carriesByLanes_of_all (hwide : a.width ≠ .byte)
    (h : (bus.routing.checked a).All fun request => request.byteCount ≤ 1) :
    bus.carriesByLanes a = true := by
  unfold carriesByLanes
  rw [Bool.and_eq_true, bne_iff_ne, List.all_eq_true]
  refine ⟨hwide, ?_⟩
  intro request hrequest
  exact decide_eq_true (Requests.of_mem_asked h hrequest)

/-- An access that asks for all of its bytes at once is not counted as decomposed. -/
theorem carriesByLanes_of_mem {request : Request} (h : request ∈ bus.requests a)
    (hcount : request.byteCount = a.width.bytes) (hwide : a.width ≠ .byte) :
    bus.carriesByLanes a = false := by
  have hmany : ¬ request.byteCount ≤ 1 := by
    have hbytes := Width.one_lt_bytes hwide
    omega
  unfold carriesByLanes
  rw [Bool.and_eq_false_iff, List.all_eq_false]
  exact .inr ⟨request, h, by simpa using hmany⟩

/-- What devices must not notice goes byte by byte, whatever its width. -/
theorem carriesByLanes_of_silent (h : a.sideEffectsAllowed = false) :
    bus.carriesByLanes a = (a.width != .byte) := by
  cases hwidth : a.width with
  | byte => exact carriesByLanes_of_byte hwidth
  | word | dword =>
    refine carriesByLanes_of_all (by rw [hwidth]; decide) ?_
    refine Requests.All.mono ?_ (bus.routing.checked_suits a)
    intro request hsuits
    cases request with
    | read id width offset access | write id width offset value access =>
      -- a device cycle does not suit an access without side effects
      have hnoticed : a.sideEffectsAllowed = true := hsuits.1
      rw [h] at hnoticed
      cases hnoticed
    | peek id offset | poke id offset value => exact Nat.le_refl 1
    | floating address => exact Nat.zero_le 1

/-- The flag of a completed access tells how it was carried. -/
theorem decomposed_of_checked (h : ((bus.routing.checked a).run answer bus).1 = .ok c) :
    c.decomposed = bus.carriesByLanes a := by
  cases hnoticed : a.sideEffectsAllowed with
  | false =>
    have hends := Requests.run_of_ends
      (Routing.checked_ends_completed_of_silent (r := bus.routing) hnoticed) answer bus
    rw [carriesByLanes_of_silent hnoticed]
    exact (hends c h).2
  | true =>
    have hchecked := (Routing.checked_of_noticed (r := bus.routing) hnoticed).trans
      (bus.routing.noticed_eq_judge _)
    have hwidth := bus.routing.normalize_width a
    -- what is refused does not complete
    cases hverdict : bus.routing.judge (bus.routing.normalize a) with
    | refused fault =>
      rw [hverdict] at hchecked
      rw [hchecked] at h
      cases h
    | once entry =>
      rw [hverdict] at hchecked
      rw [hchecked] at h
      obtain ⟨hwhole, hasked⟩ := Routing.whole_eq_ok h
      rw [hwhole]
      by_cases hbyte : a.width = .byte
      · rw [carriesByLanes_of_byte hbyte]
      · -- the one request is for more than a byte
        have hmem : bus.routing.deviceCycle entry (bus.routing.normalize a) ∈ bus.requests a := by
          rw [requests, hchecked, hasked]
          exact List.mem_singleton_self _
        rw [carriesByLanes_of_mem hmem _ hbyte]
        rw [Routing.byteCount_deviceCycle, hwidth]
    | byBytes =>
      rw [hverdict] at hchecked
      have hwide : a.width ≠ .byte := hwidth ▸ Routing.wide_of_judge hverdict
      have hends := Requests.run_of_ends (Routing.lanesFrom_ends_decomposed bus.routing .checked
        (bus.routing.normalize a) (bus.routing.normalize a).laneNumbers 0 0) answer bus
      rw [hchecked] at h
      rw [hends c h, carriesByLanes_of_all hwide]
      rw [hchecked]
      exact Requests.All.mono (fun _ => Nat.le_of_eq) (Routing.lanesFrom_byteCount ..)

end Bus

end Motherboard
