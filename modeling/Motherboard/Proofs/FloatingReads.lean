import Motherboard.Proofs.Bookkeeping
import Motherboard.Proofs.PageRouting
import Motherboard.Proofs.Replay

/-!
# Bytes from the floating lines

Where nothing drives the lines, a read sees the floating byte. Two layers put it in: the bus, when it looks
at a target that shows nothing (`Bus.floatingLooks`), and an I/O page, when no part is there for a byte
cycle (`Bus.floatingCycles`). The bus counts the bytes that it has put in itself. It does not hear of those
of the pages, so its counter tells of all floating bytes exactly when no page has supplied one, or when the
looks alone have filled the counter (`floatingReads_of_booked`).
-/

namespace Motherboard

/-! ## Looks -/

namespace Routing

/-- What a look at a byte asks: the target, if its page takes looks, and the floating lines if nothing was
shown. -/
def look (r : Routing) (entry : PageEntry) (address : UInt32) : Requests UInt8 :=
  if entry.capabilities.peek then
    .ask (.peek entry.target (r.deviceOffset entry address)) fun
      | some byte => .done byte
      | none => .ask (.floating address) fun byte => .done byte
  else
    .ask (.floating address) fun byte => .done byte

/-- A silent read looks at its lanes one after another. -/
theorem silentFrom_cons {r : Routing} {a : Access} {i : Nat} {entry : PageEntry}
    (hread : a.intent.isWrite = false)
    (hentry : r.table.entryFor? (r.lane a i).address = some entry)
    (htarget : entry.target.index < r.targets) (rest : List Nat) (value : UInt32) :
    r.silentFrom a (i :: rest) value =
      (r.look entry (r.lane a i).address).bind fun byte =>
        r.silentFrom a rest (a.mergeLane value i byte) := by
  have hdirection : ¬a.intent.isWrite = true := by rw [hread]; decide
  rw [silentFrom]
  dsimp only
  rw [hentry]
  dsimp only
  rw [if_pos htarget, if_neg hdirection]
  unfold look
  cases entry.capabilities.peek with
  | true =>
    -- the same look, and the same byte whether it was shown or not
    show Requests.ask _ _ = Requests.ask _ _
    congr 1
    funext shown
    cases shown <;> rfl
  | false => rfl

end Routing

namespace Bus

variable {ω δ γ : Type} [Device δ ω] [Card γ δ ω] {bus : Bus ω δ γ} {a : Access}

/-- What the target of a page shows at an address. -/
def shown? (bus : Bus ω δ γ) (entry : PageEntry) (address : UInt32) : Option UInt8 :=
  if entry.capabilities.peek then
    (answer (.peek entry.target (bus.routing.deviceOffset entry address)) bus).1
  else
    none

/-- How many of the lanes listed nothing drives when the bus looks at them one after another. A page that
is not mapped, and a target that is not there, end the looks. -/
def undriven (a : Access) : List Nat → Bus ω δ γ → Nat
  | [], _ => 0
  | i :: rest, bus =>
    let address := (bus.routing.lane a i).address
    match bus.table.entryFor? address with
    | none => 0
    | some entry =>
      if entry.target.index < bus.targets.size then
        (if (bus.shown? entry address).isNone then 1 else 0) +
          undriven a rest ((bus.routing.look entry address).run answer bus).2
      else
        0

/-- The pages refuse a quiet access, so that none of its lanes is looked at. The debugger is not refused. -/
def refusesLooks (bus : Bus ω δ γ) (a : Access) : Bool :=
  !a.intent.isDebug && !(bus.routing.checkLanesFrom a a.laneNumbers).isOk

/-- How many bytes nothing drives when the bus looks for an access. It looks for reads without side effects
alone. -/
def floatingLooks (bus : Bus ω δ γ) (a : Access) : Nat :=
  let seen := bus.routing.normalize a
  if seen.sideEffectsAllowed || seen.intent.isWrite || bus.refusesLooks seen then 0
  else undriven seen seen.laneNumbers bus

/-- A look asks for the floating value exactly if nobody shows a byte. -/
theorem countP_isFloating_look (entry : PageEntry) (address : UInt32) (bus : Bus ω δ γ) :
    ((bus.routing.look entry address).asked answer bus).countP Request.isFloating =
      if (bus.shown? entry address).isNone then 1 else 0 := by
  unfold Routing.look shown?
  cases entry.capabilities.peek with
  | true =>
    show ((Requests.ask _ _).asked answer bus).countP Request.isFloating =
      if (answer (.peek entry.target (bus.routing.deviceOffset entry address)) bus).1.isNone then 1 else 0
    rw [Requests.asked_ask, List.countP_cons]
    rcases (answer (.peek entry.target (bus.routing.deviceOffset entry address)) bus).1 with
      _ | byte <;> rfl
  | false => rfl

/-- The looks at the lanes listed take from the floating lines what nothing drives. -/
theorem countP_isFloating_silentFrom {r : Routing} (hr : bus.routing = r)
    (hread : a.intent.isWrite = false) (lanes : List Nat) (value : UInt32) :
    ((r.silentFrom a lanes value).asked answer bus).countP Request.isFloating =
      undriven a lanes bus := by
  -- on the lanes still to do, over every bus that the looks before them have left
  induction lanes generalizing bus value with
  | nil => rfl
  | cons i lanes ih =>
    subst hr
    unfold undriven
    dsimp only
    cases hentry : bus.table.entryFor? (bus.routing.lane a i).address with
    | none =>
      -- a fault ends the looks
      rw [Routing.silentFrom]
      dsimp only
      rw [show bus.routing.table.entryFor? (bus.routing.lane a i).address = none from hentry]
      rfl
    | some entry =>
      dsimp only
      by_cases htarget : entry.target.index < bus.targets.size
      · rw [if_pos htarget, Routing.silentFrom_cons hread hentry htarget, Requests.asked_bind,
          List.countP_append, countP_isFloating_look, ih (routing_run _ bus)]
      · rw [if_neg htarget, Routing.silentFrom]
        dsimp only
        rw [show bus.routing.table.entryFor? (bus.routing.lane a i).address = some entry from hentry]
        dsimp only
        rw [if_neg (show ¬entry.target.index < bus.routing.targets from htarget)]
        rfl

/-- An access takes a byte from the floating lines for every byte that nothing drives in its looks. -/
theorem countP_isFloating_requests (bus : Bus ω δ γ) (a : Access) :
    (bus.requests a).countP Request.isFloating = bus.floatingLooks a := by
  unfold floatingLooks
  dsimp only
  rw [Routing.normalize_sideEffectsAllowed, Routing.normalize_intent]
  cases hnoticed : a.sideEffectsAllowed with
  | true =>
    exact countP_isFloating_of_suits hnoticed fun request hrequest =>
      Requests.of_mem_asked (bus.routing.checked_suits a) hrequest
  | false =>
    cases hwrite : a.intent.isWrite with
    | true =>
      -- a silent write pokes, it does not look
      refine List.countP_eq_zero.2 ?_
      intro request hrequest
      obtain ⟨id, offset, value, rfl⟩ := Request.Suits.of_silentWrite
        (Requests.of_mem_asked (bus.routing.checked_suits a) hrequest) hnoticed hwrite
      exact Bool.false_ne_true
    | false =>
      have hread : (bus.routing.normalize a).intent.isWrite = false := by
        rw [Routing.normalize_intent, hwrite]
      rw [requests, Routing.checked_of_silent hnoticed]
      unfold Routing.silent refusesLooks
      rw [Routing.normalize_intent]
      cases a.intent.isDebug with
      | true => exact countP_isFloating_silentFrom rfl hread _ 0
      | false =>
        cases hchecked : bus.routing.checkLanesFrom (bus.routing.normalize a)
            (bus.routing.normalize a).laneNumbers with
        | error fault => rfl
        | ok _ => exact countP_isFloating_silentFrom rfl hread _ 0

end Bus

/-! ## Byte cycles of I/O pages -/

namespace IoPage

variable {ω γ δ : Type} [Card γ δ ω] {p : IoPage δ} {b : Backplane ω γ} {offset : UInt32}

/-- Nothing drives a byte cycle at the offset: the page may dispatch it, but when the cycle has selected no
part is there to answer. -/
def floatsAt (offset : UInt32) (s : IoPage δ × Backplane ω γ) : Bool :=
  decide (s.2.hold = .free) && (s.1.dispatched? (s.1.touched s.2 offset) offset).isNone

variable [Device δ ω]

end IoPage

/-! ## Runs -/

namespace Bus

variable {ω δ γ : Type} [Device δ ω] [Card γ δ ω] {bus after : Bus ω δ γ}

/-- For every byte cycle of an I/O page that a request reads with, whether nothing drives it. -/
def floatsOf (request : Request) (bus : Bus ω δ γ) : List Bool :=
  match request with
  | .read id width offset access =>
    match bus.target? id with
    | some (.page p) =>
      Cycle.readNotes IoPage.read8 IoPage.floatsAt width offset access (p, bus.backplane)
    | _ => []
  | _ => []

/-- How many bytes I/O pages take from the floating lines when the bus carries out an access. -/
def floatingCycles (bus : Bus ω δ γ) (a : Access) : Nat :=
  ((bus.routing.checked a).notes answer floatsOf bus).count true

end Bus

namespace Booking

variable {ω δ γ : Type} [Device δ ω] [Card γ δ ω]

/-- The bytes that nothing drove when the bus looked. -/
def floatingLooks : Booking ω δ γ → Nat
  | .access bus a _ false => bus.floatingLooks a
  | _ => 0

/-- The bytes that nothing drove when I/O pages were read. -/
def floatingCycles : Booking ω δ γ → Nat
  | .access bus a _ false => bus.floatingCycles a
  | _ => 0

end Booking

open Booking (sinceCleared)

namespace Bus

variable {ω δ γ : Type} [Device δ ω] [Card γ δ ω] {bus after first : Bus ω δ γ}

/-- The counter of floating bytes is that many higher after an access, whatever its end. -/
theorem floatingReads_access (bus : Bus ω δ γ) (a : Access) :
    (bus.access a).2.diagnostics.floatingReads.toNat =
      min (bus.diagnostics.floatingReads.toNat + bus.floatingLooks a) (2 ^ 32 - 1) := by
  -- the bytes are counted while the targets answer; how the access ended is counted elsewhere
  obtain ⟨mid, -, hcounted, -, hended⟩ := bus.exists_accessBooked a
  rw [countP_isFloating_requests] at hcounted
  have hmid := bus.diagnostics.toNat_floatingReads_afterFloating (bus.floatingLooks a)
  rw [← hcounted] at hmid
  rcases hended with ⟨fault, hfault⟩ | ⟨c, -, hdone⟩
  · obtain ⟨-, -, -, hkept⟩ := mid.diagnostics.kept_recordFault fault
    rw [hfault, ← hmid]
    exact congrArg UInt32.toNat hkept
  · rw [hdone, ← hmid]
    rfl

/-- Each deed counts the floating bytes it looks at, and clearing starts again. -/
theorem Deed.floatingReads {booking? : Option (Booking ω δ γ)} (h : bus.Deed booking? after)
    {log : List (Booking ω δ γ)}
    (hlooks : bus.diagnostics.floatingReads.toNat =
      min ((sinceCleared log).map Booking.floatingLooks).sum (2 ^ 32 - 1)) :
    after.diagnostics.floatingReads.toNat =
      min ((sinceCleared (booking?.toList ++ log)).map Booking.floatingLooks).sum (2 ^ 32 - 1) := by
  obtain ⟨a, rfl, hafter⟩ | ⟨a, o, rfl, hafter⟩ | ⟨rfl, hafter⟩ | ⟨rfl, hafter⟩ := h.counted <;>
    rw [hafter]
  · have hsum : ((sinceCleared (.access bus a (bus.access a).1 false :: log)).map
        Booking.floatingLooks).sum =
        bus.floatingLooks a + ((sinceCleared log).map Booking.floatingLooks).sum := rfl
    rw [floatingReads_access, hlooks]
    show _ = min ((sinceCleared (.access bus a (bus.access a).1 false :: log)).map
      Booking.floatingLooks).sum _
    omega
  · -- a trap looks at nothing
    have hsum : ((sinceCleared (.access bus a (.ok o) true :: log)).map Booking.floatingLooks).sum =
        0 + ((sinceCleared log).map Booking.floatingLooks).sum := rfl
    show bus.diagnostics.floatingReads.toNat =
      min ((sinceCleared (.access bus a (.ok o) true :: log)).map Booking.floatingLooks).sum _
    omega
  · rfl
  · exact hlooks

theorem Booked.floatingReads {log : List (Booking ω δ γ)} (h : first.Booked log after)
    (hcleared : first.diagnostics = .zero ∨ .cleared ∈ log) :
    after.diagnostics.floatingReads.toNat =
      min ((sinceCleared log).map Booking.floatingLooks).sum (2 ^ 32 - 1) :=
  h.keeps
    (P := fun d recent => d.floatingReads.toNat =
      min (recent.map Booking.floatingLooks).sum (2 ^ 32 - 1))
    rfl (fun hdeed _ hlooks => hdeed.floatingReads hlooks) hcleared

end Bus

namespace Machine

variable {ω δ γ : Type} [Device δ ω] [Card γ δ ω] {first m : Machine ω δ γ} {log : List (Booking ω δ γ)}

/-- Since it was cleared, the counter of floating bytes has counted those of the looks, debug and quiet
reads of targets that take no looks or showed nothing. With those that I/O pages have supplied for device
cycles it would be exact; it is so only if there are none, or if it is full without them. -/
theorem floatingReads_of_booked (h : first.Booked log m)
    (hcleared : first.bus.diagnostics = .zero ∨ .cleared ∈ log) :
    let looks := ((sinceCleared log).map Booking.floatingLooks).sum
    let cycles := ((sinceCleared log).map Booking.floatingCycles).sum
    m.bus.diagnostics.floatingReads.toNat = min looks (2 ^ 32 - 1) ∧
      (m.bus.diagnostics.floatingReads.toNat = min (looks + cycles) (2 ^ 32 - 1) ↔
        cycles = 0 ∨ 2 ^ 32 - 1 ≤ looks) := by
  intro looks cycles
  have hlooks : m.bus.diagnostics.floatingReads.toNat = min looks (2 ^ 32 - 1) :=
    h.bus.floatingReads hcleared
  refine ⟨hlooks, ?_⟩
  -- more bytes show in the counter unless it is full already
  rw [hlooks]
  omega

/-- A byte of the ROM window of slot 6. -/
def inTheSlotRom : Access := .read 0xC600 .byte .dataRead

/-- The card in slot 6 has no ROM, so the same address floats for the processor and for the debugger. One
of the two bytes is counted. -/
theorem floatingReads_of_booked_slotRom :
    let seen := (atTheSentinel.cpuAccess inTheSlotRom).2
    let last := { seen with bus := (seen.bus.peek 0xC600).2 }
    let look : Access := .read 0xC600 .byte .debugRead
    let log := [.access seen.bus look (seen.bus.access look).1 false, atTheSentinel.booking inTheSlotRom]
    atTheSentinel.Booked log last ∧ atTheSentinel.bus.diagnostics = .zero ∧
      (atTheSentinel.cpuAccess inTheSlotRom).1 = .ok ⟨0xFF, 1⟩ ∧ (seen.bus.peek 0xC600).1 = .ok 0xFF ∧
      ((sinceCleared log).map Booking.floatingLooks).sum = 1 ∧
      ((sinceCleared log).map Booking.floatingCycles).sum = 1 ∧
      last.bus.diagnostics.floatingReads.toNat = 1 ∧
      last.bus.diagnostics.floatingReads.toNat ≠ min (1 + 1) (2 ^ 32 - 1) := by
  intro seen last look log
  have huntrapped : atTheSentinel.bus.Booked [] (atTheSentinel.pastTraps inTheSlotRom).bus := by
    rw [(untrapped_of_find? (Option.isNone_iff_eq_none.1 (by decide +kernel))).2]
    exact .start
  -- the cycle in the empty slot floats inside the I/O page and is not counted; the look that follows is
  have hseen := Booked.start.cpuAccess inTheSlotRom huntrapped
  have hrun : atTheSentinel.Booked log last := hseen.useBus (.deed .start (.peek 0xC600))
  obtain ⟨hcounter, hexact⟩ := floatingReads_of_booked hrun (.inl rfl)
  have hlooks : ((sinceCleared log).map Booking.floatingLooks).sum = 1 := by decide +kernel
  have hcycles : ((sinceCleared log).map Booking.floatingCycles).sum = 1 := by decide +kernel
  rw [hlooks] at hcounter
  rw [hlooks, hcycles] at hexact
  refine ⟨hrun, rfl, by decide +kernel, by decide +kernel, hlooks, hcycles, hcounter, ?_⟩
  rw [ne_eq, hexact]
  decide

end Machine

end Motherboard
