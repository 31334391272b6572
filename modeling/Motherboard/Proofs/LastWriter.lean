import Motherboard.Bench.Instrument
import Motherboard.Proofs.RegisteredTargets

/-!
# The last writer of a page

A history of mapping calls tells what every page holds: what the latest call that covers the page and was
carried out has stored there. This file says so of every history, from a bus without pages or targets on.
What a page should hold is read off the log of the calls (`written`), and so is what targets there are
(`added`); which calls are refused follows from these two and the size of the table (`refusal?`).

* `perform_of_refuses?`, `exists_answer_of_not_refused` — a call is refused for the reasons given, and no others.
* `LogHolds.after_call` — one call keeps the table as the log says.
* `lastWriter_afterMapCalls` — what every history leaves.
-/

namespace Motherboard

namespace Bus

variable {ω δ γ : Type}

/-! ## Calls and their log -/

/-- What may be asked of a bus about its pages. -/
inductive MapCall (δ : Type) where
  /-- Add a target. -/
  | addTarget (t : Target δ)
  /-- Map one page. -/
  | mapPage (index : Nat) (entry : PageEntry)
  /-- Map a range of pages to consecutive parts of one target. -/
  | mapRange (first count : Nat) (entry : PageEntry)
  /-- Point a mapped page at another target. -/
  | remapPage (index : Nat) (id : TargetId) (base : UInt32)
  /-- Take away the entry of a page. -/
  | unmapPage (index : Nat)

/-- What a call that is not refused answers. -/
inductive MapAnswer where
  /-- It is done. -/
  | done
  /-- This is the number of the target. -/
  | target (id : TargetId)
  /-- This is what the page held. -/
  | held (entry : Option PageEntry)

/-- A call that is refused leaves the bus as it is. -/
def orKept (bus : Bus ω δ γ) : Except MapError (MapAnswer × Bus ω δ γ) →
    Except MapError MapAnswer × Bus ω δ γ
  | .ok (answer, after) => (.ok answer, after)
  | .error e => (.error e, bus)

/-- Calls with their answers, the latest first. -/
abbrev MapLog (δ : Type) := List (MapCall δ × Except MapError MapAnswer)

/-- The targets added so far, in order. -/
def added : MapLog δ → List (Target δ)
  | [] => []
  | (.addTarget t, .ok _) :: log => added log ++ [t]
  | _ :: log => added log

/-- Why a call is refused, if it is, when there are so many pages and targets and the pages hold this. -/
def refusal? (pages targets : Nat) (held : Nat → Option PageEntry) : MapCall δ → Option MapError
  | .addTarget _ => none
  | .mapPage index entry =>
    if targets ≤ entry.target.index then some (.unknownTarget entry.target)
    else if pages ≤ index then some (.indexOutOfRange index pages)
    else none
  | .mapRange first count entry =>
    if targets ≤ entry.target.index then some (.unknownTarget entry.target)
    else if count = 0 then some .emptyRange
    else if PageTable.indexLimit ≤ first + (count - 1) then some (.indexOutOfRange first pages)
    else if pages ≤ first + (count - 1) then some (.indexOutOfRange (first + (count - 1)) pages)
    else none
  | .remapPage index id _ =>
    if targets ≤ id.index then some (.unknownTarget id)
    else if pages ≤ index then some (.indexOutOfRange index pages)
    else if held index = none then some (.notMapped index)
    else none
  | .unmapPage index => if pages ≤ index then some (.indexOutOfRange index pages) else none

section Calls

variable [Device δ ω]

/-- The answer to a call, and the bus after it. -/
def perform (bus : Bus ω δ γ) : MapCall δ → Except MapError MapAnswer × Bus ω δ γ
  | .addTarget t => (.ok (.target (bus.addTarget t).1), (bus.addTarget t).2)
  | .mapPage index entry => bus.orKept ((bus.mapPage index entry).map (.done, ·))
  | .mapRange first count entry => bus.orKept ((bus.mapRange first count entry).map (.done, ·))
  | .remapPage index id base => bus.orKept ((bus.remapPage index id base).map (.done, ·))
  | .unmapPage index => bus.orKept ((bus.unmapPage index).map fun (entry, after) => (.held entry, after))

/-- The log and the bus after further calls. -/
def afterMapCalls : List (MapCall δ) → MapLog δ × Bus ω δ γ → MapLog δ × Bus ω δ γ
  | [], s => s
  | c :: calls, (log, bus) => afterMapCalls calls ((c, (bus.perform c).1) :: log, (bus.perform c).2)

/-- What the latest call that covers a page and was carried out has stored there. A page of a range leads
to its part of the target. A page that is pointed at another target keeps what it held but for the target,
its capabilities and the base. -/
def written (g : Geometry) (index : Nat) : MapLog δ → Option PageEntry
  | [] => none
  | (.mapPage place entry, .ok _) :: log =>
    if index = place then some entry else written g index log
  | (.mapRange first count entry, .ok _) :: log =>
    if first ≤ index ∧ index < first + count then
      some { entry with base := entry.base + (index - first).toUInt32 * g.pageSize }
    else written g index log
  | (.remapPage place id base, .ok _) :: log =>
    if index = place then do
      let entry ← written g index log
      let t ← (added log)[id.index]?
      return { entry with target := id, base := base, capabilities := t.capabilities }
    else written g index log
  | (.unmapPage place, .ok _) :: log => if index = place then none else written g index log
  | _ :: log => written g index log

/-- The bus refuses a call, if it does, for this reason. -/
def refuses? (bus : Bus ω δ γ) (c : MapCall δ) : Option MapError :=
  refusal? bus.table.pageCount bus.targets.size bus.table.get? c

/-! ## Refusals -/

variable {bus : Bus ω δ γ} {c : MapCall δ}

omit [Device δ ω] in
theorem checkTarget_of_le {id : TargetId} (h : bus.targets.size ≤ id.index) :
    bus.checkTarget id = .error (.unknownTarget id) := by
  have hout : ¬ id.index < bus.targets.size := by omega
  rw [checkTarget, if_neg hout]

omit [Device δ ω] in
/-- A page refused by the rules is refused by the bus. -/
theorem mapPage_of_refuses? {index : Nat} {entry : PageEntry} {e : MapError}
    (h : bus.refuses? (.mapPage index entry) = some e) : bus.mapPage index entry = .error e := by
  dsimp only [refuses?, refusal?] at h
  unfold mapPage
  split_ifs at h with htarget hpages
  · cases h
    rw [checkTarget_of_le htarget]
    rfl
  · cases h
    rw [checkTarget_eq_ok_iff.2 (by omega), PageTable.set_of_le hpages]
    rfl

omit [Device δ ω] in
theorem mapRange_of_refuses? {first count : Nat} {entry : PageEntry} {e : MapError}
    (h : bus.refuses? (.mapRange first count entry) = some e) :
    bus.mapRange first count entry = .error e := by
  dsimp only [refuses?, refusal?] at h
  unfold mapRange
  split_ifs at h with htarget hempty hlimit hpages
  · cases h
    rw [checkTarget_of_le htarget]
    rfl
  -- the target is there, and the range is at fault
  all_goals
    cases h
    rw [checkTarget_eq_ok_iff.2 (by omega), PageTable.checkRange]
  · rw [if_pos hempty]
    rfl
  · rw [if_neg hempty, if_pos hlimit]
    rfl
  · rw [if_neg hempty, if_neg hlimit, if_pos hpages]
    rfl

theorem remapPage_of_refuses? {index : Nat} {id : TargetId} {base : UInt32} {e : MapError}
    (h : bus.refuses? (.remapPage index id base) = some e) :
    bus.remapPage index id base = .error e := by
  dsimp only [refuses?, refusal?] at h
  unfold remapPage target?
  split_ifs at h with htarget hpages hheld
  · cases h
    rw [Array.getElem?_eq_none htarget]
  -- the target is there, and the page is at fault
  all_goals
    cases h
    rw [Array.getElem?_eq_getElem (by omega)]
    dsimp only
  · rw [if_pos hpages]
  · rw [if_neg hpages, hheld]

omit [Device δ ω] in
theorem unmapPage_of_refuses? {index : Nat} {e : MapError}
    (h : bus.refuses? (.unmapPage index) = some e) : bus.unmapPage index = .error e := by
  dsimp only [refuses?, refusal?] at h
  unfold unmapPage
  split_ifs at h with hpages
  cases h
  rw [PageTable.set_of_le hpages]
  rfl

/-- A refused call is answered with its error and changes nothing. -/
theorem perform_of_refuses? {e : MapError} (h : bus.refuses? c = some e) :
    bus.perform c = (.error e, bus) := by
  cases c with
  | addTarget t => cases h
  | mapPage index entry =>
    rw [perform, mapPage_of_refuses? h]
    rfl
  | mapRange first count entry =>
    rw [perform, mapRange_of_refuses? h]
    rfl
  | remapPage index id base =>
    rw [perform, remapPage_of_refuses? h]
    rfl
  | unmapPage index =>
    rw [perform, unmapPage_of_refuses? h]
    rfl

/-- What nothing speaks against is carried out. -/
theorem exists_answer_of_not_refused (h : bus.refuses? c = none) :
    ∃ answer after, bus.perform c = (.ok answer, after) := by
  -- each call that the rules do not refuse has an answer, because every check of the bus is one of the
  -- rules
  unfold refuses? at h
  cases c with
  | addTarget t => exact ⟨_, _, rfl⟩
  | mapPage index entry =>
    dsimp only [refusal?] at h
    split_ifs at h with htarget hpages
    obtain ⟨after, hmap⟩ : ∃ after, bus.mapPage index entry = .ok after :=
      ⟨_, mapPage_eq_ok_iff.2 ⟨by omega, _, PageTable.set_eq_ok_iff.2 ⟨by omega, rfl⟩, rfl⟩⟩
    rw [perform, hmap]
    exact ⟨_, _, rfl⟩
  | mapRange first count entry =>
    dsimp only [refusal?] at h
    split_ifs at h with htarget hempty hlimit hpages
    obtain ⟨after, hmap⟩ : ∃ after, bus.mapRange first count entry = .ok after :=
      ⟨_, mapRange_eq_ok_iff.2 ⟨by omega, ⟨by omega, by omega, by omega⟩, rfl⟩⟩
    rw [perform, hmap]
    exact ⟨_, _, rfl⟩
  | remapPage index id base =>
    dsimp only [refusal?] at h
    split_ifs at h with htarget hpages hheld
    obtain ⟨entry, hentry⟩ := Option.ne_none_iff_exists'.1 hheld
    have hsome : bus.target? id = some bus.targets[id.index] := Array.getElem?_eq_getElem (by omega)
    obtain ⟨after, hremap⟩ : ∃ after, bus.remapPage index id base = .ok after :=
      ⟨_, remapPage_eq_ok_iff.2
        ⟨_, entry, _, hsome, hentry, PageTable.set_eq_ok_iff.2 ⟨by omega, rfl⟩, rfl⟩⟩
    rw [perform, hremap]
    exact ⟨_, _, rfl⟩
  | unmapPage index =>
    dsimp only [refusal?] at h
    split_ifs at h with hpages
    obtain ⟨after, hunmap⟩ : ∃ after, bus.unmapPage index = .ok (bus.table.get? index, after) :=
      ⟨_, unmapPage_eq_ok_iff.2 ⟨rfl, _, PageTable.set_eq_ok_iff.2 ⟨by omega, rfl⟩, rfl⟩⟩
    rw [perform, hunmap]
    exact ⟨_, _, rfl⟩

/-- An error is always the one the rules give. -/
theorem refuses?_of_error {e : MapError} (h : (bus.perform c).1 = .error e) :
    bus.refuses? c = some e := by
  cases hrefusal : bus.refuses? c with
  | none =>
    obtain ⟨answer, after, hperform⟩ := exists_answer_of_not_refused hrefusal
    rw [hperform] at h
    cases h
  | some e' =>
    rw [perform_of_refuses? hrefusal] at h
    cases h
    rfl

/-! ## One call -/

/-- The table holds what the log says, and the targets are those of the log. -/
structure LogHolds (g : Geometry) (log : MapLog δ) (bus : Bus ω δ γ) : Prop where
  geometry : bus.table.geometry = g
  pages : bus.table.pageCount = g.pageCount
  targets : bus.targets.toList = added log
  entries : ∀ index, bus.table.get? index = written g index log
  registered : bus.routing.IsRegistered

namespace LogHolds

variable {g : Geometry} {log : MapLog δ}

/-- A call that was refused counts for nothing. -/
theorem of_error (h : LogHolds g log bus) (c : MapCall δ) (e : MapError) :
    LogHolds g ((c, .error e) :: log) bus where
  geometry := h.geometry
  pages := h.pages
  targets := by
    rw [h.targets]
    cases c <;> rfl
  entries := by
    intro index
    rw [h.entries index]
    cases c <;> rfl
  registered := h.registered

/-- One page is stored, and the log says so. -/
theorem of_set (h : LogHolds g log bus) {place : Nat} {entry : Option PageEntry} {table : PageTable}
    (hset : bus.table.set place entry = .ok table) {call : MapCall δ × Except MapError MapAnswer}
    (htargets : added (call :: log) = added log)
    (hplace : written g place (call :: log) = entry)
    (hothers : ∀ index, index ≠ place → written g index (call :: log) = written g index log)
    (hregistered : ({ bus with table := table } : Bus ω δ γ).routing.IsRegistered) :
    LogHolds g (call :: log) { bus with table := table } where
  geometry := (PageTable.geometry_of_set hset).trans h.geometry
  pages := (PageTable.pageCount_of_set hset).trans h.pages
  targets := h.targets.trans htargets.symm
  entries := by
    intro index
    dsimp only
    rw [PageTable.get?_of_set hset index]
    split_ifs with hsame
    · -- the page that was written
      rw [hsame, hplace]
    · -- another page
      rw [hothers index hsame, h.entries index]
  registered := hregistered

/-- A range writes its entries into consecutive pages, each at the base that follows the one before. -/
theorem after_mapRange (h : LogHolds g log bus) {first count : Nat} {entry : PageEntry}
    {after : Bus ω δ γ} (hmap : bus.mapRange first count entry = .ok after) :
    LogHolds g ((.mapRange first count entry, .ok .done) :: log) after := by
  have hregistered := isRegistered_mapRange h.registered hmap
  obtain ⟨-, ⟨-, -, hroom⟩, rfl⟩ := mapRange_eq_ok_iff.1 hmap
  refine ⟨?_, ?_, h.targets, ?_, hregistered⟩
  · rw [PageTable.geometry_fill, h.geometry]
  · rw [PageTable.pageCount_fill, h.pages]
  · intro index
    dsimp only
    rw [PageTable.get?_fill_eq hroom entry index, h.geometry, h.entries index]
    rfl

/-- A page that leads elsewhere keeps its kind and its permissions. -/
theorem after_remapPage (h : LogHolds g log bus) {place : Nat} {id : TargetId} {base : UInt32}
    {after : Bus ω δ γ} (hremap : bus.remapPage place id base = .ok after) :
    LogHolds g ((.remapPage place id base, .ok .done) :: log) after := by
  have hregistered := isRegistered_remapPage h.registered hremap
  obtain ⟨t, entry, table, htarget, hentry, hset, rfl⟩ := remapPage_eq_ok_iff.1 hremap
  refine h.of_set hset rfl ?_ ?_ hregistered
  · -- the log knows the target as the bus does
    have hadded : (added log)[id.index]? = some t := by
      rw [← h.targets, Array.getElem?_toList]
      exact htarget
    have hwritten : written g place log = some entry := by
      rw [← h.entries place, hentry]
    rw [written, if_pos rfl, hwritten, hadded]
    rfl
  · intro index hother
    rw [written, if_neg hother]

/-- One call keeps log and table in agreement. -/
theorem after_call (h : LogHolds g log bus) (c : MapCall δ) :
    LogHolds g ((c, (bus.perform c).1) :: log) (bus.perform c).2 := by
  cases c with
  | addTarget t =>
    refine ⟨h.geometry, h.pages, ?_, h.entries, isRegistered_addTarget h.registered t⟩
    have hpush : (bus.targets.push t).toList = bus.targets.toList ++ [t] := Array.toList_push
    rw [perform, added, ← h.targets]
    exact hpush
  | mapPage place entry =>
    rw [perform]
    cases hmap : bus.mapPage place entry with
    | error e => exact h.of_error _ e
    | ok after =>
      have hregistered := isRegistered_mapPage h.registered hmap
      obtain ⟨-, table, hset, rfl⟩ := mapPage_eq_ok_iff.1 hmap
      -- the page that is written holds what the log says last, and the others what it said before
      refine h.of_set hset rfl ?_ ?_ hregistered
      · rw [Except.map, orKept, written, if_pos rfl]
      · intro index hother
        rw [Except.map, orKept, written, if_neg hother]
  | mapRange first count entry =>
    rw [perform]
    cases hmap : bus.mapRange first count entry with
    | error e => exact h.of_error _ e
    | ok after => exact h.after_mapRange hmap
  | remapPage place id base =>
    rw [perform]
    cases hremap : bus.remapPage place id base with
    | error e => exact h.of_error _ e
    | ok after => exact h.after_remapPage hremap
  | unmapPage place =>
    rw [perform]
    cases hunmap : bus.unmapPage place with
    | error e => exact h.of_error _ e
    | ok result =>
      obtain ⟨entry, after⟩ := result
      have hregistered := isRegistered_unmapPage h.registered hunmap
      obtain ⟨-, table, hset, rfl⟩ := unmapPage_eq_ok_iff.1 hunmap
      refine h.of_set hset rfl ?_ ?_ hregistered
      · rw [Except.map, orKept, written, if_pos rfl]
      · intro index hother
        rw [Except.map, orKept, written, if_neg hother]

/-- By induction, log and table agree after any calls. -/
theorem after_mapCalls (calls : List (MapCall δ)) {s : MapLog δ × Bus ω δ γ}
    (h : LogHolds g s.1 s.2) : LogHolds g (afterMapCalls calls s).1 (afterMapCalls calls s).2 := by
  induction calls generalizing s with
  | nil => exact h
  | cons c calls ih => exact ih (h.after_call c)

end LogHolds

/-! ## Every history -/

/-- What is known of a bus when the log of all mapping calls is known. -/
structure FollowsLastWriter (g : Geometry) (log : MapLog δ) (bus : Bus ω δ γ) : Prop where
  /-- A page holds what the latest call that covers it has stored there. -/
  entries : ∀ index, bus.table.get? index = written g index log
  /-- An address is covered by the page that the upper bits of the cut address count, and there is such
  a page. -/
  covering : ∀ address : UInt32, g.pageIndex address < bus.table.pageCount ∧
    bus.table.entryFor? address =
      written g ((address &&& g.addressMask) >>> g.pageShift.toUInt32).toNat log
  /-- The targets are those added, by their numbers. -/
  targets : bus.targets.toList = added log
  /-- A call is refused for the reasons given, and no others. -/
  refused : ∀ c e, (bus.perform c).1 = .error e ↔
    refusal? g.pageCount (added log).length (fun index => written g index log) c = some e
  /-- A refused call changes nothing. -/
  unchanged : ∀ c e, (bus.perform c).1 = .error e → (bus.perform c).2 = bus
  /-- A range that is not refused is stored page by page without a refusal. -/
  pageByPage : ∀ first count entry after, bus.mapRange first count entry = .ok after →
    bus.table.fillEach first count entry = (.ok (), after.table)
  /-- A page that is unmapped gives back what it held. -/
  unmapped : ∀ index entry, (bus.perform (.unmapPage index)).1 = .ok (.held entry) →
    entry = written g index log
  /-- Every entry leads to a target of the bus. -/
  registered : ∀ index entry, bus.table.get? index = some entry → (bus.target? entry.target).isSome
  /-- So no access comes to a place where it would miss a target: it goes the same way as if there were
  any number of targets more. -/
  unmissed : ∀ n checking a, bus.targets.size ≤ n →
    (bus.routing.withTargets n).execute checking a = bus.routing.execute checking a

/-- Where log and table agree, each page shows its last writer. -/
theorem LogHolds.followsLastWriter {g : Geometry} {log : MapLog δ} (h : LogHolds g log bus)
    (hgeometry : g.isSupported = true) : FollowsLastWriter g log bus where
  entries := h.entries
  covering := by
    intro address
    constructor
    · rw [h.pages]
      exact Geometry.pageIndex_lt hgeometry address
    · rw [PageTable.entryFor?, h.entries, h.geometry]
      rfl
  targets := h.targets
  -- the rules look at the number of targets and at the pages held, and both can be read off the log
  refused := by
    intro c e
    have hcount : bus.targets.size = (added log).length := by
      rw [← h.targets, Array.length_toList]
    have hheld : bus.table.get? = fun index => written g index log := funext h.entries
    rw [← h.pages, ← hcount, ← hheld]
    constructor
    · exact refuses?_of_error
    · intro hrefusal
      rw [perform_of_refuses? hrefusal]
  unchanged := by
    intro c e herror
    rw [perform_of_refuses? (refuses?_of_error herror)]
  pageByPage := by
    intro first count entry after hmap
    obtain ⟨-, ⟨-, -, hroom⟩, rfl⟩ := mapRange_eq_ok_iff.1 hmap
    exact PageTable.fillEach_eq hroom entry
  -- what unmapping hands back is what the page held, by the log
  unmapped := by
    intro index entry hanswer
    rw [perform] at hanswer
    cases hunmap : bus.unmapPage index with
    | error e =>
      rw [hunmap] at hanswer
      cases hanswer
    | ok result =>
      obtain ⟨held, after⟩ := result
      have hheld := (unmapPage_eq_ok_iff.1 hunmap).1
      rw [hunmap] at hanswer
      cases hanswer
      rw [← hheld, h.entries index]
  registered := by
    intro index entry hentry
    have htarget : entry.target.index < bus.targets.size := h.registered index entry hentry
    rw [target?, Array.getElem?_eq_getElem htarget]
    rfl
  unmissed := fun n checking a hn => Routing.execute_withTargets h.registered hn checking a

/-- A new bus has an empty log and empty pages. -/
theorem logHolds_of_ofConfig? {config : BusConfig} {slotCount : UInt8} {host : ω} {start : Bus ω δ γ}
    (h : ofConfig? config slotCount host = .ok start) : LogHolds config.geometry [] start := by
  unfold ofConfig? PageTable.ofGeometry? at h
  split_ifs at h
  cases h
  have hempty := PageTable.get?_replicate config.geometry config.geometry.pageCount
  exact ⟨rfl, Array.size_replicate, rfl, hempty, Routing.isRegistered_of_empty hempty⟩

/-- **The last writer wins.** Whatever calls are made on a new bus of a supported geometry, each page
holds the entry of the last call that wrote it and was not refused; refused calls have changed nothing,
and no entry leads to a target that does not exist. -/
theorem lastWriter_afterMapCalls (config : BusConfig) (slotCount : UInt8) (host : ω)
    (hgeometry : config.geometry.isSupported = true) :
    ∃ start : Bus ω δ γ, ofConfig? config slotCount host = .ok start ∧
      ∀ calls : List (MapCall δ), FollowsLastWriter config.geometry (afterMapCalls calls ([], start)).1
        (afterMapCalls calls ([], start)).2 := by
  obtain ⟨start, hstart⟩ : ∃ start : Bus ω δ γ, ofConfig? config slotCount host = .ok start := by
    unfold ofConfig? PageTable.ofGeometry?
    rw [if_pos hgeometry]
    exact ⟨_, rfl⟩
  refine ⟨start, hstart, fun calls => ?_⟩
  exact ((logHolds_of_ofConfig? hstart).after_mapCalls calls).followsLastWriter hgeometry

/-- Two pages of 256 bytes. -/
def twoSmallPages : BusConfig where
  geometry := ⟨9, 8⟩
  cpuMode := .legacy
  enforceNx := false
  strictAlignment := false
  littleEndian := false
  floating := .constant 0xFF

/-- Both pages are mapped; then a range is refused that begins with the second page and leaves the table;
then the second page is pointed at another target. -/
def mappedTwice : List (MapCall Bench.Instrument) :=
  [.addTarget (.part (.ram ⟨#[0]⟩)), .addTarget (.part (.rom ⟨#[0]⟩)),
    .mapRange 0 2 ⟨⟨5⟩, .ram, .readWrite, .registers, ⟨0⟩, 0xFFFFFF00⟩,
    .mapRange 1 2 ⟨⟨6⟩, .rom, .full, .registers, ⟨1⟩, 0⟩, .remapPage 1 ⟨1⟩ 0x40]

/-- A page that is mapped by itself and then again as part of a range. -/
theorem lastWriter_afterMapCalls_mappedTwice :
    twoSmallPages.geometry.isSupported = true ∧
      ∃ start : Bus Bench.Host Bench.Instrument Bench.TestCard,
        ofConfig? twoSmallPages 7 {} = .ok start ∧
          (∀ calls, FollowsLastWriter twoSmallPages.geometry (afterMapCalls calls ([], start)).1
            (afterMapCalls calls ([], start)).2) ∧
          (afterMapCalls mappedTwice ([], start)).2.table.get? 1 =
            some ⟨⟨5⟩, .ram, .readWrite, .memory, ⟨1⟩, 0x40⟩ := by
  have hgeometry : twoSmallPages.geometry.isSupported = true := by decide
  refine ⟨hgeometry, ?_⟩
  obtain ⟨start, hstart, hfollows⟩ :
      ∃ start : Bus Bench.Host Bench.Instrument Bench.TestCard, _ ∧ _ :=
    lastWriter_afterMapCalls twoSmallPages 7 {} hgeometry
  refine ⟨start, hstart, hfollows, ?_⟩
  cases hstart
  rfl

end Calls

end Bus

end Motherboard
