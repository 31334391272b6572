import Mathlib.Data.List.Chain
import Mathlib.Data.List.Sort
import Motherboard.Line.Signals

/-!
# Lines against the wired OR

A wired OR has no memory of its own: a line is asserted while some device pulls it, and a device pulls a
line if the last thing it did there, since everybody was made to let go, was to pull (`Pulls`). Here the
lines are compared with that picture after every history of operations. The picture is read off the
history alone; a history has its latest operation first, so that what was before an operation is the
rest of the list behind it.

The NMI edge is a bit apart. Once left behind by a rise of the line it lives on while the line falls and
rises again, until it is taken or a reset drops it (`HasRisen`).

## Results

* `mem_pullers_iff`, `increasing_pullers` — who pulls a line is what the history says, in order.
* `isAsserted_eq`                         — so the level of a line is the OR over the devices.
* `perform_reports`                       — one operation reports the lines whose level it changes.
* `nmiEdge_iff`                           — the edge waits while a rise has not been taken.
* `followsWiredOr_afterHistory`           — all of it after every history.
-/

namespace Motherboard

/-! ## Devices in increasing order -/

namespace DeviceId

/-- The devices are listed in increasing order, each once. -/
def Increasing (devices : List DeviceId) : Prop :=
  devices.Pairwise fun a b => a.number < b.number

/-- Insertion adds the device and keeps the others. -/
theorem mem_insertSorted {device other : DeviceId} {devices : List DeviceId} :
    other ∈ insertSorted device devices ↔ other = device ∨ other ∈ devices := by
  induction devices with
  | nil => simp [insertSorted]
  | cons first rest ih =>
    unfold insertSorted
    split_ifs with hbefore hsame
    · -- the device comes first, before all others
      exact List.mem_cons
    · -- the device is there already
      subst hsame
      simp
    · rw [List.mem_cons, ih, List.mem_cons]
      exact or_left_comm

/-- A device that is inserted lands between the smaller and the larger ones, or is there already. -/
theorem increasing_insertSorted {device : DeviceId} {devices : List DeviceId}
    (h : Increasing devices) : Increasing (insertSorted device devices) := by
  induction devices with
  | nil => exact List.pairwise_singleton _ _
  | cons first rest ih =>
    obtain ⟨hfirst, hrest⟩ := List.pairwise_cons.1 h
    unfold insertSorted
    split_ifs with hbefore hsame
    · refine List.pairwise_cons.2 ⟨?_, h⟩
      intro other hother
      rcases List.mem_cons.1 hother with rfl | hother
      · -- it was there, and the list is as it was
        exact hbefore
      · exact UInt16.lt_trans hbefore (hfirst other hother)
    · exact h
    · refine List.pairwise_cons.2 ⟨?_, ih hrest⟩
      intro other hother
      rcases mem_insertSorted.1 hother with rfl | hother
      · -- neither below the first one nor the first one itself
        have hne : first.number ≠ other.number := fun heq => hsame (congrArg mk heq.symm)
        exact UInt16.lt_of_le_of_ne (UInt16.not_lt.1 hbefore) hne
      · exact hfirst other hother

/-- Nobody is listed twice. -/
theorem Increasing.nodup {devices : List DeviceId} (h : Increasing devices) : devices.Nodup := by
  refine List.Pairwise.imp ?_ h
  rintro a b hlt rfl
  exact UInt16.lt_irrefl _ hlt

/-- Taking a device out leaves the others in order. -/
theorem Increasing.erase {devices : List DeviceId} (h : Increasing devices) (device : DeviceId) :
    Increasing (devices.erase device) :=
  List.Pairwise.sublist List.erase_sublist h

/-- There is one way to list devices in increasing order. -/
theorem Increasing.eq_of_mem_iff {devices devices' : List DeviceId} (h : Increasing devices)
    (h' : Increasing devices') (hmem : ∀ device, device ∈ devices ↔ device ∈ devices') :
    devices = devices' := by
  have : Std.Irrefl fun a b : DeviceId => a.number < b.number := ⟨fun a => UInt16.lt_irrefl a.number⟩
  have : Std.Antisymm fun a b : DeviceId => a.number < b.number :=
    ⟨fun a b hab hba => absurd hab (UInt16.lt_asymm hba)⟩
  exact List.Pairwise.eq_of_mem_iff h h' hmem

end DeviceId

namespace Signals

/-! ## What the operations do to the lines -/

/-- A line is asserted while somebody is on the list of its pullers. -/
theorem isAsserted_eq_true_iff {s : Signals} {line : Line} :
    s.isAsserted line = true ↔ ∃ device, device ∈ s.pullers.get line := by
  unfold isAsserted
  rw [Bool.not_eq_true', List.isEmpty_eq_false_iff_exists_mem]

/-- Pulling puts the device on the list. The level changes if the list was empty, and on the NMI line this
leaves the edge behind. -/
theorem pull_eq (s : Signals) (line : Line) (device : DeviceId) (t : Trace) :
    s.pull line device t =
      (!s.isAsserted line,
        { pullers := s.pullers.set line (device.insertSorted (s.pullers.get line))
          nmiEdge := s.nmiEdge || (!s.isAsserted line && line == .nmi) },
        if s.isAsserted line then t else t.emit (.signal line true)) := by
  unfold pull
  dsimp only
  cases s.isAsserted line <;> simp

/-- Releasing takes the device off the list. The level changes if it was there and was the last one. -/
theorem release_eq (s : Signals) (line : Line) (device : DeviceId) (t : Trace) :
    s.release line device t =
      (s.isAsserted line && ((s.pullers.get line).erase device).isEmpty,
        { s with pullers := s.pullers.set line ((s.pullers.get line).erase device) },
        if s.isAsserted line && ((s.pullers.get line).erase device).isEmpty then
          t.emit (.signal line false)
        else t) := by
  unfold release
  dsimp only
  split_ifs with h <;> simp [h]

/-- Clearing a line empties its list; the edge stays. -/
theorem fst_clearLine (s : Signals) (line : Line) (t : Trace) :
    (s.clearLine line t).1 = { s with pullers := s.pullers.set line [] } := by
  unfold clearLine
  split_ifs with hasserted
  · rfl
  · -- a line at rest has no pullers to let go
    have hrest : s.pullers.get line = [] := by simpa [isAsserted] using hasserted
    obtain ⟨⟨irq, nmi, reset, rdy, dmaRequest, sync⟩, edge⟩ := s
    cases line <;> cases hrest <;> rfl

/-- Whoever pulled the lines, nobody does after a reset. -/
theorem fst_reset (s : Signals) (t : Trace) : (s.reset t).1 = {} := by
  have hclear : ∀ (lines : List Line) (s : Signals) (t : Trace),
      (lines.foldl (fun x line => x.1.clearLine line x.2) (s, t)).1 =
        { s with pullers := lines.foldl (fun pullers line => pullers.set line []) s.pullers } := by
    intro lines
    -- line after line; a line that is cleared stays clear
    induction lines with
    | nil => exact fun s t => rfl
    | cons line lines ih =>
      intro s t
      refine (ih (s.clearLine line t).1 (s.clearLine line t).2).trans ?_
      rw [s.fst_clearLine line t]
      rfl
  show { (Line.all.foldl (fun x line => x.1.clearLine line x.2) (s, t)).1 with nmiEdge := false } = _
  rw [hclear]
  rfl

/-- Reports lines with their new levels. -/
def report (t : Trace) (news : List (Line × Bool)) : Trace :=
  news.foldl (fun t line => t.emit (.signal line.1 line.2)) t

theorem report_append (t : Trace) (news later : List (Line × Bool)) :
    report t (news ++ later) = report (report t news) later :=
  List.foldl_append

/-- A reset reports the lines that were asserted, each once. -/
theorem snd_reset (s : Signals) (t : Trace) :
    (s.reset t).2 = report t ((Line.all.filter s.isAsserted).map fun line => (line, false)) := by
  have hclear : ∀ (lines : List Line), lines.Nodup → ∀ (s : Signals) (t : Trace),
      (lines.foldl (fun x line => x.1.clearLine line x.2) (s, t)).2 =
        report t ((lines.filter s.isAsserted).map fun line => (line, false)) := by
    intro lines
    -- the lines are told apart, as a report on one must not hide that on another
    induction lines with
    | nil => exact fun _ s t => rfl
    | cons line lines ih =>
      intro hnodup s t
      obtain ⟨hline, hrest⟩ := List.nodup_cons.1 hnodup
      -- clearing the first line leaves the levels of the others
      have hothers : lines.filter (s.clearLine line t).1.isAsserted = lines.filter s.isAsserted := by
        apply List.filter_congr
        intro other hother
        have hne : other ≠ line := fun heq => hline (heq ▸ hother)
        rw [fst_clearLine, isAsserted, PerLine.get_set, if_neg hne, isAsserted]
      rw [List.foldl_cons, ih hrest, hothers, List.filter_cons]
      unfold clearLine
      split_ifs <;> rfl
  exact hclear Line.all (by decide) s t

/-! ## Histories -/

/-- What can be done to the lines. -/
inductive Operation where
  | pull (line : Line) (device : DeviceId)
  | release (line : Line) (device : DeviceId)
  | consumeNmiEdge
  | reset
  deriving DecidableEq

/-- The flag that an operation answers, but for a reset, and the lines and the trace after it. -/
def perform (op : Operation) (s : Signals) (t : Trace) : Option Bool × Signals × Trace :=
  match op with
  | .pull line device => (some (s.pull line device t).1, (s.pull line device t).2)
  | .release line device => (some (s.release line device t).1, (s.release line device t).2)
  | .consumeNmiEdge => (some s.consumeNmiEdge.1, s.consumeNmiEdge.2, t)
  | .reset => (none, s.reset t)

/-- The lines and the trace after a history, from power-on. -/
def afterHistory (t : Trace) : List Operation → Signals × Trace
  | [] => ({}, t)
  | op :: past => ((afterHistory t past).1.perform op (afterHistory t past).2).2

/-! ## The wired OR -/

namespace Operation

/-- The operation decides whether the device pulls the line. -/
def decides (line : Line) (device : DeviceId) : Operation → Bool
  | .pull other puller | .release other puller => other == line && puller == device
  | .consumeNmiEdge => false
  | .reset => true

/-- The operation is about the line. -/
def concerns (line : Line) : Operation → Bool
  | .pull other _ | .release other _ => other == line
  | .consumeNmiEdge => false
  | .reset => true

/-- An operation that decides about a device of a line is about the line. -/
theorem concerns_of_decides {op : Operation} {line : Line} {device : DeviceId}
    (h : op.decides line device = true) : op.concerns line = true := by
  cases op with
  | pull other puller => exact (Bool.and_eq_true_iff.1 h).1
  | release other puller => exact (Bool.and_eq_true_iff.1 h).1
  | consumeNmiEdge => cases h
  | reset => rfl

end Operation

/-- Of all operations that decide it, the latest made the device pull the line. -/
def Pulls (history : List Operation) (line : Line) (device : DeviceId) : Prop :=
  history.find? (fun op => op.decides line device) = some (.pull line device)

instance (history : List Operation) (line : Line) (device : DeviceId) :
    Decidable (Pulls history line device) :=
  inferInstanceAs (Decidable (_ = _))

/-- The level of a line: whether some device pulls it. -/
def level (history : List Operation) (line : Line) : Bool :=
  history.any fun
    | .pull other device => other == line && decide (Pulls history line device)
    | _ => false

/-- The lines whose level an operation changes, in the order of the lines, with their new levels. -/
def changed (op : Operation) (past : List Operation) : List (Line × Bool) :=
  (Line.all.filter fun line => level (op :: past) line != level past line).map fun line =>
    (line, level (op :: past) line)

/-- All changes of levels, the latest last. -/
def changes : List Operation → List (Line × Bool)
  | [] => []
  | op :: past => changes past ++ changed op past

/-- The levels that one line has taken in turn. -/
def levelsOf (line : Line) (history : List Operation) : List Bool :=
  ((changes history).filter fun news => news.1 == line).map Prod.snd

/-- The NMI line has risen, and since then nobody has taken the edge and nothing has dropped it. -/
def HasRisen (history : List Operation) : Prop :=
  ∃ later op past, history = later ++ op :: past ∧
    (∀ other ∈ later, other ≠ .consumeNmiEdge ∧ other ≠ .reset) ∧
    level past .nmi = false ∧ level (op :: past) .nmi = true

variable {t : Trace} {op : Operation} {past history : List Operation} {line : Line}
  {device : DeviceId}

/-- An operation that decides nothing leaves it to the earlier ones who pulls the line. -/
theorem pulls_cons_of_not_decides (h : op.decides line device = false) :
    Pulls (op :: past) line device ↔ Pulls past line device := by
  unfold Pulls
  rw [List.find?_cons_of_neg (by rw [h]; exact Bool.false_ne_true)]

/-- One that decides makes the device pull exactly if it is the pull. -/
theorem pulls_cons_of_decides (h : op.decides line device = true) :
    Pulls (op :: past) line device ↔ op = .pull line device := by
  unfold Pulls
  rw [List.find?_cons_of_pos h, Option.some_inj]

/-- The level of a line is the OR over all devices, not only over those that occur in the history. -/
theorem level_iff : level history line = true ↔ ∃ device, Pulls history line device := by
  unfold level
  rw [List.any_eq_true]
  constructor
  · rintro ⟨op, -, hpulls⟩
    -- only a pull can be the witness of the level
    cases op with
    | pull other device => exact ⟨device, of_decide_eq_true (Bool.and_eq_true_iff.1 hpulls).2⟩
    | _ => cases hpulls
  · rintro ⟨device, hpulls⟩
    -- the pull that decides is one of the operations
    exact ⟨_, List.mem_of_find?_eq_some hpulls, by simp [hpulls]⟩

/-- What is done to other lines does not show. -/
theorem level_cons_of_not_concerns (h : op.concerns line = false) :
    level (op :: past) line = level past line := by
  rw [Bool.eq_iff_iff, level_iff, level_iff]
  refine exists_congr fun device => pulls_cons_of_not_decides ?_
  by_contra hdecides
  rw [Bool.not_eq_false] at hdecides
  rw [Operation.concerns_of_decides hdecides] at h
  cases h

/-- After a pull the line is asserted. -/
theorem level_cons_pull : level (.pull line device :: past) line = true :=
  level_iff.2 ⟨device, (pulls_cons_of_decides (by simp [Operation.decides])).2 rfl⟩

/-- Nobody pulls a line because another one lets go. -/
theorem level_of_level_cons_release (h : level (.release line device :: past) line = true) :
    level past line = true := by
  obtain ⟨other, hpulls⟩ := level_iff.1 h
  refine level_iff.2 ⟨other, ?_⟩
  cases hdecides : (Operation.release line device).decides line other with
  | false => exact (pulls_cons_of_not_decides hdecides).1 hpulls
  | true => exact nomatch (pulls_cons_of_decides hdecides).1 hpulls

/-- After a reset no line is. -/
theorem level_cons_reset : level (.reset :: past) line = false := by
  by_contra hlevel
  rw [Bool.not_eq_false] at hlevel
  obtain ⟨device, hpulls⟩ := level_iff.1 hlevel
  exact nomatch (pulls_cons_of_decides rfl).1 hpulls

/-! ## Who pulls a line -/

/-- The pullers of a line are listed in increasing order after every history. -/
theorem increasing_pullers (t : Trace) (history : List Operation) (line : Line) :
    DeviceId.Increasing ((afterHistory t history).1.pullers.get line) := by
  -- along the history, which grows at its head
  induction history with
  | nil =>
    rw [afterHistory, PerLine.get_replicate]
    exact List.Pairwise.nil
  | cons op past ih =>
    cases op with
    | pull other puller =>
      rw [afterHistory, perform, pull_eq, PerLine.get_set]
      split_ifs with hline
      · subst hline
        exact DeviceId.increasing_insertSorted ih
      · exact ih
    | release other puller =>
      rw [afterHistory, perform, release_eq, PerLine.get_set]
      split_ifs with hline
      · subst hline
        exact ih.erase puller
      · exact ih
    -- the edge has nothing to do with the lists
    | consumeNmiEdge => exact ih
    | reset =>
      rw [afterHistory, perform, fst_reset, PerLine.get_replicate]
      exact List.Pairwise.nil

/-- A device is among the pullers of a line if the history says that it pulls the line. -/
theorem mem_pullers_iff (t : Trace) (history : List Operation) (line : Line) (device : DeviceId) :
    device ∈ (afterHistory t history).1.pullers.get line ↔ Pulls history line device := by
  -- one operation more decides about the device, or leaves it to the rest
  induction history with
  | nil => simp [afterHistory, Pulls]
  | cons op past ih =>
    cases op with
    | pull other puller =>
      rw [afterHistory, perform, pull_eq, PerLine.get_set]
      split_ifs with hline
      · subst hline
        rw [DeviceId.mem_insertSorted, ih]
        by_cases hdevice : puller = device
        · subst hdevice
          rw [pulls_cons_of_decides (by simp [Operation.decides])]
          simp
        · rw [pulls_cons_of_not_decides (by simp [Operation.decides, hdevice])]
          exact or_iff_right fun heq => hdevice heq.symm
      · have hother : other ≠ line := fun heq => hline heq.symm
        rw [pulls_cons_of_not_decides (by simp [Operation.decides, hother])]
        exact ih
    | release other puller =>
      rw [afterHistory, perform, release_eq, PerLine.get_set]
      split_ifs with hline
      · subst hline
        -- nobody is listed twice, so that one removal is enough
        rw [(increasing_pullers t past line).nodup.mem_erase_iff, ih]
        by_cases hdevice : puller = device
        · subst hdevice
          rw [pulls_cons_of_decides (by simp [Operation.decides])]
          simp
        · rw [pulls_cons_of_not_decides (by simp [Operation.decides, hdevice])]
          exact and_iff_right fun heq => hdevice heq.symm
      · have hother : other ≠ line := fun heq => hline heq.symm
        rw [pulls_cons_of_not_decides (by simp [Operation.decides, hother])]
        exact ih
    | consumeNmiEdge =>
      rw [pulls_cons_of_not_decides rfl]
      exact ih
    | reset =>
      rw [afterHistory, perform, fst_reset, PerLine.get_replicate, pulls_cons_of_decides rfl]
      simp

theorem isAsserted_eq (t : Trace) (history : List Operation) (line : Line) :
    (afterHistory t history).1.isAsserted line = level history line := by
  rw [Bool.eq_iff_iff, isAsserted_eq_true_iff, level_iff]
  exact exists_congr fun device => mem_pullers_iff t history line device

/-! ## What an operation reports -/

/-- Of all lines, those are picked that are the given one and satisfy a condition. -/
theorem filter_all_of_line (line : Line) {p : Line → Bool}
    (h : ∀ other, other ≠ line → p other = false) :
    Line.all.filter p = if p line then [line] else [] := by
  have hp : p = fun other => other == line && p line := by
    funext other
    by_cases hother : other = line
    · simp [hother]
    · simp [hother, h other hother]
  rw [hp]
  cases p line <;> cases line <;> rfl

/-- An operation on one line changes its level or none. -/
theorem changed_of_line (line : Line)
    (h : ∀ other, other ≠ line → level (op :: past) other = level past other) :
    changed op past = if level (op :: past) line != level past line then
      [(line, level (op :: past) line)] else [] := by
  unfold changed
  rw [filter_all_of_line line fun other hother => by rw [h other hother, bne_self_eq_false]]
  split_ifs <;> rfl

/-- A reset changes the levels of all lines that were asserted. -/
theorem changed_reset : changed .reset past =
    (Line.all.filter fun line => level past line).map fun line => (line, false) := by
  unfold changed
  simp only [level_cons_reset, Bool.false_bne]

/-- A pull changes the level of its own line, if that was at rest. -/
theorem changed_pull : changed (.pull line device) past =
    if level past line then [] else [(line, true)] := by
  rw [changed_of_line line, level_cons_pull]
  · cases level past line <;> rfl
  · intro other hother
    exact level_cons_of_not_concerns (by simpa [Operation.concerns] using fun h => hother h.symm)

/-- A release changes the level of its own line, if it takes the last puller away. -/
theorem changed_release : changed (.release line device) past =
    if level past line && !level (.release line device :: past) line then [(line, false)] else [] := by
  rw [changed_of_line line]
  · have hfall : level (.release line device :: past) line = true → level past line = true :=
      level_of_level_cons_release
    cases hafter : level (.release line device :: past) line with
    | false => cases level past line <;> rfl
    | true =>
      rw [hfall hafter]
      rfl
  · intro other hother
    exact level_cons_of_not_concerns (by simpa [Operation.concerns] using fun h => hother h.symm)

/-- To take the edge changes no level. -/
theorem changed_consumeNmiEdge : changed .consumeNmiEdge past = [] := by
  have hsame : ∀ line, level (.consumeNmiEdge :: past) line = level past line :=
    fun line => level_cons_of_not_concerns rfl
  unfold changed
  simp only [hsame, bne_self_eq_false, List.filter_false, List.map_nil]

/-- The device's line is at rest after its release if nobody else pulls it. -/
theorem isEmpty_erase (t : Trace) (past : List Operation) (line : Line) (device : DeviceId) :
    (((afterHistory t past).1.pullers.get line).erase device).isEmpty =
      !level (.release line device :: past) line := by
  rw [← isAsserted_eq t, afterHistory, perform, release_eq, isAsserted, PerLine.get_set, if_pos rfl,
    Bool.not_not]

/-- A pull answers whether it has changed the level. -/
theorem answer_pull (t : Trace) (past : List Operation) (line : Line) (device : DeviceId) :
    ((afterHistory t past).1.pull line device (afterHistory t past).2).1 =
      (level (.pull line device :: past) line != level past line) := by
  rw [pull_eq, isAsserted_eq, level_cons_pull, Bool.true_bne]

theorem answer_release (t : Trace) (past : List Operation) (line : Line) (device : DeviceId) :
    ((afterHistory t past).1.release line device (afterHistory t past).2).1 =
      (level (.release line device :: past) line != level past line) := by
  have hfall : level (.release line device :: past) line = true → level past line = true :=
    level_of_level_cons_release
  rw [release_eq, isAsserted_eq, isEmpty_erase]
  cases hafter : level (.release line device :: past) line with
  | false => cases level past line <;> rfl
  | true =>
    rw [hfall hafter]
    rfl

/-- One operation reports the levels that it changes, and nothing else. -/
theorem perform_reports (t : Trace) (op : Operation) (past : List Operation) :
    (afterHistory t (op :: past)).2 = report (afterHistory t past).2 (changed op past) := by
  cases op with
  | pull line device =>
    rw [afterHistory, perform, pull_eq, isAsserted_eq, changed_pull]
    split_ifs <;> rfl
  | release line device =>
    rw [afterHistory, perform, release_eq, isAsserted_eq, isEmpty_erase, changed_release]
    split_ifs <;> rfl
  | consumeNmiEdge =>
    rw [changed_consumeNmiEdge]
    rfl
  -- a reset reports line by line, and here they are collected
  | reset =>
    have hlevels : (afterHistory t past).1.isAsserted = fun line => level past line :=
      funext fun line => isAsserted_eq t past line
    rw [afterHistory, perform, snd_reset, hlevels, changed_reset]

theorem report_changes (t : Trace) (history : List Operation) :
    (afterHistory t history).2 = report t (changes history) := by
  induction history with
  | nil => rfl
  | cons op past ih => rw [perform_reports, ih, changes, report_append]

/-- A sink that is attached and free takes up all that is reported. -/
theorem events_report (hattached : t.attached = true) (hfree : t.busy = false)
    (news : List (Line × Bool)) :
    (report t news).events.toList =
      t.events.toList ++ news.map fun line => .signal line.1 line.2 := by
  -- the sink stays attached and free from one report to the next
  induction news generalizing t with
  | nil => exact (List.append_nil _).symm
  | cons line news ih =>
    rw [report, List.foldl_cons, Trace.emit_of_free hattached hfree, ← report, ih]
    · simp
    · exact hattached
    · exact hfree

/-! ## The levels of one line -/

/-- Of an operation one line sees its new level, if that is another one than before. -/
theorem levelsOf_cons : levelsOf line (op :: past) = levelsOf line past ++
    if level (op :: past) line != level past line then [level (op :: past) line] else [] := by
  -- at most one of the changed levels is that of this line
  have hline : (changed op past).filter (fun news => news.1 == line) =
      if level (op :: past) line != level past line then [(line, level (op :: past) line)] else [] := by
    unfold changed
    rw [List.filter_map, List.filter_filter, filter_all_of_line line]
    · simp only [Function.comp_apply, beq_self_eq_true, Bool.true_and]
      split_ifs <;> rfl
    · intro other hother
      simp [hother]
  unfold levelsOf
  rw [changes, List.filter_append, List.map_append, hline]
  split_ifs <;> rfl

/-- From rest on, a line takes the two levels in turn, and the last one taken is its level. -/
theorem isChain_levelsOf (line : Line) (history : List Operation) :
    (false :: levelsOf line history).IsChain (· ≠ ·) ∧
      (false :: levelsOf line history).getLast? = some (level history line) := by
  -- the invariant: the levels alternate, and the last one is the present level
  induction history with
  | nil => exact ⟨List.IsChain.singleton false, rfl⟩
  | cons op past ih =>
    obtain ⟨hchain, hlast⟩ := ih
    rw [levelsOf_cons]
    split_ifs with hchange
    · -- a new level is appended, and it is not the last one
      rw [← List.cons_append]
      refine ⟨List.isChain_append.2 ⟨hchain, List.IsChain.singleton _, ?_⟩, List.getLast?_concat⟩
      intro before hbefore after hafter
      rw [hlast, Option.mem_some_iff] at hbefore
      rw [List.head?_cons, Option.mem_some_iff] at hafter
      rw [← hbefore, ← hafter]
      exact (bne_iff_ne.1 hchange).symm
    · rw [List.append_nil]
      refine ⟨hchain, hlast.trans ?_⟩
      rw [Bool.not_eq_true, bne_eq_false_iff_eq] at hchange
      rw [hchange]

/-- Who pulls a line is settled by the operations about the line. -/
theorem pulls_filter_concerns : Pulls (history.filter fun op => op.concerns line) line device ↔
    Pulls history line device := by
  have hfind : (fun op : Operation => decide (op.concerns line = true ∧ op.decides line device = true)) =
      fun op => op.decides line device := by
    funext op
    simp only [and_iff_right_of_imp Operation.concerns_of_decides, Bool.decide_eq_true]
  unfold Pulls
  rw [List.find?_filter, hfind]

theorem level_filter_concerns :
    level (history.filter fun op => op.concerns line) line = level history line := by
  rw [Bool.eq_iff_iff, level_iff, level_iff]
  exact exists_congr fun device => pulls_filter_concerns

/-- All levels that a line has had are those of the operations about it. -/
theorem levelsOf_filter_concerns :
    levelsOf line (history.filter fun op => op.concerns line) = levelsOf line history := by
  -- operations about other lines drop out without a change of this one
  induction history with
  | nil => rfl
  | cons op past ih =>
    rw [List.filter_cons]
    split_ifs with hconcerns
    · -- the operation stays, and makes the same of the line as before
      have hcons : level ((op :: past).filter fun op => op.concerns line) line =
          level (op :: past) line := level_filter_concerns
      rw [List.filter_cons, if_pos hconcerns] at hcons
      rw [levelsOf_cons, levelsOf_cons, ih, hcons, level_filter_concerns]
    · rw [Bool.not_eq_true] at hconcerns
      rw [ih, levelsOf_cons, level_cons_of_not_concerns hconcerns, bne_self_eq_false,
        if_neg Bool.false_ne_true, List.append_nil]

/-! ## The NMI edge -/

/-- After an operation the edge waits if the operation has made the line rise, or if the edge was waiting
and the operation neither takes nor drops it. -/
theorem hasRisen_cons : HasRisen (op :: past) ↔
    (level past .nmi = false ∧ level (op :: past) .nmi = true) ∨
      (op ≠ .consumeNmiEdge ∧ op ≠ .reset ∧ HasRisen past) := by
  constructor
  · -- the rise is the operation itself, or lies further back
    rintro ⟨later, rise, before, hhistory, hlater, hlow, hhigh⟩
    cases later with
    | nil =>
      obtain ⟨rfl, rfl⟩ := List.cons.inj hhistory
      exact .inl ⟨hlow, hhigh⟩
    | cons first later =>
      obtain ⟨rfl, rfl⟩ := List.cons.inj hhistory
      obtain ⟨hconsume, hreset⟩ := hlater op List.mem_cons_self
      exact .inr ⟨hconsume, hreset, later, rise, before, rfl,
        fun other hother => hlater other (List.mem_cons_of_mem op hother), hlow, hhigh⟩
  · rintro (⟨hlow, hhigh⟩ | ⟨hconsume, hreset, later, rise, before, rfl, hlater, hlow, hhigh⟩)
    · exact ⟨[], op, past, rfl, nofun, hlow, hhigh⟩
    · refine ⟨op :: later, rise, before, rfl, ?_, hlow, hhigh⟩
      intro other hother
      rcases List.mem_cons.1 hother with rfl | hother
      · exact ⟨hconsume, hreset⟩
      · exact hlater other hother

/-- The flag of the edge is up exactly while a rise has not been taken or dropped. -/
theorem nmiEdge_iff (t : Trace) (history : List Operation) :
    (afterHistory t history).1.nmiEdge = true ↔ HasRisen history := by
  -- each operation keeps the flag in step with the history
  induction history with
  | nil =>
    refine ⟨nofun, ?_⟩
    rintro ⟨later, op, past, hhistory, -⟩
    cases later <;> cases hhistory
  | cons op past ih =>
    rw [hasRisen_cons]
    cases op with
    | pull line device =>
      rw [afterHistory, perform, pull_eq, isAsserted_eq]
      dsimp only
      rw [Bool.or_eq_true, ih]
      by_cases hline : line = .nmi
      · subst hline
        rw [level_cons_pull]
        simp [or_comm]
      · -- the rise of another line is no edge
        rw [level_cons_of_not_concerns (by simpa [Operation.concerns] using hline)]
        simp [hline]
    -- no line rises by a release
    | release line device =>
      have hno : ¬(level past .nmi = false ∧ level (.release line device :: past) .nmi = true) := by
        rintro ⟨hlow, hhigh⟩
        by_cases hline : line = .nmi
        · subst hline
          rw [level_of_level_cons_release hhigh] at hlow
          cases hlow
        · rw [level_cons_of_not_concerns (by simpa [Operation.concerns] using hline), hlow] at hhigh
          cases hhigh
      rw [or_iff_right hno, afterHistory, perform, release_eq]
      exact ih.trans ⟨fun h => ⟨nofun, nofun, h⟩, fun h => h.2.2⟩
    -- the edge is taken, and the line has not risen since
    | consumeNmiEdge =>
      rw [level_cons_of_not_concerns rfl]
      simp [afterHistory, perform, consumeNmiEdge]
    | reset =>
      rw [afterHistory, perform, fst_reset, level_cons_reset]
      simp

/-! ## Every history -/

/-- What a history leaves behind, on the lines and with the sink. What a sink has to show for it depends on
whether it was attached and free; all the rest holds whoever listens. -/
structure FollowsWiredOr (t : Trace) (history : List Operation) : Prop where
  /-- The devices listed for a line are those that pull it, in increasing order. -/
  pullers : ∀ line, DeviceId.Increasing ((afterHistory t history).1.pullers.get line) ∧
    ∀ device, device ∈ (afterHistory t history).1.pullers.get line ↔ Pulls history line device
  /-- A line is asserted while some device pulls it. -/
  asserted : ∀ line, (afterHistory t history).1.isAsserted line = level history line ∧
    (level history line = true ↔ ∃ device, Pulls history line device)
  /-- Who pulls a line, and which levels it has taken, is settled by the operations on it alone. -/
  apart : ∀ line, let own := history.filter fun op => op.concerns line
    (afterHistory t history).1.pullers.get line = (afterHistory t own).1.pullers.get line ∧
      levelsOf line history = levelsOf line own
  /-- To pull or to release a line answers whether that changed its level. -/
  answers : ∀ op line device, op = .pull line device ∨ op = .release line device →
    ((afterHistory t history).1.perform op (afterHistory t history).2).1 =
      some ((afterHistory t (op :: history)).1.isAsserted line !=
        (afterHistory t history).1.isAsserted line)
  /-- The sink has been told of the changes of levels and of nothing else. -/
  told : (afterHistory t history).2 = report t (changes history)
  /-- One that is attached and free has seen them all. -/
  seen : t.attached = true → t.busy = false → (afterHistory t history).2.events.toList =
    t.events.toList ++ (changes history).map fun line => .signal line.1 line.2
  /-- The levels seen of one line alternate, from asserted on, up to the level that it has. -/
  inTurn : ∀ line, (false :: levelsOf line history).IsChain (· ≠ ·) ∧
    (false :: levelsOf line history).getLast? = some ((afterHistory t history).1.isAsserted line)
  /-- Of a reset such a sink sees each asserted line released once. -/
  released : t.attached = true → t.busy = false →
    (afterHistory t (.reset :: history)).2.events.toList =
      (afterHistory t history).2.events.toList ++
        (Line.all.filter (afterHistory t history).1.isAsserted).map fun line => .signal line false
  /-- The NMI edge is there to be taken if the line has risen since it was last taken or dropped. -/
  edge : ∃ taken, ((afterHistory t history).1.perform .consumeNmiEdge (afterHistory t history).2).1 =
    some taken ∧ (taken = true ↔ HasRisen history)

/-- After every history the lines are as the wired OR of the devices has them, each operation has answered
and reported the change that it made, and the NMI edge waits if a rise has not been taken. -/
theorem followsWiredOr_afterHistory (t : Trace) (history : List Operation) :
    FollowsWiredOr t history where
  pullers line := ⟨increasing_pullers t history line, mem_pullers_iff t history line⟩
  asserted line := ⟨isAsserted_eq t history line, level_iff⟩
  apart line := by
    refine ⟨?_, levelsOf_filter_concerns.symm⟩
    -- both lists are increasing, and have the same members
    refine (increasing_pullers t _ line).eq_of_mem_iff (increasing_pullers t _ line) fun device => ?_
    rw [mem_pullers_iff, mem_pullers_iff, pulls_filter_concerns]
  answers op line device hop := by
    rw [isAsserted_eq, isAsserted_eq]
    -- both answers are changes of the level of the wired OR
    rcases hop with rfl | rfl
    · exact congrArg some (answer_pull t history line device)
    · exact congrArg some (answer_release t history line device)
  told := report_changes t history
  seen hattached hfree := by
    rw [report_changes]
    exact events_report hattached hfree (changes history)
  inTurn line := by
    rw [isAsserted_eq]
    exact isChain_levelsOf line history
  released hattached hfree := by
    have hlevels : (afterHistory t history).1.isAsserted = fun line => level history line :=
      funext fun line => isAsserted_eq t history line
    -- what the sink has seen is compared before and after the reset
    have hbefore := events_report hattached hfree (changes history)
    have hafter := events_report hattached hfree (changes (.reset :: history))
    rw [report_changes, report_changes, hafter, hbefore, hlevels, changes, changed_reset]
    simp
  edge := ⟨_, rfl, nmiEdge_iff t history⟩

/-- Two devices pull the interrupt line, a third one lets go of what it never held, the NMI line rises,
and after a reset it rises again. -/
def risingTwice : List Operation :=
  [.pull .nmi ⟨1⟩, .reset, .pull .nmi ⟨9⟩, .release .irq ⟨3⟩, .pull .irq ⟨2⟩, .pull .irq ⟨7⟩]

/-- The reset drops the first edge and the second one waits; in between the interrupt line has been
released once for both of its devices. -/
theorem followsWiredOr_afterHistory_risingTwice :
    let t : Trace := { attached := true }
    FollowsWiredOr t risingTwice ∧
      FollowsWiredOr t (risingTwice.drop 2) ∧
      (afterHistory t (risingTwice.drop 2)).1.pullers.get .irq = [⟨2⟩, ⟨7⟩] ∧
      (afterHistory t risingTwice).2.events = #[.signal .irq true, .signal .nmi true,
        .signal .irq false, .signal .nmi false, .signal .nmi true] ∧
      HasRisen risingTwice ∧ ¬HasRisen risingTwice.tail := by
  intro t
  have hfollows := followsWiredOr_afterHistory t risingTwice
  have hrisen := (nmiEdge_iff t risingTwice).1 (by decide)
  have hdropped : ¬HasRisen risingTwice.tail := fun h =>
    absurd ((nmiEdge_iff t risingTwice.tail).2 h) (by decide)
  have hevents := hfollows.seen rfl rfl
  exact ⟨hfollows, followsWiredOr_afterHistory t (risingTwice.drop 2), by decide,
    Array.toList_inj.1 (hevents.trans (by decide)), hrisen, hdropped⟩

end Signals

end Motherboard
