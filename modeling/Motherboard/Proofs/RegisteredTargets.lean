import Motherboard.Proofs.BusUses

/-!
# Targets that the pages lead to

A page entry names a target by its number, and the bus looks at the number again with every access. It
never has to: every call that stores an entry checks the number first, and targets are not taken off the
bus (`Bus.Use.isRegistered`). So every entry leads to a target of the bus (`IsRegistered`), and an access
goes the same way with the second look as without (`execute_withTargets`): the faults that the look would
raise are not reached.
-/

namespace Motherboard

namespace Routing

/-- Every entry of the page table leads to a target of the bus. -/
def IsRegistered (r : Routing) : Prop :=
  ∀ index entry, r.table.get? index = some entry → entry.target.index < r.targets

/-- The same routing when the bus has another number of targets. -/
def withTargets (r : Routing) (n : Nat) : Routing := { r with targets := n }

variable {r : Routing} {n : Nat}

theorem isRegistered_of_empty (h : ∀ index, r.table.get? index = none) : r.IsRegistered := by
  intro index entry hentry
  rw [h index] at hentry
  cases hentry

theorem IsRegistered.of_resolve (h : r.IsRegistered) {checking : Checking} {a : Access}
    {entry : PageEntry} (hresolve : r.resolve checking a = .ok entry) :
    entry.target.index < r.targets :=
  h _ entry (entryFor?_of_resolve hresolve)

/-! ## The second look -/

/-- A dispatch to a target that exists does not depend on how many others there are. -/
theorem dispatch_withTargets (hn : r.targets ≤ n) {entry : PageEntry}
    (hentry : entry.target.index < r.targets) (a : Access) :
    (r.withTargets n).dispatch entry a = r.dispatch entry a := by
  have hmore : entry.target.index < (r.withTargets n).targets := Nat.lt_of_lt_of_le hentry hn
  unfold dispatch
  dsimp only
  rw [if_pos hmore, if_pos hentry]
  rfl

theorem byteCycle_withTargets (h : r.IsRegistered) (hn : r.targets ≤ n) (checking : Checking)
    (a : Access) : (r.withTargets n).byteCycle checking a = r.byteCycle checking a := by
  have hsame : (r.withTargets n).resolve checking a = r.resolve checking a := rfl
  unfold byteCycle
  rw [hsame]
  cases hresolve : r.resolve checking a with
  | error fault => rfl
  | ok entry => exact dispatch_withTargets hn (h.of_resolve hresolve) a

theorem lanesFrom_withTargets (h : r.IsRegistered) (hn : r.targets ≤ n) (checking : Checking)
    (a : Access) (lanes : List Nat) (value cycles : UInt32) :
    (r.withTargets n).lanesFrom checking a lanes value cycles =
      r.lanesFrom checking a lanes value cycles := by
  induction lanes generalizing value cycles with
  | nil => rfl
  | cons i lanes ih =>
    have hlane : (r.withTargets n).lane a i = r.lane a i := rfl
    rw [lanesFrom, lanesFrom, hlane, byteCycle_withTargets h hn]
    congr 1
    -- the lanes that follow depend on the answer to this one, so both trees are compared under it
    funext answer
    cases answer with
    | error fault => rfl
    | ok done => exact ih _ _

theorem silentFrom_withTargets (h : r.IsRegistered) (hn : r.targets ≤ n) (a : Access)
    (lanes : List Nat) (value : UInt32) :
    (r.withTargets n).silentFrom a lanes value = r.silentFrom a lanes value := by
  induction lanes generalizing value with
  | nil => rfl
  | cons i lanes ih =>
    have hlane : (r.withTargets n).lane a i = r.lane a i := rfl
    have hsame : (r.withTargets n).table = r.table := rfl
    rw [silentFrom, silentFrom, hlane, hsame]
    dsimp only
    cases hfound : r.table.entryFor? (r.lane a i).address with
    | none => rfl
    | some entry =>
      have hentry : entry.target.index < r.targets := h _ entry hfound
      have hmore : entry.target.index < (r.withTargets n).targets := Nat.lt_of_lt_of_le hentry hn
      have hoffset : (r.withTargets n).deviceOffset entry (r.lane a i).address =
        r.deviceOffset entry (r.lane a i).address := rfl
      dsimp only
      -- the target exists in either count
      rw [if_pos hmore, if_pos hentry, hoffset]
      simp only [ih]

theorem noticed_withTargets (h : r.IsRegistered) (hn : r.targets ≤ n) (checking : Checking)
    (a : Access) : (r.withTargets n).noticed checking a = r.noticed checking a := by
  have hsame : (r.withTargets n).resolve checking a = r.resolve checking a := rfl
  unfold noticed
  rw [hsame]
  cases hresolve : r.resolve checking a with
  | error fault => rfl
  | ok entry =>
    -- each way of the policy is a dispatch to a target that exists
    have hwhole : (r.withTargets n).whole entry a = r.whole entry a := by
      unfold whole
      rw [dispatch_withTargets hn (h.of_resolve hresolve)]
    have hlanes : (r.withTargets n).decompose checking a = r.decompose checking a :=
      lanesFrom_withTargets h hn checking a a.laneNumbers 0 0
    have halign : (r.withTargets n).refusesAlignment checking a = r.refusesAlignment checking a := rfl
    have hroute : (r.withTargets n).route a entry = r.route a entry := rfl
    dsimp only
    rw [hwhole, hlanes, halign, hroute]

/-- The check of lanes never looks at targets. -/
theorem checkLanesFrom_withTargets (r : Routing) (n : Nat) (a : Access) (lanes : List Nat) :
    (r.withTargets n).checkLanesFrom a lanes = r.checkLanesFrom a lanes := by
  induction lanes with
  | nil => rfl
  | cons i lanes ih =>
    have hsame : (r.withTargets n).resolve .checked ((r.withTargets n).lane a i) =
      r.resolve .checked (r.lane a i) := rfl
    rw [checkLanesFrom, checkLanesFrom, hsame, ih]

/-- An access goes the same way on a bus of more targets: the look at the number decides nothing. -/
theorem execute_withTargets (h : r.IsRegistered) (hn : r.targets ≤ n) (checking : Checking)
    (a : Access) : (r.withTargets n).execute checking a = r.execute checking a := by
  unfold execute
  rw [noticed_withTargets h hn]
  congr 1
  unfold silent
  rw [checkLanesFrom_withTargets, silentFrom_withTargets h hn]

end Routing

/-! ## The calls that store entries -/

namespace Bus

variable {ω δ γ : Type} {bus after : Bus ω δ γ}

/-- Adding a target leaves no entry dangling. -/
theorem isRegistered_addTarget (h : bus.routing.IsRegistered) (t : Target δ) :
    (bus.addTarget t).2.routing.IsRegistered := by
  intro index entry hentry
  have hbefore : entry.target.index < bus.targets.size := h index entry hentry
  have hsize : (bus.addTarget t).2.routing.targets = bus.targets.size + 1 := Array.size_push _
  rw [hsize]
  omega

/-- A table is changed in one page, and the entry put there leads to a target. -/
theorem isRegistered_of_set (h : bus.routing.IsRegistered) {index : Nat} {entry : Option PageEntry}
    (hentry : ∀ e, entry = some e → e.target.index < bus.targets.size) {table : PageTable}
    (hset : bus.table.set index entry = .ok table) :
    ({ bus with table := table } : Bus ω δ γ).routing.IsRegistered := by
  intro other e he
  have hget := PageTable.get?_of_set hset other
  have hstored : table.get? other = some e := he
  rw [hstored] at hget
  split_ifs at hget
  · exact hentry e hget.symm
  · exact h other e hget.symm

/-- A page is mapped only to a target that exists. -/
theorem isRegistered_mapPage (h : bus.routing.IsRegistered) {index : Nat} {entry : PageEntry}
    (hmap : bus.mapPage index entry = .ok after) : after.routing.IsRegistered := by
  obtain ⟨htarget, table, hset, rfl⟩ := mapPage_eq_ok_iff.1 hmap
  refine isRegistered_of_set h ?_ hset
  rintro e ⟨⟩
  exact htarget

theorem isRegistered_mapRange (h : bus.routing.IsRegistered) {first count : Nat} {entry : PageEntry}
    (hmap : bus.mapRange first count entry = .ok after) : after.routing.IsRegistered := by
  obtain ⟨htarget, ⟨-, -, hroom⟩, rfl⟩ := mapRange_eq_ok_iff.1 hmap
  intro index e he
  have hget := PageTable.get?_fill_eq hroom entry index
  have hstored : (bus.table.fill first count entry).get? index = some e := he
  rw [hstored] at hget
  split_ifs at hget
  · -- the pages of a range differ in their bases only
    obtain rfl := Option.some.inj hget
    exact htarget
  · exact h index e hget.symm

theorem isRegistered_unmapPage (h : bus.routing.IsRegistered) {index : Nat}
    {entry : Option PageEntry} (hunmap : bus.unmapPage index = .ok (entry, after)) :
    after.routing.IsRegistered := by
  obtain ⟨-, table, hset, rfl⟩ := unmapPage_eq_ok_iff.1 hunmap
  refine isRegistered_of_set h ?_ hset
  rintro e ⟨⟩

/-- A page is led to another target only if that exists. -/
theorem isRegistered_remapPage [Device δ ω] (h : bus.routing.IsRegistered) {index : Nat}
    {id : TargetId} {base : UInt32} (hremap : bus.remapPage index id base = .ok after) :
    after.routing.IsRegistered := by
  obtain ⟨t, entry, table, htarget, -, hset, rfl⟩ := remapPage_eq_ok_iff.1 hremap
  refine isRegistered_of_set h ?_ hset
  rintro e ⟨⟩
  exact (Array.getElem?_eq_some_iff.1 htarget).1

/-- Whatever is done with a bus, its entries lead to targets. -/
theorem Use.isRegistered [Device δ ω] [Card γ δ ω] (huse : bus.Use after)
    (h : bus.routing.IsRegistered) : after.routing.IsRegistered := by
  cases huse with
  | access a => rwa [routing_access]
  | direct a =>
    have hsame : (bus.direct a).2.routing = bus.routing := routing_run _ bus
    rwa [hsame]
  | recordTrapped a o =>
    have hsame : (bus.recordTrapped a o).routing = bus.routing := routing_observe _ _ _
    rwa [hsame]
  | answer request => rwa [routing_answer]
  | resetTarget id =>
    have hsame : (bus.resetTarget id).routing = bus.routing := routing_onTarget _ _ _ _
    rwa [hsame]
  | reset => rwa [routing_reset]
  | addTarget t => exact isRegistered_addTarget h t
  | mapPage hmap => exact isRegistered_mapPage h hmap
  | mapRange hmap => exact isRegistered_mapRange h hmap
  | unmapPage hunmap => exact isRegistered_unmapPage h hunmap
  | remapPage hremap => exact isRegistered_remapPage h hremap
  -- the others leave the table and the number of targets alone
  | _ => exact h

end Bus

end Motherboard
