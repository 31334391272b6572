import Motherboard.Proofs.BusRun
import Motherboard.Proofs.PlainStorage

/-!
# Values and their width

A completed access has no bit above its width (`execute_gives`). A value that is written was cut when
the access was made. A value that is read comes either from one device cycle, and devices answer cycles
with words of the width asked for (`holds_of_answer`), or from lanes, and lanes fill in bytes below the
width only (`holds_mergeLane`).
-/

namespace Motherboard

/-- The value has no bit above the width. -/
def Width.Holds (w : Width) (value : UInt32) : Prop := value.toNat < 2 ^ w.bits

namespace Width

variable {w : Width}

theorem holds_zero (w : Width) : w.Holds 0 := Nat.two_pow_pos w.bits

theorem holds_dword (value : UInt32) : dword.Holds value := value.toNat_lt

theorem holds_byte (byte : UInt8) : Width.byte.Holds byte.toUInt32 := by
  unfold Holds
  rw [UInt8.toNat_toUInt32]
  exact byte.toNat_lt

/-- A masked value has room in the width of its mask. -/
theorem holds_and_mask (w : Width) (value : UInt32) : w.Holds (value &&& w.mask) := by
  have hbits : 256 ^ w.bytes = 2 ^ w.bits := by cases w <;> rfl
  unfold Holds
  rw [w.toNat_and_mask, ← hbits]
  exact Nat.mod_lt _ (Nat.pow_pos (by omega))

/-- Bits of two values that have room have room together. -/
theorem Holds.or {u v : UInt32} (hu : w.Holds u) (hv : w.Holds v) : w.Holds (u ||| v) := by
  unfold Holds
  rw [UInt32.toNat_or]
  exact Nat.or_lt_two_pow hu hv

/-- A byte that is moved up stays below the width. -/
theorem holds_shiftLeft {n : Nat} (hn : n + 8 ≤ w.bits) (byte : UInt8) :
    w.Holds (byte.toUInt32 <<< n.toUInt32) := by
  have hbyte : byte.toNat < 2 ^ 8 := byte.toNat_lt
  have hbits : w.bits ≤ 32 := by cases w <;> decide
  have hshift : n.toUInt32.toNat = n := toNat_toUInt32 (by omega)
  -- no bit of the byte is shifted past the width
  have hmoved : byte.toNat * 2 ^ n < 2 ^ w.bits := by
    have hpow : 2 ^ (n + 8) ≤ 2 ^ w.bits := Nat.pow_le_pow_right (by omega) hn
    have hlt : byte.toNat * 2 ^ n < 2 ^ 8 * 2 ^ n := Nat.mul_lt_mul_of_pos_right hbyte (Nat.two_pow_pos n)
    rw [Nat.add_comm, Nat.pow_add] at hpow
    omega
  unfold Holds
  rw [UInt32.toNat_shiftLeft, hshift, Nat.mod_eq_of_lt (by omega : n < 32), UInt8.toNat_toUInt32,
    Nat.shiftLeft_eq]
  exact Nat.lt_of_le_of_lt (Nat.mod_le _ _) hmoved

end Width

/-! ## Lanes -/

namespace Access

variable {a : Access}

/-- A byte put into a lane of the access stays inside its width. -/
theorem holds_mergeLane {value : UInt32} (hvalue : a.width.Holds value) {i : Nat}
    (hi : i < a.width.bytes) (byte : UInt8) : a.width.Holds (a.mergeLane value i byte) := by
  have hbits : a.width.bits = a.width.bytes * 8 := by cases a.width <;> rfl
  refine hvalue.or (Width.holds_shiftLeft ?_ byte)
  unfold laneShift
  cases a.order with
  | little => dsimp only; omega
  | big => dsimp only; omega

/-- Bytes put into lanes one after another stay inside the width. -/
theorem holds_mergeLanes {value : UInt32} (hvalue : a.width.Holds value) {lanes : List Nat}
    (hlanes : ∀ i ∈ lanes, i < a.width.bytes) (bytes : List UInt8) :
    a.width.Holds (a.mergeLanes value lanes bytes) := by
  induction lanes generalizing value bytes with
  | nil => exact hvalue
  | cons i lanes ih =>
    cases bytes with
    | nil => exact hvalue
    | cons byte bytes =>
      have hi := hlanes i (List.mem_cons_self ..)
      exact ih (holds_mergeLane hvalue hi byte) (fun j hj => hlanes j (List.mem_cons_of_mem i hj)) bytes

end Access

/-- As many bytes as a width has join to a value of the width. -/
theorem ByteOrder.holds_join (order : ByteOrder) {w : Width} {bytes : List UInt8}
    (h : bytes.length = w.bytes) : w.Holds (order.join bytes) := by
  -- an access of this order and width, whose lanes the bytes are
  obtain ⟨a, horder, hwidth⟩ : ∃ a : Access, a.order = order ∧ a.width = w := by
    cases order with
    | little => exact ⟨(Access.read 0 w .dataRead).withFlags { littleEndian := true }, rfl, rfl⟩
    | big => exact ⟨Access.read 0 w .dataRead, rfl, rfl⟩
  subst horder hwidth
  rw [← a.mergeLanes_laneNumbers h]
  exact Access.holds_mergeLanes (Width.holds_zero _) (fun i hi => List.mem_range.1 hi) bytes

/-! ## What devices answer -/

/-- A memory answers inside the width it is asked for. -/
theorem Storage.holds_of_load {s : Storage} {w : Width} {order : ByteOrder} {offset value : UInt32}
    (h : s.load w order offset = .ok value) : w.Holds value := by
  obtain ⟨bytes, hwindow, rfl⟩ := load_eq_ok_iff.1 h
  have hlength := congrArg List.length (window?_eq_some_iff.1 hwindow)
  rw [List.length_map, List.length_map, List.length_range] at hlength
  exact order.holds_join hlength.symm

/-- A cycle whose result is mapped succeeds with a mapped value. -/
theorem Cycle.exists_of_map {σ α β : Type} {f : α → β} {c : Cycle σ α} {s : σ} {b : β}
    (h : (c.map f s).1 = .ok b) : ∃ a, f a = b := by
  unfold map at h
  dsimp only at h
  cases hanswer : (c s).1 with
  | error e =>
    rw [hanswer] at h
    cases h
  | ok a =>
    rw [hanswer] at h
    exact ⟨a, Except.ok.inj h⟩

/-- A wide read merges its bytes, and a byte read answers a byte. -/
theorem Cycle.holds_of_read {σ : Type} {read8 : UInt32 → Access → Cycle σ UInt8} {w : Width}
    {offset : UInt32} {access : Access} {s : σ} {value : UInt32}
    (h : (Cycle.read read8 w offset access s).1 = .ok value) : w.Holds value := by
  cases w with
  | byte =>
    obtain ⟨byte, rfl⟩ := exists_of_map h
    exact Width.holds_byte byte
  | word =>
    obtain ⟨word, rfl⟩ := exists_of_map h
    exact Width.holds_and_mask .word word
  | dword => exact Width.holds_dword value

/-- A device answers inside the width: a byte, a word, or 32 bits. -/
theorem Device.holds_of_read {δ ω : Type} [Device δ ω] {w : Width} {offset : UInt32}
    {access : Access} {s : δ × Commons ω} {value : UInt32}
    (h : (Device.read w offset access s).1 = .ok value) : w.Holds value := by
  cases w with
  | byte =>
    obtain ⟨byte, rfl⟩ := Cycle.exists_of_map h
    exact Width.holds_byte byte
  | word =>
    obtain ⟨word, rfl⟩ := Cycle.exists_of_map h
    unfold Width.Holds
    rw [UInt16.toNat_toUInt32]
    exact word.toNat_lt
  | dword => exact Width.holds_dword value

section Answers

variable {ω γ δ : Type} [Device δ ω] {w : Width} {offset value : UInt32} {access : Access}

/-- Every part answers inside the width. -/
theorem Part.holds_of_read {s : Part δ × Board ω} (h : (Part.read w offset access s).1 = .ok value) :
    w.Holds value := by
  obtain ⟨part, b⟩ := s
  cases part with
  | ram store => exact Storage.holds_of_load h
  | rom store => exact Storage.holds_of_load h
  -- the faces of a banked memory answer byte by byte, and so do devices by default
  | bankSwitches m =>
    have hcycle : (Cycle.read (Board.readSwitch m) w offset access b).1 = .ok value := h
    exact Cycle.holds_of_read hcycle
  | bankWindow m =>
    have hcycle : (Cycle.read (Board.readBanked m) w offset access b).1 = .ok value := h
    exact Cycle.holds_of_read hcycle
  | device d => exact Device.holds_of_read h

variable [Card γ δ ω]

/-- Every target answers inside the width, plain part or I/O page. -/
theorem Target.holds_of_read {s : Target δ × Backplane ω γ}
    (h : (Target.read w offset access s).1 = .ok value) : w.Holds value := by
  obtain ⟨t, b⟩ := s
  cases t with
  | part p => exact Part.holds_of_read h
  | page p =>
    have hcycle : (Cycle.read IoPage.read8 w offset access (p, b)).1 = .ok value := h
    exact Cycle.holds_of_read hcycle

namespace Bus

variable {bus : Bus ω δ γ} {r : Routing} {a : Access} {entry : PageEntry} {checking : Checking}

/-- An answered read has room in its width. -/
theorem holds_of_answer {id : TargetId} (h : (answer (.read id w offset access) bus).1 = .ok value) :
    w.Holds value := by
  have hread : (bus.onTarget id (.error .failed) fun t b =>
    Target.read w offset access (t, b)).1 = .ok value := h
  unfold onTarget onTarget? at hread
  cases htarget : bus.target? id with
  | none =>
    rw [htarget] at hread
    cases hread
  | some t =>
    rw [htarget] at hread
    exact Target.holds_of_read hread

/-! ## What an access gives -/

/-- One dispatch gives back the value that it wrote, or what the target answered. -/
theorem holds_of_dispatch (ha : a.width.Holds a.value) {cost : UInt32}
    (h : ((r.dispatch entry a).run answer bus).1 = .ok (value, cost)) : a.width.Holds value := by
  unfold Routing.dispatch at h
  dsimp only at h
  split_ifs at h
  · -- A write completes with its own value.
    rw [Requests.run_ask] at h
    cases hreply : (answer (.write entry.target a.width (r.deviceOffset entry a.address) a.value a)
      bus).1 with
    | error e =>
      rw [hreply] at h
      cases h
    | ok =>
      rw [hreply] at h
      cases h
      exact ha
  · rw [Requests.run_ask] at h
    cases hreply : (answer (.read entry.target a.width (r.deviceOffset entry a.address) a) bus).1 with
    | error e =>
      rw [hreply] at h
      cases h
    | ok word =>
      rw [hreply] at h
      cases h
      exact holds_of_answer hreply
  · cases h

end Bus

end Answers

/-- If the result is a value, it has no bit above the width of the access. -/
def Access.Gives (a : Access) (result : Except Fault Completed) : Prop :=
  ∀ done, result = .ok done → a.width.Holds done.value

/-- An access may give any value that has room in it. -/
theorem Access.gives_ok {a : Access} {done : Completed} (h : a.width.Holds done.value) :
    a.Gives (.ok done) := by
  rintro _ ⟨⟩
  exact h

/-- A fault carries no value that would have to have room. -/
theorem Access.gives_error (a : Access) (fault : Fault) : a.Gives (.error fault) := by
  intro done h
  cases h

namespace Routing

variable {r : Routing} {a : Access} {checking : Checking} {value : UInt32}

/-- A decomposed access merges one byte after another into a value that has room. -/
theorem lanesFrom_gives (ha : a.width.Holds a.value) (hvalue : a.width.Holds value)
    (lanes : List Nat) (cycles : UInt32) (hlanes : ∀ i ∈ lanes, i < a.width.bytes) :
    (r.lanesFrom checking a lanes value cycles).Ends a.Gives := by
  induction lanes generalizing value cycles with
  | nil =>
    -- A write gives back its own value; a read what its lanes have merged.
    refine Access.gives_ok ?_
    dsimp only
    split_ifs
    · exact ha
    · exact hvalue
  | cons i lanes ih =>
    -- the value that is merged so far is generalized, because each lane starts from another one
    have hi := hlanes i (List.mem_cons_self ..)
    have hrest : ∀ j ∈ lanes, j < a.width.bytes := fun j hj => hlanes j (List.mem_cons_of_mem i hj)
    rw [lanesFrom]
    refine (Requests.ends_true _).bind ?_
    rintro (fault | ⟨byte, cost⟩) -
    · exact a.gives_error _
    · refine ih ?_ _ hrest
      split_ifs
      · exact hvalue
      · exact Access.holds_mergeLane hvalue hi byte.toUInt8

/-- A silent access merges what it has looked at, or floating bytes. -/
theorem silentFrom_gives (ha : a.width.Holds a.value) (hvalue : a.width.Holds value)
    (lanes : List Nat) (hlanes : ∀ i ∈ lanes, i < a.width.bytes) :
    (r.silentFrom a lanes value).Ends a.Gives := by
  induction lanes generalizing value with
  | nil =>
    refine Access.gives_ok ?_
    dsimp only
    split_ifs
    · exact ha
    · exact hvalue
  | cons i lanes ih =>
    have hi := hlanes i (List.mem_cons_self ..)
    have hrest : ∀ j ∈ lanes, j < a.width.bytes := fun j hj => hlanes j (List.mem_cons_of_mem i hj)
    -- whichever byte the lane comes to, seen or floating, the rest go on from it
    have hmerged : ∀ byte, (r.silentFrom a lanes (a.mergeLane value i byte)).Ends a.Gives :=
      fun byte => ih (Access.holds_mergeLane hvalue hi byte) hrest
    rw [silentFrom]
    dsimp only
    cases r.table.entryFor? (r.lane a i).address with
    | none => exact a.gives_error _
    | some entry =>
      dsimp only
      by_cases htarget : entry.target.index < r.targets
      · rw [if_pos htarget]
        split_ifs
        · exact fun _ => ih hvalue hrest
        · exact ih hvalue hrest
        all_goals
          refine (Requests.ends_true _).bind ?_
          rintro (_ | byte) -
          · exact fun byte => hmerged byte
          · exact hmerged byte
      · rw [if_neg htarget]
        exact a.gives_error _

/-- Refused or not, a silent access gives what has room. -/
theorem silent_gives (ha : a.width.Holds a.value) : (r.silent checking a).Ends a.Gives := by
  have hsilent : (r.silentFrom a a.laneNumbers 0).Ends a.Gives :=
    silentFrom_gives ha (Width.holds_zero _) a.laneNumbers fun i hi => List.mem_range.1 hi
  unfold silent
  split_ifs
  · cases r.checkLanesFrom a a.laneNumbers with
    | error fault => exact a.gives_error fault
    | ok => exact hsilent
  · exact hsilent

end Routing

namespace Bus

variable {ω γ δ : Type} [Device δ ω] [Card γ δ ω] {r : Routing} {a : Access}

/-- An access that is carried out in one cycle. -/
theorem whole_gives (ha : a.width.Holds a.value) (entry : PageEntry) (bus : Bus ω δ γ) :
    a.Gives ((r.whole entry a).run answer bus).1 := by
  rw [Routing.whole, Requests.run_map]
  dsimp only
  cases hdispatch : ((r.dispatch entry a).run answer bus).1 with
  | error fault => exact a.gives_error fault
  | ok done => exact Access.gives_ok (holds_of_dispatch ha hdispatch)

/-- However an access is carried out, what it gives has room in its width. -/
theorem execute_gives (ha : a.width.Holds a.value) (checking : Checking) (bus : Bus ω δ γ) :
    a.Gives ((r.execute checking a).run answer bus).1 := by
  unfold Routing.execute
  split_ifs
  · unfold Routing.noticed
    -- the policy refuses, dispatches once, or decomposes
    cases r.resolve checking a with
    | error fault => exact a.gives_error fault
    | ok entry =>
      dsimp only
      split_ifs
      · exact whole_gives ha entry bus
      · exact a.gives_error _
      · cases r.route a entry with
        | wide => exact whole_gives ha entry bus
        | lanes =>
          have hlanes : (r.decompose checking a).Ends a.Gives :=
            Routing.lanesFrom_gives ha (Width.holds_zero _) a.laneNumbers 0 fun i hi =>
              List.mem_range.1 hi
          exact Requests.run_of_ends hlanes answer bus
  · exact Requests.run_of_ends (Routing.silent_gives ha) answer bus

end Bus

end Motherboard
