import Mathlib.Data.List.Basic
import Motherboard.Device.Part
import Motherboard.Proofs.ByteLanes

/-!
# Arming the writes to banked memory

The switches of a banked memory keep two bits of their past: whether writing is enabled, and whether the
last access was a read of an odd switch. What they should be is read off the whole history of calls of
the two faces: of the accesses to switches since power-on or the last reset, nothing else counts
(`touches`). Writing is enabled until an even switch is touched, and after that by two reads of odd
switches in a row (`FollowsTouches`). A history has its latest call first, so that what was before a call
is the rest of the list behind it.

## Results

* `FollowsTouches.switched`      — one access to a switch keeps the bits in step with the accesses.
* `banked_afterDealings`         — the memory that the calls of the two faces leave on the board.
* `followsTouches_afterDealings` — its switches after every history.
-/

namespace Motherboard

/-! ## Calls of the two faces -/

/-- A byte call of a part, or a reset. -/
inductive PartCall where
  | read (offset : UInt32) (access : Access)
  | write (offset : UInt32) (value : UInt8) (access : Access)
  | peek (offset : UInt32)
  | poke (offset : UInt32) (value : UInt8)
  | reset

/-- The board after a call of a part, whatever the part answers. -/
def Part.boardAfter {δ ω : Type} [Device δ ω] (part : Part δ) (b : Board ω) : PartCall → Board ω
  | .read offset access => (Part.read .byte offset access (part, b)).2.2
  | .write offset value access => (Part.write .byte offset value.toUInt32 access (part, b)).2.2
  | .peek offset => { b with host := (part.peek offset b).2 }
  | .poke offset value => (part.poke offset value b).2.2
  | .reset => (part.reset b).2

/-- A call of one of the two faces of a banked memory. -/
inductive BankDealing where
  | switches (call : PartCall)
  | window (call : PartCall)

namespace Board

variable {ω : Type}

/-- The board with one more banked memory at power-on, numbered after those that are there. -/
def withMemory (b : Board ω) (image : Array UInt8) : Board ω :=
  { b with banked := b.banked.push (.ofRom image) }

variable (δ : Type) [Device δ ω]

/-- The board after a call of a face of the memory with a number. -/
def afterDealing (memory : Nat) (b : Board ω) : BankDealing → Board ω
  | .switches call => (Part.bankSwitches memory : Part δ).boardAfter b call
  | .window call => (Part.bankWindow memory : Part δ).boardAfter b call

/-- The board after a history of calls of the faces of a memory. -/
def afterDealings (memory : Nat) (b : Board ω) : List BankDealing → Board ω
  | [] => b
  | d :: past => (b.afterDealings memory past).afterDealing δ memory d

end Board

/-! ## Accesses to switches -/

/-- One access to a switch. -/
structure Touch where
  /-- Offset that was accessed. -/
  offset : UInt32
  /-- The access was a write. -/
  write : Bool

namespace Touch

/-- The number of the switch. -/
def switch (t : Touch) : Nat :=
  t.offset.toNat % 16

/-- The switch has an odd number. -/
def isOdd (t : Touch) : Bool :=
  t.switch % 2 == 1

/-- A read of an odd switch. -/
def isOddRead (t : Touch) : Bool :=
  t.isOdd && !t.write

end Touch

/-- The accesses to switches since power-on or the last reset, the latest first. A reset of either face
resets the switches. -/
def touches : List BankDealing → List Touch
  | [] => []
  | .switches (.read offset _) :: past => ⟨offset, false⟩ :: touches past
  | .switches (.write offset _ _) :: past => ⟨offset, true⟩ :: touches past
  | .switches .reset :: _ => []
  | .window .reset :: _ => []
  | _ :: past => touches past

/-- Two reads of odd switches with no access to a switch between them. -/
def HasArmingPair (touches : List Touch) : Prop :=
  ∃ first second : Touch, [second, first] <:+: touches ∧
    first.isOddRead = true ∧ second.isOddRead = true

namespace BankState

/-- The switches after accesses since power-on, the latest first. -/
def afterTouches : List Touch → BankState
  | [] => .powerOn
  | t :: touches => (afterTouches touches).switched t.offset t.write

/-- The switches are as the accesses since power-on or the last reset make them. -/
structure FollowsTouches (touches : List Touch) (s : BankState) : Prop where
  /-- No even switch has been touched, or since the last touch of one there were two reads of odd switches
  in a row. -/
  writeEnabled : s.writeEnabled = true ↔
    (∀ t ∈ touches, t.isOdd = true) ∨ HasArmingPair (touches.takeWhile Touch.isOdd)
  /-- The last access was a read of an odd switch. -/
  prewrite : s.prewrite = true ↔ ∃ t, touches.head? = some t ∧ t.isOddRead = true
  /-- The bank is chosen by the last switch touched, whatever was before. -/
  bank2 : s.bank2 = (touches.head?.elim true fun t => decide (t.switch < 8))
  /-- What reads see is chosen by the last switch touched, whatever was before. -/
  readRam : s.readRam =
    (touches.head?.elim false fun t => decide (t.switch % 4 = 0 ∨ t.switch % 4 = 3))

/-- The bits of a switch number, for each of the sixteen switches. -/
theorem switchBits : ∀ n < 16,
    (n.toUInt32 &&& 1 != 0) = (n % 2 == 1) ∧ (n.toUInt32 &&& 8 == 0) = decide (n < 8) ∧
      (n.toUInt32 &&& 3 == 0 || n.toUInt32 &&& 3 == 3) = decide (n % 4 = 0 ∨ n % 4 = 3) := by
  decide

/-- What an access to a switch does, told by the number of the switch. -/
theorem switched_eq (s : BankState) (t : Touch) : s.switched t.offset t.write =
    { readRam := decide (t.switch % 4 = 0 ∨ t.switch % 4 = 3)
      writeEnabled := t.isOdd && (s.writeEnabled || (!t.write && s.prewrite))
      bank2 := decide (t.switch < 8)
      prewrite := t.isOddRead } := by
  obtain ⟨hodd, hbank, hreads⟩ := switchBits t.switch (Nat.mod_lt _ (by omega))
  -- only the last digit of the offset counts
  have hswitch : t.offset % switchCount = t.switch.toUInt32 := by
    have hsmall : t.switch < 16 := Nat.mod_lt _ (by omega)
    apply UInt32.toNat_inj.1
    rw [toNat_toUInt32 (by omega), UInt32.toNat_mod]
    rfl
  unfold switched
  dsimp only
  rw [hswitch, hodd, hbank, hreads]
  rfl

/-- At power-on nothing has been touched. -/
theorem followsTouches_powerOn : FollowsTouches [] powerOn where
  writeEnabled := by simp [powerOn]
  prewrite := by simp [powerOn]
  bank2 := rfl
  readRam := rfl

/-- A pair is there after one more access if it was there before, or if the access completes one. -/
theorem hasArmingPair_cons {t : Touch} {touches : List Touch} :
    HasArmingPair (t :: touches) ↔
      (t.isOddRead = true ∧ ∃ first, touches.head? = some first ∧ first.isOddRead = true) ∨
        HasArmingPair touches := by
  unfold HasArmingPair
  constructor
  · rintro ⟨first, second, hinfix, hfirst, hsecond⟩
    -- the pair stands in front, or it stands further back
    rcases List.infix_cons_iff.1 hinfix with hprefix | hinfix
    · obtain ⟨rfl, rest, rfl⟩ := List.cons_prefix_cons.1 hprefix
      exact .inl ⟨hsecond, first, rfl, hfirst⟩
    · exact .inr ⟨first, second, hinfix, hfirst, hsecond⟩
  · rintro (⟨hsecond, first, hhead, hfirst⟩ | ⟨first, second, hinfix, hfirst, hsecond⟩)
    · obtain ⟨rest, rfl⟩ := List.head?_eq_some_iff.1 hhead
      exact ⟨first, t, List.infix_cons_iff.2 (.inl ⟨rest, rfl⟩), hfirst, hsecond⟩
    · exact ⟨first, second, List.infix_cons_iff.2 (.inr hinfix), hfirst, hsecond⟩

/-- The bits stay in step with one more access. -/
theorem FollowsTouches.switched {touches : List Touch} {s : BankState} (h : FollowsTouches touches s)
    (t : Touch) : FollowsTouches (t :: touches) (s.switched t.offset t.write) := by
  rw [switched_eq]
  refine ⟨?_, ?_, rfl, rfl⟩
  · rw [List.forall_mem_cons, List.takeWhile_cons]
    cases hodd : t.isOdd with
    | false => simp [HasArmingPair]
    | true =>
      -- the access before, if it was to an odd switch, is the last one since an even switch
      have hbefore : s.prewrite = true ↔ ∃ first,
          (touches.takeWhile Touch.isOdd).head? = some first ∧ first.isOddRead = true := by
        rw [h.prewrite]
        cases touches with
        | nil => rfl
        | cons first rest =>
          rw [List.takeWhile_cons]
          cases hfirst : first.isOdd <;> simp [Touch.isOddRead, hfirst]
      rw [if_pos rfl, hasArmingPair_cons, ← hbefore, Touch.isOddRead, hodd]
      simp only [Bool.true_and, Bool.or_eq_true, Bool.and_eq_true, true_and, h.writeEnabled]
      rw [or_right_comm, or_assoc]
  · simp

/-- The state after any touches follows their history. -/
theorem followsTouches_afterTouches (touches : List Touch) :
    FollowsTouches touches (afterTouches touches) := by
  induction touches with
  | nil => exact followsTouches_powerOn
  | cons t touches ih => exact ih.switched t

end BankState

/-! ## The memory behind the faces -/

namespace BankedMemory

/-- The memory after a call of one of its faces. -/
def after (m : BankedMemory) : BankDealing → BankedMemory
  | .switches (.read offset _) => m.switch offset false
  | .switches (.write offset _ _) => m.switch offset true
  | .window (.write offset value _) => (m.write offset value).2
  | .window (.poke offset value) => (m.poke offset value).2
  | .switches .reset | .window .reset => m.reset
  | _ => m

/-- The memory over a firmware image after a history of calls, from power-on. -/
def afterDealings (image : Array UInt8) : List BankDealing → BankedMemory
  | [] => .ofRom image
  | d :: past => (afterDealings image past).after d

/-- What is stored does not throw a switch. -/
theorem state_store? {m stored : BankedMemory} {offset : UInt32} {value : UInt8}
    (h : m.store? offset value = some stored) : stored.state = m.state := by
  unfold store? at h
  dsimp only at h
  split_ifs at h <;> cases h <;> rfl

/-- Pokes do not switch. -/
theorem state_poke (m : BankedMemory) (offset : UInt32) (value : UInt8) :
    (m.poke offset value).2.state = m.state := by
  unfold poke
  cases hstore : m.store? offset value with
  | none => rfl
  | some stored => exact state_store? hstore

/-- Writes to the window do not switch. -/
theorem state_write (m : BankedMemory) (offset : UInt32) (value : UInt8) :
    (m.write offset value).2.state = m.state := by
  unfold write
  split_ifs
  · cases hstore : m.store? offset value with
    | none => rfl
    | some stored => exact state_store? hstore
  · rfl

/-- A dealing switches exactly if it is an access to the switches, or a reset. -/
theorem state_after {m : BankedMemory} {past : List BankDealing}
    (h : m.state = .afterTouches (touches past)) (d : BankDealing) :
    (m.after d).state = .afterTouches (touches (d :: past)) := by
  cases d with
  | switches call =>
    cases call with
    -- read or written, a switch is touched; looks and pokes do not touch it
    | read offset access | write offset value access =>
      rw [touches, BankState.afterTouches, ← h]
      rfl
    | reset => rfl
    | _ => exact h
  | window call =>
    cases call with
    | write offset value access => exact (m.state_write offset value).trans h
    | poke offset value => exact (m.state_poke offset value).trans h
    | reset => rfl
    | _ => exact h

/-- After any dealings, the state is that of the touches among them. -/
theorem state_afterDealings (image : Array UInt8) (history : List BankDealing) :
    (afterDealings image history).state = .afterTouches (touches history) := by
  induction history with
  | nil => rfl
  | cons d past ih => exact state_after ih d

end BankedMemory

namespace Board

variable {ω : Type} (δ : Type) [Device δ ω]

omit [Device δ ω] in
theorem banked_setBanked {b : Board ω} {memory : Nat} {m : BankedMemory}
    (h : b.banked[memory]? = some m) (after : BankedMemory) :
    (b.setBanked memory after).banked[memory]? = some after := by
  obtain ⟨hsize, -⟩ := Array.getElem?_eq_some_iff.1 h
  exact Array.getElem?_setIfInBounds_self_of_lt hsize

/-- A call of a face does to a memory on the board what it does to the memory alone. -/
theorem banked_afterDealing {memory : Nat} {b : Board ω} {m : BankedMemory}
    (h : b.banked[memory]? = some m) (d : BankDealing) :
    (b.afterDealing δ memory d).banked[memory]? = some (m.after d) := by
  -- The switches change the memory in place. The window looks it up first, because it has to be there.
  have hmodify : ∀ f : BankedMemory → BankedMemory,
      (b.banked.modify memory f)[memory]? = some (f m) := by
    intro f
    rw [Array.getElem?_modify, if_pos rfl, h]
    rfl
  cases d with
  | switches call =>
    cases call with
    | read offset access => exact hmodify fun m => m.switch offset false
    | write offset value access => exact hmodify fun m => m.switch offset true
    | peek offset | poke offset value => exact h
    | reset => exact hmodify BankedMemory.reset
  | window call =>
    cases call with
    | read offset access =>
      show (readBanked memory offset access b).2.banked[memory]? = some m
      rw [readBanked, h]
      exact h
    | write offset value access =>
      show (writeBanked memory offset value.toUInt32.toUInt8 access b).2.banked[memory]? = _
      rw [UInt8.toUInt8_toUInt32, writeBanked, h]
      exact banked_setBanked h _
    | peek offset => exact h
    | poke offset value =>
      show ((Part.bankWindow memory : Part δ).poke offset value b).2.2.banked[memory]? = _
      rw [Part.poke, h]
      exact banked_setBanked h _
    | reset => exact hmodify BankedMemory.reset

theorem banked_afterDealings (b : Board ω) (image : Array UInt8) (history : List BankDealing) :
    ((b.withMemory image).afterDealings δ b.banked.size history).banked[b.banked.size]? =
      some (.afterDealings image history) := by
  induction history with
  | nil => exact Array.getElem?_push_size
  | cons d past ih => exact banked_afterDealing δ ih d

/-- However the two faces of a banked memory have been used since power-on, each by accesses, looks, pokes
and resets in any order, its switches are as the accesses to switches since then, or since the last
reset, make them. -/
theorem followsTouches_afterDealings (b : Board ω) (image : Array UInt8) (history : List BankDealing) :
    ∃ m, ((b.withMemory image).afterDealings δ b.banked.size history).banked[b.banked.size]? = some m ∧
      m.state.FollowsTouches (touches history) := by
  refine ⟨_, banked_afterDealings δ b image history, ?_⟩
  rw [BankedMemory.state_afterDealings]
  exact BankState.followsTouches_afterTouches _

/-- A write between two reads breaks the row. -/
example : (BankState.afterTouches [⟨3, false⟩, ⟨3, true⟩, ⟨3, false⟩, ⟨0, false⟩]).writeEnabled = false := by
  decide

end Board

end Motherboard
