import Motherboard.Access

/-!
# Page permissions

What the accesses to a page may do. Execution is a policy of its own, checked apart from the
direction of an access.
-/

namespace Motherboard

/-- Permissions of one page. -/
structure Permissions where
  /-- The page may be read. -/
  read : Bool
  /-- The page may be written. -/
  write : Bool
  /-- Instructions may be fetched from the page. -/
  execute : Bool
  deriving DecidableEq

namespace Permissions

/-- Readable and writable data. -/
def readWrite : Permissions := ⟨true, true, false⟩

/-- Readable, executable code. -/
def readExecute : Permissions := ⟨true, false, true⟩

/-- Everything is allowed. -/
def full : Permissions := ⟨true, true, true⟩

/-- The permissions whose bits are set: 1 read, 2 write, 4 execute. -/
def ofBits (bits : UInt8) : Permissions where
  read := bits &&& 1 != 0
  write := bits &&& 2 != 0
  execute := bits &&& 4 != 0

/-- One bit per permission. -/
def bits (p : Permissions) : UInt8 :=
  (if p.read then 1 else 0) ||| (if p.write then 2 else 0) ||| (if p.execute then 4 else 0)

/-- Every permission of `q` is granted by `p`. -/
def contains (p q : Permissions) : Bool :=
  (!q.read || p.read) && (!q.write || p.write) && (!q.execute || p.execute)

/-- The permissions granted by either. -/
def union (p q : Permissions) : Permissions where
  read := p.read || q.read
  write := p.write || q.write
  execute := p.execute || q.execute

/-- The direction of the intent is granted. -/
def allows (p : Permissions) (intent : Intent) : Bool :=
  if intent.isWrite then p.write else p.read

end Permissions

end Motherboard
