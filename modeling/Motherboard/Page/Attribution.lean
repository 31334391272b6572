/-!
# Who answers for a page

Each page of the address space is credited to a device and tagged with the kind of region it
holds. Faults carry both.
-/

namespace Motherboard

/-- Stable number of a device, for faults and control lines. -/
structure DeviceId where
  /-- The number. -/
  number : UInt16
  deriving DecidableEq

/-- What a page holds. -/
inductive Region where
  /-- Main memory. -/
  | ram
  /-- Firmware. -/
  | rom
  /-- The I/O page or another block of registers. -/
  | io
  /-- Bank-switched memory. -/
  | expansion
  /-- A kind that the machine defines itself. -/
  | custom (tag : UInt16)
  deriving DecidableEq

end Motherboard
