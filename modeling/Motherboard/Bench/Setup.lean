import Motherboard.Bench.Instrument
import Motherboard.Report

/-!
# Setting up and reading off a bench

An I/O page is assembled over a rack and announced in the journal; a backplane can stand alone; what
has been recorded is taken off step by step.
-/

namespace Motherboard.Bench

/-- Attaches parts to an I/O page over a rack of `slots` slots and notes the layout, after a report of
the page if one is asked for. -/
def assemble (softSwitches builtinIo internalRom : Option (Part Instrument)) (report : Bool)
    (slots : UInt8) (page : IoPage Instrument) (host : Host) : IoPage Instrument × Host :=
  let page := { page with
    softSwitches := softSwitches
    builtinIo := builtinIo
    internalRom := internalRom }
  let host := if report then host.note (.text (page.form {}).text) else host
  (page, host.note (.layout page.layout slots))

/-- What was recorded since the last time, and the backplane with its records cleared. -/
def takeRecords (b : Backplane Host TestCard) :
    List TraceEvent × List Entry × Backplane Host TestCard :=
  (b.trace.events.toList, b.host.journal.toList,
    { b with trace := { b.trace with events := #[] }, host := { b.host with journal := #[] } })

/-- A backplane by itself, with empty slots. -/
def bare (slots : UInt8) (trace : Trace) : Backplane Host TestCard where
  floating := .constant 0
  overrides := #[]
  host := {}
  banked := #[]
  rack := .empty slots
  trace := trace

end Motherboard.Bench
