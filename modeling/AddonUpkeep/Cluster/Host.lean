import AddonUpkeep.Fault.Basic
import AddonUpkeep.Json.Printer
import AddonUpkeep.Log

/-!
# Hosts

A host keeps the entries of a log from a level on, and has room for so many nested calls.  A
document is written with one call inside the other for every level of its nesting, and copied with
two.  So a document that was read may be nested too deeply to be copied, and one that holds an
integer of more digits than are written cannot be written at all.
-/

namespace AddonUpkeep

open AddonUpkeep.Number

/-- A call that has no room. -/
def Fault.noRoom : Fault := .tooDeep " while calling a Python object"

namespace Json

mutual

/-- The calls that are nested when a document is copied. -/
def copyCalls : Json → Nat
  | arr items => 2 + max 1 (itemsCopyCalls items)
  | obj fields => 2 + max 1 (fieldsCopyCalls fields)
  | _ => 2

/-- The calls that are nested when one of some items is copied. -/
def itemsCopyCalls : List Json → Nat
  | [] => 0
  | item :: items => max (copyCalls item) (itemsCopyCalls items)

/-- The calls that are nested when one of some fields is copied. -/
def fieldsCopyCalls : List (String × Json) → Nat
  | [] => 0
  | (_, value) :: fields => max (copyCalls value) (fieldsCopyCalls fields)

end

mutual

/-- The first thing that keeps a document from being written with room for nested calls. -/
def writeFault? (room : Nat) : Json → Option Fault
  | int value =>
    if room = 0 then some .noRoom else if isShort value then none else some (.value .longText)
  | arr items => if room = 0 then some .noRoom else itemsWriteFault? (room - 1) items
  | obj fields => if room = 0 then some .noRoom else fieldsWriteFault? (room - 1) fields
  | _ => if room = 0 then some .noRoom else none

/-- The first thing that keeps items from being written. -/
def itemsWriteFault? (room : Nat) : List Json → Option Fault
  | [] => none
  | item :: items => (writeFault? room item).or (itemsWriteFault? room items)

/-- The first thing that keeps fields from being written. -/
def fieldsWriteFault? (room : Nat) : List (String × Json) → Option Fault
  | [] => none
  | (_, value) :: fields => (writeFault? room value).or (fieldsWriteFault? room fields)

end

end Json

/-- What an operation on a cluster works with: the level from which on its log keeps entries, and
the number of calls that can be nested below it. -/
structure Host where
  level : LogLevel := .info
  room : Nat := 990
  room_ge : 64 ≤ room := by decide

namespace Host

/-- The host of whoever is not told another. -/
def usual : Host := {}

/-- The calls between an operation and the writing of a document for its log. -/
def noteCalls : Nat := 4

/-- The calls between an operation and the writing of a document to a file. -/
def sendCalls : Nat := 2

/-- What keeps a document from being copied, with some calls in between. -/
def copyFault? (host : Host) (between : Nat) (document : Json) : Option Fault :=
  if document.copyCalls + between ≤ host.room then none else some Fault.noRoom

/-- What keeps a document from being written for the log, where it has its field names sorted.  It
is not written unless the log keeps all entries. -/
def noteFault? (host : Host) (document : Json) : Option Fault :=
  if host.level = .debug then document.sorted.writeFault? (host.room - noteCalls) else none

/-- What keeps a document from being written to a file. -/
def sendFault? (host : Host) (document : Json) : Option Fault :=
  document.writeFault? (host.room - sendCalls)

end Host

end AddonUpkeep
