import PathSets.Build.Basic
import PathSets.Log.Channel
import PathSets.Text.Uppercase
import PathSets.Value.Printer

/-!
# The log

A handle names a channel; any number of handles may share one.  At most one handle is the global
one.  Asking for the handle of a name gives the global handle if it has that name, and otherwise
opens a new one, which becomes global.  Opening a handle configures its channel anew, and an
operation that fails changes nothing.

The public name of `Log.openHandle` is `Logger`, that of `Log.acquireNamed` is `get_logger`, that of
`Log.setCurrent` is `set_global_logger` and that of `Log.setLevel` is `set_level`.
-/

namespace PathSets

/-- A handle on a channel. -/
structure Handle where
  /-- What tells handles apart. -/
  tag : Tag
  /-- The name of the channel. -/
  name : String
deriving DecidableEq, Repr, Inhabited

/-- The state of the log. -/
structure Log where
  /-- The configuration of all channels. -/
  channels : Channels
  /-- The names of the channels that were opened, in the order in which they were opened first. -/
  opened : List String
  /-- The global handle, if there is one. -/
  current : Option Handle
  /-- The first tag that no handle has yet. -/
  next : Tag
  /-- The first tag that no console has yet. -/
  nextConsole : Tag

/-- A record as one sink gets it. -/
structure Delivery where
  /-- The sink. -/
  sink : Sink
  /-- The channel that the record was emitted on. -/
  channel : String
  /-- The text of the record. -/
  text : String
  /-- What the record was emitted with, as plain text. -/
  context : List (String × String)
deriving DecidableEq, Repr, Inhabited

/-- The channel of the library's own records. -/
def libraryChannel : String := "fileglob"

/-- The integer that a value sets a level to: a text has to name a level in any case. -/
def readLevel (value : Value) : Except Fault Int :=
  match value.text? with
  | some name =>
      match Level.ofName? (uppercase name) with
      | some level => .ok level.rank
      | none => .error (.levelUnknown (uppercase name))
  | none =>
      match value.integer? with
      | some rank => .ok rank
      | none => .error (.levelNotInteger value.shown)

/-- The sinks of a list, each at its first place only. -/
def distinctSinks (sinks : List Sink) : List Sink :=
  sinks.foldl (fun kept sink => if sink ∈ kept then kept else kept ++ [sink]) []

/-- The first tag from `first` on that none of these sinks has. -/
def freshConsole (first : Tag) (sinks : List Sink) : Tag :=
  sinks.foldl (fun free sink =>
    match sink with
    | .console tag => max free (tag + 1)
    | .named _ => free) first

/-- The line that a console shows for a record. -/
def consoleLine (channel text : String) : String :=
  "TIME - " ++ channel ++ " - " ++ Level.debug.name ++ " - " ++ text ++ "\n"

/-- The keys that no context has, since a record uses them itself: for where it is emitted, and for
its message. -/
def reservedKeys : List String := ["self", "msg"]

/-- The first key of a context that is reserved. -/
def reservedKey? (context : List (String × String)) : Option String :=
  (context.map Prod.fst).find? (· ∈ reservedKeys)

/-- The text of a record: the message, and what it was emitted with. -/
def recordText (message : String) (context : List (String × String)) : String :=
  if context.isEmpty then message
  else message ++ " | " ++ " ".intercalate (context.map fun entry => entry.1 ++ "=" ++ entry.2)

namespace Log

/-- The log before anything was configured. -/
def initial : Log where
  channels := fun _ => .untouched
  opened := []
  current := none
  next := 0
  nextConsole := 0

instance : Inhabited Log := ⟨initial⟩

/-- Configure a channel and open a handle on it.  Without sinks the records go to a new console.
The sinks are those of the list when it was handed over: that a caller may hand over the very list
that the channel keeps its sinks in, which is emptied before it is read, is left out. -/
def openAt (log : Log) (name : String) (rank : Int) (sinks : Option (List Sink)) : Handle × Log :=
  let given := sinks.getD [.console log.nextConsole]
  let channel : Channel := { level := rank, sinks := distinctSinks given, propagates := false }
  (⟨log.next, name⟩,
    { log with
      channels := log.channels.set name channel
      opened := if name ∈ log.opened then log.opened else log.opened ++ [name]
      next := log.next + 1
      nextConsole := freshConsole log.nextConsole given })

/-- Open a handle on the channel that a value names, at the level that a value gives. -/
def openHandle (log : Log) (name level : Value) (sinks : Option (List Sink)) :
    Except Fault (Handle × Log) :=
  match name.text? with
  | some name => (readLevel level).map fun rank => log.openAt name rank sinks
  | none => .error .nameNotText

/-- Set the level of the channel of a handle. -/
def setLevel (log : Log) (handle : Handle) (level : Value) : Except Fault Log :=
  (readLevel level).map fun rank =>
    let channel := { log.channels handle.name with level := rank }
    { log with channels := log.channels.set handle.name channel }

/-- Make a handle the global one, or have none. -/
def setCurrent (log : Log) (handle : Option Handle) : Log :=
  { log with current := handle }

/-- Open a handle at the level of warnings, with its records on a new console, and make it
global. -/
def renew (log : Log) (name : String) : Handle × Log :=
  let (handle, log) := log.openAt name Level.warning.rank none
  (handle, log.setCurrent (some handle))

/-- The global handle of a name: the present one if it has the name, else a new one. -/
def acquire (log : Log) (name : String) : Handle × Log :=
  match log.current with
  | some handle => if handle.name = name then (handle, log) else log.renew name
  | none => log.renew name

/-- The global handle of the name that a value gives. -/
def acquireNamed (log : Log) (name : Value) : Except Fault (Handle × Log) :=
  match name.text? with
  | some name => .ok (log.acquire name)
  | none => .error .nameNotText

/-- The level that decides which records of a channel pass. -/
def effectiveLevel (log : Log) (name : String) : Int :=
  log.channels.levelAlong (lineage log.opened name)

/-- The sinks that get the records of a channel, in order. -/
def recipients (log : Log) (name : String) : List Sink :=
  log.channels.sinksAlong (lineage log.opened name)

/-- Whether debugging records of a channel pass. -/
def isEnabled (log : Log) (name : String) : Bool :=
  log.effectiveLevel name ≤ Level.debug.rank

/-- What is delivered when a debugging record is emitted on a channel: one delivery for each sink
that gets the records of the channel. -/
def deliveries (log : Log) (name message : String) (context : List (String × String)) :
    List Delivery :=
  if log.isEnabled name then
    (log.recipients name).map fun sink =>
      { sink, channel := name, text := recordText message context, context }
  else []

end Log
end PathSets
