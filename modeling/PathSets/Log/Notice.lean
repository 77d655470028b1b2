import PathSets.Log.Basic

/-!
# Notices as records

What builds announce goes to the library's own channel, through the global handle of its name.  So
the log is an audience of builds: when it hears a notice it makes sure of that handle at once, and
perhaps configures the channel anew, before anything else is built.
-/

namespace PathSets

namespace Notice

/-- The message of a notice. -/
def message : Notice → String
  | .compiled _ => "Compiled glob"
  | .gathering _ => "Building glob set"

/-- What a notice is emitted with. -/
def context : Notice → List (String × String)
  | .compiled glob => [("glob", glob.source), ("regex", glob.regexText)]
  | .gathering members => [("globs", Value.shownAll members)]

end Notice

namespace Log

/-- Emit the record of a notice.  Its context is made up only if the record passes. -/
def announce (log : Log) (notice : Notice) : List Delivery × Log :=
  let (handle, log) := log.acquire libraryChannel
  if log.isEnabled handle.name then
    (log.deliveries handle.name notice.message notice.context, log)
  else ([], log)

/-- Emit the records of notices, in order. -/
def announceAll (log : Log) : List Notice → List Delivery × Log
  | [] => ([], log)
  | notice :: rest =>
      let (first, log) := log.announce notice
      let (others, log) := log.announceAll rest
      (first ++ others, log)

end Log

/-- The audience that emits what it hears. -/
abbrev Audience.log : Audience where
  State := Log
  Output := Delivery
  hear := Log.announce

end PathSets
