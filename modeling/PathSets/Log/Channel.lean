/-!
# Channels

Records are emitted on named channels.  A channel has a level, below which records are dropped,
and a list of sinks.  A dot in a name puts a channel below another one that was opened: a channel
whose own level is zero takes the level of the channel above it, and a channel that propagates also
hands its records to the sinks above it.

The top of all channels has no configuration here, and nothing is emitted on it.  Sinks have no
levels of their own: whatever passes the level of a channel gets to its sinks.
-/

namespace PathSets

/-- Where records go. -/
inductive Sink where
  /-- A console that the library made, which gets records as lines. -/
  | console (tag : Nat)
  /-- A sink that a caller gave, known by a name. -/
  | named (name : String)
deriving DecidableEq, Repr, Inhabited

/-- The configuration of one channel. -/
structure Channel where
  /-- The least rank of the records that pass; zero leaves the choice to the channel above. -/
  level : Int
  /-- The sinks, in order. -/
  sinks : List Sink
  /-- Whether records also go to the sinks of the channel above. -/
  propagates : Bool
deriving DecidableEq, Repr, Inhabited

/-- A channel that nobody has configured. -/
def Channel.untouched : Channel where
  level := 0
  sinks := []
  propagates := true

/-- All channels by their names. -/
abbrev Channels := String → Channel

/-- The rank that decides where no channel sets a level. -/
def rootLevel : Int := 30

/-- The name that the top of all channels goes by. -/
def rootName : String := "root"

/-- Whether a channel is the one above another, whose name goes on behind a dot: it was opened, and
if the name of the top starts with its name, it was opened before the other one.  `opened` are the
names of the channels that were opened, in the order in which they were opened first. -/
def isAbove (opened : List String) (name above : String) : Bool :=
  opened.contains above && above != rootName &&
    (!above.toList.isPrefixOf rootName.toList || opened.idxOf above < opened.idxOf name)

/-- The names of the channels above that of a name, from it upwards.  Its characters are read from
the last one on, so at each dot the rest is the name of a channel that may be above; if it is not,
the character in front of the dot is skipped, also if it is a dot. -/
def ancestors (opened : List String) (name : String) (skip : Bool) : List Char → List String
  | [] => []
  | char :: rest =>
      if !skip && char == '.' && !rest.isEmpty then
        let above := String.ofList rest.reverse
        if isAbove opened name above then above :: ancestors opened above false rest
        else ancestors opened name true rest
      else ancestors opened name false rest

/-- The names of a channel and of the channels above it, from the channel upwards. -/
def lineage (opened : List String) (name : String) : List String :=
  name :: ancestors opened name false name.toList.reverse

namespace Channels

/-- The channels with one of them configured anew. -/
def set (channels : Channels) (name : String) (channel : Channel) : Channels := fun other =>
  if other = name then channel else channels other

@[simp] theorem set_self (channels : Channels) (name : String) (channel : Channel) :
    channels.set name channel name = channel := by
  simp [set]

theorem set_of_ne (channels : Channels) {name other : String} (channel : Channel)
    (different : other ≠ name) : channels.set name channel other = channels other := by
  simp [set, different]

/-- The first level that is not zero on the way up, or the root's. -/
def levelAlong (channels : Channels) : List String → Int
  | [] => rootLevel
  | name :: above =>
      if (channels name).level ≠ 0 then (channels name).level else levelAlong channels above

/-- The sinks on the way up, as far as records propagate. -/
def sinksAlong (channels : Channels) : List String → List Sink
  | [] => []
  | name :: above =>
      (channels name).sinks ++ if (channels name).propagates then sinksAlong channels above else []

end Channels
end PathSets
