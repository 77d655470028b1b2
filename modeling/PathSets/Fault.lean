import PathSets.Kind
import PathSets.Text.Printable
import PathSets.Text.Quoted

/-!
# Faults

Everything that can go wrong when sets are built, paths are decided or the log is configured, as
causes.  `Fault.message` words them and `Fault.category` sorts them.
-/

namespace PathSets

/-- Quote a text for a reader. -/
def quoted (text : String) : String :=
  String.ofList (Quoted.encode isPrintable text.toList)

/-- Why an operation failed. -/
inductive Fault where
  /-- A glob was to be made from something other than a text. -/
  | globNotText (kind : Kind)
  /-- The member at an index of a sequence of globs is no text. -/
  | memberNotText (index : Nat) (kind : Kind)
  /-- A set was to be made from something that is no text, no sequence and no set. -/
  | notSetLike (kind : Kind)
  /-- A path consists of bytes. -/
  | pathBinary
  /-- A path is no text at all. -/
  | pathNotText (kind : Kind)
  /-- The members of something without members were asked for. -/
  | notIterable (kind : Kind)
  /-- The fingerprint of something that can be changed was asked for. -/
  | unhashable (kind : Kind)
  /-- Something that is no set was to be used as one, by the operation of a name. -/
  | operationMissing (kind : Kind) (operation : String)
  /-- A union has no member at an index. -/
  | memberMissing
  /-- Something that is no set was asked what is in it. -/
  | notContainer (kind : Kind)
  /-- No level has this name, given in upper case. -/
  | levelUnknown (name : String)
  /-- A level is neither a text nor an integer; the fault keeps how it is shown. -/
  | levelNotInteger (shown : String)
  /-- The name of a channel is no text. -/
  | nameNotText
  /-- A record was to have context under a key that it uses itself. -/
  | keyReserved (key : String)
  /-- No value has this name. -/
  | unbound (name : String)
deriving DecidableEq, Repr, Inhabited

/-- The sorts of faults that callers tell apart. -/
inductive FaultCategory where
  /-- A factory was handed a value of the wrong shape. -/
  | invalidInput
  /-- An operation met a value of a kind that it does not work on. -/
  | wrongKind
  /-- A value does not have the operation that was asked for. -/
  | unsupported
  /-- An index is not that of a member. -/
  | outOfRange
  /-- A name stands for nothing. -/
  | unknownName
deriving DecidableEq, Repr, Inhabited

/-- The number of a category, where it has one. -/
def FaultCategory.code? : FaultCategory → Option Nat
  | .invalidInput => some 1
  | .wrongKind | .unsupported | .outOfRange | .unknownName => none

namespace Fault

/-- The sort of a fault. -/
def category : Fault → FaultCategory
  | .globNotText _ | .memberNotText _ _ | .notSetLike _ => .invalidInput
  | .pathBinary | .pathNotText _ | .notIterable _ | .unhashable _ | .notContainer _
  | .levelNotInteger _ | .nameNotText | .keyReserved _ => .wrongKind
  | .operationMissing _ _ => .unsupported
  | .memberMissing => .outOfRange
  | .levelUnknown _ | .unbound _ => .unknownName

/-- The wording of a fault. -/
def message : Fault → String
  | .globNotText kind => "Glob pattern must be string, got " ++ kind.label
  | .memberNotText index kind =>
      "Invalid glob pattern at index " ++ Nat.repr index ++ ": Glob pattern must be string, got "
        ++ kind.label
  | .notSetLike kind => "Expected a glob, a list of globs, or a set, got " ++ kind.label
  | .pathBinary => "cannot use a string pattern on a bytes-like object"
  | .pathNotText kind => "expected string or bytes-like object, got '" ++ kind.fullLabel ++ "'"
  | .notIterable kind => "'" ++ kind.fullLabel ++ "' object is not iterable"
  | .unhashable kind => "unhashable type: '" ++ kind.fullLabel ++ "'"
  | .operationMissing kind operation =>
      "'" ++ kind.fullLabel ++ "' object has no attribute '" ++ operation ++ "'"
  | .memberMissing => "tuple index out of range"
  | .notContainer kind => "argument of type '" ++ kind.fullLabel ++ "' is not iterable"
  | .levelUnknown name => quoted name
  | .levelNotInteger shown => "Level not an integer or a valid string: " ++ shown
  | .nameNotText => "A logger name must be a string"
  | .keyReserved key =>
      "Logger.debug() got multiple values for argument '" ++ key ++ "'"
  | .unbound name => quoted name

end Fault
end PathSets
