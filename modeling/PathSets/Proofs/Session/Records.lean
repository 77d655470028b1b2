import PathSets.Proofs.Session.Configuration

/-!
# The records of a session

There are two kinds of records of the library: that of a glob, with its source and its regular
expression, and that of a set to be, with its members.  What an expression delivers is read off its
trace: the records of all its notices, or nothing.
-/

namespace PathSets
namespace Notice

end Notice

namespace Session

end Session
end PathSets
