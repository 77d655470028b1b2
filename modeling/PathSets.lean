import PathSets.About
import PathSets.Build.Trace
import PathSets.Glob.Segments
import PathSets.Glob.Source
import PathSets.PathSet.Membership
import PathSets.Proofs.Build.Collecting
import PathSets.Proofs.Build.Combining
import PathSets.Proofs.Build.Making
import PathSets.Proofs.Build.Normalizing
import PathSets.Proofs.Build.Sifting
import PathSets.Proofs.Glob.Collapsing
import PathSets.Proofs.Glob.Renaming
import PathSets.Proofs.Glob.Samples
import PathSets.Proofs.Glob.Subtrees
import PathSets.Proofs.Glob.Widening
import PathSets.Proofs.PathSet.Algebra
import PathSets.Proofs.PathSet.Reading
import PathSets.Proofs.Session.Acquiring
import PathSets.Proofs.Session.Emissions
import PathSets.Proofs.Session.Gathering
import PathSets.Proofs.Session.Independence
import PathSets.Proofs.Session.Iterators
import PathSets.Proofs.Session.Refusals
import PathSets.Value.Sets
import PathSets.Proofs.Session.Transcripts
import PathSets.Proofs.Session.Records
