import LintGate.Main
import LintGate.Rehearsal
import LintGate.Proofs.Snapshot.Course
import LintGate.Proofs.Snapshot.Frames
import LintGate.Proofs.Diff.Compaction
import LintGate.Proofs.Diff.Passes
import LintGate.Proofs.Diff.Hunks
import LintGate.Proofs.Diff.Rows
import LintGate.Proofs.Gate.Introduced
import LintGate.Proofs.Snapshot.Merge
import LintGate.Proofs.Gate.Agreement
import LintGate.Proofs.Snapshot.Confinement
import LintGate.Proofs.Snapshot.Sides
import LintGate.Proofs.Snapshot.Trees
import LintGate.Proofs.Lock.Steps
import LintGate.Proofs.Lock.Contest
import LintGate.Proofs.Lock.Exclusion
import LintGate.Proofs.Gate.Unlinted
import LintGate.Proofs.Gate.Removed
import LintGate.Proofs.Registry.Missing
import LintGate.Proofs.Diff.Patch
import LintGate.Proofs.Gate.Listing
import LintGate.Proofs.Isolation.Lifetime
import LintGate.Proofs.Lock.Acquire
import LintGate.Proofs.Log
import LintGate.Proofs.Repository.MergeRecord
import LintGate.Proofs.Repository.Saving
import LintGate.Proofs.Registry.Arguments
import LintGate.Proofs.Registry.Lookup
import LintGate.Proofs.Pattern.Accepted
import LintGate.Proofs.Gate.Partition
import LintGate.Proofs.Registry.Holes
import LintGate.Proofs.Results
import LintGate.Proofs.Comparison
import LintGate.Proofs.Text.Listing
import LintGate.Proofs.Repository.Entries
import LintGate.Proofs.Repository.Stash
import LintGate.Proofs.Repository.Holding
import LintGate.Proofs.Repository.Shelf
import LintGate.Proofs.Snapshot.SharedStash
