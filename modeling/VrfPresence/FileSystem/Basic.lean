/-!
# Reading a file system (`kmod::fs`)

Two questions are ever asked of a file system: does a path exist, and what does a text file
hold (SPEC_FULL.md 4.2, lines 121-128). A `Reader` answers them in a monad of its own, so that
one probe runs on stored answers, on a simulated tree, on a trace of its calls and on a real
machine.
-/

namespace VrfPresence.FileSystem

/-- The kind of a failed access. A kind without a constructor of its own is kept by its name. -/
inductive FailureKind
  | notFound
  | permissionDenied
  | other
  | invalidData
  | invalidInput
  | interrupted
  | timedOut
  | unexpectedEnd
  | wouldBlock
  | isADirectory
  | notADirectory
  | invalidFilename
  | linkLoop
  | unlisted (name : String)
  deriving DecidableEq, Repr

structure AccessError where
  kind : FailureKind
  message : String
  deriving DecidableEq, Repr

/-- A task that ended without an answer. -/
structure Crash where
  message : String
  deriving DecidableEq, Repr

/-- The answers of a file system (`KernelFs`: `try_exists` and `read_to_string`). An existence
question fails only where presence could not be determined; absence is the answer `false`. -/
structure Reader (m : Type → Type) where
  pathExists : String → m (Except AccessError Bool)
  readText : String → m (Except AccessError String)

/-- The same answers, given in a larger monad. -/
def Reader.lift {m n : Type → Type} [MonadLiftT m n] (reader : Reader m) : Reader n where
  pathExists path := liftM (reader.pathExists path)
  readText path := liftM (reader.readText path)

end VrfPresence.FileSystem
