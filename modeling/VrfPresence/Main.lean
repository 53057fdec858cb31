import VrfPresence.FileSystem.Tree
import VrfPresence.Run

/-!
# The program (`vrfcheck`)

The outermost layer: the file system of the machine as a reader (`HostFs`, SPEC_FULL.md 4.2,
line 130), the log filter from the environment, and the report of a run on the standard streams.

A name behind the title of a module, in this library, is the unit of the program that it describes
(SPEC_FULL.md 2, lines 39-47).
-/

namespace VrfPresence.Machine

open FileSystem

/-- The error number in a code; some codes are the negated number. -/
def errorNumber (code : UInt32) : Nat :=
  if code.toNat < 0x80000000 then code.toNat else (0 - code).toNat

def failureKind (number : Nat) : FailureKind :=
  match number with
  | 1 => .permissionDenied
  | 2 => .notFound
  | 4 => .interrupted
  | 11 => .wouldBlock
  | 13 => .permissionDenied
  | 20 => .notADirectory
  | 21 => .isADirectory
  | 22 => .invalidInput
  | 36 => .invalidFilename
  | 40 => .linkLoop
  | 110 => .timedOut
  | _ => .unlisted ("os error " ++ toString number)

def failure (code : UInt32) (details : String) : AccessError :=
  ⟨failureKind (errorNumber code),
    details ++ " (os error " ++ toString (errorNumber code) ++ ")"⟩

def accessError : IO.Error → AccessError
  | .alreadyExists _ code details => failure code details
  | .otherError code details => failure code details
  | .resourceBusy code details => failure code details
  | .resourceVanished code details => failure code details
  | .unsupportedOperation code details => failure code details
  | .hardwareFault code details => failure code details
  | .unsatisfiedConstraints code details => failure code details
  | .illegalOperation code details => failure code details
  | .protocolError code details => failure code details
  | .timeExpired code details => failure code details
  | .interrupted _ code details => failure code details
  | .noFileOrDirectory _ code details => failure code details
  | .invalidArgument _ code details => failure code details
  | .permissionDenied _ code details => failure code details
  | .resourceExhausted _ code details => failure code details
  | .inappropriateType _ code details => failure code details
  | .noSuchThing _ code details => failure code details
  | .unexpectedEof => ⟨.unexpectedEnd, "unexpected end of file"⟩
  | .userError details => ⟨.other, details⟩

def attempt {α : Type} (path : String) (action : IO α) : IO (Except AccessError α) := do
  if '\x00' ∈ path.toList then return .error nullInPath
  match ← action.toBaseIO with
  | .ok value => return .ok value
  | .error e => return .error (accessError e)

def reader : Reader IO where
  pathExists path := do
    match ← attempt path (System.mkFilePath [path]).metadata with
    | .ok _ => return .ok true
    | .error e => return if e.kind = .notFound then .ok false else .error e
  readText path := do
    match ← attempt path (do (← IO.FS.Handle.mk path .read).readBinToEnd) with
    | .ok bytes =>
      match String.fromUTF8? bytes with
      | some text => return .ok text
      | none => return .error notText
    | .error e => return .error e

end VrfPresence.Machine

def main (arguments : List String) : IO UInt32 := do
  let filter := VrfPresence.Log.Filter.ofSetting (← IO.getEnv "RUST_LOG")
  let report ← VrfPresence.run VrfPresence.Machine.reader filter arguments
  IO.print report.stdout
  for line in report.stderr do
    IO.eprintln line
  return report.code.toUInt32
