import VrfPresence.FileSystem.Basic

/-!
# Scripted answers

A file system that gives any answers at all, crashes among them, and records what it was
asked. The record survives a crash.
-/

namespace VrfPresence.FileSystem

inductive Call
  | pathExists (path : String)
  | readText (path : String)
  deriving DecidableEq, Repr

/-- An answer, a failure, or the end of the task that asks. -/
inductive Reply (α : Type)
  | answer (value : α)
  | failure (error : AccessError)
  | crash (reason : Crash)
  deriving DecidableEq, Repr

structure Script where
  pathExists : String → Reply Bool
  readText : String → Reply String

/-- Computations that record their questions, the first in front, and may crash. -/
abbrev Recorded := ExceptT Crash (StateM (List Call))

def Reply.give {α : Type} (call : Call) (reply : Reply α) : Recorded (Except AccessError α) := do
  modify (· ++ [call])
  match reply with
  | .answer value => return .ok value
  | .failure error => return .error error
  | .crash reason => throw reason

def Script.reader (script : Script) : Reader Recorded where
  pathExists path := (script.pathExists path).give (.pathExists path)
  readText path := (script.readText path).give (.readText path)

end VrfPresence.FileSystem
