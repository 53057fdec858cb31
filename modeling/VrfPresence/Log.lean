import VrfPresence.Text.Blank

/-!
# The log (`vrfcheck`)

Records have a level and a message; a filter lets those pass whose level is severe enough for
the target that logs them (SPEC_FULL.md 10.1). A record is written on one line, and further
lines of its message are indented below it. Two things are left out of the texts that filters
are read from: the pattern for messages that may stand behind a slash, and the warnings about
directives that are not understood.
-/

namespace VrfPresence.Log

/-- How severe a record is, the most severe first. -/
inductive Level
  | error
  | warn
  | info
  | debug
  | trace
  deriving DecidableEq, Repr

structure Record where
  level : Level
  message : String
  deriving DecidableEq, Repr

/-- The target that the program logs under. -/
def target : String := "vrfcheck"

/-! ### Levels -/

def Level.all : List Level := [.error, .warn, .info, .debug, .trace]

/-- The place of a level, from the most severe on. -/
def Level.rank : Level → Nat
  | .error => 1
  | .warn => 2
  | .info => 3
  | .debug => 4
  | .trace => 5

def Level.title : Level → String
  | .error => "ERROR"
  | .warn => "WARN"
  | .info => "INFO"
  | .debug => "DEBUG"
  | .trace => "TRACE"

/-! ### Filters -/

/-- How far down levels pass; at zero none does. -/
abbrev Threshold := Nat

/-- The threshold of a name, in either case. -/
def Threshold.ofName? (name : List Char) : Option Threshold :=
  let upper := String.ofList (name.map Char.toUpper)
  if upper = "OFF" then some 0 else (Level.all.find? (·.title == upper)).map (·.rank)

/-- A threshold for the targets that start with a text. -/
structure Directive where
  target : List Char
  threshold : Threshold
  deriving DecidableEq, Repr

structure Filter where
  directives : List Directive
  deriving DecidableEq, Repr

/-- A directive: a threshold for all targets, a target of which all passes, or a target and
its threshold. -/
def Directive.ofText? (text : List Char) : Option Directive :=
  match Text.splitWhere (· == '=') text with
  | [part] =>
    match Threshold.ofName? part with
    | some threshold => some ⟨[], threshold⟩
    | none => some ⟨part, Level.trace.rank⟩
  | [part, name] =>
    if Text.trim name = [] then some ⟨part, Level.trace.rank⟩
    else (Threshold.ofName? (Text.trim name)).map (⟨part, ·⟩)
  | _ => none

/-- The filter of a text, directives with commas between them; where it has none, errors
pass. A slash has no meaning of its own here, and a directive that is not understood is dropped
without a warning. -/
def Filter.ofText (text : String) : Filter :=
  let parts := ((Text.splitWhere (· == ',') text.toList).map Text.trim).filter (· ≠ [])
  match parts.filterMap Directive.ofText? with
  | [] => ⟨[⟨[], Level.error.rank⟩]⟩
  | directives => ⟨directives⟩

/-- The filter where none is chosen. -/
def Filter.standard : Filter := ⟨[⟨[], Level.info.rank⟩]⟩

def Filter.ofSetting (setting : Option String) : Filter :=
  match setting with
  | some text => .ofText text
  | none => .standard

/-- The threshold for a target: that of the directive with the longest fitting text, of two
such the later. -/
def Filter.threshold (filter : Filter) (target : List Char) : Threshold :=
  let fitting := filter.directives.filter (·.target.isPrefixOf target)
  let longest := fitting.foldl (fun length directive => max length directive.target.length) 0
  ((fitting.filter (·.target.length == longest)).getLast?.map (·.threshold)).getD 0

def Filter.admits (filter : Filter) (record : Record) : Bool :=
  record.level.rank ≤ filter.threshold target.toList

/-! ### Writing -/

/-- What stands in front of a message: the level, filled up to five characters, and the
target. -/
def Level.mark (level : Level) : String :=
  let padding := String.ofList (List.replicate (5 - level.title.length) ' ')
  "[" ++ level.title ++ padding ++ " " ++ target ++ "] "

def Record.lines (record : Record) : List String :=
  Text.hanging record.level.mark "    " record.message

def write (filter : Filter) (records : List Record) : List String :=
  (records.filter filter.admits).flatMap Record.lines

end VrfPresence.Log
