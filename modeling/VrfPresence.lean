import VrfPresence.CommandLine
import VrfPresence.Decimal.Binary64
import VrfPresence.Decimal.Shortest
import VrfPresence.FileSystem.Basic
import VrfPresence.FileSystem.MemoryStore
import VrfPresence.FileSystem.Script
import VrfPresence.FileSystem.Tree
import VrfPresence.Log
import VrfPresence.Main
import VrfPresence.Path
import VrfPresence.Policy
import VrfPresence.Probe
import VrfPresence.Proofs.CommandLine.Given
import VrfPresence.Proofs.CommandLine.Lines
import VrfPresence.Proofs.CommandLine.Written
import VrfPresence.Proofs.FileSystem.Asking
import VrfPresence.Proofs.FileSystem.CleanPath
import VrfPresence.Proofs.FileSystem.Coherence
import VrfPresence.Proofs.FileSystem.History
import VrfPresence.Proofs.FileSystem.Listing
import VrfPresence.Proofs.FileSystem.PlainChanges
import VrfPresence.Proofs.FileSystem.PlainTree
import VrfPresence.Proofs.Path.Joined
import VrfPresence.Proofs.Policy.Unknown
import VrfPresence.Proofs.Probe.Marker
import VrfPresence.Proofs.Probe.Respelled
import VrfPresence.Proofs.Probe.Scripted
import VrfPresence.Proofs.Probe.StandIn
import VrfPresence.Proofs.Registry.BlankLines
import VrfPresence.Proofs.Registry.Canonical
import VrfPresence.Proofs.Registry.Columns
import VrfPresence.Proofs.Registry.Concatenation
import VrfPresence.Proofs.Registry.Grammar
import VrfPresence.Proofs.Registry.Line
import VrfPresence.Proofs.Registry.Presence
import VrfPresence.Proofs.Registry.RoundTrip
import VrfPresence.Proofs.Registry.Search
import VrfPresence.Proofs.Run.Channels
import VrfPresence.Proofs.Run.EntryRecord
import VrfPresence.Proofs.Run.ExitCode
import VrfPresence.Proofs.Run.OnReader
import VrfPresence.Proofs.Run.ProbedPaths
import VrfPresence.Proofs.Run.Spellings
import VrfPresence.Proofs.Run.Verbosity
import VrfPresence.Proofs.Settings.Assignments
import VrfPresence.Proofs.Settings.FlatDocument
import VrfPresence.Proofs.Text.Digits
import VrfPresence.Proofs.Text.Numerals
import VrfPresence.Proofs.Text.Pieces
import VrfPresence.Proofs.Text.Quoting
import VrfPresence.Proofs.Text.Runs
import VrfPresence.Proofs.Toml.FlatDocument
import VrfPresence.Proofs.Toml.FlatReading
import VrfPresence.Proofs.Toml.Lexing
import VrfPresence.Proofs.Toml.Reading
import VrfPresence.Proofs.Toml.Spelling
import VrfPresence.Registry.Entry
import VrfPresence.Registry.Scan
import VrfPresence.Run
import VrfPresence.Settings
import VrfPresence.Text.Blank
import VrfPresence.Text.Invisible
import VrfPresence.Text.Numeral
import VrfPresence.Text.Quoted
import VrfPresence.Text.Split
import VrfPresence.Text.Terminal
import VrfPresence.Toml.Document
import VrfPresence.Toml.Fault
import VrfPresence.Toml.Grammar
import VrfPresence.Toml.Number
import VrfPresence.Toml.QuotedString
import VrfPresence.Toml.Reading
import VrfPresence.Toml.Source
import VrfPresence.Toml.Survey
import VrfPresence.Toml.Token
import VrfPresence.Toml.Tokens
import VrfPresence.Toml.Value
