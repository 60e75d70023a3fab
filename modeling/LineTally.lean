import LineTally.Charset.Decode
import LineTally.Charset.Names
import LineTally.Charset.Tables
import LineTally.Charset.Utf8
import LineTally.Charset.WideUnits
import LineTally.CommandLine.Program
import LineTally.Disk.Walk
import LineTally.Json.Reader
import LineTally.Line.Named
import LineTally.Main
import LineTally.Path.Basic
import LineTally.Proofs.Charset.Ignoring
import LineTally.Proofs.Charset.Known
import LineTally.Proofs.Charset.Legible
import LineTally.Proofs.CommandLine.Layers
import LineTally.Proofs.CommandLine.Printed
import LineTally.Proofs.Disk.FileEdits
import LineTally.Proofs.Disk.Writing
import LineTally.Proofs.Json.Grammar
import LineTally.Proofs.Json.Numbers
import LineTally.Proofs.Json.RoundTrip
import LineTally.Proofs.Json.Strings
import LineTally.Proofs.Line.CarriedState
import LineTally.Proofs.Line.Inserted
import LineTally.Proofs.Line.RuleTable
import LineTally.Proofs.Number.Decimal
import LineTally.Proofs.Number.Numeral
import LineTally.Proofs.Number.Rounding
import LineTally.Proofs.Number.Shortest
import LineTally.Proofs.Report.Document
import LineTally.Proofs.Report.Text
import LineTally.Proofs.Run.Abort
import LineTally.Proofs.Run.Again
import LineTally.Proofs.Run.Balance
import LineTally.Proofs.Run.BothReports
import LineTally.Proofs.Run.ByValue
import LineTally.Proofs.Run.CountFiles
import LineTally.Proofs.Run.Damage
import LineTally.Proofs.Run.FailedRun
import LineTally.Proofs.Run.Find
import LineTally.Proofs.Run.Gate
import LineTally.Proofs.Run.IgnoreRules
import LineTally.Proofs.Run.Ignoring
import LineTally.Proofs.Run.Kinds
import LineTally.Proofs.Run.LineEnds
import LineTally.Proofs.Run.Listing
import LineTally.Proofs.Run.LostLinks
import LineTally.Proofs.Run.Parts
import LineTally.Proofs.Run.ReportFolder
import LineTally.Proofs.Run.TextFile
import LineTally.Proofs.Run.Unchecked
import LineTally.Proofs.Settings.Layers
import LineTally.Proofs.Settings.Load
import LineTally.Proofs.Settings.Source
import LineTally.Proofs.Settings.Table
import LineTally.Proofs.Tally.Pieces
import LineTally.Proofs.Tally.Statistics
import LineTally.Proofs.Text.JoinedLines
import LineTally.Proofs.Toml.DistinctKeys
import LineTally.Report.Document
import LineTally.Report.Text
import LineTally.Run.Basic
import LineTally.Run.Journal
import LineTally.Run.Unchecked
import LineTally.Settings.Load
