import FileSearch.File.Tree
import FileSearch.File.Handle
import FileSearch.Main
import FileSearch.Proofs.Output.Turn
import FileSearch.Proofs.Output.Order
import FileSearch.Proofs.Log
import FileSearch.Proofs.Pool
import FileSearch.Proofs.Results
import FileSearch.Proofs.Scan.History
import FileSearch.Proofs.Scan.Moves
import FileSearch.Proofs.Scan.Steps
import FileSearch.Proofs.Scan.Accounts
import FileSearch.Proofs.Scan.Paths
import FileSearch.Proofs.Scan.Delivery
import FileSearch.Proofs.Scan.Progress
import FileSearch.Proofs.Scan.Fold
import FileSearch.Proofs.LineStream
import FileSearch.Proofs.Pieces
import FileSearch.Proofs.Grep
import FileSearch.Proofs.WholeFile
import FileSearch.Proofs.Output.Demands
import FileSearch.Proofs.Output.FailStop
import FileSearch.Pool.Loop
import FileSearch.Output.Loop
import FileSearch.Proofs.Output.StreamErrors
import FileSearch.Proofs.Output.View
import FileSearch.Proofs.Output.Loop
import FileSearch.Proofs.Pool.History
import FileSearch.Proofs.Pool.Turn
import FileSearch.Proofs.Pool.Slots
import FileSearch.Proofs.Pool.Barrier
import FileSearch.Proofs.Pool.Conservation
import FileSearch.Proofs.Negation
import FileSearch.Proofs.Arguments
import FileSearch.Proofs.Text.Trim
import FileSearch.Proofs.Concurrency
import FileSearch.Proofs.Text.Integer
import FileSearch.Proofs.Settings
import FileSearch.Proofs.Positional
import FileSearch.Proofs.Command
import FileSearch.Proofs.Text.Utf8
import FileSearch.Proofs.Text.Decimal
import FileSearch.Proofs.Blocks
import FileSearch.Proofs.Number
import FileSearch.Proofs.Spelling
import FileSearch.Proofs.Scan.Settlement
import FileSearch.Proofs.Scan.Backpressure
import FileSearch.Proofs.PathList
import FileSearch.Proofs.Diagnostics.Transparency
import FileSearch.Proofs.Diagnostics.Account
import FileSearch.Proofs.Diagnostics.Outline
import FileSearch.Proofs.Diagnostics.Secrecy
import FileSearch.Proofs.Diagnostics.Runs
import FileSearch.Proofs.Regex.CharSet
import FileSearch.Proofs.Regex.Search
import FileSearch.Proofs.Regex.Straight
import FileSearch.Proofs.Regex.Plain
import FileSearch.Proofs.Regex.Letters
import FileSearch.Proofs.Literal
import FileSearch.Proofs.Agreement
import FileSearch.Proofs.ReadFailure
import FileSearch.Proofs.Scan.Closing
import FileSearch.Proofs.Limits
import FileSearch.Proofs.Classification
import FileSearch.Proofs.Indices
import FileSearch.Proofs.LastLine
import FileSearch.Proofs.Regex.Run
import FileSearch.Proofs.Regex.Bytewise
import FileSearch.Proofs.Spans
