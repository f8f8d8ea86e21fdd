import LineScript.Catalog
import LineScript.CommandLine
import LineScript.Main
import LineScript.Run
import LineScript.Run.Targets
import LineScript.Proofs.Dispatch
import LineScript.Proofs.Later
import LineScript.Proofs.Machine
import LineScript.Proofs.Nesting
import LineScript.Proofs.Journal
import LineScript.Proofs.Provenance
import LineScript.Proofs.Comparison
import LineScript.Proofs.Scanning
import LineScript.Proofs.Inlining
import LineScript.Proofs.Interference
import LineScript.Proofs.Grammar
import LineScript.Proofs.Spacing
import LineScript.Proofs.Failure
import LineScript.Proofs.OwnTarget
import LineScript.Proofs.Limit
import LineScript.Proofs.Moves
import LineScript.Proofs.Shadowing
import LineScript.Proofs.NumberText
import LineScript.Proofs.LiveStore
import LineScript.Proofs.ReadBack
import LineScript.Proofs.Chains
import LineScript.Proofs.Comments
import LineScript.Proofs.Sequencing
import LineScript.Proofs.Rounding
import LineScript.Proofs.Numerals
import LineScript.Proofs.NumberRoundTrip
import LineScript.Proofs.StoreText
import LineScript.Proofs.ByteOrder
import LineScript.Proofs.Handles
import LineScript.Proofs.Outcomes
import LineScript.Proofs.Applications
import LineScript.Proofs.Cycles
import LineScript.Proofs.ScanErrors
import LineScript.Proofs.OperandCount
import LineScript.Proofs.InputLines
import LineScript.Proofs.Nearest
import LineScript.Proofs.NumberTokens
import LineScript.Proofs.Literals
import LineScript.Proofs.UnreadBytes
import LineScript.Proofs.Imports
import LineScript.Proofs.FloatOrder
import LineScript.Proofs.Extremes
import LineScript.Proofs.Drawing
