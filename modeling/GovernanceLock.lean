import GovernanceLock.CommandLine.Run
import GovernanceLock.Main
import GovernanceLock.Proofs.Closure.Nearest
import GovernanceLock.Proofs.CommandLine.Agreement
import GovernanceLock.Proofs.CommandLine.ExitCode
import GovernanceLock.Proofs.CommandLine.Policy
import GovernanceLock.Proofs.CommandLine.Scan
import GovernanceLock.Proofs.FileTree.Action
import GovernanceLock.Proofs.FileTree.Growth
import GovernanceLock.Proofs.FileTree.Path
import GovernanceLock.Proofs.FileTree.Replace
import GovernanceLock.Proofs.FileTree.Walk
import GovernanceLock.Proofs.InstallOrder.Tally
import GovernanceLock.Proofs.Lock.Assembled
import GovernanceLock.Proofs.Lock.Drift
import GovernanceLock.Proofs.Lock.Guard
import GovernanceLock.Proofs.Manifest.Artifacts
import GovernanceLock.Proofs.Manifest.Meaning
import GovernanceLock.Proofs.Manifest.Spelling
import GovernanceLock.Proofs.Request.Activation
import GovernanceLock.Proofs.Request.Identity
import GovernanceLock.Proofs.Request.Isolation
import GovernanceLock.Proofs.Request.Spelling
import GovernanceLock.Proofs.Request.Write
import GovernanceLock.Proofs.Resolution.Engine
import GovernanceLock.Proofs.Resolution.Refusals
import GovernanceLock.Proofs.Resolution.Union
import GovernanceLock.Proofs.Resolution.Violation
import GovernanceLock.Proofs.Screening.Extension
import GovernanceLock.Proofs.Screening.Finding
import GovernanceLock.Proofs.Screening.LineRules
import GovernanceLock.Proofs.Screening.Numbering
import GovernanceLock.Proofs.Screening.Report
import GovernanceLock.Proofs.Text.Lines
import GovernanceLock.Proofs.Text.Padding
import GovernanceLock.Proofs.Version.Numeral
import GovernanceLock.Request.Write
import GovernanceLock.Resolution
import GovernanceLock.Screening.Basic
import GovernanceLock.Proofs.FileTree.Components
import GovernanceLock.Proofs.FileTree.Links
import GovernanceLock.Proofs.FileTree.Spelling
import GovernanceLock.Proofs.Lock.Guard
