import Vendoring.Json.Compact
import Vendoring.Listing.Read
import Vendoring.LocalCopy
import Vendoring.Refresh
import Vendoring.Replicate
import Vendoring.Settings.Load
import Vendoring.Synchronise
import Vendoring.Run
import Vendoring.Web
import Vendoring.Main
import Vendoring.Proofs.Job
import Vendoring.Proofs.Transcript
import Vendoring.Proofs.LocalCopy
import Vendoring.Proofs.FileTree.Basic
import Vendoring.Proofs.FileTree.Retains
import Vendoring.Proofs.FileTree.Grows
import Vendoring.Proofs.FileTree.Place
import Vendoring.Proofs.FileTree.Written
import Vendoring.Proofs.FileTree.Account
import Vendoring.Proofs.Record
import Vendoring.Proofs.Refresh.AllowList
import Vendoring.Proofs.Refresh.Selection
import Vendoring.Proofs.Refresh.Confinement
import Vendoring.Proofs.Replicate.Confinement
import Vendoring.Proofs.Replicate.Descent
import Vendoring.Proofs.Replicate.Reach
import Vendoring.Proofs.Replicate.Ending
import Vendoring.Proofs.Replicate.Failure
import Vendoring.Proofs.Replicate.Repeat
import Vendoring.Proofs.Replicate.Trail
import Vendoring.Proofs.Replicate.Exclusion
import Vendoring.Proofs.Replicate.Tally
import Vendoring.Proofs.Synchronise.Disk
import Vendoring.Proofs.Client.Token
import Vendoring.Proofs.Run
import Vendoring.Proofs.Settings.Reference
import Vendoring.Proofs.Replicate.Narrowing
import Vendoring.Proofs.Settings.Rooted
import Vendoring.Proofs.Settings.Directory
import Vendoring.Proofs.Listing.Read
import Vendoring.Proofs.Synchronise.Provenance
import Vendoring.Proofs.Client.Header
import Vendoring.Proofs.CommandLine
import Vendoring.Proofs.Settings.Named
import Vendoring.Proofs.FileTree.Frame
