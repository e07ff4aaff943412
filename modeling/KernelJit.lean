import KernelJit.Text.Utf8
import KernelJit.Text.Search
import KernelJit.Text.Window
import KernelJit.Text.Hex
import KernelJit.Text.Quoted
import KernelJit.Aggregation
import KernelJit.Failure
import KernelJit.Status
import KernelJit.Classification.Basic
import KernelJit.Digest.Sha256
import KernelJit.Classification.OfSource
import KernelJit.Options
import KernelJit.Program
import KernelJit.Backend
import KernelJit.Cache.Basic
import KernelJit.Cache.Command
import KernelJit.Context
import KernelJit.Handle.Table
import KernelJit.Handle.Recycle
import KernelJit.Session.Basic
import KernelJit.Session.Command
import KernelJit.Proofs.Cache.Compile
import KernelJit.Proofs.Run
import KernelJit.Proofs.Cache.Account
import KernelJit.Proofs.Cache.Representation
import KernelJit.Proofs.Context.Call
import KernelJit.Proofs.Context.Registration
import KernelJit.Proofs.Cache.Tally
import KernelJit.Proofs.Cache.Ledger
import KernelJit.Proofs.Cache.Retention
import KernelJit.Proofs.Cache.Eviction
import KernelJit.Proofs.Cache.Uses
import KernelJit.Proofs.Cache.LeastUsed
import KernelJit.Proofs.Context.Failure
import KernelJit.Proofs.Preimage
import KernelJit.Proofs.ToolchainRoot
import KernelJit.Proofs.Context.Requests
import KernelJit.Proofs.Context.Uncached
import KernelJit.Proofs.Context.Transparency
import KernelJit.Proofs.Context.Sharing
import KernelJit.Proofs.Context.Verdict
import KernelJit.Proofs.Context.Root
import KernelJit.Proofs.Handle.Slots
import KernelJit.Proofs.Handle.Age
import KernelJit.Proofs.Handle.Issue
import KernelJit.Proofs.Handle.Vacancy
import KernelJit.Proofs.Handle.Recycle
import KernelJit.Proofs.Handle.Live
import KernelJit.Proofs.Text.Window
import KernelJit.Proofs.Classification.RawBytes
import KernelJit.Proofs.Context.Names
import KernelJit.Proofs.Context.Events
import KernelJit.Proofs.Context.Statistics
import KernelJit.Proofs.Session.Operations
import KernelJit.Proofs.Session.Effect
import KernelJit.Proofs.Session.Foreign
import KernelJit.Proofs.Session.Thread
import KernelJit.Proofs.Session.Solo
import KernelJit.Proofs.Session.Isolation
import KernelJit.Proofs.Session.Destroyed
import KernelJit.Proofs.Session.Every
import KernelJit.Proofs.Session.Tags
import KernelJit.Proofs.Session.Present
import KernelJit.Proofs.Session.Release
import KernelJit.Proofs.Session.Refusal
import KernelJit.Proofs.Session.Farewell
import KernelJit.Proofs.Text.Near
import KernelJit.Proofs.Text.Cut
import KernelJit.Proofs.Classification.Diagnostics
import KernelJit.Proofs.Classification.Locality
import KernelJit.Proofs.Classification.Header
import KernelJit.Proofs.Cache.Replacement
import KernelJit.Proofs.Context.LastWrite
