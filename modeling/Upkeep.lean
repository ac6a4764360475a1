import Upkeep.Json.Reader
import Upkeep.Main
import Upkeep.Proofs.Json.Application
import Upkeep.Proofs.Json.Completeness
import Upkeep.Proofs.Json.Least
import Upkeep.Proofs.Json.Writable
import Upkeep.Proofs.Cluster.Labels
import Upkeep.Proofs.Cluster.Mutation
import Upkeep.Proofs.Cluster.StalePatch
import Upkeep.Proofs.Cluster.Store
import Upkeep.Proofs.Cluster.Client
import Upkeep.Proofs.Cluster.Due
import Upkeep.Proofs.Cluster.Versions
import Upkeep.Proofs.Cluster.Realization
import Upkeep.Proofs.Pass.Step
import Upkeep.Proofs.Wanted.Targets
import Upkeep.Proofs.Wanted.Interference
import Upkeep.Proofs.Pass.Course
import Upkeep.Proofs.Pass.Track
import Upkeep.Proofs.Pass.Upsert
import Upkeep.Proofs.Cluster.Exchange
import Upkeep.Proofs.Pass.Bringing
import Upkeep.Proofs.Pass.Reconcile
import Upkeep.Proofs.Pass.Alone
import Upkeep.Proofs.Pass.Convergence
import Upkeep.Proofs.Cluster.Agreement
import Upkeep.Proofs.Pass.Duet
import Upkeep.Proofs.Pass.Concurrency
import Upkeep.Proofs.Cluster.Sparing
import Upkeep.Proofs.Pass.Sparing
import Upkeep.Proofs.Pass.Undisturbed
import Upkeep.Proofs.Pass.Report
import Upkeep.Proofs.Pass.Rehearsal
import Upkeep.Proofs.Pass.Blame
import Upkeep.Proofs.Pass.Order
import Upkeep.Proofs.Pass.Indifference
import Upkeep.Proofs.Pass.Forecast
import Upkeep.Proofs.Cluster.Numbering
import Upkeep.Proofs.Pass.Locality
import Upkeep.Proofs.Pass.Commutation
import Upkeep.Proofs.Regex.Greedy
import Upkeep.Proofs.Regex.Lines
import Upkeep.Proofs.Relabel.Action
import Upkeep.Proofs.Wanted.Discovered
import Upkeep.Proofs.Wanted.PodLabels
import Upkeep.Proofs.Controller
import Upkeep.Proofs.Pass.Exactness
import Upkeep.Proofs.Regex.Language
import Upkeep.Proofs.Regex.Sequence
import Upkeep.Proofs.Regex.Expression
import Upkeep.Proofs.Regex.Characters
import Upkeep.Proofs.Regex.Reading
import Upkeep.Proofs.Regex.Alternation
import Upkeep.Proofs.Relabel.FullMatch
import Upkeep.Proofs.Relabel.Template
import Upkeep.Proofs.Relabel.Standard
import Upkeep.Proofs.Relabel.Renaming
import Upkeep.Proofs.Relabel.Composition
import Upkeep.Proofs.Relabel.Reordering
import Upkeep.Proofs.Wanted.Reordering
import Upkeep.Proofs.Regex.Advance
import Upkeep.Proofs.Regex.Steadiness
import Upkeep.Proofs.Regex.Openings
import Upkeep.Proofs.Regex.Brackets
import Upkeep.Proofs.Regex.Anchoring
import Upkeep.Proofs.Relabel.Anchoring
import Upkeep.Proofs.Wanted.Series
import Upkeep.Proofs.Relabel.Faults
import Upkeep.Proofs.CommandLine.TargetCheck
import Upkeep.Proofs.Cluster.Resending
import Upkeep.Proofs.Number.Double
import Upkeep.Proofs.Json.Numbers
import Upkeep.Proofs.Json.Reordering
import Upkeep.Proofs.Json.Written
import Upkeep.Proofs.Json.Canonical
import Upkeep.Proofs.Text.Indent
import Upkeep.Proofs.Text.SingleQuoted
import Upkeep.Proofs.Wanted.Entries
import Upkeep.Proofs.Text.Utf8
import Upkeep.Proofs.Wanted.Loading
import Upkeep.Proofs.Cluster.Labelling
