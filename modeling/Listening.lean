import Listening.Command
import Listening.CommandLine
import Listening.Console
import Listening.Console.Plain
import Listening.Console.Recent
import Listening.Disk
import Listening.Dispatcher
import Listening.Entries
import Listening.Environment
import Listening.Fault
import Listening.History
import Listening.History.Description
import Listening.History.Follower
import Listening.History.Growth
import Listening.History.ListDiff
import Listening.Host
import Listening.Instant
import Listening.Instant.Calendar
import Listening.Instant.Iso
import Listening.Json
import Listening.Json.Reader
import Listening.Json.Writer
import Listening.Label
import Listening.Ledger
import Listening.Main
import Listening.Match
import Listening.Match.Content
import Listening.Match.Identity
import Listening.Match.Timing
import Listening.Notice
import Listening.Number.Decimal
import Listening.Number.Exact
import Listening.Number.Numeral
import Listening.Play
import Listening.Play.Alike
import Listening.Play.Record
import Listening.Player
import Listening.Player.Summary
import Listening.Players
import Listening.Poller
import Listening.Poller.Pace
import Listening.Program
import Listening.Proofs.FollowerRestarts
import Listening.Proofs.DiffPairing
import Listening.Proofs.ListGrowth
import Listening.Proofs.TypedPlays
import Listening.Range
import Listening.Reconciler
import Listening.Recording
import Listening.Recording.Client
import Listening.Recording.Failure
import Listening.Recording.Reader
import Listening.Recording.Script
import Listening.Recording.Value
import Listening.Service
import Listening.Service.Access
import Listening.Service.Account
import Listening.Service.Client
import Listening.Service.Listing
import Listening.Service.Submission
import Listening.Service.Track
import Listening.Settings
import Listening.Settings.Bounded
import Listening.Speaker
import Listening.Speaker.Finder
import Listening.Speaker.Time
import Listening.StateFile
import Listening.Step
import Listening.Text.Blank
import Listening.Text.Case
import Listening.Text.Decomposition
import Listening.Text.Digit
import Listening.Text.Mark
import Listening.Text.Normal
import Listening.Text.Pieces
import Listening.Text.Quoted
import Listening.Text.Table
import Listening.Text.Word
import Listening.Threshold
import Listening.View
import Listening.View.History
import Listening.View.Outside
import Listening.View.Watch
import Listening.Watch
import Listening.Window
import Listening.Proofs.FlappingSources
import Listening.Proofs.EntryMatching
import Listening.Proofs.SessionReports
import Listening.Proofs.PlayerLooks
import Listening.Proofs.LedgerMemory
import Listening.Proofs.PollerLooks
import Listening.Proofs.ExactlyOnce
import Listening.Proofs.EntryMoves
import Listening.Proofs.IdentityMarks
import Listening.Proofs.ListEvaluation
import Listening.Proofs.ListReplays
import Listening.Proofs.ListeningStretches
import Listening.Proofs.PlayerCalls
import Listening.Proofs.SessionAccounts
import Listening.Proofs.ClientDeeds
import Listening.Proofs.ClientRounds
import Listening.Proofs.ClaimsAndSubmissions
import Listening.Proofs.SentOnce
import Listening.Proofs.CreditNormalForm
import Listening.Proofs.TimestampRoundTrip
import Listening.Proofs.ServiceEchoes
import Listening.Proofs.CountedOnce
import Listening.Proofs.UninterruptedPlayback
import Listening.Proofs.PlayerOperations
import Listening.Proofs.RememberedLists
import Listening.Proofs.PlayerIsolation
import Listening.Proofs.LedgerSifting
import Listening.Proofs.ClaimReleases
import Listening.Proofs.Resubmission
import Listening.Proofs.DifferenceSigns
import Listening.Proofs.BareStops
import Listening.Proofs.ListenedCredit
import Listening.Proofs.CountedSilence
import Listening.Proofs.TrackRestarts
import Listening.Proofs.RefusedRounds
import Listening.Proofs.MoveRecognition
import Listening.Proofs.LookVerdicts
import Listening.Proofs.SessionEarnings
import Listening.Proofs.TruncatedFetches
import Listening.Proofs.StateFileRoundTrip
import Listening.Proofs.PacedRuns
import Listening.Proofs.FloatValues
import Listening.Proofs.FittingPlays
import Listening.Proofs.AllOrNothing
import Listening.Proofs.JsonRefusals
import Listening.Proofs.PlatformNames
import Listening.Proofs.StateFileStarts
import Listening.Proofs.MatchSymmetry
import Listening.Proofs.WholeNumberSigns
import Listening.Proofs.SpeakerReadings
import Listening.Proofs.TrackLikeness
import Listening.Proofs.RangeEnds
import Listening.Proofs.AdmittedSettings
import Listening.Proofs.DiffWording
