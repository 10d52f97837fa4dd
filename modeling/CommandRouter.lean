import CommandRouter.Action.Laws
import CommandRouter.Console
import CommandRouter.Main
import CommandRouter.Table.Lemmas
import CommandRouter.Text.Words
import CommandRouter.Registry.Entry
import CommandRouter.Selection
import CommandRouter.Proofs.Results
import CommandRouter.Proofs.Strings
import CommandRouter.Proofs.Registry.History
import CommandRouter.Proofs.Registry.Kinds
import CommandRouter.Proofs.Guild.Fetch
import CommandRouter.Proofs.Guild.Kinds
import CommandRouter.Proofs.Dispatch
import CommandRouter.Proofs.Guild.Rows
import CommandRouter.Proofs.Guild.Timed
import CommandRouter.Proofs.Guild.Session
import CommandRouter.Proofs.Guild.Transparency
import CommandRouter.Proofs.Guild.Staleness
import CommandRouter.Proofs.Json
import CommandRouter.Proofs.LetterCase
import CommandRouter.Proofs.LetterContext
import CommandRouter.Proofs.Guild.Storage
import CommandRouter.Proofs.Registry.Registration
import CommandRouter.Proofs.Registry.Spelling
import CommandRouter.Proofs.Registry.Aliases
import CommandRouter.Proofs.Registry.LetterCase
import CommandRouter.Proofs.Registry.Search
import CommandRouter.Proofs.Registry.Growth
import CommandRouter.Proofs.Registry.Order
import CommandRouter.Proofs.Registry.Winner
import CommandRouter.Proofs.Registry.BareTriggers
import CommandRouter.Proofs.Registry.ReverseLookup
import CommandRouter.Proofs.Arguments
import CommandRouter.Proofs.Invocation
import CommandRouter.Proofs.Guild.Isolation
import CommandRouter.Proofs.Numbers
import CommandRouter.Proofs.Database
import CommandRouter.Proofs.Modules
import CommandRouter.Proofs.Guild.Eviction
import CommandRouter.Proofs.Guild.Traffic
import CommandRouter.Proofs.Guild.Interleaving
import CommandRouter.Proofs.Guild.Outage
import CommandRouter.Proofs.LifeCycle
import CommandRouter.Proofs.Imports
import CommandRouter.Proofs.Limits
import CommandRouter.Proofs.Guild.Columns
import CommandRouter.Proofs.Guild.Saving
import CommandRouter.Proofs.Listing
import CommandRouter.Proofs.Separated
import CommandRouter.Proofs.ModulePaths
import CommandRouter.Proofs.Statements
import CommandRouter.Proofs.Upserts
import CommandRouter.Proofs.Loggers
import CommandRouter.Proofs.LoggerOrder
import CommandRouter.Proofs.LogHistory
