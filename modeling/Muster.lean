import Muster.Main
import Muster.Template.Printer
import Muster.Flow.Script
import Muster.Proofs.Game.Contract
import Muster.Proofs.Game.Drafts
import Muster.Proofs.Game.Endings
import Muster.Proofs.Game.GrammarCheck
import Muster.Proofs.Game.PartyChanges
import Muster.Proofs.Game.RosterInvariant
import Muster.Proofs.Game.Stages
import Muster.Proofs.Pattern.Compiled
import Muster.Proofs.Pattern.Fillings
import Muster.Proofs.Pattern.Phrasings
import Muster.Proofs.Pattern.Recognition
import Muster.Proofs.Pattern.Routes
import Muster.Proofs.Pattern.Segments
import Muster.Proofs.Pattern.Taking
import Muster.Proofs.Pattern.WordsOnly
import Muster.Proofs.Steps
import Muster.Proofs.Template.Parsing
import Muster.Proofs.Template.RoundTrip
import Muster.Proofs.Text.Lines
import Muster.Proofs.Text.Lowering
import Muster.Proofs.Command.Meaning
import Muster.Proofs.Command.History
import Muster.Proofs.Command.TwoScopes
import Muster.Proofs.Roster.Changes
import Muster.Proofs.Command.LiveRoster
import Muster.Proofs.Command.Overlap
import Muster.Proofs.Game.Unambiguous
import Muster.Proofs.Console.Output
import Muster.Proofs.Console.Pages
import Muster.Proofs.Console.Queue
import Muster.Proofs.Console.Paging
import Muster.Proofs.Flow.Outcomes
import Muster.Proofs.Flow.Transfer
import Muster.Proofs.Flow.Frames
import Muster.Pattern.Offsets
import Muster.Proofs.Pattern.Offsets
import Muster.Proofs.Text.Names
import Muster.Proofs.Roster.Answering
import Muster.Proofs.Game.PartyVisits
import Muster.Proofs.Game.MenuParty
import Muster.Proofs.Game.PartyNames
import Muster.Proofs.Pattern.Alternatives
import Muster.Proofs.Pattern.SlotEnds
import Muster.Proofs.Pattern.StopWords
import Muster.Proofs.Game.DraftRounds
import Muster.Proofs.Game.DraftTransaction
import Muster.Proofs.Pattern.Values
import Muster.Proofs.Template.PlainText
import Muster.Proofs.Pattern.Precedence
import Muster.Proofs.Pattern.Plans
import Muster.Proofs.Pattern.Saying
import Muster.Proofs.Pattern.SampleLine
import Muster.Proofs.Pattern.Matchable
import Muster.Proofs.Pattern.Overwriting
import Muster.Proofs.Roster.Aliases
import Muster.Proofs.Template.FirstFlaw
import Muster.Proofs.Text.Messages
import Muster.Proofs.Text.SingleSpaces
import Muster.Proofs.Roster.Upkeep
import Muster.Proofs.Roster.Numbers
