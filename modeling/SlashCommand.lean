import SlashCommand.Editor
import SlashCommand.Grammar.Declaration
import SlashCommand.Main
import SlashCommand.Proofs.Completion.Acceptance
import SlashCommand.Proofs.Completion.Aliases
import SlashCommand.Proofs.Completion.Causal
import SlashCommand.Proofs.Completion.CommandNames
import SlashCommand.Proofs.Completion.Flags
import SlashCommand.Proofs.Completion.Gap
import SlashCommand.Proofs.Completion.Hint
import SlashCommand.Proofs.Completion.InForce
import SlashCommand.Proofs.Completion.Merging
import SlashCommand.Proofs.Completion.Order
import SlashCommand.Proofs.Completion.Range
import SlashCommand.Proofs.Completion.Reapplied
import SlashCommand.Proofs.Completion.Walkable
import SlashCommand.Proofs.Completion.WellFormed
import SlashCommand.Proofs.Config.Translation
import SlashCommand.Proofs.Editor.Accepting
import SlashCommand.Proofs.Editor.Protect
import SlashCommand.Proofs.Editor.Replacement
import SlashCommand.Proofs.Grammar.Traversal
import SlashCommand.Proofs.Line.Agreement
import SlashCommand.Proofs.Line.Coverage
import SlashCommand.Proofs.Line.Focus
import SlashCommand.Proofs.Score.Gap
import SlashCommand.Proofs.Score.Narrowing
import SlashCommand.Proofs.Score.Tiers
import SlashCommand.Proofs.Session.Run
import SlashCommand.Proofs.Shell.Startup
import SlashCommand.Proofs.Submission.Interleaving
import SlashCommand.Proofs.Submission.Offered
import SlashCommand.Proofs.Walk.Flags
import SlashCommand.Proofs.Walk.LetterCase
import SlashCommand.Proofs.Walk.Reached
import SlashCommand.Session
