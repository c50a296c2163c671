import ChatDisplay.Completion
import ChatDisplay.Json.Records
import ChatDisplay.Markup.Item
import ChatDisplay.Proofs.Completion.Beginning
import ChatDisplay.Proofs.Completion.Cursor
import ChatDisplay.Proofs.Completion.Cycling
import ChatDisplay.Proofs.Completion.Sharing
import ChatDisplay.Proofs.Conversation.History
import ChatDisplay.Proofs.Json.RoundTrip
import ChatDisplay.Proofs.Listing.Upkeep
import ChatDisplay.Proofs.Markup.Colors
import ChatDisplay.Proofs.Markup.Fallbacks
import ChatDisplay.Proofs.Markup.Safety
import ChatDisplay.Proofs.Markup.Seams
import ChatDisplay.Proofs.Roster.Counts
import ChatDisplay.Proofs.Roster.Ranking
import ChatDisplay.Proofs.Roster.Symbols
import ChatDisplay.Proofs.Session.Display
import ChatDisplay.Proofs.Session.Drafts
import ChatDisplay.Proofs.Session.Separation
import ChatDisplay.Proofs.Settings.Agreement
import ChatDisplay.Proofs.Text.Fold
import ChatDisplay.Session.Queue
import ChatDisplay.Settings.Builder
import ChatDisplay.Settings.Document
import ChatDisplay.Text.Fold
import ChatDisplay.Proofs.Session.Commuting
import ChatDisplay.Proofs.Session.Queueing
import ChatDisplay.Proofs.Session.Background
import ChatDisplay.Proofs.Session.Completing
import ChatDisplay.Proofs.Viewport.Activation
import ChatDisplay.Proofs.Viewport.Binding
