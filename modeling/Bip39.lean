import Bip39.HashInputs
import Bip39.WordlistAmbiguity
import Bip39.Source.Readers
import Bip39.DiceEntry
import Bip39.CardEntry
import Bip39.Source.Main
import Bip39.WholeRun
import Bip39.DisplayedForms
import Bip39.SignalDelivery
import Bip39.CardNames
import Bip39.TerminalRestoration
import Bip39.PassphraseEntry
import Bip39.Source.Seed
import Bip39.SeedDerivation
import Bip39.Source.WholeProgram
import Bip39.ConsoleStreams
import Bip39.Secrets
import Bip39.EntropyModes
import Bip39.Sessions
import Bip39.SessionRefinement
import Bip39.ProgramEndings
import Bip39.SeedReports
import Bip39.SheetRecovery
import Bip39.Reproduction
import Bip39.CheckedSentences
import Bip39.SourceCapacity
import Bip39.InputLocality
import Bip39.AcceptedEntries
import Bip39.ExternalWordlists
import Bip39.Support.Inquiries
import Bip39.Transcripts
import Bip39.SeedRecovery
