import Bip39.Source.Main

/-!
# Command-line options in `seeds.cpp`

What `boost::program_options` makes of the arguments is a parameter: the
options it stores, or the text of the exception it throws.
-/

namespace Bip39.Source

open Bip39.Support

/-- The remaining fields of the options of `seeds.cpp`. -/
structure CommandLineOptions extends ProgramOptions where
  wordlistFilename : Text := []
  showEntropy : Bool := false
  showHelp : Bool := false
  showSeed : Bool := false
  deriving DecidableEq, Repr

/-- `stored` is the outcome of `po::parse_command_line`, `po::store` and
`po::notify`.  The exceptions of the library are `std::logic_error`s. -/
def parseCommandLine (stored : Except Text CommandLineOptions) :
    Except Failure CommandLineOptions := do
  let options ← stored.mapError .logicError
  if ¬options.showHelp then
    let entropySources := [options.useDice, options.useDiceOnly,
      options.useCards, options.useCardsOnly]
    if entropySources.count true > 1 then
      throw (.invalidArgument (text
        ("--dice, --dice-only, --cards, and --cards-only are mutually " ++
          "exclusive")))
    let _ ← entropyBytesForWordCount options.wordCount
  return options

/-- `description` is the list of options as the library formats it. -/
def printHelp (programName description : Text) (stream : OStream) : OStream :=
  stream.put (text "Usage: ") |>.put programName |>.put (text " [options]\n\n")
    |>.put description |>.put [chr '\n']

end Bip39.Source
