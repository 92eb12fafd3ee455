import LiveTabs.Clock
import LiveTabs.Command.Watch

/-!
# The program

Reads the arguments, carries out the command, and prints. The program has no network of its own, so
its streams are unsupported; the tabs still elect a leader and relay to each other.
-/

namespace LiveTabs.Program

/-- How the program is used. -/
def usage : String :=
  "Live issue updates shared across browser tabs\n\n" ++
  "Usage: tabsync [OPTIONS] <COMMAND>\n\n" ++
  "Commands:\n" ++
  "  watch   Open tabs against the event stream and print what they see\n" ++
  "  config  Print the effective configuration as TOML\n" ++
  "  help    Print this message or the help of the given subcommand(s)\n\n" ++
  "Options:\n" ++
  "  -v, --verbose          Enable verbose output\n" ++
  "  -c, --config <CONFIG>  Configuration file (TOML)\n" ++
  "      --url <URL>        Event stream URL, overrides the configuration file\n" ++
  "      --log <LOG>        Also write logs to this file\n" ++
  "  -h, --help             Print help\n" ++
  "  -V, --version          Print version\n\n" ++
  "Options of watch:\n" ++
  "      --tabs <TABS>      Number of tabs to open [default: 2]\n" ++
  "      --no-relay         Open tabs without a relay channel, so followers see nothing"

/-- The text of a file, if it can be read. -/
def readFile? (path : String) : IO (Option String) := do
  try
    pure (some (← IO.FS.readFile path))
  catch _ => pure none

/-- The reading of a clock that never goes back. -/
def steadyReading : IO Duration := do
  pure (.ofMilliseconds (← IO.monoMsNow))

/-- Prints what tabs were told. -/
def printNews (verbose : Bool) (effects : List (String × TabEffect)) : IO Unit :=
  for (_, lines) in Watch.news false verbose effects do
    for line in lines do
      IO.println line

/-- The longest time between two looks at the clock, in milliseconds. -/
def longestWait : Nat := 60000

/-- Lets tabs run in real time. -/
partial def keepWatching (verbose : Bool) (clock : AnchoredClock) (browser : Browser) :
    IO Unit := do
  match browser.nextDeadline with
  | none => pure ()
  | some deadline =>
    let wait := (clock.readingAt deadline).milliseconds - (← steadyReading).milliseconds
    IO.sleep (min longestWait (wait + 1)).toUInt32
    let outcome := browser.arriveAt (clock.timeAt (← steadyReading))
    printNews verbose outcome.effects
    keepWatching verbose clock outcome.state

/-- Opens tabs and watches them. -/
def watch (config : Config) (tabs : Nat) (relay verbose : Bool) : IO UInt32 := do
  let clock : AnchoredClock := { wall := .epoch, anchor := ← steadyReading }
  match Watch.openTabs config tabs relay (.to false config.stream.url) clock.wall with
  | .error error =>
    IO.eprintln ("Error: " ++ error.message)
    pure 1
  | .ok browser =>
    IO.print (Terminal.printed (Terminal.bannerLines false config tabs relay))
    let outcome := browser.run
    printNews verbose outcome.effects
    keepWatching verbose clock outcome.state
    pure 0

/-- Carries out the command that the words after the program's name ask for. -/
def run (words : List String) : IO UInt32 := do
  let environment : Environment :=
    { config := ← IO.getEnv "TABSYNC_CONFIG", url := ← IO.getEnv "TABSYNC_URL" }
  match Arguments.read environment words with
  | .error .help => IO.println usage; pure 0
  | .error .version => IO.println "tabsync 0.1.0"; pure 0
  | .error .usage => IO.eprintln usage; pure 2
  | .ok arguments =>
    let text ← match arguments.config with
      | some path => readFile? path
      | none => pure none
    match arguments.task fun _ => text with
    | .ok (.print text) => IO.print text; pure 0
    | .ok (.watch config tabs relay) => watch config tabs relay arguments.verbose
    | .error error => IO.eprintln ("Error: " ++ error.message); pure 1

end LiveTabs.Program

/-- Runs the program on the words after its name. -/
def main (words : List String) : IO UInt32 := LiveTabs.Program.run words
