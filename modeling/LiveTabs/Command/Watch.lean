import LiveTabs.Browser
import LiveTabs.Command
import LiveTabs.Stream.Dial
import LiveTabs.Terminal.Printout

/-!
# Watching tabs

A watch opens a number of tabs in one browser, lets them run, and prints what each is told. All of
them are open before the first one runs.
-/

namespace LiveTabs.Watch

/-- The name of a tab, which is its id as well. -/
def tabName (number : Nat) : String := "tab-" ++ toString number

/-- A browser with tabs numbered from one. -/
def openTabs (config : Config) (tabs : Nat) (relay : Bool) (line : Line) (now : Instant) :
    Except CommandError Browser :=
  if tabs = 0 then .error .noTabs
  else CommandError.ofSetup do
    config.validate
    (List.range tabs).foldlM (fun browser number =>
      let name := tabName (number + 1)
      browser.openTab name name config relay line) { now }

/-- What is printed of what tabs did: the name of a tab, and the lines about it. -/
def news (colors verbose : Bool) (effects : List (String × TabEffect)) :
    List (String × List String) :=
  effects.filterMap fun (name, effect) => match effect with
    | .tell note => some (name, Terminal.noteLines colors verbose name note)
    | _ => none

/-- Tabs run from their opening up to an instant, which is not reached: with no time at all they do
not run. Each stop on the way lies after the one before, so that there are no more stops than
nanoseconds. -/
def runUntil (stop : Instant) (browser : Browser) : Browser.Result :=
  if browser.now < stop then
    browser.run.andThen fun running =>
      running.passDeadlines stop ((running.now.elapsed stop).nanoseconds + 1)
  else ⟨browser, []⟩

end LiveTabs.Watch
