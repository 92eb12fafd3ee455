import LiveTabs.Tab
import LiveTabs.Terminal.Style
import LiveTabs.Text.Width

/-!
# What a watcher prints

A watcher prints a banner, then the news of its tabs, and at its end a closing line. Each piece of
news is a line that starts with the name of the tab and the kind of news in columns; a batch has one
more line for each of its events. Single events are printed only on request, since they come again
in a batch.
-/

namespace LiveTabs.Terminal

/-- The width of the column for the name of a tab. -/
def tabColumn : Nat := 8

/-- The width of the column for the kind of news. -/
def kindColumn : Nat := 10

/-- The widest title that is printed in full. -/
def titleColumns : Nat := 40

/-- The style of a role. -/
def roleStyle : Role → Style
  | .leader => { isBold := true, color := some .green }
  | .follower => .of .blue

/-- The style of the state of a stream. -/
def stateStyle : StreamState → Style
  | .connected => .of .green
  | .connecting | .idle => .of .cyan
  | .waiting => .of .yellow
  | .failed | .unsupported => .of .red
  | .stopped => .dimmed

/-- An event in words: the issue, its title if it has one, and its status if it has one. -/
def describe (event : IssueEvent) : String :=
  let title := match event.issue.title with
    | some title => " " ++ Text.truncate titleColumns title
    | none => ""
  let status := match event.issue.status with
    | some status => " (" ++ status ++ ")"
    | none => ""
  event.issueId ++ title ++ status

/-- The line of a tab for one kind of news. -/
def newsLine (colors : Bool) (tab : String) (kindStyle : Style) (kind news : String) : String :=
  paint colors .bold (padTo tabColumn tab) ++ " " ++
    paint colors kindStyle (padTo kindColumn kind) ++ " " ++ news

/-- The line of an event within a batch. -/
def batchEntry (event : IssueEvent) : String :=
  padTo (tabColumn + 1 + kindColumn) "" ++ " " ++ describe event

/-- What a batch is about. -/
def batchHead (batch : Batch) : String :=
  toString batch.events.length ++ " issue(s) [" ++
    String.intercalate ", " (batch.kinds.toList.map EventKind.name) ++ "]"

/-- The lines for what a tab was told. Single events have one only if it is asked for. -/
def noteLines (colors verbose : Bool) (tab : String) : TabNote → List String
  | .roleChanged role => [newsLine colors tab {} "role" (paint colors (roleStyle role) role.name)]
  | .stateChanged state =>
    [newsLine colors tab {} "state" (paint colors (stateStyle state) state.name)]
  | .batch batch =>
    newsLine colors tab (.of .cyan) "batch" (batchHead batch) :: batch.events.map batchEntry
  | .deleted event => [newsLine colors tab (.of .red) "deleted" (describe event)]
  | .event event =>
    if verbose then
      [newsLine colors tab .dimmed "event"
        (paint colors .dimmed event.kind.name ++ " " ++ describe event)]
    else []
  | .disconnectWarning elapsed => [warning s!"disconnected for {elapsed.milliseconds / 1000}s"]
  | .relayMissing => [warning "following without a relay, updates will not appear here"]
where
  warning (content : String) : String :=
    newsLine colors tab (.of .yellow) "warning" (paint colors (.of .yellow) content)

/-- The lines before the first news. -/
def bannerLines (colors : Bool) (config : Config) (tabs : Nat) (relay : Bool) : List String :=
  let setting (label gap value : String) := "  " ++ paint colors (.of .green) label ++ gap ++ value
  ["",
    "  " ++ paint colors { isBold := true, color := some .cyan } "tabsync" ++ " " ++
      paint colors .bold "watch",
    "",
    setting "Stream" "     " config.stream.url,
    setting "Tabs" "       " (toString tabs),
    setting "Relay" "      "
      (if relay then config.relay.channelName else paint colors (.of .yellow) "disabled"),
    setting "Lease key" "  " config.leader.leaseKey,
    "",
    "  " ++ paint colors .dimmed "Ctrl+C to stop",
    ""]

/-- The lines after the last news. -/
def closingLines (colors : Bool) (tabs : Nat) : List String :=
  ["", "  " ++ paint colors .dimmed s!"Closing {tabs} tab(s)..."]

/-- Lines as they are printed. -/
def printed (lines : List String) : String := String.join (lines.map fun line => line ++ "\n")

end LiveTabs.Terminal
