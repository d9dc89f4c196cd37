/-!
# Report items

A report is shown as a list of items in order. What an item looks like, and whether it goes
to the output or to the messages, is decided here once for all reports.

## Main definitions

* `ReportItem`: one item;
* `ReportItem.text`, `ReportItem.isMessage`: how it is shown, and where;
* `outputText`, `messageText`: the two streams of a report.
-/

namespace OpaqueC

/-- One item of a report. -/
inductive ReportItem
  /-- A heading. -/
  | heading (name : String)
  /-- A named value. -/
  | keyValue (key value : String)
  /-- An entry below the last heading. -/
  | listItem (text : String)
  /-- A finished action and its outcome. -/
  | progress (action outcome : String)
  /-- A problem that does not stop anything. -/
  | warning (text : String)
  /-- A problem that makes the report fail. -/
  | error (text : String)
  /-- A labelled separator. -/
  | divider (label : String)
  /-- Text as it is. -/
  | preformatted (text : String)
  /-- An empty line. -/
  | newline
  deriving DecidableEq, Repr

namespace ReportItem

/-- The line, or the lines, an item is shown as. -/
def text : ReportItem → String
  | heading name => name ++ ":\n"
  | keyValue key value => key ++ ": " ++ value ++ "\n"
  | listItem s => "  " ++ s ++ "\n"
  | progress action outcome => action ++ " ... " ++ outcome ++ "\n"
  | warning s => "warning: " ++ s ++ "\n"
  | error s => "error: " ++ s ++ "\n"
  | divider label => "── " ++ label ++ " ──\n"
  | preformatted s => s ++ "\n"
  | newline => "\n"

/-- Whether an item belongs to the messages and not to the output. -/
def isMessage : ReportItem → Bool
  | warning _ | error _ => true
  | _ => false

end ReportItem

/-- The output of a report. -/
def outputText (items : List ReportItem) : String :=
  String.join ((items.filter fun item => !item.isMessage).map ReportItem.text)

/-- The messages of a report. -/
def messageText (items : List ReportItem) : String :=
  String.join ((items.filter ReportItem.isMessage).map ReportItem.text)

end OpaqueC
