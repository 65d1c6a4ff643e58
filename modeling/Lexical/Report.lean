import Lexical.Finding
import Lexical.Line

/-!
The report on a text with issues: each issue under the line it stands on.

* `Report.Row`: what is shown of one issue.
* `Report.Row.quotation` and `Report.Row.pointer`: its two lines, the line of the text and the
  carets below it.
* `Report.lines`: the lines of a whole report.
-/

namespace Lexical.Report

/-- What is shown of an issue: the line it begins on, the columns it takes up there, the
characters it covers on any line, and its wording. -/
structure Row where
  line : Line
  columns : Columns
  covered : Text
  message : Text
deriving DecidableEq

namespace Row

/-- The row of an issue of a text. -/
def ofIssue (source : Text) (i : Issue) : Row :=
  let line := lineAt source i.interval.first
  ⟨line, line.columns i.interval, i.interval.lookup source, i.message⟩

/-- The number of the line, which stands in front of it. -/
def gutter (row : Row) : Text := Text.decimal row.line.number

/-- The line, behind its number. -/
def quotation (row : Row) : Text := row.gutter ++ "| ".toList ++ row.line.visible

/-- The carets below the characters to blame, and the wording. -/
def pointer (row : Row) : Text :=
  List.replicate row.gutter.length ' ' ++ "| ".toList ++ List.replicate row.columns.first ' ' ++
    List.replicate row.columns.width '^' ++ "--- ".toList ++ row.message

end Row

/-- The rows of a text, one for each issue. -/
def rows (source : Text) : List Row := (issues source).map (Row.ofIssue source)

/-- The last line of a report. -/
def summary (count : Nat) : Text :=
  "Lexing failed with ".toList ++ Text.decimal count ++ " issue(s)".toList

/-- The lines of the report on some issues of a text. -/
def lines (source : Text) (issues : List Issue) : List Text :=
  (issues.flatMap fun i =>
    let row := Row.ofIssue source i
    [row.quotation, row.pointer]) ++ [summary issues.length]

end Lexical.Report
