import Lexical.CommandLine.Basic

/-!
The pages of help.
-/

namespace Lexical.CommandLine

/-- The lines of the page on the program. -/
def programPage : List String :=
  ["The lexer of the Zirco compiler",
    "",
    "Usage: zrc [OPTIONS] <COMMAND>",
    "",
    "Commands:",
    "  lex    Print the token stream of a program",
    "  check  Check a program for lexical errors",
    "  help   Print this message or the help of the given subcommand(s)",
    "",
    "Options:",
    "  -v, --verbose <VERBOSE>  [default: 1]",
    "  -h, --help               Print help"]

/-- The lines of the page on the command for help. -/
def helpPage : List String :=
  ["Print this message or the help of the given subcommand(s)",
    "",
    "Usage: zrc help [COMMAND]...",
    "",
    "Arguments:",
    "  [COMMAND]...  Print help for the subcommand(s)"]

/-- The lines below the heading of the page on an action. -/
def actionPage : List String :=
  ["",
    "Arguments:",
    "  <FILE>  ",
    "",
    "Options:",
    "  -h, --help  Print help"]

/-- The lines of a page. -/
def Page.lines : Page → List Text
  | program => programPage.map String.toList
  | command .help => helpPage.map String.toList
  | command (.action action) =>
    [action.about, [], "Usage: zrc ".toList ++ action.name ++ " <FILE>".toList] ++
      actionPage.map String.toList

end Lexical.CommandLine
