import PolyQuery.Command.Arguments

namespace PolyQuery

/-!
# Help

What the program says about itself: for every level of the command line the
purpose, the way to write it, and the commands, words and options that it knows.
Descriptions stand in one column, each on the line of what it describes.
-/

namespace Help

/-- What the program is called on a command line. -/
def programName : String :=
  "airquery-cli"

/-- The name and the version of the program. -/
def versionLine : String :=
  "airquery 0.1.0\n"

/-- The words that lead to a level. -/
def path : Arguments.Level → List String
  | .top => []
  | .sql => ["sql"]
  | .document => ["doc"]
  | .config => ["config"]
  | .configShow => ["config", "show"]
  | .configInit => ["config", "init"]
  | .help => ["help"]
  | .configHelp => ["config", "help"]

/-- What a level is for. -/
def purpose : Arguments.Level → String
  | .top => "Compile query requests to SQL or document operations"
  | .sql => "Compile a request to SQL text and parameters"
  | .document => "Compile a request to a document operation"
  | .config => "Configuration commands"
  | .configShow => "Show the effective configuration"
  | .configInit =>
      "Write a default airquery.config.json into the project directory"
  | .help => "Print this message or the help of the given subcommand(s)"
  | .configHelp => "Print this message or the help of the given subcommand(s)"

/-- The levels that the commands of a level lead to. -/
def commands : Arguments.Level → List (String × Arguments.Level)
  | .top =>
      [("sql", .sql), ("doc", .document), ("config", .config), ("help", .help)]
  | .config =>
      [("show", .configShow), ("init", .configInit), ("help", .configHelp)]
  | _ => []

/-- The words that a level takes, with their descriptions. -/
def words : Arguments.Level → List (String × String)
  | .sql => files
  | .document => files
  | .help => commandWords
  | .configHelp => commandWords
  | _ => []
where
  files :=
    [("<SCHEMA>", "Schema descriptor file (JSON)"),
      ("<REQUEST>", "Query request file (JSON)")]
  commandWords :=
    [("[COMMAND]...", "Print help for the subcommand(s)")]

/-- The options that a level knows, in the order in which they are listed. -/
def options : Arguments.Level → List (String × String)
  | .top => [project, format, help, ("-V, --version", "Print version")]
  | .sql =>
      [("-d, --dialect <DIALECT>",
          "sqlite, postgres or mysql (overrides the configured dialect)"),
        project, ("    --count", "Also render the count statement"), format,
        help]
  | .configInit =>
      [("    --force", "Overwrite an existing file"), project, format, help]
  | .help => []
  | .configHelp => []
  | _ => [project, format, help]
where
  project :=
    ("-p, --project <PROJECT>",
      "Project directory holding airquery.config.json " ++
      "(defaults to current directory)")
  format :=
    ("-f, --format <FORMAT>",
      "Output format (json for scripting) [default: text] " ++
      "[possible values: text, json]")
  help :=
    ("-h, --help", "Print help")

/-- A text with blanks behind it up to a width. -/
def padRight
    (width : Nat)
    (text : String) :
    String :=
  text ++ String.ofList (List.replicate (width - text.length) ' ')

/-- Names and their descriptions in two columns. -/
def table
    (rows : List (String × String)) :
    String :=
  let width := rows.foldl (fun (widest : Nat) row => max widest row.1.length) 0
  String.join (rows.map fun row =>
    "  " ++ padRight (width + 2) row.1 ++ row.2 ++ "\n")

/-- A table under a title, or nothing if it is empty. -/
def block
    (title : String)
    (rows : List (String × String)) :
    String :=
  if rows.isEmpty then "" else "\n" ++ title ++ ":\n" ++ table rows

/-- The commands of a level with their purposes. -/
def commandRows
    (level : Arguments.Level) :
    List (String × String) :=
  (commands level).map fun entry => (entry.1, purpose entry.2)

/-- How a level is written. -/
def usage
    (level : Arguments.Level) :
    String :=
  let known := if (options level).isEmpty then [] else ["[OPTIONS]"]
  let command := if level.isOpen then ["<COMMAND>"] else []
  "Usage: " ++ " ".intercalate
    ([programName] ++ path level ++ known ++ (words level).map Prod.fst ++
      command) ++ "\n"

/-- All that is said about a level. -/
def text
    (level : Arguments.Level) :
    String :=
  purpose level ++ "\n\n" ++ usage level ++
    block "Commands" (commandRows level) ++
    block "Arguments" (words level) ++ block "Options" (options level)

end Help

end PolyQuery
