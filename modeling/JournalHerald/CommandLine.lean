/-!
# The command line

The program takes one option, the folder of the journal files. Its value follows as an argument of its own or
behind an equals sign, and the last one counts.

* `CommandLine` is what can be wanted, `CommandLine.ofArguments` reads it from the arguments;
* `CommandLine.usage` and `CommandLine.helpText` are the texts for the user.
-/

namespace JournalHerald

/-- What the arguments ask for. -/
inductive CommandLine where
  /-- Run, with the path of the folder of the journal files if it is given. -/
  | run (journalPath : Option String)
  | help
  /-- The arguments cannot be understood. -/
  | refused (reason : String)
  deriving DecidableEq, Repr

namespace CommandLine

/-- The value in an argument that holds the option and its value. -/
def joinedValue? (argument : String) : Option String :=
  let opening := "--journal-path=".toList
  if opening.isPrefixOf argument.toList then some (String.ofList (argument.toList.drop opening.length))
  else none

/-- Read arguments, given the path that earlier ones have set. -/
def ofRest (journalPath : Option String) : List String → CommandLine
  | [] => .run journalPath
  | "--journal-path" :: value :: rest => ofRest (some value) rest
  | argument :: rest =>
    if argument = "-h" ∨ argument = "--help" then .help
    else if argument = "--journal-path" then .refused "argument --journal-path: expected one argument"
    else
      match joinedValue? argument with
      | some path => ofRest (some path) rest
      | none => .refused ("unrecognized arguments: " ++ argument)

/-- Read the arguments. -/
def ofArguments : List String → CommandLine :=
  ofRest none

/-- How to call the program. -/
def usage : String := "usage: journal-herald [-h] [--journal-path JOURNAL_PATH]"

/-- The text for a user who asks for help. -/
def helpText : String :=
  usage ++ "\n\noptions:\n" ++
    "  -h, --help            show this help message and exit\n" ++
    "  --journal-path JOURNAL_PATH\n" ++
    "                        folder containing the Elite Dangerous journal files"

/-- The exit code for arguments that cannot be understood. -/
def refusedCode : Nat := 2

end CommandLine

end JournalHerald
