-- What the command line says about itself: the usage line and the help text,
-- both made from the list of switches.
import TypeSketch.Command.Arguments

namespace TypeSketch.Command

open Text

namespace Switch

/-- What stands for the value of a switch. -/
def valueName? : Switch → Option String
  | url => some "URL"
  | language => some "LANGUAGE"
  | output => some "OUTPUT"
  | config => some "CONFIG"
  | rootName => some "ROOT_NAME"
  | set => some "KEY=VALUE"
  | logLevel => some ("\x7b" ++ ",".intercalate (Level.all.map Level.name) ++ "\x7d")
  | logFile => some "LOG_FILE"
  | help | stdin | optional | listLanguages | showDefaults | verbose => none

/-- What a switch is for. -/
def purpose : Switch → String
  | help => "show this help message and exit"
  | url => "URL to fetch JSON from"
  | stdin => "Read JSON from standard input"
  | language => "Target language (or alias)"
  | output => "Output file (default: stdout)"
  | config => "JSON file with generator options"
  | rootName => "Name of the root type (default: Root)"
  | optional => "Mark every property as optional"
  | set => "Set a generator option; VALUE is parsed as JSON when possible"
  | listLanguages => "List supported languages and exit"
  | showDefaults => "Show the default options of --language and exit"
  | verbose => "Show generation metadata"
  | logLevel => "Logging level"
  | logFile => "Also write logs to this file"

/-- A spelling with what stands for the value. -/
def withValue (s : Switch) (spelling : String) : String :=
  match s.valueName? with
  | some v => spelling ++ " " ++ v
  | none => spelling

end Switch

/-- The name of the program. -/
def programName : String := "json-typegen"

/-! ## Usage -/

/-- The usage line. -/
def usage : String :=
  let switches := Switch.all.map fun s => "[" ++ s.withValue (s.spellings.headD "") ++ "]"
  " ".intercalate (["usage:", programName] ++ switches ++ ["[file]"]) ++ "\n"

/-- What is said about a misuse. -/
def Misuse.report (m : Misuse) : String := usage ++ s!"{programName}: error: {m.message}\n"

/-! ## Help -/

/-- The column where purposes begin. -/
def purposeColumn : Nat := 24

/-- The lines on one argument. A long heading has its purpose on the next line. -/
def helpEntry (heading purpose : String) : List String :=
  let line := "  " ++ heading
  let gap (n : Nat) : String := String.ofList (List.replicate n ' ')
  if line.length + 2 ≤ purposeColumn then [line ++ gap (purposeColumn - line.length) ++ purpose]
  else [line, gap purposeColumn ++ purpose]

/-- The lines on several switches under a title. -/
def helpSection (title : String) (switches : List Switch) : List String :=
  ["", title ++ ":"] ++ switches.flatMap fun s =>
    helpEntry (listed (s.spellings.map s.withValue)) s.purpose

/-- The help text. -/
def helpText : String :=
  usage ++ unlines (
    ["", "Generate type definitions from sample JSON data", "", "positional arguments:"] ++
    helpEntry "file" "JSON file to read" ++
    helpSection "options" [.help, .url, .stdin, .language, .output] ++
    helpSection "generation options" [.config, .rootName, .optional, .set] ++
    helpSection "information" [.listLanguages, .showDefaults] ++
    helpSection "diagnostics" [.verbose, .logLevel, .logFile] ++
    ["", "Examples:",
      "  json-typegen data.json --language typescript --root-name Person",
      "  json-typegen -l go --set package_name=models -o models.go data.json",
      "  curl -s https://api.example.com/user | json-typegen --stdin -l rust",
      "  json-typegen --list-languages",
      "  json-typegen --show-defaults -l java"]) ++ "\n"

end TypeSketch.Command
