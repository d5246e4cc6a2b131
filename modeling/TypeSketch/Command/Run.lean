-- A run of the program: from the arguments of the command line to the code on
-- the standard output or in a file. What goes wrong in the user's hands is told
-- on the error output and ends the run with a code of its own.
import TypeSketch.Command.Help
import TypeSketch.Command.Session

namespace TypeSketch

open Text

namespace Command

/-! ## Surroundings -/

/-- How the interpreter gives up the generation of code because values are nested too deep for it:
what was noted until then, and its words. -/
structure Exhaustion where
  notes : Journal
  words : String

/-- What surrounds a run: the screens, the level that the environment sets, the text before each
line of the log file, the disk, the reply of the web, the standard input, and where the interpreter
gives up. -/
structure Environment where
  console : Console
  level? : Option String := none
  stamp : String := ""
  disk : Disk := {}
  reply : Reply := .noConnection ""
  input : String := ""
  exhaustion? : LanguageOptions → Json → Option Exhaustion := fun _ _ => none

/-! ## Tables -/

/-- Writes the languages that there are. -/
def listLanguages (c : Console) : Act Unit := do
  let r := Registry.builtin
  let rows ← r.languages.mapM fun name => do
    match ← Act.of .registry (r.listing? name) with
    | some l =>
      return [name, l.label, "." ++ l.emitter.extension,
        if l.aliases.isEmpty then "-" else listed l.aliases]
    | none => return [name, "", "", "-"]
  Act.write (← Act.of .screen (c.table .rounded "Supported Languages"
    ["Language", "Label", "Extension", "Aliases"] rows))

/-- A setting's value in a table. -/
def defaultText : SettingValue → String
  | .flag b => if b then "true" else "false"
  | .text s => quote s

/-- Writes the default options of a language. -/
def showDefaults (c : Console) (l : Language) : Act Unit := do
  let rows := (LanguageOptions.default l).values.map fun v => [v.1, defaultText v.2]
  Act.write (← Act.of .screen (c.table .simple (l.label ++ " default options")
    ["Option", "Default"] rows))

/-- The facts about generated code, each with its title. -/
def facts (m : Metadata) : List (List String) :=
  [["Language", m.language.tag], ["File Extension", "." ++ m.language.extension],
    ["Type Count", toString m.typeCount], ["Root Name", m.rootName],
    ["Optional Properties", Arguments.shownFlag m.optionalProperties],
    ["Has Collisions", Arguments.shownFlag m.hasCollisions]]

/-- Shows the facts and the warnings about generated code on the error output. -/
def showFacts (c : Console) (g : Generation) : Act Unit := do
  Act.writeError (← Act.of .screen (c.table .simple "Generation Metadata" ["Property", "Value"]
    (facts g.metadata)))
  if !g.warnings.isEmpty then
    Act.tell c "[yellow]Warnings:[/yellow]"
    for w in g.warnings do
      Act.tell c s!"  [yellow]•[/yellow] {c.escape w}"

/-! ## Options -/

/-- The texts of pairs, up to the first pair that is nothing. -/
def pairTexts : List (Operand String) → List String
  | .given pair :: ps => pair :: pairTexts ps
  | _ => []

/-- The entries of pairs. A pair that is nothing breaks the run off, unless an earlier one is
wrong. -/
def pairEntries [Machine] (ps : List (Operand String)) :
    Except CommandError (List (String × Json)) := do
  let entries ← (overrideEntries (pairTexts ps)).mapError .override
  if ps.contains .nothing then throw (.emptySwitch .set) else return entries

/-- The entries that the arguments give: the pairs, and over them the root name and the switch for
optional properties. -/
def givenEntries [Machine] (a : Arguments) : Except CommandError (List (String × Json)) := do
  let pairs ← pairEntries a.overrides
  let named := match Operand.text? a.rootName with
    | some name => Entries.put "root_name" (.str name) pairs
    | none => pairs
  return if a.optional then Entries.put "optional_properties" (.bool true) named else named

/-- The options of a language under the arguments. -/
def optionsFor [Machine] (a : Arguments) (l : Language) : Act LanguageOptions := do
  let entries ← Act.of id (givenEntries a)
  let record ← Act.perform .setup
    (OptionRecord.buildFrom (← get).disk (.of l) (Operand.text? a.config) entries)
  Act.of .setup (record.give (.of l))

/-! ## Code -/

/-- Where code for a root type goes: into a directory under a name of its own. -/
def outputPath (d : Disk) (l : Language) (rootName output : String) : Except CommandError Path := do
  let p := Path.ofString output
  match d.look p with
  | .error f => throw (.unreachable p f)
  | .ok (some .directory) =>
    let name ← (Registry.builtin.fileName rootName l.tag).mapError .registry
    return p.join (Path.ofString name)
  | .ok _ => return p

/-- Writes a text to a file. A path that the system cannot even take breaks the run off, and so
does a text without bytes, for which the file has been emptied by then. -/
def writeFile [Machine] (p : Path) (text : String) : Act Unit := do
  Act.of .encoding (Utf8.asPath p.text)
  let s ← get
  match s.disk.write p ((Utf8.bytes text).toOption.getD []) with
  | .error .nullByte => throw (.unreachable p .nullByte)
  | .error f => throw (.unwritable p f)
  | .ok d =>
    set { s with disk := d }
    discard (Act.of .encoding (Utf8.bytes text))

/-- Writes code to a file and tells so. -/
def saveCode [Machine] (c : Console) (o : LanguageOptions) (output code : String) :
    Act Unit := do
  let p ← Act.of id (outputPath (← get).disk o.language o.shared.rootName output)
  writeFile p (code ++ "\n")
  Act.tell c s!"[green]✓[/green] Saved {o.language.tag} code to [cyan]{p.text}[/cyan]"

/-- Writes code to the standard output. -/
def printCode (c : Console) (l : Language) (code : String) : Act Unit := do
  if code = "" then Act.note .info .command "No object types found; nothing generated"
  else Act.write (← Act.of .screen (c.printed l.lexer code))

/-- Generates the code for a document, unless the interpreter gives up, and writes it where the
arguments want it. -/
def generate [Machine] (env : Environment) (a : Arguments) (o : LanguageOptions) (v : Json) :
    Act Unit := do
  match env.exhaustion? o v with
  | some x =>
    modify fun s => s.keepAll x.notes
    throw (.exhausted x.words)
  | none =>
    let g := o.generation v
    modify fun s => s.keepAll (o.generationNotes v)
    for w in g.warnings do
      Act.note .warning .command w
    match Operand.text? a.output with
    | some output => saveCode env.console o output g.code
    | none => printCode env.console o.language g.code
    if a.verbose then showFacts env.console g

/-! ## Runs -/

/-- Does what the arguments ask for. -/
def execute [Machine] (env : Environment) (a : Arguments) : Act Unit := do
  if a.listLanguages then listLanguages env.console
  else
    match Operand.text? a.language with
    | none => throw .noLanguage
    | some name =>
      let l ← Act.of .registry (Registry.builtin.language name)
      if a.showDefaults then showDefaults env.console l
      else
        let o ← optionsFor a l
        let work := load (← get).surroundings a.file (Operand.text? a.url) a.stdin
        let loaded ← Act.perform .load work
        Act.note .info .command s!"Generating {l.tag} code from {loaded.source}"
        generate env a o loaded.document

/-- Does what the arguments ask for and gives the exit code. -/
def attempt [Machine] (env : Environment) (a : Arguments) : Act Nat :=
  tryCatch (do execute env a; return 0) fun e => do
    if e.isTold then
      Act.tell env.console (e.marked env.console)
      return 1
    else throw e

/-- The log that the arguments and the level of the surroundings set up, and the disk with the log
file on it. -/
def setUpLog [Machine] (a : Arguments) (level? : Option String) (stamp : String) (d : Disk) :
    Except CommandError (Log × Disk) := do
  let least ← match a.logLevel with
    | some (.given l) => pure l
    | some .nothing => throw (.emptySwitch .logLevel)
    | none => (Level.leastOf (level?.getD "WARNING")).mapError .level
  match Operand.text? a.logFile with
  | none => return (⟨least, none, stamp⟩, d)
  | some name =>
    let p := (Path.ofString name).collapsed
    (Utf8.asPath p.text).mapError .encoding
    let d ← (d.append p []).mapError (.log p)
    return (⟨least, some p, stamp⟩, d)

/-- The paths that a run with these arguments may read or write, as far as they are known
beforehand. -/
def mentionedPaths (a : Arguments) : List Path :=
  let given := [a.file, Operand.text? a.config, Operand.text? a.output].filterMap
    (·.map Path.ofString)
  let log := (Operand.text? a.logFile).toList.map fun name => (Path.ofString name).collapsed
  let inside := (Operand.text? a.output).toList.filterMap fun output => do
    let language ← Operand.text? a.language
    let rootName := (Operand.text? a.rootName).getD "Root"
    let name ← (Registry.builtin.fileName rootName language).toOption
    return (Path.ofString output).join (Path.ofString name)
  given ++ log ++ inside

/-- What a run ends with: an exit code, or an error that broke it off, and the session as it is
then. -/
structure Outcome where
  exit : Except CommandError Nat
  session : Session

/-- The session before anything is logged. -/
def Environment.session (e : Environment) : Session where
  log := { least := .warning, stamp := e.stamp }
  disk := e.disk
  reply := e.reply
  input := e.input

/-- A run with arguments that have been read. -/
def runWith [Machine] (env : Environment) (a : Arguments) : Outcome :=
  match setUpLog a env.level? env.stamp env.disk with
  | .error e => ⟨.error e, env.session⟩
  | .ok (log, d) =>
    let act : Act Nat := do
      Act.note .debug .main ("Arguments: " ++ a.describe)
      attempt env a
    let (exit, s) := act.run.run { env.session with log := log, disk := d }
    ⟨exit, s⟩

/-- A run of the program. -/
def run [Machine] (env : Environment) (args : List String) : Outcome :=
  match Arguments.read args with
  | .ok a => runWith env a
  | .error .help => ⟨.ok 0, { env.session with output := helpText }⟩
  | .error (.misuse m) => ⟨.ok 2, { env.session with errors := m.report }⟩

end Command

end TypeSketch
