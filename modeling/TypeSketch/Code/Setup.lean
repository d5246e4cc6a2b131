-- Setting up the emitter behind a name with its options, and the ways in which
-- code is asked for by name.
import TypeSketch.Options.File
import TypeSketch.Registry

namespace TypeSketch

/-- Where the options of an emitter come from. The path of a file may be empty, and then stands
for no file. -/
inductive Setup where
  | defaults
  | entries (es : List (String × Json))
  | file (path : String)
  | record (r : OptionRecord)
  | other (typeName : String)

/-- Why an emitter is not set up, or has nothing to say. The plain emitter can never be. -/
inductive SetupError where
  | registry (e : RegistryError)
  | option (e : OptionError)
  | file (e : OptionFileError)
  | generation (e : GenerationError)
  | mismatched (language : Language) (wanted given : Emitter)
  | plainEmitter

/-- The error in words. -/
def SetupError.message : SetupError → String
  | registry e => e.message
  | option e => e.message
  | file e => e.message
  | generation e => e.message
  | mismatched l wanted given =>
    s!"Options for {l.tag} must be {wanted.recordTitle}, got {given.recordTitle}"
  | plainEmitter => "Can't instantiate abstract class CodeGenerator"

namespace OptionRecord

/-- A record built from a file, if there is one, and entries written over it. An empty path stands
for no file. -/
def buildFrom [Machine] (d : Disk) (e : Emitter) (file : Option String)
    (entries : List (String × Json)) : Noted SetupError OptionRecord := do
  let base ←
    match file.filter (· ≠ "") with
    | none => pure []
    | some p => (loadOptionFile d (Path.ofString p)).adapt .file
  Noted.ofExcept .option (build e (merged base entries))

/-- The options of the emitter that a record is given to. -/
def give (r : OptionRecord) : Emitter → Except SetupError LanguageOptions
  | .plain => .error .plainEmitter
  | .of l => (r.forLanguage l).mapError .generation

end OptionRecord

/-- The options under which an emitter that was set up with some works, where a record may be given
for the one call. -/
def LanguageOptions.replacedBy (own : LanguageOptions) :
    Option OptionRecord → Except SetupError LanguageOptions
  | none => .ok own
  | some given => given.give (.of own.language)

/-! ## Samples -/

/-- What code is asked for: the text of a document, or the document itself. -/
inductive Sample where
  | text (s : String)
  | document (v : Json)

/-- The document of a sample. -/
def Sample.read [Machine] : Sample → Except Json.ReadError Json
  | text s => Json.read (Machine.limits .sample) s
  | document v => .ok v

/-- Why a sample gives no code. -/
inductive SampleError where
  | unreadable (e : Json.ReadError)
  | setup (e : SetupError)

/-- The error in words. -/
def SampleError.message : SampleError → String
  | unreadable e => e.message
  | setup e => e.message

/-! ## Code by name -/

namespace Registry

/-- The emitter behind a name, set up with options. -/
def setUp [Machine] (r : Registry) (d : Disk) (name : String) (s : Setup) :
    Noted SetupError LanguageOptions := do
  let e ← Noted.ofExcept .registry (r.emitter name)
  let record ←
    match s with
    | .defaults => pure (.default e)
    | .entries es => OptionRecord.buildFrom d e none es
    | .file p => OptionRecord.buildFrom d e (some p) []
    | .record given => pure given
    | .other typeName => throw (.registry (.badConfig typeName))
  Noted.ofExcept id (record.give e)

/-- The code for a document from the emitter behind a name, with its default options or a given
record. -/
def generate (r : Registry) (name : String) (given : Option OptionRecord) (v : Json) :
    Except SetupError String := do
  let e ← (r.emitter name).mapError .registry
  let own ← (OptionRecord.default e).give e
  return (← own.replacedBy given).generate v

/-- The target language behind a name with a record for it: the default one, or a given one that
has to be of the language's emitter. Every record will do for the plain emitter, for every record
has the shared settings. -/
def pair (r : Registry) (name : String) (given : Option OptionRecord) :
    Except SetupError (Language × OptionRecord) := do
  let l ← (r.language name).mapError .registry
  let e ← (r.emitter l.tag).mapError .registry
  let record := given.getD (.default e)
  if e = .plain ∨ record.emitter = e then return (l, record)
  else throw (.mismatched l e record.emitter)

/-- The code for a document under such a pair. -/
def generateFor (r : Registry) (p : Language × OptionRecord) (v : Json) :
    Except SetupError String :=
  r.generate p.1.tag (some p.2) v

/-- The code for a sample from the emitter behind a name, set up with entries. The sample is read
first. -/
def generateSample [Machine] (r : Registry) (name : String) (entries : List (String × Json))
    (sample : Sample) : Except SampleError String := do
  let v ← sample.read.mapError .unreadable
  let o ← (r.setUp {} name (.entries entries)).outcome.1.mapError .setup
  return (o.generation v).code

end Registry

end TypeSketch
