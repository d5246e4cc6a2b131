-- Loading a document from a file, from a web address or from the standard
-- input. Whatever goes wrong names the place that the document was to come from.
import TypeSketch.Document.Url
import TypeSketch.Options.File
import TypeSketch.Text.Blank

namespace TypeSketch

open Text

/-! ## Replies -/

/-- What comes back from a web address: a page, or a failure with a text of its own. -/
inductive Reply where
  | page (status : Nat) (headers : List (String × String)) (body : String)
  | timeout
  | noConnection (text : String)
  | badStatus
  | failure (text : String)

namespace Reply

/-- The value of a header, whose name may be in small or capital letters; of several the last
counts. -/
def header? (name : String) (headers : List (String × String)) : Option String :=
  (headers.reverse.find? fun h => toSmall h.1 == name).map (·.2)

/-- Whether a status is one of a failed request. -/
def isFailure (status : Nat) : Bool := 400 ≤ status && status < 600

end Reply

/-! ## Errors -/

/-- Why there is no document. -/
inductive LoadError where
  | noSource
  | severalSources
  | emptyText (source : String)
  | badText (source : String) (error : Json.ReadError)
  | noFile (path : Path)
  | unreadable (path : Path) (reason : String)
  | badUrl (url : String)
  | timeout (url : String)
  | noConnection (url : String)
  | badStatus (url status : String)
  | failedRequest (url reason : String)
  | malformedUrl (error : UrlError)
  | excess (e : Json.Excess)
  | unreachable (path : Path) (fault : SystemFault)

/-- The error in words. -/
def LoadError.message : LoadError → String
  | noSource => "An input source is required (file, --url or --stdin)"
  | severalSources => "Only one input source may be given"
  | emptyText source => s!"Empty JSON input from {source}"
  | badText source e => s!"Invalid JSON from {source}: {e.message}"
  | noFile p => s!"File not found: {p.text}"
  | unreadable p reason => s!"Error reading file {p.text}: {reason}"
  | badUrl url => s!"Invalid URL: {url}"
  | timeout url => s!"Request timeout for URL: {url}"
  | noConnection url => s!"Connection error for URL: {url}"
  | badStatus url status => s!"HTTP error {status} for URL: {url}"
  | failedRequest url reason => s!"Request error for URL {url}: {reason}"
  | malformedUrl e => e.message
  | excess e => e.message
  | unreachable p f => f.message p

/-! ## Loading -/

/-- A document with a description of where it came from. -/
structure Loaded where
  source : String
  document : Json

/-- The document in a text that came from a source. -/
def parseDocument [Machine] (text source : String) : Noted LoadError Json := do
  if trim text = "" then throw (.emptyText source)
  match Json.read (Machine.limits .document) text with
  | .ok v => return v
  | .error (.excess e) => throw (.excess e)
  | .error e =>
    Noted.note .debug .loading s!"Invalid JSON from {source}: {e.message}"
    throw (.badText source e)

/-- The text of a file. -/
def readText (d : Disk) (p : Path) : Except LoadError String :=
  match d.read p with
  | .error f => .error (.unreadable p (f.message p))
  | .ok bytes =>
    match Utf8.decodeLines bytes with
    | .error e => .error (.unreadable p e.message)
    | .ok text => .ok text

/-- The document in a file. The notes may go to the disk as they are made, so the disk depends on
those that have been made already. -/
def loadFile [Machine] (disk : Journal → Disk) (p : Path) : Noted LoadError Loaded := do
  Noted.note .debug .loading s!"Attempting to load JSON from file: {p.text}"
  match (disk (← get)).look p with
  | .error f => throw (.unreachable p f)
  | .ok (some (.file _)) =>
    if !p.isJson then
      Noted.note .warning .loading s!"File does not have .json extension: {p.text}"
    let text ← Noted.ofExcept id (readText (disk (← get)) p)
    let v ← parseDocument text p.text
    Noted.note .info .loading s!"Successfully loaded JSON from {p.text}"
    return ⟨"📄 " ++ p.text, v⟩
  | .ok _ =>
    Noted.note .debug .loading s!"File not found: {p.text}"
    throw (.noFile p)

/-- Gives up a request with a note on the reason. -/
def refuseUrl {α : Type} (note : String) (e : LoadError) : Noted LoadError α := do
  Noted.note .debug .loading note
  throw e

/-- The document behind a web address, which answers with a reply. -/
def loadUrl [Machine] (reply : Reply) (url : String) : Noted LoadError Loaded := do
  Noted.note .debug .loading s!"Attempting to load JSON from URL: {url}"
  let parsed ← Noted.ofExcept .malformedUrl (Url.parse url)
  if !parsed.isWeb then refuseUrl s!"Invalid URL format: {url}" (.badUrl url)
  match reply with
  | .timeout => refuseUrl s!"Request timeout for URL: {url}" (.timeout url)
  | .noConnection text => refuseUrl s!"Connection error for URL {url}: {text}" (.noConnection url)
  | .badStatus => refuseUrl s!"HTTP error unknown for URL: {url}" (.badStatus url "unknown")
  | .failure text => refuseUrl s!"Request error for URL {url}: {text}" (.failedRequest url text)
  | .page status headers body =>
    if Reply.isFailure status then
      refuseUrl s!"HTTP error {status} for URL: {url}" (.badStatus url (toString status))
    let type := toSmall ((Reply.header? "content-type" headers).getD "")
    if !(holds type "json" || parsed.path.endsWith ".json") then
      Noted.note .warning .loading s!"URL {url} does not have JSON content type: {type}"
    let v ← parseDocument body url
    Noted.note .info .loading s!"Successfully loaded JSON from {url}"
    return ⟨"🌐 " ++ url, v⟩

/-- The document on the standard input. -/
def loadInput [Machine] (text : String) : Noted LoadError Loaded := do
  Noted.note .debug .loading "Loading JSON from standard input"
  let v ← parseDocument text "<stdin>"
  return ⟨"📥 <stdin>", v⟩

/-- What a document can come from: the disk as it is once some notes have been made, the reply of
the web, the standard input. -/
structure Surroundings where
  disk : Journal → Disk
  reply : Reply
  input : String

/-- The document from the one source that is named. An empty name names nothing. -/
def load [Machine] (s : Surroundings) (file url : Option String) (stdin : Bool) :
    Noted LoadError Loaded :=
  match file.filter (· ≠ ""), url.filter (· ≠ ""), stdin with
  | none, none, false => throw .noSource
  | some f, none, false => loadFile s.disk (Path.ofString f)
  | none, some u, false => loadUrl s.reply u
  | none, none, true => loadInput s.input
  | _, _, _ => throw .severalSources

end TypeSketch
