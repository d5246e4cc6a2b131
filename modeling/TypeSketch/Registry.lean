-- The registry: which emitter answers to which name. A language has a primary
-- name and further names that point to it; all are kept in small letters and in
-- the order in which they came.
import TypeSketch.Code.Generation
import TypeSketch.Entries
import TypeSketch.Options.Build
import TypeSketch.Text.Blank
import TypeSketch.Text.CaseMap
import TypeSketch.Text.Lines

namespace TypeSketch

open Text

/-- The names of emitters of some kind. -/
structure Registry (α : Type := Emitter) where
  emitters : List (String × α)
  aliases : List (String × String)

/-- Why a registry refuses. -/
inductive RegistryError where
  | notAnEmitter
  | aliasIsLanguage (nickname : String)
  | aliasTaken (nickname language : String)
  | unknown (name : String) (known : List String)
  | notBuiltIn (name : String)
  | badConfig (typeName : String)
  deriving DecidableEq, Repr

/-- The error in words. -/
def RegistryError.message : RegistryError → String
  | notAnEmitter => "Generator class must inherit from CodeGenerator"
  | aliasIsLanguage nickname => s!"Alias '{nickname}' conflicts with existing primary language"
  | aliasTaken nickname language => s!"Alias '{nickname}' already points to '{language}'"
  | unknown name known =>
    s!"No generator registered for language: {name}. Available: {listed known}"
  | notBuiltIn name => s!"{name} is not a built-in target language"
  | badConfig typeName => s!"Invalid config type: <class '{typeName}'>"

namespace Registry

variable {α : Type}

/-- The registry without any name. -/
def empty : Registry α := ⟨[], []⟩

/-! ## Changes -/

/-- Why a further name cannot be given to a language, if it cannot. -/
def aliasConflict (r : Registry α) (language nickname : String) : Option RegistryError :=
  if Entries.has (toSmall nickname) r.emitters then some (.aliasIsLanguage nickname)
  else match Entries.get? (toSmall nickname) r.aliases with
    | some target => if target = language then none else some (.aliasTaken nickname target)
    | none => none

/-- Gives a language further names, one after the other. The first conflict stops it, unless
names may be taken over. -/
def addAliases (language : String) (replace : Bool) :
    List String → Registry α → Registry α × Option RegistryError
  | [], r => (r, none)
  | a :: as, r =>
    if toSmall a = language then addAliases language replace as r
    else match if replace then none else r.aliasConflict language a with
      | some e => (r, some e)
      | none =>
        addAliases language replace as
          { r with aliases := Entries.put (toSmall a) language r.aliases }

/-- Registers an emitter for a language with further names; what is no emitter is refused. A
language that is registered already stays as it is, unless it may be replaced. What was written
before a conflict stays written. -/
def register (r : Registry α) (language : String) (emitter : Option α) (aliases : List String)
    (replace : Bool) : Registry α × Option RegistryError :=
  match emitter with
  | none => (r, some .notAnEmitter)
  | some e =>
    let key := toSmall language
    if Entries.has key r.emitters && !replace then (r, none)
    else addAliases key replace aliases { r with emitters := Entries.put key e r.emitters }

/-- Removes a language and all names that point to it. -/
def unregister (r : Registry α) (language : String) : Registry α :=
  let key := toSmall language
  { emitters := Entries.erase key r.emitters
    aliases := r.aliases.filter fun a => a.2 ≠ key }

/-- The registry that holds every target language with its further names. -/
def builtin : Registry :=
  Language.all.foldl (fun r l => (r.register l.tag (some (.of l)) l.aliases false).1) empty

/-! ## Questions -/

/-- The primary names in the order of the alphabet. -/
def languages (r : Registry α) : List String := sortedNames (r.emitters.map (·.1))

/-- The names that point to a language, in the order of the alphabet. -/
def aliasesOf (r : Registry α) (language : String) : List String :=
  sortedNames ((r.aliases.filter fun a => a.2 = toSmall language).map (·.1))

/-- Every language with all its names. -/
def allNames (r : Registry α) : List (String × List String) :=
  r.emitters.map fun e => (e.1, e.1 :: r.aliasesOf e.1)

/-- The primary name behind a name. -/
def primary? (r : Registry α) (key : String) : Option String :=
  if Entries.has key r.emitters then some key else Entries.get? key r.aliases

/-- Whether a name is known. Blanks around it are not passed over. -/
def supports (r : Registry α) (name : String) : Bool := (r.primary? (toSmall name)).isSome

/-- The primary name behind a name with blanks around it. -/
def resolve (r : Registry α) (name : String) : Except RegistryError String :=
  match r.primary? (toSmall (trim name)) with
  | some key => .ok key
  | none => .error (.unknown name r.languages)

/-- The emitter behind a name. -/
def emitter (r : Registry α) (name : String) : Except RegistryError α := do
  let key ← r.resolve name
  match Entries.get? key r.emitters with
  | some e => return e
  | none => throw (.unknown name r.languages)

/-- The target language behind a name: the primary name has to be one of the built-in ones. -/
def language (r : Registry α) (name : String) : Except RegistryError Language := do
  let key ← r.resolve name
  match Language.ofTag? key with
  | some l => return l
  | none => throw (.notBuiltIn name)

/-- The name of a file for the code of a root type. -/
def fileName (r : Registry α) (rootName language : String) : Except RegistryError String := do
  let l ← r.language language
  return toSmall rootName ++ "." ++ l.extension

/-! ## Listing -/

/-- What a listing tells about a language. -/
structure Listing where
  emitter : Language
  label : String
  lexer : String
  aliases : List String

/-- What a listing tells about the language behind a name; the plain emitter has no listing. -/
def listing? (r : Registry) (name : String) : Except RegistryError (Option Listing) := do
  let key ← r.resolve name
  match ← r.emitter name with
  | .plain => return none
  | .of l =>
    let builtIn := Language.ofTag? key
    return some
      { emitter := l
        label := (builtIn.map Language.label).getD key
        lexer := (builtIn.map Language.lexer).getD key
        aliases := r.aliasesOf key }

end Registry

end TypeSketch
