-- Presets: options under a name of their own. A preset that is called as its
-- language takes further entries; the others stand as they are.
import TypeSketch.Options.Build

namespace TypeSketch.Preset

/-- An entry that switches a setting. -/
def switch (name : String) (b : Bool) : String × Json := (name, .bool b)

/-- An entry that sets a text. -/
def word (name s : String) : String × Json := (name, .str s)

/-- The entries of the presets that are given by entries, with the language of each. -/
def fixed : List (String × Language × List (String × Json)) :=
  [("go_web_api", .go,
      [word "package_name" "models", switch "use_json_tag" true, switch "omit_empty" true,
        switch "use_pointers" true]),
    ("go_library", .go,
      [word "package_name" "types", switch "use_json_tag" true, switch "omit_empty" false,
        switch "use_pointers" false]),
    ("go_cli_tool", .go,
      [word "package_name" "main", switch "use_json_tag" false, switch "use_pointers" false]),
    ("typescript_api_response", .typescript,
      [switch "use_interface" true, switch "use_export" true, switch "use_readonly" true,
        switch "strict_null_checks" true]),
    ("typescript_loose", .typescript,
      [switch "use_interface" false, switch "use_export" false,
        switch "strict_null_checks" false]),
    ("javascript_es5", .javascript,
      [switch "use_es6" false, switch "generate_factory" true,
        switch "generate_validator" true]),
    ("python_dataclass", .python, [word "style" "dataclass", switch "use_slots" true]),
    ("python_pydantic", .python, [word "style" "pydantic"]),
    ("python_typeddict", .python,
      [word "style" "typeddict", switch "optional_properties" true]),
    ("python_strict", .python,
      [word "style" "dataclass", switch "use_slots" true, switch "use_frozen" true,
        switch "use_kw_only" true]),
    ("java_spring", .java,
      [word "class_style" "lombok", word "serialization_library" "jackson",
        switch "use_validation" true, switch "generate_builder" true])]

/-- The entries of a preset called as its language: the style of Python comes first, as a data
class unless the given entries name another. -/
def forLanguage (l : Language) (given : List (String × Json)) : List (String × Json) :=
  match l with
  | .python =>
    ("style", (Entries.get? "style" given).getD (.str "dataclass")) :: Entries.erase "style" given
  | _ => given

/-- The language and the entries of a preset, with the entries given to it. -/
def find? (name : String) (given : List (String × Json)) :
    Option (Language × List (String × Json)) :=
  match Language.ofTag? name with
  | some l => some (l, forLanguage l given)
  | none => Entries.get? name fixed

/-- The options of a preset, with the entries given to it. -/
def options? [Machine] (name : String) (given : List (String × Json)) :
    Option (Except OptionError LanguageOptions) :=
  (find? name given).map fun p => LanguageOptions.build p.1 p.2

end TypeSketch.Preset
