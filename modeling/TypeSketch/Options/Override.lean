-- Option entries given as pairs of a name and a value with an equals sign
-- between them. A value that is JSON keeps its type, any other one is a text.
import TypeSketch.Entries
import TypeSketch.Json.Reader
import TypeSketch.Text.Blank

namespace TypeSketch

open Text

/-- Why pairs give no option entries. -/
inductive OverrideError where
  | badPair (pair : String)
  | excess (e : Json.Excess)
  deriving DecidableEq, Repr

namespace OverrideError

/-- The error in words. -/
def message : OverrideError → String
  | badPair pair => s!"Invalid --set value '{pair}' (expected KEY=VALUE)"
  | excess e => e.message

end OverrideError

/-- The value that a text stands for. -/
def overrideValue [Machine] (text : String) : Except OverrideError Json :=
  match Json.read (Machine.limits .pair) text with
  | .ok v => .ok v
  | .error (.excess e) => .error (.excess e)
  | .error _ => .ok (.str text)

/-- The entry of a pair. -/
def overrideEntry [Machine] (pair : String) : Except OverrideError (String × Json) :=
  let key := trim (String.ofList (pair.toList.takeWhile (· != '=')))
  match pair.toList.dropWhile (· != '=') with
  | [] => .error (.badPair pair)
  | _ :: text =>
    if key = "" then .error (.badPair pair)
    else return (key, ← overrideValue (String.ofList text))

/-- The entries of pairs; of two with one key the later value counts, in the earlier place. -/
def overrideEntries [Machine] (pairs : List String) :
    Except OverrideError (List (String × Json)) :=
  return Entries.ofList (← pairs.mapM overrideEntry)

end TypeSketch
