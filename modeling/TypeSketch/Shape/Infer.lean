-- The shape of a document. An array takes the shape of its first item and hands
-- it its own name with "Item" behind; an object names each field's shape after
-- the key.
import TypeSketch.Json.Basic
import TypeSketch.Naming.Identifier
import TypeSketch.Shape.Basic

namespace TypeSketch

/-- The type name of a key. -/
def typeName (key : String) : String := Naming.convertKey .pascal "_" "Object" key

namespace Shape

mutual

/-- The shape of a value under a name. -/
def infer (name : String) : Json → Shape
  | .null => scalar .null
  | .bool _ => scalar .boolean
  | .num _ => scalar .number
  | .str _ => scalar .string
  | .arr vs => array name (inferElement (name ++ "Item") vs)
  | .obj es => object name (inferFields es)

/-- The shape of the first item under a name. -/
def inferElement (name : String) : List Json → Shape
  | [] => scalar .any
  | v :: _ => infer name v

/-- The fields of an object's entries. -/
def inferFields : List (String × Json) → List Field
  | [] => []
  | (k, v) :: es => (k, infer (typeName k) v) :: inferFields es

end

end Shape

end TypeSketch
