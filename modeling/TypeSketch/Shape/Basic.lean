-- Shapes: what a sample tells about the type of a document. A scalar has a tag,
-- an array has the shape of its first item, an object has its keys in order.
-- Arrays and objects carry a name; scalars are named by their tag.

namespace TypeSketch

/-- The kinds of scalar. An array without items has items of the kind `any`. -/
inductive Scalar where
  | string
  | number
  | boolean
  | null
  | any
  deriving DecidableEq, Repr

/-- The tag of a kind of scalar. -/
def Scalar.tag : Scalar → String
  | string => "string"
  | number => "number"
  | boolean => "boolean"
  | null => "null"
  | any => "any"

/-- The shape of a value. -/
inductive Shape where
  | scalar (kind : Scalar)
  | array (name : String) (element : Shape)
  | object (name : String) (fields : List (String × Shape))
  deriving Repr

/-- A field of an object: the key as it is written, and the shape of the value. -/
abbrev Field := String × Shape

/-- A type to be defined: an object shape without its place in the document. -/
structure ObjectType where
  name : String
  fields : List Field

namespace Shape

/-- The name of a shape. -/
def name : Shape → String
  | scalar k => k.tag
  | array n _ => n
  | object n _ => n

/-- Whether a shape is an object. -/
def isObject : Shape → Bool
  | object .. => true
  | _ => false

/-- The object type of an object shape. -/
def objectType? : Shape → Option ObjectType
  | object n fs => some ⟨n, fs⟩
  | _ => none

/-- The fields of an object shape; other shapes have none. -/
def fields : Shape → List Field
  | object _ fs => fs
  | _ => []

/-- The shape under a key. -/
def field? (key : String) (s : Shape) : Option Shape := s.fields.lookup key

/-- The shape inside all arrays. -/
def innermost : Shape → Shape
  | array _ e => e.innermost
  | s => s

mutual

/-- The structure of a shape as one text, without the names. -/
def signature : Shape → String
  | scalar k => k.tag
  | array _ e => "[" ++ e.signature ++ "]"
  | object _ fs => "\x7b" ++ ",".intercalate (signatures fs) ++ "\x7d"

/-- The structure of each field, after its key. -/
def signatures : List Field → List String
  | [] => []
  | (k, s) :: r => (k ++ ":" ++ s.signature) :: signatures r

end

end Shape

end TypeSketch
