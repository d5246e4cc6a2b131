-- The object types of a shape as one list. A type comes after the types of its
-- fields, and of several types with one name only the first is kept, so what a
-- kept type refers to stands before it.
import TypeSketch.Shape.Basic

namespace TypeSketch

/-- The members of a list whose name does not occur before them. -/
def firstsBy {α : Type} (name : α → String) : List α → List α
  | [] => []
  | a :: r => a :: (firstsBy name r).filter fun b => name b ≠ name a

namespace Shape

mutual

/-- The object shapes of a shape, its own last; within an object, in the order of its fields. -/
def objects : Shape → List Shape
  | scalar _ => []
  | array _ e => e.objects
  | object n fs => objectsOfFields fs ++ [object n fs]

/-- The object shapes of each field, one after the other. -/
def objectsOfFields : List Field → List Shape
  | [] => []
  | (_, s) :: r => s.objects ++ objectsOfFields r

end

/-- The object shapes below the root. -/
def nested : Shape → List Shape
  | object _ fs => objectsOfFields fs
  | s => s.objects

/-- The object shapes below the root, and the root. -/
def nestedAndRoot (root : Shape) : List Shape := root.nested ++ [root]

/-- The first shape of each name, the root last if its name is new. -/
def distinct (root : Shape) : List Shape := firstsBy name root.nestedAndRoot

/-- What a function gives for the first shape of each name, in order. -/
def mapDistinct {α : Type} (emit : Shape → α) (root : Shape) : List α := root.distinct.map emit

/-- The types to be defined for a root, in order. -/
def types (root : Shape) : List ObjectType := root.distinct.filterMap objectType?

end Shape

end TypeSketch
