-- Names that objects of different structure share. Only the first of them is
-- kept as a type, so the others are reported.
import TypeSketch.Shape.Flatten
import TypeSketch.Entries

namespace TypeSketch.Shape

/-- The structures seen under each name, both in the order in which they first came. -/
def structures (shapes : List Shape) : List (String × List String) :=
  shapes.foldl
    (fun seen s =>
      let known := (Entries.get? s.name seen).getD []
      Entries.put s.name (if s.signature ∈ known then known else known ++ [s.signature]) seen)
    []

/-- The names that objects of more than one structure carry, with the structures. -/
def collisions (root : Shape) : List (String × List String) :=
  (structures (root.nestedAndRoot.filter isObject)).filter fun e => 1 < e.2.length

end TypeSketch.Shape
