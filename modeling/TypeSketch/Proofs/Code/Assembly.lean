-- How code is put together. The header and the definitions of every language are
-- tidy texts, so the last touch finds nothing to change: the code is these texts
-- with one empty line between neighbours.
import TypeSketch.Proofs.Code.Emitted
import TypeSketch.Proofs.Target.CSharp
import TypeSketch.Proofs.Target.Go
import TypeSketch.Proofs.Target.Java
import TypeSketch.Proofs.Target.JavaScript
import TypeSketch.Proofs.Target.Kotlin
import TypeSketch.Proofs.Target.Php
import TypeSketch.Proofs.Target.Python
import TypeSketch.Proofs.Target.Rust
import TypeSketch.Proofs.Target.Swift
import TypeSketch.Proofs.Target.TypeScript

namespace TypeSketch

open Text Naming

namespace LanguageOptions

/-- The name of a package or a namespace that the options hold; without one it is empty. -/
def moduleName : LanguageOptions → String
  | go o => o.packageName
  | java o => o.packageName
  | csharp o => o.nameSpace
  | php o => o.nameSpace
  | _ => ""

/-- The lines of a definition are neat, whatever the keys of its fields are. -/
theorem neat_definitionLines (o : LanguageOptions) {t : ObjectType} (hname : IsWord t.name)
    (ht : ∀ f ∈ t.fields, f.2.NamedByWord) : Neat (o.definitionLines t) := by
  cases o with
  | typescript o => exact TypeScript.neat_definition o hname ht
  | javascript o => exact JavaScript.neat_definition o hname ht
  | go o => exact Go.neat_definition o hname ht
  | python o => exact Python.neat_definition o hname ht
  | rust o => exact Rust.neat_definition o hname ht
  | java o => exact Java.neat_definition o hname ht
  | csharp o => exact CSharp.neat_definition o hname ht
  | kotlin o => exact Kotlin.neat_definition o hname ht
  | swift o => exact Swift.neat_definition o hname ht
  | php o => exact Php.neat_definition o hname ht

/-- A header is neat between its line breaks, if there is one. -/
theorem neatText_header (o : LanguageOptions) (types : List ObjectType)
    (hmodule : ∀ c ∈ o.moduleName.toList, isBlank c = false) :
    trimBreaks (o.header types) = "" ∨ NeatText (trimBreaks (o.header types)) := by
  cases o with
  | typescript o => exact .inl rfl
  | javascript o => exact .inl rfl
  | go o => exact Go.neatText_header o hmodule
  | python o => exact Python.neatText_header o types
  | rust o => exact Rust.neatText_header o
  | java o => exact .inr (Java.neatText_header o hmodule)
  | csharp o => exact .inr (CSharp.neatText_header o hmodule)
  | kotlin o => exact Kotlin.neatText_header o
  | swift o => exact .inl rfl
  | php o => exact .inr (Php.neatText_header o hmodule)

/-- The types of a document whose root is named by a word have neat definitions. -/
theorem neatText_definition {o : LanguageOptions} (hroot : IsWord o.shared.rootName) {v : Json}
    {t : ObjectType} (ht : t ∈ (o.rootShape v).types) : NeatText (o.definition t) := by
  have hwithin : t.shape.Within (o.rootShape v) := Shape.within_of_mem_types ht
  have hlines := o.neat_definitionLines (Shape.isWord_name_of_within hroot hwithin)
    fun f hf => Shape.namedByWord_of_within hwithin hf
  exact hlines.neatText.trimBreaks

end LanguageOptions

/-- If some type is emitted, the root is named by a word and the name of the package or namespace
holds no blanks, then the code is the header without the line breaks around it, where there is one,
and the definitions of the types in order, with one empty line between neighbours. The last touch
changes nothing: no line of the header or of a definition ends in a blank, and no three lines in a
row are empty. -/
theorem code_is_put_together_as_it_is (o : LanguageOptions) (v : Json)
    (hroot : IsWord o.shared.rootName) (hmodule : ∀ c ∈ o.moduleName.toList, isBlank c = false)
    (htypes : (o.rootShape v).types ≠ []) :
    let types := (o.rootShape v).types
    let head := trimBreaks (o.header types)
    let parts := (if head = "" then [] else [head]) ++ types.map o.definition
    o.generate v = paragraphs parts ∧ Code.tidy (paragraphs parts) = paragraphs parts ∧
      IsTidy (o.generate v) ∧ ∀ s ∈ parts, IsTidy s := by
  intro types head parts
  have hparts : ∀ s ∈ parts, NeatText s := by
    intro s hs
    rcases List.mem_append.mp hs with hs | hs
    · by_cases hhead : head = ""
      · simp [hhead] at hs
      · rw [if_neg hhead, List.mem_singleton] at hs
        exact hs ▸ (o.neatText_header types hmodule).resolve_left hhead
    · obtain ⟨t, ht, rfl⟩ := List.mem_map.mp hs
      exact LanguageOptions.neatText_definition hroot ht
  have hne : parts ≠ [] := List.append_ne_nil_of_right_ne_nil _ (by simpa using htypes)
  have htidy : IsTidy (paragraphs parts) := (neatText_paragraphs hne hparts).isTidy
  have hcode : o.generate v = paragraphs parts := by
    have hdefinitions : types.map o.definition ≠ [] := by simpa using htypes
    have hparts : o.parts types = parts := by rw [LanguageOptions.parts, o.definitions_eq]
    rw [LanguageOptions.generate, LanguageOptions.code, o.definitions_eq,
      if_neg (by simpa using hdefinitions), hparts, htidy.tidy]
  exact ⟨hcode, htidy.tidy, hcode ▸ htidy, fun s hs => (hparts s hs).isTidy⟩

/-- The package clause and two structs, one with a key that holds blanks at its end. -/
theorem a_package_clause_and_two_structs_stand_as_they_are :
    let v : Json := .obj [("owner", .obj [("x \n", .null)])]
    let o : LanguageOptions := .go { packageName := "main" }
    IsWord o.shared.rootName ∧ (∀ c ∈ o.moduleName.toList, isBlank c = false) ∧
      (o.rootShape v).types ≠ [] ∧
      o.generate v = paragraphs ["package main",
        "type Owner struct \x7b\n\tX interface\x7b\x7d `json:\"x \\n,omitempty\"`\n\x7d",
        "type Root struct \x7b\n\tOwner Owner `json:\"owner,omitempty\"`\n\x7d"] := by
  intro v o
  have hroot : IsWord o.shared.rootName := ⟨by decide, by decide⟩
  have hmodule : ∀ c ∈ o.moduleName.toList, isBlank c = false := by decide
  have htypes : (o.rootShape v).types ≠ [] := by decide +kernel
  refine ⟨hroot, hmodule, htypes, ?_⟩
  rw [(code_is_put_together_as_it_is o v hroot hmodule htypes).1]
  decide +kernel

end TypeSketch
