import BindingGlue.Types.Spelling
import BindingGlue.Types.Vocabulary

/-!
# Catalogues of types

A catalogue answers two questions: which type a spelling stands for as a result, and which as an
argument. Of several entries with one name the last one counts, and among the arguments the last one
that can be passed. The catalogue is closed: a spelling that is not listed stands for no type.
-/

namespace BindingGlue

/-- A catalogue, given by its entries in order. The type `void` is a result type of every
catalogue, and an entry named `void` replaces it. -/
structure Catalogue where
  /-- The entries besides `void`. -/
  entries : List TypeEntry

/-- The last entry of that name. -/
def lastNamed? (entries : List TypeEntry) (name : String) : Option TypeEntry :=
  entries.reverse.find? (·.name == name)

/-- The entries that no later entry of the same name replaces. -/
def withoutReplaced : List TypeEntry → List TypeEntry
  | [] => []
  | entry :: later =>
    if later.any (·.name == entry.name) then withoutReplaced later
    else entry :: withoutReplaced later

namespace Catalogue

/-- The catalogue of the standard vocabulary. -/
def standard : Catalogue where
  entries := Vocabulary.standard

/-- The standard vocabulary with further entries, which replace those of the same name. -/
def extended (extra : List TypeEntry) : Catalogue where
  entries := withoutReplaced (Vocabulary.standard ++ extra)

/-- The result types. -/
def results (catalogue : Catalogue) : List TypeEntry :=
  Vocabulary.void :: catalogue.entries

/-- The argument types. -/
def arguments (catalogue : Catalogue) : List TypeEntry :=
  catalogue.entries.filter (·.isPassable)

/-- The result type that a spelling stands for. -/
def resultType? (catalogue : Catalogue) (spelling : String) : Option TypeEntry :=
  lastNamed? catalogue.results (Types.bareName spelling)

/-- The argument type that a spelling stands for. -/
def argumentType? (catalogue : Catalogue) (spelling : String) : Option TypeEntry :=
  lastNamed? catalogue.arguments (Types.bareName spelling)

/-- The entry of a list's elements, found by its exact name. -/
def elementType? (catalogue : Catalogue) (entry : TypeEntry) : Option TypeEntry :=
  entry.element.bind (lastNamed? catalogue.results)

/-- The names of the entries, each once, in increasing order. -/
def sortedNames (entries : List TypeEntry) : List String :=
  ((entries.map (·.name)).eraseDups).mergeSort fun a b ↦ decide (a ≤ b)

/-- The names of the result types, in increasing order. -/
def resultNames (catalogue : Catalogue) : List String :=
  sortedNames catalogue.results

/-- The names of the argument types, in increasing order. -/
def argumentNames (catalogue : Catalogue) : List String :=
  sortedNames catalogue.arguments

end Catalogue

end BindingGlue
