import BindingGlue.Text.Case

/-!
# Names on the typed surface

How the name of a native method gives the name of the typed method and the key of a property. A
prefix counts only where an upper-case character follows it, so `globalPos` keeps its `gl` and
`issue` its `is`; the setter's three first characters are dropped unseen.
-/

namespace BindingGlue.Naming

open Text

/-- What follows the prefix, if the name starts with it and an upper-case character is next. -/
def afterMarkedPrefix? (head name : List Char) : Option (List Char) :=
  match head.isPrefixOf? name with
  | some (c :: rest) => if isUpper c then some (c :: rest) else none
  | _ => none

/-- The name without a legacy prefix: what follows it starts in lower case. The empty prefix leaves
every name alone. -/
def stripLegacyPrefix (head name : String) : String :=
  if head.isEmpty then name
  else match afterMarkedPrefix? head.toList name.toList with
    | some rest => String.ofList (lowerFirst rest)
    | none => name

/-- The key of the property that a setter writes: the name after its first three characters, from
a lower-case character on. -/
def setterKey (name : String) : String :=
  String.ofList (lowerFirst (name.toList.drop 3))

/-- The key of the property that a getter reads: the name without `is` or `get` in front of an
upper-case character, from a lower-case character on; any other name is the key. -/
def getterKey (name : String) : String :=
  match (afterMarkedPrefix? ['i', 's'] name.toList).or
      (afterMarkedPrefix? ['g', 'e', 't'] name.toList) with
  | some rest => String.ofList (lowerFirst rest)
  | none => name

end BindingGlue.Naming
