import Routing.Regex.CharClass
import Routing.Regex.Fault
import Routing.Text.Age
import Routing.Text.Category
import Routing.Text.Script
import Routing.Text.BinaryProperty
import Routing.Text.BreakProperty

/-!
The properties of characters by name, as in `\p{Greek}` or `\p{gc=Lu}`.

Names are compared without regard to case, blanks, underscores, hyphens and a leading `is`. A bare
name is looked for among the binary properties, then the categories, then the scripts.
-/

namespace Routing.Regex

open Text

/-- The form in which names of properties are compared. Characters beyond 127 do not count. A name
`isc` keeps its first letters, because the rest alone would name something else. -/
def propertyKey (name : String) : String :=
  let plain (cs : List Char) : List Char :=
    (cs.filter fun c => c != ' ' && c != '_' && c != '-' && c.toNat < 128).map fun c =>
      if 'A' ≤ c ∧ c ≤ 'Z' then Char.ofNat (c.toNat + 32) else c
  match name.toList with
  | a :: b :: rest =>
    if (a == 'i' || a == 'I') && (b == 's' || b == 'S') then
      let key := plain rest
      if key = ['c'] then "isc" else String.ofList key
    else String.ofList (plain (a :: b :: rest))
  | cs => String.ofList (plain cs)

/-- The row of a table that has this name. -/
def rowNamed (tables : List (String × String)) (key : String) : Option String :=
  (tables.find? fun row => (row.1.splitOn " ").contains key).map (·.2)

/-- The class that a table has under this name. -/
def classNamed (tables : List (String × String)) (key : String) : Option CharClass :=
  (rowNamed tables key).map fun text => .table (.ofText text)

/-- The characters that have a category. -/
def assignedClass : CharClass :=
  categoryTables.foldl (fun a row => .union a (.table (.ofText row.2))) .nothing

/-- The class of a category or of a group of categories. -/
def categoryClass (key : String) : Option CharClass :=
  match key with
  | "any" => some .any
  | "assigned" => some assignedClass
  | "ascii" => some (.range '\x00' '\x7F')
  | _ =>
    if (unassignedNames.splitOn " ").contains key then some (.compl assignedClass)
    else match rowNamed categoryGroups key with
    | some members =>
      some ((members.splitOn " ").foldl
        (fun a member =>
          if member = "cn" then .union a (.compl assignedClass)
          else .union a ((classNamed categoryTables member).getD .nothing)) .nothing)
    | none => classNamed categoryTables key

/-- The class of a script. -/
def scriptClass (key : String) : Option CharClass := classNamed scriptTables key

/-- The class of the characters used with a script. -/
def scriptExtensionClass (key : String) : Option CharClass :=
  (classNamed scriptExtensionTables key).or (scriptClass key)

/-- The class of the characters that a version of Unicode has, of which each version adds some. -/
def ageClass (key : String) : Option CharClass :=
  let isNamed (row : String × String) : Bool := (row.1.splitOn " ").contains key
  if ageTables.any isNamed then
    let earlier := ageTables.takeWhile fun row => !isNamed row
    some <| ((ageTables.drop earlier.length).take 1 ++ earlier).foldl
      (fun a row => .union a (.table (.ofText row.2))) .nothing
  else none

/-- The class of a bare name. Three short names that are shared with another kind of property mean
the category. -/
def bareProperty (name : String) : Except Fault CharClass :=
  let key := propertyKey name
  let binary :=
    if key = "cf" ∨ key = "sc" ∨ key = "lc" then none else classNamed binaryPropertyTables key
  match (binary.or (categoryClass key)).or (scriptClass key) with
  | some set => .ok set
  | none => .error .unknownProperty

/-- The class of a value of a named property. -/
def propertyValue (name value : String) : Except Fault CharClass :=
  let key := propertyKey value
  let found := match propertyKey name with
    | "gc" | "generalcategory" => categoryClass key
    | "sc" | "script" => scriptClass key
    | "scx" | "scriptextensions" => scriptExtensionClass key
    | "age" => ageClass key
    | "gcb" | "graphemeclusterbreak" => classNamed graphemeBreakTables key
    | "wb" | "wordbreak" => classNamed wordBreakTables key
    | "sb" | "sentencebreak" => classNamed sentenceBreakTables key
    | _ => none
  match found with
  | some set => .ok set
  | none => .error .unknownProperty

end Routing.Regex
