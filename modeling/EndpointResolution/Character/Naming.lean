import EndpointResolution.Character.Age
import EndpointResolution.Character.Property
import EndpointResolution.Character.Script
import EndpointResolution.Character.Segmentation

/-!
Sets of characters by the names of their properties. Letter case, blanks, hyphens and underscores
make no difference in a name, and neither does an `is` at its beginning.
-/

namespace EndpointResolution.Character

def withoutIs : List Char → List Char
  | i :: s :: rest => if i.toLower = 'i' ∧ s.toLower = 's' then rest else i :: s :: rest
  | name => name

def isIgnored (c : Char) : Bool := c = ' ' || c = '_' || c = '-' || 128 ≤ c.toNat

def essential (name : List Char) : List Char := (name.filter (!isIgnored ·)).map Char.toLower

/-- The short name of the property for comments begins with letters that are no `is`. -/
def loose (name : List Char) : List Char :=
  let short := essential (withoutIs name)
  if withoutIs name ≠ name ∧ short = ['c'] then ['i', 's', 'c'] else short

def findNamed? (name : List Char) (table : List (List String × Ranges)) : Option Ranges :=
  (table.find? fun row => row.1.any fun known => essential known.toList = loose name).map (·.2)

/-- A category, a script or a property that characters have or have not. -/
def named? (name : List Char) : Option Ranges :=
  [Property.table, GeneralCategory.table, Script.table].findSome? (findNamed? name)

/-- Properties of which each character has one of several values. -/
def valueTables : List (List String × List (List String × Ranges)) :=
  [(["General_Category", "gc"], GeneralCategory.table),
    (["Script", "sc"], Script.table),
    (["Script_Extensions", "scx"], Script.extensions),
    (["Age"], Age.table),
    (["Grapheme_Cluster_Break", "GCB"], Segmentation.clusterTable),
    (["Word_Break", "WB"], Segmentation.wordTable),
    (["Sentence_Break", "SB"], Segmentation.sentenceTable)]

def valued? (property value : List Char) : Option Ranges := do
  let row ← valueTables.find? fun row =>
    row.1.any fun known => essential known.toList = loose property
  findNamed? value row.2

end EndpointResolution.Character
