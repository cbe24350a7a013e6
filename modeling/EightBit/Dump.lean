/-!
# Structured dumps

Values as nested text: single values, lists, and records with named fields. A dump is written
either in one line or with every field and every item on a line of its own.
-/

namespace EightBit

/-- A value to be dumped. -/
inductive Dump where
  /-- A single value in its own words. -/
  | single (text : String)
  | list (items : List Dump)
  /-- Named fields. With `more` the dump says that there are others besides. -/
  | record (name : String) (fields : List (String × Dump)) (more : Bool)

namespace Dump

mutual

/-- A dump in one line. -/
def inLine : Dump → String
  | .single text => text
  | .list items => "[" ++ ", ".intercalate (itemsInLine items) ++ "]"
  | .record name fields more =>
    let parts := fieldsInLine fields ++ if more then [".."] else []
    name ++ " \x7b " ++ ", ".intercalate parts ++ " \x7d"

/-- The items of a list, each in one line. -/
def itemsInLine : List Dump → List String
  | [] => []
  | item :: rest => item.inLine :: itemsInLine rest

/-- The fields of a record, each in one line. -/
def fieldsInLine : List (String × Dump) → List String
  | [] => []
  | (name, value) :: rest => (name ++ ": " ++ value.inLine) :: fieldsInLine rest

end

/-- The start of a line that lies `depth` levels deep. -/
def margin (depth : Nat) : String :=
  String.ofList (List.replicate (4 * depth) ' ')

mutual

/-- A dump over several lines whose first one continues a line `depth` levels deep. -/
def indented (depth : Nat) : Dump → String
  | .single text => text
  | .list items =>
    "[\n" ++ String.join (indentedItems (depth + 1) items) ++ margin depth ++ "]"
  | .record name fields more =>
    name ++ " \x7b\n" ++ String.join (indentedFields (depth + 1) fields) ++
      (if more then margin (depth + 1) ++ "..\n" else "") ++ margin depth ++ "\x7d"

/-- The items of a list, each on lines of its own and followed by a comma. -/
def indentedItems (depth : Nat) : List Dump → List String
  | [] => []
  | item :: rest => (margin depth ++ item.indented depth ++ ",\n") :: indentedItems depth rest

/-- The fields of a record, each on lines of its own and followed by a comma. -/
def indentedFields (depth : Nat) : List (String × Dump) → List String
  | [] => []
  | (name, value) :: rest =>
    (margin depth ++ name ++ ": " ++ value.indented depth ++ ",\n") :: indentedFields depth rest

end

/-- A dump over several lines. -/
def inLines (d : Dump) : String :=
  d.indented 0

end Dump

end EightBit
