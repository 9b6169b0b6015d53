/-!
Contract: records, which spell out a value by its name and fields on one line.
-/

namespace TypedBytecode.Record

/-- A value with named fields. -/
def fields (name : String) (contents : List (String × String)) : String :=
  name ++ " \x7b " ++
    String.intercalate ", " (contents.map (fun field => field.1 ++ ": " ++ field.2)) ++ " \x7d"

/-- A value with one field, which has no name. -/
def single (name content : String) : String :=
  name ++ "(" ++ content ++ ")"

end TypedBytecode.Record
