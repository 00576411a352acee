/-!
# Written lists and records

The shapes in which values of this library are shown: a list between square brackets, a record as
its name and its fields between braces, and a record that keeps some of its fields to itself.
-/

namespace Packrat.Text

/-- Texts with `", "` between them. -/
def commaSeparated (items : List String) : String := ", ".intercalate items

/-- Texts in ascending order of their characters. -/
def sorted (items : List String) : List String := items.mergeSort (· ≤ ·)

/-- Texts between square brackets. -/
def listing (items : List String) : String := "[" ++ commaSeparated items ++ "]"

/-- Texts between braces. -/
def braced (items : List String) : String := "\x7b" ++ commaSeparated items ++ "\x7d"

/-- The fields of a record, each as its name and its text. -/
def fields (items : List (String × String)) : String :=
  commaSeparated (items.map fun (name, text) => name ++ ": " ++ text)

/-- A record that shows all its fields. -/
def record (name : String) (items : List (String × String)) : String :=
  name ++ " \x7b " ++ fields items ++ " \x7d"

/-- A record that shows some of its fields and says so. -/
def openRecord (name : String) (items : List (String × String)) : String :=
  name ++ " \x7b " ++ fields items ++ ", .. \x7d"

end Packrat.Text
