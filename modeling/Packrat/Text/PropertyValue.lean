import Packrat.Text.Age
import Packrat.Text.ScriptUse
import Packrat.Text.Segment

/-!
# Values of properties

Some properties are not had or lacked but have one of several values: the category, the script, the
age, and the classes of segments. `propertyValue?` finds the characters for which such a property
has a value.
-/

namespace Packrat.Text

/-- The properties with values, by their names, and the characters for each name of a value. -/
def valuedProperties : List (List String × (String → Option Ranges)) :=
  [(["generalcategory", "gc"], category?),
   (["script", "sc"], script?),
   (["scriptextensions", "scx"], scriptUse?),
   (["age"], age?),
   (["graphemeclusterbreak", "gcb"], clusterClass?),
   (["wordbreak", "wb"], Segment.find? wordClasses),
   (["sentencebreak", "sb"], Segment.find? sentenceClasses)]

/-- The characters for which a property has a value; both are given by name. -/
def propertyValue? (name value : String) : Option Ranges :=
  (valuedProperties.find? (·.1.contains name)).bind (·.2 value)

end Packrat.Text
