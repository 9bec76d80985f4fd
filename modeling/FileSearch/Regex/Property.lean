import FileSearch.Regex.Unicode.Binary
import FileSearch.Regex.Unicode.Script

/-!
# Character properties

The names a property class may have in the grammar: general categories by their short names, scripts
by their long ones, and `Any`. The long names of the categories belong to the dialect.
-/

namespace FileSearch.Regex

/-- The long names of the general categories. -/
def categoryAliases : List (String × String) :=
  [("Cased_Letter", "LC"), ("Letter", "L"), ("Uppercase_Letter", "Lu"),
   ("Lowercase_Letter", "Ll"), ("Titlecase_Letter", "Lt"), ("Modifier_Letter", "Lm"),
   ("Other_Letter", "Lo"), ("Mark", "M"), ("Nonspacing_Mark", "Mn"), ("Spacing_Mark", "Mc"),
   ("Enclosing_Mark", "Me"), ("Number", "N"), ("Decimal_Number", "Nd"),
   ("Letter_Number", "Nl"), ("Other_Number", "No"), ("Punctuation", "P"),
   ("Connector_Punctuation", "Pc"), ("Dash_Punctuation", "Pd"), ("Open_Punctuation", "Ps"),
   ("Close_Punctuation", "Pe"), ("Initial_Punctuation", "Pi"), ("Final_Punctuation", "Pf"),
   ("Other_Punctuation", "Po"), ("Symbol", "S"), ("Math_Symbol", "Sm"),
   ("Currency_Symbol", "Sc"), ("Modifier_Symbol", "Sk"), ("Other_Symbol", "So"),
   ("Separator", "Z"), ("Space_Separator", "Zs"), ("Line_Separator", "Zl"),
   ("Paragraph_Separator", "Zp"), ("Other", "C"), ("Control", "Cc"), ("Format", "Cf"),
   ("Surrogate", "Cs"), ("Private_Use", "Co"), ("Unassigned", "Cn")]

/-- The set a category or script name denotes; `Any` holds every code point. -/
def property? (name : String) : Option CharSet :=
  if name = "Any" then some CharSet.full
  else Unicode.category? name <|> Unicode.script? name

/-- Letters, marks, decimal digits and connectors below U+0100: what a group may be named with. -/
def nameCharacter : CharSet :=
  (Unicode.categories ["L", "M", "Nd", "Pc"]).between 0 0xFF

end FileSearch.Regex
