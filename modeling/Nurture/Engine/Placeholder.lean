import Nurture.Execution
import Nurture.Lead
import Nurture.Text.Search

/-!
  Placeholders

  A placeholder is a name between two pairs of braces. The values of the
  context are filled in first, entry by entry, then the name and the email of
  the lead, which no entry can replace. Placeholders that nothing fills stay.
-/

namespace Nurture

/-- The placeholder behind its first brace. -/
def placeholderTail (key : List Char) : List Char := '\x7b' :: key ++ ['\x7d', '\x7d']

/-- The placeholder of a name. -/
def placeholder (key : String) : String := String.ofList ('\x7b' :: placeholderTail key.toList)

/-- Fills every placeholder of a name with a value. -/
def fill (key value : String) (text : List Char) : List Char :=
  Text.replaceAll '\x7b' (placeholderTail key.toList) value.toList text

/-- The names that the lead itself fills. -/
def leadNames : List String := ["name", "email"]

/-- Fills the placeholders of a context, entry by entry. -/
def fillContext (context : Context) (text : List Char) : List Char :=
  context.foldl (fun t c => if leadNames.contains c.1 then t else fill c.1 c.2 t) text

/-- The name by which a lead is addressed. -/
def Lead.address (l : Lead) (defaultName : String) : String :=
  if l.name = "" then defaultName else l.name

/-- Fills the placeholders of a template. -/
def substitute (defaultName template : String) (context : Context) (lead : Lead) : String :=
  let text := fillContext context template.toList
  let text := fill "name" (lead.address defaultName) text
  String.ofList (fill "email" lead.email text)

end Nurture
