import Assay.Text.Cut

/-!
# Templates

A template is a text with placeholders, which are names in braces. Filling replaces the
placeholders of one name after the other, in the order in which the names are given; what one
value brings in is seen by the names after it.
-/
namespace Assay.Text

/-- A name in braces. -/
def placeholder (name : List Char) : List Char :=
  '\x7b' :: name ++ ['\x7d']

/-- Replace the placeholders of the given names by their values. -/
def fillIn (template : List Char) (values : List (List Char × List Char)) : List Char :=
  values.foldl (fun text (name, value) => replaceAll (placeholder name) value text) template

/-- Fill in a template. -/
def fill (template : String) (values : List (String × String)) : String :=
  String.ofList (fillIn template.toList
    (values.map fun (name, value) => (name.toList, value.toList)))

end Assay.Text
