import RowMapping.Json.Form

/-!
# Texts of documents

A document is written without blanks, its members in ascending order of key. It is read from any
text of the grammar that is nested at most 127 levels deep, whose strings have content and whose
numbers are in range.
-/

namespace RowMapping

namespace Json

/-- The form of a number; one that has no numeral is written as null. -/
def numberForm (number : Json.Number) : Form :=
  match Numeral.ofNumber? number with
  | some numeral => .number numeral
  | none => .null

mutual

/-- The form in which a tree is written. -/
def form : Json → Form
  | null => .null
  | bool truth => .truth truth
  | number value => numberForm value
  | string text => .string (some text)
  | array items => .array (itemForms items)
  | object members => .object (memberForms members)

def itemForms : List Json → List Form
  | [] => []
  | item :: items => item.form :: itemForms items

def memberForms : List (String × Json) → List (Option String × Form)
  | [] => []
  | (key, value) :: members => (some key, value.form) :: memberForms members

end

end Json

namespace Document

/-- The form in which a document is written. -/
def form (document : Document) : Json.Form := document.root.form

def text (document : Document) : String := document.form.text

/-- The document that a form stands for. -/
def ofForm? (form : Json.Form) : Option Document := form.json?.map ofJson

/-- The document that a text stands for. -/
def ofText? (text : String) : Option Document := (Json.Form.ofShallowText? text).bind ofForm?

end Document

end RowMapping
