import RowMapping.Json.Form
import RowMapping.Workspace

/-!
# Settings

The settings of a gateway: its dialect, which is the default one unless it is named. Settings are
read from a document or from the value of an environment variable.

In a document, settings are an object with an optional member for the dialect, or an array with an
optional item for it. Other members are passed over, whatever they hold, as long as the text follows
the grammar.
-/

namespace RowMapping

/-- The settings of a gateway. -/
structure Settings where
  dialect : DialectKind := Workspace.defaultDialect
  deriving DecidableEq, Repr

namespace Settings

open Json (Form)

/-- The dialect that a form names: its exact name, or an object of that one key whose value is
null. -/
def dialectOfForm? : Form → Option DialectKind
  | .string (some name) => DialectKind.ofName? name
  | .object [(some name, .null)] => DialectKind.ofName? name
  | _ => none

/-- The settings of the members of an object. The dialect may be named once. -/
def ofMembers? (named : Option DialectKind) : List (Option String × Form) → Option Settings
  | [] => some ⟨named.getD Workspace.defaultDialect⟩
  | (none, _) :: _ => none
  | (some key, value) :: members =>
      if key = "dialect" then
        match named, dialectOfForm? value with
        | none, some kind => ofMembers? (some kind) members
        | _, _ => none
      else ofMembers? named members

/-- The settings that a form stands for. -/
def ofForm? : Form → Option Settings
  | .object members => ofMembers? none members
  | .array [] => some {}
  | .array [item] => (dialectOfForm? item).map fun dialect => { dialect }
  | _ => none

def ofText? (text : String) : Option Settings := (Form.ofText? text).bind ofForm?

/-- The settings that the value of an environment variable names; a variable that is unset or blank
leaves the default. -/
def ofEnvironment : Option String → Except UnknownDialect Settings
  | none => .ok {}
  | some value =>
      if Text.isBlankText value then .ok {}
      else (DialectKind.parse value).map fun dialect => { dialect }

/-- A gateway with these settings and a registry of its own. -/
def build (settings : Settings) : StateM Workspace Gateway :=
  Gateway.create (.standard settings.dialect)

end Settings

end RowMapping
