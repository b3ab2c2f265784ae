import StatesLanguage.Settings
import StatesLanguage.Toml.Reader

/-!
# Settings files

Settings are written in TOML.  A choice may stand there as a table, with its name over
an empty value.
-/

namespace StatesLanguage

namespace Settings

/-- The name of a choice that is written as a table. -/
def nameChoice : Document → Document
  | .object [(name, .object [])] => .string name
  | .object [(name, .array [])] => .string name
  | value => value

/-- Settings in which the choice is written as its name. -/
def withNamedChoice : Document → Document
  | .object members =>
      .object (members.map fun (name, value) =>
        (name, if name = "unresolved_task" then nameChoice value else value))
  | document => document

def ofToml? (text : String) : Option Settings := do
  let document ← Toml.read? text
  (Settings.reader.read (withNamedChoice document)).toOption

/-- Whether all delays can be multiplied by the time scale. -/
def hasUsableTimeScale (settings : Settings) : Bool :=
  settings.timeScale.isFinite && (Binary64.zero false).le settings.timeScale

end Settings

end StatesLanguage
