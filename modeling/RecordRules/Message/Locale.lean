import RecordRules.File.Folder
import RecordRules.Json.Reader
import RecordRules.Message.English
import RecordRules.Message.Spanish
import RecordRules.Text.Newline

/-!
# Locales

The catalogs that come with the library, found by the name of a locale, and catalogs read from JSON
files.
-/

namespace RecordRules

/-- Why a catalog cannot be loaded: there is none for the locale, or the file is not JSON, holds no
object, or does not map rules to templates. -/
inductive CatalogError
  | noLocale (locale : String)
  | json (text : List Char) (fault : Json.Fault)
  | notObject (v : Value)
  | notTemplates (path : String)
  | tooLong (e : TooLong)

namespace Catalog

/-- The catalogs of the library by locale. -/
def bundled : List (String × Catalog) := [("en", english), ("es", spanish)]

/-- The locales of the library. -/
def locales : List String := bundled.map (·.1)

/-- The step to the folder of the catalogs. -/
def home : String := "locales"

/-- The catalogs of the library as files. -/
def shelf : Folder Catalog := ⟨bundled.map fun (locale, c) => ([home, locale ++ ".json"], c)⟩

/-- The catalog of a locale; a locale may be given as a path from the folder of the catalogs. -/
def load (locale : String) : Except CatalogError Catalog :=
  match shelf.find [home] (.ofText (locale ++ ".json")) with
  | .file catalog => .ok catalog
  | _ => .error (.noLocale locale)

/-- The templates in an object: the texts of keys and values. -/
def templatesOf (entries : List (Value × Value)) : Except TooLong (List (String × String)) :=
  entries.mapM fun (rule, template) => do return (← rule.plain, ← template.plain)

/-- The catalog in a file with the given JSON text. -/
def ofFile (path : Path) (content : String) (depthLimit : Nat := Json.usualDepth) :
    Except CatalogError Catalog := do
  let text := Text.unifyNewlines content.toList
  match ← (Json.read depthLimit text).mapError (.json text) with
  | .dict entries =>
    match (Value.entry? "messages" entries).getD (.dict []) with
    | .dict messages =>
      let templates ← (templatesOf messages).mapError .tooLong
      return {
        templates := Assoc.ofList templates
        default := (Value.entry? "default" entries).getD (.text genericTemplate)
        locale := (Value.entry? "locale" entries).getD (.text path.stem)
        labels := [] }
    | _ => throw (.notTemplates path.text)
  | v => throw (.notObject v)

end Catalog

/-- The wording of an error. -/
def CatalogError.message : CatalogError → String
  | noLocale locale =>
    s!"No message catalog for locale '{locale}' (available: " ++
      ", ".intercalate Catalog.locales ++ ")"
  | json text fault => fault.message text
  | notObject v => s!"'{v.kind}' object has no attribute 'get'"
  | notTemplates path => s!"Message catalog {path} must map rule names to templates"
  | tooLong e => e.message

end RecordRules
