import LogWarden.Config.Document
import LogWarden.File
import LogWarden.Json.Printer
import LogWarden.Rules.Table

/-! # Stored documents

The settings and the table of rules are kept in files. A file that does not exist is written with
the defaults. -/

namespace LogWarden

/-- The document of the default settings. -/
def Config.defaultText : String :=
  (Config.toJson {}).prettyText

/-- The settings in a file. -/
def Config.lookup (path : String) (file : FileState) : Lookup Config :=
  .ofFile path file Config.defaultText (.ok {}) (Config.ofText path)

namespace RuleTable

/-- The document of the built-in rules. -/
def builtinText : String :=
  (Json.arr (RuleSetSpec.builtin.map RuleSetSpec.toJson)).prettyText

/-- Reads and compiles the document of a file. -/
def ofText (path text : String) : Except ConfigError RuleTable := do
  let specs ← (Json.readText (Json.readList RuleSetSpec.read) text).mapError (.malformed path)
  compile specs

/-- The table in a file. What has been written is read back. -/
def lookup (path : String) (file : FileState) : Lookup RuleTable :=
  .ofFile path file builtinText (ofText path builtinText) (ofText path)

end RuleTable

end LogWarden
