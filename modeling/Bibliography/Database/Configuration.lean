import Bibliography.Database.MacroTable

/-
  What a reader of databases is told in advance.

  Key definitions include:
    * `ParserConfig`
    * `ParserConfig.standard`
    * `ParserConfig.isPersonField`
-/

------------------------------------------------------------
-- Configuration
------------------------------------------------------------

namespace Bibliography

/- The macros defined before the first record, and person fields. -/
structure ParserConfig where
  macros : MacroTable
  personFields : List Text
  deriving DecidableEq

namespace ParserConfig

/- The months, with authors and editors as persons. -/
def standard : ParserConfig where
  macros := .months
  personFields := ["author".toList, "editor".toList]

instance : Inhabited ParserConfig :=
  ⟨standard⟩

/- Other macros in place of the months. -/
def withMacros
    (config : ParserConfig)
    (macros : MacroTable) : ParserConfig :=
  { config with macros := macros }

/- One more macro. -/
def withDefinition
    (config : ParserConfig)
    (name text : Text) : ParserConfig :=
  { config with macros := config.macros.define name text }

/- Other person fields, in lower case. -/
def withPersonFields
    (config : ParserConfig)
    (fields : List Text) : ParserConfig :=
  { config with personFields := fields.map Text.lower }

/- Whether a field holds persons; ASCII case does not matter. -/
def isPersonField
    (config : ParserConfig)
    (field : Text) : Bool :=
  config.personFields.any
    (fun f => f.lowerAscii == field.lowerAscii)

end ParserConfig

end Bibliography
