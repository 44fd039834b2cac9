/-!
# Errors

`Error` lists the causes for which a request fails. A lookup that finds nothing is not an error.
`Error.message` words each cause, and `Error.diagnostic` adds a stable code, a label, a hint and
notes.
-/

namespace DataAccess

/-- The causes of failure. -/
inductive Error where
  /-- A source listed a schema and then could not load it. -/
  | declaredSchemaMissing (name : Option String)
  /-- The number of parameter values differs from the number of markers. -/
  | parameterCount (expected actual : Nat)
  /-- No column of that name is in scope. -/
  | columnNotFound (name scope : String)
  /-- No table has that label. -/
  | tableNotFound (label : String)
  /-- The request does not fit the present state. -/
  | illegalState (message : String)
  /-- The producer of rows failed. -/
  | stream (message : String)
  /-- The source could not describe itself. -/
  | metadataUnavailable (message : String)
  /-- The source failed. -/
  | source (message : String)
  /-- The request is outside what the source can do. -/
  | unsupported (message : String)
deriving DecidableEq, Inhabited

/-- An error with what helps to mend its cause. -/
structure Diagnostic where
  /-- The stable code of the cause. -/
  code : String
  /-- The wording of the error. -/
  message : String
  /-- What the place of the error stands for. -/
  label : Option String := none
  /-- What to try. -/
  help : Option String := none
  /-- Further remarks. -/
  notes : List String := []
deriving DecidableEq, Inhabited

/-- A diagnostic on one line: code, message and help. -/
def Diagnostic.display (d : Diagnostic) : String :=
  let line := "[" ++ d.code ++ "] " ++ d.message
  match d.help with
  | some help => line ++ " (help: " ++ help ++ ")"
  | none => line

namespace Error

/-- The name of the cause as one word. -/
def kind : Error → String
  | declaredSchemaMissing _ => "DeclaredSchemaMissing"
  | parameterCount _ _ => "ParameterCount"
  | columnNotFound _ _ => "ColumnNotFound"
  | tableNotFound _ => "TableNotFound"
  | illegalState _ => "IllegalState"
  | stream _ => "Stream"
  | metadataUnavailable _ => "MetadataUnavailable"
  | source _ => "Source"
  | unsupported _ => "Unsupported"

/-- The wording of an error. -/
def message : Error → String
  | declaredSchemaMissing name => "Declared schema does not exist: " ++ name.getD "<null>"
  | parameterCount expected actual => s!"Expected {expected} parameter values, got {actual}"
  | columnNotFound name scope => s!"Column '{name}' not found in {scope}"
  | tableNotFound label => s!"Table '{label}' not found"
  | illegalState message => message
  | stream message => message
  | metadataUnavailable message => "Metadata unavailable: " ++ message
  | source message => message
  | unsupported message => message

/-- The stable code of a cause. -/
def code : Error → String
  | declaredSchemaMissing _ => "CATALOG_001"
  | tableNotFound _ => "CATALOG_002"
  | columnNotFound _ _ => "CATALOG_003"
  | parameterCount _ _ => "QUERY_001"
  | illegalState _ => "QUERY_002"
  | unsupported _ => "QUERY_003"
  | stream _ => "STREAM_001"
  | metadataUnavailable _ => "SOURCE_001"
  | source _ => "SOURCE_002"

/-- What the place of an error stands for. -/
def label : Error → Option String
  | declaredSchemaMissing _ => some "schema was enumerated by the source but could not be loaded"
  | columnNotFound _ _ => some "this column does not exist in the referenced tables"
  | stream _ => some "the row producer recorded a failure"
  | _ => none

/-- What to try after an error. -/
def help : Error → Option String
  | declaredSchemaMissing _ =>
      some "check the source's schema enumeration against its schema loading"
  | tableNotFound _ => some "use a qualified label such as SCHEMA.TABLE"
  | columnNotFound _ _ => some "check for typos or add the owning table to the FROM items"
  | parameterCount expected _ =>
      some s!"supply exactly {expected} values, one per parameter marker"
  | _ => none

/-- Further remarks on an error. -/
def notes : Error → List String
  | declaredSchemaMissing _ => ["a listed schema name must always materialize"]
  | stream _ => ["rows published before the failure were delivered"]
  | _ => []

/-- An error with its `code` and what helps to mend its cause: `label`, `help` and `notes`. -/
def diagnostic (e : Error) : Diagnostic :=
  ⟨e.code, e.message, e.label, e.help, e.notes⟩

instance : ToString Error := ⟨message⟩

end Error

end DataAccess
