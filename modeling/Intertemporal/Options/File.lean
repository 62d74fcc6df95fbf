import Intertemporal.Options.Basic
import Intertemporal.Yaml.Meaning

/-!
# Options files

An options file is a document that denotes a mapping of option names to values, or nothing at all.
-/

namespace Intertemporal

/-- Why an options file gives no options. -/
inductive OptionsFileError (α : Type)
  | missing (path : String)
  | isDirectory (path : String)
  | malformed (fault : Yaml.Fault)
  | notAMapping (kind : String)
  | options (reason : OptionsError α)

/-- The wording of the error. -/
def OptionsFileError.message {α : Type} [Numeral α] : OptionsFileError α → String
  | .missing path => "Options file not found: " ++ path
  | .isDirectory path => "Options file is a directory: " ++ path
  | .malformed _ => "Options file is malformed"
  | .notAMapping kind => "Options file must contain a mapping, got " ++ kind
  | .options reason => reason.message

namespace OptionsFile

variable {α : Type}

/-- The kind of a datum, as messages name it. -/
def kindName : Datum α → String
  | .missing => "NoneType"
  | .truth _ => "bool"
  | .integer _ => "int"
  | .number _ => "float"
  | .text _ => "str"
  | .date _ => "date"
  | .moment _ => "datetime"
  | .sequence _ => "list"
  | .mapping _ _ => "dict"

variable [Scalar α] [Numeral α]

/-- The options that the text of a file sets. -/
def ofText (text : String) : Except (OptionsFileError α) (Options α) := do
  match ← (Yaml.read text).mapError .malformed with
  | .missing => .ok .standard
  | .mapping keys values => (Options.ofMapping keys values).mapError .options
  | other => .error (.notAMapping (kindName other))

/-! ## Paths -/

/-- The part of a path that makes it absolute: one slash, or two if there are exactly two. -/
def rootOf (path : List Char) : List Char :=
  match path.takeWhile (· == '/') with
  | [] => []
  | ['/', '/'] => ['/', '/']
  | _ => ['/']

/-- The names on a path; a dot alone leads nowhere. -/
def namesOn (path : String) : List String :=
  (path.splitOn "/").filter fun name => !name.isEmpty && name != "."

/-- A path in its shortest form. -/
def shortest (path : String) : String :=
  let short := String.ofList (rootOf path.toList) ++ "/".intercalate (namesOn path)
  if short.isEmpty then "." else short

/-- Why a path without a file gives no options. A path without names leads to a directory. -/
def missingAt (path : String) : OptionsFileError α :=
  if (namesOn path).all (· == "..") then .isDirectory (shortest path)
  else .missing (shortest path)

/-- The options of the file at a path, which may have no text. -/
def ofPath (path : String) (text : Option String) : Except (OptionsFileError α) (Options α) :=
  match text with
  | some text => ofText text
  | none => .error (missingAt path)

end OptionsFile

end Intertemporal
