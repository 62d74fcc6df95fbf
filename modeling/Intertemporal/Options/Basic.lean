import Intertemporal.Datum.Key

/-!
# Options

The options of a model: a tolerance below which slopes and residuals count as zero, the variant of
evaluation data that the model uses, and a bound on the number of inputs that are differentiated at
once. They come from settings, which map names to data of any kind; values are converted before they
are checked.
-/

namespace Intertemporal

/-- How the equations of a model are evaluated. -/
inductive Variant
  /-- As they are. -/
  | plain
  /-- With the flagged ones linearized about the steady state. -/
  | selective
  /-- With all of them linearized. -/
  | full
  /-- Linearized and brought into first-order form. -/
  | firstOrder
deriving DecidableEq, Repr

namespace Variant

/-- The name of a variant in settings. -/
def name : Variant → String
  | .plain => "default"
  | .selective => "selective_linearize"
  | .full => "linearize"
  | .firstOrder => "firstorder"

/-- All variants, in the order in which messages list them. -/
def all : List Variant := [.plain, .selective, .full, .firstOrder]

/-- The variant of a name. -/
def ofName? (name : String) : Option Variant := all.find? (·.name == name)

end Variant

/-- Options of evaluation. -/
structure Options (α : Type) where
  tolerance : α
  variant : Variant
  chunkLimit : Int

/-- The name by which an operation knows the object that it works on. Values that are given by name
cannot have it. -/
def receiverName : String := "self"

/-- Settings by name, in the order in which they were given. -/
abbrev Settings (α : Type) := Table String (Datum α)

/-- Why settings are refused. -/
inductive OptionsError (α : Type)
  /-- Names that belong to no option. -/
  | unknown (names : List (Datum α))
  /-- Names that belong to no option and cannot be put in order. -/
  | unordered
  /-- A name that no value can have. -/
  | reservedName (name : String)
  | conversion (reason : ConversionError)
  | negativeTolerance (value : α)
  | unknownVariant (shown : String)
  | chunkLimit (value : Int)

/-- The wording of refused settings. -/
def OptionsError.message {α : Type} [Numeral α] : OptionsError α → String
  | .unknown names => "Unknown option(s): " ++ (Datum.sequence names).shown
  | .unordered => "The names of unknown options have no common order"
  | .reservedName name => "The name '" ++ name ++ "' is reserved"
  | .conversion reason => reason.message
  | .negativeTolerance value => "tol must be non-negative, got " ++ Numeral.exact value
  | .unknownVariant shown =>
    "Unknown variant '" ++ shown ++ "'. Supported: " ++
      ", ".intercalate (Variant.all.map Variant.name)
  | .chunkLimit value => s!"max_chunk_size must be >= 1, got {value}"

namespace Options

variable {α : Type}

/-- The name of the tolerance in settings. -/
def toleranceName : String := "tol"

/-- The name of the variant in settings. -/
def variantName : String := "variant"

/-- The name of the chunk limit in settings. -/
def chunkLimitName : String := "max_chunk_size"

/-- All names that settings may have. -/
def names : List String := [toleranceName, variantName, chunkLimitName]

/-- The settings that give these options. -/
def toSettings (options : Options α) : Settings α :=
  .ofList
    [(toleranceName, .number options.tolerance), (variantName, .text options.variant.name),
     (chunkLimitName, .integer options.chunkLimit)]

variable [Scalar α]

/-- The options of a model that sets none. -/
def standard : Options α :=
  { tolerance := Scalar.ofDecimal 1 (-12), variant := .plain, chunkLimit := 4 }

/-- The variant that a datum names. -/
def readVariant [Numeral α] (datum : Datum α) : Except (OptionsError α) Variant :=
  match datum with
  | .text name =>
    match Variant.ofName? name with
    | some variant => .ok variant
    | none => .error (.unknownVariant name)
  | other => .error (.unknownVariant other.display)

/-- Refuse names that belong to no option; they are listed in ascending order. -/
def checkKnown (given : List (Datum α)) : Except (OptionsError α) Unit :=
  let isKnown : Datum α → Bool
    | .text name => names.contains name
    | _ => false
  match given.filter fun name => !isKnown name with
  | [] => .ok ()
  | unknown =>
    match Datum.ascending? unknown with
    | some sorted => .error (.unknown sorted)
    | none => .error .unordered

/-- The options that settings give. Unknown names are refused first; then the tolerance and the
chunk limit are converted, and at last the tolerance, the variant and the chunk limit are checked.
-/
def ofSettings [Numeral α] (settings : Settings α) : Except (OptionsError α) (Options α) := do
  checkKnown (settings.keys.map .text)
  let given (name : String) : Datum α := settings.getD name (standard.toSettings.getD name .missing)
  let tolerance ← (given toleranceName).toScalar.mapError .conversion
  let chunkLimit ← (given chunkLimitName).toInteger.mapError .conversion
  if !Scalar.le Scalar.zero tolerance then .error (.negativeTolerance tolerance)
  let variant ← readVariant (given variantName)
  if chunkLimit < 1 then .error (.chunkLimit chunkLimit)
  .ok { tolerance, variant, chunkLimit }

/-- The options that a mapping gives, whose keys may be data of any kind. -/
def ofMapping [Numeral α] (keys values : List (Datum α)) :
    Except (OptionsError α) (Options α) := do
  checkKnown keys
  ofSettings (.ofList ((keys.map Datum.display).zip values))

/-- Refuse settings with a name that no value can have. -/
def checkName (settings : Settings α) (reserved : String) : Except (OptionsError α) Unit :=
  if settings.contains reserved then .error (.reservedName reserved) else .ok ()

/-- The options with some of them set anew. -/
def override [Numeral α] (options : Options α) (settings : Settings α) :
    Except (OptionsError α) (Options α) := do
  checkName settings receiverName
  ofSettings (options.toSettings.insertAll settings.entries)

end Options

end Intertemporal
