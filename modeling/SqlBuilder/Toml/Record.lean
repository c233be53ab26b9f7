import SqlBuilder.Toml.Value

/-!
# Reading settings from values

A record of settings is read from a table by its keys or from an array by
position. Settings that are not mentioned keep their defaults, and keys that
name no setting are ignored, although their numbers still have to be
representable. Elements of an array beyond the settings are not even looked at.

A value that is looked at in more than one way is held back before it is read.
Held-back numbers have to fit 64 bits, and a held-back array must not be longer
than the record.
-/

namespace SqlBuilder
namespace Toml

/-- How a value is looked at. -/
inductive Reading where
  /-- Once, while it is read. -/
  | direct
  /-- After it has been held back. -/
  | heldBack
  deriving DecidableEq, Repr

namespace Reading

/-- A whole number can be represented. -/
def holds : Reading → Int → Bool
  | .direct, value => -Int.pow 2 127 ≤ value && value < Int.pow 2 128
  | .heldBack, value => -Int.pow 2 63 ≤ value && value < Int.pow 2 64

end Reading

mutual

/-- Every number of a value can be represented. -/
def Value.isRepresentable (reading : Reading) : Value → Bool
  | .string _ => true
  | .integer value => value.any reading.holds
  | .float value => !value.overflows
  | .boolean _ => true
  | .datetime _ => true
  | .array elements => elementsAreRepresentable reading elements
  | .table entries => entriesAreRepresentable reading entries

/-- Every number of a list of values can be represented. -/
def elementsAreRepresentable (reading : Reading) : List Value → Bool
  | [] => true
  | value :: rest =>
      value.isRepresentable reading && elementsAreRepresentable reading rest

/-- Every number of a table can be represented. -/
def entriesAreRepresentable (reading : Reading) : List (String × Value) → Bool
  | [] => true
  | (_, value) :: rest =>
      value.isRepresentable reading && entriesAreRepresentable reading rest

end

/-- Read a switch. -/
def readBoolean : Value → Except Problem Bool
  | .boolean value => .ok value
  | _ => .error (.wrongType "a boolean")

/-- Read a text. -/
def readText : Value → Except Problem String
  | .string text => .ok text
  | _ => .error (.wrongType "a string")

/-- Nothing is written here but a name. -/
def isBareChoice (reading : Reading) : Value → Bool
  | .array elements => reading = .direct && elements.isEmpty
  | .table entries => reading = .direct && entries.isEmpty
  | _ => false

/-- Read one of several named choices, written as a text or as a table whose
only key is the name. -/
def readChoice {Choice : Type} (choices : List (String × Choice)) (reading : Reading) :
    Value → Except Problem Choice
  | .string text => named text
  | .table [(text, value)] =>
      if isBareChoice reading value then named text
      else .error (.wrongType "a name")
  | _ => .error (.wrongType "a name")
where
  named (text : String) : Except Problem Choice :=
    match choices.lookup text with
    | some choice => .ok choice
    | none => .error (.unknownChoice text)

/-- A setting of a record: its key, and how its value changes the record. -/
structure Setting (Record : Type) where
  key : String
  apply : Reading → Value → Record → Except Problem Record

namespace Setting

variable {Record : Type}

/-- A switch. -/
def boolean (key : String) (set : Bool → Record → Record) : Setting Record :=
  { key := key
    apply := fun _ value record => (readBoolean value).map fun switch => set switch record }

/-- A text. -/
def text (key : String) (set : String → Record → Record) : Setting Record :=
  { key := key
    apply := fun _ value record => (readText value).map fun content => set content record }

/-- One of several choices. -/
def choice {Choice : Type} (key : String) (choices : List (String × Choice))
    (set : Choice → Record → Record) : Setting Record :=
  { key := key
    apply := fun reading value record =>
      (readChoice choices reading value).map fun chosen => set chosen record }

/-- Read the entries of a table, one after the other. -/
def readEntries (settings : List (Setting Record)) (reading : Reading) :
    Record → List (String × Value) → Except Problem Record
  | record, [] => .ok record
  | record, (key, value) :: rest => do
      match settings.find? fun setting => setting.key == key with
      | some setting =>
          readEntries settings reading (← setting.apply reading value record) rest
      | none =>
          if value.isRepresentable reading then readEntries settings reading record rest
          else .error .numberOverflow

/-- Read the elements of an array, each for the setting at its place. Elements
beyond the last setting are an error if the array has been held back. -/
def readElements (reading : Reading) :
    List (Setting Record) → Record → List Value → Except Problem Record
  | _, record, [] => .ok record
  | [], record, _ :: _ =>
      match reading with
      | .direct => .ok record
      | .heldBack => .error .tooManyElements
  | setting :: settings, record, value :: rest => do
      readElements reading settings (← setting.apply reading value record) rest

/-- Read a record from a value. A date counts as a table without settings. -/
def readRecord (settings : List (Setting Record)) (reading : Reading)
    (default : Record) : Value → Except Problem Record
  | .table entries => readEntries settings reading default entries
  | .array elements => readElements reading settings default elements
  | .datetime _ => .ok default
  | _ => .error (.wrongType "a table")

/-- A record inside a record. -/
def record {Inner : Type} (key : String) (settings : List (Setting Inner))
    (default : Inner) (set : Inner → Record → Record) : Setting Record :=
  { key := key
    apply := fun reading value outer =>
      (readRecord settings reading default value).map fun inner => set inner outer }

end Setting
end Toml
end SqlBuilder
