import BlocksGenesis.Python.Utf8

/-! The values of a document as the drivers hand them over, and what pydantic reads the fields of a
model from. -/

namespace Mongo
open Python

inductive Bson where
  | null
  | bool (b : Bool)
  | int (n : Int)
  | float (x : PyFloat)
  | str (s : String)
  | bytes (data : Octets)
  | datetime (d : DateTime)
  | arr (items : List Bson)
  | obj (fields : List (String × Bson))
  /-- An instance of a class of the drivers' own, such as an `ObjectId`. -/
  | other (name : String)

abbrev Row := List (String × Bson)

namespace Bson

def truthy : Bson → Bool
  | .null => false
  | .bool b => b
  | .int n => n != 0
  | .float x => !x.zero
  | .str s => !s.isEmpty
  | .bytes data => !data.isEmpty
  | .arr items => !items.isEmpty
  | .obj fields => !fields.isEmpty
  | .datetime _ | .other _ => true

/-- A value that JSON has too. Bytes count as the text they spell. -/
def scalar : Bson → Option Json
  | .null => some .null
  | .bool b => some (.bool b)
  | .int n => some (.int n)
  | .float x => some (.float x)
  | .str s => some (.str s)
  | .bytes data => (decodeUtf8 data).map .str
  | _ => none

/-- What a `for` goes through. -/
def items : Bson → Except Exc (List Bson)
  | .arr items => .ok items
  | .obj fields => .ok (fields.map (fun field => .str field.1))
  | .str s => .ok (s.toList.map (fun c => .str (String.singleton c)))
  | .bytes data => .ok (data.map (fun b => .int b.toNat))
  | _ => .error (.typeError "object is not iterable")

end Bson

/-- The runtime of a process that reads documents. -/
structure Runtime extends Python.Runtime where
  /-- `str` of a value that is no string. -/
  print : Bson → String

def Bson.toStr (rt : Runtime) : Bson → String
  | .str s => s
  | v => rt.print v

/-! ## Fields of a model -/

section Reading
variable {α : Type}

def readText (field : String) (v : Bson) : Except Exc String :=
  match v.scalar with
  | some (.str s) => .ok s
  | _ => .error (.validation field)

def readTexts (field : String) : Bson → Except Exc (List String)
  | .arr items => items.mapM (readText field)
  | _ => .error (.validation field)

def readFlag (rt : Runtime) (field : String) (v : Bson) : Except Exc Bool :=
  match v.scalar with
  | some found => readBool rt.toRuntime field found
  | none => .error (.validation field)

def readDate (rt : Runtime) (field : String) : Bson → Except Exc DateTime
  | .datetime d => .ok d
  | v =>
    match v.scalar with
    | some found => rt.readDateTime found
    | none => .error (.validation field)

def optional (read : Bson → Except Exc α) : Bson → Except Exc (Option α)
  | .null => .ok none
  | v => some <$> read v

/-- A field goes by its alias, else by its own name. -/
def Row.value (row : Row) (wireName name : String) : Option Bson :=
  (row.lookup wireName).or (row.lookup name)

/-- One that is not in the row has its default, which nothing checks. -/
def Row.field (row : Row) (wireName name : String) (default : α) (read : String → Bson → Except Exc α) :
    Except Exc α :=
  match row.value wireName name with
  | some v => read wireName v
  | none => .ok default

def Row.required (row : Row) (wireName name : String) (read : String → Bson → Except Exc α) : Except Exc α :=
  match row.value wireName name with
  | some v => read wireName v
  | none => .error (.validation wireName)

end Reading

end Mongo
