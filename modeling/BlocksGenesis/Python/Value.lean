import BlocksGenesis.Python.Text

namespace Python

/-- An exception, by the classes the code's handlers tell apart. A `validation` error is
pydantic's, which is a `ValueError`; `invalidToken` is PyJWT's base class. -/
inductive Exc where
  | http (status : Nat) (detail : String)
  | typeError (message : String)
  | attributeError (message : String)
  | valueError (message : String)
  | validation (field : String)
  | jsonDecode
  | overflow
  | osError (message : String)
  | invalidToken (name : String)
  | expiredSignature
  | runtimeError (message : String)
  | other (name : String)
deriving DecidableEq, Repr

def Exc.isValueError : Exc → Bool
  | .valueError _ | .validation _ | .jsonDecode => true
  | _ => false

def Exc.isInvalidToken : Exc → Bool
  | .invalidToken _ | .expiredSignature => true
  | _ => false

theorem bind_ok_iff {ε α β : Type} {x : Except ε α} {f : α → Except ε β} {b : β} :
    (x >>= f) = .ok b ↔ ∃ a, x = .ok a ∧ f a = .ok b := by
  cases x with
  | error e => simp [bind, Except.bind]
  | ok a => simp [bind, Except.bind]

theorem map_ok_iff {ε α β : Type} {x : Except ε α} {f : α → β} {b : β} :
    f <$> x = .ok b ↔ ∃ a, x = .ok a ∧ f a = b := by
  cases x with
  | error e => simp [Functor.map, Except.map]
  | ok a => simp [Functor.map, Except.map]

@[simp] theorem pure_ok_iff {ε α : Type} {a b : α} :
    (pure a : Except ε α) = .ok b ↔ a = b := by
  simp [pure, Except.pure]

/-- A float as the code can observe it: how it prints, its whole part (none when it is
infinite or not a number), and whether it is a zero. -/
structure PyFloat where
  repr : String
  whole : Option Int
  zero : Bool
deriving DecidableEq, Repr

/-- What `json.loads` gives: the values a claim can hold. -/
inductive Json where
  | null
  | bool (b : Bool)
  | int (n : Int)
  | float (x : PyFloat)
  | str (s : String)
  | arr (xs : List Json)
  | obj (fields : List (String × Json))

abbrev Fields := List (String × Json)

/-- `fields.get(name)`, with an absent key and `None` read the same. -/
def Fields.get (fields : Fields) (name : String) : Json := (fields.lookup name).getD .null

/-- `fields.get(name, default)`: the default stands in for an absent key only. -/
def Fields.getD (fields : Fields) (name : String) (default : Json) : Json :=
  (fields.lookup name).getD default

theorem Fields.getD_of_get {fields : Fields} {name : String} {v default : Json} (h : fields.get name = v)
    (hv : v ≠ .null) : fields.getD name default = v := by
  unfold Fields.get at h
  unfold Fields.getD
  cases hl : fields.lookup name with
  | none =>
    rw [hl] at h
    exact absurd h.symm hv
  | some found =>
    rw [hl] at h
    exact h

def Fields.has (fields : Fields) (name : String) : Bool := (fields.lookup name).isSome

def Fields.set (fields : Fields) (name : String) (value : Json) : Fields :=
  (name, value) :: fields.filter (fun f => f.1 != name)

def Json.truthy : Json → Bool
  | .null => false
  | .bool b => b
  | .int n => n != 0
  | .float x => !x.zero
  | .str s => !s.isEmpty
  | .arr xs => !xs.isEmpty
  | .obj fields => !fields.isEmpty

/-- `value or default`. -/
def Json.orElse (value default : Json) : Json := if value.truthy then value else default

/-- A `datetime`, by the text `isoformat` gives for it. -/
structure DateTime where
  iso : String
deriving DecidableEq, Repr

theorem Json.truthy_str {s : String} (h : s ≠ "") : (Json.str s).truthy = true := by
  simpa [Json.truthy] using h

theorem Json.orElse_truthy {v d : Json} (h : v.truthy = true) : v.orElse d = v := by
  simp [Json.orElse, h]

theorem Json.orElse_falsy {v d : Json} (h : v.truthy = false) : v.orElse d = d := by
  simp [Json.orElse, h]

/-- What the code calls of its runtime and this development leaves open. -/
structure Runtime where
  lower : String → String
  /-- `repr` of a string, as it appears inside a printed list or dictionary. -/
  quote : String → String
  /-- `json.loads`, which may raise `JSONDecodeError` or give up on a deep value. -/
  loads : String → Except Exc Json
  fromTimestamp : Json → Except Exc DateTime
  fromIsoFormat : String → Except Exc DateTime
  /-- What pydantic reads a `datetime` field from. -/
  readDateTime : Json → Except Exc DateTime
  hostname : String → Except Exc (Option String)

/-- A runtime for ASCII text, with no JSON in strings and dates printed as given. -/
def asciiRuntime : Runtime where
  lower s := String.ofList (s.toList.map Char.toLower)
  quote s := "'" ++ s ++ "'"
  loads _ := .error .jsonDecode
  fromTimestamp v := match v with
    | .int n => .ok ⟨toString n⟩
    | _ => .error .overflow
  fromIsoFormat s := .ok ⟨s⟩
  readDateTime v := match v with
    | .str s => .ok ⟨s⟩
    | _ => .error (.validation "expire_on")
  hostname url := .ok (some (remove "//" url))

mutual

def Json.repr (rt : Runtime) : Json → String
  | .null => "None"
  | .bool true => "True"
  | .bool false => "False"
  | .int n => toString n
  | .float x => x.repr
  | .str s => rt.quote s
  | .arr xs => "[" ++ reprItems rt xs ++ "]"
  | .obj fields => "\x7b" ++ reprFields rt fields ++ "\x7d"

def reprItems (rt : Runtime) : List Json → String
  | [] => ""
  | [x] => x.repr rt
  | x :: y :: xs => x.repr rt ++ ", " ++ reprItems rt (y :: xs)

def reprFields (rt : Runtime) : List (String × Json) → String
  | [] => ""
  | [(k, v)] => rt.quote k ++ ": " ++ v.repr rt
  | (k, v) :: f :: fs => rt.quote k ++ ": " ++ v.repr rt ++ ", " ++ reprFields rt (f :: fs)

end

/-- `str(value)`: a string is itself, anything else prints as its `repr`. -/
def Json.toStr (rt : Runtime) : Json → String
  | .str s => s
  | v => v.repr rt

/-- `int(value)` of a JSON number, for the dates PyJWT reads. -/
def Json.whole : Json → Option Int
  | .int n => some n
  | .bool b => some (if b then 1 else 0)
  | .float x => x.whole
  | _ => none

/-- Membership of a JSON value in a list of strings: only an equal string is in it. -/
def Json.inStrings (xs : List String) : Json → Bool
  | .str s => xs.contains s
  | _ => false

def isText (text : String) : Json → Bool
  | .str s => s == text
  | _ => false

/-! ## What pydantic reads a model field from -/

def readStr (field : String) : Json → Except Exc String
  | .str s => .ok s
  | _ => .error (.validation field)

def readStrings (field : String) : List Json → Except Exc (List String)
  | [] => .ok []
  | x :: xs => do
    let s ← readStr field x
    let ss ← readStrings field xs
    return s :: ss

def readStrList (field : String) : Json → Except Exc (List String)
  | .arr xs => readStrings field xs
  | _ => .error (.validation field)

/-- A `bool` field: besides a bool it takes 0 and 1, and a word for either. -/
def readBool (rt : Runtime) (field : String) : Json → Except Exc Bool
  | .bool b => .ok b
  | .int n => if n = 0 then .ok false else if n = 1 then .ok true else .error (.validation field)
  | .float x =>
    if x.zero then .ok false else if x.repr = "1.0" then .ok true else .error (.validation field)
  | .str s =>
    if ["0", "off", "f", "false", "n", "no"].contains (rt.lower s) then .ok false
    else if ["1", "on", "t", "true", "y", "yes"].contains (rt.lower s) then .ok true
    else .error (.validation field)
  | _ => .error (.validation field)

end Python
