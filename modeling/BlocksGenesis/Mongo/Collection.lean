import BlocksGenesis.Python.Value

/-! MongoDB, as far as a count reads it: what a filter means on a document, and what the two
drivers hand back for a count. -/

namespace Mongo
open Python

/-- A stored document. A value of a type JSON lacks is no string, and no filter here tells it
from another that is none. -/
abbrev Document := Fields

abbrev Query := Document → Bool

/-- One of these strings is the value, or is an element of the array that is the value. -/
def among (values : List String) : Json → Bool
  | .arr items => items.any (Json.inStrings values)
  | v => v.inStrings values

def eq (field value : String) : Query := fun d => among [value] (d.get field)

/-- `{field: {"$in": values}}`. -/
def isIn (field : String) (values : List String) : Query := fun d => among values (d.get field)

/-- `{"$and": filters}`, and a filter document of several fields. -/
def all (filters : List Query) : Query := fun d => filters.all (· d)

/-- `{"$or": filters}`. -/
def any (filters : List Query) : Query := fun d => filters.any (· d)

/-- What a call into a driver hands back at once: a plain value, or something to await. -/
inductive Returned (α : Type) where
  | plain (value : α)
  | awaitable (result : Except Exc α)

def Returned.await {α : Type} : Returned α → Except Exc α
  | .plain _ => .error (.typeError "object can't be used in 'await' expression")
  | .awaitable result => result

/-- A pymongo collection answers a call itself; a motor one gives a coroutine that does. -/
inductive Driver where
  | pymongo
  | motor
deriving DecidableEq, Repr

/-- A collection handle. Its documents are what the server answers a read with. -/
structure Collection where
  driver : Driver
  documents : Except Exc (List Document)

def Collection.countDocuments (collection : Collection) (query : Query) :
    Except Exc (Returned Nat) :=
  let count := (fun documents => documents.countP query) <$> collection.documents
  match collection.driver with
  | .pymongo => .plain <$> count
  | .motor => .ok (.awaitable count)

/-- Nothing that pymongo counts can be awaited. -/
theorem await_pymongo {collection : Collection} {query : Query} (h : collection.driver = .pymongo)
    {n : Nat} : ¬ (collection.countDocuments query >>= Returned.await) = .ok n := by
  intro hn
  obtain ⟨returned, hr, ha⟩ := bind_ok_iff.mp hn
  simp only [Collection.countDocuments, h] at hr
  cases hd : collection.documents with
  | error e => simp [hd, Functor.map, Except.map] at hr
  | ok documents =>
    simp only [hd, Functor.map, Except.map, Except.ok.injEq] at hr
    subst hr
    simp [Returned.await] at ha

end Mongo
