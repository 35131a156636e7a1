import FacetedSearch.Number.Binary

/-!
# JSON values

`Json` is the tree that a JSON text denotes. A number is a whole number when 64 bits can hold it
exactly, and a binary number otherwise. The members of an object stand in the order in which they
are written; an object that was read has its keys in increasing order, each once.
-/

namespace FacetedSearch

/-- A whole number that 64 bits can hold, signed or unsigned. -/
structure Whole where
  val : Int
  least_le : -0x8000000000000000 ≤ val
  lt_bound : val < 0x10000000000000000
  deriving DecidableEq

/-- A number in a JSON text. -/
inductive Number where
  | whole (n : Whole)
  | binary (x : Binary)
  deriving DecidableEq

/-- A JSON value. -/
inductive Json where
  | null
  | boolean (value : Bool)
  | number (value : Number)
  | text (value : String)
  | list (items : List Json)
  | object (members : List (String × Json))
  deriving Inhabited

namespace Whole

/-- The whole number with a given value, if 64 bits can hold it. -/
def ofInt? (n : Int) : Option Whole :=
  if h : -0x8000000000000000 ≤ n ∧ n < 0x10000000000000000 then some ⟨n, h.1, h.2⟩ else none

def ofUInt64 (n : UInt64) : Whole :=
  ⟨n.toNat, by omega, by have := n.toNat_lt; omega⟩

def ofInt64 (n : Int64) : Whole :=
  ⟨n.toInt, n.le_toInt, by have := n.toInt_lt; omega⟩

def ofUInt32 (n : UInt32) : Whole :=
  ⟨n.toNat, by omega, by have := n.toNat_lt; omega⟩

end Whole

namespace Json

def ofUInt64 (n : UInt64) : Json := .number (.whole (.ofUInt64 n))

def ofInt64 (n : Int64) : Json := .number (.whole (.ofInt64 n))

def ofUInt32 (n : UInt32) : Json := .number (.whole (.ofUInt32 n))

/-- A value that may be absent; its absence is written as null. -/
def ofOption (write : α → Json) : Option α → Json
  | none => .null
  | some x => write x

end Json

end FacetedSearch
