import FacetedSearch.Text.Percent

/-!
# Parameters of a query string

A query string is a list of `key=value` pairs with `&` between them. `Parameter` is a pair as it is
meant and `Params` a list of pairs as they are written: `Params.ofParameters` encodes both halves.
-/

namespace FacetedSearch

/-- A parameter as it is meant, nothing encoded. -/
structure Parameter where
  key : String
  value : String
  deriving DecidableEq

/-- Pairs as they are written in a query string. The values are encoded. -/
structure Params where
  pairs : List (String × String)
  deriving DecidableEq

namespace Params

def empty : Params := ⟨[]⟩

/-- One more pair. The key is taken as it is and the value is encoded. -/
def push (params : Params) (key value : String) : Params :=
  ⟨params.pairs ++ [(key, Text.Percent.encode value)]⟩

/-- One more pair whose value has been encoded. -/
def pushEncoded (params : Params) (key value : String) : Params :=
  ⟨params.pairs ++ [(key, value)]⟩

/-- The first value of a key. -/
def get? (params : Params) (key : String) : Option String := params.pairs.lookup key

/-- All values of a key, in order. -/
def getAll (params : Params) (key : String) : List String :=
  (params.pairs.filter (·.1 == key)).map Prod.snd

def keys (params : Params) : List String := params.pairs.map Prod.fst

def size (params : Params) : Nat := params.pairs.length

def isEmpty (params : Params) : Bool := params.pairs.isEmpty

/-- The query string. -/
def text (params : Params) : String :=
  String.intercalate "&" (params.pairs.map fun pair => pair.1 ++ "=" ++ pair.2)

/-- Parameters, keys and values encoded. -/
def ofParameters (parameters : List Parameter) : Params :=
  ⟨parameters.map fun p => (Text.Percent.encode p.key, Text.Percent.encode p.value)⟩

/-- There are as many indices as parameters. -/
@[simp]
theorem size_ofParameters (parameters : List Parameter) :
    (ofParameters parameters).size = parameters.length := by
  simp [ofParameters, size]

end Params

end FacetedSearch
