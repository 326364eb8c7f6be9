import Cabinet.Document.Basic

/-!
The members of an object as an ordered map: a key keeps the place where it was first put until it
is removed.
-/

namespace Cabinet.Members

/-- The value under a key. -/
def get? (key : String) : Members → Option Document
  | [] => none
  | (k, d) :: ms => if k = key then some d else get? key ms

def contains (key : String) (ms : Members) : Bool :=
  (get? key ms).isSome

/-- Store a value. A key that is there keeps its place, a new one goes to the end. -/
def put (key : String) (value : Document) : Members → Members
  | [] => [(key, value)]
  | (k, d) :: ms => if k = key then (k, value) :: ms else (k, d) :: put key value ms

/-- Remove a key; the others close up. -/
def remove (key : String) : Members → Members
  | [] => []
  | (k, d) :: ms => if k = key then ms else (k, d) :: remove key ms

/-- Change the value under a key, if it is there. -/
def modify (key : String) (f : Document → Document) : Members → Members
  | [] => []
  | (k, d) :: ms => if k = key then (k, f d) :: ms else (k, d) :: modify key f ms

def keys (ms : Members) : List String :=
  ms.map Prod.fst

def values (ms : Members) : List Document :=
  ms.map Prod.snd

/-- Put every entry of a list, in order. -/
def extend (ms : Members) (entries : List (String × Document)) : Members :=
  entries.foldl (fun acc e => put e.1 e.2 acc) ms

/-- The members that a list of entries makes: the first place and the last value of each key. -/
def ofList (entries : List (String × Document)) : Members :=
  extend [] entries

end Cabinet.Members
