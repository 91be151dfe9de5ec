/-!
JSON values. Whole numbers of 64 bits stay exact; every other number is a double. The members of
an object are kept in the order of their keys.
-/

set_option autoImplicit false

namespace WebFetch.Json

inductive Number where
  | integer (n : Int)
  | float (x : Float)

inductive Value where
  | null
  | bool (b : Bool)
  | number (n : Number)
  | string (s : String)
  | array (items : List Value)
  | object (members : List (String × Value))

namespace Value

/-- Puts a member in its place. A key that is there already gets the new value. -/
def insert (key : String) (value : Value) : List (String × Value) → List (String × Value)
  | [] => [(key, value)]
  | (k, v) :: rest =>
    if key < k then (key, value) :: (k, v) :: rest
    else if key = k then (key, value) :: rest
    else (k, v) :: insert key value rest

/-- An object from members in any order. The last of several with one key counts. -/
def ofMembers (members : List (String × Value)) : Value :=
  .object (members.foldl (fun done m => insert m.1 m.2 done) [])

end Value

end WebFetch.Json
