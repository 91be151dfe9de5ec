import WebFetch.Entries

/-!
Header lists. Names count without regard to ASCII case and are kept in lower case; entries keep the
order in which they came, and a name may come more than once.
-/

set_option autoImplicit false

namespace WebFetch

structure Headers where
  entries : Entries
  deriving DecidableEq

namespace Headers

def lower (name : String) : String := String.ofList (name.toList.map Char.toLower)

def empty : Headers := ⟨[]⟩

def ofList (pairs : List (String × String)) : Headers :=
  ⟨pairs.map fun pair => (lower pair.1, pair.2)⟩

def append (h : Headers) (name value : String) : Headers := ⟨h.entries.append (lower name) value⟩

/-- The first entry of the name takes the value, and later ones go. -/
def set (h : Headers) (name value : String) : Headers := ⟨h.entries.set (lower name) value⟩

def delete (h : Headers) (name : String) : Headers := ⟨h.entries.delete (lower name)⟩

def getAll (h : Headers) (name : String) : List String := h.entries.valuesOf (lower name)

/-- The values of one name as one value. -/
def joined (values : List String) : String := ", ".intercalate values

def get? (h : Headers) (name : String) : Option String :=
  match h.getAll name with
  | [] => none
  | values => some (joined values)

def has (h : Headers) (name : String) : Bool := h.entries.has (lower name)

def size (h : Headers) : Nat := h.entries.length

def isEmpty (h : Headers) : Bool := h.entries.isEmpty

def keys (h : Headers) : List String := h.entries.map Prod.fst

def values (h : Headers) : List String := h.entries.map Prod.snd

/-- Sets a header unless there is one of its name. -/
def setDefault (h : Headers) (name value : String) : Headers :=
  if h.has name then h else h.set name value

end Headers

end WebFetch
