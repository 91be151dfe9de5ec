import WebFetch.Headers.Basic

/-!
Header records: what the host takes and gives, one value for each name. The order of a record has no
meaning; it is kept as a list in the order in which the names first came.
-/

set_option autoImplicit false

namespace WebFetch

/-- Names and values, no name twice. -/
abbrev HeaderRecord := List (String × String)

namespace HeaderRecord

/-- Adds a value to the one that is there, or a new name at the end. -/
def join (record : HeaderRecord) (name value : String) : HeaderRecord :=
  match record with
  | [] => [(name, value)]
  | entry :: rest =>
    if entry.1 = name then (name, entry.2 ++ ", " ++ value) :: rest
    else entry :: join rest name value

def get? (record : HeaderRecord) (name : String) : Option String :=
  (record.find? fun entry => entry.1 == name).map Prod.snd

end HeaderRecord

namespace Headers

/-- The record that holds every name once, with its values joined. -/
def toRecord (h : Headers) : HeaderRecord :=
  h.entries.foldl (fun record entry => HeaderRecord.join record entry.1 entry.2) []

/-- The entries of a record, in the order in which it is walked. -/
def ofRecord (record : HeaderRecord) : Headers := ofList record

end Headers

end WebFetch
