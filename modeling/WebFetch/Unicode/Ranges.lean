/-!
Sets and functions of code points as sorted tables of ranges, looked up by bisection. A set is
written as hexadecimal ranges divided by blanks, `41-5A 5F`; a function as ranges with images,
`41-5A:61 DF:73+73`, where `100-12E/2:101` takes every second code point of its range.
-/

set_option autoImplicit false

namespace WebFetch.Unicode

def hexValue? (c : Char) : Option Nat :=
  if '0' ≤ c ∧ c ≤ '9' then some (c.toNat - 48)
  else if 'A' ≤ c ∧ c ≤ 'F' then some (c.toNat - 55)
  else if 'a' ≤ c ∧ c ≤ 'f' then some (c.toNat - 87)
  else none

/-- A hexadecimal number; characters that are no digits are passed over. -/
def hexNumber (cs : List Char) : Nat :=
  cs.foldl (fun n c => match hexValue? c with | some d => n * 16 + d | none => n) 0

/-- The maximal runs of characters that `sep` rejects, empty ones left out. -/
def fields (sep : Char → Bool) (cs : List Char) : List (List Char) :=
  let (last, done) := cs.foldr
    (fun c (run, done) =>
      if sep c then ([], if run.isEmpty then done else run :: done) else (c :: run, done))
    ([], [])
  if last.isEmpty then done else last :: done

/-- A set of code points as ascending, disjoint, inclusive ranges. -/
structure Ranges where
  bounds : Array (Nat × Nat)

namespace Ranges

def parseRange (cs : List Char) : Nat × Nat :=
  match fields (· == '-') cs with
  | [low, high] => (hexNumber low, hexNumber high)
  | [single] => (hexNumber single, hexNumber single)
  | _ => (0, 0)

def parse (text : String) : Ranges :=
  ⟨((fields (fun c => c == ' ' || c == '\n') text.toList).map parseRange).toArray⟩

end Ranges

/-- The last of the first `n` indices at which `below` holds, where it holds exactly on an initial
    segment of them; `fuel` bounds the halvings. -/
def bisect (below : Nat → Bool) : (fuel low high : Nat) → Nat
  | 0, low, _ => low
  | fuel + 1, low, high =>
    if high ≤ low + 1 then low
    else
      let mid := (low + high) / 2
      if below mid then bisect below fuel mid high else bisect below fuel low mid

/-- The index of the last key that is at most `n`, keys in ascending order. -/
def lastAtMost? {α : Type} (key : α → Nat) (table : Array α) (n : Nat) : Option α :=
  let i := bisect (fun i => match table[i]? with | some x => key x ≤ n | none => false)
    64 0 table.size
  match table[i]? with
  | some x => if key x ≤ n then some x else none
  | none => none

namespace Ranges

def contains (r : Ranges) (n : Nat) : Bool :=
  match lastAtMost? Prod.fst r.bounds n with
  | some (_, high) => n ≤ high
  | none => false

def containsChar (r : Ranges) (c : Char) : Bool := r.contains c.toNat

end Ranges

/-- Every `stride`th code point from `low` to `high`, with one image for all of them, or with
    an image that moves along with the argument. -/
structure Run where
  low : Nat
  high : Nat
  stride : Nat
  image : List Nat

/-- A single image point moves along with the argument; a longer image stays. -/
def Run.imageAt (run : Run) (n : Nat) : List Nat :=
  match run.image with
  | [first] => [first + (n - run.low)]
  | image => image

/-- A partial function on code points as ascending, disjoint runs. -/
structure Runs where
  table : Array Run

namespace Runs

def parseRun (cs : List Char) : Run :=
  match fields (· == ':') cs with
  | [source, target] =>
    let image := (fields (· == '+') target).map hexNumber
    match fields (· == '/') source with
    | [range, stride] =>
      let (low, high) := Ranges.parseRange range
      ⟨low, high, hexNumber stride, image⟩
    | _ =>
      let (low, high) := Ranges.parseRange source
      ⟨low, high, 1, image⟩
  | _ => ⟨0, 0, 1, []⟩

def parse (text : String) : Runs :=
  ⟨((fields (fun c => c == ' ' || c == '\n') text.toList).map parseRun).toArray⟩

def find? (r : Runs) (n : Nat) : Option Run :=
  match lastAtMost? Run.low r.table n with
  | some run => if n ≤ run.high ∧ (n - run.low) % run.stride = 0 then some run else none
  | none => none

end Runs

end WebFetch.Unicode
