import Stencil.Decimal.Float
import Stencil.Text.Symbol
import Stencil.Value.Calendar

/-!
# Values

The data that templates are rendered with and configurations are made of. A dictionary keeps its
entries in the order in which their keys were first given; giving a key again replaces its value and
leaves its place.

Keys are values themselves. Two keys are the same when they are equal as data, and numbers are equal
by what they count: `1`, `1.0` and `true` are one key. What is not a number is equal to nothing, so it
is a new key every time, except for the one that is the same thing wherever it stands. Times in zones
are equal when they are one moment.

A value may hold itself. Then it is a knot, which has a number, and `back` with that number stands for
it inside of itself. Every collection through which a value comes back to itself is a knot of its own,
so that it is known again wherever it is met. `untied` opens a knot: what it answers holds the whole
knot where the knot holds `back`.
-/

namespace Stencil

/-- A value. -/
inductive Value where
  | null
  | bool (b : Bool)
  | int (n : Int)
  | float (x : Float)
  /-- Not a number, the one that is the same key wherever it stands. -/
  | nan
  | text (s : Text)
  /-- Symbols among which there is half of a pair. -/
  | broken (s : Symbols)
  | bytes (bytes : List UInt8)
  | list (elements : List Value)
  | tuple (elements : List Value)
  | set (elements : List Value)
  | dict (entries : List (Value × Value))
  | date (d : Date)
  | dateTime (d : Date) (c : Clock) (zone : Option Zone)
  | time (c : Clock)
  /-- A value that holds itself. -/
  | knot (number : Nat) (inner : Value)
  /-- The knot of the number, inside of that knot. -/
  | back (number : Nat)
deriving Inhabited

/-- A dictionary: its entries in order. -/
abbrev Dict := List (Value × Value)

namespace Value

/-- The value that symbols are. -/
def ofSymbols (s : Symbols) : Value :=
  match s.text? with
  | some s => .text s
  | none => .broken s

/-! ## Knots -/

mutual

/-- The value with another in the place of `back` of a number. Knots of that number are left alone,
because theirs is their own. -/
def tied (number : Nat) (whole : Value) : Value → Value
  | .back n => if n = number then whole else .back n
  | .knot n inner => .knot n (if n = number then inner else tied number whole inner)
  | .list xs => .list (tiedElements number whole xs)
  | .tuple xs => .tuple (tiedElements number whole xs)
  | .dict entries => .dict (tiedEntries number whole entries)
  | v => v

/-- The elements with another value in the place of `back`. -/
def tiedElements (number : Nat) (whole : Value) : List Value → List Value
  | [] => []
  | v :: rest => tied number whole v :: tiedElements number whole rest

/-- The entries with another value in the place of `back`. -/
def tiedEntries (number : Nat) (whole : Value) : List (Value × Value) → List (Value × Value)
  | [] => []
  | (k, v) :: rest => (k, tied number whole v) :: tiedEntries number whole rest

end

/-- The value with its knot opened, if it is one. -/
def untied : Value → Value
  | .knot n inner => tied n (.knot n inner) inner
  | v => v

/-! ## Keys -/

/-- A number as a key sees it: an integer when it is equal to one. -/
inductive Quantity where
  | whole (n : Int)
  | fraction (bits : UInt64)
deriving DecidableEq

/-- The quantity of a number; truth values count as zero and one. -/
def quantity? : Value → Option Quantity
  | .bool b => some (.whole (if b then 1 else 0))
  | .int n => some (.whole n)
  | .float x =>
    match Decimal.toInt? x with
    | some n => some (.whole n)
    | none => if Decimal.isNotANumber x then none else some (.fraction x.toBits)
  | _ => none

/-- Whether two date-times are the same key: one moment in their zones, or the same date and time when
neither has one. -/
def sameTime (d : Date) (c : Clock) (z : Option Zone) (e : Date) (k : Clock) (y : Option Zone) : Bool :=
  match z, y with
  | some z, some y => z.moment d c == y.moment e k
  | none, none => d == e && c == k
  | _, _ => false

mutual

/-- Whether two keys are the same key. -/
def sameKey : Value → Value → Bool
  | .text s, .text t => s == t
  | .broken s, .broken t => s == t
  | .null, .null => true
  | .nan, .nan => true
  | .bytes a, .bytes b => a == b
  | .date d, .date e => d == e
  | .dateTime d c z, .dateTime e k y => sameTime d c z e k y
  | .time c, .time k => c == k
  | .tuple xs, .tuple ys => sameKeys xs ys
  | a, b =>
    match a.quantity?, b.quantity? with
    | some p, some q => p == q
    | _, _ => false

/-- Whether two tuples are the same key, element by element. -/
def sameKeys : List Value → List Value → Bool
  | [], [] => true
  | x :: xs, y :: ys => sameKey x y && sameKeys xs ys
  | _, _ => false

end

/-! ## Classes of values -/

/-- Whether a value counts as true: everything does but nothing, false, zero and what is empty. -/
def truthy : Value → Bool
  | .null => false
  | .bool b => b
  | .int n => n != 0
  | .float x => x != 0
  | .text s => !s.isEmpty
  | .broken s => !s.isEmpty
  | .bytes b => !b.isEmpty
  | .list xs | .tuple xs | .set xs => !xs.isEmpty
  | .dict entries => !entries.isEmpty
  | .nan | .date _ | .dateTime .. | .time _ | .back _ => true
  | .knot _ inner => truthy inner

/-- The elements that a loop runs over, when the value is a list or a tuple. -/
def elements? (v : Value) : Option (List Value) :=
  match v.untied with
  | .list xs | .tuple xs => some xs
  | _ => none

/-- Whether a loop runs over the value. -/
def isSequence (v : Value) : Bool := v.elements?.isSome

/-- The entries of a dictionary. -/
def entries? (v : Value) : Option Dict :=
  match v.untied with
  | .dict entries => some entries
  | _ => none

end Value

namespace Dict

/-- The value of a key. -/
def find? (key : Value) : Dict → Option Value
  | [] => none
  | (k, v) :: rest => if k.sameKey key then some v else find? key rest

/-- The value of the text key `name`. -/
def get? (name : Text) : Dict → Option Value
  | [] => none
  | (.text k, v) :: rest => if k = name then some v else get? name rest
  | _ :: rest => get? name rest

/-- Gives a key a value: in the place of the key if it is there, at the end if not. -/
def insert (key value : Value) : Dict → Dict
  | [] => [(key, value)]
  | (k, v) :: rest => if k.sameKey key then (k, value) :: rest else (k, v) :: insert key value rest

/-- Gives every key of `entries` its value, in order. -/
def update (d entries : Dict) : Dict := entries.foldl (fun d (k, v) => insert k v d) d

/-- The dictionary that the entries make up, in order. -/
def ofEntries (entries : List (Value × Value)) : Dict := update [] entries

/-- The dictionary without a text key. -/
def erase (name : Text) (d : Dict) : Dict := d.filter fun (k, _) => !k.sameKey (.text name)

end Dict

end Stencil
