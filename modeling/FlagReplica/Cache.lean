import FlagReplica.Table
/-!
# The cache

A table of bounded size that forgets what was not used for longest, and remembers when its content
last changed. Entries stand in the order of their last use, the most recent first. What counts as a
use, and what as a change, differs from operation to operation:

* a write is both, unless it writes what is there already, and then it is neither;
* a look-up that finds something is a use, and asking whether a key is there is none;
* filling in what the content behind the cache holds is a use if the key was absent, and never a
  change, even if it pushes another entry out;
* an invalidation is a change whether the key was there or not, for the content behind the cache has
  changed.

Operations that may change the content are given the time.
-/

namespace FlagReplica

/-- A point in time: how often the clock has been read. -/
abbrev Time := Nat

/-- A table of bounded size. -/
structure Cache (κ α : Type) where
  /-- The entries, the one used last first. -/
  entries : Table κ α
  capacity : Nat
  /-- When the content last changed, if it ever did. -/
  updatedAt : Option Time
  deriving Repr

namespace Cache

variable {κ α : Type} [DecidableEq κ] [BEq α]

/-- An empty cache for so many entries, and at least for one. -/
def empty (capacity : Nat) : Cache κ α := ⟨[], max capacity 1, none⟩

/-- The value of a key, without using it. -/
def peek? (c : Cache κ α) (k : κ) : Option α := c.entries.get? k

/-- Whether a key is there. -/
def contains (c : Cache κ α) (k : κ) : Bool := (c.peek? k).isSome

/-- The keys, the one used last first. -/
def keys (c : Cache κ α) : List κ := c.entries.map (·.1)

/-- The number of entries. -/
def size (c : Cache κ α) : Nat := c.entries.length

/-- Records that the content changed. -/
def touch (now : Time) (c : Cache κ α) : Cache κ α := { c with updatedAt := some now }

/-- Puts a value under a key, to the front, and pushes the last entry out if there are too many. -/
def insert (c : Cache κ α) (k : κ) (v : α) : Cache κ α :=
  { c with entries := (c.entries.put k v).take c.capacity }

/-- Writes a value, and says whether that was a change. -/
def set (now : Time) (k : κ) (v : α) (c : Cache κ α) : Bool × Cache κ α :=
  if c.peek? k == some v then (false, c) else (true, (c.insert k v).touch now)

/-- Looks a key up and moves it to the front. -/
def get (k : κ) (c : Cache κ α) : Option α × Cache κ α :=
  match c.peek? k with
  | some v => (some v, { c with entries := c.entries.put k v })
  | none => (none, c)

/-- Removes a key, and gives the value it had. -/
def remove (now : Time) (k : κ) (c : Cache κ α) : Option α × Cache κ α :=
  match c.peek? k with
  | some v => (some v, { c with entries := c.entries.erase k }.touch now)
  | none => (none, c)

/-- Forgets a key, for what is behind the cache has changed. -/
def invalidate (now : Time) (k : κ) (c : Cache κ α) : Cache κ α :=
  { c with entries := c.entries.erase k }.touch now

/-- Fills in what is behind the cache, unless the key is there. -/
def fill (k : κ) (v : α) (c : Cache κ α) : Cache κ α :=
  if c.contains k then c else c.insert k v

/-- Gives the cache another capacity, and says how many entries that pushed out. -/
def resize (now : Time) (capacity : Nat) (c : Cache κ α) : Nat × Cache κ α :=
  let capacity := max capacity 1
  let kept := { c with entries := c.entries.take capacity, capacity }
  let evicted := c.size - kept.size
  (evicted, if evicted = 0 then kept else kept.touch now)

/-- Forgets everything. -/
def purge (now : Time) (c : Cache κ α) : Cache κ α := { c with entries := [] }.touch now

/-- Writes what a function makes of the value of a key, if it makes anything of it, and says whether
that was a change. -/
def update (now : Time) (k : κ) (f : Option α → Option α) (c : Cache κ α) : Bool × Cache κ α :=
  match f (c.peek? k) with
  | some v => c.set now k v
  | none => (false, c)

end Cache

end FlagReplica
