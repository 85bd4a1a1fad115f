import FlagReplica.Flag.Basic
import FlagReplica.Notice
/-!
# Where evaluation takes place

Evaluation looks flags and segments up at the moment it needs them and reports as it goes. A `Host`
is all it knows of the place: the two look-ups and the log, in whatever monad the place has. The
same evaluation so runs on a repository, where a look-up changes which entries are recent, and on a
`Snapshot`, where it changes nothing.

References between flags and between segments may lead in circles. Evaluation cuts circles off, and
to be seen to end it also counts how deep it is: the `Budget` says how deep it may get, and
`Budget.ofCounts` allows more than any run on so many flags and segments needs.
-/

namespace FlagReplica

/-- Where evaluation takes place. -/
structure Host (m : Type → Type) where
  /-- The flag of an identifier. -/
  flag? : String → m (Option Flag)
  /-- The segment of an identifier. -/
  segment? : String → m (Option Segment)
  /-- Writes a line to the log. -/
  log : Level → String → m Unit

/-- The same place, seen from a larger monad. -/
def Host.lift {m n : Type → Type} [MonadLiftT m n] (h : Host m) : Host n where
  flag? id := liftM (h.flag? id)
  segment? id := liftM (h.segment? id)
  log level text := liftM (h.log level text)

/-- How deep evaluation may get. -/
structure Budget where
  flags : Nat
  segments : Nat
  deriving DecidableEq, Repr, Inhabited

/-- Enough for a place with so many flags and segments. Each level of a run that does not go in a
circle looks up an identifier it has not looked up since it last met a new one, so the square
suffices even where an identifier leads to something that bears another. -/
def Budget.ofCounts (flags segments : Nat) : Budget :=
  ⟨(flags + 1) * (flags + 1), (segments + 1) * (segments + 1)⟩

/-- Flags and segments that do not change. -/
structure Snapshot where
  flags : List Flag
  segments : List Segment
  deriving DecidableEq, Repr, Inhabited

namespace Snapshot

/-- The flag of an identifier. -/
def flag? (s : Snapshot) (id : String) : Option Flag := s.flags.find? (·.feature = id)

/-- The segment of an identifier. -/
def segment? (s : Snapshot) (id : String) : Option Segment := s.segments.find? (·.identifier = id)

/-- Evaluation on flags and segments that do not change, without a log. -/
def host (s : Snapshot) : Host Id where
  flag? id := s.flag? id
  segment? id := s.segment? id
  log _ _ := ()

/-- Enough for the snapshot. -/
def budget (s : Snapshot) : Budget := .ofCounts s.flags.length s.segments.length

end Snapshot

end FlagReplica
