import FlagReplica.Bucket
/-!
# Rollouts

A distribution deals the hundred buckets out to its variations, each as many as it weighs, in the
order they are listed. Buckets left over go to the last one.
-/

namespace FlagReplica.Distribution

variable {m : Type → Type} [Monad m]

/-- The largest total of weights that is kept apart. -/
def maxTotal : Nat := 0xFFFFFFFF

/-- The first variation whose share the bucket falls into, after shares of so much. -/
def pickFrom (bucket : Nat) : Nat → List WeightedVariation → Option String
  | _, [] => none
  | total, w :: ws =>
    let total := min (total + w.weight.toNat) maxTotal
    if 0 < w.weight ∧ bucket ≤ total then some w.variation else pickFrom bucket total ws

/-- The variation that a bucket is dealt. -/
def pick? (d : Distribution) (bucket : Nat) : Option String :=
  (pickFrom bucket 0 d.variations).or (d.variations.getLast?.map (·.variation))

/-- The variation that a target is dealt. -/
def resolve? (d : Distribution) (t : Target) : Option String := d.pick? (t.bucket d.bucketBy)

/-- The variation that a target is dealt, with a warning if it is not dealt by the attribute. -/
def report (h : Host m) (d : Distribution) (t : Target) : m (Option String) :=
  d.pick? <$> t.reportBucket h d.bucketBy

end FlagReplica.Distribution
