import FlagReplica.Murmur
import FlagReplica.Target.Basic
import FlagReplica.Evaluation.Host
/-!
# Buckets

Every value falls into one of a hundred buckets, by a hash that all evaluators of a flag share, so
that a target gets the same answer wherever it asks. A target without the attribute that is asked
for falls into the bucket of its identifier.
-/

namespace FlagReplica

/-- The attribute that stands in for one that a target does not have. -/
def fallbackBucketBy : String := "identifier"

/-- The bucket of a value under the name of an attribute, from 1 to 100. -/
def bucket (value bucketBy : String) : Nat :=
  (Murmur.hash 0 (bucketBy ++ ":" ++ value).toUTF8.toList).toNat % 100 + 1

/-- **A bucket is one of a hundred.** -/
theorem bucket_mem (value bucketBy : String) :
    1 ≤ bucket value bucketBy ∧ bucket value bucketBy ≤ 100 := by
  simp only [bucket]; omega

namespace Target

variable {m : Type → Type} [Monad m]

/-- What a target is bucketed by under an attribute, if it has that attribute: its text, which must
not be empty. -/
def bucketText? (t : Target) (bucketBy : String) : Option String :=
  (t.clauseText? bucketBy).filter fun s => !s.isEmpty

/-- The bucket of a target under an attribute. -/
def bucket (t : Target) (bucketBy : String) : Nat :=
  match t.bucketText? bucketBy with
  | some value => FlagReplica.bucket value bucketBy
  | none => FlagReplica.bucket t.identifier fallbackBucketBy

/-- The bucket of a target, with a warning if it is not that of the attribute. -/
def reportBucket (h : Host m) (t : Target) (bucketBy : String) : m Nat := do
  if (t.bucketText? bucketBy).isNone then
    h.log .warn "bucketBy attribute not found in target attributes, falling back to 'identifier'"
  return t.bucket bucketBy

/-- Whether a target is among the first so many buckets. -/
def isEnabled (t : Target) (bucketBy : String) (percentage : UInt32) : Bool :=
  0 < percentage && t.bucket bucketBy ≤ percentage.toNat

/-- Whether a target is among the first so many buckets, with the warning of `reportBucket`. Nothing
has to be known of a target to know that it is not among the first none. -/
def reportEnabled (h : Host m) (t : Target) (bucketBy : String) (percentage : UInt32) : m Bool := do
  if percentage = 0 then return false
  return (← t.reportBucket h bucketBy) ≤ percentage.toNat

end Target

end FlagReplica
