import FlagReplica.Proofs.Evaluation.Membership
import Mathlib.Logic.Basic
/-!
# Negation fails closed

A clause asks a question of a target, and negation turns its answer around. Where the question has
no answer there is nothing to turn around, and neither the clause nor its negation holds: a rule that
nobody can decide is a rule for nobody, whatever its clauses negate (`failsClosed`).

What has an answer is said by `Clause.Applies`, without asking. The answer itself never sees whether
it is negated, and that goes for the segments that are asked on the way, so both polarities always
turn the same answer one way and the other.
-/

namespace FlagReplica

namespace Clause

/-- The clause, negated if it was not, and otherwise not. -/
def negated (c : Clause) : Clause := { c with negate := !c.negate }

/-- The question of the clause has an answer for the target: there are values, and unless they are
segments, a known operator compares them with an attribute that the target has and that is not
null. A pattern has to be one. -/
def Applies (c : Clause) (t : Target) : Prop :=
  ∃ first rest, c.values = first :: rest ∧
    (c.op = .segmentMatch ∨ c.op.isKnown = true ∧
      (∃ value, t.attribute? c.attributeName = some value ∧ value ≠ .null) ∧
      (c.op = .patternMatch → (Pattern.compile? first).isSome = true))

variable {c : Clause} {t : Target} {first text : String} {values : List String}

/-! ## Answers -/

theorem isSome_clauseText?_iff (name : String) : (t.clauseText? name).isSome = true ↔
    ∃ value, t.attribute? name = some value ∧ value ≠ .null := by
  have hvalue (value : AttributeValue) : value.clauseText?.isSome = true ↔ value ≠ .null := by
    cases value <;> simp [AttributeValue.clauseText?]
  rw [Target.clauseText?, Option.isSome_bind, Option.any_eq_true]
  simp only [hvalue]

/-- A text is compared by every operator that is known and needs one, if its pattern is one. -/
theorem isSome_compareText?_iff (op : ClauseOperator) (text first : String)
    (values : List String) : (compareText? op text first values).isSome = true ↔
      op.isKnown = true ∧ op ≠ .segmentMatch ∧
        (op = .patternMatch → (Pattern.compile? first).isSome = true) := by
  cases op with
  | patternMatch => simp [compareText?, Pattern.search?, ClauseOperator.isKnown]
  | segmentMatch | unknown name => simp [compareText?, ClauseOperator.isKnown]
  | oneOf | equal | equalSensitive | greater | startsWith | endsWith | contains =>
    simp [compareText?, ClauseOperator.isKnown]

/-- **A question has an answer exactly where the clause applies**, however membership in segments is
decided. -/
theorem isSome_answer?_iff (member : List String → Id Bool) (c : Clause) (t : Target) :
    (c.answer? member t).run.isSome = true ↔ c.Applies t := by
  unfold answer? Applies
  cases hvalues : c.values with
  | nil => simp
  | cons first rest =>
    dsimp only
    by_cases hop : c.op = .segmentMatch
    · rw [if_pos hop]
      refine iff_of_true rfl ⟨first, rest, rfl, .inl hop⟩
    · rw [if_neg hop]
      -- the text is there and can be compared, and neither depends on the other
      have hbind : ((t.clauseText? c.attributeName).bind fun text =>
          compareText? c.op text first (first :: rest)).isSome = true ↔
          (t.clauseText? c.attributeName).isSome = true ∧ c.op.isKnown = true ∧
            (c.op = .patternMatch → (Pattern.compile? first).isSome = true) := by
        cases t.clauseText? c.attributeName with
        | none => simp
        | some text =>
          rw [Option.bind_some, isSome_compareText?_iff]
          simp [hop]
      change ((t.clauseText? c.attributeName).bind fun text =>
        compareText? c.op text first (first :: rest)).isSome = true ↔ _
      rw [hbind, isSome_clauseText?_iff]
      constructor
      · rintro ⟨hvalue, hknown, hpattern⟩
        exact ⟨first, rest, rfl, .inr ⟨hknown, hvalue, hpattern⟩⟩
      · rintro ⟨_, _, ⟨⟩, hsegments | ⟨hknown, hvalue, hpattern⟩⟩
        · exact absurd hsegments hop
        · exact ⟨hvalue, hknown, hpattern⟩

/-! ## Both polarities -/

theorem settle_negated (c : Clause) (answer : Option Bool) :
    c.negated.settle answer = (answer.isSome && !c.settle answer) := by
  cases answer with
  | none => rfl
  | some matched =>
    have hflip : (matched != !c.negate) = !(matched != c.negate) := by
      cases matched <;> cases c.negate <;> rfl
    exact hflip

theorem settle_of_isSome_eq_false {answer : Option Bool} (h : answer.isSome = false) :
    c.settle answer = false := by
  rw [Option.isSome_eq_false_iff, Option.isNone_iff_eq_none] at h
  rw [h, settle]

theorem run_holdsWith_negated (member : List String → Id Bool) (c : Clause) (t : Target) :
    (c.negated.holdsWith member t).run =
      ((c.answer? member t).run.isSome && !(c.holdsWith member t).run) :=
  settle_negated c _

/-- **One of two polarities holds where the clause applies, and none where it does not**, however
membership in segments is decided. -/
theorem failsClosed_holdsWith (member : List String → Id Bool) (c : Clause) (t : Target) :
    (c.Applies t → Xor ((c.holdsWith member t).run = true)
      ((c.negated.holdsWith member t).run = true)) ∧
    (¬ c.Applies t → (c.holdsWith member t).run = false ∧
      (c.negated.holdsWith member t).run = false) := by
  rw [← isSome_answer?_iff member c t, run_holdsWith_negated]
  refine ⟨fun hanswer => ?_, fun hanswer => ?_⟩
  · rw [hanswer, Bool.true_and]
    cases (c.holdsWith member t).run with
    | true => exact .inl ⟨rfl, Bool.false_ne_true⟩
    | false => exact .inr ⟨rfl, Bool.false_ne_true⟩
  · rw [Bool.not_eq_true] at hanswer
    have hout : (c.holdsWith member t).run = false := settle_of_isSome_eq_false hanswer
    rw [hanswer, hout]
    exact ⟨rfl, rfl⟩

/-- **Negation fails closed.** Of a clause and its negation exactly one holds of a target if the
clause applies to it, and none if it does not, whatever the segments are and however they lead in
circles. That is so of a clause that is asked by itself, and of one that a segment asks, at any
depth and whatever segments are being asked about. -/
theorem failsClosed (s : Snapshot) (t : Target) (c : Clause) :
    ((c.Applies t → Xor ((c.holds s.host s.budget t).run = true)
        ((c.negated.holds s.host s.budget t).run = true)) ∧
      (¬ c.Applies t → (c.holds s.host s.budget t).run = false ∧
        (c.negated.holds s.host s.budget t).run = false)) ∧
    ∀ (levels : Nat) (visiting : List String),
      let member := isMemberBy s.host fun g => g.containsWithin s.host t levels visiting
      (c.Applies t → Xor ((c.holdsWith member t).run = true)
        ((c.negated.holdsWith member t).run = true)) ∧
      (¬ c.Applies t → (c.holdsWith member t).run = false ∧
        (c.negated.holdsWith member t).run = false) :=
  ⟨c.failsClosed_holdsWith (isMember s.host s.budget t) t,
    fun _ _ => c.failsClosed_holdsWith _ t⟩

/-- A clause on the plan of a target. -/
def planClause (op : ClauseOperator) (first : String) (negate : Bool) : Clause :=
  ⟨none, "plan", op, [first], negate⟩

/-- Asked about a segment that lies on a circle, a negated clause holds of who is outside, and the
clause itself does not. A pattern that is none holds of nobody either way. -/
theorem failsClosed_lobby :
    Xor
      ((holds Snapshot.lobby.host Snapshot.lobby.budget (.ofIdentifier "bob")
        (planClause .segmentMatch "staff" true)).run = true)
      ((holds Snapshot.lobby.host Snapshot.lobby.budget (.ofIdentifier "bob")
        (planClause .segmentMatch "staff" true).negated).run = true) ∧
    (holds Snapshot.lobby.host Snapshot.lobby.budget
      ((Target.ofIdentifier "bob").setAttribute "plan" (.text "("))
      (planClause .patternMatch "(" true)).run = false := by
  have hsegments : (planClause .segmentMatch "staff" true).Applies (.ofIdentifier "bob") :=
    ⟨"staff", [], rfl, .inl rfl⟩
  have hpattern : ¬ (planClause .patternMatch "(" true).Applies
      ((Target.ofIdentifier "bob").setAttribute "plan" (.text "(")) := by
    rintro ⟨_, _, ⟨⟩, ⟨⟨⟩⟩ | ⟨-, -, hcompiles⟩⟩
    exact absurd (hcompiles rfl) (by decide +kernel)
  exact ⟨(failsClosed Snapshot.lobby (.ofIdentifier "bob") _).1.1 hsegments,
    ((failsClosed Snapshot.lobby _ _).1.2 hpattern).1⟩

end Clause

end FlagReplica
