import FlagReplica.Entry
import FlagReplica.Proofs.Json.Provenance
import FlagReplica.Proofs.Json.Recovery
import FlagReplica.Sync.Event
/-!
# Codecs round-trip

Flags, segments, push events and entries are decoded from what they are encoded as. One thing is
lost on the way: an operator is written as its name, so an unknown operator that has the name of a
known one is read as the known one. Values without such operators are canonical, and nothing else is
ever decoded; what was once decoded therefore stays as it is.

`recovers` takes each type from its JSON to the value, in the order in which types are made of each
other, and counts the levels of brackets; nine are the most. `isCanonical_of_makes` goes from the
decoder to the value.
-/

namespace FlagReplica

open Decode

variable {levels : Nat}

/-! ## Parts of flags and segments -/

theorem FlagKind.recovers (k : FlagKind) : Recovers FlagKind.decoder levels k.encode k := by
  cases k with
  | boolean | string | int | json => exact .named rfl

theorem FlagState.recovers (s : FlagState) : Recovers FlagState.decoder levels s.encode s := by
  cases s with
  | on | off => exact .named rfl

theorem Variation.recovers (v : Variation) :
    Recovers Variation.decoder (levels + 1) v.encode v :=
  .record _ (by decide) <|
    .written (.string _) <|
    .optional (fun s _ => .option (.string s) nofun) <|
    .optional (fun s _ => .option (.string s) nofun) <|
    .written (.string _) .nil

theorem WeightedVariation.recovers (w : WeightedVariation) :
    Recovers WeightedVariation.decoder (levels + 1) w.encode w :=
  .record _ (by decide) <|
    .written (.string _) <|
    .written (.uint32 _) .nil

theorem Distribution.recovers (d : Distribution) :
    Recovers Distribution.decoder (levels + 3) d.encode d :=
  .record _ (by decide) <|
    .written (.string _) <|
    .written (.list fun w _ => w.recovers) .nil

/-- An object with one field that counts is recovered from that field. -/
theorem recovers_singleField {α β : Type} {name : String} {dec : Decoder α} {j : Json} {x : α}
    (build : α → β) (h : Recovers dec levels j x) :
    Recovers (singleField name dec build) (levels + 1) (.object [(name, j)]) (build x) := by
  let fields : Fields (α × Unit) := .cons name dec .required .nil
  have hnames : fields.names.Nodup := List.nodup_cons.mpr ⟨List.not_mem_nil, List.nodup_nil⟩
  have hfields : fields.Recovers levels [(name, some j)] (x, ()) := .written h .nil
  have hrecord : Recovers (record "" fields fun x => build x.1) (levels + 1)
      (.object [(name, j)]) (build x) := .record _ hnames hfields
  exact ⟨hrecord.plain, hrecord.decode⟩

theorem Serve.recovers (serve : Serve) :
    Recovers Serve.decoder (levels + 4) serve.encode serve := by
  cases serve with
  | distribution d =>
    have h : Recovers (singleField "distribution" Distribution.decoder Serve.distribution)
        (levels + 4) (Serve.distribution d).encode (.distribution d) :=
      recovers_singleField _ d.recovers
    refine .oneForm h.plain fun src hsrc => ?_
    rw [List.findSome?_cons, h.decode src (Source.allows_of_ne_text hsrc)]
    rfl
  | variation id =>
    have h : Recovers (singleField "variation" string Serve.variation)
        (levels + 4) (Serve.variation id).encode (.variation id) :=
      recovers_singleField _ (.string id)
    refine .oneForm h.plain fun src hsrc => ?_
    -- the form that is tried first misses its field
    cases src with
    | text n => exact absurd rfl (hsrc n)
    | buffer | kept | value => rfl

theorem TargetRef.recovers (r : TargetRef) :
    Recovers TargetRef.decoder (levels + 1) r.encode r :=
  .record _ (by decide) <|
    .written (.string _) <|
    .optional (fun s _ => .option (.string s) nofun) .nil

theorem VariationMap.recovers (m : VariationMap) :
    Recovers VariationMap.decoder (levels + 3) m.encode m :=
  .record _ (by decide) <|
    .written (.string _) <|
    .written (.list fun r _ => r.recovers) <|
    .written (.strings _) .nil

theorem Prerequisite.recovers (p : Prerequisite) :
    Recovers Prerequisite.decoder (levels + 2) p.encode p :=
  .record _ (by decide) <|
    .written (.string _) <|
    .written (.strings _) .nil

/-! ## Operators -/

namespace ClauseOperator

variable {op : ClauseOperator}

/-- The operator is not an unknown one with the name of one that is known. -/
def IsCanonical (op : ClauseOperator) : Prop :=
  ∀ name, op = .unknown name → name ∉ known.map (·.1)

theorem ofName_ne_unknown : ∀ name ∈ known.map (·.1), ofName name ≠ .unknown name := by decide

/-- **Canonical operators are those that their names stand for.** -/
theorem ofName_name_eq_self_iff : ofName op.name = op ↔ op.IsCanonical := by
  constructor
  · rintro h name rfl hmem
    exact ofName_ne_unknown name hmem h
  · intro h
    cases op with
    | unknown name =>
      have hlookup : known.lookup name = none := by
        rw [List.lookup_eq_none_iff]
        intro entry hentry
        have hne : entry.1 ≠ name := ne_of_mem_of_not_mem (List.mem_map_of_mem hentry) (h name rfl)
        exact bne_iff_ne.mpr hne.symm
      rw [ClauseOperator.name, ofName, hlookup, Option.getD_none]
    | _ => exact ofName_name rfl

/-- Any other unknown operator comes back as the known one. -/
example : text decoder (unknown "in").encode.render = .ok .oneOf := rfl

theorem recovers (h : op.IsCanonical) : Recovers decoder levels op.encode op := by
  have hname : Recovers decoder levels op.encode (ofName op.name) :=
    (Recovers.string op.name).map ofName
  rwa [ofName_name_eq_self_iff.mpr h] at hname

theorem isCanonical_of_makes (h : Makes decoder op) : op.IsCanonical := by
  obtain ⟨name, -, rfl⟩ := h.exists_of_map
  rw [← ofName_name_eq_self_iff, name_ofName]

end ClauseOperator

/-! ## Clauses and rules -/

theorem Clause.recovers {c : Clause} (h : c.op.IsCanonical) :
    Recovers Clause.decoder (levels + 2) c.encode c :=
  .record _ (by decide) <|
    .optional (fun s _ => .option (.string s) nofun) <|
    .written (.string _) <|
    .written (ClauseOperator.recovers h) <|
    .written (.strings _) <|
    .written (.bool _) .nil

theorem ServingRule.recovers {rule : ServingRule} (h : ∀ c ∈ rule.clauses, c.op.IsCanonical) :
    Recovers ServingRule.decoder (levels + 5) rule.encode rule :=
  .record _ (by decide) <|
    .optional (fun s _ => .option (.string s) nofun) <|
    .written (.int32 _) <|
    .written (.list fun c hc => c.recovers (h c hc)) <|
    .written rule.serve.recovers .nil

theorem Clause.isCanonical_of_makes {c : Clause} (h : Makes Clause.decoder c) :
    c.op.IsCanonical := by
  obtain ⟨x, ⟨-, -, hop, -⟩, rfl⟩ := h.exists_fields
  exact ClauseOperator.isCanonical_of_makes (Makes.of_required hop)

theorem ServingRule.isCanonical_of_makes {rule : ServingRule}
    (h : Makes ServingRule.decoder rule) : ∀ c ∈ rule.clauses, c.op.IsCanonical := by
  obtain ⟨x, ⟨-, -, hclauses, -⟩, rfl⟩ := h.exists_fields
  exact fun c hc => Clause.isCanonical_of_makes (Makes.of_listField hclauses c hc)

/-! ## Flags, segments, events -/

/-- No clause has an unknown operator with the name of one that is known. -/
def Flag.IsCanonical (f : Flag) : Prop :=
  ∀ rule ∈ f.rules, ∀ c ∈ rule.clauses, c.op.IsCanonical

/-- No clause has an unknown operator with the name of one that is known. -/
def Segment.IsCanonical (s : Segment) : Prop := ∀ c ∈ s.rules, c.op.IsCanonical

theorem Flag.recovers {f : Flag} (h : f.IsCanonical) :
    Recovers Flag.decoder (levels + 7) f.encode f :=
  .record _ (by decide) <|
    .written (.string _) <|
    .written f.kind.recovers <|
    .written f.state.recovers <|
    .written (.string _) <|
    .written f.defaultServe.recovers <|
    .written (.list fun rule hrule => rule.recovers (h rule hrule)) <|
    .written (.list fun m _ => m.recovers) <|
    .written (.list fun p _ => p.recovers) <|
    .written (.list fun v _ => v.recovers) <|
    .written (.int64 _) .nil

theorem Flag.isCanonical_of_makes {f : Flag} (h : Makes Flag.decoder f) : f.IsCanonical := by
  obtain ⟨x, ⟨-, -, -, -, -, hrules, -⟩, rfl⟩ := h.exists_fields
  exact fun rule hrule =>
    ServingRule.isCanonical_of_makes (Makes.of_listField hrules rule hrule)

theorem Segment.recovers {s : Segment} (h : s.IsCanonical) :
    Recovers Segment.decoder (levels + 4) s.encode s :=
  .record _ (by decide) <|
    .written (.string _) <|
    .optional (fun s _ => .option (.string s) nofun) <|
    .written (.list fun r _ => r.recovers) <|
    .written (.list fun r _ => r.recovers) <|
    .written (.list fun c hc => c.recovers (h c hc)) <|
    .written (.int64 _) .nil

theorem Segment.isCanonical_of_makes {s : Segment} (h : Makes Segment.decoder s) :
    s.IsCanonical := by
  obtain ⟨x, ⟨-, -, -, -, hrules, -⟩, rfl⟩ := h.exists_fields
  exact fun c hc => Clause.isCanonical_of_makes (Makes.of_listField hrules c hc)

theorem EventDomain.recovers (domain : EventDomain) :
    Recovers EventDomain.decoder levels domain.encode domain := by
  cases domain with
  | flag | segment | unknown => exact ⟨.string _, fun _ _ => rfl⟩

theorem EventKind.recovers (kind : EventKind) :
    Recovers EventKind.decoder levels kind.encode kind := by
  cases kind with
  | create | update | delete => exact .named rfl

theorem PushEvent.recovers (e : PushEvent) :
    Recovers PushEvent.decoder (levels + 1) e.encode e :=
  .record _ (by decide) <|
    .written e.domain.recovers <|
    .written e.event.recovers <|
    .written (.string _) <|
    .written (.int64 _) .nil

/-! ## Entries -/

namespace Entry

/-- No clause has an unknown operator with the name of one that is known. -/
def IsCanonical : Entry → Prop
  | .flag f => f.IsCanonical
  | .flags fs => ∀ f ∈ fs, f.IsCanonical
  | .segment s => s.IsCanonical
  | .segments ss => ∀ s ∈ ss, s.IsCanonical

theorem recovers_tagged {name : String} {tag : Tag} {j : Json} {e : Entry}
    (htag : Tag.names.lookup name = some tag) (h : Recovers tag.content levels j e) :
    Recovers decoder (levels + 1) (.object [("kind", .string name), ("value", j)]) e where
  plain := .object fun m hm => by
    rcases List.mem_pair.mp hm with rfl | rfl
    · exact .string name
    · exact h.plain
  decode src hsrc := by
    obtain ⟨src', hsrc', hallows⟩ := exists_descend hsrc
    have hkind : Tag.decoder src' (.string name) = .ok tag :=
      (Recovers.named htag).decode src' hallows
    have hvalue : tag.content src' (Document.ofJson j) = .ok e := h.decode src' hallows
    have hread : readMembers src' (Document.ofMembers [("kind", .string name), ("value", j)])
        .nothing = .ok (.whole e) := by
      change ((Progress.tagged <$> Tag.decoder src' (.string name)).bind _) = _
      rw [hkind]
      change ((Progress.whole <$> tag.content src' (Document.ofJson j)).bind _) = _
      rw [hvalue]
      rfl
    rw [Document.ofJson, decoder, hsrc']
    change ((readMembers src' _ .nothing).bind _) = _
    rw [hread]
    rfl

theorem recovers {e : Entry} (h : e.IsCanonical) :
    Recovers decoder (levels + 9) e.encode e := by
  cases e with
  | flag f => exact recovers_tagged rfl ((Flag.recovers h).map Entry.flag)
  | flags fs =>
    exact recovers_tagged rfl ((Recovers.list fun f hf => Flag.recovers (h f hf)).map Entry.flags)
  | segment s => exact recovers_tagged rfl ((Segment.recovers h).map Entry.segment)
  | segments ss =>
    exact recovers_tagged rfl
      ((Recovers.list fun s hs => Segment.recovers (h s hs)).map Entry.segments)

/-- What was read is a whole entry only if the decoder of its kind made it. -/
def Progress.Sound (p : Progress) : Prop := ∀ e, p = .whole e → ∃ tag : Tag, Makes tag.content e

variable {src : Source} {p p' : Progress} {e : Entry}

theorem Progress.sound_nothing : Progress.nothing.Sound := nofun

theorem Progress.Sound.readMember {name : String} {d : Document} (h : p.Sound)
    (hread : readMember src name d p = .ok p') : p'.Sound := by
  -- only a step that reads the value by its kind makes the entry whole
  cases p with
  | nothing =>
    rw [Entry.readMember] at hread
    split_ifs at hread
    · obtain ⟨tag, -, rfl⟩ := exists_of_map_eq_ok hread
      exact nofun
    · obtain ⟨-, -, hread⟩ := exists_of_bind_eq_ok hread
      cases hread
      exact nofun
    · obtain rfl := eq_of_skip hread
      exact h
  | tagged tag =>
    rw [Entry.readMember] at hread
    split_ifs at hread
    · cases hread
    · obtain ⟨e, hvalue, rfl⟩ := exists_of_map_eq_ok hread
      rintro e' ⟨⟩
      exact ⟨tag, src, d, hvalue⟩
    · obtain rfl := eq_of_skip hread
      exact h
  | waiting v =>
    change (if name = "kind" then _ else if name = "value" then _ else _) = _ at hread
    split_ifs at hread
    · obtain ⟨tag, -, hread⟩ := exists_of_bind_eq_ok hread
      obtain ⟨e, hvalue, rfl⟩ := exists_of_map_eq_ok hread
      rintro e' ⟨⟩
      exact ⟨tag, _, v, hvalue⟩
    · cases hread
    · obtain rfl := eq_of_skip hread
      exact h
  | whole e =>
    rw [Entry.readMember] at hread
    split_ifs at hread
    · cases hread
    · cases hread
    · obtain rfl := eq_of_skip hread
      exact h

theorem Progress.Sound.readMembers {ms : List (Label × Document)} (h : p.Sound)
    (hread : readMembers src ms p = .ok p') : p'.Sound := by
  induction ms generalizing p with
  | nil =>
    cases hread
    exact h
  | cons m ms ih =>
    obtain ⟨name, -, hread⟩ := exists_of_bind_eq_ok hread
    obtain ⟨mid, hmember, hread⟩ := exists_of_bind_eq_ok hread
    exact ih (h.readMember hmember) hread

/-- **The value of an entry was made by the decoder of its kind**, whichever of the two came first,
and whether the entry was an object or a sequence. -/
theorem exists_tag_of_makes (h : Makes decoder e) : ∃ tag : Tag, Makes tag.content e := by
  obtain ⟨src, d, h⟩ := h
  cases d with
  | object ms ending =>
    obtain ⟨src', -, h⟩ := exists_of_bind_eq_ok h
    obtain ⟨p, hread, h⟩ := exists_of_bind_eq_ok h
    obtain ⟨-, -, h⟩ := exists_of_bind_eq_ok h
    have hsound : p.Sound := Progress.sound_nothing.readMembers hread
    cases p with
    | whole e =>
      cases h
      exact hsound e rfl
    | nothing | tagged tag | waiting v => cases h
  | array ds ending =>
    obtain ⟨src', -, h⟩ := exists_of_bind_eq_ok h
    match ds, h with
    | [], h =>
      obtain ⟨-, -, h⟩ := exists_of_bind_eq_ok h
      cases h
    | [kind], h =>
      obtain ⟨tag, -, h⟩ := exists_of_bind_eq_ok h
      obtain ⟨-, -, h⟩ := exists_of_bind_eq_ok h
      cases h
    | kind :: content :: rest, h =>
      obtain ⟨tag, -, h⟩ := exists_of_bind_eq_ok h
      obtain ⟨e, hvalue, h⟩ := exists_of_bind_eq_ok h
      obtain ⟨-, -, h⟩ := exists_of_bind_eq_ok h
      cases h
      exact ⟨tag, src', content, hvalue⟩
  | number n => exact absurd h wrongType_ne_ok
  | _ => cases h

theorem isCanonical_of_makes (h : Makes decoder e) : e.IsCanonical := by
  obtain ⟨tag, h⟩ := exists_tag_of_makes h
  cases tag with
  | flag =>
    obtain ⟨f, hf, rfl⟩ := h.exists_of_map
    exact Flag.isCanonical_of_makes hf
  | flags =>
    obtain ⟨fs, hfs, rfl⟩ := h.exists_of_map
    exact fun f hf => Flag.isCanonical_of_makes (hfs.of_list f hf)
  | segment =>
    obtain ⟨s, hs, rfl⟩ := h.exists_of_map
    exact Segment.isCanonical_of_makes hs
  | segments =>
    obtain ⟨ss, hss, rfl⟩ := h.exists_of_map
    exact fun s hs => Segment.isCanonical_of_makes (hss.of_list s hs)

end Entry

/-! ## Encoding and decoding again -/

/-- A codec keeps the values that are `canonical`: each is decoded from the text of its JSON and
from the JSON itself. What it decodes, from any text or JSON, is canonical, and therefore kept. -/
structure RoundTrips {α : Type} (dec : Decoder α) (encode : α → Json) (canonical : α → Prop) :
    Prop where
  text_encode : ∀ x, canonical x → text dec (encode x).render = .ok x
  value_encode : ∀ x, canonical x → value dec (encode x) = .ok x
  text_again : ∀ s x, text dec s = .ok x → canonical x ∧ text dec (encode x).render = .ok x
  value_again : ∀ j x, value dec j = .ok x → canonical x ∧ value dec (encode x) = .ok x

theorem RoundTrips.of_recovers {α : Type} {dec : Decoder α} {encode : α → Json}
    {canonical : α → Prop} (hrecovers : ∀ x, canonical x → Recovers dec maxLevels (encode x) x)
    (hmakes : ∀ x, Makes dec x → canonical x) : RoundTrips dec encode canonical where
  text_encode x hx := (hrecovers x hx).text_render (Nat.le_refl maxLevels)
  value_encode x hx := (hrecovers x hx).value
  text_again s x h := by
    have hx : canonical x := hmakes x (.of_text h)
    exact ⟨hx, (hrecovers x hx).text_render (Nat.le_refl maxLevels)⟩
  value_again j x h := by
    have hx : canonical x := hmakes x (.of_value h)
    exact ⟨hx, (hrecovers x hx).value⟩

/-- **Flags, segments, push events and entries stay the same when they are encoded and decoded.**
All that is excepted are unknown operators with the name of a known one, and what was decoded has
none. -/
theorem codecs_roundTrip :
    RoundTrips Flag.decoder Flag.encode Flag.IsCanonical ∧
    RoundTrips Segment.decoder Segment.encode Segment.IsCanonical ∧
    RoundTrips PushEvent.decoder PushEvent.encode (fun _ => True) ∧
    RoundTrips Entry.decoder Entry.encode Entry.IsCanonical :=
  ⟨.of_recovers (fun _ => Flag.recovers) fun _ => Flag.isCanonical_of_makes,
    .of_recovers (fun _ => Segment.recovers) fun _ => Segment.isCanonical_of_makes,
    .of_recovers (fun e _ => e.recovers) fun _ _ => trivial,
    .of_recovers (fun _ => Entry.recovers) fun _ => Entry.isCanonical_of_makes⟩

/-- A flag with strings that are escaped, numbers at the ends of their ranges, and an operator that
is not known. -/
def awkwardFlag : Flag where
  feature := "a\"\\/\n\x00é😀"
  kind := .json
  state := .on
  offVariation := ""
  defaultServe := .distribution ⟨"", [⟨"v", 0xFFFFFFFF⟩]⟩
  rules := [{
    ruleId := none
    priority := -0x80000000
    clauses := [⟨some "", "email", .unknown "In", ["x"], true⟩]
    serve := .variation "w" }]
  variationToTargetMap := [⟨"v", [⟨"t", none⟩, ⟨"u", some "U"⟩], []⟩]
  prerequisites := [⟨"base", []⟩]
  variations := [⟨"v", none, some "", "[1]"⟩]
  version := -0x8000000000000000

/-- The flag, by itself and in a list; and an event with the second names of its kind and of its
change, which are written as the first ones. -/
theorem codecs_roundTrip_awkwardFlag :
    let second := "\x7b\"event\": \"patch\", \"domain\": \"segment\", \"version\": 3, " ++
      "\"identifier\": \"s\"\x7d"
    let e : PushEvent := ⟨.segment, .update, "s", 3⟩
    awkwardFlag.IsCanonical ∧ (Entry.flags [awkwardFlag]).IsCanonical ∧
      text Flag.decoder awkwardFlag.encode.render = .ok awkwardFlag ∧
      text Entry.decoder (Entry.flags [awkwardFlag]).encode.render = .ok (.flags [awkwardFlag]) ∧
      text PushEvent.decoder second = .ok e ∧ e.encode.render ≠ second ∧
      text PushEvent.decoder e.encode.render = .ok e := by
  intro second e
  have hflag : awkwardFlag.IsCanonical := by
    intro rule hrule c hc name hop
    obtain rfl := List.mem_singleton.mp hrule
    obtain rfl := List.mem_singleton.mp hc
    cases hop
    decide
  have hflags : (Entry.flags [awkwardFlag]).IsCanonical := by
    intro f hf
    exact List.mem_singleton.mp hf ▸ hflag
  have hevent : text PushEvent.decoder second = .ok e := by decide +kernel
  obtain ⟨hflagTrip, -, heventTrip, hentryTrip⟩ := codecs_roundTrip
  exact ⟨hflag, hflags, hflagTrip.text_encode _ hflag, hentryTrip.text_encode _ hflags, hevent,
    by decide +kernel, (heventTrip.text_again _ _ hevent).2⟩

end FlagReplica
