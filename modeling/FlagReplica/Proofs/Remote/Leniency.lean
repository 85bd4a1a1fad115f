import FlagReplica.Proofs.Json.Buffering
import FlagReplica.Proofs.Json.Elements
import FlagReplica.Proofs.Remote.Endpoint
/-!
# One broken entity costs no other

A list is fetched as the text of an array. Each element is decoded by itself: what is made of it is
what its decoder makes of its text alone, and if it makes nothing of it, the element is kept as it
stands and left out of the list (`brokenEntity_costs_no_other`). Nothing that is wrong with one
element, as long as it is a value at all, shows in another one.

Two things make a difference between an element in a list and its text alone. There is text around
it, which `Document.reads_array` takes care of. And it is read to its end before it is decoded,
while its text alone is decoded as it is read. The decoders of flags and segments are steady, so
they make the same of both.
-/

namespace FlagReplica

open Decode

/-! ## The decoders of entities -/

theorem Variation.steady_decoder : Steady Variation.decoder :=
  .record _ _ ⟨.string, .option .string, .option .string, .string, trivial⟩

theorem Clause.steady_decoder : Steady Clause.decoder :=
  .record _ _ ⟨.option .string, .string, .map _ .string, .list .string, .bool, trivial⟩

theorem ServingRule.steady_decoder : Steady ServingRule.decoder :=
  .record _ _ ⟨.option .string, .int32, .list Clause.steady_decoder, .oneForm _ _, trivial⟩

theorem TargetRef.steady_decoder : Steady TargetRef.decoder :=
  .record _ _ ⟨.string, .option .string, trivial⟩

theorem VariationMap.steady_decoder : Steady VariationMap.decoder :=
  .record _ _ ⟨.string, .list TargetRef.steady_decoder, .list .string, trivial⟩

theorem Prerequisite.steady_decoder : Steady Prerequisite.decoder :=
  .record _ _ ⟨.string, .list .string, trivial⟩

theorem Flag.steady_decoder : Steady Flag.decoder :=
  .record _ _ ⟨.string, .named _ _, .named _ _, .string, .oneForm _ _,
    .list ServingRule.steady_decoder, .list VariationMap.steady_decoder,
    .list Prerequisite.steady_decoder, .list Variation.steady_decoder, .int64, trivial⟩

theorem Segment.steady_decoder : Steady Segment.decoder :=
  .record _ _ ⟨.string, .option .string, .list TargetRef.steady_decoder,
    .list TargetRef.steady_decoder, .list Clause.steady_decoder, .int64, trivial⟩

/-! ## Lenient lists -/

namespace Decode

variable {α : Type} {dec : Decoder α} {levels n : Nat} {d : Document} {e s : String}

/-- What a lenient list holds for the text of an element: what that is decoded to on its own, if it
is, and otherwise the value as it stands. -/
structure HeldFor (dec : Decoder α) (e : String) (held : Except Json α) : Prop where
  parsed : ∀ x, held = .ok x ↔ Decode.text dec e = .ok x
  raw : ∀ j, held = .error j → Json.parse e = .ok j

/-- Where a text holds one document, decoding the text is decoding that. -/
theorem text_eq_ok_iff_of_reads (he : Document.Reads e.toList d) {x : α} :
    text dec e = .ok x ↔ dec (.text maxLevels) d = .ok x := by
  rw [text_eq_ok_iff]
  constructor
  · rintro ⟨d', he', hdec⟩
    rwa [he.unique he']
  · exact fun hdec => ⟨d, he, hdec⟩

theorem lenient_of_ok {x : α} (h : dec .buffer d = .ok x) :
    lenient dec .buffer d = .ok (.ok x) := by
  simp only [lenient, buffered, h]

theorem lenient_of_error {fault : Fault} (h : dec .buffer d = .error fault) :
    lenient dec .buffer d = .ok (.error d.toJson.normal) := by
  simp only [lenient, buffered, h]

/-- **An element is held for its text**, if all of it can be read where it stands. -/
theorem exists_heldFor (h : Steady dec) (he : Document.Reads e.toList d)
    (hd : d.Whole levels) (hlevels : levels ≤ n) (hmax : levels ≤ maxLevels) :
    ∃ held, lenient dec (.text n) d = .ok held ∧ HeldFor dec e held := by
  have hlenient : lenient dec (.text n) d = lenient dec .buffer d :=
    buffered_of_whole _ hd hlevels
  have hparsed (x : α) : text dec e = .ok x ↔ dec .buffer d = .ok x := by
    rw [text_eq_ok_iff_of_reads he]
    exact h.agree hd hmax x
  have hraw : Json.parse e = .ok d.toJson.normal := by
    rw [Json.parse, text_eq_ok_iff_of_reads he]
    exact buffered_of_whole _ hd hmax
  rw [hlenient]
  cases hdec : dec .buffer d with
  | ok x =>
    refine ⟨.ok x, lenient_of_ok hdec, fun y => ?_, nofun⟩
    rw [hparsed, hdec, Except.ok.injEq, Except.ok.injEq]
  | error fault =>
    refine ⟨.error d.toJson.normal, lenient_of_error hdec, fun y => ?_, fun j hj => ?_⟩
    · rw [hparsed, hdec]
      exact iff_of_false nofun nofun
    · cases hj
      exact hraw

/-- **A lenient list holds one thing for each element**, in order. -/
theorem exists_forall_heldFor (h : Steady dec) {elements : List String}
    {ds : List Document} (helements : List.Forall₂ (fun e d => Document.Reads e.toList d) elements ds)
    (hds : ∀ d ∈ ds, d.Whole levels) (hlevels : levels ≤ n) (hmax : levels ≤ maxLevels) :
    ∃ held, items (lenient dec) (.text n) ds = .ok held ∧
      List.Forall₂ (HeldFor dec) elements held := by
  induction helements with
  | nil => exact ⟨[], rfl, .nil⟩
  | cons he _ ih =>
    rw [List.forall_mem_cons] at hds
    obtain ⟨first, hfirst, hheld⟩ := exists_heldFor h he hds.1 hlevels hmax
    obtain ⟨rest, hrest, hothers⟩ := ih hds.2
    refine ⟨first :: rest, ?_, .cons hheld hothers⟩
    rw [items, hfirst, hrest]
    rfl

/-- The same of the text of an array, whose elements and which itself are values that can be
held. -/
theorem text_list_lenient (h : Steady dec) {elements : List String}
    (hs : Json.IsArrayOf elements s) (helements : ∀ e ∈ elements, ∃ j, Json.parse e = .ok j)
    (hvalue : ∃ j, Json.parse s = .ok j) :
    ∃ held, text (list (lenient dec)) s = .ok held ∧
      List.Forall₂ (HeldFor dec) elements held := by
  obtain ⟨ds, hds⟩ : ∃ ds, List.Forall₂ (fun e d => Document.Reads e.toList d) elements ds := by
    refine ⟨elements.map fun e => (Document.read e.toList).1,
      List.forall₂_map_right_iff.mpr (List.forall₂_same.mpr fun e he => ?_)⟩
    obtain ⟨j, hj⟩ := helements e he
    obtain ⟨d, ⟨rest, hread, hblank⟩, -⟩ := text_eq_ok_iff.mp hj
    exact ⟨rest, by rw [hread], hblank⟩
  have hreads : Document.Reads s.toList (.array ds .closed) := Document.reads_array hs hds
  obtain ⟨j, hj⟩ := hvalue
  rw [Json.parse, text_eq_ok_iff_of_reads hreads] at hj
  obtain ⟨_, hforce, -⟩ := exists_of_bind_eq_ok hj
  have hwhole : Document.Whole maxLevels (.array ds .closed) := whole_of_force _ hforce
  cases hwhole with
  | array hitems =>
    obtain ⟨held, hheld, hall⟩ :=
      exists_forall_heldFor h hds hitems (Nat.le_refl 126) (by decide)
    refine ⟨held, ?_, hall⟩
    rw [text_eq_ok_iff_of_reads hreads]
    change ((items (lenient dec) (.text 126) ds).bind _) = _
    rw [hheld]
    rfl

/-- What those of the texts hold that are decoded on their own, in order. -/
def decodable (dec : Decoder α) (elements : List String) : List α :=
  elements.filterMap fun e => (text dec e).toOption

theorem filterMap_toOption_eq_decodable {elements : List String} {held : List (Except Json α)}
    (h : List.Forall₂ (HeldFor dec) elements held) :
    held.filterMap (·.toOption) = decodable dec elements := by
  induction h with
  | nil => rfl
  | @cons e first elements held hfirst _ ih =>
    have hsame : first.toOption = (text dec e).toOption := by
      cases first with
      | ok x =>
        rw [(hfirst.parsed x).mp rfl]
        rfl
      | error j =>
        cases hdec : text dec e with
        | ok x => cases (hfirst.parsed x).mpr hdec
        | error fault => rfl
    rw [List.filterMap_cons, decodable, List.filterMap_cons, hsame, ih]
    rfl

end Decode

/-! ## Fetching -/

namespace HttpSource

variable {σ α : Type} {transport : Transport} {source : HttpSource} {session : Session}
variable {kind : EntityKind} {body : String}

/-- All things of a kind can be asked for, and the answer is this text, with a status that does not
mean failure. -/
def Answers (transport : Transport) (source : HttpSource) (session : Session) (kind : EntityKind)
    (body : String) : Prop :=
  ∃ url asked status, source.endpoint session [collection kind] = .ok url ∧
    request session url = .ok asked ∧ transport asked = .ok ⟨status, body⟩ ∧
    (status < 400 ∨ 600 ≤ status)

/-- What is decoded from such an answer is fetched. -/
theorem value_fetch {dec : Decoder α} {x : α} (h : Answers transport source session kind body)
    (hdec : Decode.text dec body = .ok x) (state : σ) :
    ((fetch transport source session dec [collection kind]).run.run state).value = .ok x := by
  obtain ⟨url, asked, status, hendpoint, hrequest, hanswer, hstatus⟩ := h
  have hbody : (bodyOf ⟨status, body⟩ : RemoteAction σ String) = pure body := if_pos hstatus
  have hok {β : Type} (y : β) :
      (ExceptT.mk (pure (.ok y)) : RemoteAction σ β) = pure y := rfl
  have hfetch : fetch transport source session dec [collection kind] =
      (do log .debug "fetching from remote source"; pure x : RemoteAction σ α) := by
    simp only [fetch, hendpoint, hrequest, hok, pure_bind, hanswer, hbody, hdec]
  rw [hfetch]
  rfl

theorem value_parsedOnly (items : List (Except Json α)) (state : σ) :
    ((parsedOnly items).run state).value = items.filterMap (·.toOption) := by
  induction items generalizing state with
  | nil => rfl
  | cons item items ih =>
    cases item with
    | ok x =>
      rw [parsedOnly, Action.run_map, ih]
      rfl
    | error j =>
      rw [parsedOnly, Action.run_bind, ih]
      rfl

/-- **What of a list can be decoded is fetched.** -/
theorem value_fetchList {dec : Decoder α} {elements : List String} {held : List (Except Json α)}
    (h : Answers transport source session kind body)
    (hdec : Decode.text (list (lenient dec)) body = .ok held)
    (hheld : List.Forall₂ (HeldFor dec) elements held) (state : σ) :
    ((fetchList transport source session kind dec).run.run state).value =
      .ok (decodable dec elements) := by
  have hfetch := value_fetch h hdec state
  rw [fetchList, ExceptT.run_bind, Action.run_bind, hfetch]
  change Except.ok ((parsedOnly held).run _).value = _
  rw [value_parsedOnly, filterMap_toOption_eq_decodable hheld]

/-- **One broken entity costs no other.** Take the text of an array whose elements are values that
can be held, as is the array, so that its brackets are not nested too deep. Decoded as a lenient
list of flags it holds one thing for each element, in order: the flag that the element is decoded
to on its own, if it is, and otherwise the value as it stands. And where the control plane answers
with this text, the flags that are fetched are those of the elements that are decoded on their own,
in order, whatever the other elements are. The same holds of segments. -/
theorem brokenEntity_costs_no_other {elements : List String} {s : String}
    (hs : Json.IsArrayOf elements s) (helements : ∀ e ∈ elements, ∃ j, Json.parse e = .ok j)
    (hvalue : ∃ j, Json.parse s = .ok j) :
    ((∃ held, Decode.text (list (lenient Flag.decoder)) s = .ok held ∧
        List.Forall₂ (HeldFor Flag.decoder) elements held) ∧
      ∀ transport source session (state : σ), Answers transport source session .flag s →
        ((fetchFlags transport source session).run.run state).value =
          .ok (decodable Flag.decoder elements)) ∧
    (∃ held, Decode.text (list (lenient Segment.decoder)) s = .ok held ∧
        List.Forall₂ (HeldFor Segment.decoder) elements held) ∧
      ∀ transport source session (state : σ), Answers transport source session .segment s →
        ((fetchSegments transport source session).run.run state).value =
          .ok (decodable Segment.decoder elements) := by
  have hflags := text_list_lenient Flag.steady_decoder hs helements hvalue
  have hsegments := text_list_lenient Segment.steady_decoder hs helements hvalue
  refine ⟨⟨hflags, fun transport source session state h => ?_⟩, hsegments,
    fun transport source session state h => ?_⟩
  · obtain ⟨held, hdec, hheld⟩ := hflags
    exact value_fetchList h hdec hheld state
  · obtain ⟨held, hdec, hheld⟩ := hsegments
    exact value_fetchList h hdec hheld state

/-- Elements of which the first and the last are segments, with one that has a wrong type in a rule,
one with a field twice, and one that is no object between them. -/
def mixedElements : List String := [
  Json.render (.object [("identifier", .string "a")]),
  Json.render (.object [("rules", .array [.object [("op", .null)]])]),
  " " ++ Json.render (.object [("name", .null), ("name", .null)]), "[1] ",
  Json.render (.object [("identifier", .string "d")])]

/-- The text of an array of them. -/
def mixedText : String := "[" ++ String.intercalate "," mixedElements ++ "]\n"

theorem brokenEntity_costs_no_other_mixed :
    let transport : Transport := fun _ => .ok ⟨200, mixedText⟩
    Json.IsArrayOf mixedElements mixedText ∧
      (∀ e ∈ mixedElements, ∃ j, Json.parse e = .ok j) ∧ (∃ j, Json.parse mixedText = .ok j) ∧
      Answers transport nearbySource nearbySession .segment mixedText ∧
      ((fetchSegments transport nearbySource nearbySession).run.run ()).value =
        .ok (decodable Segment.decoder mixedElements) ∧
      (decodable Segment.decoder mixedElements).map (·.identifier) = ["a", "d"] := by
  intro transport
  have hparse (e : String) (h : (Json.parse e).toOption.isSome) : ∃ j, Json.parse e = .ok j := by
    cases hj : Json.parse e with
    | ok j => exact ⟨j, rfl⟩
    | error fault =>
      rw [hj] at h
      cases h
  have harray : Json.IsArrayOf mixedElements mixedText :=
    ⟨"", "", "\n", by simp [Document.isBlank], by decide +kernel⟩
  have hall : ∀ e ∈ mixedElements, (Json.parse e).toOption.isSome := by decide +kernel
  have helements : ∀ e ∈ mixedElements, ∃ j, Json.parse e = .ok j :=
    fun e he => hparse e (hall e he)
  have hvalue : ∃ j, Json.parse mixedText = .ok j := hparse mixedText (by decide +kernel)
  have hanswers : Answers transport nearbySource nearbySession .segment mixedText :=
    ⟨_, _, 200, rfl, rfl, rfl, .inl (by decide)⟩
  have hfetch := (brokenEntity_costs_no_other harray helements hvalue).2.2 transport nearbySource
    nearbySession () hanswers
  exact ⟨harray, helements, hvalue, hanswers, hfetch, by decide +kernel⟩

end HttpSource

end FlagReplica
