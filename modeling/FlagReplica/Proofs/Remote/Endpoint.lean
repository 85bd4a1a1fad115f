import FlagReplica.Remote.Http
/-!
# Identifiers stay in their segment

The address of what is fetched is made of identifiers, and identifiers may hold anything. In a
segment of a path everything is escaped that would end it, so an identifier is one segment, and is
read back from there (`decode_segmentText`). Hence what is asked for can be told from the address,
and nothing else has it (`endpoint_isUnder`).

What has to be followed through two steps is what a path gives a meaning: nothing, one dot and two
dots. `HttpSource.endpoint` looks for them in the identifier as it is, and the path is made of what
counts of it, which is the identifier without tabs and line ends. All that is shown here is shown of
what counts (`IsSegment`). That the two agree holds only of identifiers without tabs and line ends.
One that has them can share the address of another one, and can leave its segment
(`endpoint_loses_tabs`).
-/

namespace FlagReplica

namespace Url

variable {special : Bool} {s t : String}

/-! ## Bytes of texts -/

theorem toList_loop (bytes : ByteArray) (i : Nat) (done : List UInt8) :
    ByteArray.toList.loop bytes i done = done.reverse ++ bytes.data.toList.drop i := by
  fun_induction ByteArray.toList.loop bytes i done with
  | case1 i done h ih =>
    have hi : i < bytes.data.toList.length := h
    calc ByteArray.toList.loop bytes (i + 1) (bytes.get! i :: done)
      _ = (bytes.get! i :: done).reverse ++ bytes.data.toList.drop (i + 1) := ih
      _ = done.reverse ++ bytes.data.toList[i] :: bytes.data.toList.drop (i + 1) := by
        have hbyte : bytes.get! i = bytes.data.toList[i] := by simp [ByteArray.get!, h]
        rw [List.reverse_cons, List.append_assoc, hbyte, List.singleton_append]
      _ = done.reverse ++ bytes.data.toList.drop i := by rw [← List.drop_eq_getElem_cons hi]
  | case2 i done h =>
    have hi : bytes.data.toList.length ≤ i := Nat.le_of_not_lt h
    rw [List.drop_eq_nil_of_le hi, List.append_nil]

/-- Texts of the same bytes are the same. -/
theorem utf8_injective : Function.Injective utf8 := by
  intro cs ds h
  have hdata : (String.ofList cs).toByteArray.data.toList =
      (String.ofList ds).toByteArray.data.toList := by
    simpa [utf8, ByteArray.toList, toList_loop] using h
  have hbytes : (String.ofList cs).toByteArray = (String.ofList ds).toByteArray :=
    ByteArray.ext (Array.toList_inj.mp hdata)
  exact String.ofList_inj.mp (String.toByteArray_inj.mp hbytes)

theorem bytes_injective : Function.Injective fun s : String => utf8 s.toList :=
  fun _ _ h => String.toList_inj.mp (utf8_injective h)

/-! ## What counts of a segment -/

/-- The text without what goes uncounted in an address. -/
def counted (s : String) : String := String.ofList (s.toList.filter fun c => !isIgnored c)

/-- The text holds no tab and no line end. -/
def IsPlain (s : String) : Prop := ∀ c ∈ s.toList, isIgnored c = false

instance (s : String) : Decidable (IsPlain s) :=
  List.decidableBAll (fun c => isIgnored c = false) s.toList

theorem IsPlain.counted_eq (h : IsPlain s) : counted s = s := by
  have hall : s.toList.filter (fun c => !isIgnored c) = s.toList :=
    List.filter_eq_self.mpr fun c hc => by simp [h c hc]
  rw [counted, hall, String.ofList_toList]

theorem map_counted_eq {segments : List String} (h : ∀ s ∈ segments, IsPlain s) :
    segments.map counted = segments :=
  (List.map_congr_left fun s hs => (h s hs).counted_eq).trans (List.map_id' segments)

/-- **A segment is read back**, as far as it counts. -/
theorem decode_segmentText (special : Bool) (s : String) :
    decode (segmentText special s).toList = utf8 (counted s).toList := by
  rw [segmentText, String.toList_ofList, decode_encode (segmentEscapes_percent special), counted,
    String.toList_ofList]

/-- **No other text is read like it**: the text of a segment is not among some that are read as
something else. -/
theorem segmentText_notMem {texts : List String} {other : String}
    (htexts : ∀ text ∈ texts, decode text.toList = utf8 other.toList) (hne : counted s ≠ other) :
    segmentText special s ∉ texts := by
  intro hmem
  have hbytes : utf8 (counted s).toList = utf8 other.toList := by
    rw [← decode_segmentText special, htexts _ hmem]
  exact hne (bytes_injective hbytes)

/-- What counts of the text is a segment: it is not empty, and is neither one dot nor two. -/
def IsSegment (s : String) : Prop := counted s ≠ "" ∧ counted s ≠ "." ∧ counted s ≠ ".."

namespace IsSegment

theorem segmentText_ne (h : IsSegment s) : segmentText special s ≠ "" := by
  have hread : ∀ text ∈ [""], decode text.toList = utf8 "".toList := by decide +kernel
  simpa using segmentText_notMem hread h.1

/-- A dot is read as a dot, however it is written. -/
theorem not_isSingleDot (h : IsSegment s) : isSingleDot (segmentText special s) = false := by
  have hread : ∀ text ∈ dotForms, decode text.toList = utf8 ".".toList := by decide +kernel
  rw [isSingleDot, Bool.eq_false_iff, ne_eq, List.contains_iff_mem]
  exact segmentText_notMem hread h.2.1

theorem not_isDoubleDot (h : IsSegment s) : isDoubleDot (segmentText special s) = false := by
  have hread : ∀ text ∈ dotForms.flatMap fun a => dotForms.map fun b => a ++ b,
      decode text.toList = utf8 "..".toList := by decide +kernel
  rw [isDoubleDot, Bool.eq_false_iff, ne_eq, List.contains_iff_mem]
  exact segmentText_notMem hread h.2.2

end IsSegment

/-! ## Adding segments -/

/-- The path without the single empty segment that is the root. -/
def rootless (path : List String) : List String := if path = [""] then [] else path

theorem rootless_append (path : List String) (h : t ≠ "") :
    rootless (path ++ [t]) = path ++ [t] := by
  rw [rootless, if_neg]
  intro hroot
  have hlast := congrArg List.getLast? hroot
  rw [List.getLast?_concat] at hlast
  exact h (Option.some.inj hlast)

/-- **What is a segment is added as one.** -/
theorem push_eq (u : Url) (h : IsSegment s) :
    u.push s = { u with path := rootless u.path ++ [segmentText (isSpecial u.scheme) s] } := by
  have hguard : ¬ (s = "." ∨ s = "..") := by
    rintro (rfl | rfl)
    · exact h.2.1 rfl
    · exact h.2.2 rfl
  rw [push, if_neg hguard]
  simp only [addSegment, h.not_isSingleDot, h.not_isDoubleDot, Bool.false_eq_true, if_false]
  rfl

/-- Segments that are added to a path that has some stand after them. -/
theorem foldl_push_eq {segments : List String} (u : Url) (hpath : rootless u.path = u.path)
    (h : ∀ s ∈ segments, IsSegment s) :
    segments.foldl push u =
      { u with path := u.path ++ segments.map (segmentText (isSpecial u.scheme)) } := by
  induction segments generalizing u with
  | nil => simp
  | cons s segments ih =>
    have hs : IsSegment s := h s List.mem_cons_self
    have hrest : ∀ s' ∈ segments, IsSegment s' := fun s' hs' => h s' (List.mem_cons_of_mem s hs')
    -- the path ends in a text that is not empty now, so it is not the root
    rw [List.foldl_cons, push_eq u hs, hpath,
      ih _ (rootless_append u.path hs.segmentText_ne) hrest]
    simp

/-- What a path has before what is added to it: all but an empty segment at its end. A path of two
empty segments loses both, the first one as the root. -/
def stem (path : List String) : List String :=
  if path = ["", ""] then []
  else if path.getLast? = some "" then path.dropLast
  else path

theorem rootless_dropEmptyLast (path : List String) :
    rootless (dropEmptyLast path) = stem path := by
  by_cases hlast : path.getLast? = some ""
  · obtain ⟨front, rfl⟩ := List.getLast?_eq_some_iff.mp hlast
    cases front with
    | nil => rfl
    | cons first front =>
      -- what is left is the root only if there were two empty segments and nothing else
      have hboth : first :: front ++ [""] = [""] ++ [""] ↔ first :: front = [""] :=
        List.append_left_inj [""]
      have hdrop : dropEmptyLast (first :: front ++ [""]) = first :: front := by
        rw [dropEmptyLast, if_pos ⟨by simp, hlast⟩, List.dropLast_concat]
      rw [hdrop, rootless, stem, if_pos hlast, List.dropLast_concat]
      exact ite_congr (propext hboth.symm) (fun _ => rfl) fun _ => rfl
  · have hroot : path ≠ [""] := by
      rintro rfl
      exact hlast rfl
    have hdouble : path ≠ ["", ""] := by
      rintro rfl
      exact hlast rfl
    rw [dropEmptyLast, if_neg fun h => hlast h.2, rootless, if_neg hroot, stem, if_neg hdouble,
      if_neg hlast]

/-- **Segments stand under the path one by one**, and nothing else of the address changes. -/
theorem extend_eq (u : Url) (segments : List String) (h : ∀ s ∈ segments, IsSegment s)
    (hne : segments ≠ []) :
    u.extend segments =
      { u with path := stem u.path ++ segments.map (segmentText (isSpecial u.scheme)) } := by
  cases segments with
  | nil => exact absurd rfl hne
  | cons s segments =>
    have hs : IsSegment s := h s List.mem_cons_self
    have hrest : ∀ s' ∈ segments, IsSegment s' := fun s' hs' => h s' (List.mem_cons_of_mem s hs')
    rw [extend, List.foldl_cons, push_eq _ hs, rootless_dropEmptyLast,
      foldl_push_eq _ (rootless_append _ hs.segmentText_ne) hrest]
    simp

/-- The address is the one of these segments under a base: the scheme, the authority, the query and
the fragment are those of the base, and so is the path up to the segments, each of which is read
back from its text. -/
structure IsUnder (base : Url) (segments : List String) (u : Url) : Prop where
  scheme : u.scheme = base.scheme
  authority : u.authority = base.authority
  query : u.query = base.query
  fragment : u.fragment = base.fragment
  path : ∃ texts, u.path = stem base.path ++ texts ∧
    texts.map (fun t => decode t.toList) = segments.map fun s => utf8 s.toList

theorem isUnder_extend (base : Url) {segments : List String} (h : ∀ s ∈ segments, IsSegment s)
    (hplain : ∀ s ∈ segments, IsPlain s) (hne : segments ≠ []) :
    IsUnder base segments (base.extend segments) := by
  rw [extend_eq base segments h hne]
  refine ⟨rfl, rfl, rfl, rfl, _, rfl, ?_⟩
  rw [List.map_map]
  refine List.map_congr_left fun s hs => ?_
  rw [Function.comp_apply, decode_segmentText, (hplain s hs).counted_eq]

/-- **What counts of the segments can be told from the address.** -/
theorem map_counted_eq_of_extend_eq {base : Url} {xs ys : List String}
    (hx : ∀ s ∈ xs, IsSegment s) (hy : ∀ s ∈ ys, IsSegment s) (hxne : xs ≠ []) (hyne : ys ≠ [])
    (h : base.extend xs = base.extend ys) : xs.map counted = ys.map counted := by
  rw [extend_eq base xs hx hxne, extend_eq base ys hy hyne] at h
  have htexts : xs.map (segmentText (isSpecial base.scheme)) =
      ys.map (segmentText (isSpecial base.scheme)) :=
    List.append_cancel_left (congrArg Url.path h)
  have hread : (xs.map counted).map (fun s => utf8 s.toList) =
      (ys.map counted).map fun s => utf8 s.toList := by
    have hdecoded := congrArg (List.map fun t => decode t.toList) htexts
    simpa only [List.map_map, Function.comp_def, decode_segmentText] using hdecoded
  exact (List.map_inj_right fun _ _ heq => bytes_injective heq).mp hread

end Url

namespace HttpSource

open Url (IsPlain IsSegment IsUnder)

variable {source : HttpSource} {session : Session} {kind : EntityKind} {segments : List String}
variable {u : Url} {identifier : Option String}

/-! ## Endpoints -/

theorem isSegment_of_isPlain {s : String} (hplain : IsPlain s) (hfit : isUnfit s = false) :
    IsSegment s := by
  rw [IsSegment, hplain.counted_eq]
  simpa [isUnfit, and_assoc] using hfit

theorem endpoint_of_unfit (source : HttpSource)
    (h : ∃ name ∈ segments ++ [session.environment], isUnfit name) :
    ∃ name ∈ segments ++ [session.environment], isUnfit name ∧
      source.endpoint session segments = .error (.invalidPathSegment name) := by
  cases hfind : (segments ++ [session.environment]).find? isUnfit with
  | none =>
    obtain ⟨name, hmem, hunfit⟩ := h
    exact absurd hunfit (List.find?_eq_none.mp hfind name hmem)
  | some name =>
    refine ⟨name, List.mem_of_find?_eq_some hfind, List.find?_some hfind, ?_⟩
    rw [endpoint, hfind]

theorem endpoint_of_fit (source : HttpSource)
    (h : ∀ name ∈ segments ++ [session.environment], isUnfit name = false) :
    source.endpoint session segments =
      .ok (source.base.extend (["client", "env", session.environment] ++ segments)) := by
  have hfind : (segments ++ [session.environment]).find? isUnfit = none :=
    List.find?_eq_none.mpr fun name hmem => Bool.eq_false_iff.mp (h name hmem)
  rw [endpoint, hfind]

theorem fit_of_endpoint_eq_ok (h : source.endpoint session segments = .ok u) :
    ∀ name ∈ segments ++ [session.environment], isUnfit name = false := by
  intro name hmem
  refine Bool.eq_false_iff.mpr fun hunfit => ?_
  obtain ⟨_, -, -, herror⟩ := endpoint_of_unfit source ⟨name, hmem, hunfit⟩
  rw [herror] at h
  cases h

/-- The names in an address that are not fixed, in the order in which they are looked at. -/
def names (session : Session) (identifier : Option String) : List String :=
  identifier.toList ++ [session.environment]

/-- The segments of what is asked for: all things of a kind, or the one of an identifier. -/
def asked (kind : EntityKind) (identifier : Option String) : List String :=
  collection kind :: identifier.toList

theorem asked_append (session : Session) (kind : EntityKind) (identifier : Option String) :
    asked kind identifier ++ [session.environment] = collection kind :: names session identifier :=
  rfl

theorem fit_collection (kind : EntityKind) : isUnfit (collection kind) = false := by
  cases kind <;> decide

theorem isPlain_collection (kind : EntityKind) : IsPlain (collection kind) := by
  cases kind <;> decide

theorem collection_injective : Function.Injective collection := by
  intro kind kind' h
  cases kind with
  | flag =>
    cases kind' with
    | flag => rfl
    | segment => exact absurd h (by decide)
  | segment =>
    cases kind' with
    | flag => exact absurd h (by decide)
    | segment => rfl

/-- The whole of what is put under a base. -/
def path (session : Session) (kind : EntityKind) (identifier : Option String) : List String :=
  ["client", "env", session.environment] ++ asked kind identifier

/-- What holds of the fixed segments and of the names holds of all segments. -/
theorem forall_path {p : String → Prop} (hclient : p "client") (henv : p "env")
    (hcollection : p (collection kind)) (hnames : ∀ name ∈ names session identifier, p name) :
    ∀ s ∈ path session kind identifier, p s := by
  intro s hs
  simp only [path, asked, List.cons_append, List.nil_append, List.mem_cons] at hs
  rcases hs with rfl | rfl | rfl | rfl | hs
  · exact hclient
  · exact henv
  · exact hnames _ (List.mem_append_right _ List.mem_cons_self)
  · exact hcollection
  · exact hnames s (List.mem_append_left _ hs)

theorem isPlain_path (h : ∀ name ∈ names session identifier, IsPlain name) :
    ∀ s ∈ path session kind identifier, IsPlain s :=
  forall_path (by decide) (by decide) (isPlain_collection kind) h

theorem isSegment_path (h : ∀ name ∈ names session identifier, IsPlain name)
    (hfit : ∀ name ∈ asked kind identifier ++ [session.environment], isUnfit name = false) :
    ∀ s ∈ path session kind identifier, IsSegment s :=
  forall_path (isSegment_of_isPlain (by decide) (by decide))
    (isSegment_of_isPlain (by decide) (by decide))
    (isSegment_of_isPlain (isPlain_collection kind) (fit_collection kind))
    fun name hmem => isSegment_of_isPlain (h name hmem) (hfit name (List.mem_cons_of_mem _ hmem))

/-- The names can be told from the whole. -/
theorem eq_of_path_eq {session' : Session} {kind' : EntityKind} {identifier' : Option String}
    (h : path session' kind' identifier' = path session kind identifier) :
    session'.environment = session.environment ∧ kind' = kind ∧ identifier' = identifier := by
  simp only [path, asked, List.cons_append, List.nil_append, List.cons.injEq, true_and] at h
  obtain ⟨henv, hcollection, hidentifier⟩ := h
  refine ⟨henv, collection_injective hcollection, ?_⟩
  simpa using congrArg List.head? hidentifier

/-- A name that cannot be a segment is told. -/
theorem endpoint_asked_of_unfit (h : ∃ name ∈ names session identifier, isUnfit name) :
    ∃ name ∈ names session identifier, isUnfit name ∧
      source.endpoint session (asked kind identifier) = .error (.invalidPathSegment name) := by
  obtain ⟨name, hmem, hname⟩ := h
  have hall : name ∈ asked kind identifier ++ [session.environment] :=
    List.mem_cons_of_mem _ hmem
  obtain ⟨found, hfound, hunfit, herror⟩ := endpoint_of_unfit source ⟨name, hall, hname⟩
  rw [asked_append, List.mem_cons] at hfound
  rcases hfound with rfl | hfound
  · exact absurd hunfit (Bool.eq_false_iff.mp (fit_collection kind))
  · exact ⟨found, hfound, hunfit, herror⟩

/-- **No two things have the same address.** -/
theorem eq_of_endpoint_eq {session' : Session} {kind' : EntityKind} {identifier' : Option String}
    (h : source.endpoint session (asked kind identifier) = .ok u)
    (h' : source.endpoint session' (asked kind' identifier') = .ok u)
    (hplain : ∀ name ∈ names session identifier, IsPlain name)
    (hplain' : ∀ name ∈ names session' identifier', IsPlain name) :
    session'.environment = session.environment ∧ kind' = kind ∧ identifier' = identifier := by
  have hfit := fit_of_endpoint_eq_ok h
  have hfit' := fit_of_endpoint_eq_ok h'
  rw [endpoint_of_fit source hfit, Except.ok.injEq] at h
  rw [endpoint_of_fit source hfit', Except.ok.injEq] at h'
  have hcounted := Url.map_counted_eq_of_extend_eq (isSegment_path hplain' hfit')
    (isSegment_path hplain hfit) (List.cons_ne_nil _ _) (List.cons_ne_nil _ _) (h'.trans h.symm)
  rw [Url.map_counted_eq (isPlain_path hplain'), Url.map_counted_eq (isPlain_path hplain)]
    at hcounted
  exact eq_of_path_eq hcounted

/-- **An identifier stays in its segment.** What is asked for is all things of a kind or the one of
an identifier, within the environment of a session. If one of the two names is empty, one dot or two
dots, there is no address but an error that tells the name. Otherwise, as long as they hold no tab
and no line end, the address is that of the base but for its path, which has one more segment for
each of `client`, `env`, the environment, the collection and the identifier, to be read back from
there. And the same address is that of no other environment, kind or identifier. -/
theorem endpoint_isUnder (source : HttpSource) (session : Session) (kind : EntityKind)
    (identifier : Option String) :
    ((∃ name ∈ names session identifier, isUnfit name) →
      ∃ name ∈ names session identifier, isUnfit name ∧
        source.endpoint session (asked kind identifier) = .error (.invalidPathSegment name)) ∧
    ((∀ name ∈ names session identifier, isUnfit name = false ∧ IsPlain name) →
      ∃ u, source.endpoint session (asked kind identifier) = .ok u ∧
        IsUnder source.base (path session kind identifier) u ∧
        ∀ session' kind' identifier', (∀ name ∈ names session' identifier', IsPlain name) →
          source.endpoint session' (asked kind' identifier') = .ok u →
          session'.environment = session.environment ∧ kind' = kind ∧
            identifier' = identifier) := by
  refine ⟨endpoint_asked_of_unfit, fun hnames => ?_⟩
  have hplain : ∀ name ∈ names session identifier, IsPlain name := fun name hmem =>
    (hnames name hmem).2
  have hfit : ∀ name ∈ asked kind identifier ++ [session.environment], isUnfit name = false := by
    rw [asked_append, List.forall_mem_cons]
    exact ⟨fit_collection kind, fun name hmem => (hnames name hmem).1⟩
  have hok := endpoint_of_fit source hfit
  refine ⟨_, hok, ?_, fun session' kind' identifier' hplain' hsame => ?_⟩
  · exact Url.isUnder_extend source.base (isSegment_path hplain hfit) (isPlain_path hplain)
      (List.cons_ne_nil _ _)
  · exact eq_of_endpoint_eq hok hsame hplain hplain'

/-- A control plane at hand. -/
def nearbySource : HttpSource :=
  ⟨⟨"http", some ⟨"", "", .domain "localhost", some 7000⟩, ["api", "1.0", ""], none, none⟩⟩

/-- A session in one of its environments. -/
def nearbySession : Session := ⟨"token", "env-1"⟩

/-- An identifier with all that ends a segment stays in its own, and dots alone are told. -/
theorem endpoint_isUnder_slashes :
    (ofText "http://localhost:7000/api/1.0/").toOption = some nearbySource ∧
    (∃ u, nearbySource.endpoint nearbySession (asked .flag (some "a/../b?x#y")) = .ok u ∧
      IsUnder nearbySource.base
        ["client", "env", "env-1", "feature-configs", "a/../b?x#y"] u) ∧
    ∃ name, nearbySource.endpoint nearbySession (asked .flag (some "..")) =
      .error (.invalidPathSegment name) := by
  refine ⟨by decide +kernel, ?_, ?_⟩
  · obtain ⟨u, hu, hunder, -⟩ := (endpoint_isUnder nearbySource nearbySession .flag
      (some "a/../b?x#y")).2 (by decide +kernel)
    exact ⟨u, hu, hunder⟩
  · obtain ⟨name, -, -, herror⟩ := (endpoint_isUnder nearbySource nearbySession .flag
      (some "..")).1 ⟨"..", by decide, by decide⟩
    exact ⟨name, herror⟩

/-- **A tab undoes both.** It vanishes from the path after the identifier has been looked at. Two
identifiers then have one address, and dots around a tab become two dots that take the collection
off the path. -/
theorem endpoint_loses_tabs :
    (nearbySource.endpoint nearbySession (asked .flag (some "a\tb"))).toOption =
        (nearbySource.endpoint nearbySession (asked .flag (some "ab"))).toOption ∧
      (nearbySource.endpoint nearbySession (asked .flag (some "ab"))).toOption.isSome ∧
      (nearbySource.endpoint nearbySession (asked .flag (some ".\t."))).toOption.map (·.path) =
        some ["api", "1.0", "client", "env", "env-1", ""] := by
  decide +kernel

end HttpSource

end FlagReplica
