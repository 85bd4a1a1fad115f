import FlagReplica.Proofs.Sync.Gates
/-!
# What follows a failed pull

A pull that fails leaves a warning and nothing else, and the next tick of polling does not ask how
the last pull came out. It asks whether the stream is up: if it is not, it pulls, so what failed is
tried again (`Course.pulls_at_tick`); if it is, it does not, for the stream is meant to bring what
is missing, and every connection began with a pull of its own to catch up. That pull may fail like
any other, and is then not tried again as long as the stream stays up: `Course.skips_failed` is a
run in which the last pull failed and the next tick lets it be.
-/

namespace FlagReplica

/-- A new connection begins with a pull. -/
theorem Synchronizer.Effect.requests_of_connects {s s' : Synchronizer} {w : Happening}
    {rs : List Request} (h : s.Effect w rs s') (hconnects : w.connects = true) :
    ∃ session, rs = [.fetchFlags session] := by
  cases h with
  | @connected session hstream => exact ⟨session, rfl⟩
  | skipped hw hup => cases hw <;> cases hconnects
  | polled hw hdown => cases hw <;> cases hconnects
  | connecting hw => cases hw <;> cases hconnects
  | answered r hw hpull hasked => cases (plain_of_half? hw).2.2.1.symm.trans hconnects
  | _ => cases hconnects

namespace Course

variable {config : SyncConfig} {hasConnector : Bool} {r : Repository} {past earlier : List Moment}
  {s : Synchronizer}

/-- A stream that is up was connected at some moment, and has not been disconnected since. -/
theorem exists_connects_of_isUp (h : isUp past = true) :
    ∃ since up older, past = since ++ up :: older ∧ up.what.connects = true ∧
      ∀ m ∈ since, m.what.disconnects = false := by
  induction past with
  | nil => cases h
  | cons m past ih =>
    rw [isUp, Bool.or_eq_true, Bool.and_eq_true] at h
    rcases h with hconnects | ⟨hkept, hup⟩
    · exact ⟨[], m, past, rfl, hconnects, fun _ hm => absurd hm List.not_mem_nil⟩
    · obtain ⟨since, up, older, rfl, hconnects, hsince⟩ := ih hup
      refine ⟨m :: since, up, older, rfl, hconnects, fun m' hm' => ?_⟩
      rcases List.mem_cons.mp hm' with rfl | hm'
      · simpa using hkept
      · exact hsince m' hm'

/-- Every connection of a course begins with a pull. -/
theorem begins_of_connects (h : Course config hasConnector r past s) {up : Moment}
    {older : List Moment} (hsuffix : up :: older <:+ past) (hconnects : up.what.connects = true) :
    up.begins .stream = true := by
  rcases h.moment_of_suffix hsuffix with ⟨rfl, -⟩ | ⟨-, heffect⟩
  · cases hconnects
  · obtain ⟨session, hasked⟩ := heffect.requests_of_connects hconnects
    rw [Moment.begins, hasked, Happening.begins, hconnects]
    rfl

/-- **A tick pulls unless the stream is up**, however the last pull came out. In any course, a tick
of polling before which no stream is up begins a pull, with the session that was granted; so if the
last pull failed, it is tried again there. A tick before which a stream is up asks for nothing; that
stream was connected, began with a pull of its own, and was not disconnected since. -/
theorem pulls_at_tick (h : Course config hasConnector r past s) :
    ∀ now earlier, now :: earlier <:+ past → now.what.isTick = true →
      (isUp earlier = false → now.begins .poll = true ∧
        ∃ session, firstGrant earlier = some session ∧ now.requests = [.fetchFlags session] ∧
          now.outcome.state.pulling? .poll = some (session, .start)) ∧
      (isUp earlier = true → now.requests = [] ∧
        ∃ since up older, earlier = since ++ up :: older ∧ up.what.connects = true ∧
          up.begins .stream = true ∧ ∀ m ∈ since, m.what.disconnects = false) := by
  intro now earlier hsuffix htick
  rcases h.moment_of_suffix hsuffix with ⟨rfl, -⟩ | ⟨hearlier, heffect⟩
  · cases htick
  · obtain ⟨session, hsession, hasked⟩ := heffect.tick htick
    refine ⟨fun hdown => ?_, fun hup => ?_⟩
    -- the course and the synchronizer agree on whether the stream is up
    · rw [hearlier.tethered.up, hdown, if_neg Bool.false_ne_true] at hasked
      obtain ⟨hrequests, hpulling⟩ := hasked
      have hgranted : now.before.session = some session := by
        rcases hsession with hgranted | hworking
        · exact hgranted
        · exact hearlier.oneSession.working .poll session hworking
      refine ⟨?_, session, hearlier.oneSession.granted ▸ hgranted, hrequests, hpulling⟩
      rw [Moment.begins, hrequests, Happening.begins, htick]
      rfl
    · rw [hearlier.tethered.up, hup, if_pos rfl] at hasked
      obtain ⟨since, up, older, heq, hconnects, hsince⟩ := exists_connects_of_isUp hup
      have hbegins : up.begins .stream = true :=
        hearlier.begins_of_connects (heq ▸ List.suffix_append since _) hconnects
      exact ⟨hasked, since, up, older, heq, hconnects, hbegins, hsince⟩

/-- Polling pulls everything, and then a stream is connected of which the pull to catch up fails. -/
def failedCatchUp : List Happening :=
  [.move (.authenticated (.ok ⟨"token", "e"⟩)), .move (.proceed .poll)] ++
    answersTo .poll (.ok []) (.ok []) ++
    [.move (.proceed .stream), .move (.connected (.ok ()))] ++
    answersTo .stream (.ok []) (.error .unauthorized)

/-- After the stream has ended, the next tick tries again what failed. -/
theorem pulls_at_tick_failedCatchUp :
    let lost := courseOf .default true (.empty 2) (failedCatchUp ++ [.move (.received .finished)])
    let c := courseOf .default true (.empty 2)
      (failedCatchUp ++ [.move (.received .finished), .move (.wake .poll)])
    lastPull lost.1 = some false ∧ ∃ now, c.1 = now :: lost.1 ∧ now.begins .poll = true := by
  intro lost c
  have hcourse := course_courseOf .default true (.empty 2)
    (failedCatchUp ++ [.move (.received .finished), .move (.wake .poll)])
  obtain ⟨now, hnow, htick⟩ : ∃ now, c.1 = now :: lost.1 ∧ now.what.isTick = true :=
    ⟨_, rfl, rfl⟩
  have h := pulls_at_tick hcourse now lost.1 (hnow ▸ List.suffix_rfl) htick
  exact ⟨by decide +kernel, now, hnow, (h.1 (by decide +kernel)).1⟩

/-- **A pull that failed is let be while the stream is up**: the pull that the connection began with
failed, and the tick after it asks for nothing. -/
theorem skips_failed :
    let failed := courseOf .default true (.empty 2) failedCatchUp
    let c := courseOf .default true (.empty 2) (failedCatchUp ++ [.move (.wake .poll)])
    Course .default true (.empty 2) c.1 c.2 ∧ lastPull failed.1 = some false ∧
      ∃ now, c.1 = now :: failed.1 ∧ now.what.isTick = true ∧ now.requests = [] ∧
        now.begins .poll = false := by
  intro failed c
  exact ⟨course_courseOf .default true (.empty 2) _, by decide +kernel, _, rfl, rfl, rfl, rfl⟩

end Course

end FlagReplica
