import DeviceWatch.Proofs.Recounting
/-!
# Arrivals that are delivered

An arrival is announced while the device is there: the device was just attached, or
a registration found it on the roster. Deliveries go by the devices as they were at the
announcement: a pass tells one callback after the other of its device, a registration
tells its callback of one device after the other. What a callback does meanwhile may
take a device off, and that does not call off its deliveries. So a device is there when
its arrival is delivered exactly if it has not left since the announcement, and a
callback that hears of it leaving in between may hear of its arrival afterwards.
-/

namespace DeviceWatch

variable {κ τ α : Type} {c : ContextId} {o : CallbackId} {d x : Device} {n : Notice}
variable {ns before after : List Notice}

/-- Nothing comes or goes with an announcement. -/
theorem Notice.changes_of_offers (h : n.offers c o d = true) :
    changes c (n :: ns) = changes c ns := by
  cases n <;> first | rfl | cases h

namespace Chronicle

/-- What is announced is there. -/
theorem mem_of_offers (h : Chronicle c (before ++ n :: after)) (hn : n.offers c o d = true) :
    d ∈ (rosterAfter c before).toList := by
  have hpresumes := h.presumes
  cases n with
  | passBegan c' x e =>
    obtain ⟨⟨rfl, rfl⟩, rfl⟩ : (c' = c ∧ x = d) ∧ e = .arrived := by simpa [Notice.offers] using hn
    exact hpresumes rfl
  | registered c' id f m flags existing =>
    obtain ⟨⟨rfl, -⟩, hd⟩ : (c' = c ∧ id = o) ∧ d ∈ existing := by simpa [Notice.offers] using hn
    exact hpresumes rfl d hd
  | _ => cases hn

/-- Whoever is told that a device left is told so after it left. -/
theorem left_of_delivered (h : Chronicle c ns) (hx : .delivered c o x .left ∈ ns) :
    (x.id, .left) ∈ changes c ns := by
  obtain ⟨before, after, rfl⟩ := List.append_of_mem hx
  rw [changes_append]
  exact List.mem_append_left _ (h.presumes rfl)

end Chronicle

namespace Act

/-- **An arrival is delivered of a device that was there when it was announced**, in
every run on a fresh bus and wherever it is cut short. The device is still there at the
delivery exactly if it has not left in between; if so, nobody was told before that it
left. -/
theorem Within.arrival_there_iff {b : BusId} {w : World κ τ} {x : Act κ τ α}
    (hx : x.Within (Repertoire.Cut (Repertoire.OnBus b))) (hw : w.FreshBus b)
    (hc : w.contextOf b = c) :
    (x.run w).world.roster c = rosterAfter c (x.run w).notices ∧
    ∀ before o d after, (x.run w).notices = before ++ .delivered c o d .arrived :: after →
      ∃ earlier n since, before = earlier ++ n :: since ∧ n.offers c o d = true ∧
        d ∈ (rosterAfter c earlier).toList ∧
        (d ∈ (rosterAfter c before).toList ↔ (d.id, .left) ∉ changes c since) ∧
        ((d.id, .left) ∉ changes c since →
          ∀ o' d', .delivered c o' d' .left ∈ before → d'.id ≠ d.id) := by
  have hpast := hx.past hw hc
  refine ⟨hpast.roster, fun before o d after hns => ?_⟩
  have hchronicle := hpast.chronicle
  rw [hns] at hchronicle
  obtain ⟨n, hn, hoffers⟩ : ∃ n ∈ before, n.offers c o d = true := hchronicle.presumes rfl
  obtain ⟨earlier, since, rfl⟩ := List.append_of_mem hn
  have hbefore := hchronicle.of_append
  have hthere : d ∈ (rosterAfter c earlier).toList := hbefore.mem_of_offers hoffers
  have hiff : d ∈ (rosterAfter c (earlier ++ n :: since)).toList ↔
      (d.id, .left) ∉ changes c since := by
    rw [hbefore.stays_iff hthere, Notice.changes_of_offers hoffers]
  refine ⟨earlier, n, since, rfl, hoffers, hthere, hiff, fun hstays o' d' hd' heq => ?_⟩
  have hgone := hbefore.away (hbefore.left_of_delivered hd')
  rw [heq] at hgone
  exact hgone (List.mem_map_of_mem (hiff.2 hstays))

/-- A callback that unplugs the second device when the first one arrives. -/
def ousting (b : BusId) : Host Unit Unit where
  react inv :=
    if inv.event = .arrived ∧ inv.device.id = ⟨1⟩ then do
      let _ ← unplug .idle b ⟨2⟩
      return .rearm
    else return .rearm
  order _ ids := ids
  order_perm _ _ := .refl _

/-- Two devices are plugged in before a callback is registered that is to be told of
them. -/
def greetTwo (b : BusId) (c : ContextId) : Act Unit Unit Unit := do
  let _ ← plug .idle b { vendor := 1, product := 1 }
  let _ ← plug .idle b { vendor := 1, product := 1 }
  let _ ← register (ousting b) c { events := .all, flags := .existing, program := some () }

theorem ousting_within {b : BusId} : (ousting b).Within (Repertoire.OnBus b) := by
  intro inv
  by_cases hfirst : inv.event = .arrived ∧ inv.device.id = ⟨1⟩
  · simp only [ousting, if_pos hfirst]
    exact .bind (.op .idle Host.idle_within (.unplug _)) fun _ => .pure _
  · simp only [ousting, if_neg hfirst]
    exact .pure _

theorem greetTwo_within {b : BusId} {c : ContextId} :
    (greetTwo b c).Within (Repertoire.OnBus b) := by
  refine .bind (.op .idle Host.idle_within (.plug _)) fun _ => ?_
  refine .bind (.op .idle Host.idle_within (.plug _)) fun _ => ?_
  exact .bind (.op _ ousting_within (.register c _)) fun _ => .pure _

/-- What is noted of it. -/
def greeted : List Notice :=
  ((greetTwo ⟨1⟩ ⟨1⟩).run oneBus).notices

/-- The device that the callback hears of first. -/
def firstDevice : Device := Bus.device 1 { vendor := 1, product := 1 }

/-- The device that the callback unplugs then. -/
def secondDevice : Device := Bus.device 2 { vendor := 1, product := 1 }

/-- The first device is there when its arrival is delivered. The second one was there
when it was announced, and has left since. -/
theorem arrival_there_iff_of_greetTwo :
    firstDevice ∈ (rosterAfter ⟨1⟩ (greeted.take 11)).toList ∧
      ∃ earlier n since, greeted.take 21 = earlier ++ n :: since ∧
        secondDevice ∈ (rosterAfter ⟨1⟩ earlier).toList ∧
        (secondDevice.id, .left) ∈ changes ⟨1⟩ since := by
  have hx : (greetTwo ⟨1⟩ ⟨1⟩).Within (Repertoire.Cut (Repertoire.OnBus ⟨1⟩)) :=
    greetTwo_within.mono fun _ _ _ => .op
  have hc : oneBus.contextOf ⟨1⟩ = ⟨1⟩ := rfl
  have hfirst : greeted =
      greeted.take 11 ++ .delivered ⟨1⟩ ⟨1⟩ firstDevice .arrived :: greeted.drop 12 := rfl
  have hsecond : greeted =
      greeted.take 21 ++ .delivered ⟨1⟩ ⟨1⟩ secondDevice .arrived :: greeted.drop 22 := rfl
  obtain ⟨-, harrival⟩ := hx.arrival_there_iff oneBus_fresh hc
  constructor
  · obtain ⟨earlier, n, since, hbefore, -, -, hiff, -⟩ := harrival _ _ _ _ hfirst
    refine hiff.2 fun hleft => ?_
    -- Nothing has left by then.
    have hnone : (firstDevice.id, Event.left) ∉ changes ⟨1⟩ (greeted.take 11) := by decide
    rw [hbefore, List.append_cons, changes_append] at hnone
    exact hnone (List.mem_append_right _ hleft)
  · obtain ⟨earlier, n, since, hbefore, -, hthere, hiff, -⟩ := harrival _ _ _ _ hsecond
    refine ⟨earlier, n, since, hbefore, hthere, ?_⟩
    by_contra hno
    have hroster : rosterAfter ⟨1⟩ (greeted.take 21) = ⟨[firstDevice]⟩ := rfl
    have hmem := hiff.2 hno
    rw [hroster] at hmem
    exact absurd hmem (by decide)

/-- **The second device left before its arrival is delivered**, and the callback was told
so. -/
theorem arrives_after_leaving :
    (greetTwo ⟨1⟩ ⟨1⟩).Within (Repertoire.OnBus ⟨1⟩) ∧ oneBus.FreshBus ⟨1⟩ ∧
      ∃ before after, greeted = before ++ .delivered ⟨1⟩ ⟨1⟩ secondDevice .arrived :: after ∧
        secondDevice ∉ (rosterAfter ⟨1⟩ before).toList ∧
        .delivered ⟨1⟩ ⟨1⟩ secondDevice .left ∈ before := by
  refine ⟨greetTwo_within, oneBus_fresh, greeted.take 21, greeted.drop 22, rfl, ?_, ?_⟩
  · have hleft : rosterAfter ⟨1⟩ (greeted.take 21) = ⟨[firstDevice]⟩ := rfl
    rw [hleft]
    decide
  · exact List.mem_of_getElem? (i := 16) rfl

end Act
end DeviceWatch
