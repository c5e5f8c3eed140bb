import DeviceWatch.Proofs.Attachment
import DeviceWatch.Proofs.Tallies
/-!
# Callbacks that only listen

Callbacks that do nothing and wait for more change neither registries nor devices, so
what a pass does can be told beforehand. Where one record is all there is, the pass
runs its callback if the record listens for the event and runs nothing otherwise; it
counts that, it counts what it disconnects, and it leaves the record where it was.
-/

namespace DeviceWatch

variable {κ τ : Type}

/-- Callbacks that do nothing and wait for more. -/
def Host.Listens (host : Host κ τ) : Prop :=
  ∀ inv, host.react inv = pure .rearm

/-- What callbacks were told, whichever they were. -/
def heard (ns : List Notice) : List (Device × Event) :=
  ns.filterMap fun
    | .delivered _ _ d e => some (d, e)
    | _ => none

/-- Whether the notice is of a callback that was told or of a pass that ended. -/
def Notice.counts : Notice → Bool
  | .delivered .. | .passEnded .. => true
  | _ => false

/-- Registries, devices and buses stay what they are. -/
structure Unmoved (w : World κ τ) (ns : List Notice) (w' : World κ τ) : Prop where
  registry (c : ContextId) : w'.registry c = w.registry c
  roster (c : ContextId) : w'.roster c = w.roster c
  buses : w'.buses = w.buses
  nextOpen : w'.nextOpen = w.nextOpen

/-- **What a record listens for was told, and was counted**, of changes that passes were
made over. -/
structure Told (x : Record κ) (c : ContextId) (changes : List (Device × Event)) (t : Tally)
    (ns : List Notice) : Prop where
  heard : heard ns = changes.filter fun (d, e) => x.hears d e
  invoked : t.invoked = (DeviceWatch.heard ns).length
  disconnected : t.disconnected = tallied c ns

/-- The record is the only one of a context, and it is active. -/
structure World.Sole (w : World κ τ) (c : ContextId) (x : Record κ) : Prop where
  records : (w.registry c).records = [x]
  active : x.status = .active

theorem heard_append {ns ms : List Notice} : heard (ns ++ ms) = heard ns ++ heard ms :=
  List.filterMap_append

theorem heard_of_quiet {ns : List Notice} (h : ∀ n ∈ ns, n.counts = false) : heard ns = [] := by
  refine List.filterMap_eq_nil_iff.2 fun n hn => ?_
  have hno := h n hn
  cases n <;> first | rfl | cases hno

theorem tallied_of_quiet {c : ContextId} {ns : List Notice} (h : ∀ n ∈ ns, n.counts = false) :
    tallied c ns = 0 := by
  refine tallied_eq_zero fun n hn c' d e t heq => ?_
  rw [heq] at hn
  cases h _ hn

/-- What went before without being counted has no part in it. -/
theorem Told.after_quiet {x : Record κ} {c : ContextId} {changes : List (Device × Event)}
    {t : Tally} {ms : List Notice} (h : Told x c changes t ms) (ns : List Notice)
    (hns : ∀ n ∈ ns, n.counts = false) : Told x c changes t (ns ++ ms) := by
  have hheard : DeviceWatch.heard (ns ++ ms) = DeviceWatch.heard ms := by
    rw [heard_append, heard_of_quiet hns, List.nil_append]
  have htallied : tallied c (ns ++ ms) = tallied c ms := by
    rw [tallied_append, tallied_of_quiet hns, Nat.zero_add]
  exact ⟨hheard.trans h.heard, by rw [hheard, h.invoked], by rw [htallied, h.disconnected]⟩

instance : Law.Composes (Unmoved (κ := κ) (τ := τ)) where
  refl _ := ⟨fun _ => rfl, fun _ => rfl, rfl, rfl⟩
  trans h₁ h₂ :=
    ⟨fun c => (h₂.registry c).trans (h₁.registry c), fun c => (h₂.roster c).trans (h₁.roster c),
      h₂.buses.trans h₁.buses, h₂.nextOpen.trans h₁.nextOpen⟩

/-- What was noted has no part in it. -/
theorem Unmoved.renote {w w' : World κ τ} {ns ms : List Notice} (h : Unmoved w ns w') :
    Unmoved w ms w' :=
  ⟨h.registry, h.roster, h.buses, h.nextOpen⟩

theorem Unmoved.setRegistry_self {w : World κ τ} {c : ContextId} {ns : List Notice} :
    Unmoved w ns (w.setRegistry c (w.registry c)) where
  registry c' := by
    rw [World.registry_setRegistry]
    split
    next heq => rw [heq]
    next => rfl
  roster _ := World.roster_setRegistry
  buses := rfl
  nextOpen := rfl

namespace World.Sole

variable {w w' : World κ τ} {c : ContextId} {x : Record κ} {ns : List Notice}

theorem get? (hw : w.Sole c x) : (w.registry c).get? x.id = some x := by
  rw [Registry.get?, hw.records]
  simp

theorem ids (hw : w.Sole c x) : (w.registry c).ids = [x.id] := by
  rw [Registry.ids, hw.records]
  rfl

/-- The record is there as long as registries stay what they are. -/
theorem of_registry (hw : w.Sole c x) (h : w'.registry c = w.registry c) : w'.Sole c x where
  records := h ▸ hw.records
  active := hw.active

end World.Sole

namespace Act

variable {host : Host κ τ} {c : ContextId} {d : Device} {e : Event} {w : World κ τ}
variable {x : Record κ} {h : OpenHandle}

theorem unmoved_closeHandle : (closeHandle c h : Act κ τ Bool).Obeys Unmoved := by
  refine obeys_closeHandle fun w rest _ => ?_
  exact ⟨fun _ => World.registry_setOpens, fun _ => World.roster_setOpens, rfl, rfl⟩

theorem unmoved_disconnect : (disconnect c h : Act κ τ Bool).Obeys Unmoved := by
  refine obeys_disconnect fun w _ => ?_
  exact ⟨fun _ => World.registry_setPlatform, fun _ => World.roster_setPlatform, rfl, rfl⟩

theorem unmoved_followUp : (followUp c d e : Act κ τ _).Obeys Unmoved := by
  rw [followUp]
  split
  · exact closed_obeys.disconnectOn fun _ => unmoved_disconnect
  · exact obeys_pure _

/-- The visit to a sole record runs its callback if the record listens, and leaves the
record where it was. -/
theorem run_visit_sole (hl : host.Listens) (hw : w.Sole c x) :
    ∃ v, Unmoved w [] v ∧ (visit host c d e x.id).run w =
      if x.hears d e then
        { result := some (.invoked false)
          world := v
          notices := [.decided c x.id .invoke, .delivered c x.id d e,
            .committed c x.id .rearm false] }
      else { result := some .skipped, world := v, notices := [.decided c x.id .skip] } := by
  have hdecide := Registry.decide_of_active (d := d) (e := e) hw.get? hw.active
  have hsame : Unmoved w [] (w.setRegistry c (w.registry c)) := .setRegistry_self
  rw [visit, run_bind, run_decide, hdecide, Effect.andThen_some]
  by_cases hears : x.hears d e = true
  · simp only [if_pos hears]
    have hw' := hw.of_registry (hsame.registry c)
    generalize w.setRegistry c (w.registry c) = w' at hsame hw' ⊢
    have hkeep : (w'.registry c).releases x.id .rearm = false := by
      simp [Registry.releases, hw'.get?, hw'.active]
    refine ⟨w'.setRegistry c (w'.registry c), Law.Composes.trans hsame .setRegistry_self, ?_⟩
    rw [run_bind, invoke, hl, run_bind, run_note, Effect.andThen_some, run_pure,
      Effect.andThen_some, run_bind, run_commit, hkeep, Registry.commit_of_not_releases hkeep]
    rfl
  · simp only [if_neg hears]
    exact ⟨_, hsame, rfl⟩

/-- So do the visits of a pass over a sole record. -/
theorem visitAll_sole (hl : host.Listens) (hw : w.Sole c x) :
    ∃ v, ((visitAll host c d e [x.id]).run w).result = some [(x.id, v)] ∧
      v.ran = x.hears d e ∧
      Unmoved w [] ((visitAll host c d e [x.id]).run w).world ∧
      heard ((visitAll host c d e [x.id]).run w).notices =
        (if x.hears d e then [(d, e)] else []) ∧
      tallied c ((visitAll host c d e [x.id]).run w).notices = 0 := by
  obtain ⟨v, hmoved, hvisit⟩ := run_visit_sole (d := d) (e := e) hl hw
  rw [visitAll, run_bind, hvisit]
  by_cases hears : x.hears d e = true
  · simp only [if_pos hears]
    exact ⟨.invoked false, rfl, hears.symm, hmoved, rfl, rfl⟩
  · simp only [if_neg hears]
    exact ⟨.skipped, rfl, (Bool.eq_false_iff.2 hears).symm, hmoved, rfl, rfl⟩

/-- **A pass over a sole record tells it what it listens for**, counts that and what it
disconnects, and moves nothing. -/
theorem notify_sole (hl : host.Listens) (hw : w.Sole c x) :
    ∃ tally, ((notify host c d e).run w).result = some tally ∧
      Unmoved w ((notify host c d e).run w).notices ((notify host c d e).run w).world ∧
      Told x c [(d, e)] tally ((notify host c d e).run w).notices := by
  have hret : ∀ inv, (host.react inv).Returns := fun inv => hl inv ▸ returns_pure _
  have horder : host.order w (w.registry c).ids = [x.id] := by
    have hperm := host.order_perm w (w.registry c).ids
    rw [hw.ids] at hperm ⊢
    exact List.perm_singleton.1 hperm
  obtain ⟨vs, hs, hvs, hrun⟩ := run_notify (c := c) (d := d) (e := e) (w := w) hret
  obtain ⟨v, hv, hran, hmoved, hheard, htallied⟩ := visitAll_sole (d := d) (e := e) hl hw
  rw [horder] at hvs hrun
  obtain rfl : [(x.id, v)] = vs := Option.some.inj (hv.symm.trans hvs)
  rw [hrun]
  generalize ((visitAll host c d e [x.id]).run w).notices = visited at hheard htallied ⊢
  generalize ((visitAll host c d e [x.id]).run w).world = w₁ at hmoved ⊢
  -- The follow-up tells nobody, and ends no pass.
  have hquiet : ∀ n ∈ ((followUp c d e).run w₁).notices, n.counts = false :=
    notes_followUp (fun _ => rfl) w₁
  have hcount : (Pass.tally ⟨[(x.id, v)], hs⟩).invoked = if x.hears d e then 1 else 0 := by
    rcases hears : x.hears d e with _ | _ <;> simp [Pass.tally, hran, hears]
  generalize Pass.tally ⟨[(x.id, v)], hs⟩ = tally at hcount ⊢
  have hnone : heard [.passEnded c d e tally] = [] := rfl
  have hall : heard (.passBegan c d e :: (visited ++ ((followUp c d e).run w₁).notices ++
      [.passEnded c d e tally])) = if x.hears d e then [(d, e)] else [] := by
    rw [← List.singleton_append, heard_append, heard_append, heard_append, heard_of_quiet hquiet,
      hheard, hnone, List.append_nil, List.append_nil]
    rfl
  refine ⟨_, rfl, (Law.Composes.trans hmoved (unmoved_followUp w₁)).renote, ?_, ?_, ?_⟩
  · rw [hall, List.filter_singleton, Bool.cond_eq_ite]
  · rw [hall, hcount]
    split <;> rfl
  · simp only
    rw [← List.singleton_append, tallied_append, tallied_append, tallied_append, htallied,
      tallied_of_quiet hquiet]
    simp [tallied]

/-! ## Acts on a bus -/

variable {b : BusId} {i : DeviceId} {s : DeviceSpec}

/-- A device that comes is told of, and counted. -/
theorem plug_told (hl : host.Listens) (hw : w.Sole (w.contextOf b) x) :
    ∃ tally, ((plug host b s).run w).result =
        some (Bus.device (w.bus b).nextDevice s, tally) ∧
      Unmoved (w.withNew b s) ((plug host b s).run w).notices ((plug host b s).run w).world ∧
      Told x (w.contextOf b) [(Bus.device (w.bus b).nextDevice s, .arrived)] tally
        ((plug host b s).run w).notices := by
  have hw' : (w.withNew b s).Sole (w.contextOf b) x := hw.of_registry World.registry_setRoster
  rw [run_plug]
  generalize Bus.device (w.bus b).nextDevice s = d
  obtain ⟨tally, hresult, hmoved, htold⟩ := notify_sole (d := d) (e := .arrived) hl hw'
  refine ⟨tally, by simp only [hresult, Option.map_some], hmoved.renote, ?_⟩
  exact htold.after_quiet [.attached _ d, .plugged d s.label] (by simp [Notice.counts])

/-- A device that is unplugged is told of, and counted. -/
theorem unplug_told {rest : Roster} (hl : host.Listens) (hw : w.Sole (w.contextOf b) x)
    (hd : (w.devices b).detach? i = some (d, rest)) :
    ∃ tally, ((unplug host b i).run w).result = some (.ok (d, tally)) ∧
      Unmoved (w.setRoster (w.contextOf b) rest) ((unplug host b i).run w).notices
        ((unplug host b i).run w).world ∧
      Told x (w.contextOf b) [(d, .left)] tally ((unplug host b i).run w).notices := by
  have hw' : (w.setRoster (w.contextOf b) rest).Sole (w.contextOf b) x :=
    hw.of_registry World.registry_setRoster
  obtain ⟨tally, hresult, hmoved, htold⟩ := notify_sole (d := d) (e := .left) hl hw'
  rw [run_unplug, show (w.roster (w.contextOf b)).detach? i = _ from hd]
  refine ⟨tally, by simp only [hresult, Option.map_some], hmoved.renote, ?_⟩
  exact htold.after_quiet [.detached _ d, .unplugged d] (by simp [Notice.counts])

/-- So is the device of a handle on which a transfer failed. -/
theorem transferFailed_told {rest : Roster} (hl : host.Listens) (hw : w.Sole (w.contextOf b) x)
    (hd : (w.devices b).detach? h.device.id = some (d, rest)) :
    ∃ tally, ((transferFailed host b h).run w).result = some tally ∧
      Unmoved (w.setRoster (w.contextOf b) rest) ((transferFailed host b h).run w).notices
        ((transferFailed host b h).run w).world ∧
      Told x (w.contextOf b) [(h.device, .left)] tally
        ((transferFailed host b h).run w).notices := by
  have hw' : (w.setRoster (w.contextOf b) rest).Sole (w.contextOf b) x :=
    hw.of_registry World.registry_setRoster
  obtain ⟨tally, hresult, hmoved, htold⟩ := notify_sole (d := h.device) (e := .left) hl hw'
  rw [run_transferFailed, show (w.roster (w.contextOf b)).detach? h.device.id = _ from hd]
  refine ⟨tally, hresult, hmoved.renote, ?_⟩
  exact htold.after_quiet [.detached _ d] (by simp [Notice.counts])

end Act
end DeviceWatch
