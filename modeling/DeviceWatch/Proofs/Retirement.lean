import DeviceWatch.Proofs.Identity
/-!
# Retirement

Nothing happens to a record behind the back of its registration: once it was
deregistered or went, no decision has its callback run, in whatever pass and at
whatever depth, and no insertion brings it back. A run may be cut at the notice
of a retirement, and what comes after the cut starts from a world in which the
record is retired.
-/

namespace DeviceWatch

variable {κ τ α : Type}

/-! ## Along a path -/

namespace Life

variable {w w' : World κ τ} {ns before after : List Notice} {n : Notice} {c : ContextId}
variable {id : CallbackId}

theorem drawn_le (h : Life w ns w') : w.nextCallback ≤ w'.nextCallback := by
  induction h with
  | refl => exact Nat.le_refl _
  | step hs _ ih => exact Nat.le_trans hs.drawn_le ih

/-- Paths keep worlds sound. -/
theorem sound (h : Life w ns w') (hw : w.Sound) : w'.Sound :=
  h.invariant LifeStep.sound hw

/-- A record with a number already drawn only ages, in every context. -/
theorem aged (h : Life w ns w') (hid : id.val < w.nextCallback) (c : ContextId) :
    Record.Aged ((w.registry c).get? id) ((w'.registry c).get? id) := by
  induction h with
  | refl => exact .refl _
  | step hs _ ih => exact (hs.aged hid c).trans (ih (Nat.lt_of_lt_of_le hid hs.drawn_le))

theorem retired (h : Life w ns w') (hw : w.Retired id) : w'.Retired id :=
  h.invariant LifeStep.retired hw

theorem gone (h : Life w ns w') (hw : w.Gone id) : w'.Gone id :=
  h.invariant LifeStep.gone hw

/-- What was live in a context and is not any more is gone everywhere. -/
theorem gone_of_absent (h : Life w ns w') (hw : w.Sound) (hlive : id ∈ (w.registry c).ids)
    (habsent : id ∉ (w'.registry c).ids) : w'.Gone id :=
  hw.gone_of_absent h.drawn_le (h.aged (hw.below hlive)) hlive habsent

/-- **A path may be cut at a notice of records.** The steps before it noted what
comes before, and the steps after it what comes after. -/
theorem cut (h : Life w (before ++ n :: after) w') (hn : n.ofRecord = true) :
    ∃ w₁ w₂, Life w before w₁ ∧ LifeStep w₁ [n] w₂ ∧ Life w₂ after w' := by
  generalize hl : before ++ n :: after = l at h
  induction h generalizing before with
  | refl => cases before <;> cases hl
  | @step v₁ v₂ v₃ ms ls hs hrest ih =>
    -- the cut lies after the first step, or it is the first step
    rcases List.append_eq_append_iff.1 hl with ⟨k, hms, hk⟩ | ⟨k, rfl, hk⟩
    · rcases k with _ | ⟨m, k⟩
      · obtain ⟨u₁, u₂, hb, hcut, ha⟩ := @ih [] (by simpa using hk)
        exact ⟨u₁, u₂, by simpa [hms] using Life.step hs hb, hcut, ha⟩
      · obtain ⟨rfl, hafter⟩ := List.cons.inj hk
        have hone := hs.eq_singleton (by simp [hms]) hn
        obtain ⟨rfl, rfl⟩ : before = [] ∧ k = [] := by
          have := congrArg List.length (hms.symm.trans hone)
          simp only [List.length_append, List.length_cons, List.length_nil] at this
          exact ⟨List.eq_nil_of_length_eq_zero (by omega),
            List.eq_nil_of_length_eq_zero (by omega)⟩
        rw [hone] at hs
        rw [hafter]
        exact ⟨v₁, v₂, .refl v₁, hs, hrest⟩
    · obtain ⟨u₁, u₂, hb, hcut, ha⟩ := ih hk.symm
      exact ⟨u₁, u₂, .step hs hb, hcut, ha⟩

/-! ## After a retirement -/

theorem not_inserted (h : Life w ns w') (hid : id.val < w.nextCallback) :
    .inserted c id ∉ ns := by
  have hdrawn : ∀ {w ns w'}, LifeStep (κ := κ) (τ := τ) w ns w' →
      id.val < w.nextCallback → id.val < w'.nextCallback :=
    fun hs hid => Nat.lt_of_lt_of_le hid hs.drawn_le
  have hall : ∀ n ∈ ns, n ≠ .inserted c id :=
    h.along hdrawn (fun hs hid n hn heq => hs.not_inserted hid (heq ▸ hn)) hid
  exact fun hn => hall _ hn rfl

/-- No decision has the callback of a retired record run. -/
theorem not_invoked (h : Life w ns w') (hw : w.Retired id) : .decided c id .invoke ∉ ns := by
  have hall : ∀ n ∈ ns, n ≠ .decided c id .invoke :=
    h.along LifeStep.retired (fun hs hw n hn heq => hs.not_invoked hw (heq ▸ hn)) hw
  exact fun hn => hall _ hn rfl

/-- Every decision about a record that is gone finds it gone. -/
theorem decided_gone {v : Decision} (h : Life w ns w') (hw : w.Gone id)
    (hn : .decided c id v ∈ ns) : v = .gone := by
  have hall : ∀ n ∈ ns, ∀ v, n = .decided c id v → v = .gone :=
    h.along LifeStep.gone (fun hs hw n hn v heq => hs.decided_gone hw (heq ▸ hn)) hw
  exact hall _ hn v rfl

theorem not_retires_of_gone (h : Life w ns w') (hw : w.Gone id) (hn : n ∈ ns) :
    n.retires id = false :=
  h.along LifeStep.gone (fun hs hw _ hn => hs.not_retires_of_gone hw hn) hw n hn

/-- **A record goes at most once**, whichever way it goes. -/
theorem removes_once (h : Life w ns w') (hw : w.Sound) (id : CallbackId) :
    ns.countP (Notice.removes id) ≤ 1 := by
  induction h with
  | refl => exact Nat.zero_le 1
  | @step v₁ v₂ v₃ ms ls hs hrest ih =>
    rw [List.countP_append]
    by_cases hex : ∃ n ∈ ms, n.removes id = true
    · -- it went in the first step, so it is gone along the rest
      obtain ⟨n, hn, hr⟩ := hex
      have hls : ls.countP (Notice.removes id) = 0 := by
        refine List.countP_eq_zero.2 fun m hm hm' => ?_
        have hgone := hs.gone_of_removes hw hn hr
        have hno := hrest.not_retires_of_gone hgone hm
        rw [Notice.retires_of_removes hm'] at hno
        cases hno
      have hms : ms.countP (Notice.removes id) = 1 := by
        rw [hs.eq_singleton hn (Notice.ofRecord_of_retires (Notice.retires_of_removes hr)),
          List.countP_singleton, if_pos hr]
      omega
    · have hms : ms.countP (Notice.removes id) = 0 :=
        List.countP_eq_zero.2 fun n hn hr => hex ⟨n, hn, hr⟩
      rw [hms, Nat.zero_add]
      exact ih (hs.sound hw)

end Life

/-! ## Along a run -/

namespace Act

variable {x : Act κ τ α} {w : World κ τ} {before after : List Notice} {n : Notice}
variable {id : CallbackId}

/-- Runs keep worlds sound. -/
theorem Within.sound (hx : x.Within Repertoire.Any) (hw : w.Sound) : (x.run w).world.Sound :=
  (hx.life w).sound hw

/-- **A retired record stays retired.** Cut a run at a notice that a record was
deregistered or went. Afterwards no decision about it has its callback run and
no insertion returns its identity, at whatever depth and in passes that had
begun before, and in the end it is active nowhere. If it went, every decision
afterwards finds it gone, nothing retires it again, and in the end it is live
nowhere. -/
theorem Within.stays_retired (hx : x.Within Repertoire.Any) (hw : w.Sound)
    (hns : (x.run w).notices = before ++ n :: after) (hr : n.retires id = true) :
    (∀ c, .decided c id .invoke ∉ after) ∧ (∀ c, .inserted c id ∉ after) ∧
      (x.run w).world.Retired id ∧
      (n.removes id = true →
        (∀ c v, .decided c id v ∈ after → v = .gone) ∧ (∀ m ∈ after, m.retires id = false) ∧
          (x.run w).world.Gone id) := by
  have hlife := hx.life w
  rw [hns] at hlife
  obtain ⟨w₁, w₂, hbefore, hcut, hafter⟩ := hlife.cut (Notice.ofRecord_of_retires hr)
  have hw₁ : w₁.Sound := hbefore.sound hw
  -- What comes after the cut starts from a world in which the record is retired.
  have hmem : n ∈ [n] := List.mem_singleton_self n
  have hretired : w₂.Retired id := hcut.retired_of_retires hw₁ hmem hr
  refine ⟨fun c => hafter.not_invoked hretired, fun c => hafter.not_inserted hretired.drawn,
    hafter.retired hretired, fun hrem => ?_⟩
  have hgone : w₂.Gone id := hcut.gone_of_removes hw₁ hmem hrem
  exact ⟨fun c v hv => hafter.decided_gone hgone hv,
    fun m hm => hafter.not_retires_of_gone hgone hm, hafter.gone hgone⟩

/-- Callbacks that deregister the registration their program names. -/
def deregistering : Host CallbackId Unit where
  react inv := do
    deregister inv.context inv.program
    return .rearm
  order _ ids := ids
  order_perm _ _ := .refl _

/-- Two registrations, the first of which deregisters the second when it hears
of an event. -/
def registerTwo (c : ContextId) : Act CallbackId Unit Unit := do
  let _ ← register deregistering c { events := .all, program := some ⟨2⟩ }
  let _ ← register deregistering c { events := .all, program := some ⟨2⟩ }

theorem deregistering_within : deregistering.Within Repertoire.Any :=
  fun _ => .bind (.op .idle Host.idle_within (.calm (.deregister _ _))) fun _ => .pure _

theorem registerTwo_within {c : ContextId} : (registerTwo c).Within Repertoire.Any :=
  .bind (.op _ deregistering_within (.calm (.register _ _))) fun _ =>
    .bind (.op _ deregistering_within (.calm (.register _ _))) fun _ => .pure _

/-- A world with one context, on which callbacks may be registered. -/
def oneContext : World CallbackId Unit :=
  (World.addContext { memory := () } (.simulated true []) {}).1

theorem oneContext_sound : oneContext.Sound :=
  World.sound_of_empty (World.empty_addContext (fun _ => rfl) _ _)

/-- The pass comes to the second record after its deregistration, and releases
it without a run of its callback. -/
theorem stays_retired_before_its_turn :
    ∃ before after,
      ((registerTwo ⟨1⟩ >>= fun _ => notify deregistering ⟨1⟩ default .arrived).run
        oneContext).notices = before ++ .marked ⟨1⟩ ⟨2⟩ :: after ∧
      .decided ⟨1⟩ ⟨2⟩ .released ∈ after ∧ ∀ c, .decided c ⟨2⟩ .invoke ∉ after := by
  have hx : (registerTwo ⟨1⟩ >>= fun _ =>
      notify deregistering ⟨1⟩ default .arrived).Within Repertoire.Any :=
    .bind registerTwo_within fun _ => .op _ deregistering_within (.calm (.notify _ _ _))
  have hns : ((registerTwo ⟨1⟩ >>= fun _ => notify deregistering ⟨1⟩ default .arrived).run
      oneContext).notices =
        [.inserted ⟨1⟩ ⟨1⟩, .registered ⟨1⟩ ⟨1⟩ .any .all .none [],
          .inserted ⟨1⟩ ⟨2⟩, .registered ⟨1⟩ ⟨2⟩ .any .all .none [],
          .passBegan ⟨1⟩ default .arrived, .decided ⟨1⟩ ⟨1⟩ .invoke,
          .delivered ⟨1⟩ ⟨1⟩ default .arrived] ++
        .marked ⟨1⟩ ⟨2⟩ ::
        [.committed ⟨1⟩ ⟨1⟩ .rearm false, .decided ⟨1⟩ ⟨2⟩ .released,
          .passEnded ⟨1⟩ default .arrived ⟨1, 1, 0⟩] := rfl
  exact ⟨_, _, hns, by simp, (hx.stays_retired oneContext_sound hns rfl).1⟩

end Act
end DeviceWatch
