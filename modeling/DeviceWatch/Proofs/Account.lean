import DeviceWatch.Proofs.Notes
import DeviceWatch.Proofs.Turn
/-!
# The account of a pass

What one pass does by itself, whatever the callbacks do that it runs: they may
register and deregister, clear the registry, and begin passes of their own. The
pass visits what was live when it began, once each. Its tally counts its own
turns, and no turn of a pass begun under it: the notices of those lie between
the delivery and the commit of one of its own, and no record is removed twice.
-/

namespace DeviceWatch

variable {κ τ : Type}

/-- **The account of a pass** that began in a world, made these turns and had
this effect. -/
structure PassAccount (c : ContextId) (d : Device) (e : Event) (w : World κ τ)
    (ts : List (Turn κ τ)) (out : Effect κ τ Tally) : Prop where
  /-- The pass visits the records that were live when it began. -/
  visits : (ts.map Turn.id).Perm (w.registry c).ids
  /-- It visits none of them twice. -/
  once : (ts.map Turn.id).Nodup
  /-- None of them was inserted under the pass. -/
  known : ∀ t ∈ ts, ∀ c', .inserted c' t.id ∉ out.notices
  /-- A record that was active when the pass began, and hears of the event, has
  its callback run unless it is not active any more when the pass comes to it. -/
  heard : ∀ x, (w.registry c).get? x.id = some x → x.status = .active → x.hears d e = true →
    ∃ t ∈ ts, t.id = x.id ∧
      (t.ran = true ∨ (t.found.registry c).status? x.id ≠ some .active)
  /-- A record that was pending when the pass began is gone in the end. -/
  pending : ∀ id, (w.registry c).status? id = some .pending → out.world.Gone id
  /-- So is a record whose callback ran and asked for it, or that was pending
  when its callback was done. -/
  done : ∀ t ∈ ts, ∀ run, t.call = some run →
    (run.result = some .deregister ∨ (run.world.registry c).status? t.id = some .pending) →
    out.world.Gone t.id
  /-- The pass returns a tally of the callbacks it ran and of the records it
  removed. What it noted is what its turns tell, and then at most which handles
  were disconnected. -/
  tally : ∃ tally rest, out.result = some tally ∧
    tally.invoked = ts.countP Turn.ran ∧ tally.released = ts.countP (Turn.removed c) ∧
    out.notices = .passBegan c d e ::
      (ts.flatMap (Turn.told c d e) ++ rest ++ [.passEnded c d e tally]) ∧
    ∀ n ∈ rest, ∃ h, n = .disconnected c h
  /-- A record that the pass removed is removed nowhere else meanwhile. -/
  single : ∀ t ∈ ts, t.removed c = true → out.notices.countP (Notice.removes t.id) = 1

namespace Act

variable {host : Host κ τ} {c : ContextId} {d : Device} {e : Event} {w : World κ τ}
variable {id : CallbackId} {ids : List CallbackId} {t : Turn κ τ}

/-! ## What a pass notes -/

/-- What a pass does after its visits: a departure disconnects the handles that
are open on the device. -/
def followUp (c : ContextId) (d : Device) (e : Event) : Act κ τ (List OpenHandle) :=
  if e = .left then disconnectOn c d else pure []

theorem returns_followUp : (followUp c d e : Act κ τ _).Returns := by
  rw [followUp]
  split
  · exact returns_disconnectOn
  · exact returns_pure _

theorem notes_followUp {P : Notice → Prop} (h : ∀ k, P (.disconnected c k)) :
    (followUp c d e : Act κ τ _).Obeys (Notes P) := by
  rw [followUp]
  split
  · exact closed_obeys.disconnectOn fun k => notes_disconnect (h k)
  · exact obeys_pure _

theorem life_followUp : (followUp c d e : Act κ τ _).Obeys Life := by
  rw [followUp]
  split
  · exact life_disconnectOn
  · exact obeys_pure _

theorem pass_eq : pass host c d e = do
    let w ← get
    let visits ← visitAll host c d e (host.order w (w.context c).registry.ids)
    let disconnected ← followUp c d e
    return { visits, disconnected } := by
  by_cases he : e = .left
  · simp only [pass, followUp, if_pos he]
  · simp only [pass, followUp, if_neg he]

/-- A pass is its visits and what follows them. -/
theorem run_notify_of {vs : List (CallbackId × Visit)} {hs : List OpenHandle}
    (hvs : ((visitAll host c d e (host.order w (w.registry c).ids)).run w).result = some vs)
    (hhs : ((followUp c d e).run
      ((visitAll host c d e (host.order w (w.registry c).ids)).run w).world).result = some hs) :
    (notify host c d e).run w =
      { result := some (Pass.tally ⟨vs, hs⟩)
        world := ((followUp c d e).run
          ((visitAll host c d e (host.order w (w.registry c).ids)).run w).world).world
        notices := .passBegan c d e ::
          (((visitAll host c d e (host.order w (w.registry c).ids)).run w).notices ++
            ((followUp c d e).run
              ((visitAll host c d e (host.order w (w.registry c).ids)).run w).world).notices ++
            [.passEnded c d e (Pass.tally ⟨vs, hs⟩)]) } := by
  simp only [World.registry] at hvs hhs ⊢
  simp only [notify, pass_eq, run_bind, run_note, run_get, run_pure, Effect.andThen, hvs, hhs,
    List.append_nil, List.nil_append, List.cons_append]

/-- Neither the visits nor what follows them panics if no callback does. -/
theorem run_notify (hret : ∀ inv, (host.react inv).Returns) :
    ∃ vs hs,
      ((visitAll host c d e (host.order w (w.registry c).ids)).run w).result = some vs ∧
      (notify host c d e).run w =
        { result := some (Pass.tally ⟨vs, hs⟩)
          world := ((followUp c d e).run
            ((visitAll host c d e (host.order w (w.registry c).ids)).run w).world).world
          notices := .passBegan c d e ::
            (((visitAll host c d e (host.order w (w.registry c).ids)).run w).notices ++
              ((followUp c d e).run
                ((visitAll host c d e (host.order w (w.registry c).ids)).run w).world).notices ++
              [.passEnded c d e (Pass.tally ⟨vs, hs⟩)]) } := by
  obtain ⟨vs, hvs⟩ : ∃ vs, ((visitAll host c d e (host.order w (w.registry c).ids)).run w).result =
    some vs := returns_visitAll hret w
  obtain ⟨hs, hhs⟩ : ∃ hs, ((followUp c d e).run
    ((visitAll host c d e (host.order w (w.registry c).ids)).run w).world).result = some hs :=
      returns_followUp _
  exact ⟨vs, hs, hvs, run_notify_of hvs hhs⟩

/-! ## The account -/

theorem told_removes (hret : ∀ inv, (host.react inv).Returns)
    (h : (turn host c d e w id).removed c = true) :
    ∃ n ∈ (turn host c d e w id).told c d e, n.removes id = true := by
  rcases hc : call host c d e w id with _ | run
  · have hrel := (removed_of_no_call hc).1 h
    exact ⟨_, List.mem_cons_self, by simp [Notice.removes, turn, hrel]⟩
  · obtain ⟨wish, hwish⟩ := call_returns hret hc
    refine ⟨.committed c id wish true, ?_, by simp [Notice.removes]⟩
    rw [Turn.told, h]
    simp [turn, hc, hwish]

theorem mem_visited (ht : t ∈ turns host c d e (host.order w (w.registry c).ids) w) :
    t.id ∈ (w.registry c).ids := by
  have hmem := List.mem_map_of_mem (f := Turn.id) ht
  rw [map_id_turns] at hmem
  exact (host.order_perm w _).mem_iff.1 hmem

theorem exists_turn (hlive : id ∈ (w.registry c).ids) :
    ∃ t ∈ turns host c d e (host.order w (w.registry c).ids) w, t.id = id := by
  rw [← List.mem_map, map_id_turns]
  exact (host.order_perm w _).mem_iff.2 hlive

/-- What one turn leaves absent is gone when the pass is over. -/
theorem gone_of_turn (hlife : ∀ inv, (host.react inv).Obeys Life)
    (hret : ∀ inv, (host.react inv).Returns) (hw : w.Sound)
    (ht : t ∈ turns host c d e (host.order w (w.registry c).ids) w)
    (habsent : t.id ∉ (t.left.registry c).ids) : ((notify host c d e).run w).world.Gone t.id := by
  obtain ⟨heq, ⟨_, hbefore⟩, _, hafter⟩ := mem_turns hlife hret ht
  have hturn : Life t.found ((visit host c d e t.id).run t.found).notices t.left := by
    rw [heq]
    exact life_visit hlife t.found
  have hleft : t.left.Gone t.id :=
    (hbefore.trans hturn).gone_of_absent hw (mem_visited ht) habsent
  obtain ⟨vs, hs, -, hrun⟩ := run_notify (c := c) (d := d) (e := e) (w := w) hret
  rw [hrun]
  exact (life_followUp _).gone (hafter.gone hleft)

/-- A record that is active when the pass comes to it is the one that the pass
began with. -/
theorem found_active (hlife : ∀ inv, (host.react inv).Obeys Life)
    (hret : ∀ inv, (host.react inv).Returns) (hw : w.Sound) {x : Record κ}
    (ht : t ∈ turns host c d e ids w) (hx : (w.registry c).get? t.id = some x)
    (hact : (t.found.registry c).status? t.id = some .active) :
    (t.found.registry c).get? t.id = some x ∧ x.status = .active := by
  obtain ⟨-, ⟨_, hbefore⟩, -⟩ := mem_turns hlife hret ht
  obtain ⟨y, hy, hys⟩ := Option.map_eq_some_iff.1 hact
  have hlive := Registry.mem_ids_iff.2 ⟨x, hx⟩
  have hsame := (hbefore.aged (hw.below hlive) c).eq_of_active hy hys
  obtain rfl : x = y := Option.some.inj (hx.symm.trans hsame)
  exact ⟨hy, hys⟩

/-- **Every pass has its account**, if none of its callbacks panics. -/
theorem notify_account (hhost : host.Within Repertoire.Any)
    (hret : ∀ inv, (host.react inv).Returns) (hw : w.Sound) :
    PassAccount c d e w (turns host c d e (host.order w (w.registry c).ids) w)
      ((notify host c d e).run w) := by
  have hlife : ∀ inv, (host.react inv).Obeys Life := fun inv => (hhost inv).life
  have hnotify : Life w _ ((notify host c d e).run w).world := life_notify hlife w
  have hperm := host.order_perm w (w.registry c).ids
  obtain ⟨vs, hs, hvs, hrun⟩ := run_notify (c := c) (d := d) (e := e) (w := w) hret
  obtain ⟨⟨vs', hvs', hran, hremoved⟩, htold⟩ :
    (∃ vs, ((visitAll host c d e (host.order w (w.registry c).ids)).run w).result = some vs ∧
      _) ∧ _ := visitAll_whole hret
  obtain rfl : vs = vs' := Option.some.inj (hvs.symm.trans hvs')
  rw [htold] at hrun
  refine ⟨?visits, ?once, ?known, ?heard, ?pending, ?done, ?tally, ?single⟩
  case visits =>
    rw [map_id_turns]
    exact hperm
  case once =>
    rw [map_id_turns]
    exact hperm.nodup_iff.2 (hw.nodup c)
  case known =>
    intro t ht c'
    exact hnotify.not_inserted (hw.below (mem_visited ht))
  case heard =>
    intro x hx hs hh
    have hlive := Registry.mem_ids_iff.2 ⟨x, hx⟩
    obtain ⟨t, ht, htid⟩ : ∃ t ∈ turns host c d e (host.order w _) w, t.id = x.id :=
      exists_turn hlive
    refine ⟨t, ht, htid, ?_⟩
    rw [← htid] at hx ⊢
    by_cases hact : (t.found.registry c).status? t.id = some .active
    · obtain ⟨hfound, -⟩ := found_active hlife hret hw ht hx hact
      obtain ⟨heq, -, -⟩ := mem_turns hlife hret ht
      rw [heq]
      exact Or.inl (call_isSome_iff.2 ⟨x, hfound, hs, hh⟩)
    · exact Or.inr hact
  case pending =>
    intro id hid
    obtain ⟨x, hx, hs⟩ := Option.map_eq_some_iff.1 hid
    have hlive := Registry.mem_ids_iff.2 ⟨x, hx⟩
    obtain ⟨t, ht, rfl⟩ : ∃ t ∈ turns host c d e (host.order w _) w, t.id = id :=
      exists_turn hlive
    have hinactive : (t.found.registry c).status? t.id ≠ some .active := by
      intro hact
      obtain ⟨-, hactive⟩ := found_active hlife hret hw ht hx hact
      cases hs.symm.trans hactive
    obtain ⟨heq, -, -⟩ := mem_turns hlife hret ht
    refine gone_of_turn hlife hret hw ht ?_
    rw [heq]
    exact absent_of_inactive hinactive
  case done =>
    intro t ht run hcall hdone
    obtain ⟨heq, -, -⟩ := mem_turns hlife hret ht
    refine gone_of_turn hlife hret hw ht ?_
    rw [heq] at hcall ⊢
    refine absent_of_call hret hcall (hdone.imp_right fun hp hact => ?_)
    cases hp.symm.trans hact
  case tally =>
    refine ⟨_, _, by rw [hrun], hran, hremoved, by rw [hrun], ?_⟩
    exact notes_followUp (fun h => ⟨h, rfl⟩) _
  case single =>
    intro t ht hremoved
    obtain ⟨heq, -, -⟩ := mem_turns hlife hret ht
    obtain ⟨n, hn, hr⟩ := told_removes hret (heq ▸ hremoved)
    rw [← heq] at hn
    -- The turn notes the removal, and the run as a whole notes no other.
    have honce := hnotify.removes_once hw t.id
    have hpos : 0 < ((notify host c d e).run w).notices.countP (Notice.removes t.id) := by
      refine List.countP_pos_iff.2 ⟨n, ?_, hr⟩
      have hown := List.mem_flatMap.2 ⟨t, ht, hn⟩
      rw [hrun]
      exact List.mem_cons_of_mem _ (List.mem_append_left _ (List.mem_append_left _ hown))
    omega

/-- The first of two callbacks deregisters the second in a pass over both; the
pass runs one of them and removes the other. -/
theorem notify_account_of_two :
    ∃ ts, PassAccount ⟨1⟩ default .arrived ((registerTwo ⟨1⟩).run oneContext).world ts
        ((notify deregistering ⟨1⟩ default .arrived).run
          ((registerTwo ⟨1⟩).run oneContext).world) ∧
      ts.map Turn.ran = [true, false] ∧ ts.map (Turn.removed ⟨1⟩) = [false, true] := by
  have hret : ∀ inv, (deregistering.react inv).Returns := fun inv =>
    (closed_returns.deregister returns_markPending).bind fun _ => returns_pure _
  have hw : ((registerTwo ⟨1⟩).run oneContext).world.Sound :=
    registerTwo_within.sound oneContext_sound
  exact ⟨_, notify_account deregistering_within hret hw, rfl, rfl⟩

end Act
end DeviceWatch
