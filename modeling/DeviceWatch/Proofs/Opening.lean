import DeviceWatch.Proofs.Roster
import DeviceWatch.Proofs.Still
/-!
# Open handles along a run

A handle is opened under a number that none had before, and a number is never
given again. So what is open after a run is what was open before it or was opened
under it, less what was closed under it, in whatever order this happened; a mark
on a handle stays. This holds of every run and of every context at once, whatever
lies beneath the contexts.
-/

namespace DeviceWatch

variable {κ τ α : Type}

/-- **Open handles are told apart by their numbers**, each of which was drawn
before. -/
structure World.Distinguished (w : World κ τ) : Prop where
  distinct (c : ContextId) : ((w.opens c).toList.map OpenHandle.id).Nodup
  lt (c : ContextId) : ∀ h ∈ (w.opens c).toList, h.id.val < w.nextOpen

/-- **What a run makes of open handles.** -/
structure Handles (w : World κ τ) (ns : List Notice) (w' : World κ τ) : Prop where
  distinguished : w'.Distinguished
  next : w.nextOpen ≤ w'.nextOpen
  /-- A handle is opened under a number that was not drawn before. -/
  fresh (c : ContextId) (h : OpenHandle) : .opened c h ∈ ns →
    w.nextOpen ≤ h.id.val ∧ h.id.val < w'.nextOpen
  /-- A handle is closed under a number that was drawn. -/
  drawn (c : ContextId) (k : OpenId) : .closed c k ∈ ns → k.val < w'.nextOpen
  /-- Open is what was open or was opened, and was not closed. -/
  opens (c : ContextId) (h : OpenHandle) : h ∈ (w'.opens c).toList ↔
    (h ∈ (w.opens c).toList ∨ .opened c h ∈ ns) ∧ .closed c h.id ∉ ns
  /-- No mark is taken away. -/
  flag (k : OpenId) : w.isDisconnected k = true → w'.isDisconnected k = true
  /-- Whoever is given up is marked. -/
  marked (c : ContextId) (h : OpenHandle) : .disconnected c h ∈ ns →
    w'.isDisconnected h.id = true

/-- A run that begins where handles are told apart. -/
def HandlesOf : Law κ τ :=
  fun w ns w' => w.Distinguished → Handles w ns w'

namespace Handles

variable {w w₁ w₂ w₃ : World κ τ} {ns ms : List Notice}

theorem trans (h₁ : Handles w₁ ns w₂) (h₂ : Handles w₂ ms w₃) : Handles w₁ (ns ++ ms) w₃ where
  distinguished := h₂.distinguished
  next := Nat.le_trans h₁.next h₂.next
  fresh c h hmem := by
    rcases List.mem_append.1 hmem with hmem | hmem
    · obtain ⟨hge, hlt⟩ := h₁.fresh c h hmem
      exact ⟨hge, Nat.lt_of_lt_of_le hlt h₂.next⟩
    · obtain ⟨hge, hlt⟩ := h₂.fresh c h hmem
      exact ⟨Nat.le_trans h₁.next hge, hlt⟩
  drawn c k hmem := by
    rcases List.mem_append.1 hmem with hmem | hmem
    · exact Nat.lt_of_lt_of_le (h₁.drawn c k hmem) h₂.next
    · exact h₂.drawn c k hmem
  opens c h := by
    rw [h₂.opens, h₁.opens, List.mem_append, List.mem_append, not_or]
    constructor
    · rintro ⟨⟨ho, hc⟩ | ho, hc'⟩
      · exact ⟨ho.imp_right Or.inl, hc, hc'⟩
      · -- The number of a handle opened later was not drawn when the first part closed.
        refine ⟨Or.inr (Or.inr ho), fun hc => ?_, hc'⟩
        have hlt := h₁.drawn c h.id hc
        have hge := (h₂.fresh c h ho).1
        omega
    · rintro ⟨ho | ho | ho, hc, hc'⟩
      · exact ⟨Or.inl ⟨Or.inl ho, hc⟩, hc'⟩
      · exact ⟨Or.inl ⟨Or.inr ho, hc⟩, hc'⟩
      · exact ⟨Or.inr ho, hc'⟩
  flag k hk := h₂.flag k (h₁.flag k hk)
  marked c h hmem := by
    rcases List.mem_append.1 hmem with hmem | hmem
    · exact h₂.flag h.id (h₁.marked c h hmem)
    · exact h₂.marked c h hmem

/-- Where the open handles stay what they are, nothing happens to handles but that
some are marked. -/
theorem of_same (hw : w₁.Distinguished) (hopens : ∀ c, w₂.opens c = w₁.opens c)
    (hnext : w₂.nextOpen = w₁.nextOpen)
    (hflag : ∀ k, w₁.isDisconnected k = true → w₂.isDisconnected k = true)
    (hns : ∀ n ∈ ns, n.ofBus = true → (∃ c d, n = .attached c d ∨ n = .detached c d) ∨
      ∃ c h, n = .disconnected c h ∧ w₂.isDisconnected h.id = true) : Handles w₁ ns w₂ where
  distinguished := by
    refine ⟨fun c => ?_, fun c => ?_⟩
    · rw [hopens]
      exact hw.distinct c
    · rw [hopens, hnext]
      exact hw.lt c
  next := Nat.le_of_eq hnext.symm
  fresh c h hmem := by simpa using hns _ hmem rfl
  drawn c k hmem := by simpa using hns _ hmem rfl
  opens c h := by
    have hopened : .opened c h ∉ ns := fun hmem => by simpa using hns _ hmem rfl
    have hclosed : .closed c h.id ∉ ns := fun hmem => by simpa using hns _ hmem rfl
    rw [hopens]
    simp [hopened, hclosed]
  flag := hflag
  marked c h hmem := by
    obtain ⟨c', d, heq | heq⟩ | ⟨c', k, heq, hk⟩ := hns _ hmem rfl
    · cases heq
    · cases heq
    · obtain ⟨-, rfl⟩ := Notice.disconnected.inj heq
      exact hk

end Handles

instance : Law.OfBuses (HandlesOf (κ := κ) (τ := τ)) where
  refl _ hw := .of_same hw (fun _ => rfl) rfl (fun _ => id) nofun
  trans h₁ h₂ hw := (h₁ hw).trans (h₂ (h₁ hw).distinguished)
  still {w w' ns} h hw := by
    refine .of_same hw h.opens h.nextOpen (fun k hk => ?_) fun n hn hbus => ?_
    · rw [World.isDisconnected, h.disconnected]
      exact hk
    · rw [h.silent n hn] at hbus
      cases hbus

namespace Act

variable {c : ContextId} {d : Device} {i : DeviceId} {w : World κ τ} {h : OpenHandle}
variable {hs : List OpenHandle} {x : Act κ τ α}

/-! ## Devices -/

theorem handles_attach : (attach c d : Act κ τ Unit).Obeys HandlesOf := by
  intro w hw
  rw [run_attach]
  refine .of_same hw (fun _ => World.opens_setRoster) rfl (fun _ => id) fun n hn _ => ?_
  exact Or.inl ⟨c, d, Or.inl (List.mem_singleton.1 hn)⟩

theorem handles_detach : (detach c i : Act κ τ _).Obeys HandlesOf := by
  refine obeys_detach fun w d rest _ hw => ?_
  refine .of_same hw (fun _ => World.opens_setRoster) rfl (fun _ => id) fun n hn _ => ?_
  exact Or.inl ⟨c, d, Or.inr (List.mem_singleton.1 hn)⟩

/-! ## Handles -/

/-- A handle is opened under the next number. -/
theorem handles_openHandle : (openHandle c d : Act κ τ OpenHandle).Obeys HandlesOf := by
  intro w hw
  have hopens : ∀ c', (((openHandle c d).run w).world.opens c').toList =
      if c' = c then (w.opens c).toList ++ [⟨⟨w.nextOpen⟩, d⟩] else (w.opens c').toList := by
    intro c'
    rw [run_openHandle, World.opens_setOpens]
    split <;> rfl
  have hnotices : ((openHandle c d).run w).notices = [.opened c ⟨⟨w.nextOpen⟩, d⟩] := rfl
  refine ⟨⟨fun c' => ?distinct, fun c' => ?lt⟩, Nat.le_succ w.nextOpen, ?fresh, ?drawn, ?opens,
    fun _ => id, ?marked⟩
  case distinct =>
    rw [hopens]
    split
    · exact OpenHandle.nodup_concat (hw.distinct c) (hw.lt c)
    · exact hw.distinct c'
  case lt =>
    rw [hopens]
    split
    · exact OpenHandle.lt_of_mem_concat (hw.lt c)
    · exact fun o ho => Nat.lt_succ_of_lt (hw.lt c' o ho)
  case fresh =>
    intro c' o ho
    rw [hnotices] at ho
    obtain ⟨-, rfl⟩ := Notice.opened.inj (List.mem_singleton.1 ho)
    exact ⟨Nat.le_refl _, Nat.lt_succ_self w.nextOpen⟩
  case drawn =>
    intro c' k hk
    rw [hnotices] at hk
    cases List.mem_singleton.1 hk
  case opens =>
    intro c' o
    rw [hopens, hnotices]
    by_cases hc : c' = c
    · subst hc
      simp
    · simp [hc]
  case marked =>
    intro c' o ho
    rw [hnotices] at ho
    cases List.mem_singleton.1 ho

/-- A handle is closed under its own number, and no other handle is. -/
theorem handles_closeHandle : (closeHandle c h : Act κ τ Bool).Obeys HandlesOf := by
  refine obeys_closeHandle fun w l hclose hw => ?_
  obtain ⟨o, ho, hperm⟩ := OpenList.close?_eq_some hclose
  have hopens : ∀ c', (w.setOpens c l).opens c' = if c' = c then l else w.opens c' :=
    fun _ => World.opens_setOpens
  have hrest : ∀ x, x ∈ l.toList ↔ x ∈ (w.opens c).toList ∧ x.id ≠ o.id := fun _ =>
    mem_rest_iff OpenHandle.id (hw.distinct c) hperm
  refine ⟨⟨fun c' => ?distinct, fun c' => ?lt⟩, Nat.le_refl w.nextOpen, ?fresh, ?drawn, ?opens,
    fun _ => id, ?marked⟩
  case distinct =>
    rw [hopens]
    split
    · exact nodup_map_of_perm_cons _ (hw.distinct c) hperm
    · exact hw.distinct c'
  case lt =>
    intro x hx
    rw [hopens] at hx
    split at hx
    · exact hw.lt c x (hperm.mem_iff.2 (List.mem_cons_of_mem o hx))
    · exact hw.lt c' x hx
  case fresh =>
    intro c' x hx
    cases List.mem_singleton.1 hx
  case drawn =>
    intro c' k hk
    obtain ⟨-, rfl⟩ := Notice.closed.inj (List.mem_singleton.1 hk)
    rw [← ho]
    exact hw.lt c o (hperm.mem_iff.2 List.mem_cons_self)
  case opens =>
    intro c' x
    simp only [hopens, List.mem_singleton, reduceCtorEq, or_false, Notice.closed.injEq, not_and]
    by_cases hc : c' = c
    · subst hc
      rw [if_pos rfl, hrest, ho]
      simp
    · simp [hc]
  case marked =>
    intro c' x hx
    cases List.mem_singleton.1 hx

/-- A handle that is given up is marked. -/
theorem handles_disconnect : (disconnect c h : Act κ τ Bool).Obeys HandlesOf := by
  refine obeys_disconnect fun w _ hw => ?_
  refine .of_same hw (fun _ => World.opens_setPlatform) rfl (fun k hk => ?_) fun n hn _ => ?_
  · exact World.isDisconnected_mark.2 (Or.inl hk)
  · refine Or.inr ⟨c, h, ?_, World.isDisconnected_mark.2 (Or.inr rfl)⟩
    exact forall_mem_givenUp (P := (· = .disconnected c h)) rfl n hn

theorem handles_disconnectOn : (disconnectOn c d : Act κ τ _).Obeys HandlesOf :=
  closed_obeys.disconnectOn fun _ => handles_disconnect

/-! ## Runs -/

theorem handles_parts : Parts fun _ (x : Act κ τ _) => x.Obeys HandlesOf := by
  refine still_parts ?_ ?_ ?_ ?_ ?_ ?_
  · exact fun w buses hw => .of_same hw (fun _ => rfl) rfl (fun _ => id) nofun
  · exact fun _ _ => handles_attach
  · exact fun _ _ => handles_detach
  · exact fun _ _ => handles_openHandle
  · exact fun _ _ => handles_closeHandle
  · exact fun _ _ => handles_disconnectOn

/-- **Every run does this to open handles**, whatever its callbacks do and whether or
not they panic. -/
theorem Within.handles (hx : x.Within Repertoire.Any) : x.Obeys HandlesOf :=
  hx.obeys_of_parts handles_parts fun w f => still_remember f w

/-- Handles are told apart in every world that a run comes to. -/
theorem Within.distinguished (hx : x.Within Repertoire.Any) (hw : w.Distinguished) :
    (x.run w).world.Distinguished :=
  (hx.handles w hw).distinguished

end Act

/-! ## New worlds and contexts -/

namespace World

variable {w : World κ τ}

/-- A world without contexts has no handles to be told apart. -/
theorem distinguished_blank (memory : τ) : World.Distinguished (κ := κ) { memory } where
  distinct _ := List.nodup_nil
  lt _ := List.forall_mem_nil _

/-- A new context has no open handles. -/
theorem Distinguished.addContext (hw : w.Distinguished) (platform : Platform)
    (settings : ContextSettings) : (w.addContext platform settings).1.Distinguished := by
  have hopens : ∀ c : ContextId, ((w.addContext platform settings).1.opens c).toList =
      if c.val = w.nextContext then [] else (w.opens c).toList := by
    intro c
    simp only [World.addContext, World.opens, World.context, Store.get_set]
    split <;> rfl
  refine ⟨fun c => ?_, fun c => ?_⟩
  · rw [hopens]
    split
    · exact List.nodup_nil
    · exact hw.distinct c
  · rw [hopens]
    split
    · exact List.forall_mem_nil _
    · exact hw.lt c

theorem Distinguished.addBus (hw : w.Distinguished) (c : ContextId) :
    (w.addBus c).1.Distinguished :=
  ⟨hw.distinct, hw.lt⟩

end World
end DeviceWatch
