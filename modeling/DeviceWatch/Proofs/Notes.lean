import DeviceWatch.Proofs.Repertoire
/-!
# What acts note

That every notice of a run has some property is a law of runs that has nothing
to do with worlds. It holds of an act if the few kinds of notices that the act
leaves have the property, and of a visit if the callbacks' runs obey it as well.
-/

namespace DeviceWatch

variable {κ τ : Type}

/-- Every notice has the property. -/
def Notes (P : Notice → Prop) : Law κ τ :=
  fun _ ns _ => ∀ n ∈ ns, P n

variable {P : Notice → Prop}

instance : Law.Composes (Notes (κ := κ) (τ := τ) P) where
  refl _ := List.forall_mem_nil P
  trans h₁ h₂ := List.forall_mem_append.2 ⟨h₁, h₂⟩

namespace Act

variable {host : Host κ τ} {c : ContextId} {id : CallbackId} {d : Device} {e : Event}
variable {k : OpenHandle}

theorem notes_note {n : Notice} (h : P n) : (note n : Act κ τ Unit).Obeys (Notes P) :=
  fun _ => List.forall_mem_singleton.2 h

theorem notes_decide (h : ∀ v, P (.decided c id v)) :
    (decide c id d e : Act κ τ (Verdict κ)).Obeys (Notes P) :=
  fun _ => List.forall_mem_singleton.2 (h _)

theorem notes_commit {wish : Wish} (h : ∀ released, P (.committed c id wish released)) :
    (commit c id wish : Act κ τ Bool).Obeys (Notes P) :=
  fun _ => List.forall_mem_singleton.2 (h _)

theorem notes_markPending (h : P (.marked c id)) :
    (markPending c id : Act κ τ Bool).Obeys (Notes P) := by
  intro w
  rw [run_markPending]
  exact forall_mem_if h

theorem notes_insert {m : EventSet} {f : Filter} {program : κ} (h : ∀ id, P (.inserted c id)) :
    (insert c m f program : Act κ τ _).Obeys (Notes P) :=
  obeys_insert fun _ _ => List.forall_mem_singleton.2 (h _)

theorem notes_teardown (h : ∀ ids, P (.toreDown c ids)) :
    (teardown c : Act κ τ Nat).Obeys (Notes P) := by
  intro w
  rw [run_teardown]
  exact forall_mem_if (h _)

theorem notes_openHandle (h : ∀ k, P (.opened c k)) :
    (openHandle c d : Act κ τ OpenHandle).Obeys (Notes P) :=
  fun _ => List.forall_mem_singleton.2 (h _)

theorem notes_closeHandle (h : P (.closed c k.id)) :
    (closeHandle c k : Act κ τ Bool).Obeys (Notes P) :=
  obeys_closeHandle fun _ _ _ => List.forall_mem_singleton.2 h

theorem notes_disconnect (h : P (.disconnected c k)) :
    (disconnect c k : Act κ τ Bool).Obeys (Notes P) :=
  obeys_disconnect fun _ _ => forall_mem_givenUp h

theorem notes_visit (hdecided : ∀ v, P (.decided c id v)) (hdelivered : P (.delivered c id d e))
    (hcommitted : ∀ wish released, P (.committed c id wish released))
    (hr : ∀ inv, (host.react inv).Obeys (Notes P)) : (visit host c d e id).Obeys (Notes P) :=
  closed_obeys.visit (notes_decide hdecided)
    (fun _ => closed_obeys.invoke (notes_note hdelivered) hr)
    fun wish => notes_commit (hcommitted wish)

/-- What all notices but remarks have, the notices of every run have: no operation makes
a remark. -/
theorem notes_parts (h : ∀ n, (∀ l, n ≠ .remark l) → P n) :
    Parts fun _ (x : Act κ τ _) => x.Obeys (Notes P) where
  toClosed := closed_obeys
  decide := notes_decide fun _ => h _ nofun
  commit := notes_commit fun _ => h _ nofun
  markPending := notes_markPending (h _ nofun)
  insert := notes_insert fun _ => h _ nofun
  teardown := notes_teardown fun _ => h _ nofun
  attach := fun _ => List.forall_mem_singleton.2 (h _ nofun)
  detach := obeys_detach fun _ _ _ _ => List.forall_mem_singleton.2 (h _ nofun)
  openHandle := notes_openHandle fun _ => h _ nofun
  closeHandle := notes_closeHandle (h _ nofun)
  buses _ := fun _ => List.forall_mem_nil P
  delivered := notes_note (h _ nofun)
  registered := notes_note (h _ nofun)
  plugged := notes_note (h _ nofun)
  unplugged := notes_note (h _ nofun)
  notify hv :=
    closed_obeys.notify (notes_note (h _ nofun)) (fun _ => notes_note (h _ nofun))
      (closed_obeys.pass hv (closed_obeys.disconnectOn fun _ => notes_disconnect (h _ nofun)))

end Act
end DeviceWatch
