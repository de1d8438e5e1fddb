import StatementGate.Proofs.Gateway.Closing

/-! # Identities

As long as their numbers do not wrap, the requests of a gateway have identities of their own, and
what the audit trail holds under an identity was recorded by one request. Under that of a request
that has come to its end, returned or given up, it holds one execution event. -/

namespace StatementGate

variable {Connection : Type} {g : OpenGateway Connection}

theorem toList_requestId (n : Nat) :
    (requestId n).toList = 'r' :: 'e' :: 'q' :: '-' :: Nat.toDigits 10 n := by
  simp [requestId, Nat.toString_eq_repr]

theorem requestId_injective {m n : Nat} (h : requestId m = requestId n) : m = n := by
  have hlist := congrArg String.toList h
  simp only [toList_requestId, List.cons_inj_right] at hlist
  have hdigits := congrArg (Nat.ofDigitChars 10 · 0) hlist
  simpa using hdigits

namespace Traffic

/-- The execution events of all requests, in the order they were recorded. -/
def endings (t : Traffic) : List ExecuteEvent := t.log.filterMap fun entry => entry.2.ending?

/-- The requests are numbered in the order of their arrival. -/
def Numbered (t : Traffic) : Prop :=
  t.nextRequest = UInt64.ofNat (t.flights.length + 1) ∧
    ∀ i f, t.flights[i]? = some f → f.id = requestId (UInt64.ofNat (i + 1)).toNat

theorem Numbered.act {t : Traffic} (h : t.Numbered) (a : Action) : (t.act g a).Numbered := by
  obtain ⟨hnext, hids⟩ := h
  cases a with
  | tick => exact ⟨hnext, hids⟩
  | submit request =>
    refine ⟨?_, fun i f hf => ?_⟩
    · simp only [Traffic.act, List.length_append, List.length_singleton, hnext]
      exact (UInt64.ofNat_add _ _).symm
    · simp only [Traffic.act] at hf
      rcases Nat.lt_trichotomy i t.flights.length with hi | rfl | hi
      · rw [List.getElem?_append_left hi] at hf
        exact hids i f hf
      · rw [List.getElem?_concat_length] at hf
        cases hf
        rw [hnext]
      · rw [List.getElem?_eq_none (by simp; omega)] at hf
        cases hf
  | move j move =>
    rcases act_move g t j move with hact | ⟨f', seen, phase, hf', _, hact⟩
    · rw [hact]
      exact ⟨hnext, hids⟩
    · rw [hact]
      refine ⟨by rw [List.length_set]; exact hnext, fun i f hf => ?_⟩
      by_cases hij : j = i
      · subst hij
        rw [List.getElem?_set_self', hf'] at hf
        cases hf
        exact hids j f' hf'
      · rw [List.getElem?_set_ne hij] at hf
        exact hids i f hf

theorem numbered_after (actions : List Action) : (after g actions).Numbered := by
  have hstart : Numbered start := ⟨rfl, by simp [start]⟩
  exact List.foldlRecOn actions (act g) hstart fun _ h a _ => h.act a

theorem id_injective {actions : List Action}
    (hfew : (after g actions).flights.length < UInt64.size) {i j : Nat} {f f' : Flight}
    (hf : (after g actions).flights[i]? = some f)
    (hf' : (after g actions).flights[j]? = some f') (h : f.id = f'.id) : i = j := by
  have hi := (List.getElem?_eq_some_iff.1 hf).1
  have hj := (List.getElem?_eq_some_iff.1 hf').1
  have hnumbered : (after g actions).Numbered := numbered_after actions
  obtain ⟨_, hids⟩ := hnumbered
  rw [hids i f hf, hids j f' hf'] at h
  have hnumber := requestId_injective h
  rw [UInt64.toNat_ofNat_of_lt' (by omega), UInt64.toNat_ofNat_of_lt' (by omega)] at hnumber
  omega

/-- Each request puts its identity on the event that closes it. -/
theorem endings_signed (actions : List Action) :
    AllKeep (fun f history => ∀ e ∈ history.filterMap Observation.ending?, e.requestId = f.id)
      (after g actions).flights (after g actions).log := by
  refine (allKeep_allows actions).imp fun f history hallows e he => ?_
  obtain ⟨_, _, hcloses⟩ := (g.gateway.closes_handle f.id f.request).of_mem hallows he
  exact hcloses.concerns.requestId_eq

/-- Under the identity of the request stands one execution event. It is about this request, and says
of the approval what the result says, and that the request was abandoned if it was given up. -/
def ClosedOnce (t : Traffic) (i : Nat) (f : Flight) : Prop :=
  ∃ e, t.endings.filter (fun e => e.requestId = f.id) = [e] ∧ e.Concerns f.id f.request ∧
    (∀ result, .returned result ∈ t.history i → e.approved = result.approved) ∧
    (.abandoned ∈ t.history i → e.outcome = .rejected ∧ e.errorKind = some "abandoned")

end Traffic

/-- Requests do not share identities. Each ends by returning or by being given up, and then one
event closes it, however the requests took turns. -/
theorem closed_once {actions : List Action}
    (hfew : (Traffic.after g actions).flights.length < UInt64.size) :
    (∀ (i j : Nat) (f f' : Flight), (Traffic.after g actions).flights[i]? = some f →
      (Traffic.after g actions).flights[j]? = some f' → f.id = f'.id → i = j) ∧
    ∀ (i : Nat) (f : Flight), (Traffic.after g actions).flights[i]? = some f →
      (f.phase = .ended ↔
        (∃ result, .returned result ∈ (Traffic.after g actions).history i) ∨
          .abandoned ∈ (Traffic.after g actions).history i) ∧
      (f.phase = .ended → (Traffic.after g actions).ClosedOnce i f) := by
  refine ⟨fun i j f f' hf hf' => Traffic.id_injective hfew hf hf',
    fun i f hf => ⟨Traffic.ended_iff hf, fun hended => ?_⟩⟩
  have hclosed := (g.gateway.closes_handle f.id f.request).closedBy (Traffic.history_allowed hf)
  have hsome : ∃ e, ((Traffic.after g actions).history i).filterMap Observation.ending? =
      [e] ∧ e.Concerns f.id f.request := by
    rcases (Traffic.ended_iff hf).1 hended with ⟨result, hreturned⟩ | habandoned
    · obtain ⟨e, hending, hcloses⟩ := hclosed.returned result hreturned
      exact ⟨e, hending, hcloses.1⟩
    · obtain ⟨e, hending, hcloses⟩ := hclosed.abandoned habandoned
      exact ⟨e, hending, hcloses.1⟩
  obtain ⟨e, hending, hconcerns⟩ := hsome
  have hown : (Traffic.after g actions).endings.filter (fun e => e.requestId = f.id) =
      ((Traffic.after g actions).history i).filterMap Observation.ending? :=
    (Traffic.endings_signed actions).filter_eq hf fun j f' hf' h => Traffic.id_injective hfew hf' hf h
  rw [Traffic.ClosedOnce, hown]
  refine ⟨e, hending, hconcerns, fun result hreturned => ?_, fun habandoned => ?_⟩
  · obtain ⟨e', hending', _, haccords⟩ := hclosed.returned result hreturned
    obtain rfl : e = e' := List.singleton_inj.1 (hending ▸ hending')
    exact haccords.approved_eq
  · obtain ⟨e', hending', _, hrejected⟩ := hclosed.abandoned habandoned
    obtain rfl : e = e' := List.singleton_inj.1 (hending ▸ hending')
    exact hrejected

/-- Of two deletions that took turns, the executed one and the one that was given up are each closed
once. -/
theorem deletions_closed_once :
    ∃ f f', deletions.flights[0]? = some f ∧ deletions.flights[1]? = some f' ∧ f.id ≠ f'.id ∧
      .returned (.written 3 "req-1") ∈ deletions.history 0 ∧ deletions.ClosedOnce 0 f ∧
      .abandoned ∈ deletions.history 1 ∧ deletions.ClosedOnce 1 f' := by
  have hfew : deletions.flights.length < UInt64.size := by
    rw [deletions, after_deletions]
    decide
  have hreturned : .returned (.written 3 "req-1") ∈ deletions.history 0 := by
    rw [deletions, after_deletions]
    exact List.mem_of_getElem? (i := 13) rfl
  have habandoned : .abandoned ∈ deletions.history 1 := by
    rw [deletions, after_deletions]
    exact List.mem_of_getElem? (i := 3) rfl
  have hflights : ∃ f f', deletions.flights[0]? = some f ∧ deletions.flights[1]? = some f' := by
    rw [deletions, after_deletions]
    exact ⟨_, _, rfl, rfl⟩
  obtain ⟨f, f', hf, hf'⟩ := hflights
  obtain ⟨hdistinct, hclosed⟩ := closed_once hfew
  refine ⟨f, f', hf, hf', fun h => absurd (hdistinct 0 1 f f' hf hf' h) (by decide), hreturned,
    (hclosed 0 f hf).2 ?_, habandoned, (hclosed 1 f' hf').2 ?_⟩
  · exact (hclosed 0 f hf).1.2 (.inl ⟨_, hreturned⟩)
  · exact (hclosed 1 f' hf').1.2 (.inr habandoned)

end StatementGate
