import CodexRouter.Telemetry.Attempts

/-!
# The sinks of one record call
-/

open Js Runs

namespace CodexRouter.Telemetry

variable {E : Type}

/-! ## The sinks in order -/

/-- The record call gets to the sink. -/
def Tried (policy : TelemetryFanoutFailurePolicy) (ds : List (Delivery E)) (d : Delivery E) :
    Prop :=
  ∃ before after, ds = before ++ d :: after ∧
    (policy = .bestEffort ∨ ∀ earlier ∈ before, earlier.Resolves)

/-- The parts of a record call, sink after sink. -/
def recordEach (policy : TelemetryFanoutFailurePolicy) : List (Delivery E) → Recording E Unit
  | [] => pure ()
  | d :: rest => do
    Comp.handle d.recordWithPolicy fun error =>
      if policy = .bestEffort then pure () else Comp.lift (.error error)
    recordEach policy rest

section

variable {policy : TelemetryFanoutFailurePolicy} {d first : Delivery E} {rest ds : List (Delivery E)}

lemma tried_cons : Tried policy (first :: rest) d ↔
    d = first ∨ (policy = .bestEffort ∨ first.Resolves) ∧ Tried policy rest d := by
  constructor
  · intro ⟨before, after, hsplit, hpasses⟩
    cases before with
    | nil => exact Or.inl (List.cons.inj hsplit).1.symm
    | cons first' before =>
      obtain ⟨rfl, hrest⟩ := List.cons.inj hsplit
      exact Or.inr ⟨hpasses.imp_right fun h => h _ List.mem_cons_self, before, after, hrest,
        hpasses.imp_right fun h earlier hmem => h earlier (List.mem_cons_of_mem _ hmem)⟩
  · rintro (rfl | ⟨hfirst, before, after, rfl, hpasses⟩)
    · exact ⟨[], rest, rfl, Or.inr fun _ h => absurd h List.not_mem_nil⟩
    · refine ⟨first :: before, after, rfl, ?_⟩
      by_cases hbest : policy = .bestEffort
      · exact Or.inl hbest
      · refine Or.inr fun earlier hmem => ?_
        rcases List.mem_cons.mp hmem with rfl | hmem
        · exact hfirst.resolve_left hbest
        · exact hpasses.resolve_left hbest earlier hmem

lemma Tried.mem (h : Tried policy ds d) : d ∈ ds := by
  obtain ⟨before, after, rfl, -⟩ := h
  exact List.mem_append_right _ List.mem_cons_self

lemma logs_recordEach (ds : List (Delivery E)) : (recordEach policy ds).Logs := by
  induction ds with
  | nil => exact .pure _
  | cons first rest ih =>
    refine .bind (.handle (Delivery.logs_rounds _ _) fun error => ?_) fun _ => ih
    split_ifs
    · exact .pure _
    · exact .lift _

lemma recordEach_cons : recordEach policy (first :: rest) =
    (Comp.handle first.recordWithPolicy fun error =>
      if policy = .bestEffort then pure () else Comp.lift (.error error)) >>= fun _ =>
        recordEach policy rest := rfl

/-- Behind a sink that returns, or whose error does not count, the next ones follow. -/
lemma recordEach_of_passes (h : policy = .bestEffort ∨ first.Resolves) :
    recordEach policy (first :: rest) [] = ((recordEach policy rest []).1,
      (first.recordWithPolicy []).2 ++ (recordEach policy rest []).2) := by
  have hfirst : Comp.handle first.recordWithPolicy (fun error =>
      if policy = .bestEffort then pure () else Comp.lift (.error error)) [] =
        (.ok (), (first.recordWithPolicy []).2) := by
    rcases hrun : first.recordWithPolicy [] with ⟨e | ⟨⟩, steps⟩
    · rw [Comp.handle_of_error hrun]
      rcases h with h | h
      · rw [if_pos h]
        rfl
      · rw [← Delivery.recordWithPolicy_ok_iff, hrun] at h
        exact nomatch h
    · rw [Comp.handle_of_ok hrun]
  rw [recordEach_cons, Comp.bind_of_ok hfirst]
  exact logs_recordEach rest _

lemma recordEach_of_not_passes (h : ¬ (policy = .bestEffort ∨ first.Resolves)) :
    (∃ e, (recordEach policy (first :: rest) []).1 = .error e) ∧
      (recordEach policy (first :: rest) []).2 = (first.recordWithPolicy []).2 := by
  rw [not_or, ← Delivery.recordWithPolicy_ok_iff] at h
  rcases hrun : first.recordWithPolicy [] with ⟨e | ⟨⟩, steps⟩
  · have hfirst : Comp.handle first.recordWithPolicy (fun error =>
        if policy = .bestEffort then pure () else Comp.lift (.error error)) [] =
          (.error e, steps) := by
      rw [Comp.handle_of_error hrun, if_neg h.1]
      rfl
    rw [recordEach_cons, Comp.bind_of_error hfirst]
    exact ⟨⟨e, rfl⟩, rfl⟩
  · exact absurd (by rw [hrun]) h.2

lemma not_tried_nil : ¬ Tried policy [] d := by
  intro h
  exact absurd h.mem List.not_mem_nil

/-- The invocations of the whole are those of the sinks that it gets to. -/
lemma mem_invocations_recordEach {invocation : Invocation} :
    invocation ∈ invocations (recordEach policy ds []).2 ↔
      ∃ d, Tried policy ds d ∧ invocation ∈ invocations (d.recordWithPolicy []).2 := by
  induction ds with
  | nil =>
    constructor
    · intro h
      exact absurd h List.not_mem_nil
    · intro ⟨d, hd, _⟩
      exact absurd hd not_tried_nil
  | cons first rest ih =>
    by_cases hpasses : policy = .bestEffort ∨ first.Resolves
    · rw [recordEach_of_passes hpasses, invocations_append, List.mem_append, ih]
      constructor
      · rintro (h | ⟨d, hd, h⟩)
        · exact ⟨first, tried_cons.mpr (Or.inl rfl), h⟩
        · exact ⟨d, tried_cons.mpr (Or.inr ⟨hpasses, hd⟩), h⟩
      · intro ⟨d, hd, h⟩
        rcases tried_cons.mp hd with rfl | ⟨-, hd⟩
        · exact Or.inl h
        · exact Or.inr ⟨d, hd, h⟩
    · rw [(recordEach_of_not_passes hpasses).2]
      constructor
      · intro h
        exact ⟨first, tried_cons.mpr (Or.inl rfl), h⟩
      · intro ⟨d, hd, h⟩
        rcases tried_cons.mp hd with rfl | ⟨hd, -⟩
        · exact h
        · exact absurd hd hpasses

/-- The sinks come in the order of their indices. -/
def InOrder (ds : List (Delivery E)) : Prop := ds.Pairwise fun d e => d.sinkIndex < e.sinkIndex

/-- What is invoked behind a sink has a greater index. -/
lemma lt_of_mem_invocations (h : InOrder (first :: rest)) {earlier later : Invocation}
    (hearlier : earlier ∈ invocations (first.recordWithPolicy []).2)
    (hlater : later ∈ invocations (recordEach policy rest []).2) :
    earlier.sinkIndex < later.sinkIndex := by
  obtain ⟨d, hd, hmem⟩ := mem_invocations_recordEach.mp hlater
  rw [Delivery.sinkIndex_of_mem hearlier, Delivery.sinkIndex_of_mem hmem]
  exact (List.pairwise_cons.mp h).1 d hd.mem

lemma noneAfterSuccess_recordEach (h : InOrder ds) :
    NoneAfterSuccess (invocations (recordEach policy ds []).2) ↔
      ∀ d, Tried policy ds d → NoneAfterSuccess (invocations (d.recordWithPolicy []).2) := by
  induction ds with
  | nil => exact ⟨fun _ d hd => absurd hd not_tried_nil, fun _ => List.Pairwise.nil⟩
  | cons first rest ih =>
    have hrest := ih (List.pairwise_cons.mp h).2
    by_cases hpasses : policy = .bestEffort ∨ first.Resolves
    · have happend : NoneAfterSuccess (invocations (recordEach policy (first :: rest) []).2) ↔
          NoneAfterSuccess (invocations (first.recordWithPolicy []).2) ∧
            NoneAfterSuccess (invocations (recordEach policy rest []).2) := by
        rw [recordEach_of_passes hpasses, invocations_append]
        unfold NoneAfterSuccess
        rw [List.pairwise_append]
        constructor
        · exact fun h => ⟨h.1, h.2.1⟩
        · intro hboth
          refine ⟨hboth.1, hboth.2, fun earlier hearlier later hlater _ => ?_⟩
          exact (lt_of_mem_invocations h hearlier hlater).ne'
      rw [happend, hrest]
      constructor
      · intro ⟨hfirst, hrest⟩ d hd
        rcases tried_cons.mp hd with rfl | ⟨-, hd⟩
        · exact hfirst
        · exact hrest d hd
      · intro hall
        exact ⟨hall first (tried_cons.mpr (Or.inl rfl)),
          fun d hd => hall d (tried_cons.mpr (Or.inr ⟨hpasses, hd⟩))⟩
    · rw [(recordEach_of_not_passes hpasses).2]
      constructor
      · intro hfirst d hd
        rcases tried_cons.mp hd with rfl | ⟨hd, -⟩
        · exact hfirst
        · exact absurd hd hpasses
      · intro hall
        exact hall first (tried_cons.mpr (Or.inl rfl))

lemma pairwise_le_recordEach (h : InOrder ds) :
    ((invocations (recordEach policy ds []).2).map (·.sinkIndex)).Pairwise (· ≤ ·) := by
  have hone : ∀ d : Delivery E,
      ((invocations (d.recordWithPolicy []).2).map (·.sinkIndex)).Pairwise (· ≤ ·) := by
    intro d
    apply List.pairwise_of_forall_mem_list
    intro i hi j hj
    obtain ⟨earlier, hearlier, rfl⟩ := List.mem_map.mp hi
    obtain ⟨later, hlater, rfl⟩ := List.mem_map.mp hj
    rw [Delivery.sinkIndex_of_mem hearlier, Delivery.sinkIndex_of_mem hlater]
  induction ds with
  | nil => exact List.Pairwise.nil
  | cons first rest ih =>
    by_cases hpasses : policy = .bestEffort ∨ first.Resolves
    · rw [recordEach_of_passes hpasses, invocations_append, List.map_append, List.pairwise_append]
      refine ⟨hone first, ih (List.pairwise_cons.mp h).2, ?_⟩
      intro i hi j hj
      obtain ⟨earlier, hearlier, rfl⟩ := List.mem_map.mp hi
      obtain ⟨later, hlater, rfl⟩ := List.mem_map.mp hj
      exact (lt_of_mem_invocations h hearlier hlater).le
    · rw [(recordEach_of_not_passes hpasses).2]
      exact hone first

/-- A sink is invoked no more often than its attempts allow. -/
lemma timesInvoked_recordEach (h : InOrder ds) (hd : d ∈ ds) :
    timesInvoked d.sinkIndex (invocations (recordEach policy ds []).2) ≤ d.maxAttempts := by
  induction ds with
  | nil => exact absurd hd List.not_mem_nil
  | cons first rest ih =>
    have hlength : ∀ i, timesInvoked i (invocations (first.recordWithPolicy []).2) ≤
        first.maxAttempts :=
      fun i => List.countP_le_length.trans (Delivery.length_invocations_rounds _)
    have hother : ∀ made : List Invocation, (∀ invocation ∈ made,
        invocation.sinkIndex ≠ d.sinkIndex) → timesInvoked d.sinkIndex made = 0 := by
      intro made hmade
      exact List.countP_eq_zero.mpr fun invocation hmem =>
        by simpa using hmade invocation hmem
    have hindex := (List.pairwise_cons.mp h).1
    rcases List.mem_cons.mp hd with rfl | hd
    · by_cases hpasses : policy = .bestEffort ∨ d.Resolves
      · rw [recordEach_of_passes hpasses, invocations_append]
        unfold timesInvoked
        rw [List.countP_append]
        have hzero := hother (invocations (recordEach policy rest []).2) (by
          intro invocation hmem
          obtain ⟨e, he, hmem⟩ := mem_invocations_recordEach.mp hmem
          rw [Delivery.sinkIndex_of_mem hmem]
          exact (hindex e he.mem).ne')
        have hle := hlength d.sinkIndex
        unfold timesInvoked at hzero hle
        omega
      · rw [(recordEach_of_not_passes hpasses).2]
        exact hlength d.sinkIndex
    · have hzero := hother (invocations (first.recordWithPolicy []).2) (by
        intro invocation hmem
        rw [Delivery.sinkIndex_of_mem hmem]
        exact (hindex d hd).ne)
      by_cases hpasses : policy = .bestEffort ∨ first.Resolves
      · have hle := ih (List.pairwise_cons.mp h).2 hd
        rw [recordEach_of_passes hpasses, invocations_append]
        unfold timesInvoked at *
        rw [List.countP_append]
        omega
      · rw [(recordEach_of_not_passes hpasses).2]
        omega

/-- Under fail-fast the whole returns exactly where every sink's part does. -/
lemma recordEach_failFast : (recordEach .failFast ds []).1 = .ok () ↔ ∀ d ∈ ds, d.Resolves := by
  induction ds with
  | nil => exact iff_of_true rfl fun _ h => absurd h List.not_mem_nil
  | cons first rest ih =>
    rw [List.forall_mem_cons]
    by_cases hpasses : TelemetryFanoutFailurePolicy.failFast = .bestEffort ∨ first.Resolves
    · rw [recordEach_of_passes hpasses]
      show (recordEach .failFast rest []).1 = .ok () ↔ _
      rw [ih]
      exact ⟨fun h => ⟨hpasses.resolve_left nofun, h⟩, fun h => h.2⟩
    · obtain ⟨⟨e, he⟩, -⟩ := @recordEach_of_not_passes E _ first rest hpasses
      rw [he]
      exact ⟨nofun, fun h => absurd (Or.inr h.1) hpasses⟩

/-- Under best effort the whole returns. -/
lemma recordEach_bestEffort : (recordEach .bestEffort ds []).1 = .ok () := by
  induction ds with
  | nil => rfl
  | cons first rest ih =>
    rw [recordEach_of_passes (Or.inl rfl)]
    exact ih

lemma tried_bestEffort (h : d ∈ ds) : Tried .bestEffort ds d := by
  obtain ⟨before, after, rfl⟩ := List.append_of_mem h
  exact ⟨before, after, rfl, Or.inl rfl⟩

end

/-! ## The record call -/

namespace RecordCall

variable (c : RecordCall E)

/-- The collector and the hook never throw. -/
def Quiet : Prop := c.answers.dispatch = .ok () ∧
  ∀ sinkIndex attempt, (c.answers.attempts sinkIndex attempt).attempt = .ok () ∧
    (c.answers.attempts sinkIndex attempt).success = .ok () ∧
    (c.answers.attempts sinkIndex attempt).failure = .ok () ∧
    (c.answers.attempts sinkIndex attempt).onSinkError = .ok ()

/-- The `retries` of a sink. -/
def retries (sinkEntry : FanoutTelemetrySinkEntry) : ℤ :=
  (sinkEntry.retries.or c.options.defaultRetries).getD 0

end RecordCall

namespace Fanout

variable (f : Fanout E) (c : RecordCall E)

/-- The part of one sink. -/
def delivery (event : E) (sinkEntry : FanoutTelemetrySinkEntry) (sinkIndex : ℕ) : Delivery E where
  timeoutError := f.timeoutError
  sinkIndex := sinkIndex
  sinkEntry := sinkEntry
  options := c.options
  event := event
  answers := c.answers.attempts sinkIndex

/-- The parts of all sinks, in order. -/
def deliveries (event : E) : List (Delivery E) :=
  c.activeSinks.zipIdx.map fun (sinkEntry, sinkIndex) => f.delivery c event sinkEntry sinkIndex

variable {f c}

lemma deliverEach_eq (event : E) (sinkEntries : List FanoutTelemetrySinkEntry) (start : ℕ) :
    c.deliverEach (fun sinkEntry sinkIndex =>
        (f.delivery c event sinkEntry sinkIndex).recordWithPolicy) start sinkEntries =
      recordEach c.failurePolicy ((sinkEntries.zipIdx start).map fun (sinkEntry, sinkIndex) =>
        f.delivery c event sinkEntry sinkIndex) := by
  induction sinkEntries generalizing start with
  | nil => rfl
  | cons sinkEntry rest ih =>
    rw [List.zipIdx_cons, List.map_cons, recordEach_cons, ← ih]
    rfl

/-- Both fan-outs dispatch and then go from sink to sink. -/
lemma record_eq : f.record c = Comp.lift (f.accepted c) >>= fun event =>
    step (.told (.dispatch c.activeSinks.length)) c.answers.dispatch >>= fun _ =>
      recordEach c.failurePolicy (f.deliveries c event) := by
  unfold deliveries
  simp only [← deliverEach_eq]
  cases f <;> rfl

lemma record_of_not_accepted {e : Thrown} (h : f.accepted c = .error e) :
    f.record c [] = (.error e, []) := by
  rw [record_eq, h]
  rfl

lemma record_of_not_dispatched {e : Thrown} {event : E} (h : f.accepted c = .ok event)
    (hdispatch : c.answers.dispatch = .error e) :
    f.record c [] = (.error e, [.told (.dispatch c.activeSinks.length)]) := by
  rw [record_eq, h, hdispatch]
  rfl

lemma record_of_dispatched {event : E} (h : f.accepted c = .ok event)
    (hdispatch : c.answers.dispatch = .ok ()) :
    f.record c [] = ((recordEach c.failurePolicy (f.deliveries c event) []).1,
      .told (.dispatch c.activeSinks.length) ::
        (recordEach c.failurePolicy (f.deliveries c event) []).2) := by
  rw [record_eq, h, hdispatch]
  exact logs_recordEach _ [.told (.dispatch c.activeSinks.length)]

lemma mem_deliveries {event : E} {d : Delivery E} : d ∈ f.deliveries c event ↔
    ∃ sinkIndex sinkEntry, c.activeSinks[sinkIndex]? = some sinkEntry ∧
      d = f.delivery c event sinkEntry sinkIndex := by
  unfold deliveries
  rw [List.mem_map]
  constructor
  · intro ⟨⟨sinkEntry, sinkIndex⟩, hmem, hd⟩
    exact ⟨sinkIndex, sinkEntry, List.mem_zipIdx_iff_getElem?.mp hmem, hd.symm⟩
  · intro ⟨sinkIndex, sinkEntry, hmem, hd⟩
    exact ⟨(sinkEntry, sinkIndex), List.mem_zipIdx_iff_getElem?.mpr hmem, hd.symm⟩

lemma inOrder_deliveries (event : E) : InOrder (f.deliveries c event) := by
  have hfrom : ∀ (sinkEntries : List FanoutTelemetrySinkEntry) (start : ℕ),
      InOrder ((sinkEntries.zipIdx start).map fun (sinkEntry, sinkIndex) =>
        f.delivery c event sinkEntry sinkIndex) := by
    intro sinkEntries
    induction sinkEntries with
    | nil => exact fun _ => List.Pairwise.nil
    | cons sinkEntry rest ih =>
      intro start
      rw [List.zipIdx_cons, List.map_cons]
      refine List.pairwise_cons.mpr ⟨fun d hd => ?_, ih _⟩
      obtain ⟨⟨sinkEntry', sinkIndex⟩, hmem, rfl⟩ := List.mem_map.mp hd
      exact Nat.lt_of_succ_le (List.le_snd_of_mem_zipIdx hmem)
  exact hfrom _ 0

end Fanout

/-! ## Truthful delivery -/

/-- What a record call promises of its sinks. -/
structure Truthful (f : Fanout E) (c : RecordCall E) : Prop where
  noneAfterSuccess : NoneAfterSuccess (invocations (f.record c []).2)
  atMost : ∀ sinkIndex sinkEntry, c.activeSinks[sinkIndex]? = some sinkEntry →
    (timesInvoked sinkIndex (invocations (f.record c []).2) : ℤ) ≤ max 1 (c.retries sinkEntry + 1)
  failFast : c.Quiet → c.failurePolicy = .failFast → ((f.record c []).1 = .ok () ↔
    ∀ sinkIndex < c.activeSinks.length, Delivered sinkIndex (invocations (f.record c []).2))
  bestEffort : c.Quiet → c.failurePolicy = .bestEffort → (f.record c []).1 = .ok () ∧
    TriedInOrder c.activeSinks.length (invocations (f.record c []).2)

/-- No attempt that the call gets to is repeated behind the success of its sink. -/
def NeverRepeats (f : Fanout E) (c : RecordCall E) : Prop :=
  ∀ event, f.accepted c = .ok event → c.answers.dispatch = .ok () →
    ∀ d, Tried c.failurePolicy (f.deliveries c event) d →
      ∀ attempt, d.Invoked 1 attempt → ∀ e, ¬ d.Repeats attempt e

/-- The event can be sanitized, or the failure to do so stands for sinks that are not reached. -/
def Admits (f : Fanout E) (c : RecordCall E) : Prop :=
  c.Quiet → (∃ event, f.accepted c = .ok event) ∨
    c.failurePolicy = .failFast ∧ c.activeSinks ≠ []

section

variable {f : Fanout E} {c : RecordCall E} {event : E}

lemma delivery_unique {d e : Delivery E} (hd : d ∈ f.deliveries c event)
    (he : e ∈ f.deliveries c event) (h : d.sinkIndex = e.sinkIndex) : d = e := by
  obtain ⟨i, sinkEntry, hi, rfl⟩ := Fanout.mem_deliveries.mp hd
  obtain ⟨j, sinkEntry', hj, rfl⟩ := Fanout.mem_deliveries.mp he
  obtain rfl : i = j := h
  rw [Option.some.inj (hi.symm.trans hj)]

variable (f event) in
lemma exists_delivery {sinkIndex : ℕ} (h : sinkIndex < c.activeSinks.length) :
    ∃ d ∈ f.deliveries c event, d.sinkIndex = sinkIndex :=
  ⟨_, Fanout.mem_deliveries.mpr ⟨sinkIndex, _, List.getElem?_eq_getElem h, rfl⟩, rfl⟩

lemma sinkIndex_lt {d : Delivery E} (h : d ∈ f.deliveries c event) :
    d.sinkIndex < c.activeSinks.length := by
  obtain ⟨i, sinkEntry, hi, rfl⟩ := Fanout.mem_deliveries.mp h
  exact (List.getElem?_eq_some_iff.mp hi).1

lemma quiet_of_mem {d : Delivery E} (hquiet : c.Quiet) (h : d ∈ f.deliveries c event) :
    d.Quiet := by
  obtain ⟨i, sinkEntry, -, rfl⟩ := Fanout.mem_deliveries.mp h
  exact hquiet.2 i

/-- A sink had a successful invocation exactly where its part was tried and returned. -/
lemma delivered_iff (hquiet : c.Quiet) {d : Delivery E} (hd : d ∈ f.deliveries c event) :
    Delivered d.sinkIndex
        (invocations (recordEach c.failurePolicy (f.deliveries c event) []).2) ↔
      Tried c.failurePolicy (f.deliveries c event) d ∧ d.Resolves := by
  rw [(quiet_of_mem hquiet hd).resolves_iff]
  unfold Delivered
  rw [mem_invocations_recordEach]
  constructor
  · intro ⟨e, he, hmem⟩
    obtain rfl : d = e := delivery_unique hd he.mem (Delivery.sinkIndex_of_mem hmem)
    exact ⟨he, hmem⟩
  · intro ⟨htried, hmem⟩
    exact ⟨d, htried, hmem⟩

lemma failFast_of_dispatched (hquiet : c.Quiet) (h : f.accepted c = .ok event)
    (hpolicy : c.failurePolicy = .failFast) : (f.record c []).1 = .ok () ↔
      ∀ sinkIndex < c.activeSinks.length, Delivered sinkIndex (invocations (f.record c []).2) := by
  have hmade : invocations (f.record c []).2 =
      invocations (recordEach c.failurePolicy (f.deliveries c event) []).2 := by
    rw [Fanout.record_of_dispatched h hquiet.1]
    rfl
  have hresult : (f.record c []).1 = .ok () ↔ ∀ d ∈ f.deliveries c event, d.Resolves := by
    rw [Fanout.record_of_dispatched h hquiet.1, hpolicy]
    exact recordEach_failFast
  rw [hresult, hmade]
  constructor
  · intro hall sinkIndex hlt
    obtain ⟨d, hd, rfl⟩ := exists_delivery f event hlt
    obtain ⟨before, after, hsplit⟩ := List.append_of_mem hd
    refine (delivered_iff hquiet hd).mpr ⟨⟨before, after, hsplit, Or.inr ?_⟩, hall d hd⟩
    intro earlier hearlier
    apply hall
    rw [hsplit]
    exact List.mem_append_left _ hearlier
  · intro hall d hd
    exact ((delivered_iff hquiet hd).mp (hall _ (sinkIndex_lt hd))).2

lemma bestEffort_of_dispatched (hquiet : c.Quiet) (h : f.accepted c = .ok event)
    (hpolicy : c.failurePolicy = .bestEffort) : (f.record c []).1 = .ok () ∧
      TriedInOrder c.activeSinks.length (invocations (f.record c []).2) := by
  rw [Fanout.record_of_dispatched h hquiet.1, hpolicy]
  refine ⟨recordEach_bestEffort, pairwise_le_recordEach (Fanout.inOrder_deliveries event), ?_⟩
  intro sinkIndex
  show sinkIndex ∈ (invocations (recordEach .bestEffort (f.deliveries c event) []).2).map
    (·.sinkIndex) ↔ _
  rw [List.mem_map]
  constructor
  · intro ⟨invocation, hmem, hindex⟩
    obtain ⟨d, hd, hmem⟩ := mem_invocations_recordEach.mp hmem
    rw [← hindex, Delivery.sinkIndex_of_mem hmem]
    exact sinkIndex_lt hd.mem
  · intro hlt
    obtain ⟨d, hd, rfl⟩ := exists_delivery f event hlt
    have hbegins : d.Begins 1 := (quiet_of_mem hquiet hd 1).1
    refine ⟨⟨d.sinkIndex, d.outcome 1⟩, mem_invocations_recordEach.mpr ⟨d, tried_bestEffort hd,
      Delivery.mem_invocations_recordWithPolicy.mpr ⟨1, Delivery.invoked_first hbegins, rfl⟩⟩, rfl⟩

lemma atMost_of_dispatched (hdispatch : c.answers.dispatch = .ok ()) (h : f.accepted c = .ok event)
    {sinkIndex : ℕ} {sinkEntry : FanoutTelemetrySinkEntry}
    (hsink : c.activeSinks[sinkIndex]? = some sinkEntry) :
    (timesInvoked sinkIndex (invocations (f.record c []).2) : ℤ) ≤
      max 1 (c.retries sinkEntry + 1) := by
  have hmem : f.delivery c event sinkEntry sinkIndex ∈ f.deliveries c event :=
    Fanout.mem_deliveries.mpr ⟨sinkIndex, sinkEntry, hsink, rfl⟩
  have hle : timesInvoked sinkIndex
      (invocations (recordEach c.failurePolicy (f.deliveries c event) []).2) ≤
        (f.delivery c event sinkEntry sinkIndex).maxAttempts :=
    timesInvoked_recordEach (Fanout.inOrder_deliveries event) hmem
  have hmax : ((f.delivery c event sinkEntry sinkIndex).maxAttempts : ℤ) =
      max 1 (c.retries sinkEntry + 1) :=
    Int.toNat_of_nonneg ((by decide : (0 : ℤ) ≤ 1).trans (le_max_left _ _))
  rw [Fanout.record_of_dispatched h hdispatch, ← hmax]
  exact Nat.cast_le.mpr hle

lemma noneAfterSuccess_of_dispatched (hdispatch : c.answers.dispatch = .ok ())
    (h : f.accepted c = .ok event) : NoneAfterSuccess (invocations (f.record c []).2) ↔
      ∀ d, Tried c.failurePolicy (f.deliveries c event) d →
        ∀ attempt, d.Invoked 1 attempt → ∀ e, ¬ d.Repeats attempt e := by
  rw [Fanout.record_of_dispatched h hdispatch]
  show NoneAfterSuccess
    (invocations (recordEach c.failurePolicy (f.deliveries c event) []).2) ↔ _
  rw [noneAfterSuccess_recordEach (Fanout.inOrder_deliveries event)]
  exact forall₂_congr fun d _ => Delivery.noneAfterSuccess_recordWithPolicy

/-- A call that gets to no sink. -/
lemma truthful_of_nothing (h : invocations (f.record c []).2 = []) (hquiet : ¬ c.Quiet) :
    Truthful f c := by
  refine ⟨?_, fun sinkIndex sinkEntry _ => ?_, fun hq => absurd hq hquiet,
    fun hq => absurd hq hquiet⟩
  · rw [h]
    exact List.Pairwise.nil
  · rw [h]
    exact (by decide : (0 : ℤ) ≤ 1).trans (le_max_left _ _)

/-- Delivery is truthful exactly where no success is repeated and the event is admitted. -/
theorem truthful_iff : Truthful f c ↔ NeverRepeats f c ∧ Admits f c := by
  rcases haccepted : f.accepted c with e | event
  · have hmade : invocations (f.record c []).2 = [] := by
      rw [Fanout.record_of_not_accepted haccepted]
      rfl
    have hresult : (f.record c []).1 ≠ .ok () := by
      rw [Fanout.record_of_not_accepted haccepted]
      exact nofun
    have hrepeats : NeverRepeats f c := by
      intro event h
      rw [haccepted] at h
      exact nomatch h
    constructor
    · intro htruthful
      refine ⟨hrepeats, fun hquiet => Or.inr ?_⟩
      cases hpolicy : c.failurePolicy with
      | failFast =>
        refine ⟨rfl, fun hnil => hresult ?_⟩
        rw [htruthful.failFast hquiet hpolicy, hnil]
        exact fun _ h => absurd h (Nat.not_lt_zero _)
      | bestEffort => exact absurd (htruthful.bestEffort hquiet hpolicy).1 hresult
    · intro ⟨_, hadmits⟩
      by_cases hquiet : c.Quiet
      · rcases hadmits hquiet with ⟨event, h⟩ | ⟨hpolicy, hne⟩
        · rw [haccepted] at h
          exact nomatch h
        · refine ⟨?_, fun sinkIndex sinkEntry _ => ?_, fun _ _ => ?_, fun _ hbest => ?_⟩
          · rw [hmade]
            exact List.Pairwise.nil
          · rw [hmade]
            exact (by decide : (0 : ℤ) ≤ 1).trans (le_max_left _ _)
          · refine iff_of_false hresult fun hall => ?_
            have hfirst := hall 0 (List.length_pos_iff.mpr hne)
            rw [hmade] at hfirst
            exact absurd hfirst List.not_mem_nil
          · rw [hpolicy] at hbest
            exact nomatch hbest
      · exact truthful_of_nothing hmade hquiet
  · rcases hdispatch : c.answers.dispatch with e | ⟨⟩
    · have hquiet : ¬ c.Quiet := by
        intro hquiet
        have h := hquiet.1
        rw [hdispatch] at h
        exact nomatch h
      have hmade : invocations (f.record c []).2 = [] := by
        rw [Fanout.record_of_not_dispatched haccepted hdispatch]
        rfl
      refine iff_of_true (truthful_of_nothing hmade hquiet) ⟨?_, fun h => absurd h hquiet⟩
      intro _ _ h
      rw [hdispatch] at h
      exact nomatch h
    · have hnone := noneAfterSuccess_of_dispatched hdispatch haccepted
      constructor
      · intro htruthful
        refine ⟨?_, fun _ => Or.inl ⟨event, haccepted⟩⟩
        intro event' h _
        obtain rfl := Except.ok.inj (haccepted.symm.trans h)
        exact hnone.mp htruthful.noneAfterSuccess
      · intro ⟨hrepeats, _⟩
        exact ⟨hnone.mpr (hrepeats event haccepted hdispatch),
          fun _ _ hsink => atMost_of_dispatched hdispatch haccepted hsink,
          fun hquiet hpolicy => failFast_of_dispatched hquiet haccepted hpolicy,
          fun hquiet hpolicy => bestEffort_of_dispatched hquiet haccepted hpolicy⟩

end

end CodexRouter.Telemetry
