import CodexRouter.Telemetry.Fanout

/-!
# The attempts of one sink

What one round of the loop does, and from it which attempts the loop gets to.
-/

open Js Runs

namespace CodexRouter.Telemetry

variable {E : Type}

/-! ## One attempt -/

namespace Delivery

variable (d : Delivery E) (attempt : ℕ)

/-- The collector lets the attempt begin. -/
def Begins : Prop := (d.answers attempt).attempt = .ok ()

/-- What the `try` of the attempt throws: the sink, or the report of its success. -/
def Throws (e : Thrown) : Prop :=
  d.outcome attempt = .error e ∨
    d.outcome attempt = .ok () ∧ (d.answers attempt).success = .error e

/-- Behind this thrown value the loop goes on. -/
structure Retries (e : Thrown) : Prop where
  readable : e ≠ .unreadable
  failure : (d.answers attempt).failure = .ok ()
  onSinkError : (d.answers attempt).onSinkError = .ok ()
  left : attempt < d.maxAttempts

def GoesOn : Prop := d.Begins attempt ∧ ∃ e, d.Throws attempt e ∧ d.Retries attempt e

/-- The sink took the event, and the collector the report of that. -/
def Settles : Prop :=
  d.Begins attempt ∧ d.outcome attempt = .ok () ∧ (d.answers attempt).success = .ok ()

variable {d attempt}

lemma logs_recover (e : Thrown) : (d.recover attempt e).Logs := by
  unfold recover
  refine .bind (.lift _) fun message => .bind (logs_step _ _) fun _ => .bind (logs_step _ _)
    fun _ => ?_
  split_ifs
  · exact .lift _
  · exact logs_step _ _
  · exact .pure _

lemma logs_deliver : (d.deliver attempt).Logs :=
  .bind (logs_step _ _) fun _ => logs_step _ _

lemma logs_round : (d.round attempt).Logs :=
  .bind (logs_step _ _) fun _ => .handle (.bind logs_deliver fun _ => .pure _)
    fun _ => .bind (logs_recover _) fun _ => .pure _

lemma logs_rounds (attempt left : ℕ) : (d.rounds attempt left).Logs := by
  induction left generalizing attempt with
  | zero => exact .pure _
  | succ left ih =>
    refine .bind logs_round fun goesOn => ?_
    cases goesOn
    · exact .pure _
    · exact ih _

lemma readable_iff {e : Thrown} :
    e ≠ .unreadable ↔ ∃ message, formatTelemetryErrorMessage e = .ok message := by
  cases e <;> simp [formatTelemetryErrorMessage]

/-- The handler calls no sink, and tells one failure of what it can read. -/
lemma recover_spec (e : Thrown) :
    invocations (d.recover attempt e []).2 = [] ∧
      ((d.recover attempt e []).1 = .ok () ↔ d.Retries attempt e) ∧
      reports (d.recover attempt e []).2 = match formatTelemetryErrorMessage e with
        | .ok message => [.failure d.sinkIndex d.sinkEntry.label
            (isTimeoutError d.timeoutError e) message]
        | .error _ => [] := by
  have hretries : d.Retries attempt e ↔ (∃ message, formatTelemetryErrorMessage e = .ok message) ∧
      (d.answers attempt).failure = .ok () ∧ (d.answers attempt).onSinkError = .ok () ∧
        attempt < d.maxAttempts := by
    rw [← readable_iff]
    exact ⟨fun h => ⟨h.readable, h.failure, h.onSinkError, h.left⟩, fun h => ⟨h.1, h.2.1, h.2.2.1,
      h.2.2.2⟩⟩
  rw [hretries]
  unfold recover
  rcases formatTelemetryErrorMessage e with e' | message
  · simp [Comp.bind_apply, Comp.lift, invocations, reports]
  · rcases (d.answers attempt).failure with e' | ⟨⟩
    · simp [Comp.bind_apply, Comp.lift, step, invocations, reports]
    · rcases (d.answers attempt).onSinkError with e' | ⟨⟩
      · simp [Comp.bind_apply, Comp.lift, step, invocations, reports]
      · by_cases hleft : attempt < d.maxAttempts
        · by_cases hdelay : 0 < d.retryDelayMs.value
          · simp [Comp.bind_apply, Comp.lift, step, invocations, reports, hleft, hdelay]
          · simp [Comp.bind_apply, Comp.pure_apply, Comp.lift, step, invocations, reports, hleft,
              hdelay]
        · simp [Comp.bind_apply, Comp.lift, step, invocations, reports, hleft]

/-- An attempt that the collector does not let begin. -/
lemma round_of_not_begins (h : ¬ d.Begins attempt) :
    ∃ e, d.round attempt [] =
      (.error e, [.told (.attempt d.sinkIndex d.sinkEntry.label attempt)]) := by
  unfold Begins at h
  unfold round
  rcases hattempt : (d.answers attempt).attempt with e | ⟨⟩
  · exact ⟨e, by rw [Comp.bind_of_error]; simp [step]⟩
  · exact absurd hattempt h

lemma round_of_settles (h : d.Settles attempt) :
    d.round attempt [] = (.ok false, [.told (.attempt d.sinkIndex d.sinkEntry.label attempt),
      .invoked ⟨d.sinkIndex, .ok ()⟩ d.event, .told (.success d.sinkIndex d.sinkEntry.label)]) := by
  obtain ⟨hbegins, houtcome, hsuccess⟩ := h
  unfold Begins at hbegins
  unfold round deliver
  rw [hbegins, houtcome, hsuccess]
  rfl

/-- The steps of an attempt that throws: the handler's go behind those of the `try`. -/
lemma round_of_throws {e : Thrown} (hbegins : d.Begins attempt) (h : d.Throws attempt e) :
    ∃ told : List (Step E), d.round attempt [] =
        ((d.recover attempt e []).1.map fun _ => true,
          .told (.attempt d.sinkIndex d.sinkEntry.label attempt) ::
            .invoked ⟨d.sinkIndex, d.outcome attempt⟩ d.event ::
              (told ++ (d.recover attempt e []).2)) ∧
      invocations told = [] ∧
      reports told = if d.outcome attempt = .ok () then [.success d.sinkIndex d.sinkEntry.label]
        else [] := by
  unfold Begins at hbegins
  have htry : ∃ told : List (Step E), d.deliver attempt [] =
        (.error e, .invoked ⟨d.sinkIndex, d.outcome attempt⟩ d.event :: told) ∧
      invocations told = [] ∧
      reports told = if d.outcome attempt = .ok () then [.success d.sinkIndex d.sinkEntry.label]
        else [] := by
    unfold deliver
    rcases h with houtcome | ⟨houtcome, hsuccess⟩
    · exact ⟨[], by rw [houtcome]; exact ⟨rfl, rfl, rfl⟩⟩
    · refine ⟨[.told (.success d.sinkIndex d.sinkEntry.label)], ?_⟩
      rw [houtcome, hsuccess]
      exact ⟨rfl, rfl, rfl⟩
  obtain ⟨told, hdeliver, hinvocations, hreports⟩ := htry
  refine ⟨told, ?_, hinvocations, hreports⟩
  have hbody : (do d.deliver attempt; return false : Recording E Bool) [] =
      (.error e, .invoked ⟨d.sinkIndex, d.outcome attempt⟩ d.event :: told) :=
    Comp.bind_of_error hdeliver
  have hhandler : ∀ e, (do d.recover attempt e; return true : Recording E Bool).Logs :=
    fun e => .bind (logs_recover e) fun _ => .pure _
  have hrest : (do d.recover attempt e; return true : Recording E Bool) [] =
      ((d.recover attempt e []).1.map fun _ => true, (d.recover attempt e []).2) := by
    rw [Comp.bind_apply]
    rcases d.recover attempt e [] with ⟨e' | a, steps⟩ <;> rfl
  unfold round
  rw [Comp.Logs.bind_nil fun _ => .handle (.bind logs_deliver fun _ => .pure _) hhandler]
  unfold step
  rw [hbegins]
  dsimp only
  rw [Comp.Logs.handle_nil hhandler, hbody]
  dsimp only
  rw [hrest]
  rfl

lemma throws_or_settles (h : d.Begins attempt) :
    (∃ e, d.Throws attempt e) ∨ d.Settles attempt := by
  rcases houtcome : d.outcome attempt with e | ⟨⟩
  · exact Or.inl ⟨e, Or.inl houtcome⟩
  · rcases hsuccess : (d.answers attempt).success with e | ⟨⟩
    · exact Or.inl ⟨e, Or.inr ⟨houtcome, hsuccess⟩⟩
    · exact Or.inr ⟨h, houtcome, hsuccess⟩

lemma throws_unique {e e' : Thrown} (h : d.Throws attempt e) (h' : d.Throws attempt e') :
    e = e' := by
  unfold Throws at h h'
  rcases h with h | ⟨h, hs⟩ <;> rcases h' with h' | ⟨h', hs'⟩
  · exact Except.error.inj (h.symm.trans h')
  · rw [h] at h'
    exact nomatch h'
  · rw [h] at h'
    exact nomatch h'
  · exact Except.error.inj (hs.symm.trans hs')

lemma not_throws_of_settles (h : d.Settles attempt) {e : Thrown} : ¬ d.Throws attempt e := by
  rintro (he | ⟨-, he⟩)
  · rw [h.2.1] at he
    exact nomatch he
  · rw [h.2.2] at he
    exact nomatch he

/-- An attempt that begins calls its sink once. -/
lemma invocations_round (h : d.Begins attempt) :
    invocations (d.round attempt []).2 = [⟨d.sinkIndex, d.outcome attempt⟩] := by
  rcases throws_or_settles h with ⟨e, he⟩ | hsettles
  · obtain ⟨told, hround, htold, -⟩ := round_of_throws h he
    rw [hround]
    show ⟨d.sinkIndex, d.outcome attempt⟩ :: invocations (told ++ _) = _
    rw [invocations_append, htold, (recover_spec e).1]
    rfl
  · rw [round_of_settles hsettles, hsettles.2.1]
    rfl

lemma invocations_round_of_not (h : ¬ d.Begins attempt) :
    invocations (d.round attempt []).2 = [] := by
  obtain ⟨e, he⟩ := round_of_not_begins h
  rw [he]
  rfl

lemma round_goesOn_iff : (d.round attempt []).1 = .ok true ↔ d.GoesOn attempt := by
  by_cases hbegins : d.Begins attempt
  · rcases throws_or_settles hbegins with ⟨e, he⟩ | hsettles
    · obtain ⟨told, hround, -⟩ := round_of_throws hbegins he
      have hgoes : d.GoesOn attempt ↔ d.Retries attempt e :=
        ⟨fun ⟨_, e', he', hretries⟩ => throws_unique he he' ▸ hretries,
          fun hretries => ⟨hbegins, e, he, hretries⟩⟩
      rw [hround, hgoes, ← (recover_spec e).2.1]
      rcases (d.recover attempt e []).1 with e' | ⟨⟩ <;> simp [Except.map]
    · rw [round_of_settles hsettles]
      exact ⟨nofun, fun ⟨_, e, he, _⟩ => absurd he (not_throws_of_settles hsettles)⟩
  · obtain ⟨e, he⟩ := round_of_not_begins hbegins
    rw [he]
    exact ⟨nofun, fun h => absurd h.1 hbegins⟩

lemma round_settles_iff : (d.round attempt []).1 = .ok false ↔ d.Settles attempt := by
  by_cases hbegins : d.Begins attempt
  · rcases throws_or_settles hbegins with ⟨e, he⟩ | hsettles
    · obtain ⟨told, hround, -⟩ := round_of_throws hbegins he
      rw [hround]
      refine ⟨fun h => ?_, fun h => absurd he (not_throws_of_settles h)⟩
      revert h
      rcases (d.recover attempt e []).1 with e' | ⟨⟩ <;> simp [Except.map]
    · rw [round_of_settles hsettles]
      exact ⟨fun _ => hsettles, fun _ => rfl⟩
  · obtain ⟨e, he⟩ := round_of_not_begins hbegins
    rw [he]
    exact ⟨nofun, fun h => absurd h.1 hbegins⟩

/-! ## The loop -/

variable (d) in
/-- From an attempt on, the loop gets to another one. -/
def Reached (start attempt : ℕ) : Prop := ∀ j, start ≤ j → j < attempt → d.GoesOn j

variable (d) in
/-- The attempt in which the loop, from an attempt on, calls the sink. -/
def Invoked (start attempt : ℕ) : Prop :=
  start ≤ attempt ∧ d.Reached start attempt ∧ d.Begins attempt

lemma rounds_succ (left : ℕ) : d.rounds attempt (left + 1) =
    d.round attempt >>= fun goesOn => if goesOn then d.rounds (attempt + 1) left else pure () :=
  rfl

lemma rounds_of_goesOn {left : ℕ} (h : d.GoesOn attempt) :
    d.rounds attempt (left + 1) [] = ((d.rounds (attempt + 1) left []).1,
      (d.round attempt []).2 ++ (d.rounds (attempt + 1) left []).2) := by
  have hround : d.round attempt [] = (.ok true, (d.round attempt []).2) := by
    rw [← round_goesOn_iff.mpr h]
  rw [rounds_succ, Comp.bind_of_ok hround]
  exact logs_rounds _ _ _

lemma rounds_of_not_goesOn {left : ℕ} (h : ¬ d.GoesOn attempt) :
    (d.rounds attempt (left + 1) []).2 = (d.round attempt []).2 ∧
      ((d.rounds attempt (left + 1) []).1 = .ok () ↔ d.Settles attempt) := by
  rw [← round_settles_iff, rounds_succ]
  rcases hround : d.round attempt [] with ⟨e | goesOn, steps⟩
  · rw [Comp.bind_of_error hround]
    exact ⟨rfl, by simp⟩
  · rw [Comp.bind_of_ok hround]
    cases goesOn
    · exact ⟨rfl, by simp [Comp.pure_apply]⟩
    · exact absurd (round_goesOn_iff.mp (by rw [hround])) h

/-- The loop gets to an attempt at once, or behind its first one. -/
lemma invoked_iff {start : ℕ} : d.Invoked start attempt ↔
    attempt = start ∧ d.Begins start ∨ d.GoesOn start ∧ d.Invoked (start + 1) attempt := by
  constructor
  · intro ⟨hle, hreached, hbegins⟩
    rcases Nat.eq_or_lt_of_le hle with rfl | hlt
    · exact Or.inl ⟨rfl, hbegins⟩
    · exact Or.inr ⟨hreached start le_rfl hlt, hlt,
        fun j hj => hreached j (Nat.le_of_succ_le hj), hbegins⟩
  · rintro (⟨rfl, hbegins⟩ | ⟨hgoes, hle, hreached, hbegins⟩)
    · exact ⟨le_rfl, fun j hj hlt => absurd hj (Nat.not_le_of_lt hlt), hbegins⟩
    · refine ⟨Nat.le_of_succ_le hle, fun j hj hlt => ?_, hbegins⟩
      rcases Nat.eq_or_lt_of_le hj with rfl | hj
      · exact hgoes
      · exact hreached j hj hlt

/-- No attempt goes on behind the last one. -/
lemma Invoked.le_maxAttempts {start : ℕ} (h : d.Invoked start attempt)
    (hstart : start ≤ d.maxAttempts) : attempt ≤ d.maxAttempts := by
  rcases Nat.eq_or_lt_of_le h.1 with rfl | hlt
  · exact hstart
  · obtain ⟨-, e, -, hretries⟩ := h.2.1 (attempt - 1) (by omega) (by omega)
    have hleft := hretries.left
    omega

/-- The invocations of the loop are those of the attempts that it gets to. -/
lemma mem_invocations_rounds {left : ℕ} {invocation : Invocation} :
    invocation ∈ invocations (d.rounds attempt left []).2 ↔
      ∃ k, d.Invoked attempt k ∧ k < attempt + left ∧
        invocation = ⟨d.sinkIndex, d.outcome k⟩ := by
  induction left generalizing attempt with
  | zero =>
    constructor
    · intro h
      exact absurd h List.not_mem_nil
    · intro ⟨k, hk, hlt, _⟩
      exact absurd hk.1 (by omega)
  | succ left ih =>
    by_cases hgoes : d.GoesOn attempt
    · rw [rounds_of_goesOn hgoes, invocations_append, invocations_round hgoes.1, List.mem_append,
        List.mem_singleton, ih]
      constructor
      · rintro (h | ⟨k, hk, hlt, h⟩)
        · exact ⟨attempt, invoked_iff.mpr (Or.inl ⟨rfl, hgoes.1⟩), by omega, h⟩
        · exact ⟨k, invoked_iff.mpr (Or.inr ⟨hgoes, hk⟩), by omega, h⟩
      · intro ⟨k, hk, hlt, h⟩
        rcases invoked_iff.mp hk with ⟨rfl, -⟩ | ⟨-, hk⟩
        · exact Or.inl h
        · exact Or.inr ⟨k, hk, by omega, h⟩
    · rw [(rounds_of_not_goesOn hgoes).1]
      by_cases hbegins : d.Begins attempt
      · rw [invocations_round hbegins, List.mem_singleton]
        constructor
        · intro h
          exact ⟨attempt, invoked_iff.mpr (Or.inl ⟨rfl, hbegins⟩), by omega, h⟩
        · intro ⟨k, hk, _, h⟩
          rcases invoked_iff.mp hk with ⟨rfl, -⟩ | ⟨hk, -⟩
          · exact h
          · exact absurd hk hgoes
      · rw [invocations_round_of_not hbegins]
        constructor
        · intro h
          exact absurd h List.not_mem_nil
        · intro ⟨k, hk, _⟩
          rcases invoked_iff.mp hk with ⟨-, hk⟩ | ⟨hk, -⟩
          · exact absurd hk hbegins
          · exact absurd hk hgoes

lemma sinkIndex_of_mem {left : ℕ} {invocation : Invocation}
    (h : invocation ∈ invocations (d.rounds attempt left []).2) :
    invocation.sinkIndex = d.sinkIndex := by
  obtain ⟨k, -, -, rfl⟩ := mem_invocations_rounds.mp h
  rfl

/-- A round calls the sink once at most. -/
lemma length_invocations_rounds (left : ℕ) :
    (invocations (d.rounds attempt left []).2).length ≤ left := by
  have hround : ∀ attempt, (invocations (d.round attempt []).2).length ≤ 1 := by
    intro attempt
    by_cases hbegins : d.Begins attempt
    · rw [invocations_round hbegins]
      exact le_rfl
    · rw [invocations_round_of_not hbegins]
      exact Nat.zero_le 1
  induction left generalizing attempt with
  | zero => exact le_rfl
  | succ left ih =>
    by_cases hgoes : d.GoesOn attempt
    · rw [rounds_of_goesOn hgoes, invocations_append, List.length_append]
      have hfirst := hround attempt
      have hrest := @ih (attempt + 1)
      omega
    · rw [(rounds_of_not_goesOn hgoes).1]
      exact (hround attempt).trans (by omega)

/-- The collector throws at the report of a success, and yet neither it nor the hook throws again
before the next attempt. -/
structure Repeats (d : Delivery E) (attempt : ℕ) (e : Thrown) : Prop where
  outcome : d.outcome attempt = .ok ()
  success : (d.answers attempt).success = .error e
  retries : d.Retries attempt e
  begins : d.Begins (attempt + 1)

/-- The loop calls its sink behind a success exactly where it repeats an attempt. -/
lemma noneAfterSuccess_rounds {left : ℕ} (h : attempt + left = d.maxAttempts + 1) :
    NoneAfterSuccess (invocations (d.rounds attempt left []).2) ↔
      ∀ k, d.Invoked attempt k → ∀ e, ¬ d.Repeats k e := by
  induction left generalizing attempt with
  | zero =>
    refine ⟨fun _ k hk e hrepeats => ?_, fun _ => List.Pairwise.nil⟩
    have hleft := hrepeats.retries.left
    have hle := hk.1
    omega
  | succ left ih =>
    by_cases hgoes : d.GoesOn attempt
    · have hrest := @ih (attempt + 1) (by omega)
      obtain ⟨-, e, he, hretries⟩ := id hgoes
      have hfirst : (∀ later ∈ invocations (d.rounds (attempt + 1) left []).2,
          d.outcome attempt = .ok () → later.sinkIndex ≠ d.sinkIndex) ↔
            ∀ e, ¬ d.Repeats attempt e := by
        constructor
        · intro hnone e' hrepeats
          have hbegins : d.Invoked (attempt + 1) (attempt + 1) :=
            invoked_iff.mpr (Or.inl ⟨rfl, hrepeats.begins⟩)
          have hleft := hrepeats.retries.left
          exact hnone _ (mem_invocations_rounds.mpr ⟨_, hbegins, by omega, rfl⟩)
            hrepeats.outcome rfl
        · intro hnone later hlater houtcome
          obtain ⟨k, hk, -⟩ := mem_invocations_rounds.mp hlater
          have hbegins : d.Begins (attempt + 1) := by
            rcases invoked_iff.mp hk with ⟨-, hbegins⟩ | ⟨hgoes, -⟩
            · exact hbegins
            · exact hgoes.1
          have hsuccess : (d.answers attempt).success = .error e := by
            rcases he with he | he
            · rw [houtcome] at he
              exact nomatch he
            · exact he.2
          exact absurd ⟨houtcome, hsuccess, hretries, hbegins⟩ (hnone e)
      unfold NoneAfterSuccess at *
      rw [rounds_of_goesOn hgoes, invocations_append, invocations_round hgoes.1,
        List.singleton_append, List.pairwise_cons, hfirst, hrest]
      constructor
      · intro ⟨hfirst, hrest⟩ k hk
        rcases invoked_iff.mp hk with ⟨rfl, -⟩ | ⟨-, hk⟩
        · exact hfirst
        · exact hrest k hk
      · intro hall
        exact ⟨hall _ (invoked_iff.mpr (Or.inl ⟨rfl, hgoes.1⟩)),
          fun k hk => hall k (invoked_iff.mpr (Or.inr ⟨hgoes, hk⟩))⟩
    · have hnone : ∀ k, d.Invoked attempt k → ∀ e, ¬ d.Repeats k e := by
        intro k hk e hrepeats
        rcases invoked_iff.mp hk with ⟨rfl, hbegins⟩ | ⟨hk, -⟩
        · exact hgoes ⟨hbegins, e, Or.inr ⟨hrepeats.outcome, hrepeats.success⟩, hrepeats.retries⟩
        · exact hgoes hk
      refine iff_of_true ?_ hnone
      rw [(rounds_of_not_goesOn hgoes).1]
      by_cases hbegins : d.Begins attempt
      · rw [invocations_round hbegins]
        exact List.pairwise_singleton _ _
      · rw [invocations_round_of_not hbegins]
        exact List.Pairwise.nil

/-- The loop returns exactly where it gets to an attempt that settles. -/
lemma rounds_ok_iff {left : ℕ} (h : attempt + left = d.maxAttempts + 1) (hpos : 0 < left) :
    (d.rounds attempt left []).1 = .ok () ↔
      ∃ k, attempt ≤ k ∧ d.Reached attempt k ∧ d.Settles k := by
  induction left generalizing attempt with
  | zero => exact absurd hpos (Nat.lt_irrefl 0)
  | succ left ih =>
    by_cases hgoes : d.GoesOn attempt
    · obtain ⟨-, e, he, hretries⟩ := id hgoes
      have hleft := hretries.left
      rw [rounds_of_goesOn hgoes]
      show (d.rounds (attempt + 1) left []).1 = .ok () ↔ _
      rw [ih (by omega) (by omega)]
      constructor
      · intro ⟨k, hle, hreached, hsettles⟩
        refine ⟨k, by omega, fun j hj hlt => ?_, hsettles⟩
        rcases Nat.eq_or_lt_of_le hj with rfl | hj
        · exact hgoes
        · exact hreached j hj hlt
      · intro ⟨k, hle, hreached, hsettles⟩
        rcases Nat.eq_or_lt_of_le hle with rfl | hlt
        · exact absurd he (not_throws_of_settles hsettles)
        · exact ⟨k, hlt, fun j hj => hreached j (by omega), hsettles⟩
    · rw [(rounds_of_not_goesOn hgoes).2]
      constructor
      · intro hsettles
        exact ⟨attempt, le_rfl, fun j hj hlt => absurd hj (Nat.not_le_of_lt hlt), hsettles⟩
      · intro ⟨k, hle, hreached, hsettles⟩
        rcases Nat.eq_or_lt_of_le hle with rfl | hlt
        · exact hsettles
        · exact absurd (hreached attempt le_rfl hlt) hgoes

variable (d) in
/-- The sink's part of the record call returns. -/
def Resolves : Prop := ∃ k, 1 ≤ k ∧ d.Reached 1 k ∧ d.Settles k

lemma maxAttempts_pos : 0 < d.maxAttempts := by
  unfold maxAttempts
  omega

lemma recordWithPolicy_ok_iff : (d.recordWithPolicy []).1 = .ok () ↔ d.Resolves :=
  rounds_ok_iff (Nat.add_comm _ _) maxAttempts_pos

lemma mem_invocations_recordWithPolicy {invocation : Invocation} :
    invocation ∈ invocations (d.recordWithPolicy []).2 ↔
      ∃ k, d.Invoked 1 k ∧ invocation = ⟨d.sinkIndex, d.outcome k⟩ := by
  unfold recordWithPolicy
  rw [mem_invocations_rounds]
  constructor
  · intro ⟨k, hk, _, h⟩
    exact ⟨k, hk, h⟩
  · intro ⟨k, hk, h⟩
    have hle := hk.le_maxAttempts maxAttempts_pos
    exact ⟨k, hk, by omega, h⟩

lemma noneAfterSuccess_recordWithPolicy :
    NoneAfterSuccess (invocations (d.recordWithPolicy []).2) ↔
      ∀ k, d.Invoked 1 k → ∀ e, ¬ d.Repeats k e :=
  noneAfterSuccess_rounds (Nat.add_comm _ _)

/-- Neither the collector nor the hook throws. -/
def Quiet (d : Delivery E) : Prop := ∀ k, (d.answers k).attempt = .ok () ∧
  (d.answers k).success = .ok () ∧ (d.answers k).failure = .ok () ∧ (d.answers k).onSinkError = .ok ()

/-- A quiet sink's part returns exactly where the sink had a successful invocation. -/
lemma Quiet.resolves_iff (h : d.Quiet) :
    d.Resolves ↔ Delivered d.sinkIndex (invocations (d.recordWithPolicy []).2) := by
  unfold Delivered
  rw [mem_invocations_recordWithPolicy]
  constructor
  · intro ⟨k, hle, hreached, hbegins, houtcome, _⟩
    exact ⟨k, ⟨hle, hreached, hbegins⟩, by rw [houtcome]⟩
  · intro ⟨k, ⟨hle, hreached, hbegins⟩, houtcome⟩
    exact ⟨k, hle, hreached, hbegins, (congrArg Invocation.outcome houtcome).symm, (h k).2.1⟩

/-- Where the first attempt begins, the sink is tried. -/
lemma invoked_first (h : d.Begins 1) : d.Invoked 1 1 := invoked_iff.mpr (Or.inl ⟨rfl, h⟩)

lemma not_repeats_of_quiet (h : d.Quiet) {e : Thrown} : ¬ d.Repeats attempt e := by
  intro hrepeats
  have hsuccess := hrepeats.success
  rw [(h attempt).2.1] at hsuccess
  exact nomatch hsuccess

end Delivery

end CodexRouter.Telemetry
