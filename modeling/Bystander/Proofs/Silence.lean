import Bystander.Proofs.Course
/-! # A stopped bot is silent

A stop closes the brain of the session.  From then on that brain stays as it is, whatever else is started, stopped, or
called: its place in a frame that is under way, its timers, and its place in any later frame do nothing.  So a frame
goes as if the brain was not called at all (`muted`).
-/
namespace Bystander

open Act (Obeys run_bind run_get_bind)

variable {α κ τ ρ : Type} [Scalar α]

/-! ## Frames with other callbacks -/

namespace Stage

variable {P : Stage α κ τ ρ → Prop} {h h' : Handlers α κ τ ρ}
  (hscheduler : ∀ s scheduler, P s → P { s with scheduler })
  (htimer : ∀ purpose s, P s → (h'.onTimer purpose).run s = (h.onTimer purpose).run s)
  (htimers : ∀ purpose, Obeys (keeping P) (h.onTimer purpose))

include hscheduler htimer htimers

theorem fireDue_congr : ∀ (limit : Nat) {s : Stage α κ τ ρ}, P s → (fireDue h' limit).run s = (fireDue h limit).run s
  | 0, s, _ => by rw [run_fireDue_zero, run_fireDue_zero]
  | limit + 1, s, hs => by
    rw [run_fireDue_succ, run_fireDue_succ]
    cases s.scheduler.takeDue with
    | none => rfl
    | some due =>
      obtain ⟨t, scheduler⟩ := due
      have hfired := htimers t.purpose { s with scheduler } (hscheduler s scheduler hs)
      dsimp only
      rw [htimer t.purpose _ (hscheduler s scheduler hs)]
      rcases hr : (h.onTimer t.purpose).run { s with scheduler } with ⟨fault | u, after⟩
      · rfl
      · rw [hr] at hfired
        exact fireDue_congr limit hfired

omit hscheduler htimer htimers in
omit [Scalar α] in
theorem callAll_congr {delta : α} (hframe : ∀ k s, P s → (h'.onFrame k delta).run s = (h.onFrame k delta).run s)
    (hframes : ∀ k, Obeys (keeping P) (h.onFrame k delta)) :
    ∀ (callbacks : List κ) {s : Stage α κ τ ρ}, P s →
      (callAll h' delta callbacks).run s = (callAll h delta callbacks).run s
  | [], s, _ => rfl
  | k :: rest, s, hs => by
    have hcalled := hframes k s hs
    rw [callAll, callAll, run_bind, run_bind, hframe k s hs]
    rcases hr : (h.onFrame k delta).run s with ⟨fault | u, after⟩
    · rfl
    · rw [hr] at hcalled
      exact callAll_congr hframe hframes rest hcalled

/-- **Frames go alike** with callbacks that do the same wherever they are called. -/
theorem step_congr {spare : Nat} {delta : α}
    (hframe : ∀ k s, P s → (h'.onFrame k delta).run s = (h.onFrame k delta).run s)
    (hframes : ∀ k, Obeys (keeping P) (h.onFrame k delta)) {s : Stage α κ τ ρ} (hs : P s) :
    (step h' spare delta).run s = (step h spare delta).run s := by
  have htimerPhase : (timerPhase h' spare delta).run s = (timerPhase h spare delta).run s := by
    rw [timerPhase, timerPhase, run_bind, run_bind, run_scheduling]
    cases s.scheduler.advance delta with
    | error fault => rfl
    | ok scheduler =>
      dsimp only
      rw [run_get_bind, run_get_bind]
      exact fireDue_congr hscheduler htimer htimers _ (hscheduler s scheduler hs)
  have hafter : keeping P s ((timerPhase h spare delta).run s).2 :=
    obeys_timerPhase (fun s scheduler _ hs => hscheduler s scheduler hs)
      (fun s t scheduler _ hs => htimers t.purpose _ (hscheduler s scheduler hs)) s
  rw [step_eq, step_eq, htimerPhase]
  rcases hr : (timerPhase h spare delta).run s with ⟨fault | u, t⟩
  · rfl
  · rw [hr] at hafter
    exact callAll_congr hframe hframes _ (hafter hs)

end Stage

namespace Bot

variable {γ β : Type} {k : Nat}

/-! ## What a closed brain does -/

/-- **A brain that has been stopped.** -/
def Stopped (k : Nat) (s : BotStage α γ) : Prop := ∃ brain, s.cast.brains[k]? = some brain ∧ brain.closed = true

/-- A stopped brain stays as it is. -/
def Spares (k : Nat) (s t : BotStage α γ) : Prop :=
  ∀ brain, s.cast.brains[k]? = some brain → brain.closed = true → t.cast.brains[k]? = some brain

omit [Scalar α] in
instance : Steady (Spares k : BotStage α γ → BotStage α γ → Prop) where
  refl _ _ hb _ := hb
  trans h h' brain hb hclosed := h' brain (h brain hb hclosed) hclosed

omit [Scalar α] in
theorem Stopped.spares {s t : BotStage α γ} (h : Stopped k s) (ht : Spares k s t) : Stopped k t := by
  obtain ⟨brain, hb, hclosed⟩ := h
  exact ⟨brain, ht brain hb hclosed, hclosed⟩

omit [Scalar α] in
theorem Spares.of_eq {s t : BotStage α γ} (h : t.cast.brains = s.cast.brains) : Spares k s t := by
  intro brain hb _
  rw [h]
  exact hb

omit [Scalar α] in
/-- **What does nothing for a closed brain** does nothing on the stage. -/
theorem run_onBrain_stopped {play : Play α (Callback γ) (Alarm γ) β} {b : β}
    (hplay : ∀ c : Scene α (Callback γ) (Alarm γ), c.brain.closed = true → play.run c = (.ok b, c)) {s : BotStage α γ}
    (h : Stopped k s) : (onBrain k play).run s = (.ok b, s) := by
  obtain ⟨brain, hb, hclosed⟩ := h
  rw [run_onBrain_some play hb, hplay (scene s brain) hclosed]
  exact Prod.ext rfl (withScene_scene hb)

omit [Scalar α] in
theorem spares_onBrain {play : Play α (Callback γ) (Alarm γ) β} {b : β}
    (hplay : ∀ c : Scene α (Callback γ) (Alarm γ), c.brain.closed = true → play.run c = (.ok b, c)) (serial : Nat) :
    Obeys (Spares k) (onBrain serial play) := by
  intro s brain hb hclosed
  -- for the stopped brain nothing is done, and what another one does leaves its place alone
  by_cases hserial : k = serial
  · subst hserial
    rw [run_onBrain_stopped hplay ⟨brain, hb, hclosed⟩]
    exact hb
  · cases hother : s.cast.brains[serial]? with
    | none =>
      rw [run_onBrain_none play hother]
      exact hb
    | some other =>
      rw [run_onBrain_some play hother, brains_withScene_ne hserial]
      exact hb

theorem frame_closed (serial : Nat) (delta : α) (c : Scene α (Callback γ) (Alarm γ)) (h : c.brain.closed = true) :
    (Brain.frame (.waveEnd serial) delta).run c = (.ok (), c) := Brain.run_frame_closed _ delta h

omit [Scalar α] in
theorem close_closed (c : Scene α (Callback γ) (Alarm γ)) (h : c.brain.closed = true) :
    Brain.close.run c = (.ok (), c) := by
  rw [Brain.close, run_get_bind, h]
  rfl

theorem spares_step {guests : Guests α γ} {delta : α} (htimers : ∀ g, Obeys (Spares k) (guests.onTimer g))
    (hframes : ∀ g, Obeys (Spares k) (guests.onFrame g delta)) : Obeys (Spares k) (step guests delta) :=
  obeys_step (fun _ _ _ => .of_eq rfl)
    (fun s _ scheduler serial _ _ _ =>
      spares_onBrain (fun _ h => Wave.run_stop_closed _ h) serial { s with scheduler })
    (fun _ _ _ _ _ _ => .of_eq rfl) htimers (fun serial => spares_onBrain (frame_closed serial delta) serial) hframes

variable [DecidableEq γ]

theorem spares_start (config : BotConfig α) : Obeys (Spares k) (start config : Act (Fault α) (BotStage α γ) Bool) := by
  refine obeys_start (fun _ _ => .of_eq rfl) (fun _ _ _ => .of_eq rfl) fun s appearance journal brain hb _ => ?_
  obtain ⟨hlt, -⟩ := List.getElem?_eq_some_iff.1 hb
  exact (List.getElem?_append_left hlt).trans hb

omit [Scalar α] in
theorem spares_stop : Obeys (Spares k) (stop : Act (Fault α) (BotStage α γ) Unit) :=
  obeys_stop (fun _ _ => .of_eq rfl) (spares_onBrain close_closed) fun _ _ => .of_eq rfl

/-- **A stopped brain stays as it is**, whatever the bot lives through. -/
theorem Course.spares {s t : BotStage α γ} (h : Course (Spares k) s t) : Spares k s t :=
  h.obeys (fun _ _ => id) spares_start (fun serial delta => spares_onBrain (frame_closed serial delta) serial)
    (fun _ _ htimers hframes => spares_step htimers hframes) spares_stop

/-! ## Frames without a brain -/

omit [DecidableEq γ] in
/-- What timers and frames do if one brain is not called. -/
def muted (k : Nat) (guests : Guests α γ) : Handlers α (Callback γ) (Alarm γ) (Troupe α) where
  onTimer
    | .waveEnd serial number => if serial = k then pure () else (handlers guests).onTimer (.waveEnd serial number)
    | .guest g => guests.onTimer g
  onFrame
    | .brain serial, delta => if serial = k then pure () else (handlers guests).onFrame (.brain serial) delta
    | .guest g, delta => guests.onFrame g delta

/-- **A brain that is silent**: whatever the bot lives through, the brain stays as it is, and the timers, the rest of a
frame that is under way, and each later frame go as if it was not called. -/
structure Silent (k : Nat) (s : BotStage α γ) : Prop where
  same {t : BotStage α γ} : Course (Spares k) s t → t.cast.brains[k]? = s.cast.brains[k]?
  timers {t : BotStage α γ} {guests : Guests α γ} : Course (Spares k) s t →
    (∀ g s, Course (Spares k) s ((guests.onTimer g).run s).2) →
    ∀ limit, (Stage.fireDue (muted k guests) limit).run t = (Stage.fireDue (handlers guests) limit).run t
  rest {t : BotStage α γ} {guests : Guests α γ} {delta : α} : Course (Spares k) s t →
    (∀ g s, Course (Spares k) s ((guests.onFrame g delta).run s).2) →
    ∀ callbacks, (Stage.callAll (muted k guests) delta callbacks).run t =
      (Stage.callAll (handlers guests) delta callbacks).run t
  frames {t : BotStage α γ} {guests : Guests α γ} {delta : α} : Course (Spares k) s t →
    (∀ g s, Course (Spares k) s ((guests.onTimer g).run s).2) →
    (∀ g s, Course (Spares k) s ((guests.onFrame g delta).run s).2) →
    (Stage.step (muted k guests) 0 delta).run t = (step guests delta).run t

omit [DecidableEq γ] in
theorem run_muted_timer {guests : Guests α γ} (purpose : Alarm γ) {s : BotStage α γ} (h : Stopped k s) :
    ((muted k guests).onTimer purpose).run s = ((handlers guests).onTimer purpose).run s := by
  cases purpose with
  | guest g => rfl
  | waveEnd serial number =>
    change (if serial = k then pure () else (handlers guests).onTimer (.waveEnd serial number) :
      Act (Fault α) (BotStage α γ) Unit).run s = _
    split
    · next hserial =>
      subst hserial
      exact (run_onBrain_stopped (fun _ hc => Wave.run_stop_closed _ hc) h).symm
    · rfl

omit [DecidableEq γ] in
theorem run_muted_frame {guests : Guests α γ} {delta : α} (callback : Callback γ) {s : BotStage α γ}
    (h : Stopped k s) :
    ((muted k guests).onFrame callback delta).run s = ((handlers guests).onFrame callback delta).run s := by
  cases callback with
  | guest g => rfl
  | brain serial =>
    change (if serial = k then pure () else (handlers guests).onFrame (.brain serial) delta :
      Act (Fault α) (BotStage α γ) Unit).run s = _
    split
    · next hserial =>
      subst hserial
      exact (run_onBrain_stopped (frame_closed serial delta) h).symm
    · rfl

omit [Scalar α] [DecidableEq γ] in
theorem keeping_of_spares {act : Act (Fault α) (BotStage α γ) β} (h : Obeys (Spares k) act) :
    Obeys (keeping (Stopped k)) act := h.imp fun _ _ ht hs => hs.spares ht

omit [DecidableEq γ] in
theorem stopped_timers {guests : Guests α γ} (htimers : ∀ g, Obeys (Spares k) (guests.onTimer g)) (purpose : Alarm γ) :
    Obeys (keeping (Stopped k)) ((handlers guests).onTimer purpose) := by
  cases purpose with
  | guest g => exact keeping_of_spares (htimers g)
  | waveEnd serial number =>
    exact keeping_of_spares (spares_onBrain (fun _ h => Wave.run_stop_closed _ h) serial)

omit [DecidableEq γ] in
theorem stopped_frames {guests : Guests α γ} {delta : α} (hframes : ∀ g, Obeys (Spares k) (guests.onFrame g delta))
    (callback : Callback γ) : Obeys (keeping (Stopped k)) ((handlers guests).onFrame callback delta) := by
  cases callback with
  | guest g => exact keeping_of_spares (hframes g)
  | brain serial => exact keeping_of_spares (spares_onBrain (frame_closed serial delta) serial)

/-- **A stopped brain is silent.** -/
theorem Stopped.silent {s : BotStage α γ} (h : Stopped k s) : Silent k s where
  same hcourse := by
    obtain ⟨brain, hb, hclosed⟩ := h
    rw [hb, hcourse.spares brain hb hclosed]
  timers hcourse htimers limit :=
    Stage.fireDue_congr (P := Stopped k) (fun _ _ => id) (fun purpose _ hs => run_muted_timer purpose hs)
      (stopped_timers fun g s => (htimers g s).spares) limit (h.spares hcourse.spares)
  rest hcourse hframes callbacks :=
    Stage.callAll_congr (P := Stopped k) (fun callback _ hs => run_muted_frame callback hs)
      (stopped_frames fun g s => (hframes g s).spares) callbacks (h.spares hcourse.spares)
  frames hcourse htimers hframes :=
    Stage.step_congr (P := Stopped k) (fun _ _ => id) (fun purpose _ hs => run_muted_timer purpose hs)
      (stopped_timers fun g s => (htimers g s).spares) (fun callback _ hs => run_muted_frame callback hs)
      (stopped_frames fun g s => (hframes g s).spares) (h.spares hcourse.spares)

/-! ## Stops -/

omit [Scalar α] [DecidableEq γ] in
theorem brain?_eq (s : BotStage α γ) : brain? s = s.cast.brains[s.cast.brains.length - 1]? := List.getLast?_eq_getElem?

omit [Scalar α] [DecidableEq γ] in
theorem latest_of_brain? {s : BotStage α γ} {brain : Brain α} (h : brain? s = some brain) :
    latest s = some (s.cast.brains.length - 1) := by
  unfold latest
  rw [if_neg]
  intro hempty
  unfold brain? at h
  rw [List.isEmpty_iff.1 hempty] at h
  cases h

omit [Scalar α] [DecidableEq γ] in
theorem isRunning_iff (s : BotStage α γ) :
    isRunning s = true ↔ ∃ brain, brain? s = some brain ∧ brain.closed = false := by
  unfold isRunning
  cases brain? s with
  | none => simp
  | some brain => simp

omit [Scalar α] [DecidableEq γ] in
/-- The latest brain is looked up, and nothing else is done. -/
theorem run_current (s : BotStage α γ) :
    current.run s =
      match latest s with
      | some k => (.ok k, s)
      | none => (.error .notStarted, s) := by
  rw [current, run_get_bind]
  cases latest s <;> rfl

omit [Scalar α] in
theorem run_close_open {c : Scene α κ τ} (h : c.brain.closed = false) :
    Brain.close.run c = (.ok (), { c with
      journal := c.journal.note (.brainClosed c.brain.frames)
      brain := { c.brain with closed := true } }) := by
  rw [Brain.close, run_get_bind, h]
  rfl

omit [Scalar α] in
theorem run_close_closed {c : Scene α κ τ} (h : c.brain.closed = true) : Brain.close.run c = (.ok (), c) := by
  rw [Brain.close, run_get_bind, h]
  rfl

omit [Scalar α] in
theorem run_stop_idle {s : BotStage α γ} (h : isRunning s = false) : stop.run s = (.ok (), s) := by
  rw [stop, run_get_bind, h]
  rfl

omit [Scalar α] in
/-- **A stop of a running bot** disconnects and closes its brain, and lines carry its number no more. -/
theorem run_stop_running {s : BotStage α γ} {brain : Brain α} (hb : brain? s = some brain)
    (hopen : brain.closed = false) : ∃ journal, journal.bound = none ∧ stop.run s = (.ok (), { s with
      journal
      scheduler := s.scheduler.disconnect (.brain (s.cast.brains.length - 1))
      cast := { s.cast with
        brains := s.cast.brains.set (s.cast.brains.length - 1) { brain with closed := true } } }) := by
  have hrunning : isRunning s = true := (isRunning_iff s).2 ⟨brain, hb, hopen⟩
  have hcurrent : current.run s = (.ok (s.cast.brains.length - 1), s) := by rw [run_current, latest_of_brain? hb]
  have hplace : s.cast.brains[s.cast.brains.length - 1]? = some brain := by rw [← brain?_eq, hb]
  generalize s.cast.brains.length - 1 = k at hcurrent hplace ⊢
  let after : BotStage α γ := { s with scheduler := s.scheduler.disconnect (.brain k) }
  have hclose : (onBrain k Brain.close).run after = (.ok (), withScene k after { scene after brain with
      journal := after.journal.note (.brainClosed brain.frames)
      brain := { brain with closed := true } }) := by
    rw [run_onBrain_some Brain.close (show after.cast.brains[k]? = some brain from hplace),
      run_close_open (show (scene after brain).brain.closed = false from hopen)]
    rfl
  rw [stop, run_get_bind, hrunning, Bool.not_true, if_neg Bool.false_ne_true, run_bind, hcurrent]
  dsimp only
  rw [Act.run_modify_bind, run_bind, hclose]
  exact ⟨_, rfl, rfl⟩

omit [Scalar α] in
/-- **A stop answers**, and the latest brain is stopped then, if there is one. -/
theorem run_stop (s : BotStage α γ) :
    ∃ t, stop.run s = (.ok (), t) ∧ ∀ k, latest t = some k → Stopped k t := by
  have hlatest : ∀ {t : BotStage α γ} {k : Nat}, latest t = some k → k = t.cast.brains.length - 1 := by
    intro t k hk
    unfold latest at hk
    split at hk
    · cases hk
    · exact (Option.some.inj hk).symm
  cases hb : brain? s with
  | none =>
    have hidle : isRunning s = false := by rw [isRunning, hb]
    refine ⟨s, run_stop_idle hidle, fun k hk => ?_⟩
    unfold brain? at hb
    unfold latest at hk
    rw [List.getLast?_eq_none_iff.1 hb] at hk
    cases hk
  | some brain =>
    have hplace : s.cast.brains[s.cast.brains.length - 1]? = some brain := by rw [← brain?_eq, hb]
    cases hclosed : brain.closed with
    | true =>
      have hidle : isRunning s = false := by
        rw [isRunning, hb]
        exact congrArg not hclosed
      exact ⟨s, run_stop_idle hidle, fun k hk => ⟨brain, hlatest hk ▸ hplace, hclosed⟩⟩
    | false =>
      obtain ⟨journal, -, hr⟩ := run_stop_running hb hclosed
      refine ⟨_, hr, fun k hk => ⟨{ brain with closed := true }, ?_, rfl⟩⟩
      have hlength : k = s.cast.brains.length - 1 := (hlatest hk).trans (congrArg (· - 1) List.length_set)
      rw [hlength]
      exact List.getElem?_set_self (List.getElem?_eq_some_iff.1 hplace).1

omit [Scalar α] in
/-- **No bot runs after a stop.** -/
theorem stop_answers (s : BotStage α γ) : ∃ t, stop.run s = (.ok (), t) ∧ isRunning t = false := by
  obtain ⟨t, hr, hstopped⟩ := run_stop s
  refine ⟨t, hr, Bool.not_eq_true _ ▸ fun hrunning => ?_⟩
  obtain ⟨brain, hb, hopen⟩ := (isRunning_iff t).1 hrunning
  obtain ⟨brain', hb', hclosed⟩ := hstopped _ (latest_of_brain? hb)
  rw [← brain?_eq, hb] at hb'
  cases hb'
  rw [hopen] at hclosed
  cases hclosed

end Bot
end Bystander
