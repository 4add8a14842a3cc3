import Bystander.Proofs.Doubles
import Bystander.Proofs.Waves
/-! # Waves end by their own timers

A wave ends by a stop or by the firing of its own end, and by nothing else; a frame whose clock has reached that end
fires it before any callback.  Ends of other waves pass it by.
-/
namespace Bystander.Bot

open Scalar (Elapses)
open Act (Obeys)

variable {α γ : Type} [Scalar α]

def episode? (k : Nat) (s : BotStage α γ) : Option (Episode α) := (arms s)[k]?.bind Arm.episode

namespace Waves

variable [Timekeeping α] {k : Nat} {s t : BotStage α γ} {waves : List (Started α)}

omit [Timekeeping α] in
theorem current (h : Waves k s waves) {e : Episode α} (he : episode? k s = some e) : ∃ w earlier, waves = w :: earlier ∧
    w.episode = e ∧
    (s.scheduler.ends k e.number).map Timer.due = if Scheduler.acceptsDelay w.duration then [w.due] else [] := by
  obtain ⟨arm, harm, -, htimed⟩ := h.own
  unfold episode? at he
  rw [harm] at he
  exact (htimed.current e he).2

omit [Timekeeping α] in
/-- Waves are told apart by their episodes. -/
theorem eq_of_episode (h : Waves k s waves) {v w : Started α} (hv : v ∈ waves) (hw : w ∈ waves)
    (he : v.episode = w.episode) : v = w := by
  obtain ⟨arm, -, -, htimed⟩ := h.own
  have hdistinct : (waves.map Started.episode).Nodup := by
    refine List.pairwise_map.2 (htimed.numbers.imp fun {v w} hlt heq => ?_)
    rw [heq] at hlt
    exact Nat.lt_irrefl _ hlt
  exact List.inj_on_of_nodup_map hdistinct hv hw he

omit [Timekeeping α] in
/-- **A wave lasts** through every move but a stop and the firing of its own end, and keeps its episode. -/
theorem lasts (h : Waves k s waves) {beat : Beat α γ} (hm : Moves k beat s t) {e : Episode α}
    (he : episode? k s = some e) : episode? k t = some e ∨
      episode? k t = none ∧ (beat = .stop ∨ ∃ u w, beat = .fire u ∧ u.purpose = .waveEnd k e.number ∧ w ∈ waves ∧
        w.episode = e ∧ Elapses w.duration ∧ u.due = w.due ∧ w.due ≤ s.scheduler.now) := by
  obtain ⟨w, earlier, hw, hwe, hdues⟩ := h.current he
  obtain ⟨arm, harm, hopen, htimed⟩ := h.own
  have hae : arm.episode = some e := by
    unfold episode? at he
    rw [harm] at he
    exact he
  obtain ⟨-, after, hafter, hcases⟩ := h.arm_cases hm harm
  have hepisode : episode? k t = after.episode := by
    unfold episode?
    rw [hafter]
    rfl
  rw [hepisode]
  rcases hcases with rfl | ⟨hidle, -⟩ | ⟨hbeat, rfl⟩ | ⟨u, n, hbeat, hu, hle, rfl⟩
  · exact Or.inl hae
  · -- no wave starts while one lasts
    have hwaving := htimed.phase.2 (by rw [hae]; rfl)
    rw [hidle] at hwaving
    cases hwaving
  · rw [Arm.stopped_of_concerned arm hopen rfl]
    exact Or.inr ⟨rfl, Or.inl hbeat⟩
  · by_cases hn : e.number = n
    · subst hn
      have hc : Wave.concerns (some (e.number : Int)) arm.episode = true := by simp [hae, Wave.concerns]
      rw [Arm.stopped_of_concerned arm hopen hc]
      have hdue : u.due ∈ (s.scheduler.ends k e.number).map Timer.due := List.mem_map_of_mem hu
      rw [hdues] at hdue
      split at hdue
      · next ha =>
        have heq := List.mem_singleton.1 hdue
        have hp := Alarm.ends_iff.1 (List.mem_filter.1 hu).2
        have hmem : w ∈ waves := hw ▸ List.mem_cons_self
        have hd := (Scheduler.acceptsDelay_iff _).1 ha
        exact Or.inr ⟨rfl, Or.inr ⟨u, w, hbeat, hp, hmem, hwe, hd, heq, heq ▸ hle⟩⟩
      · cases hdue
    · have hc : Wave.concerns (some (n : Int)) arm.episode = false := by simp [hae, Wave.concerns, hn]
      rw [Arm.stopped_of_stale hc]
      exact Or.inl hae

omit [Timekeeping α] in
/-- **A stop by hand** ends whatever wave there is. -/
theorem finished_of_stop (h : Waves k s waves) : episode? k ((onBrain k (Wave.stop none)).run s).2 = none := by
  obtain ⟨arm, harm, hopen, -⟩ := h.own
  obtain ⟨hlt, -⟩ := List.getElem?_eq_some_iff.1 harm
  obtain ⟨after, hr, -, -, harms⟩ := run_onBrain_stop harm none
  rw [hr]
  unfold episode?
  rw [harms, List.getElem?_set_self hlt, Arm.stopped_of_concerned arm hopen rfl]
  rfl

/-- **A wave is over** once no timer is due and its time has come, if its duration was accepted. -/
theorem finished (h : Waves k s waves) (hdue : s.scheduler.takeDue = none) {w : Started α} (hw : w ∈ waves)
    (hd : Elapses w.duration) (hle : w.due ≤ s.scheduler.now) :
    episode? k s ≠ some w.episode := by
  intro he
  obtain ⟨v, earlier, rfl, hve, hdues⟩ := h.current he
  -- so its own end is still pending, although it is due
  rw [h.eq_of_episode List.mem_cons_self hw hve, if_pos ((Scheduler.acceptsDelay_iff _).2 hd)] at hdues
  have hmem : w.due ∈ (s.scheduler.ends k w.episode.number).map Timer.due := hdues ▸ List.mem_singleton_self _
  obtain ⟨u, hu, hud⟩ := List.mem_map.1 hmem
  have hpending := h.ordered.not_due_of_takeDue hdue u (List.mem_filter.1 hu).1
  rw [hud] at hpending
  exact hpending hle

/-- **Ends of waves never fail**, so the timers of a frame that fires nothing else get through. -/
theorem run_timerPhase (h : Waves k s waves) (hends : ∀ v ∈ s.scheduler.timers, ∃ j n, v.purpose = .waveEnd j n)
    (guests : Guests α γ) {delta : α} (hd : Elapses delta) :
    ∃ t, (Stage.timerPhase (handlers guests) 0 delta).run s = (.ok (), t) := by
  have hadvance : s.scheduler.advance delta =
      .ok { s.scheduler with now := s.scheduler.now + delta, frameCount := s.scheduler.frameCount + 1 } := if_neg hd.2
  have hfire : ∀ (c : BotStage α γ) (u : Timer α (Alarm γ)) (scheduler : Scheduler α (Callback γ) (Alarm γ)),
      (∃ waves, Waves k c waves) ∧ (∀ v ∈ c.scheduler.timers, ∃ j n, v.purpose = .waveEnd j n) →
      c.scheduler.takeDue = some (u, scheduler) →
      ∃ d, ((handlers guests).onTimer u.purpose).run { c with scheduler } = (.ok (), d) ∧ d.scheduler = scheduler ∧
        (∃ waves, Waves k d waves) ∧ ∀ v ∈ d.scheduler.timers, ∃ j n, v.purpose = .waveEnd j n := by
    rintro c u scheduler ⟨⟨waves, hc⟩, hv⟩ hdue
    obtain ⟨rest, hq, -, hrest⟩ := Scheduler.takeDue_eq_some hdue
    obtain ⟨j, n, hp⟩ := hv u (hq ▸ List.mem_cons_self)
    obtain ⟨d, hr, hscheduler, hd⟩ := hc.fire hdue hp
    refine ⟨d, ?_, hscheduler, ⟨_, hd⟩, fun v hmem => hv v ?_⟩
    · rw [hp]
      exact hr
    · rw [hscheduler, hrest] at hmem
      rw [hq]
      exact List.mem_cons_of_mem u hmem
  obtain ⟨t, hr, -⟩ := Stage.run_timerPhase_of_fires hfire hadvance ⟨⟨_, h.clock hd hadvance⟩, hends⟩
  exact ⟨t, hr⟩

end Waves

/-! ## Histories -/

theorem History.trans {k : Nat} {s t u : BotStage α γ} {waves new : List (Started α)} (h : History k s waves t)
    (h' : History k t new u) : History k s (new ++ waves) u := by
  induction h' with
  | start => exact h
  | move _ hm ih =>
    rw [List.append_assoc]
    exact ih.move hm

def Plays (k : Nat) (s t : BotStage α γ) : Prop := ∀ waves, Waves k s waves → ∃ new, History k s new t

instance [Timekeeping α] (k : Nat) : Steady (Plays (α := α) (γ := γ) k) where
  refl s _ _ := ⟨[], .start⟩
  trans h h' waves hs := by
    obtain ⟨new, hst⟩ := h waves hs
    obtain ⟨new', htu⟩ := h' _ (hs.history hst)
    exact ⟨_, hst.trans htu⟩

theorem Moves.plays {k : Nat} {s t : BotStage α γ} {beat : Beat α γ} (h : Moves k beat s t) : Plays k s t :=
  fun _ _ => ⟨_, History.start.move h⟩

/-- Guests that make nothing but histories of the waves. -/
structure Polite (k : Nat) (guests : Guests α γ) : Prop where
  onTimer : ∀ g, Obeys (Plays k) (guests.onTimer g)
  onFrame : ∀ g delta, Obeys (Plays k) (guests.onFrame g delta)

section Frames

variable [Timekeeping α] {k : Nat} {guests : Guests α γ} {delta : α}

omit [Timekeeping α] in
theorem plays_advance (hd : Elapses delta) (s : BotStage α γ) (scheduler : Scheduler α (Callback γ) (Alarm γ))
    (h : s.scheduler.advance delta = .ok scheduler) : Plays k s { s with scheduler } :=
  (Moves.clock hd h).plays

omit [Timekeeping α] in
theorem aside_guest {s : BotStage α γ} {t : Timer α (Alarm γ)} {scheduler : Scheduler α (Callback γ) (Alarm γ)} {g : γ}
    (hdue : s.scheduler.takeDue = some (t, scheduler)) (hp : t.purpose = .guest g) : Aside s { s with scheduler } := by
  obtain ⟨rest, -, -, hrest⟩ := Scheduler.takeDue_eq_some hdue
  refine ⟨rfl, ?_, fun j n => ?_, fun ho => ho.takeDue hdue, .refl _⟩
  · rw [hrest]
  · refine (Scheduler.ends_takeDue hdue j n).2 ?_
    rw [hp]
    exact fun heq => by cases heq

omit [Timekeeping α] in
/-- **A frame of any brain** is a move of this one, or nothing as the others are closed; it stops no wave by hand. -/
theorem Waves.exists_moves_frame {s : BotStage α γ} {waves : List (Started α)} (hs : Waves k s waves) (serial : Nat) :
    ∃ beat, Moves k beat s ((onBrain serial (Brain.frame (.waveEnd serial) delta)).run s).2 ∧ beat ≠ .stop := by
  by_cases hserial : serial = k
  · subst hserial
    exact ⟨_, Moves.frame delta s, nofun⟩
  · have haside : Moves k .aside s s := .aside ⟨rfl, rfl, fun _ _ => rfl, id, .refl _⟩
    cases hb : s.cast.brains[serial]? with
    | none =>
      rw [run_onBrain_none _ hb]
      exact ⟨_, haside, nofun⟩
    | some brain =>
      have harm : (arms s)[serial]? = some brain.arm := by
        unfold arms
        rw [List.getElem?_map, hb]
        rfl
      have hclosed : brain.closed = true := hs.others serial _ hserial harm
      rw [run_onBrain_some _ hb, Brain.run_frame_closed _ delta hclosed]
      dsimp only
      rw [withScene_scene hb]
      exact ⟨_, haside, nofun⟩

omit [Timekeeping α] in
theorem plays_frame (serial : Nat) :
    Obeys (Plays (γ := γ) k) (onBrain serial (Brain.frame (.waveEnd serial) delta)) := by
  intro s waves hs
  obtain ⟨beat, hm, -⟩ := hs.exists_moves_frame serial
  exact hm.plays waves hs

theorem plays_timerPhase (hguests : Polite k guests) (hd : Elapses delta) :
    Obeys (Plays k) (Stage.timerPhase (handlers guests) 0 delta) :=
  obeys_timerPhase (plays_advance hd) (fun _ _ _ _ _ hdue hp => (Moves.fire hdue hp).plays)
    (fun _ _ _ _ hdue hp => (Moves.aside (aside_guest hdue hp)).plays) hguests.onTimer

/-- **Frames make histories.** -/
theorem plays_step (hguests : Polite k guests) (hd : Elapses delta) : Obeys (Plays k) (step guests delta) :=
  obeys_step (plays_advance hd) (fun _ _ _ _ _ hdue hp => (Moves.fire hdue hp).plays)
    (fun _ _ _ _ hdue hp => (Moves.aside (aside_guest hdue hp)).plays) hguests.onTimer plays_frame
    fun g => hguests.onFrame g delta

end Frames

/-! ## Durations that are accepted -/

omit [Scalar α] in
theorem settings_stopped (arm : Arm α) (number : Option Int) : (arm.stopped number).settings = arm.settings := by
  unfold Arm.stopped
  split <;> rfl

/-- **With fair chances every duration is accepted** if the settings allow no other one. -/
theorem History.elapses [Timekeeping α] {k : Nat} {s t : BotStage α γ} {waves : List (Started α)} (hs : Waves k s [])
    {settings : WaveSettings α} (hsettings : ∀ arm, (arms s)[k]? = some arm → arm.settings = settings)
    (hfair : s.cast.source.Fair)
    (hlasting : ∀ r : α, 0.0 ≤ r → r < 1.0 → Elapses (settings.minDuration + r * settings.durationJitter))
    (h : History k s waves t) : (∀ arm, (arms t)[k]? = some arm → arm.settings = settings) ∧ t.cast.source.Fair ∧
      ∀ w ∈ waves, Elapses w.duration := by
  induction h with
  | start => exact ⟨hsettings, hfair, fun w hw => by cases hw⟩
  | @move waves t u beat ht hm ih =>
    obtain ⟨hset, hchances, hpast⟩ := ih
    have hwaves : Waves k t waves := by
      have hkept := hs.history ht
      rw [List.append_nil] at hkept
      exact hkept
    obtain ⟨arm, harm, -, -⟩ := hwaves.own
    obtain ⟨hleads, after, hafter, hcases⟩ := hwaves.arm_cases hm harm
    refine ⟨fun other hother => ?_, hchances.leads hleads, fun w hw => ?_⟩
    · rw [hafter] at hother
      cases hother
      rcases hcases with rfl | ⟨-, rfl⟩ | ⟨-, rfl⟩ | ⟨_, _, -, -, -, rfl⟩
      · exact hset after harm
      · exact hset arm harm
      · rw [settings_stopped]
        exact hset arm harm
      · rw [settings_stopped]
        exact hset arm harm
    · rcases List.mem_append.1 hw with hnew | hold
      · unfold startedIn at hnew
        rw [harm, hafter] at hnew
        dsimp only at hnew
        split at hnew
        · cases hnew
        · rw [List.mem_singleton.1 hnew]
          obtain ⟨hlow, hhigh⟩ := hchances _ (.fraction (.fraction (.fraction (.refl t.cast.source))))
          have hduration := hlasting _ hlow hhigh
          rw [← hset arm harm] at hduration
          exact hduration
      · exact hpast w hold

theorem waves_opening {k : Nat} {s : BotStage α γ} {settings : Settings α} {bounds : Bounds α} {clips : List (Clip α)}
    {spawn : Vec3 α} {avatar : Avatar α} (hordered : s.scheduler.Ordered)
    (hbrain : s.cast.brains[k]? = some (.opening settings bounds clips spawn avatar))
    (hothers : ∀ j brain, j ≠ k → s.cast.brains[j]? = some brain → brain.closed = true)
    (hends : ∀ u ∈ s.scheduler.timers, ∀ j n, u.purpose = .waveEnd j n → j ≠ k ∧ j < s.cast.brains.length) :
    Waves k s [] := by
  have hnone : ∀ n, s.scheduler.ends k n = [] := by
    intro n
    refine List.filter_eq_nil_iff.2 fun u hu hp => ?_
    exact (hends u hu k n (Alarm.ends_iff.1 hp)).1 rfl
  refine ⟨hordered, fun j arm hj harm => ?_, fun u hu j n hp => ?_, ?_⟩
  · obtain ⟨brain, hb, rfl⟩ := getElem?_arms harm
    exact hothers j brain hj hb
  · unfold arms
    rw [List.length_map]
    exact (hends u hu j n hp).2
  · refine ⟨(Brain.opening settings bounds clips spawn avatar).arm, ?_, rfl, ?_⟩
    · unfold arms
      rw [List.getElem?_map, hbrain]
      rfl
    · refine ⟨by simp [Brain.arm, Brain.opening, BotState.opening], List.Pairwise.nil, fun w hw => ?_,
        fun n u hu => ?_, fun n => ?_, fun e he => ?_⟩
      · cases hw
      · rw [hnone n] at hu
        cases hu
      · rw [hnone n]
        exact Nat.zero_le 1
      · cases he

/-- **Waves end by their own timers.**  Whatever happened since a brain was opened, the account of its waves is
right.  A wave lasts until a stop or the firing of its own end, and it is over after the timers of a frame whose clock
has reached that end.  A wave whose duration was refused has no end pending; with fair chances and lasting settings
there is none. -/
theorem waves_end_by_their_timers [Timekeeping α] {k : Nat} {s t : BotStage α γ} {settings : Settings α}
    {bounds : Bounds α} {clips : List (Clip α)} {spawn : Vec3 α} {avatar : Avatar α} {waves : List (Started α)}
    (hordered : s.scheduler.Ordered) (hbrain : s.cast.brains[k]? = some (.opening settings bounds clips spawn avatar))
    (hothers : ∀ j brain, j ≠ k → s.cast.brains[j]? = some brain → brain.closed = true)
    (hends : ∀ u ∈ s.scheduler.timers, ∀ j n, u.purpose = .waveEnd j n → j ≠ k ∧ j < s.cast.brains.length)
    (h : History k s waves t) :
    Waves k t waves ∧
    (∀ beat u e, Moves k beat t u → episode? k t = some e → episode? k u = some e ∨
      episode? k u = none ∧ (beat = .stop ∨ ∃ v w, beat = .fire v ∧ v.purpose = .waveEnd k e.number ∧ w ∈ waves ∧
        w.episode = e ∧ Elapses w.duration ∧ v.due = w.due ∧ w.due ≤ t.scheduler.now)) ∧
    episode? k ((onBrain k (Wave.stop none)).run t).2 = none ∧
    (∀ guests : Guests α γ, Polite k guests → ∀ delta, Elapses delta →
      (∃ new, History k s (new ++ waves) ((step guests delta).run t).2) ∧
      ∀ u, (Stage.timerPhase (handlers guests) 0 delta).run t = (.ok (), u) →
        ∃ new, History k s (new ++ waves) u ∧
          ∀ w ∈ new ++ waves, Elapses w.duration → w.due ≤ u.scheduler.now → episode? k u ≠ some w.episode) ∧
    (∀ (guests : Guests α γ) delta, Elapses delta → (∀ v ∈ t.scheduler.timers, ∃ j n, v.purpose = .waveEnd j n) →
      ∃ u, (Stage.timerPhase (handlers guests) 0 delta).run t = (.ok (), u)) ∧
    (s.cast.source.Fair →
      (∀ r : α, 0.0 ≤ r → r < 1.0 → Elapses (settings.wave.minDuration + r * settings.wave.durationJitter)) →
      ∀ w ∈ waves, Elapses w.duration) := by
  have hstart := waves_opening hordered hbrain hothers hends
  have hkept : ∀ {new : List (Started α)} {u : BotStage α γ}, History k s new u → Waves k u new := by
    intro new u hu
    have hnew := hstart.history hu
    rw [List.append_nil] at hnew
    exact hnew
  have hwaves := hkept h
  refine ⟨hwaves, fun beat u e hm he => hwaves.lasts hm he, hwaves.finished_of_stop,
    fun guests hguests delta hd => ⟨?_, fun u hu => ?_⟩,
    fun guests delta hd hv => hwaves.run_timerPhase hv guests hd, fun hfair hlasting => ?_⟩
  · obtain ⟨new, hnew⟩ := plays_step hguests hd t waves hwaves
    exact ⟨new, h.trans hnew⟩
  · have hphase := plays_timerPhase hguests hd t waves hwaves
    rw [hu] at hphase
    obtain ⟨new, hnew⟩ := hphase
    refine ⟨new, h.trans hnew, fun w hw hlast hle => ?_⟩
    exact (hkept (h.trans hnew)).finished (Stage.takeDue_of_run_timerPhase hu) hw hlast hle
  · refine (h.elapses hstart (fun arm harm => ?_) hfair hlasting).2.2
    obtain ⟨brain, hb, rfl⟩ := getElem?_arms harm
    rw [hbrain] at hb
    cases hb
    rfl

/-! ### Two waves, and a stop by hand -/

/-- The clock moves on. -/
def later (delta : Float) (s : BotStage Float Empty) : BotStage Float Empty :=
  { s with scheduler := { s.scheduler with now := s.scheduler.now + delta, frameCount := s.scheduler.frameCount + 1 } }

/-- The end of a wave fires if it is the first due timer. -/
def ended (s : BotStage Float Empty) : BotStage Float Empty :=
  match s.scheduler.takeDue with
  | some (⟨_, _, .waveEnd j n⟩, scheduler) => ((onBrain j (Wave.stop (some (n : Int)))).run { s with scheduler }).2
  | _ => s

theorem moves_later (s : BotStage Float Empty) (delta : Float) (hd : Elapses delta) :
    Moves 0 (.clock delta) s (later delta s) :=
  .clock hd (if_neg hd.2)

theorem episode?_later (delta : Float) (s : BotStage Float Empty) : episode? 0 (later delta s) = episode? 0 s := rfl

theorem moves_ended {s : BotStage Float Empty} {j n : Nat}
    (h : s.scheduler.takeDue.map (·.1.purpose) = some (.waveEnd j n)) :
    ∃ t, t.purpose = .waveEnd j n ∧ Moves 0 (.fire t) s (ended s) := by
  obtain ⟨⟨t, scheduler⟩, hdue, hp⟩ := Option.map_eq_some_iff.1 h
  refine ⟨t, hp, ?_⟩
  obtain ⟨due, serial, purpose⟩ := t
  obtain rfl : purpose = .waveEnd j n := hp
  have hended : ended s = ((onBrain j (Wave.stop (some (n : Int)))).run { s with scheduler }).2 := by
    rw [ended, hdue]
  rw [hended]
  exact .fire hdue rfl

/-- One brain that waves whenever it can, just opened.  Chances are always one half, so its waves last two seconds. -/
def eager : BotStage Float Empty :=
  let settings : Settings Float := { Settings.standard with wave := { WaveSettings.standard with chance := 1.0 } }
  { Host.fresh with cast := ⟨.scripted [] 0.5, [.opening settings .standard [] .zero .fresh], none⟩ }

/-- The first wave has begun. -/
def firstWave : BotStage Float Empty := ((onBrain 0 (Brain.frame (.waveEnd 0) 0.1)).run eager).2

/-- It was stopped by hand; its end is pending. -/
def stoppedWave : BotStage Float Empty := ((onBrain 0 (Wave.stop none)).run firstWave).2

/-- Half a second later the second wave has begun. -/
def secondWave : BotStage Float Empty := ((onBrain 0 (Brain.frame (.waveEnd 0) 0.5)).run (later 0.5 stoppedWave)).2

/-- The end of the first wave has fired, two seconds after its beginning. -/
def staleEnd : BotStage Float Empty := ended (later 1.5 secondWave)

/-- The timers of a frame have fired, another half a second later. -/
def ownEnd : BotStage Float Empty := ((Stage.timerPhase (handlers .absent) 0 0.5).run staleEnd).2

section Accounts

variable {k : Nat} {s t u : BotStage α γ} {waves : List (Started α)} {beat : Beat α γ}

/-- What starts no wave leaves the account as it is. -/
theorem History.quiet (h : History k s waves t) (hm : Moves k beat t u) (hnone : (startedIn k t u).length = 0) :
    History k s waves u := by
  have hmoved := h.move hm
  rwa [List.length_eq_zero_iff.1 hnone] at hmoved

theorem History.begins (h : History k s waves t) (hm : Moves k beat t u) (hone : (startedIn k t u).length = 1) :
    ∃ w, startedIn k t u = [w] ∧ History k s (w :: waves) u := by
  obtain ⟨w, hw⟩ := List.length_eq_one_iff.1 hone
  have hmoved := h.move hm
  rw [hw] at hmoved
  exact ⟨w, hw, hmoved⟩

end Accounts

/-- The history of the two waves, up to the beginning of the second one. -/
theorem history_secondWave :
    ∃ first second : Started Float, first.episode.number = 1 ∧ second.episode.number = 2 ∧ Elapses second.duration ∧
      second.due ≤ ownEnd.scheduler.now ∧ History 0 eager [first] firstWave ∧
      History 0 eager [second, first] secondWave := by
  have hframe : Moves 0 (.frame 0.1) eager firstWave := .frame 0.1 eager
  have hstop : Moves 0 .stop firstWave stoppedWave := .stop firstWave
  have hwait : Moves 0 (.clock 0.5) stoppedWave (later 0.5 stoppedWave) :=
    moves_later stoppedWave 0.5 (by decide +kernel)
  have hagain : Moves 0 (.frame 0.5) (later 0.5 stoppedWave) secondWave := .frame 0.5 (later 0.5 stoppedWave)
  obtain ⟨first, hfirst, hbegun⟩ := History.start.begins hframe (by decide +kernel)
  have hwaited := (hbegun.quiet hstop (by decide +kernel)).quiet hwait (by decide +kernel)
  obtain ⟨second, hsecond, hlasting⟩ := hwaited.begins hagain (by decide +kernel)
  have hnumber : ∀ w ∈ startedIn 0 eager firstWave, w.episode.number = 1 := by decide +kernel
  have hdue : ∀ w ∈ startedIn 0 (later 0.5 stoppedWave) secondWave, w.episode.number = 2 ∧ Elapses w.duration ∧
      w.due ≤ ownEnd.scheduler.now := by decide +kernel
  rw [hfirst] at hnumber
  rw [hsecond] at hdue
  obtain ⟨hnumber', helapses, hle⟩ := hdue second List.mem_cons_self
  exact ⟨first, second, hnumber first List.mem_cons_self, hnumber', helapses, hle, hbegun, hlasting⟩

/-- **The end of a stopped wave passes the next one by.**  That one lasts until a frame finds its own end due. -/
theorem waves_end_by_their_timers_twice :
    ∃ first second : Started Float, first.episode.number = 1 ∧ second.episode.number = 2 ∧
      Waves 0 staleEnd [second, first] ∧ episode? 0 firstWave = some first.episode ∧ episode? 0 stoppedWave = none ∧
      episode? 0 secondWave = some second.episode ∧ episode? 0 staleEnd = some second.episode ∧
      (Stage.timerPhase (handlers .absent) 0 0.5).run staleEnd = (.ok (), ownEnd) ∧
      second.due ≤ ownEnd.scheduler.now ∧ episode? 0 ownEnd ≠ some second.episode := by
  have hothers : ∀ j brain, j ≠ 0 → eager.cast.brains[j]? = some brain → brain.closed = true := by
    intro j brain hj hb
    cases j with
    | zero => exact absurd rfl hj
    | succ j => cases hb
  have hall {waves : List (Started Float)} {t : BotStage Float Empty} (h : History 0 eager waves t) :=
    waves_end_by_their_timers Scheduler.ordered_fresh rfl hothers (fun u hu => by cases hu) h
  obtain ⟨first, second, hnumber, hnumber', helapses, hle, hbegun, hagain⟩ := history_secondWave
  -- the first wave lasts until it is stopped
  obtain ⟨hwaves, -, hstopped, -⟩ := hall hbegun
  obtain ⟨e, he⟩ := Option.isSome_iff_exists.1 (by decide +kernel : (episode? 0 firstWave).isSome = true)
  obtain ⟨_, _, heq, rfl, -⟩ := hwaves.current he
  cases heq
  -- the end of the first wave fires, and the second one goes on
  obtain ⟨hwaves, -⟩ := hall hagain
  obtain ⟨e, he'⟩ := Option.isSome_iff_exists.1 (by decide +kernel : (episode? 0 secondWave).isSome = true)
  obtain ⟨_, _, heq, rfl, -⟩ := hwaves.current he'
  cases heq
  have hwaited := hagain.quiet (moves_later secondWave 1.5 (by decide +kernel)) (by decide +kernel)
  obtain ⟨stale, hstale, hfire⟩ := moves_ended (s := later 1.5 secondWave) (j := 0) (n := 1) (by decide +kernel)
  have hgoes : episode? 0 (ended (later 1.5 secondWave)) = some second.episode := by
    obtain ⟨-, hlasts, -⟩ := hall hwaited
    obtain hgoes | ⟨-, hbeat | ⟨v, w, hv, hp, -⟩⟩ := hlasts _ _ _ hfire ((episode?_later 1.5 secondWave).trans he')
    · exact hgoes
    · cases hbeat
    · cases hv
      rw [hstale, hnumber'] at hp
      cases hp
  -- half a second later its own end is due
  have hpassed : History 0 eager [second, first] staleEnd := hwaited.quiet hfire (by decide +kernel)
  obtain ⟨hwaves, -, -, hframes, hthrough, -⟩ := hall hpassed
  have hpending : ∀ v ∈ staleEnd.scheduler.timers, ∃ j n, v.purpose = .waveEnd j n := by
    intro v hv
    cases hp : v.purpose with
    | waveEnd j n => exact ⟨j, n, rfl⟩
    | guest g => exact g.elim
  obtain ⟨u, hu⟩ := hthrough .absent 0.5 (by decide +kernel) hpending
  have hown : (Stage.timerPhase (handlers .absent) 0 0.5).run staleEnd = (.ok (), ownEnd) := by rw [ownEnd, hu]
  obtain ⟨new, -, hover⟩ := (hframes .absent ⟨nofun, nofun⟩ 0.5 (by decide +kernel)).2 ownEnd hown
  exact ⟨first, second, hnumber, hnumber', hwaves, he, hstopped, he', hgoes, hown, hle,
    hover second (List.mem_append_right _ List.mem_cons_self) helapses hle⟩

end Bystander.Bot
