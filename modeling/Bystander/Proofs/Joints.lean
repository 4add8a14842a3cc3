import Bystander.Proofs.Outings
import Bystander.Proofs.Limbs
/-! # The joints of a bot on its stage

What a brain accounts for in its own scene it accounts for on the stage, whatever else is called there, whichever timers
fire, and whoever stops what by hand (`joints_accounted_for`).  A bot that is sure to move is an example: when it waves
and walks its elbow and its legs are held.
-/
namespace Bystander.Bot

open Act (Obeys)

variable {α γ : Type} [Scalar α]

/-- **What can happen** while the bot's brain at one place acts: frames with whatever guests, single updates, timers of
any wave, calls by hand, and all that concerns neither brains nor joints.  Guests may do any of this. -/
inductive Happens (k : Nat) : BotStage α γ → BotStage α γ → Prop
  | refl (s : BotStage α γ) : Happens k s s
  | trans {s t u : BotStage α γ} : Happens k s t → Happens k t u → Happens k s u
  | elsewhere {s t : BotStage α γ} :
    t.cast.brains = s.cast.brains → t.avatar.joints = s.avatar.joints → Happens k s t
  | frame (guests : Guests α γ) (delta : α) :
    (∀ g s, Happens k s ((guests.onTimer g).run s).2) → (∀ g s, Happens k s ((guests.onFrame g delta).run s).2) →
    ∀ s, Happens k s ((step guests delta).run s).2
  | update (delta : α) (s : BotStage α γ) : Happens k s ((onBrain k (Brain.frame (.waveEnd k) delta)).run s).2
  | timer (number : Int) (s : BotStage α γ) : Happens k s ((onBrain k (Wave.stop (some number))).run s).2
  | stopWaving (s : BotStage α γ) : Happens k s ((onBrain k (Wave.stop none)).run s).2
  | stopWalking (s : BotStage α γ) : Happens k s ((onBrain k Walk.release).run s).2
  | playSound (s : BotStage α γ) : Happens k s ((onBrain k Chatter.play).run s).2
  | close (s : BotStage α γ) : Happens k s ((onBrain k Brain.close).run s).2

theorem Happens.frame_absent {k : Nat} (delta : α) (s : BotStage α Empty) :
    Happens k s ((step .absent delta).run s).2 :=
  .frame .absent delta nofun nofun s

/-- One brain has its joints accounted for, and all others are closed. -/
structure Accounted (k : Nat) (s : BotStage α γ) : Prop where
  own : ∀ brain, s.cast.brains[k]? = some brain → (scene s brain).Accounted
  others : ∀ j brain, j ≠ k → s.cast.brains[j]? = some brain → brain.closed = true

omit [Scalar α] in
theorem Accounted.elsewhere {k : Nat} {s t : BotStage α γ} (h : Accounted k s)
    (hbrains : t.cast.brains = s.cast.brains) (hjoints : t.avatar.joints = s.avatar.joints) : Accounted k t where
  own brain hb hopen := by
    change brain.state.AccountsFor t.avatar.joints
    rw [hjoints]
    exact h.own brain (hbrains ▸ hb) hopen
  others j brain hj hb := h.others j brain hj (hbrains ▸ hb)

omit [Scalar α] in
theorem keeps_onBrain_self {β : Type} {k : Nat} {play : Play α (Callback γ) (Alarm γ) β}
    (h : Obeys (keeping Scene.Accounted) play) : Obeys (keeping (Accounted k)) (onBrain k play) := by
  refine obeys_onBrain fun s brain hb hs => ⟨fun after hafter => ?_, fun j other hj hother => ?_⟩
  · rw [brains_withScene_self hb] at hafter
    cases hafter
    exact h (scene s brain) (hs.own brain hb)
  · rw [brains_withScene_ne hj] at hother
    exact hs.others j other hj hother

omit [Scalar α] in
theorem keeps_onBrain {β : Type} {k : Nat} {play : Play α (Callback γ) (Alarm γ) β}
    (h : Obeys (keeping Scene.Accounted) play)
    (hclosed : ∀ c : Scene α (Callback γ) (Alarm γ), c.brain.closed = true → (play.run c).2 = c) (serial : Nat) :
    Obeys (keeping (Accounted k)) (onBrain serial play) := by
  by_cases hserial : serial = k
  · subst hserial
    exact keeps_onBrain_self h
  · refine obeys_onBrain fun s brain hb hs => ?_
    rw [hclosed (scene s brain) (hs.others serial brain hserial hb), withScene_scene hb]
    exact hs

theorem keeps_step {k : Nat} {guests : Guests α γ} {delta : α}
    (htimers : ∀ g, Obeys (keeping (Accounted k)) (guests.onTimer g))
    (hframes : ∀ g, Obeys (keeping (Accounted k)) (guests.onFrame g delta)) :
    Obeys (keeping (Accounted k)) (step guests delta) := by
  refine obeys_step (fun _ _ _ hs => hs.elsewhere rfl rfl) ?_ (fun _ _ _ _ _ _ hs => hs.elsewhere rfl rfl) htimers ?_
    hframes
  · intro s t scheduler serial number _ _ hs
    exact keeps_onBrain (Wave.keeps_stop _) (fun _ hc => congrArg Prod.snd (Wave.run_stop_closed _ hc)) serial
      { s with scheduler } (hs.elsewhere rfl rfl)
  · intro serial
    exact keeps_onBrain (Brain.keeps_frame _ delta) (fun _ hc => congrArg Prod.snd (Brain.run_frame_closed _ delta hc))
      serial

/-- **Whatever happens keeps the account.** -/
theorem Happens.accounted {k : Nat} {s t : BotStage α γ} (h : Happens k s t) : Accounted k s → Accounted k t := by
  induction h with
  | refl => exact id
  | trans _ _ ih ih' => exact fun hs => ih' (ih hs)
  | elsewhere hbrains hjoints => exact fun hs => hs.elsewhere hbrains hjoints
  | frame guests delta _ _ s htimers hframes => exact keeps_step htimers hframes s
  | update delta s => exact keeps_onBrain_self (Brain.keeps_frame _ delta) s
  | timer number s => exact keeps_onBrain_self (Wave.keeps_stop _) s
  | stopWaving s => exact keeps_onBrain_self (Wave.keeps_stop _) s
  | stopWalking s => exact keeps_onBrain_self Walk.keeps_release s
  | playSound s => exact keeps_onBrain_self Chatter.keeps_play s
  | close s => exact keeps_onBrain_self Brain.keeps_close s

/-- **Joint overrides are accounted for** as long as a brain is open that was started on an avatar without any. -/
theorem joints_accounted_for {k : Nat} {s t : BotStage α γ} {settings : Settings α} {bounds : Bounds α}
    {clips : List (Clip α)} {spawn : Vec3 α} (hempty : s.avatar.joints = [])
    (hbrain : s.cast.brains[k]? = some (.opening settings bounds clips spawn s.avatar))
    (hothers : ∀ j brain, j ≠ k → s.cast.brains[j]? = some brain → brain.closed = true) (h : Happens k s t) :
    ∀ brain, t.cast.brains[k]? = some brain → brain.closed = false → brain.state.AccountsFor t.avatar.joints := by
  have hstart : Accounted k s := by
    refine ⟨fun brain hb _ => ?_, hothers⟩
    rw [hbrain] at hb
    cases hb
    change (BotState.opening _ _ _).AccountsFor s.avatar.joints
    rw [hempty]
    exact BotState.accountsFor_empty rfl rfl
  exact (h.accounted hstart).own

/-! ### An outing -/

/-- A bot that waves and walks whenever it can and never arrives. -/
noncomputable def rover : BotConfig ℝ :=
  { BotConfig.standard with
    assets := ⟨"assets", some 7⟩
    settings := { Settings.standard with
      wave := { WaveSettings.standard with chance := 1.0 }
      walk := { WalkSettings.standard with chance := 1.0, stopTolerance := 0.0 } } }

noncomputable def started : BotStage ℝ Empty := ((start rover).run (waiting (.seeded 0))).2

noncomputable def setOut : BotStage ℝ Empty := ((step .absent 0.1).run started).2

noncomputable def underway : BotStage ℝ Empty := ((step .absent 0.1).run setOut).2

/-- After a long frame wave and walk are stopped by hand. -/
noncomputable def halted : BotStage ℝ Empty :=
  ((onBrain 0 Walk.release).run ((onBrain 0 (Wave.stop none)).run ((step .absent 5.0).run underway).2).2).2

theorem start_rover : (start rover).run (waiting (.seeded 0)) = (.ok false, started) := rfl

theorem short_not_negative : ¬ (0.1 : ℝ) < 0.0 := by norm_num

theorem surely_seeded : (Source.seeded 0 : Source ℝ).Surely 1.0 :=
  Source.surely_real (Source.fair_seeded 0) (by norm_num)

theorem untroubled_rover : rover.settings.Untroubled (.seeded 0) := by
  have hdurations : (0 : ℝ) ≤ 1000.0 ∧ (0 : ℝ) ≤ 2000.0 := by norm_num
  exact Settings.untroubled_real ViewSettings.not_stuck_standard (Source.fair_seeded 0) hdurations

theorem chance_rover : (rover.settings.walk.chance == 0.0) = false :=
  Scalar.beq_zero_of_ne (show (1.0 : ℝ) ≠ 0 by norm_num)

/-- A wave of the rover lasts from one to three seconds. -/
theorem duration_rover {r : ℝ} (hr : (Source.seeded 0 : Source ℝ).Gives r) :
    1 ≤ rover.settings.wave.duration r / 1000.0 ∧ rover.settings.wave.duration r / 1000.0 ≤ 3 := by
  obtain ⟨t, ht, rfl⟩ := hr
  obtain ⟨hlow, hhigh⟩ := (Source.fair_seeded 0 : (Source.seeded 0 : Source ℝ).Fair).fraction ht
  change 1 ≤ ((1000.0 : ℝ) + t.draw.1 * 2000.0) / 1000.0 ∧ ((1000.0 : ℝ) + t.draw.1 * 2000.0) / 1000.0 ≤ 3
  constructor <;> norm_num <;> linarith

/-- **The first frame** starts a wave and a walk, and the end of the wave is pending. -/
theorem shows_setOut : ∃ d time, Shows setOut d ∧ d.Lone ∧ d.InOrder rover.settings (.seeded 0) time ∧
    d.brain.state.walk = .walking ∧ d.brain.state.episode.isSome = true ∧ setOut.scheduler.now = 0.1 ∧
    ∃ timer ∈ setOut.scheduler.timers, 1.1 ≤ timer.due ∧ timer.due ≤ 3.1 := by
  obtain ⟨c, hc, hlone, horder, spawn, avatar, hbrain⟩ := inOrder_of_start start_rover
  have hidle : c.brain.state.wave = .idle := by
    rw [hbrain]
    rfl
  obtain ⟨t, d, hr, ht, hlone', horder', hwalk, hwave⟩ :=
    sets_out_at_once start_rover untroubled_rover short_not_negative chance_rover surely_seeded
  obtain ⟨hwaving, hepisode, -⟩ := hwave surely_seeded
  obtain ⟨r, hgives, timer, htimer, hdue⟩ :=
    hc.end_pending untroubled_rover hlone horder short_not_negative hidle hr ht hwaving
  have hreached : setOut = t := congrArg Prod.snd hr
  have hnow : setOut.scheduler.now = started.scheduler.now + 0.1 := (hc.turns_step hlone short_not_negative).now
  have hzero : started.scheduler.now = 0 := Scalar.zero_literal
  rw [hzero] at hdue hnow
  obtain ⟨hlow, hhigh⟩ := duration_rover hgives
  rw [hreached] at hnow ⊢
  refine ⟨d, _, ht, hlone', horder', hwalk.walking, hepisode, hnow.trans (zero_add _), timer, htimer, ?_, ?_⟩
  · rw [hdue]
    norm_num at hlow ⊢
    linarith
  · rw [hdue]
    norm_num at hhigh ⊢
    linarith

/-- **The second frame** goes on with both: elbow and legs are held, and the end of the wave is still pending. -/
theorem shows_underway : ∃ e time, Shows underway e ∧ e.Lone ∧ e.InOrder rover.settings (.seeded 0) time ∧
    e.brain.state.wave = .waving ∧ e.brain.state.walk = .walking ∧
    (∀ joint ∈ Joint.elbow :: Walk.legs, e.avatar.joints.get? joint.index ≠ none) ∧
    ∃ timer ∈ underway.scheduler.timers, timer.due ≤ underway.scheduler.now + 5.0 := by
  obtain ⟨d, time, hd, hlone, horder, hwalk, hepisode, hnow, timer, htimer, hlow, hhigh⟩ := shows_setOut
  obtain ⟨t, e, hr, ht, hlone', horder', hwaves, -, hwalks⟩ :=
    hd.run_step_surely untroubled_rover hlone horder short_not_negative chance_rover fun _ => hepisode
  obtain ⟨hwaving, -, helbow⟩ := hwaves surely_seeded
  obtain ⟨hgait, hlegs⟩ := hwalks hwalk
  have hwalking : e.brain.state.walk = .walking := by
    have htolerance : d.gait.settings.walk.stopTolerance = 0.0 :=
      congrArg (fun settings : Settings ℝ => settings.walk.stopTolerance) horder.told
    have hfar : ¬ (d.gait.next - d.gait.target).length < d.gait.settings.walk.stopTolerance := by
      rw [htolerance, Scalar.zero_literal]
      exact not_lt.2 (Vec3.length_nonneg _)
    rw [Gait.strode_of_far hfar] at hgait
    exact congrArg Gait.phase hgait
  have hreached : underway = t := congrArg Prod.snd hr
  have hturns : setOut.scheduler.Turns underway.scheduler 0.1 := hd.turns_step hlone short_not_negative
  refine ⟨e, _, hreached ▸ ht, hlone', horder', hwaving, hwalking, fun joint hj => ?_, timer, ?_, ?_⟩
  · obtain rfl | hleg := List.mem_cons.1 hj
    · exact helbow
    · exact hlegs hwalking joint hleg
  · refine hturns.stay timer htimer ?_
    rw [hnow]
    norm_num at hlow ⊢
    linarith
  · rw [hturns.now, hnow]
    norm_num at hhigh ⊢
    linarith

theorem ordered_underway : underway.scheduler.Ordered := by
  have hfresh : started.scheduler.Ordered := Scheduler.ordered_fresh.connect _
  have helapses : Scalar.Elapses (0.1 : ℝ) := ⟨rfl, short_not_negative⟩
  obtain ⟨c, hc, hlone, -⟩ := inOrder_of_start start_rover
  obtain ⟨d, time, hd, hlone', -⟩ := shows_setOut
  have hsetOut : setOut.scheduler.Ordered := (hc.turns_step hlone short_not_negative).ordered hfresh helapses
  exact (hd.turns_step hlone' short_not_negative).ordered hsetOut helapses

/-- **Two frames, the end of a wave, and two stops by hand** of the rover. -/
theorem joints_accounted_for_outing :
    (∃ brain, underway.cast.brains = [brain] ∧ brain.closed = false ∧ brain.state.wave = .waving ∧
      brain.state.walk = .walking ∧
      (∀ joint ∈ Joint.elbow :: Walk.legs, underway.avatar.joints.get? joint.index ≠ none) ∧
      brain.state.AccountsFor underway.avatar.joints) ∧
    (∃ timer ∈ underway.scheduler.timers, timer ∉ halted.scheduler.timers) ∧
    ∃ brain, halted.cast.brains = [brain] ∧ brain.closed = false ∧ brain.state.wave = .idle ∧
      brain.state.AccountsFor halted.avatar.joints := by
  have hlong : Scalar.Elapses (5.0 : ℝ) := ⟨rfl, by norm_num⟩
  obtain ⟨e, time, he, hlone, horder, hwaving, hwalking, hheld, timer, htimer, hdue⟩ := shows_underway
  -- the end of the wave fires, another one starts, and both are stopped by hand
  obtain ⟨-, t, f, -, -, -, hr, ht, hlone', -⟩ := he.run_step_untroubled untroubled_rover hlone horder hlong.2
  obtain ⟨u, hstop, hu⟩ := ht.run_onBrain (Wave.stop none)
  rw [Wave.run_stop_concerned hlone'.opened rfl] at hstop hu
  obtain ⟨v, hrelease, hv⟩ := hu.run_onBrain Walk.release
  have hreached : halted = v := by rw [halted, hr, hstop, hrelease]
  have hgone : timer ∉ halted.scheduler.timers := by
    have hturns := (he.turns_step hlone hlong.2).go ordered_underway hlong timer htimer hdue
    rw [hr] at hturns
    rw [hreached, hv.scheduler]
    rw [ht.scheduler] at hturns
    exact hturns
  have haccounts {t : BotStage ℝ Empty} (h : Happens 0 started t) :=
    joints_accounted_for (k := 0) (s := started) rfl rfl (fun j other hj hother => by
      cases j with
      | zero => exact absurd rfl hj
      | succ j => cases hother) h
  have hframes : Happens 0 started underway := .trans (.frame_absent 0.1 started) (.frame_absent 0.1 setOut)
  have hstops : Happens 0 started halted :=
    .trans hframes (.trans (.frame_absent 5.0 underway) (.trans (.stopWaving _) (.stopWalking _)))
  refine ⟨⟨e.brain, he.brains, hlone.opened, hwaving, hwalking, he.avatar ▸ hheld, ?_⟩, ⟨timer, htimer, hgone⟩,
    (Walk.release.run (Wave.ended f)).2.brain, hreached ▸ hv.brains, hlone'.opened, rfl, ?_⟩
  · exact haccounts hframes e.brain (by rw [he.brains]; rfl) hlone.opened
  · exact haccounts hstops _ (by rw [hreached, hv.brains]; rfl) hlone'.opened

end Bystander.Bot
