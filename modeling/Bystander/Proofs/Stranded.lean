import Bystander.Proofs.Outcomes
import Bystander.Proofs.Overrides
import Bystander.Proofs.WaveEnds
/-! # Waves that nothing ends

A start says that the brain waves before it asks for the timer that ends the wave.  Where that timer is refused, the
start fails and takes nothing back: the brain waves, no timer is pending that would end its wave, and only a stop by
hand does.  A refused duration is all that leads there.
-/
namespace Bystander

open Scalar (Elapses)
open Act (Obeys run_bind)

variable {α κ τ γ : Type} [Scalar α]

/-- **A start whose duration elapses** has its timer registered. -/
theorem Wave.run_start_of_elapses (ending : Nat → τ) {s : Scene α κ τ}
    (h : Elapses (s.brain.arm.nextDuration s.source)) : ∃ t,
      (start ending).run s = (.ok (s.brain.arm.nextEpisode s.source), t) ∧
        t.brain.arm = s.brain.arm.begun s.source ∧
        ⟨s.scheduler.now + s.brain.arm.nextDuration s.source / 1000.0, s.scheduler.nextSerial,
          ending (s.brain.arm.count + 1)⟩ ∈ t.scheduler.timers := by
  rw [run_start, Scheduler.setTimeout, if_pos ((Scheduler.acceptsDelay_iff _).2 h)]
  exact ⟨_, rfl, rfl, (Scheduler.mem_enqueue _ _ _).2 (Or.inl rfl)⟩

/-- **A start whose duration is refused** fails and leaves a brain that waves. -/
theorem Wave.run_start_of_refused (ending : Nat → τ) {s : Scene α κ τ}
    (h : ¬ Elapses (s.brain.arm.nextDuration s.source)) :
    (start ending).run s = (.error (.timerDelay (s.brain.arm.nextDuration s.source)), begun s) := by
  rw [run_start, Scheduler.setTimeout, if_neg (mt (Scheduler.acceptsDelay_iff _).1 h)]

/-- **A frame that starts a wave whose duration is refused** fails. -/
theorem Brain.answer_frame_of_refused (ending : Nat → τ) (delta : α) {s : Scene α κ τ} (hopen : s.brain.closed = false)
    (hrefused : ¬ Elapses (s.brain.arm.nextDuration s.source.draw.2))
    (hcount : ((frame ending delta).run s).2.brain.arm.count ≠ s.brain.arm.count) :
    ((frame ending delta).run s).1 = .error (.timerDelay (s.brain.arm.nextDuration s.source.draw.2)) := by
  have hview : ∀ c : Scene α κ τ, View.Touches c ((discard View.frame).run c).2 := View.obeys_frame.map _
  obtain ⟨viewer, lastRefresh, queries, -, hc⟩ := hview (begin delta s)
  rw [run_frame_open ending delta hopen, behave, run_bind] at hcount ⊢
  rcases hr : (discard View.frame).run (begin delta s) with ⟨fault | u, c⟩
  · rw [hr] at hc hcount
    dsimp only at hc hcount
    rw [hc] at hcount
    exact absurd rfl hcount
  · rw [hr] at hc hcount
    dsimp only at hc hcount ⊢
    have harm : c.brain.arm = s.brain.arm := by rw [hc]; rfl
    have hsource : c.drawn.source = s.source.draw.2 := by rw [hc]; rfl
    rw [run_bind] at hcount ⊢
    -- behaviours after a wave's frame that answers leave the number of waves alone
    have hrest : ∀ d : Scene α κ τ, d.brain.arm = s.brain.arm →
        ((do discard Chatter.frame; Head.frame; Walk.frame : Play α κ τ Unit).run d).2.brain.arm.count =
          s.brain.arm.count := fun d hd => congrArg Arm.count ((congrArg Prod.snd (Arm.obeys_rest d)).trans hd)
    rcases Wave.frame_cases ending c with ⟨-, hw | ⟨scheduler, hs, -⟩ | ⟨fault, hs, hw⟩⟩ | ⟨-, result, joints, hw⟩
    · rw [hw] at hcount
      exact absurd (hrest c.drawn harm) hcount
    · rw [harm, hsource] at hs
      exact absurd (Scheduler.setTimeout_eq_ok hs).1 hrefused
    · rw [harm, hsource, Scheduler.setTimeout, if_neg (mt (Scheduler.acceptsDelay_iff _).1 hrefused)] at hs
      cases hs
      rw [hw]
    · rw [hw] at hcount
      cases result with
      | error fault => exact absurd (congrArg Arm.count harm) hcount
      | ok u => exact absurd (hrest { c with avatar := { c.avatar with joints } } harm) hcount

namespace Bot

/-- A brain waves and no timer is pending that would end its wave. -/
def Stranded (k : Nat) (s : BotStage α γ) : Prop := ∃ e, episode? k s = some e ∧ s.scheduler.ends k e.number = []

namespace Waves

variable {k : Nat} {s t : BotStage α γ} {waves : List (Started α)}

/-- **A wave that lasts has no end pending** exactly if its duration was refused. -/
theorem ends_eq_nil_iff (h : Waves k s waves) {w : Started α} (hw : w ∈ waves)
    (he : episode? k s = some w.episode) : s.scheduler.ends k w.episode.number = [] ↔ ¬ Elapses w.duration := by
  obtain ⟨v, earlier, hwaves, hvw, hdues⟩ := h.current he
  have hv : v ∈ waves := hwaves ▸ List.mem_cons_self
  rw [h.eq_of_episode hv hw hvw] at hdues
  rw [← List.map_eq_nil_iff (f := Timer.due), hdues, ← Scheduler.acceptsDelay_iff]
  split <;> simp_all

/-- **The strandings are the refusals.** -/
theorem stranded_iff (h : Waves k s waves) :
    Stranded k s ↔ ∃ w earlier, waves = w :: earlier ∧ episode? k s = some w.episode ∧ ¬ Elapses w.duration := by
  constructor
  · rintro ⟨e, he, hnone⟩
    obtain ⟨w, earlier, hwaves, rfl, -⟩ := h.current he
    exact ⟨w, earlier, hwaves, he, (h.ends_eq_nil_iff (hwaves ▸ List.mem_cons_self) he).1 hnone⟩
  · rintro ⟨w, earlier, hwaves, he, hrefused⟩
    exact ⟨w.episode, he, (h.ends_eq_nil_iff (hwaves ▸ List.mem_cons_self) he).2 hrefused⟩

end Waves

/-! ## What becomes of a refused wave -/

/-- A wave that was started lasts. -/
def Lasting (k : Nat) (w : Started α) (s : BotStage α γ) : Prop :=
  ∃ waves, Waves k s waves ∧ w ∈ waves ∧ episode? k s = some w.episode

namespace Lasting

variable [Timekeeping α] {k : Nat} {w : Started α} {s t : BotStage α γ}

omit [Timekeeping α] in
theorem stranded (h : Lasting k w s) (hrefused : ¬ Elapses w.duration) :
    episode? k s = some w.episode ∧ s.scheduler.ends k w.episode.number = [] := by
  obtain ⟨waves, hs, hw, he⟩ := h
  exact ⟨he, (hs.ends_eq_nil_iff hw he).2 hrefused⟩

/-- **A refused wave lasts** through every move but a stop by hand: no end that fires is its own. -/
theorem moves (h : Lasting k w s) (hrefused : ¬ Elapses w.duration) {beat : Beat α γ} (hm : Moves k beat s t)
    (hstop : beat ≠ .stop) : Lasting k w t := by
  obtain ⟨waves, hs, hw, he⟩ := h
  refine ⟨_, hs.moves hm, List.mem_append_right _ hw, ?_⟩
  rcases hs.lasts hm he with hlasts | ⟨-, hstopped | ⟨u, v, -, -, hv, hve, hd, -⟩⟩
  · exact hlasts
  · exact absurd hstopped hstop
  · rw [hs.eq_of_episode hv hw hve] at hd
    exact absurd hd hrefused

variable {guests : Guests α γ} {delta : α}

/-- **No frame ends a refused wave**, unless a guest does. -/
theorem obeys_step (hrefused : ¬ Elapses w.duration) (hd : Elapses delta)
    (htimers : ∀ g, Obeys (keeping (Lasting k w)) (guests.onTimer g))
    (hframes : ∀ g, Obeys (keeping (Lasting k w)) (guests.onFrame g delta)) :
    Obeys (keeping (Lasting k w)) (step guests delta) := by
  refine Bot.obeys_step (fun s scheduler hs h => h.moves hrefused (.clock hd hs) nofun)
    (fun s t scheduler j n hdue hp h => h.moves hrefused (.fire hdue hp) nofun)
    (fun s t scheduler g hdue hp h => h.moves hrefused (.aside (aside_guest hdue hp)) nofun) htimers
    (fun serial s h => ?_) hframes
  obtain ⟨waves, hs, -, -⟩ := id h
  obtain ⟨beat, hm, hstop⟩ := hs.exists_moves_frame serial
  exact h.moves hrefused hm hstop

/-- **No loop of frames ends a refused wave**, however long it is and whichever of its frames fail. -/
theorem frames (h : Lasting k w s) (hrefused : ¬ Elapses w.duration) (hd : Elapses delta)
    (htimers : ∀ g, Obeys (keeping (Lasting k w)) (guests.onTimer g))
    (hframes : ∀ g, Obeys (keeping (Lasting k w)) (guests.onFrame g delta)) (n : Nat) :
    Lasting k w ((Stage.frames (handlers guests) 0 delta n).run s).2 := by
  obtain ⟨faults, t, hsteps, -, hr⟩ := Stage.exists_steps (handlers guests) 0 delta n s
  rw [hr]
  refine hsteps.obeys (R := keeping (Lasting k w)) (obeys_step hrefused hd htimers hframes) (fun event s h => ?_) h
  exact h.moves hrefused (.aside ⟨rfl, rfl, fun _ _ => rfl, id, .refl _⟩) nofun

end Lasting

/-- **A frame that starts a refused wave** fails with that refusal, and leaves the wave behind. -/
theorem Waves.frame_of_refused {k : Nat} {s : BotStage α γ} {waves : List (Started α)} (hs : Waves k s waves)
    (delta : α) {w : Started α}
    (hw : w ∈ startedIn k s ((onBrain k (Brain.frame (.waveEnd k) delta)).run s).2) (hrefused : ¬ Elapses w.duration) :
    ((onBrain k (Brain.frame (.waveEnd k) delta)).run s).1 = .error (.timerDelay w.duration) ∧
      episode? k ((onBrain k (Brain.frame (.waveEnd k) delta)).run s).2 = some w.episode := by
  obtain ⟨arm, harm, hopen, -⟩ := hs.own
  obtain ⟨brain, hb, rfl⟩ := getElem?_arms harm
  obtain ⟨hlt, -⟩ := List.getElem?_eq_some_iff.1 harm
  obtain ⟨-, ⟨-, harms⟩ | ⟨-, harms, -⟩⟩ := run_onBrain_frame harm delta
  · rw [startedIn_of_count harm (harms ▸ harm) rfl] at hw
    cases hw
  · have hafter := congrArg (·[k]?) harms
    rw [List.getElem?_set_self hlt] at hafter
    rw [startedIn_of_begun harm hafter] at hw
    obtain rfl := List.mem_singleton.1 hw
    refine ⟨?_, ?_⟩
    · have hbrain := getElem?_arms hafter
      rw [run_onBrain_some _ hb] at hbrain ⊢
      rw [brains_withScene_self hb] at hbrain
      obtain ⟨_, hbegun, harmBegun⟩ := hbrain
      cases hbegun
      exact Brain.answer_frame_of_refused _ delta (s := scene s brain) hopen hrefused
        (harmBegun ▸ Nat.succ_ne_self _)
    · unfold episode?
      rw [hafter]
      rfl

/-- **Starting a wave is not all or nothing.**  A start whose duration is refused fails with timers and avatar as they
were, but the brain waves by then and has counted the wave.  Whatever happened since a brain was opened, it is stranded
exactly if its latest wave lasts and was refused; a frame in which such a wave starts fails, every move but a stop by
hand lets the wave last, and so does every loop of frames whose guests do not stop it.  With fair chances and settings
whose durations elapse no brain is ever stranded. -/
theorem refused_waves_strand [Timekeeping α] {k : Nat} {s t : BotStage α γ} {settings : Settings α}
    {bounds : Bounds α} {clips : List (Clip α)} {spawn : Vec3 α} {avatar : Avatar α} {waves : List (Started α)}
    (hordered : s.scheduler.Ordered) (hbrain : s.cast.brains[k]? = some (.opening settings bounds clips spawn avatar))
    (hothers : ∀ j brain, j ≠ k → s.cast.brains[j]? = some brain → brain.closed = true)
    (hends : ∀ u ∈ s.scheduler.timers, ∀ j n, u.purpose = .waveEnd j n → j ≠ k ∧ j < s.cast.brains.length)
    (h : History k s waves t) :
    (∀ {κ τ : Type} (ending : Nat → τ) (c : Scene α κ τ),
      let duration := c.brain.arm.nextDuration c.source
      let d := ((Wave.start ending).run c).2
      d.brain.arm = c.brain.arm.begun c.source ∧
      (Elapses duration → ((Wave.start ending).run c).1 = .ok (c.brain.arm.nextEpisode c.source) ∧
        ⟨c.scheduler.now + duration / 1000.0, c.scheduler.nextSerial, ending (c.brain.arm.count + 1)⟩ ∈
          d.scheduler.timers) ∧
      (¬ Elapses duration → ((Wave.start ending).run c).1 = .error (.timerDelay duration) ∧
        d.scheduler = c.scheduler ∧ d.avatar = c.avatar)) ∧
    (Stranded k t ↔ ∃ w earlier, waves = w :: earlier ∧ episode? k t = some w.episode ∧ ¬ Elapses w.duration) ∧
    (∀ delta, let u := ((onBrain k (Brain.frame (.waveEnd k) delta)).run t).2
      ∀ w ∈ startedIn k t u, ¬ Elapses w.duration →
        ((onBrain k (Brain.frame (.waveEnd k) delta)).run t).1 = .error (.timerDelay w.duration) ∧
          episode? k u = some w.episode ∧ u.scheduler.ends k w.episode.number = []) ∧
    (∀ w ∈ waves, ¬ Elapses w.duration → episode? k t = some w.episode →
      (∀ beat u, Moves k beat t u → beat ≠ .stop →
        episode? k u = some w.episode ∧ u.scheduler.ends k w.episode.number = []) ∧
      ∀ (guests : Guests α γ) delta, Elapses delta → (∀ g, Obeys (keeping (Lasting k w)) (guests.onTimer g)) →
        (∀ g, Obeys (keeping (Lasting k w)) (guests.onFrame g delta)) → ∀ n,
          let u := ((Stage.frames (handlers guests) 0 delta n).run t).2
          episode? k u = some w.episode ∧ u.scheduler.ends k w.episode.number = []) ∧
    (s.cast.source.Fair →
      (∀ r : α, 0.0 ≤ r → r < 1.0 → Elapses (settings.wave.minDuration + r * settings.wave.durationJitter)) →
      ¬ Stranded k t) := by
  have hstart := waves_opening hordered hbrain hothers hends
  have hwaves : Waves k t waves := by
    have hkept := hstart.history h
    rw [List.append_nil] at hkept
    exact hkept
  refine ⟨fun ending c => ?_, hwaves.stranded_iff, fun delta w hw hrefused => ?_, fun w hw hrefused he => ?_,
    fun hfair hlasting hstranded => ?_⟩
  · by_cases hd : Elapses (c.brain.arm.nextDuration c.source)
    · obtain ⟨d, hr, harm, htimer⟩ := Wave.run_start_of_elapses ending hd
      rw [hr]
      exact ⟨harm, fun _ => ⟨rfl, htimer⟩, fun hrefused => absurd hd hrefused⟩
    · rw [Wave.run_start_of_refused ending hd]
      exact ⟨rfl, fun helapses => absurd helapses hd, fun _ => ⟨rfl, rfl, rfl⟩⟩
  · obtain ⟨hanswer, he⟩ := hwaves.frame_of_refused delta hw hrefused
    have hafter : Lasting k w _ := ⟨_, hwaves.frame delta, List.mem_append_left _ hw, he⟩
    exact ⟨hanswer, hafter.stranded hrefused⟩
  · have hlasting : Lasting k w t := ⟨waves, hwaves, hw, he⟩
    exact ⟨fun beat u hm hstop => (hlasting.moves hrefused hm hstop).stranded hrefused,
      fun guests delta hd htimers hframes n => (hlasting.frames hrefused hd htimers hframes n).stranded hrefused⟩
  · obtain ⟨w, earlier, rfl, -, hrefused⟩ := hwaves.stranded_iff.1 hstranded
    refine hrefused ((h.elapses hstart (fun arm harm => ?_) hfair hlasting).2.2 w List.mem_cons_self)
    obtain ⟨brain, hb, rfl⟩ := getElem?_arms harm
    rw [hbrain] at hb
    cases hb
    rfl

/-- A wave that should last minus one second is refused at its start and never ends. -/
theorem refused_waves_strand_backward :
    let wave : WaveSettings Float :=
      { WaveSettings.standard with chance := 1.0, minDuration := -1000.0, durationJitter := 0.0 }
    let brain : Brain Float := .opening { Settings.standard with wave } .standard [] .zero .fresh
    let s : BotStage Float Empty := { Host.fresh with cast := ⟨.scripted [] 0.5, [brain], none⟩ }
    let t := ((onBrain 0 (Brain.frame (.waveEnd 0) 0.5)).run s).2
    Stranded 0 t ∧ ∀ n, Stranded 0 ((Stage.frames (handlers .absent) 0 0.5 n).run t).2 := by
  intro wave brain s t
  have hcount : (arms t)[0]?.map Arm.count = some 1 := by decide +kernel
  have hafter : (arms t)[0]? = some (brain.arm.begun s.cast.source.draw.2) := by
    have harm : (arms s)[0]? = some brain.arm := rfl
    obtain ⟨-, ⟨-, harms⟩ | ⟨-, harms, -⟩⟩ := run_onBrain_frame harm 0.5
    · have hsame := congrArg (fun a => a[0]?.map Arm.count) harms
      rw [hcount] at hsame
      cases hsame
    · exact congrArg (·[0]?) harms
  have hepisode : episode? 0 t = some (brain.arm.nextEpisode s.cast.source.draw.2) :=
    congrArg (·.bind Arm.episode) hafter
  have hrefused : ¬ Elapses (brain.arm.nextDuration s.cast.source.draw.2) := fun h => h.2 (by decide +kernel)
  have hhistory := History.start.move (Moves.frame (k := 0) 0.5 s)
  rw [startedIn_of_begun rfl hafter] at hhistory
  obtain ⟨-, hstranded, -, hlasts, -⟩ := refused_waves_strand Scheduler.ordered_fresh rfl
    (fun j brain hj hb => by
      cases j with
      | zero => exact absurd rfl hj
      | succ j => cases hb)
    (fun u hu => by cases hu) hhistory
  obtain ⟨-, hloops⟩ := hlasts _ List.mem_cons_self hrefused hepisode
  exact ⟨hstranded.2 ⟨_, _, rfl, hepisode, hrefused⟩,
    fun n => ⟨_, hloops .absent 0.5 ⟨by decide, by decide⟩ nofun nofun n⟩⟩

end Bot
end Bystander
