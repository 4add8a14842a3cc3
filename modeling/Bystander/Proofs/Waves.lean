import Bystander.Proofs.Arms
import Bystander.Proofs.Chances
import Bystander.Proofs.Queue
/-! # The account of the waves

Timers cannot be taken back, so a wave that was stopped by hand leaves its timer behind, to fire while the arm rests
or during a later wave.  The account says how the waves that were started so far stand to the arm and to the timers
(`Arm.Timed`): no two waves have the same number, each pending end belongs to one of them, and the one that lasts has
its own end pending, once, unless the scheduler refused its duration.  Whatever happens to the stage keeps the account
(`Bot.Waves.history`).
-/
namespace Bystander

open Scalar (Elapses)

variable {α γ τ : Type} [Scalar α]

/-- A wave that was started: its episode, the clock at its start, and its duration in milliseconds. -/
structure Started (α : Type) where
  episode : Episode α
  since : α
  duration : α

def Started.due (w : Started α) : α := w.since + w.duration / 1000.0

/-- **The account of the waves** of an arm, the latest first, with the pending ends of each number. -/
structure Arm.Timed (arm : Arm α) (pending : Nat → List (Timer α τ)) (waves : List (Started α)) : Prop where
  phase : arm.phase = .waving ↔ arm.episode.isSome = true
  numbers : waves.Pairwise fun w v => v.episode.number < w.episode.number
  counted : ∀ w ∈ waves, w.episode.number ≤ arm.count
  waiting : ∀ n, ∀ t ∈ pending n, ∃ w ∈ waves, w.episode.number = n ∧ Elapses w.duration ∧ t.due = w.due
  single : ∀ n, (pending n).length ≤ 1
  /-- The wave that lasts is the latest; its end is pending, once, exactly if its duration was accepted. -/
  current : ∀ e, arm.episode = some e → e.number = arm.count ∧ ∃ w earlier, waves = w :: earlier ∧ w.episode = e ∧
    (pending e.number).map Timer.due = if Scheduler.acceptsDelay w.duration then [w.due] else []

namespace Arm.Timed

variable {arm : Arm α} {pending pending' : Nat → List (Timer α τ)} {waves : List (Started α)}

theorem congr (h : arm.Timed pending waves) (heq : ∀ n, pending' n = pending n) : arm.Timed pending' waves := by
  have : pending' = pending := funext heq
  rw [this]
  exact h

theorem none_above (h : arm.Timed pending waves) {n : Nat} (hn : arm.count < n) : pending n = [] := by
  refine List.eq_nil_iff_forall_not_mem.2 fun t ht => ?_
  obtain ⟨w, hw, hnumber, -⟩ := h.waiting n t ht
  have hle := h.counted w hw
  omega

theorem less (h : arm.Timed pending waves) (hsub : ∀ n, (pending' n).Sublist (pending n))
    (hown : ∀ e, arm.episode = some e → pending' e.number = pending e.number) : arm.Timed pending' waves where
  phase := h.phase
  numbers := h.numbers
  counted := h.counted
  waiting n t ht := h.waiting n t ((hsub n).subset ht)
  single n := Nat.le_trans (hsub n).length_le (h.single n)
  current e he := by
    rw [hown e he]
    exact h.current e he

theorem stopped (h : arm.Timed pending waves) (number : Option Int) : (arm.stopped number).Timed pending waves := by
  by_cases hc : arm.closed = false ∧ Wave.concerns number arm.episode = true
  · rw [Arm.stopped_of_concerned arm hc.1 hc.2]
    refine ⟨by simp, h.numbers, h.counted, h.waiting, h.single, fun e he => ?_⟩
    cases he
  · have hsame : arm.stopped number = arm := by
      unfold Arm.stopped
      rw [if_neg hc]
    rw [hsame]
    exact h

/-- **The end of a wave fires**: it ends the wave whose number it carries, and no other one. -/
theorem fired (h : arm.Timed pending waves) (hopen : arm.closed = false) {n : Nat}
    (hsub : ∀ m, (pending' m).Sublist (pending m)) (hother : ∀ m, m ≠ n → pending' m = pending m) :
    (arm.stopped (some (n : Int))).Timed pending' waves := by
  refine (h.stopped _).less hsub fun e he => ?_
  by_cases hc : Wave.concerns (some (n : Int)) arm.episode = true
  · rw [Arm.stopped_of_concerned arm hopen hc] at he
    cases he
  · rw [Bool.not_eq_true] at hc
    rw [Arm.stopped_of_stale hc] at he
    refine hother e.number fun heq => ?_
    rw [he, ← heq] at hc
    simp [Wave.concerns] at hc

/-- **A wave starts** with a number that no earlier wave had; its end is pending if its duration is accepted. -/
theorem begun (h : arm.Timed pending waves) (source : Source α) (now : α)
    (hother : ∀ m, m ≠ arm.count + 1 → pending' m = pending m)
    (hown : (pending' (arm.count + 1)).map Timer.due =
      if Scheduler.acceptsDelay (arm.nextDuration source) then [now + arm.nextDuration source / 1000.0] else []) :
    (arm.begun source).Timed pending' (⟨arm.nextEpisode source, now, arm.nextDuration source⟩ :: waves) := by
  have hbelow : ∀ w ∈ waves, w.episode.number < arm.count + 1 := fun w hw => Nat.lt_succ_of_le (h.counted w hw)
  refine ⟨by simp [Arm.begun], List.Pairwise.cons hbelow h.numbers, fun w hw => ?_, fun n t ht => ?_, fun n => ?_,
    fun e he => ?_⟩
  · rcases List.mem_cons.1 hw with rfl | hw
    · exact Nat.le_refl _
    · exact Nat.le_of_lt (hbelow w hw)
  · by_cases hn : n = arm.count + 1
    · rw [hn] at ht
      have hdue : t.due ∈ (pending' (arm.count + 1)).map Timer.due := List.mem_map_of_mem ht
      rw [hown] at hdue
      split at hdue
      · next ha =>
        have hd := (Scheduler.acceptsDelay_iff _).1 ha
        exact ⟨_, List.mem_cons_self, hn.symm, hd, List.mem_singleton.1 hdue⟩
      · cases hdue
    · rw [hother n hn] at ht
      obtain ⟨w, hw, hrest⟩ := h.waiting n t ht
      exact ⟨w, List.mem_cons_of_mem _ hw, hrest⟩
  · by_cases hn : n = arm.count + 1
    · have hlength := congrArg List.length hown
      rw [List.length_map] at hlength
      rw [hn, hlength]
      split <;> simp
    · rw [hother n hn]
      exact h.single n
  · cases he
    exact ⟨rfl, _, _, rfl, rfl, hown⟩

end Arm.Timed

/-! ## The ends that are pending -/

def Alarm.ends (k n : Nat) : Alarm γ → Bool
  | .waveEnd j m => j == k && m == n
  | .guest _ => false

omit [Scalar α] in
theorem Alarm.ends_iff {k n : Nat} {a : Alarm γ} : a.ends k n = true ↔ a = .waveEnd k n := by
  cases a <;> simp [Alarm.ends]

namespace Scheduler

variable {κ : Type} {s s' : Scheduler α κ (Alarm γ)}

def ends (k : Nat) (s : Scheduler α κ (Alarm γ)) (n : Nat) : List (Timer α (Alarm γ)) :=
  s.timers.filter fun t => t.purpose.ends k n

theorem filter_enqueue {p : Timer α τ → Bool} {t : Timer α τ} (hp : p t = false) :
    ∀ timers : List (Timer α τ), (enqueue t timers).filter p = timers.filter p
  | [] => by
    unfold enqueue
    rw [List.filter_cons, hp]
    rfl
  | head :: rest => by
    unfold enqueue
    split
    · rw [List.filter_cons, hp]
      rfl
    · rw [List.filter_cons, List.filter_cons, filter_enqueue hp rest]

theorem filter_enqueue_self {p : Timer α τ → Bool} {t : Timer α τ} (hp : p t = true) {timers : List (Timer α τ)}
    (hnone : timers.filter p = []) : (enqueue t timers).filter p = [t] := by
  have hperm := (perm_enqueue t timers).filter p
  rw [List.filter_cons, hp, if_pos rfl, hnone] at hperm
  exact List.perm_singleton.1 hperm

theorem ends_asked_ne {k m c : Nat} (hm : m ≠ c) (delay : α) :
    (s.asked (.waveEnd k c) delay).ends k m = s.ends k m := by
  unfold asked
  cases hs : s.setTimeout (.waveEnd k c) delay with
  | error fault => rfl
  | ok s' =>
    obtain ⟨-, rfl⟩ := setTimeout_eq_ok hs
    refine filter_enqueue ?_ s.timers
    simp [Alarm.ends, Ne.symm hm]

theorem ends_asked_self {k c : Nat} (hnone : s.ends k c = []) (delay : α) :
    ((s.asked (.waveEnd k c) delay).ends k c).map Timer.due =
      if acceptsDelay delay then [s.now + delay / 1000.0] else [] := by
  unfold asked setTimeout
  cases acceptsDelay delay with
  | false =>
    rw [if_neg Bool.false_ne_true, if_neg Bool.false_ne_true, hnone]
    rfl
  | true =>
    rw [if_pos rfl, if_pos rfl]
    have hp : (Alarm.waveEnd k c : Alarm γ).ends k c = true := by simp [Alarm.ends]
    exact congrArg (List.map Timer.due) (filter_enqueue_self hp hnone)

theorem ends_takeDue {t : Timer α (Alarm γ)} (hs : s.takeDue = some (t, s')) (k n : Nat) :
    (s'.ends k n).Sublist (s.ends k n) ∧ (t.purpose ≠ .waveEnd k n → s'.ends k n = s.ends k n) := by
  obtain ⟨rest, hq, -, rfl⟩ := takeDue_eq_some hs
  unfold ends
  rw [hq]
  refine ⟨(List.sublist_cons_self t rest).filter _, fun hne => ?_⟩
  have hp : t.purpose.ends k n = false := by
    rw [← Bool.not_eq_true, Alarm.ends_iff]
    exact hne
  rw [List.filter_cons, hp]
  rfl

end Scheduler

/-! ## One thing after another -/

namespace Bot

def arms (s : BotStage α γ) : List (Arm α) := s.cast.brains.map Brain.arm

/-- The waves that one brain started between two states, with the clock and the fractions of the first. -/
def startedIn (k : Nat) (s t : BotStage α γ) : List (Started α) :=
  match (arms s)[k]?, (arms t)[k]? with
  | some before, some after =>
    if after.count = before.count then []
    else [⟨before.nextEpisode s.cast.source.draw.2, s.scheduler.now, before.nextDuration s.cast.source.draw.2⟩]
  | _, _ => []

/-- What concerns neither arms nor pending ends nor the clock. -/
structure Aside (s t : BotStage α γ) : Prop where
  arms : arms t = arms s
  clock : t.scheduler.now = s.scheduler.now
  ends : ∀ j n, t.scheduler.ends j n = s.scheduler.ends j n
  ordered : s.scheduler.Ordered → t.scheduler.Ordered
  source : s.cast.source.Leads t.cast.source

/-- One thing of which the life of a brain's waves is made. -/
inductive Beat (α γ : Type) where
  | clock (delta : α)
  | fire (t : Timer α (Alarm γ))
  | frame (delta : α)
  | stop
  | aside

/-- **How each thing changes the stage**: the clock moves on, the end of a wave fires when it is due, the brain is
called by a frame or stopped by hand, or something else happens. -/
inductive Moves (k : Nat) : Beat α γ → BotStage α γ → BotStage α γ → Prop
  | clock {s : BotStage α γ} {delta : α} {scheduler : Scheduler α (Callback γ) (Alarm γ)} :
    Elapses delta → s.scheduler.advance delta = .ok scheduler → Moves k (.clock delta) s { s with scheduler }
  | fire {s : BotStage α γ} {t : Timer α (Alarm γ)} {scheduler : Scheduler α (Callback γ) (Alarm γ)} {j n : Nat} :
    s.scheduler.takeDue = some (t, scheduler) → t.purpose = .waveEnd j n →
    Moves k (.fire t) s ((onBrain j (Wave.stop (some (n : Int)))).run { s with scheduler }).2
  | frame (delta : α) (s : BotStage α γ) :
    Moves k (.frame delta) s ((onBrain k (Brain.frame (.waveEnd k) delta)).run s).2
  | stop (s : BotStage α γ) : Moves k .stop s ((onBrain k (Wave.stop none)).run s).2
  | aside {s t : BotStage α γ} : Aside s t → Moves k .aside s t

/-- **A history of one brain's waves**, with the waves that were started in it, the latest first. -/
inductive History (k : Nat) (s : BotStage α γ) : List (Started α) → BotStage α γ → Prop
  | start : History k s [] s
  | move {waves : List (Started α)} {t u : BotStage α γ} {beat : Beat α γ} :
    History k s waves t → Moves k beat t u → History k s (startedIn k t u ++ waves) u

/-- **How the stage stands to the waves** that one open brain has started. -/
structure Waves (k : Nat) (s : BotStage α γ) (waves : List (Started α)) : Prop where
  ordered : s.scheduler.Ordered
  others : ∀ j arm, j ≠ k → (arms s)[j]? = some arm → arm.closed = true
  staffed : ∀ t ∈ s.scheduler.timers, ∀ j n, t.purpose = .waveEnd j n → j < (arms s).length
  own : ∃ arm, (arms s)[k]? = some arm ∧ arm.closed = false ∧ arm.Timed (s.scheduler.ends k) waves

omit [Scalar α] in
theorem arms_withScene {k : Nat} (s : BotStage α γ) (c : Scene α (Callback γ) (Alarm γ)) :
    arms (withScene k s c) = (arms s).set k c.brain.arm := List.map_set

omit [Scalar α] in
theorem getElem?_arms {s : BotStage α γ} {k : Nat} {arm : Arm α} (h : (arms s)[k]? = some arm) :
    ∃ brain, s.cast.brains[k]? = some brain ∧ brain.arm = arm := by
  unfold arms at h
  rw [List.getElem?_map, Option.map_eq_some_iff] at h
  exact h

theorem startedIn_of_count {k : Nat} {s t : BotStage α γ} {before after : Arm α} (hs : (arms s)[k]? = some before)
    (ht : (arms t)[k]? = some after) (h : after.count = before.count) : startedIn k s t = [] := by
  unfold startedIn
  rw [hs, ht]
  exact if_pos h

theorem startedIn_of_begun {k : Nat} {s t : BotStage α γ} {arm : Arm α} (hs : (arms s)[k]? = some arm)
    (ht : (arms t)[k]? = some (arm.begun s.cast.source.draw.2)) :
    startedIn k s t =
      [⟨arm.nextEpisode s.cast.source.draw.2, s.scheduler.now, arm.nextDuration s.cast.source.draw.2⟩] := by
  unfold startedIn
  rw [hs, ht]
  exact if_neg (Nat.succ_ne_self _)

omit [Scalar α] in
theorem count_stopped (arm : Arm α) (number : Option Int) : (arm.stopped number).count = arm.count := by
  unfold Arm.stopped
  split <;> rfl

omit [Scalar α] in
theorem closed_stopped (arm : Arm α) (number : Option Int) : (arm.stopped number).closed = arm.closed := by
  unfold Arm.stopped
  split <;> rfl

omit [Scalar α] in
theorem run_onBrain_stop {j : Nat} {s : BotStage α γ} {arm : Arm α} (h : (arms s)[j]? = some arm)
    (number : Option Int) : ∃ t, (onBrain j (Wave.stop number)).run s = (.ok (), t) ∧ t.scheduler = s.scheduler ∧
      t.cast.source = s.cast.source ∧ arms t = (arms s).set j (arm.stopped number) := by
  obtain ⟨brain, hb, rfl⟩ := getElem?_arms h
  obtain ⟨c, hr, hscheduler, hsource, harm⟩ := Wave.arm_stop number (scene s brain)
  rw [run_onBrain_some _ hb, hr]
  refine ⟨_, rfl, hscheduler, hsource, ?_⟩
  rw [arms_withScene, harm]
  rfl

/-- **A frame** of the brain at a place goes on with its arm, or starts a wave and asks for one more timer. -/
theorem run_onBrain_frame {k : Nat} {s : BotStage α γ} {arm : Arm α} (h : (arms s)[k]? = some arm) (delta : α) :
    let after := ((onBrain k (Brain.frame (.waveEnd k) delta)).run s).2
    s.cast.source.Leads after.cast.source ∧
      (after.scheduler = s.scheduler ∧ arms after = arms s ∨
        arm.phase = .idle ∧ arms after = (arms s).set k (arm.begun s.cast.source.draw.2) ∧
          after.scheduler =
            s.scheduler.asked (.waveEnd k (arm.count + 1)) (arm.nextDuration s.cast.source.draw.2)) := by
  obtain ⟨brain, hb, rfl⟩ := getElem?_arms h
  rw [run_onBrain_some _ hb]
  dsimp only
  have harm := Brain.arm_frame (.waveEnd k) delta (scene s brain)
  have hdraws := Brain.draws_frame (.waveEnd k) delta (scene s brain)
  generalize (Brain.frame (.waveEnd k) delta).run (scene s brain) = result at harm hdraws ⊢
  refine ⟨hdraws, ?_⟩
  rw [arms_withScene]
  rcases harm with ⟨hscheduler, hsame⟩ | ⟨-, hidle, hbegun, hscheduler⟩
  · refine Or.inl ⟨hscheduler, ?_⟩
    obtain ⟨hlt, heq⟩ := List.getElem?_eq_some_iff.1 h
    rw [hsame]
    exact heq ▸ List.set_getElem_self hlt
  · exact Or.inr ⟨hidle, congrArg _ hbegun, hscheduler⟩

namespace Waves

variable [Timekeeping α] {k : Nat} {s t : BotStage α γ} {waves : List (Started α)}

omit [Timekeeping α] in
theorem step (h : Waves k s waves) {j : Nat} {arm : Arm α} (hj : (arms s)[j]? = some arm) {after : Arm α}
    (harms : arms t = (arms s).set j after) (hclosed : after.closed = arm.closed) (hordered : t.scheduler.Ordered)
    (hstaffed : ∀ u ∈ t.scheduler.timers, ∀ i n, u.purpose = .waveEnd i n → i < (arms s).length)
    {waves' : List (Started α)}
    (hself : j = k → arm.closed = false → arm.Timed (s.scheduler.ends k) waves →
      after.Timed (t.scheduler.ends k) waves')
    (hother : j ≠ k → waves' = waves ∧ ∀ n, t.scheduler.ends k n = s.scheduler.ends k n) : Waves k t waves' := by
  obtain ⟨hlt, -⟩ := List.getElem?_eq_some_iff.1 hj
  obtain ⟨own, hown, hopen, htimed⟩ := h.own
  refine ⟨hordered, fun i other hi hget => ?_, fun u hu i n hp => ?_, ?_⟩
  · rw [harms] at hget
    by_cases hij : i = j
    · subst hij
      rw [List.getElem?_set_self hlt] at hget
      cases hget
      rw [hclosed]
      exact h.others i arm hi hj
    · rw [List.getElem?_set_ne (Ne.symm hij)] at hget
      exact h.others i other hi hget
  · rw [harms, List.length_set]
    exact hstaffed u hu i n hp
  · rw [harms]
    by_cases hjk : j = k
    · subst hjk
      rw [hj] at hown
      cases hown
      exact ⟨after, List.getElem?_set_self hlt, hclosed.trans hopen, hself rfl hopen htimed⟩
    · -- another brain has acted: its timers are not among the ends of this one
      obtain ⟨rfl, hends⟩ := hother hjk
      exact ⟨own, (List.getElem?_set_ne hjk).trans hown, hopen, htimed.congr hends⟩

omit [Timekeeping α] in
theorem same (h : Waves k s waves) (harms : arms t = arms s) (hordered : t.scheduler.Ordered)
    (hstaffed : ∀ u ∈ t.scheduler.timers, ∀ i n, u.purpose = .waveEnd i n → i < (arms s).length)
    (hends : ∀ n, t.scheduler.ends k n = s.scheduler.ends k n) : Waves k t (startedIn k s t ++ waves) := by
  obtain ⟨own, hown, hopen, htimed⟩ := h.own
  have hnone : startedIn k s t = [] := startedIn_of_count hown (harms ▸ hown) rfl
  rw [hnone]
  exact ⟨hordered, harms ▸ h.others, harms ▸ hstaffed, own, harms ▸ hown, hopen, htimed.congr hends⟩

theorem clock (h : Waves k s waves) {delta : α} (hd : Elapses delta) {scheduler : Scheduler α (Callback γ) (Alarm γ)}
    (hs : s.scheduler.advance delta = .ok scheduler) :
    Waves k { s with scheduler } (startedIn k s { s with scheduler } ++ waves) := by
  obtain ⟨hordered, -⟩ := h.ordered.advance hd hs
  obtain ⟨-, rfl⟩ := Scheduler.advance_eq_ok hs
  exact h.same rfl hordered h.staffed fun n => rfl

omit [Timekeeping α] in
theorem aside (h : Waves k s waves) (ht : Aside s t) : Waves k t (startedIn k s t ++ waves) := by
  refine h.same ht.arms (ht.ordered h.ordered) (fun u hu i n hp => ?_) fun n => ht.ends k n
  have hmem : u ∈ t.scheduler.ends i n := List.mem_filter.2 ⟨hu, Alarm.ends_iff.2 hp⟩
  rw [ht.ends i n] at hmem
  exact h.staffed u (List.mem_filter.1 hmem).1 i n hp

omit [Timekeeping α] in
theorem startedIn_of_stopped {j : Nat} {arm : Arm α} (hj : (arms s)[j]? = some arm) {number : Option Int}
    (harms : arms t = (arms s).set j (arm.stopped number)) (h : Waves k s waves) : startedIn k s t = [] := by
  obtain ⟨hlt, -⟩ := List.getElem?_eq_some_iff.1 hj
  obtain ⟨_, hown, -, -⟩ := h.own
  by_cases hjk : j = k
  · subst hjk
    refine startedIn_of_count hj ?_ (count_stopped arm number)
    rw [harms, List.getElem?_set_self hlt]
  · refine startedIn_of_count hown ?_ rfl
    rw [harms, List.getElem?_set_ne hjk]
    exact hown

omit [Timekeeping α] in
theorem fire (h : Waves k s waves) {u : Timer α (Alarm γ)} {scheduler : Scheduler α (Callback γ) (Alarm γ)} {j n : Nat}
    (hdue : s.scheduler.takeDue = some (u, scheduler)) (hp : u.purpose = .waveEnd j n) :
    ∃ after, (onBrain j (Wave.stop (some (n : Int)))).run { s with scheduler } = (.ok (), after) ∧
      after.scheduler = scheduler ∧ Waves k after (startedIn k s after ++ waves) := by
  have hordered := h.ordered.takeDue hdue
  have hends := Scheduler.ends_takeDue hdue k
  obtain ⟨rest, hq, -, hrest⟩ := Scheduler.takeDue_eq_some hdue
  have hmem : ∀ v ∈ scheduler.timers, v ∈ s.scheduler.timers := by
    intro v hv
    rw [hrest] at hv
    rw [hq]
    exact List.mem_cons_of_mem u hv
  have hlt : j < (arms s).length := h.staffed u (hq ▸ List.mem_cons_self) j n hp
  have hj : (arms { s with scheduler })[j]? = some (arms s)[j] := List.getElem?_eq_getElem hlt
  obtain ⟨after, hr, hafter, -, harms⟩ := run_onBrain_stop hj (some (n : Int))
  have hscheduler : after.scheduler = scheduler := hafter
  refine ⟨after, hr, hscheduler, ?_⟩
  rw [startedIn_of_stopped (s := s) (t := after) hj harms h]
  refine h.step (s := s) hj harms (closed_stopped _ _) (hscheduler ▸ hordered)
    (fun v hv i m hpv => h.staffed v (hmem v (hscheduler ▸ hv)) i m hpv) (fun hjk hopen htimed => ?_)
    fun hjk => ⟨rfl, fun m => ?_⟩
  · subst hjk
    rw [hscheduler]
    refine htimed.fired hopen (fun m => (hends m).1) fun m hm => (hends m).2 ?_
    rw [hp]
    rintro heq
    cases heq
    exact hm rfl
  · rw [hscheduler]
    refine (hends m).2 ?_
    rw [hp]
    rintro heq
    cases heq
    exact hjk rfl

omit [Timekeeping α] in
theorem stop (h : Waves k s waves) :
    ∃ after, (onBrain k (Wave.stop none)).run s = (.ok (), after) ∧ Waves k after (startedIn k s after ++ waves) := by
  obtain ⟨own, hown, -, -⟩ := h.own
  obtain ⟨after, hr, hscheduler, -, harms⟩ := run_onBrain_stop hown none
  refine ⟨after, hr, ?_⟩
  rw [startedIn_of_stopped hown harms h]
  refine h.step hown harms (closed_stopped _ _) (hscheduler ▸ h.ordered) (hscheduler ▸ h.staffed)
    (fun _ _ htimed => ?_) fun hne => absurd rfl hne
  rw [hscheduler]
  exact htimed.stopped none

theorem frame (h : Waves k s waves) (delta : α) :
    let after := ((onBrain k (Brain.frame (.waveEnd k) delta)).run s).2
    Waves k after (startedIn k s after ++ waves) := by
  obtain ⟨arm, hown, -, -⟩ := h.own
  obtain ⟨hlt, -⟩ := List.getElem?_eq_some_iff.1 hown
  obtain ⟨-, hcases⟩ := run_onBrain_frame hown delta
  generalize ((onBrain k (Brain.frame (.waveEnd k) delta)).run s).2 = after at hcases ⊢
  dsimp only
  rcases hcases with ⟨hs, harms⟩ | ⟨-, harms, hs⟩
  · refine h.same harms ?_ ?_ fun n => ?_
    · rw [hs]; exact h.ordered
    · rw [hs]; exact h.staffed
    · rw [hs]
  · have hafter : (arms after)[k]? = some (arm.begun s.cast.source.draw.2) := by
      rw [harms, List.getElem?_set_self hlt]
    rw [startedIn_of_begun hown hafter]
    refine h.step hown harms rfl ?_ ?_ (fun _ _ htimed => ?_) fun hne => absurd rfl hne
    · rw [hs]
      exact h.ordered.asked _ _
    · intro u hu i n hp
      rw [hs] at hu
      rcases Scheduler.mem_asked hu with hnew | hold
      · rw [hnew] at hp
        cases hp
        exact hlt
      · exact h.staffed u hold i n hp
    · refine htimed.begun _ _ (fun m hm => ?_) ?_
      · rw [hs]
        exact Scheduler.ends_asked_ne hm _
      · rw [hs]
        exact Scheduler.ends_asked_self (htimed.none_above (Nat.lt_succ_self _)) _

/-- **Every move keeps the account.** -/
theorem moves (h : Waves k s waves) {beat : Beat α γ} (hm : Moves k beat s t) :
    Waves k t (startedIn k s t ++ waves) := by
  cases hm with
  | clock hd hs => exact h.clock hd hs
  | fire hdue hp =>
    obtain ⟨after, hr, -, hafter⟩ := h.fire hdue hp
    rw [hr]
    exact hafter
  | frame delta => exact h.frame delta
  | stop =>
    obtain ⟨after, hr, hafter⟩ := h.stop
    rw [hr]
    exact hafter
  | aside ht => exact h.aside ht

theorem history (h : Waves k s waves) {new : List (Started α)} (ht : History k s new t) : Waves k t (new ++ waves) := by
  induction ht with
  | start => exact h
  | move _ hm ih =>
    rw [List.append_assoc]
    exact ih.moves hm

omit [Timekeeping α] in
/-- **What a move does to the arm**: nothing, or it begins to wave, or it is stopped. -/
theorem arm_cases (h : Waves k s waves) {beat : Beat α γ} (hm : Moves k beat s t) {arm : Arm α}
    (harm : (arms s)[k]? = some arm) : s.cast.source.Leads t.cast.source ∧ ∃ after, (arms t)[k]? = some after ∧
      (after = arm ∨
        arm.phase = .idle ∧ after = arm.begun s.cast.source.draw.2 ∨
        beat = .stop ∧ after = arm.stopped none ∨
        ∃ u n, beat = .fire u ∧ u ∈ s.scheduler.ends k n ∧ u.due ≤ s.scheduler.now ∧
          after = arm.stopped (some (n : Int))) := by
  obtain ⟨hlt, -⟩ := List.getElem?_eq_some_iff.1 harm
  cases hm with
  | clock hd hs => exact ⟨.refl _, arm, harm, Or.inl rfl⟩
  | @fire _ u scheduler j n hdue hp =>
    obtain ⟨rest, hq, hle, -⟩ := Scheduler.takeDue_eq_some hdue
    have hu : u ∈ s.scheduler.timers := hq ▸ List.mem_cons_self
    have hjlt : j < (arms s).length := h.staffed u hu j n hp
    have hj : (arms { s with scheduler })[j]? = some (arms s)[j] := List.getElem?_eq_getElem hjlt
    obtain ⟨after, hr, -, hsource, harms⟩ := run_onBrain_stop hj (some (n : Int))
    rw [hr]
    refine ⟨hsource ▸ .refl _, ?_⟩
    dsimp only
    rw [harms]
    by_cases hjk : j = k
    · subst hjk
      have heq : (arms s)[j] = arm := by
        rw [List.getElem?_eq_getElem hjlt] at harm
        exact Option.some.inj harm
      rw [heq]
      refine ⟨_, List.getElem?_set_self hlt, Or.inr (Or.inr (Or.inr ⟨u, n, rfl, ?_, hle, rfl⟩))⟩
      exact List.mem_filter.2 ⟨hu, Alarm.ends_iff.2 hp⟩
    · exact ⟨arm, (List.getElem?_set_ne hjk).trans harm, Or.inl rfl⟩
  | frame delta =>
    obtain ⟨hsource, ⟨-, harms⟩ | ⟨hidle, harms, -⟩⟩ := run_onBrain_frame harm delta
    · exact ⟨hsource, arm, harms ▸ harm, Or.inl rfl⟩
    · refine ⟨hsource, _, ?_, Or.inr (Or.inl ⟨hidle, rfl⟩)⟩
      rw [harms, List.getElem?_set_self hlt]
  | stop =>
    obtain ⟨after, hr, -, hsource, harms⟩ := run_onBrain_stop harm none
    rw [hr]
    refine ⟨hsource ▸ .refl _, _, ?_, Or.inr (Or.inr (Or.inl ⟨rfl, rfl⟩))⟩
    dsimp only
    rw [harms, List.getElem?_set_self hlt]
  | aside ht => exact ⟨ht.source, arm, ht.arms ▸ harm, Or.inl rfl⟩

end Waves

end Bot
end Bystander
