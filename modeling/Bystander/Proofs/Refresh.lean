import Bystander.Proofs.Exact
import Bystander.Proofs.Clocks
import Bystander.Proofs.Gait
/-! # How often the view is queried

A query is due when strictly more than one interval has passed since the last one.  So queries keep their distance
however irregular the frames are, and yet after each frame no more than one interval has passed since the last query, or
since the start.  Both follow from one account of the clock, of the last query and of the times of all queries, which
each frame keeps (`View.Pace.passes`).
-/
namespace Bystander

open Act (Obeys run_bind)
open Scalar (Elapses)

variable {α κ τ : Type} [Scalar α]

namespace View

/-! ## Times that keep their distance -/

/-- **The pace of the queries**: where the clock stands, when the last query was or else the start, and the times of all
queries, the latest first. -/
structure Pace (rate clock last : ℝ) (times : List ℝ) : Prop where
  spaced : times.Pairwise fun later earlier => earlier + 1 / rate < later
  upto : ∀ x ∈ times, x ≤ last
  counted : times.length / rate ≤ last
  past : last ≤ clock
  fresh : clock - last ≤ 1 / rate

namespace Pace

variable {rate clock last : ℝ} {times : List ℝ}

theorem opening (hrate : 0 < rate) : Pace rate 0 0 [] where
  spaced := List.Pairwise.nil
  upto := List.forall_mem_nil _
  counted := by simp
  past := le_rfl
  fresh := by
    rw [sub_zero]
    positivity

/-- **A clock that goes on** keeps the pace if there is a query where more than one interval has passed. -/
theorem passes (h : Pace rate clock last times) (hrate : 0 < rate) {now : ℝ} (hnow : clock ≤ now) :
    if now - last ≤ 1 / rate then Pace rate now last times else Pace rate now now (now :: times) := by
  split
  · next hearly => exact ⟨h.spaced, h.upto, h.counted, h.past.trans hnow, hearly⟩
  · next hdue =>
    have hlast := h.past.trans hnow
    refine ⟨List.Pairwise.cons (fun x hx => ?_) h.spaced, ?_, ?_, le_rfl, ?_⟩
    · linarith [h.upto x hx]
    · exact List.forall_mem_cons.2 ⟨le_rfl, fun x hx => (h.upto x hx).trans hlast⟩
    · rw [List.length_cons, Nat.cast_succ, add_div]
      linarith [h.counted]
    · rw [sub_self]
      positivity

/-- Times that keep their distance take so long from any point before them all. -/
theorem length_le (hrate : 0 < rate) {start : ℝ} : ∀ {latest : ℝ} {earlier : List ℝ},
    ((latest :: earlier).Pairwise fun later earlier => earlier + 1 / rate < later) →
      (∀ x ∈ latest :: earlier, start ≤ x) →
        earlier.length / rate ≤ latest - start ∧ (earlier ≠ [] → earlier.length / rate < latest - start)
  | latest, [], _, hstart => by
    have hlatest := hstart latest List.mem_cons_self
    refine ⟨?_, fun hne => absurd rfl hne⟩
    simpa using hlatest
  | latest, next :: earlier, hspaced, hstart => by
    obtain ⟨hnext, hrest⟩ := List.pairwise_cons.1 hspaced
    obtain ⟨hle, -⟩ := length_le hrate hrest fun x hx => hstart x (List.mem_cons_of_mem _ hx)
    have hgap := hnext next List.mem_cons_self
    have hlt : (next :: earlier).length / rate < latest - start := by
      rw [List.length_cons, Nat.cast_succ, add_div]
      linarith
    exact ⟨hlt.le, fun _ => hlt⟩

end Pace
end View

/-! ## What a frame does for the view -/

/-- **What the view reads and writes**, but for the body. -/
structure Outlook (α : Type) where
  viewer : Viewer α
  settings : ViewSettings α
  clock : α
  lastRefresh : α
  queries : Nat

def Scene.outlook (s : Scene α κ τ) : Outlook α :=
  ⟨s.viewer, s.brain.settings.view, s.brain.state.clock, s.brain.state.lastRefresh, s.brain.queries⟩

/-- An outlook after a query for a body. -/
def Outlook.queried (o : Outlook α) (body : Avatar α) : Outlook α :=
  { o with
    viewer := ⟨body.position, body.orientation, o.viewer.queries + 1⟩
    lastRefresh := o.clock
    queries := o.queries + 1 }

theorem Brain.outlook_begin (delta : α) (s : Scene α κ τ) :
    (begin delta s).outlook = { s.outlook with clock := s.outlook.clock + effectiveDelta delta } := rfl

/-- The behaviours after the view leave the outlook alone. -/
theorem Brain.outlook_behave (ending : Nat → τ) (s : Scene α κ τ) :
    ((behave ending).run s).2.outlook = (View.frame.run s).2.outlook := by
  have hrest : Obeys (leaving Scene.outlook) (do
      Wave.frame ending
      discard Chatter.frame
      Head.frame
      Walk.frame : Play α κ τ Unit) := by
    refine ((Wave.obeys_frame ending).imp fun c d h => ?_).bind fun _ =>
      obeys_rest (fun c d h => ?_) (fun c d h => ?_) (Walk.obeys_frame.imp fun c d h => ?_)
    · obtain ⟨_, _, _, _, _, _, _, -, rfl⟩ := h
      rfl
    · obtain ⟨_, _, _, _, -, rfl⟩ := h
      rfl
    · obtain ⟨_, _, _, _, _, -, rfl⟩ := h
      rfl
    · obtain ⟨_, _, _, _, _, _, _, _, _, _, _, -, rfl⟩ := h
      rfl
  rw [behave, run_bind, Act.run_discard]
  rcases View.frame.run s with ⟨fault | answer, c⟩
  · rfl
  · exact hrest c

/-- The body stands still until the walk. -/
theorem Brain.pose_prelude (ending : Nat → τ) : Obeys (leaving fun s => (s.avatar.position, s.avatar.orientation))
    (prelude ending : Play α κ τ Unit) := by
  apply obeys_prelude
  · rintro s t ⟨_, _, _, -, rfl⟩
    rfl
  · rintro s t ⟨_, _, _, _, _, _, _, -, rfl⟩
    rfl
  · rintro s t ⟨_, _, _, _, -, rfl⟩
    rfl
  · rintro s t ⟨_, _, _, _, _, -, rfl⟩
    rfl

/-! ## Runs of frames -/

/-- A query of the view: the clock of its frame, and the pose that the body had in that frame before the walk. -/
structure Sighting (α : Type) where
  time : α
  position : Vec3 α
  orientation : Quat α

namespace View

/-- The query of a frame, if the viewer has counted one. -/
def sighted (ending : Nat → τ) (delta : α) (s : Scene α κ τ) : List (Sighting α) :=
  let body := ((Brain.prelude ending).run (Brain.begin delta s)).2.avatar
  let after := ((Brain.frame ending delta).run s).2
  if after.viewer.queries = s.viewer.queries then []
  else [⟨after.brain.state.clock, body.position, body.orientation⟩]

/-- **A run of frames** of any lengths, answered or failed, with its queries, the latest first.  In between, anything
may happen that leaves the outlook alone. -/
inductive Runs (ending : Nat → τ) (s : Scene α κ τ) : List (Sighting α) → Scene α κ τ → Prop
  | start : Runs ending s [] s
  | aside {sightings : List (Sighting α)} {t u : Scene α κ τ} :
    Runs ending s sightings t → leaving Scene.outlook t u → Runs ending s sightings u
  | frame {sightings : List (Sighting α)} {t : Scene α κ τ} (delta : α) : Runs ending s sightings t →
    Runs ending s (sighted ending delta t ++ sightings) ((Brain.frame ending delta).run t).2

theorem sighted_of_queries {ending : Nat → τ} {delta : α} {s : Scene α κ τ}
    (h : ((Brain.frame ending delta).run s).2.viewer.queries = s.viewer.queries) : sighted ending delta s = [] :=
  if_pos h

/-- A frame that queries does so at its clock, for the body as it is before the walk. -/
theorem sighted_of_queried {ending : Nat → τ} {delta : α} {s : Scene α κ τ}
    (h : ((Brain.frame ending delta).run s).2.outlook =
      (Brain.begin delta s).outlook.queried (Brain.begin delta s).avatar) :
    sighted ending delta s = [⟨(Brain.begin delta s).outlook.clock, (Brain.begin delta s).avatar.position,
      (Brain.begin delta s).avatar.orientation⟩] := by
  have hmore : ((Brain.frame ending delta).run s).2.viewer.queries = s.viewer.queries + 1 :=
    congrArg (fun o : Outlook α => o.viewer.queries) h
  have hclock : ((Brain.frame ending delta).run s).2.brain.state.clock = (Brain.begin delta s).outlook.clock :=
    congrArg Outlook.clock h
  obtain ⟨hposition, horientation⟩ := Prod.mk.inj (Brain.pose_prelude ending (Brain.begin delta s))
  unfold sighted
  dsimp only
  rw [if_neg (by omega), hclock, hposition, horientation]

/-! ## The pace of exact numbers -/

section Exact

variable [Exact α]

open Exact (real)

theorem exists_effectiveDelta (delta : α) : ∃ d, 0 ≤ d ∧ Brain.effectiveDelta delta = real d := by
  by_cases h : Elapses delta
  · obtain ⟨d, rfl⟩ := (Exact.isFinite_iff delta).1 h.1
    have hforward := h.2
    rw [Exact.zero, Exact.lt_iff, not_lt] at hforward
    exact ⟨d, hforward, Brain.effectiveDelta_of_elapses h⟩
  · exact ⟨0, le_rfl, (Brain.effectiveDelta_of_not_elapses h).trans Exact.zero⟩

theorem one_div_real {rate : ℝ} (hrate : rate ≠ 0) : (1.0 : α) / real rate = real (1 / rate) := by
  rw [Exact.one, Exact.div _ hrate]

/-- **The view of exact numbers** queries where more than one interval has passed. -/
theorem outlook_frame {rate clock last : ℝ} (hrate : rate ≠ 0) {s : Scene α κ τ}
    (hsettings : s.outlook.settings = ⟨true, real rate⟩) (hclock : s.outlook.clock = real clock)
    (hlast : s.outlook.lastRefresh = real last) :
    (frame.run s).2.outlook = if clock - last ≤ 1 / rate then s.outlook else s.outlook.queried s.avatar := by
  have hview : s.brain.settings.view = ⟨true, real rate⟩ := hsettings
  have hpause : interval (real rate : α) = .ok (real (1 / rate)) := by
    rw [interval, Scalar.divide, if_neg, one_div_real hrate]
    rw [Exact.zero, Exact.beq_iff]
    exact hrate
  have hpassed : s.brain.state.clock - s.brain.state.lastRefresh = real (clock - last) := by
    rw [← Exact.sub, ← hclock, ← hlast]
    rfl
  rw [run_frame, hview, if_pos rfl]
  dsimp only
  rw [hpause]
  dsimp only
  rw [hpassed]
  by_cases hearly : clock - last ≤ 1 / rate
  · rw [if_pos hearly, if_pos ((Exact.le_iff _ _).2 hearly)]
  · rw [if_neg hearly, if_neg (mt (Exact.le_iff _ _).1 hearly)]
    rfl

/-- **How an outlook stands to the queries so far**: times are exact, they keep the pace, and the viewer has the pose of
the latest query. -/
structure Paced (rate clock last : ℝ) (times : List ℝ) (sightings : List (Sighting α)) (o : Outlook α) : Prop where
  pace : Pace rate clock last times
  told : sightings.map Sighting.time = times.map real
  settings : o.settings = ⟨true, real rate⟩
  now : o.clock = real clock
  refreshed : o.lastRefresh = real last
  queries : o.queries = times.length
  latest : ∀ x earlier, sightings = x :: earlier →
    o.lastRefresh = x.time ∧ o.viewer.position = x.position ∧ o.viewer.orientation = x.orientation

namespace Paced

variable {rate clock last : ℝ} {times : List ℝ} {sightings : List (Sighting α)} {o : Outlook α}

theorem opening (hrate : 0 < rate) {s : Scene α κ τ} {settings : Settings α} {bounds : Bounds α} {clips : List (Clip α)}
    {spawn : Vec3 α} {avatar : Avatar α} (hview : settings.view = ⟨true, real rate⟩)
    (hopening : s.brain = .opening settings bounds clips spawn avatar) : Paced rate 0 0 [] [] s.outlook where
  pace := .opening hrate
  told := rfl
  settings := (congrArg (fun brain : Brain α => brain.settings.view) hopening).trans hview
  now := (congrArg (fun brain : Brain α => brain.state.clock) hopening).trans Exact.zero
  refreshed := (congrArg (fun brain : Brain α => brain.state.lastRefresh) hopening).trans Exact.zero
  queries := congrArg Brain.queries hopening
  latest := nofun

theorem spaced (h : Paced rate clock last times sightings o) (hrate : 0 < rate) :
    sightings.Pairwise fun later earlier => 1.0 / real rate < later.time - earlier.time := by
  have htold : (sightings.map Sighting.time).Pairwise fun later earlier => 1.0 / real rate < later - earlier := by
    rw [h.told, List.pairwise_map]
    refine h.pace.spaced.imp fun {later earlier} hgap => ?_
    rw [one_div_real hrate.ne', Exact.sub, Exact.lt_iff]
    linarith
  exact List.pairwise_map.1 htold

theorem counted (h : Paced rate clock last times sightings o) (hrate : 0 < rate) :
    o.queries = sightings.length ∧ Scalar.ofNat o.queries / real rate ≤ o.lastRefresh := by
  constructor
  · rw [h.queries, ← List.length_map (real : ℝ → α), ← h.told, List.length_map]
  · rw [h.queries, h.refreshed, Exact.ofNat, Exact.div _ hrate.ne', Exact.le_iff]
    exact h.pace.counted

theorem fresh (h : Paced rate clock last times sightings o) (hrate : 0 < rate) :
    o.lastRefresh ≤ o.clock ∧ o.clock - o.lastRefresh ≤ 1.0 / real rate := by
  rw [h.refreshed, h.now, one_div_real hrate.ne', Exact.sub, Exact.le_iff, Exact.le_iff]
  exact ⟨h.pace.past, h.pace.fresh⟩

end Paced

/-- **A frame keeps the pace.** -/
theorem Paced.frame {rate clock last : ℝ} {times : List ℝ} {sightings : List (Sighting α)} {s : Scene α κ τ}
    (h : Paced rate clock last times sightings s.outlook) (hrate : 0 < rate) (ending : Nat → τ) (delta : α) :
    ∃ clock' last' times', Paced rate clock' last' times' (sighted ending delta s ++ sightings)
      ((Brain.frame ending delta).run s).2.outlook := by
  cases hclosed : s.brain.closed with
  | true =>
    have hr := Brain.run_frame_closed ending delta hclosed
    rw [sighted_of_queries (by rw [hr]), hr]
    exact ⟨clock, last, times, h⟩
  | false =>
    obtain ⟨d, hd, hdelta⟩ := exists_effectiveDelta delta
    have hnow : (Brain.begin delta s).outlook.clock = real (clock + d) := by
      rw [Brain.outlook_begin, ← Exact.add, ← h.now, ← hdelta]
    have hafter : ((Brain.frame ending delta).run s).2.outlook = if clock + d - last ≤ 1 / rate then
        (Brain.begin delta s).outlook else (Brain.begin delta s).outlook.queried (Brain.begin delta s).avatar := by
      rw [Brain.run_frame_open ending delta hclosed, Brain.outlook_behave]
      exact outlook_frame hrate.ne' h.settings hnow h.refreshed
    have hpace := h.pace.passes hrate (le_add_of_nonneg_right hd)
    by_cases hearly : clock + d - last ≤ 1 / rate
    · -- no query is due, and only the clock goes on
      rw [if_pos hearly] at hafter hpace
      rw [sighted_of_queries (congrArg (fun o : Outlook α => o.viewer.queries) hafter), hafter]
      exact ⟨_, _, _, hpace, h.told, h.settings, hnow, h.refreshed, h.queries, h.latest⟩
    · -- a query is due, and shows the body as it is before the walk
      rw [if_neg hearly] at hafter hpace
      have hsighted := sighted_of_queried hafter
      rw [hsighted, hafter]
      refine ⟨_, _, (clock + d) :: times, hpace, ?_, h.settings, hnow, hnow, ?_, ?_⟩
      · rw [List.singleton_append, List.map_cons, h.told, hnow]
        rfl
      · exact congrArg (· + 1) h.queries
      · intro x earlier hx
        rw [← (List.cons.inj hx).1]
        exact ⟨rfl, rfl, rfl⟩

end Exact

end View
end Bystander
