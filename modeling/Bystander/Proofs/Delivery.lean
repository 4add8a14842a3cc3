import Mathlib.Data.List.Basic
import Bystander.Proofs.Deeds
/-! # Which callbacks a frame calls

Callbacks come and go at any time, also while timers fire and while callbacks are called.  Since when a callback has
been connected can be read off the deeds so far (`connectedSince`), and the callbacks of a scheduler are at every moment
those that have been connected since some time, each once, in the order of these times (`Standing`).  A frame takes them
as they stand when its timers are done: it calls these and no others, whatever they arrange meanwhile, and the next
frame finds what they have arranged (`Delivery`).
-/
namespace Bystander

open Act (Obeys run_bind run_get_bind run_modify_bind run_bind_eq_ok)

variable {α κ τ ρ : Type}

/-! ## What timers and callbacks do -/

namespace Deed

def called? : Deed α κ τ → Option (κ × α)
  | called k delta => some (k, delta)
  | _ => none

/-- What may be done before a frame calls its callbacks. -/
def OfTimers : Deed α κ τ → Prop
  | calling | called .. => False
  | _ => True

/-- What may be done while a frame calls its callbacks: no timer fires then. -/
def OfCalls : Deed α κ τ → Prop
  | called .. => True
  | deed => deed.Arranges fun _ => True

theorem Arranges.quiet {P : α → Prop} {deed : Deed α κ τ} (h : deed.Arranges P) :
    deed.called? = none ∧ deed.fired? = none := by
  cases deed <;> first | exact ⟨rfl, rfl⟩ | exact h.elim

theorem Arranges.ofTimers {P : α → Prop} {deed : Deed α κ τ} (h : deed.Arranges P) : deed.OfTimers := by
  cases deed <;> trivial

theorem Arranges.ofCalls {deed : Deed α κ τ} (h : deed.Arranges fun _ => True) : deed.OfCalls := by
  cases deed <;> trivial

end Deed

/-- The calls among moments, the latest first. -/
def calledIn (moments : List (Moment α κ τ)) : List (κ × α) := moments.filterMap fun m => m.deed.called?

theorem calledIn_arranged {P : α → Prop} {moments : List (Moment α κ τ)} (h : ∀ m ∈ moments, m.deed.Arranges P) :
    calledIn moments = [] :=
  List.filterMap_eq_nil_iff.2 fun m hm => (h m hm).quiet.1

theorem firedIn_arranged {P : α → Prop} {moments : List (Moment α κ τ)} (h : ∀ m ∈ moments, m.deed.Arranges P) :
    firedIn moments = [] :=
  List.filterMap_eq_nil_iff.2 fun m hm => (h m hm).quiet.2

/-! ## Since when a callback has been connected -/

/-- Since when a callback has been connected, by the number of moments before: a connect of one that is connected
changes nothing, and a disconnect ends it. -/
def connectedSince [BEq κ] (k : κ) : List (Moment α κ τ) → Option Nat
  | [] => none
  | m :: earlier =>
    match m.deed with
    | .connected k' =>
      if k' == k then some ((connectedSince k earlier).getD earlier.length) else connectedSince k earlier
    | .disconnected k' => if k' == k then none else connectedSince k earlier
    | _ => connectedSince k earlier

/-- **How the connected callbacks stand to the moments so far**: none stands twice, they are those that have been
connected since some time, and they stand in the order of these times. -/
structure Standing [BEq κ] (callbacks : List κ) (moments : List (Moment α κ τ)) : Prop where
  distinct : callbacks.Pairwise fun a b => (a == b) = false
  connected : ∀ k, callbacks.contains k = (connectedSince k moments).isSome
  inOrder : (callbacks.filterMap (connectedSince · moments)).Pairwise (· < ·)

section Standing

variable [BEq κ] {moments earlier : List (Moment α κ τ)} {callbacks : List κ}

theorem connectedSince_lt {k : κ} :
    ∀ {moments : List (Moment α κ τ)} {i : Nat}, connectedSince k moments = some i → i < moments.length
  | m :: earlier, i, h => by
    rw [List.length_cons]
    have ih : ∀ {j}, connectedSince k earlier = some j → j < earlier.length + 1 := fun hj =>
      Nat.lt_succ_of_lt (connectedSince_lt hj)
    unfold connectedSince at h
    split at h
    · split at h
      · cases hearlier : connectedSince k earlier with
        | none =>
          rw [hearlier] at h
          cases h
          exact Nat.lt_succ_self _
        | some j =>
          rw [hearlier] at h
          cases h
          exact ih hearlier
      · exact ih h
    · split at h
      · cases h
      · exact ih h
    · exact ih h

theorem standing_nil : Standing ([] : List κ) ([] : List (Moment α κ τ)) where
  distinct := .nil
  connected _ := rfl
  inOrder := .nil

theorem Standing.congr (h : Standing callbacks earlier)
    (hsince : ∀ k, connectedSince k moments = connectedSince k earlier) : Standing callbacks moments := by
  have hsame : (connectedSince · moments) = (connectedSince · earlier : κ → Option Nat) := funext hsince
  refine ⟨h.distinct, fun k => ?_, ?_⟩
  · rw [hsince k]
    exact h.connected k
  · rw [hsame]
    exact h.inOrder

theorem connectedSince_connected (k x : κ) (t : Scheduler α κ τ) (earlier : List (Moment α κ τ)) :
    connectedSince x (⟨.connected k, t⟩ :: earlier) =
      if k == x then some ((connectedSince x earlier).getD earlier.length) else connectedSince x earlier := rfl

theorem connectedSince_disconnected (k x : κ) (t : Scheduler α κ τ) (earlier : List (Moment α κ τ)) :
    connectedSince x (⟨.disconnected k, t⟩ :: earlier) = if k == x then none else connectedSince x earlier := rfl

variable [EquivBEq κ]

/-- One that is connected again stays where it is. -/
theorem Standing.again (h : Standing callbacks earlier) {k : κ} (hk : callbacks.contains k = true)
    (t : Scheduler α κ τ) : Standing callbacks (⟨.connected k, t⟩ :: earlier) := by
  refine h.congr fun x => ?_
  rw [connectedSince_connected]
  split
  · next hx =>
    have hconnected : (connectedSince x earlier).isSome = true := by rw [← h.connected, ← List.contains_congr hx, hk]
    obtain ⟨i, hi⟩ := Option.isSome_iff_exists.1 hconnected
    rw [hi, Option.getD_some]
  · rfl

/-- One that was not connected comes last. -/
theorem Standing.append (h : Standing callbacks earlier) {k : κ} (hk : ¬ callbacks.contains k = true)
    (t : Scheduler α κ τ) : Standing (callbacks ++ [k]) (⟨.connected k, t⟩ :: earlier) := by
  have hapart : ∀ a ∈ callbacks, (k == a) = false := fun a ha =>
    Bool.eq_false_iff.2 fun hka => hk (List.contains_iff_exists_mem_beq.2 ⟨a, ha, hka⟩)
  have hnew : connectedSince k (⟨.connected k, t⟩ :: earlier) = some earlier.length := by
    have hnone : connectedSince k earlier = none := by
      rw [← Option.not_isSome_iff_eq_none, ← h.connected]
      exact hk
    rw [connectedSince_connected, if_pos BEq.rfl, hnone, Option.getD_none]
  have hold : callbacks.filterMap (connectedSince · (⟨.connected k, t⟩ :: earlier)) =
      callbacks.filterMap (connectedSince · earlier) :=
    List.filterMap_congr fun a ha => by rw [connectedSince_connected, if_neg (Bool.eq_false_iff.1 (hapart a ha))]
  constructor
  case distinct =>
    refine List.pairwise_append.2 ⟨h.distinct, List.pairwise_singleton _ _, fun a ha b hb => ?_⟩
    rw [List.mem_singleton.1 hb]
    exact BEq.symm_false (hapart a ha)
  case connected =>
    intro x
    have hlast : ([k] : List κ).contains x = (k == x) := by
      rw [List.contains_cons, List.contains_nil, Bool.or_false, BEq.comm]
    rw [List.contains_append, h.connected, hlast, connectedSince_connected]
    cases k == x <;> simp
  case inOrder =>
    rw [List.filterMap_append, hold, List.pairwise_append,
      List.filterMap_cons_some (f := (connectedSince · (⟨.connected k, t⟩ :: earlier))) hnew, List.filterMap_nil]
    refine ⟨h.inOrder, List.pairwise_singleton _ _, fun i hi j hj => ?_⟩
    obtain ⟨a, -, ha⟩ := List.mem_filterMap.1 hi
    rw [List.mem_singleton.1 hj]
    exact connectedSince_lt ha

theorem Standing.connect {s : Scheduler α κ τ} (h : Standing s.callbacks earlier) (k : κ) (t : Scheduler α κ τ) :
    Standing (s.connect k).callbacks (⟨.connected k, t⟩ :: earlier) := by
  unfold Scheduler.connect
  split
  · next hk => exact h.again hk t
  · next hk => exact h.append hk t

theorem erase_of_distinct (k : κ) :
    ∀ {l : List κ}, l.Pairwise (fun a b => (a == b) = false) → l.erase k = l.filter fun a => !(a == k)
  | [], _ => rfl
  | a :: l, h => by
    rw [List.erase_cons]
    split
    · next ha =>
      have hrest : ∀ b ∈ l, (!(b == k)) = true := fun b hb => by
        rw [← BEq.congr_right ha, BEq.symm_false (List.rel_of_pairwise_cons h hb), Bool.not_false]
      rw [List.filter_cons_of_neg (by simp [ha]), List.filter_eq_self.2 hrest]
    · next ha => rw [List.filter_cons_of_pos (by simp [ha]), erase_of_distinct k h.of_cons]

theorem contains_filter_apart (k x : κ) (l : List κ) :
    (l.filter fun a => !(a == k)).contains x = if k == x then false else l.contains x := by
  rw [List.contains_eq_any_beq, List.any_filter]
  cases hx : k == x with
  | true =>
    refine List.any_eq_false.2 fun a _ => ?_
    rw [← BEq.congr_left hx, BEq.comm (a := k)]
    cases a == k <;> simp
  | false =>
    have hapart (a : κ) : (!(a == k) && x == a) = (x == a) := by
      cases hxa : x == a with
      | false => exact Bool.and_false _
      | true => rw [← BEq.congr_left hxa, BEq.comm, hx, Bool.not_false, Bool.and_true]
    rw [if_neg Bool.false_ne_true, List.contains_eq_any_beq]
    simp only [hapart]

theorem Standing.disconnect {s : Scheduler α κ τ} (h : Standing s.callbacks earlier) (k : κ) (t : Scheduler α κ τ) :
    Standing (s.disconnect k).callbacks (⟨.disconnected k, t⟩ :: earlier) := by
  have hleft : (s.disconnect k).callbacks = s.callbacks.filter fun a => !(a == k) := erase_of_distinct k h.distinct
  have hold : (s.disconnect k).callbacks.filterMap (connectedSince · (⟨.disconnected k, t⟩ :: earlier)) =
      (s.disconnect k).callbacks.filterMap (connectedSince · earlier) := by
    refine List.filterMap_congr fun a ha => ?_
    rw [hleft, List.mem_filter, BEq.comm] at ha
    rw [connectedSince_disconnected, if_neg (by simpa using ha.2)]
  constructor
  case distinct => exact h.distinct.sublist List.erase_sublist
  case connected =>
    intro x
    rw [hleft, contains_filter_apart, connectedSince_disconnected, h.connected]
    cases k == x <;> rfl
  case inOrder =>
    rw [hold]
    exact h.inOrder.sublist (List.erase_sublist.filterMap _)

variable [Scalar α]

/-- **At every moment** the callbacks stand to the deeds so far. -/
theorem Scheduler.Undergoes.standing {s : Scheduler α κ τ} (h : Scheduler.fresh.Undergoes moments s) :
    Standing s.callbacks moments := by
  induction h with
  | nothing => exact standing_nil
  | @next _ _ deed _ _ ih =>
    cases deed with
    | connected k => exact ih.connect k _
    | disconnected k => exact ih.disconnect k _
    | _ => exact ih.congr fun _ => rfl

end Standing

/-! ## The two halves of a frame -/

variable [Scalar α]

/-- **What a frame delivers**, by the moments before it, those of its timers and those after them: each callback that is
connected when the timers are done is called with the delta of the frame, in the order in which they stand. -/
structure Delivery [BEq κ] (delta : α) (s : Scheduler α κ τ) (earlier firing calling : List (Moment α κ τ)) : Prop where
  timers : ∀ m ∈ firing, m.deed.OfTimers
  calls : ∀ m ∈ calling, m.deed.OfCalls
  called : (calledIn calling).reverse = s.callbacks.map fun k => (k, delta)
  standing : Standing s.callbacks (firing ++ earlier)

namespace Chronicle

def timerPhase (onTimer : τ → Act (Fault α) (Chronicle α κ τ ρ) Unit) (spare : Nat) (delta : α) :
    Act (Fault α) (Chronicle α κ τ ρ) Unit := do
  operation (fun _ => .advanced delta) (Scheduler.advance delta)
  fireDue onTimer ((← get).stage.scheduler.timers.length + spare)

section

variable {onTimer : τ → Act (Fault α) (Chronicle α κ τ ρ) Unit}
  {onFrame : κ → α → Act (Fault α) (Chronicle α κ τ ρ) Unit} {spare : Nat} {delta : α}

/-- **A frame that answers** has done its timers, and then its calls. -/
theorem run_step_eq_ok {c c' : Chronicle α κ τ ρ} (h : (step onTimer onFrame spare delta).run c = (.ok (), c')) :
    ∃ t, (timerPhase onTimer spare delta).run c = (.ok (), t) ∧
      (callAll onFrame delta t.stage.scheduler.callbacks).run
        ⟨t.stage, ⟨.calling, t.stage.scheduler⟩ :: t.latestFirst⟩ = (.ok (), c') := by
  obtain ⟨u, started, hstarted, h⟩ := run_bind_eq_ok h
  rw [run_get_bind] at h
  obtain ⟨v, t, ht, h⟩ := run_bind_eq_ok h
  refine ⟨t, ?_, h⟩
  rw [timerPhase, run_bind, hstarted]
  dsimp only
  rw [run_get_bind, ht]

theorem follows_timerPhase (spare : Nat) (delta : α) {h : Handlers α κ τ ρ}
    (hTimer : ∀ purpose, Follows (onTimer purpose) (h.onTimer purpose)) :
    Follows (timerPhase onTimer spare delta) (Stage.timerPhase h spare delta) := by
  refine (follows_operation _ _).bind fun _ c => ?_
  rw [run_get_bind, run_get_bind]
  exact follows_fireDue hTimer _ c

variable [BEq κ]

theorem gains_timerPhase (spare : Nat) (delta : α) (hTimer : ∀ purpose, Obeys (Gains Deed.OfTimers) (onTimer purpose)) :
    Obeys (Gains Deed.OfTimers) (timerPhase onTimer spare delta) := by
  refine (gains_advance (fun _ => trivial) fun _ => trivial).bind fun _ => Act.obeys_get.bind fun _ => ?_
  exact gains_fireDue (fun _ => trivial) (fun _ _ => trivial) hTimer _

/-- **Each callback is called once**, in its turn, and what else is done then is arranged by callbacks. -/
theorem calls_of_callAll (hFrame : ∀ k, Obeys (Gains (Deed.Arranges fun _ => True)) (onFrame k delta)) :
    ∀ {callbacks : List κ} {c c' : Chronicle α κ τ ρ}, (callAll onFrame delta callbacks).run c = (.ok (), c') →
      ∃ calls, c'.latestFirst = calls ++ c.latestFirst ∧ (∀ m ∈ calls, m.deed.OfCalls) ∧
        (calledIn calls).reverse = callbacks.map fun k => (k, delta)
  | [], _, _, h => by
    cases h
    exact ⟨[], rfl, List.forall_mem_nil _, rfl⟩
  | k :: rest, c, c', h => by
    rw [callAll, note, run_modify_bind] at h
    obtain ⟨u, t, hk, h⟩ := run_bind_eq_ok h
    obtain ⟨arranged, ht, -, harranged⟩ := ((hFrame k).of_run hk).moments
    obtain ⟨calls, hc', hcalls, hcalled⟩ := calls_of_callAll hFrame h
    refine ⟨calls ++ (arranged ++ [⟨.called k delta, c.stage.scheduler⟩]), ?_, fun m hm => ?_, ?_⟩
    · rw [hc', ht, List.append_assoc, List.append_assoc, List.singleton_append]
    · rcases List.mem_append.1 hm with hm | hm
      · exact hcalls m hm
      · rcases List.mem_append.1 hm with hm | hm
        · exact (harranged m hm).ofCalls
        · rw [List.mem_singleton.1 hm]
          trivial
    · have hfirst : calledIn (arranged ++ [⟨.called k delta, c.stage.scheduler⟩]) = [(k, delta)] := by
        rw [calledIn, List.filterMap_append, ← calledIn, calledIn_arranged harranged]
        rfl
      rw [calledIn, List.filterMap_append, ← calledIn, ← calledIn, hfirst, List.reverse_append, hcalled]
      rfl

end

end Chronicle

/-! ## Histories -/

/-- What timers and callbacks have to do. -/
structure Duties (α κ τ ρ : Type) [Scalar α] where
  onTimer : τ → Errand α κ τ ρ
  onFrame : κ → α → Errand α κ τ ρ

/-- What is asked of a scheduler outside its frames, and the frames themselves. -/
inductive Request (α κ τ ρ : Type) where
  | own (change : Stage α κ τ ρ → Stage α κ τ ρ) (h : ∀ s, (change s).scheduler = s.scheduler)
  | book (purpose : τ) (delay : α)
  | connect (k : κ)
  | disconnect (k : κ)
  | step (spare : Nat) (delta : α)

variable [BEq κ]

def Duties.handlers (d : Duties α κ τ ρ) : Handlers α κ τ ρ :=
  ⟨fun purpose => (d.onTimer purpose).act, fun k delta => (d.onFrame k delta).act⟩

/-- Timers and callbacks arrange things for later: they come and go and register timers, and make no frames. -/
structure Duties.Arrange (d : Duties α κ τ ρ) : Prop where
  onTimer : ∀ purpose, (d.onTimer purpose).Does (Deed.Arranges fun _ => True)
  onFrame : ∀ k delta, (d.onFrame k delta).Does (Deed.Arranges fun _ => True)

namespace Request

def act (d : Duties α κ τ ρ) : Request α κ τ ρ → Act (Fault α) (Stage α κ τ ρ) Unit
  | own change _ => modify change
  | book purpose delay => Stage.scheduling (Scheduler.setTimeout purpose delay)
  | connect k => Stage.scheduling fun s => .ok (s.connect k)
  | disconnect k => Stage.scheduling fun s => .ok (s.disconnect k)
  | step spare delta => Stage.step d.handlers spare delta

/-- Does what is asked and writes down every moment. -/
def told (d : Duties α κ τ ρ) : Request α κ τ ρ → Act (Fault α) (Chronicle α κ τ ρ) Unit
  | own change _ => Chronicle.plain (modify change)
  | book purpose delay => Chronicle.operation (Chronicle.booked purpose delay) (Scheduler.setTimeout purpose delay)
  | connect k => Chronicle.operation (fun _ => .connected k) fun s => .ok (s.connect k)
  | disconnect k => Chronicle.operation (fun _ => .disconnected k) fun s => .ok (s.disconnect k)
  | step spare delta =>
    Chronicle.step (fun purpose => (d.onTimer purpose).told) (fun k delta => (d.onFrame k delta).told) spare delta

theorem told_act (d : Duties α κ τ ρ) : ∀ request : Request α κ τ ρ, Chronicle.Follows (request.told d) (request.act d)
  | own change _ => Chronicle.follows_plain (modify change)
  | book purpose delay =>
    Chronicle.follows_operation (Chronicle.booked purpose delay) (Scheduler.setTimeout purpose delay)
  | connect k => Chronicle.follows_operation (fun _ => .connected k) fun s => .ok (s.connect k)
  | disconnect k => Chronicle.follows_operation (fun _ => .disconnected k) fun s => .ok (s.disconnect k)
  | step _ delta =>
    Chronicle.follows_step (h := d.handlers) (fun purpose => (d.onTimer purpose).told_act)
      fun k => (d.onFrame k delta).told_act

theorem gains_told (d : Duties α κ τ ρ) :
    ∀ request : Request α κ τ ρ, Obeys (Chronicle.Gains (Deed.Within fun _ => True)) (request.told d)
  | own _ h => Chronicle.gains_own h
  | book .. => Chronicle.gains_book (fun _ => trivial) fun _ _ => trivial
  | connect _ => Chronicle.gains_connect (fun _ => trivial) trivial
  | disconnect _ => Chronicle.gains_disconnect (fun _ => trivial) trivial
  | step spare _ => by
    have htold (errand : Errand α κ τ ρ) : Obeys (Chronicle.Gains (Deed.Within fun _ => True)) errand.told :=
      errand.gains_told.imp fun _ _ h => h.imp fun _ hdeed => hdeed.imp fun _ _ => trivial
    exact Chronicle.gains_step spare (fun _ => trivial) (fun purpose => htold _) fun k => htold _

end Request

namespace Duties

/-- The stage after a history.  A request that fails is passed over, with what it did before it failed. -/
def after (d : Duties α κ τ ρ) (requests : List (Request α κ τ ρ)) (s : Stage α κ τ ρ) : Stage α κ τ ρ :=
  requests.foldl (fun s request => ((request.act d).run s).2) s

def recorded (d : Duties α κ τ ρ) (requests : List (Request α κ τ ρ)) (c : Chronicle α κ τ ρ) : Chronicle α κ τ ρ :=
  requests.foldl (fun c request => ((request.told d).run c).2) c

theorem stage_recorded (d : Duties α κ τ ρ) :
    ∀ (requests : List (Request α κ τ ρ)) (c : Chronicle α κ τ ρ),
      (d.recorded requests c).stage = d.after requests c.stage
  | [], _ => rfl
  | request :: requests, c => by
    have hstage : ((request.act d).run c.stage).2 = ((request.told d).run c).2.stage := by rw [request.told_act d c]
    rw [recorded, List.foldl_cons, ← recorded, stage_recorded d requests, after, after, List.foldl_cons, hstage]

theorem gains_recorded (d : Duties α κ τ ρ) :
    ∀ (requests : List (Request α κ τ ρ)) (c : Chronicle α κ τ ρ),
      Chronicle.Gains (Deed.Within fun _ => True) c (d.recorded requests c)
  | [], c => Steady.refl c
  | request :: requests, c => Steady.trans (request.gains_told d c) (gains_recorded d requests _)

/-- The record of a history from its beginning tells what a fresh scheduler undergoes. -/
theorem undergoes_recorded (d : Duties α κ τ ρ) (requests : List (Request α κ τ ρ)) {s : Stage α κ τ ρ}
    (hs : s.scheduler = .fresh) :
    Scheduler.fresh.Undergoes (d.recorded requests ⟨s, []⟩).latestFirst (d.after requests s).scheduler := by
  obtain ⟨moments, hrecord, hmoments, -⟩ := (d.gains_recorded requests ⟨s, []⟩).moments
  rw [d.stage_recorded] at hmoments
  rw [hrecord, List.append_nil, ← hs]
  exact hmoments

end Duties

/-- **A frame that answers delivers** to the callbacks that are connected when its timers are done. -/
theorem Duties.Arrange.delivery [EquivBEq κ] {d : Duties α κ τ ρ} (hd : d.Arrange) {spare : Nat} {delta : α}
    {c c' : Chronicle α κ τ ρ} (hc : Scheduler.fresh.Undergoes c.latestFirst c.stage.scheduler)
    (h : ((Request.step spare delta).told d).run c = (.ok (), c')) :
    ∃ t firing calling, (Stage.timerPhase d.handlers spare delta).run c.stage = (.ok (), t) ∧
      c'.latestFirst = calling ++ ⟨.calling, t.scheduler⟩ :: (firing ++ c.latestFirst) ∧
      Delivery delta t.scheduler c.latestFirst firing calling := by
  obtain ⟨t, ht, h⟩ := Chronicle.run_step_eq_ok h
  have hphase := Chronicle.follows_timerPhase (h := d.handlers) spare delta
    (fun purpose => (d.onTimer purpose).told_act) c
  rw [ht] at hphase
  have hTimer := Chronicle.gains_timerPhase spare delta
    fun purpose => (hd.onTimer purpose).gains.imp fun _ _ h => h.imp fun _ => Deed.Arranges.ofTimers
  obtain ⟨firing, hrecord, hfiring, htimers⟩ := (hTimer.of_run ht).moments
  obtain ⟨calling, hc', hcalls, hcalled⟩ := Chronicle.calls_of_callAll (fun k => (hd.onFrame k delta).gains) h
  refine ⟨t.stage, firing, calling, hphase, ?_, htimers, hcalls, hcalled, (hc.trans hfiring).standing⟩
  rw [hc', hrecord]

namespace Stage

omit [BEq κ] in
theorem fireDue_of_onFrame (h : Handlers α κ τ ρ) (onFrame : κ → α → Act (Fault α) (Stage α κ τ ρ) Unit) :
    ∀ limit, fireDue ⟨h.onTimer, onFrame⟩ limit = fireDue h limit
  | 0 => rfl
  | limit + 1 => by rw [fireDue, fireDue, fireDue_of_onFrame h onFrame limit]

omit [BEq κ] in
/-- What callbacks do is nothing to the timers that fire before them. -/
theorem timerPhase_of_onFrame (h : Handlers α κ τ ρ) (onFrame : κ → α → Act (Fault α) (Stage α κ τ ρ) Unit)
    (spare : Nat) (delta : α) : timerPhase ⟨h.onTimer, onFrame⟩ spare delta = timerPhase h spare delta := by
  simp only [timerPhase, fireDue_of_onFrame]

omit [Scalar α] [BEq κ] in
theorem run_callAll_of_answers {h : Handlers α κ τ ρ} {delta : α} (hh : ∀ k s, ((h.onFrame k delta).run s).1 = .ok ()) :
    ∀ (callbacks : List κ) (s : Stage α κ τ ρ), ∃ t, (callAll h delta callbacks).run s = (.ok (), t)
  | [], s => ⟨s, rfl⟩
  | k :: rest, s => by
    have hk := hh k s
    rw [callAll, run_bind]
    rcases hr : (h.onFrame k delta).run s with ⟨result, after⟩
    rw [hr] at hk
    obtain rfl : result = .ok () := hk
    exact run_callAll_of_answers hh rest after

end Stage

/-- **Frames deliver to the callbacks that are connected when their timers are done.**  Whatever is asked of a fresh
scheduler, and whatever timers and callbacks arrange, the scheduler is what the deeds on record make of it, no callback
is ever connected twice, and those that are connected stand in the order in which they were.  A frame that answers has
called each of them once, with its delta, in this order, after its timers.  The callbacks of the frame have no part in
who that is; and the frame answers if its timers get done and no callback fails. -/
theorem Duties.Arrange.frames_deliver [EquivBEq κ] {d : Duties α κ τ ρ} (hd : d.Arrange)
    (requests : List (Request α κ τ ρ)) {s : Stage α κ τ ρ} (hs : s.scheduler = .fresh) :
    (d.recorded requests ⟨s, []⟩).stage = d.after requests s ∧
    Scheduler.fresh.Undergoes (d.recorded requests ⟨s, []⟩).latestFirst (d.after requests s).scheduler ∧
    (∀ m earlier, m :: earlier <:+ (d.recorded requests ⟨s, []⟩).latestFirst →
      Standing m.scheduler.callbacks (m :: earlier)) ∧
    ∀ before spare delta later, requests = before ++ .step spare delta :: later →
      (∀ u, (Stage.step d.handlers spare delta).run (d.after before s) = (.ok (), u) →
        ∃ t firing calling,
          (∀ onFrame,
            (Stage.timerPhase ⟨d.handlers.onTimer, onFrame⟩ spare delta).run (d.after before s) = (.ok (), t)) ∧
          d.recorded (before ++ [.step spare delta]) ⟨s, []⟩ =
            ⟨u, calling ++ ⟨.calling, t.scheduler⟩ :: (firing ++ (d.recorded before ⟨s, []⟩).latestFirst)⟩ ∧
          Delivery delta t.scheduler (d.recorded before ⟨s, []⟩).latestFirst firing calling) ∧
      ∀ t, (Stage.timerPhase d.handlers spare delta).run (d.after before s) = (.ok (), t) →
        (∀ k s, ((d.onFrame k delta).act.run s).1 = .ok ()) →
          ∃ u, (Stage.step d.handlers spare delta).run (d.after before s) = (.ok (), u) := by
  refine ⟨d.stage_recorded requests ⟨s, []⟩, d.undergoes_recorded requests hs, fun m earlier hm => ?_,
    fun before spare delta later _ => ⟨?_, ?_⟩⟩
  · exact ((d.undergoes_recorded requests hs).of_suffix hm).standing
  · intro u hu
    have hstage : (d.recorded before ⟨s, []⟩).stage = d.after before s := d.stage_recorded before ⟨s, []⟩
    have hfollows := (Request.step spare delta).told_act d (d.recorded before ⟨s, []⟩)
    rcases hr : ((Request.step spare delta).told d).run (d.recorded before ⟨s, []⟩) with ⟨result, c'⟩
    rw [hr, hstage] at hfollows
    obtain ⟨rfl, rfl⟩ := Prod.mk.inj (hfollows.symm.trans hu)
    have hbefore := d.undergoes_recorded before hs
    rw [← hstage] at hbefore
    obtain ⟨t, firing, calling, hphase, hrecord, hdelivery⟩ := hd.delivery hbefore hr
    rw [hstage] at hphase
    refine ⟨t, firing, calling, fun onFrame => ?_, ?_, hdelivery⟩
    · rw [Stage.timerPhase_of_onFrame, hphase]
    · rw [recorded, List.foldl_append, List.foldl_cons, List.foldl_nil, ← recorded, hr, ← hrecord]
  · intro t ht hanswers
    obtain ⟨u, hu⟩ := Stage.run_callAll_of_answers (h := d.handlers) hanswers t.scheduler.callbacks t
    refine ⟨u, ?_⟩
    rw [Stage.step_eq, ht]
    exact hu

/-! ## Callbacks on the move -/

namespace Mingling

/-- The first goes to the end of the row whenever it is called, the second sends away the third, and that one is brought
by a timer. -/
def duties : Duties Float Nat Unit Unit where
  onTimer _ := .connect 2 .done
  onFrame k _ := if k = 0 then .disconnect 0 (.connect 0 .done) else if k = 1 then .disconnect 2 .done else .done

def stage : Stage Float Nat Unit Unit := { (Host.fresh : Host Float Nat Unit) with cast := () }

def opening : List (Request Float Nat Unit Unit) := [.connect 0, .connect 1, .connect 0, .book () 250.0, .step 0 0.5]

/-- The third is still called in the frame that sends it away, and the other two have changed places in the next. -/
theorem mingling_delivers :
    (calledIn (duties.recorded opening ⟨stage, []⟩).latestFirst).reverse.map Prod.fst = [0, 1, 2] ∧
    ∃ calling earlier,
      (duties.recorded (opening ++ [.step 0 0.25]) ⟨stage, []⟩).latestFirst = calling ++ earlier ∧
        (calledIn calling).reverse = [(1, 0.25), (0, 0.25)] := by
  have hd : duties.Arrange := by
    have hrefused (fault : Fault Float) : (Deed.refused fault : Deed Float Nat Unit).Arranges fun _ => True := trivial
    refine ⟨fun _ => Errand.does_connect hrefused trivial Errand.does_done, fun k _ => ?_⟩
    unfold duties
    dsimp only
    split
    · exact Errand.does_disconnect hrefused trivial (Errand.does_connect hrefused trivial Errand.does_done)
    · split
      · exact Errand.does_disconnect hrefused trivial Errand.does_done
      · exact Errand.does_done
  have hanswers (k : Nat) (t : Stage Float Nat Unit Unit) : ((duties.onFrame k 0.25).act.run t).1 = .ok () := by
    unfold duties
    dsimp only
    split
    · rfl
    · split <;> rfl
  obtain ⟨hdelivers, hreturns⟩ :=
    (hd.frames_deliver (opening ++ [.step 0 0.25]) (s := stage) rfl).2.2.2 opening 0 0.25 [] rfl
  rcases hr : (Stage.timerPhase duties.handlers 0 0.25).run (duties.after opening stage) with ⟨result, after⟩
  have hconnected : ((Stage.timerPhase duties.handlers 0 0.25).run (duties.after opening stage)).2.scheduler.callbacks =
      [1, 0] := rfl
  have hdone : ((Stage.timerPhase duties.handlers 0 0.25).run (duties.after opening stage)).1 = .ok () := rfl
  rw [hr] at hconnected hdone
  obtain rfl : result = .ok () := hdone
  obtain ⟨u, hu⟩ := hreturns after hr hanswers
  obtain ⟨t, firing, calling, hphase, hrecord, hdelivery⟩ := hdelivers u hu
  obtain rfl : after = t := (Prod.mk.inj (hr.symm.trans (hphase duties.handlers.onFrame))).2
  refine ⟨by decide +kernel, calling, ⟨.calling, after.scheduler⟩ :: (firing ++ _), congrArg _ hrecord, ?_⟩
  rw [hdelivery.called, hconnected]
  rfl

end Mingling

end Bystander
