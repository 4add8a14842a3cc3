import Bystander.Config.Tree
import Bystander.Config.Validate
/-! # A configuration that is written back

Settings are read leniently, but what has been read is read again as it is: a reader settles at once (`Settles`).  This
passes from single settings to bounded ones, to settings that may be absent, to fields with a default that is itself
acceptable, and so to the whole configuration (`ofData_toData`).
-/
namespace Bystander

namespace Data

/-! ## Readers that settle -/

/-- **A reader settles at once**: what it accepts, written as data, it accepts as the same. -/
def Settles {β : Type} (read : Data → Checked β) (write : β → Data) : Prop :=
  ∀ d b, read d = .accepted b → read (write b) = .accepted b

variable {β : Type} {read : Data → Checked β} {write : β → Data}

theorem settles_toFloat : Settles toFloat .float := fun _ _ _ => rfl

theorem settles_toInt : Settles toInt .int := fun _ _ _ => rfl

theorem settles_toBool : Settles toBool .bool := fun _ _ _ => rfl

theorem settles_toText : Settles toText .text := fun _ _ _ => rfl

theorem Settles.andThen (h : Settles read write) {check : β → Checked β}
    (hcheck : ∀ b c, check b = .accepted c → b = c) : Settles (fun d => (read d).andThen check) write := by
  intro d c hc
  obtain ⟨b, hb, hbc⟩ := (Checked.andThen_eq_accepted_iff _ _ _).1 hc
  obtain rfl := hcheck b c hbc
  dsimp only
  rw [h d b hb]
  exact hbc

theorem settles_toFloatFrom (low : Float) : Settles (toFloatFrom low) .float :=
  settles_toFloat.andThen fun x y h => by
    split at h <;> cases h
    rfl

theorem settles_toRate (high : Float) : Settles (toRate high) .float := by
  have hmost : Settles (toFloatAtMost high) .float :=
    settles_toFloat.andThen fun x y h => by
      split at h <;> cases h
      rfl
  refine hmost.andThen fun x y h => ?_
  split at h <;> cases h
  rfl

theorem settles_toIntBetween (low high : Int) : Settles (toIntBetween low high) .int :=
  settles_toInt.andThen fun m n h => by
    split at h
    · cases h
    · split at h <;> cases h
      rfl

theorem settles_version : Settles versionOfData .text :=
  settles_toText.andThen fun s t h => by
    split at h <;> cases h
    rfl

theorem toOption_of_ne_null {d : Data} (h : d ≠ .null) : toOption read d = (read d).map some := by
  cases d <;> first | rfl | exact absurd rfl h

/-- What may be absent settles if it does where it is there. -/
theorem Settles.toOption (h : Settles read write) (hnull : ∀ b, write b ≠ .null) :
    Settles (Data.toOption read) (ofOption write) := by
  rintro d (_ | b) hb
  · rfl
  · have hd : d ≠ .null := by
      rintro rfl
      cases hb
    rw [toOption_of_ne_null hd] at hb
    cases hr : read d with
    | rejected issues =>
      rw [hr] at hb
      cases hb
    | accepted a =>
      rw [hr] at hb
      cases hb
      change Data.toOption read (write b) = _
      rw [toOption_of_ne_null (hnull b), h d b hr]
      rfl

/-! ## Fields -/

variable {entries : List (Data × Data)} {name : String} {default b : β}

/-- **A field settles** if its reader does and its default is acceptable. -/
theorem Settles.field (h : Settles read write) (hdefault : read (write default) = .accepted default)
    (hb : fieldOr entries name default read = .accepted b) : read (write b) = .accepted b := by
  unfold fieldOr at hb
  split at hb
  · cases hb
    exact hdefault
  · next d _ => exact h d b ((Checked.under_eq_accepted_iff _ _ _).1 hb)

theorem toModel_object (read : List (Data × Data) → Checked β) (named : List (String × Data)) :
    toModel read (object named) = read (named.map fun (k, v) => (text k, v)) := rfl

theorem fieldOr_of_lookup {d : Data} (hd : lookup name entries = some d) (hb : read d = .accepted b) :
    fieldOr entries name default read = .accepted b := by
  unfold fieldOr
  rw [hd]
  exact (Checked.under_eq_accepted_iff _ _ _).2 hb

/-! ## Maps under texts -/

theorem textEntries_named : ∀ named : List (String × β), (∀ e ∈ named, read (write e.2) = .accepted e.2) →
    Checked.textEntries read (named.map fun e => (.text e.1, write e.2)) = .accepted named
  | [], _ => rfl
  | e :: named, h => by
    have hrest := textEntries_named named fun f hf => h f (List.mem_cons_of_mem e hf)
    rw [List.map_cons, Checked.textEntries, h e List.mem_cons_self, hrest]
    rfl

theorem foldl_setEntry (named : List (String × β)) : ∀ known : List (String × β),
    ((known ++ named).map Prod.fst).Nodup →
      named.foldl (fun known (k, v) => setEntry k v known) known = known ++ named := by
  induction named with
  | nil => exact fun known _ => (List.append_nil known).symm
  | cons e named ih =>
    intro known h
    have hnew : setEntry e.1 e.2 known = known ++ [e] := by
      refine setEntry_of_notMem fun hmem => ?_
      rw [List.map_append, List.nodup_append] at h
      exact h.2.2 _ hmem _ List.mem_cons_self rfl
    rw [List.foldl_cons]
    dsimp only
    rw [hnew, ih _ (by rwa [List.append_assoc]), List.append_assoc]
    rfl

/-- **A map under texts settles** where no text stands twice. -/
theorem toTextMap_object {named : List (String × β)} (h : ∀ e ∈ named, read (write e.2) = .accepted e.2)
    (hnodup : (named.map Prod.fst).Nodup) :
    toTextMap read (object (named.map fun e => (e.1, write e.2))) = .accepted named := by
  unfold object toTextMap
  dsimp only
  rw [List.map_map]
  have hentries := textEntries_named named h
  have hsame : (fun x : String × Data => (text x.1, x.2)) ∘ (fun e : String × β => (e.1, write e.2)) =
      fun e => (text e.1, write e.2) := rfl
  rw [hsame, hentries, Checked.map_accepted, foldl_setEntry named [] hnodup]
  rfl

theorem toTextMap_accepted {named : List (String × Data)} (hnodup : (named.map Prod.fst).Nodup) :
    toTextMap .accepted (object named) = .accepted named := by
  have hsettled := toTextMap_object (fun _ _ => rfl : ∀ e ∈ named, Checked.accepted (id e.2) = .accepted e.2) hnodup
  rwa [show (fun e : String × Data => (e.1, id e.2)) = id from rfl, List.map_id] at hsettled

end Data

open Data

/-! ## Behaviour settings

Nothing is asked of their values, so whatever they are they are read as they were written. -/

theorem ViewSettings.ofEntries_toData (s : ViewSettings Float) : toRecord ofEntries s.toData = .accepted s := rfl

theorem WaveSettings.ofEntries_toData (s : WaveSettings Float) : toRecord ofEntries s.toData = .accepted s := rfl

theorem SoundSettings.ofEntries_toData (s : SoundSettings Float) : toRecord ofEntries s.toData = .accepted s := rfl

theorem HeadSettings.ofEntries_toData (s : HeadSettings Float) : toRecord ofEntries s.toData = .accepted s := rfl

theorem WalkSettings.ofEntries_toData (s : WalkSettings Float) : toRecord ofEntries s.toData = .accepted s := by
  obtain ⟨chance, big, turn, small, _ | range, move, rate, tolerance, frequency, amplitude⟩ := s <;> rfl

theorem Settings.ofEntries_eq_accepted_iff (e : List (Data × Data)) (s : Settings Float) :
    Settings.ofEntries e = .accepted s ↔
      fieldOr e "view" .standard (toRecord ViewSettings.ofEntries) = .accepted s.view ∧
      fieldOr e "wave" .standard (toRecord WaveSettings.ofEntries) = .accepted s.wave ∧
      fieldOr e "sound" .standard (toRecord SoundSettings.ofEntries) = .accepted s.sound ∧
      fieldOr e "head" .standard (toRecord HeadSettings.ofEntries) = .accepted s.head ∧
      fieldOr e "walk" .standard (toRecord WalkSettings.ofEntries) = .accepted s.walk := by
  unfold Settings.ofEntries
  constructor
  · intro h
    -- The fields come off from the last to the first; what is left is the constructor.
    simp only [Checked.field_eq_accepted_iff] at h
    obtain ⟨_, _, ⟨_, _, ⟨_, _, ⟨_, _, ⟨_, _, hmk, hview, rfl⟩, hwave, rfl⟩, hsound, rfl⟩, hhead, rfl⟩, hwalk, rfl⟩ := h
    cases hmk
    exact ⟨hview, hwave, hsound, hhead, hwalk⟩
  · rintro ⟨hview, hwave, hsound, hhead, hwalk⟩
    dsimp only [Settings.standard]
    rw [hview, hwave, hsound, hhead, hwalk]
    rfl

theorem Settings.ofEntries_toData (s : Settings Float) : Settings.ofData s.toData = .accepted s :=
  (Settings.ofEntries_eq_accepted_iff _ s).2
    ⟨fieldOr_of_lookup rfl s.view.ofEntries_toData, fieldOr_of_lookup rfl s.wave.ofEntries_toData,
      fieldOr_of_lookup rfl s.sound.ofEntries_toData, fieldOr_of_lookup rfl s.head.ofEntries_toData,
      fieldOr_of_lookup rfl s.walk.ofEntries_toData⟩

/-- Sections in which no name stands twice are read as the settings that they give together. -/
theorem sectionsOfData_object (sections : List (String × List (String × Data)))
    (hnames : (sections.map Prod.fst).Nodup) (hfields : ∀ e ∈ sections, (e.2.map Prod.fst).Nodup) {s : Settings Float}
    (hs : Settings.ofData (object (sections.map fun e => (e.1, object e.2))) = .accepted s) :
    sectionsOfData (object (sections.map fun e => (e.1, object e.2))) = .accepted (sections.map Prod.fst, s) := by
  rw [Settings.ofData, object, toRecord, List.map_map] at hs
  change Settings.ofEntries (sections.map fun e => (.text e.1, .object e.2)) = .accepted s at hs
  unfold sectionsOfData
  rw [toTextMap_object (fun e he => toTextMap_accepted (hfields e he)) hnames, Checked.andThen_accepted]
  dsimp only
  rw [hs]

/-- **The five sections are read as they were written.** -/
theorem sectionsOfData_toData (s : Settings Float) :
    sectionsOfData s.toData = .accepted (Settings.sectionNames, s) := by
  have hs : Settings.ofData s.toData = .accepted s := s.ofEntries_toData
  -- Of each section only its names matter from here on, so the values are hidden.
  obtain ⟨view, hview, dview⟩ : ∃ es, s.view.toData = object es ∧ (es.map Prod.fst).Nodup :=
    ⟨_, rfl, (by decide : ViewSettings.names.Nodup)⟩
  obtain ⟨wave, hwave, dwave⟩ : ∃ es, s.wave.toData = object es ∧ (es.map Prod.fst).Nodup :=
    ⟨_, rfl, (by decide : WaveSettings.names.Nodup)⟩
  obtain ⟨sound, hsound, dsound⟩ : ∃ es, s.sound.toData = object es ∧ (es.map Prod.fst).Nodup :=
    ⟨_, rfl, (by decide : SoundSettings.names.Nodup)⟩
  obtain ⟨head, hhead, dhead⟩ : ∃ es, s.head.toData = object es ∧ (es.map Prod.fst).Nodup :=
    ⟨_, rfl, (by decide : HeadSettings.names.Nodup)⟩
  obtain ⟨walk, hwalk, dwalk⟩ : ∃ es, s.walk.toData = object es ∧ (es.map Prod.fst).Nodup :=
    ⟨_, rfl, (by decide : WalkSettings.names.Nodup)⟩
  unfold Settings.toData at hs ⊢
  rw [hview, hwave, hsound, hhead, hwalk] at hs ⊢
  refine sectionsOfData_object [("view", view), ("wave", wave), ("sound", sound), ("head", head), ("walk", walk)]
    (by decide : Settings.sectionNames.Nodup) (fun e he => ?_) hs
  simp only [List.mem_cons, List.not_mem_nil, or_false] at he
  rcases he with rfl | rfl | rfl | rfl | rfl <;> assumption

/-! ## The other parts -/

theorem Bounds.ofEntries_eq_accepted_iff (e : List (Data × Data)) (b : Bounds Float) :
    Bounds.ofEntries e = .accepted b ↔
      (fieldOr e "x_min" 20.0 toFloat = .accepted b.xMin ∧ fieldOr e "x_max" 25.0 toFloat = .accepted b.xMax ∧
      fieldOr e "z_min" 20.0 toFloat = .accepted b.zMin ∧ fieldOr e "z_max" 25.0 toFloat = .accepted b.zMax ∧
      fieldOr e "y_pelvis" 2.5 toFloat = .accepted b.yPelvis) ∧ ¬ b.xMax ≤ b.xMin ∧ ¬ b.zMax ≤ b.zMin := by
  unfold Bounds.ofEntries
  dsimp only [Bounds.standard]
  rw [Checked.andThen_eq_accepted_iff]
  constructor
  · rintro ⟨c, hc, hcheck⟩
    simp only [Checked.field_eq_accepted_iff] at hc
    obtain ⟨_, _, ⟨_, _, ⟨_, _, ⟨_, _, ⟨_, _, hmk, hx, rfl⟩, hX, rfl⟩, hz, rfl⟩, hZ, rfl⟩, hy, rfl⟩ := hc
    cases hmk
    split at hcheck
    · cases hcheck
    · next hxs =>
      split at hcheck
      · cases hcheck
      · next hzs =>
        cases hcheck
        exact ⟨⟨hx, hX, hz, hZ, hy⟩, hxs, hzs⟩
  · rintro ⟨⟨hx, hX, hz, hZ, hy⟩, hxs, hzs⟩
    refine ⟨b, ?_, ?_⟩
    · rw [hx, hX, hz, hZ, hy]
      rfl
    · rw [if_neg hxs, if_neg hzs]

theorem settles_spawn : Settles (toModel Bounds.ofEntries) Bounds.toData := by
  intro d b hb
  cases d with
  | map e =>
    obtain ⟨-, hx, hz⟩ := (Bounds.ofEntries_eq_accepted_iff e b).1 hb
    rw [Bounds.toData, toModel_object, Bounds.ofEntries_eq_accepted_iff]
    exact ⟨⟨rfl, rfl, rfl, rfl, rfl⟩, hx, hz⟩
  | _ => cases hb

theorem AssetsConfig.ofEntries_eq_accepted_iff (e : List (Data × Data)) (c : AssetsConfig) :
    AssetsConfig.ofEntries e = .accepted c ↔
      fieldOr e "base_url" AssetsConfig.standard.root toText = .accepted c.root ∧
      fieldOr e "bot_number" none (toOption (toIntBetween 1 100)) = .accepted c.number := by
  unfold AssetsConfig.ofEntries
  constructor
  · intro h
    simp only [Checked.field_eq_accepted_iff] at h
    obtain ⟨_, _, ⟨_, _, hmk, hroot, rfl⟩, hnumber, rfl⟩ := h
    cases hmk
    exact ⟨hroot, hnumber⟩
  · rintro ⟨hroot, hnumber⟩
    have hstandard : (AssetsConfig.standard).number = none := rfl
    dsimp only
    rw [hstandard, hroot, hnumber]
    rfl

theorem settles_number : Settles (toOption (toIntBetween 1 100)) (ofOption .int) :=
  (settles_toIntBetween 1 100).toOption nofun

theorem settles_assets : Settles (toModel AssetsConfig.ofEntries) AssetsConfig.toData := by
  intro d c hc
  cases d with
  | map e =>
    obtain ⟨hroot, hnumber⟩ := (AssetsConfig.ofEntries_eq_accepted_iff e c).1 hc
    rw [AssetsConfig.toData, toModel_object, AssetsConfig.ofEntries_eq_accepted_iff]
    exact
      ⟨fieldOr_of_lookup rfl (settles_toText.field rfl hroot),
        fieldOr_of_lookup rfl (settles_number.field rfl hnumber)⟩
  | _ => cases hc

theorem SimulationConfig.ofEntries_eq_accepted_iff (e : List (Data × Data)) (c : SimulationConfig Float) :
    SimulationConfig.ofEntries e = .accepted c ↔
      fieldOr e "fps" 60.0 (toRate 1000.0) = .accepted c.fps ∧
      fieldOr e "duration_seconds" 10.0 (toFloatFrom 0.0) = .accepted c.duration ∧
      fieldOr e "realtime" false toBool = .accepted c.realtime ∧
      fieldOr e "seed" none (toOption toInt) = .accepted c.seed := by
  unfold SimulationConfig.ofEntries
  dsimp only [SimulationConfig.standard]
  constructor
  · intro h
    simp only [Checked.field_eq_accepted_iff] at h
    obtain ⟨_, _, ⟨_, _, ⟨_, _, ⟨_, _, hmk, hfps, rfl⟩, hduration, rfl⟩, hrealtime, rfl⟩, hseed, rfl⟩ := h
    cases hmk
    exact ⟨hfps, hduration, hrealtime, hseed⟩
  · rintro ⟨hfps, hduration, hrealtime, hseed⟩
    rw [hfps, hduration, hrealtime, hseed]
    rfl

theorem settles_seed : Settles (toOption toInt) (ofOption .int) := settles_toInt.toOption nofun

theorem settles_simulation : Settles (toModel SimulationConfig.ofEntries) SimulationConfig.toData := by
  intro d c hc
  cases d with
  | map e =>
    obtain ⟨hfps, hduration, hrealtime, hseed⟩ := (SimulationConfig.ofEntries_eq_accepted_iff e c).1 hc
    rw [SimulationConfig.toData, toModel_object, SimulationConfig.ofEntries_eq_accepted_iff]
    exact
      ⟨fieldOr_of_lookup rfl ((settles_toRate 1000.0).field rfl hfps),
        fieldOr_of_lookup rfl ((settles_toFloatFrom 0.0).field rfl hduration),
        fieldOr_of_lookup rfl (settles_toBool.field rfl hrealtime),
        fieldOr_of_lookup rfl (settles_seed.field rfl hseed)⟩
  | _ => cases hc

/-! ## The configuration -/

theorem BotConfig.ofEntries_eq_accepted_iff (e : List (Data × Data)) (c : BotConfig Float) :
    BotConfig.ofData (.map e) = .accepted c ↔
      fieldOr e "version" "1.0" versionOfData = .accepted c.version ∧
      fieldOr e "spawn" .standard (toModel Bounds.ofEntries) = .accepted c.spawn ∧
      fieldOr e "assets" .standard (toModel AssetsConfig.ofEntries) = .accepted c.assets ∧
      fieldOr e "simulation" .standard (toModel SimulationConfig.ofEntries) = .accepted c.simulation ∧
      fieldOr e "behaviors" ([], .standard) sectionsOfData = .accepted (c.sections, c.settings) := by
  unfold BotConfig.ofData toModel
  dsimp only [BotConfig.standard]
  constructor
  · intro h
    simp only [Checked.field_eq_accepted_iff] at h
    obtain ⟨_, _, ⟨_, _, ⟨_, _, ⟨_, _, ⟨_, _, hmk, hversion, rfl⟩, hspawn, rfl⟩, hassets, rfl⟩, hsimulation, rfl⟩,
      hbehaviors, rfl⟩ := h
    cases hmk
    exact ⟨hversion, hspawn, hassets, hsimulation, hbehaviors⟩
  · rintro ⟨hversion, hspawn, hassets, hsimulation, hbehaviors⟩
    rw [hversion, hspawn, hassets, hsimulation, hbehaviors]
    rfl

/-- **Reading a configuration settles**: what was accepted, written back with all its settings, is accepted as the same;
all five sections are then given. -/
theorem BotConfig.ofData_toData {d : Data} {c : BotConfig Float} (h : BotConfig.ofData d = .accepted c) :
    BotConfig.ofData c.toData = .accepted { c with sections := Settings.sectionNames } := by
  cases d with
  | map e =>
    obtain ⟨hversion, hspawn, hassets, hsimulation, -⟩ := (BotConfig.ofEntries_eq_accepted_iff e c).1 h
    exact (BotConfig.ofEntries_eq_accepted_iff _ _).2
      ⟨fieldOr_of_lookup rfl (settles_version.field rfl hversion),
        fieldOr_of_lookup rfl (settles_spawn.field rfl hspawn),
        fieldOr_of_lookup rfl (settles_assets.field rfl hassets),
        fieldOr_of_lookup rfl (settles_simulation.field rfl hsimulation),
        fieldOr_of_lookup rfl (sectionsOfData_toData c.settings)⟩
  | _ => cases h

/-- A tree that uses the liberties: truth values and texts for numbers, a number for an integer, and names that are not
declared. -/
def Data.lenient : Data :=
  .map [(.text "version", .text "2.10"), (.text "spawn", .map [(.text "x_min", .bool true), (.text "x_max", .int 4)]),
    (.text "assets", .map [(.text "bot_number", .text " +0_7 "), (.text "colour", .null)]),
    (.text "simulation",
      .map [(.text "fps", .text "3_0"), (.text "realtime", .text "YES"), (.text "seed", .float 3.0)]),
    (.text "behaviors", .map [(.text "dance", .map []),
      (.text "wave", .map [(.text "frequency_range", .list [.int 1, .text "nan"])])])]

def BotConfig.lenient : BotConfig Float where
  version := "2.10"
  spawn := { Bounds.standard with xMin := 1.0, xMax := 4.0 }
  assets := { AssetsConfig.standard with number := some 7 }
  simulation := ⟨30.0, 10.0, true, some 3⟩
  sections := ["dance", "wave"]
  settings := { Settings.standard with wave := { WaveSettings.standard with frequencyRange := (1.0, 0.0 / 0.0) } }

theorem BotConfig.ofData_toData_lenient :
    BotConfig.ofData Data.lenient = .accepted lenient ∧
      BotConfig.ofData lenient.toData = .accepted { lenient with sections := Settings.sectionNames } := by
  have haccepted : BotConfig.ofData Data.lenient = .accepted lenient := by rfl
  exact ⟨haccepted, BotConfig.ofData_toData haccepted⟩

end Bystander
