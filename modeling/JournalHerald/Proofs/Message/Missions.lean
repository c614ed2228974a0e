import JournalHerald.Proofs.Message.Groups
import JournalHerald.Proofs.Message.Parts

/-!
# What the summary of open missions says

The summary covers the missions that lead to the present star system and station, as far as the message
shows them. It accounts for each of these missions, and it says that there is none only if there is none
(`summarizes_text`).

* `Present` is the present star system or station, `AtPlace` says that a value names it;
* `Passes` says which missions the summary covers;
* `Summarizes` is what a summary says.
-/

namespace JournalHerald.MissionSummary

/-! ### The missions that pass -/

/-- A field is among the names that a message shows, in some letter case. -/
def Lists (names : List Text) (field : Text) : Prop :=
  ∃ name ∈ names, Text.lowercase name = field

/-- The present star system or station: the one that the event tells, and that of the world if the event
tells none. -/
inductive Present (field : Text) (event : Option Event) (world : World) : Text → Prop where
  | ofEvent {e : Event} {place : Text} : event = some e → Denotes (e.get field) (some place) →
      Present field event world place
  | ofWorld {place : Text} : (∀ e, event = some e → Denotes (e.get field) none) →
      world.get field = .text place → Present field event world place

/-- A value names the present star system or station, letter case aside. -/
def AtPlace (field : Text) (event : Option Event) (world : World) (v : Value) : Prop :=
  ∃ name place, Denotes v (some name) ∧ Present field event world place ∧
    Text.lowercase name = Text.lowercase place

/-- The summary covers a mission: it leads to the present star system if the message shows one, and to the
present station if the message shows one. -/
structure Passes (names : List Text) (event : Option Event) (world : World) (m : Destination) :
    Prop where
  system : Lists names "starsystem" → AtPlace "StarSystem" event world m.system
  station : Lists names "stationname" → AtPlace "StationName" event world m.station

section

variable {names : List Text} {event : Option Event} {world : World} {field : Text}

theorem shows_iff : shows names field = true ↔ Lists names field := by
  rw [shows, List.contains_iff_mem, List.mem_map]
  rfl

theorem text?_eq_some_iff {v : Value} {s : Text} : v.text? = some s ↔ v = .text s := by
  cases v <;> simp [Value.text?]

theorem effective?_eq_some_iff {place : Text} :
    effective? field event world = some place ↔ Present field event world place := by
  unfold effective?
  cases hnamed : event.bind fun e => name? (e.get field) with
  | some s =>
    obtain ⟨e, he, hs⟩ := Option.bind_eq_some_iff.1 hnamed
    constructor
    · rintro ⟨⟩
      exact .ofEvent he (denotes_iff.2 hs)
    · rintro (⟨he', hplace⟩ | ⟨hnone, -⟩)
      · rw [he] at he'
        cases he'
        rw [denotes_iff.1 hplace] at hs
        exact hs.symm
      · rw [denotes_iff.1 (hnone e he)] at hs
        cases hs
  | none =>
    have hnone : ∀ e, event = some e → name? (e.get field) = none :=
      Option.bind_eq_none_iff.1 hnamed
    rw [text?_eq_some_iff]
    constructor
    · exact fun hworld => .ofWorld (fun e he => denotes_iff.2 (hnone e he)) hworld
    · rintro (⟨he, hplace⟩ | ⟨-, hworld⟩)
      · rw [denotes_iff, hnone _ he] at hplace
        cases hplace
      · exact hworld

theorem isAt_iff {v : Value} :
    isAt (effective? field event world) v = true ↔ AtPlace field event world v := by
  unfold isAt AtPlace
  simp only [denotes_iff, ← effective?_eq_some_iff]
  cases name? v with
  | none => simp
  | some name =>
    cases effective? field event world with
    | none => simp
    | some place => simp

/-- The test that the summary makes of a mission. -/
theorem passes_iff {m : Destination} : Passes names event world m ↔
    (shows names "starsystem" = true →
      isAt (effective? "StarSystem" event world) m.system = true) ∧
    (shows names "stationname" = true →
      isAt (effective? "StationName" event world) m.station = true) := by
  rw [shows_iff, shows_iff, isAt_iff, isAt_iff]
  exact ⟨fun h => ⟨h.system, h.station⟩, fun h => ⟨h.1, h.2⟩⟩

instance (m : Destination) : Decidable (Passes names event world m) :=
  decidable_of_iff _ passes_iff.symm

theorem kept_eq_filter (missions : List Destination) :
    kept names event world missions = missions.filter fun m => Passes names event world m := by
  have hfilter : ∀ (b : Bool) (p : Destination → Bool) (ms : List Destination),
      (if b = true then ms.filter p else ms) = ms.filter fun m => !b || p m := by
    intro b p ms
    cases b with
    | true => simp
    | false => simp
  unfold kept
  simp only [hfilter]
  rw [List.filter_filter]
  apply List.filter_congr
  intro m _
  rw [Bool.eq_iff_iff, decide_eq_true_iff, passes_iff]
  cases shows names "starsystem" <;> cases shows names "stationname" <;> simp [and_comm]

/-! ### The text -/

theorem text_of_nil {missions : List Destination} (h : kept names event world missions = []) :
    text names event world missions = "None" := by
  rw [text, h]

theorem text_of_ne_nil {missions : List Destination} (h : kept names event world missions ≠ []) :
    text names event world missions =
      Text.joinWith "\n" (lines names (kept names event world missions)) := by
  unfold text
  split
  · next hnil => exact absurd hnil h
  · rfl

end

/-- There is a bracket in each line of a summary. The word for no mission has none. -/
theorem bracket_mem_of_mem_lines {names : List Text} {missions : List Destination} {line : Text}
    (h : line ∈ lines names missions) : CodePoint.char ')' ∈ line := by
  have hgroup : ∀ (unknown : Text) (gs : List (Option Text × Nat)),
      line ∈ gs.map (groupLine unknown) → CodePoint.char ')' ∈ line := by
    intro unknown gs hline
    obtain ⟨g, -, rfl⟩ := List.mem_map.1 hline
    exact List.mem_append_right _ (by decide)
  unfold lines at h
  split at h
  · exact hgroup _ _ h
  · split at h
    · rw [List.mem_singleton.1 h]
      exact List.mem_append_right _ (by decide)
    · exact hgroup _ _ h

theorem text_eq_none_iff {names : List Text} {event : Option Event} {world : World}
    {missions : List Destination} :
    text names event world missions = "None" ↔ kept names event world missions = [] := by
  refine ⟨fun h => ?_, text_of_nil⟩
  by_contra hkept
  -- otherwise the word for no mission would have the bracket of the first line
  obtain ⟨line, rest, hlines, -⟩ := lines_eq_cons names hkept
  have hbracket : CodePoint.char ')' ∈ line :=
    bracket_mem_of_mem_lines (hlines ▸ List.mem_cons_self)
  have hmem : CodePoint.char ')' ∈ text names event world missions := by
    rw [text_of_ne_nil hkept, hlines]
    exact Text.mem_joinWith hbracket
  rw [h] at hmem
  exact absurd hmem (by decide)

/-- The lines do not depend on the order of the missions. -/
theorem lines_congr {names : List Text} {missions missions' : List Destination}
    (h : missions.Perm missions') : lines names missions = lines names missions' := by
  unfold lines
  rw [groups_congr (h.map fun m => name? m.station), groups_congr (h.map fun m => name? m.system),
    h.length_eq]

theorem text_congr {names : List Text} {event : Option Event} {world : World}
    {missions missions' : List Destination} (h : missions.Perm missions') :
    text names event world missions = text names event world missions' := by
  have hkept : (kept names event world missions).Perm (kept names event world missions') := by
    rw [kept_eq_filter, kept_eq_filter]
    exact h.filter _
  have hnil_iff : kept names event world missions = [] ↔ kept names event world missions' = [] := by
    rw [← List.length_eq_zero_iff, hkept.length_eq, List.length_eq_zero_iff]
  by_cases hnil : kept names event world missions = []
  · rw [text_of_nil hnil, text_of_nil (hnil_iff.1 hnil)]
  · rw [text_of_ne_nil hnil, text_of_ne_nil (mt hnil_iff.2 hnil), lines_congr hkept]

/-! ### Summaries -/

/-- What a summary says of the missions that it covers. They are grouped by station if the message shows
the star system, they are only counted if it shows the station alone, and they are grouped by star system
if it shows neither. -/
structure Summarizes (names : List Text) (missions : List Destination) (summary : Text) : Prop where
  none_iff : summary = "None" ↔ missions = []
  byStation : Lists names "starsystem" → missions ≠ [] →
    ∃ gs, Tallies (missions.map Destination.station) gs ∧
      summary = Text.joinWith "\n" (gs.map fun g =>
        g.1.getD "(Unknown Station)" ++ " (" ++ Text.natText g.2 ++ ")")
  counted : ¬Lists names "starsystem" → Lists names "stationname" → missions ≠ [] →
    summary = Text.natText missions.length ++ " mission(s) at this station)"
  bySystem : ¬Lists names "starsystem" → ¬Lists names "stationname" → missions ≠ [] →
    ∃ gs, Tallies (missions.map Destination.system) gs ∧
      summary = Text.joinWith "\n" (gs.map fun g =>
        g.1.getD "(Unknown Star System)" ++ " (" ++ Text.natText g.2 ++ ")")

/-- **The summary accounts for all missions that pass**, and it is the same for the missions in another
order. -/
theorem summarizes_text (names : List Text) (event : Option Event) (world : World)
    (missions : List Destination) :
    Summarizes names (missions.filter fun m => Passes names event world m)
      (text names event world missions) ∧
    ∀ missions', missions.Perm missions' →
      text names event world missions' = text names event world missions := by
  refine ⟨?_, fun missions' h => (text_congr h).symm⟩
  rw [← kept_eq_filter]
  refine ⟨text_eq_none_iff, fun hsystem hne => ?_, fun hsystem hstation hne => ?_,
    fun hsystem hstation hne => ?_⟩
  · refine ⟨_, tallies_groups _, ?_⟩
    rw [text_of_ne_nil hne, lines, if_pos (shows_iff.2 hsystem), List.map_map]
    rfl
  · rw [text_of_ne_nil hne, lines, if_neg (mt shows_iff.1 hsystem), if_pos (shows_iff.2 hstation)]
    rfl
  · refine ⟨_, tallies_groups _, ?_⟩
    rw [text_of_ne_nil hne, lines, if_neg (mt shows_iff.1 hsystem),
      if_neg (mt shows_iff.1 hstation), List.map_map]
    rfl

/-- Two of three missions lead to the station of a docking, one of them in capitals. The third one does not
even lead to a place with a name. -/
theorem summarizes_text_docking :
    let missions : List Destination :=
      [⟨.text "Lave", .text "Lave Station"⟩, ⟨.null, .int 7⟩, ⟨.text "Diso", .text "LAVE STATION"⟩]
    let docking : Event :=
      .ofEntry [("event", .text "Docked"), ("StationName", .text "Lave Station")] false none
    missions.Perm missions.reverse ∧
      text ["StationName"] (some docking) {} missions = "2 mission(s) at this station)" ∧
      text ["StationName"] (some docking) {} missions.reverse = "2 mission(s) at this station)" := by
  intro missions docking
  obtain ⟨hsummary, hperm⟩ := summarizes_text ["StationName"] (some docking) {} missions
  have hkept : (missions.filter fun m => Passes ["StationName"] (some docking) {} m) =
      [⟨.text "Lave", .text "Lave Station"⟩, ⟨.text "Diso", .text "LAVE STATION"⟩] := by
    rfl
  rw [hkept] at hsummary
  have htext : text ["StationName"] (some docking) {} missions = "2 mission(s) at this station)" :=
    hsummary.counted (mt shows_iff.2 (by decide)) (shows_iff.1 (by decide)) (List.cons_ne_nil _ _)
  have hreverse := missions.reverse_perm.symm
  exact ⟨hreverse, htext, (hperm _ hreverse).trans htext⟩

end JournalHerald.MissionSummary
