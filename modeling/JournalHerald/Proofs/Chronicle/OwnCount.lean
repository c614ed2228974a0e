import JournalHerald.Proofs.Chronicle.Histogram
import JournalHerald.Proofs.Message.Traces
import JournalHerald.Proofs.Value.Presence

/-!
# An event in its own message

The message of an event may show how many such events there have been. The event is among them: it
has been taken in before its message is composed, and its context in the history is as the filter
of the message wants it (`Filter.meets_forMessage`), although the two are worked out apart from
each other. So the count of a live event is at least one (`one_le_count_forMessage`), and the
message shows no zero (`ShowsCount`).
-/

namespace JournalHerald

/-! ### The filter and the context of an event -/

/-- The text in the context of an event is that of the value in the filter of its message. -/
theorem Chronicle.Context.dimension_eq_normalized (event : Event) (world : World) (a : Attribute) :
    dimension event world a = (Filter.effective event world a.name).normalized := by
  rw [dimension, Filter.effective, Option.orElse_eq_orElse, Option.orElse_eq_or]
  cases hown : (event.get a.name).isPresent with
  | true =>
    obtain ⟨text, htext⟩ := Option.isSome_iff_exists.1 ((Value.isSome_normalized _).trans hown)
    simp [htext]
  | false =>
    simp [Value.normalized_eq_none_iff.2 hown]

namespace Filter

theorem dimension_of_not_isNull {names : List Text} {event : Event} {world : World} {a : Attribute}
    (h : (dimension names event world a).isNull = false) :
    dimension names event world a = effective event world a.name := by
  simp only [dimension] at h ⊢
  by_cases hshown : (names.map Text.lowercase).contains (Text.lowercase a.name) = true
  · by_cases hpresent : (effective event world a.name).isPresent = true
    · rw [if_pos hshown, if_pos hpresent]
    · rw [if_pos hshown, if_neg hpresent] at h
      cases h
  · rw [if_neg hshown] at h
    cases h

/-- **An event shows what the filter of its message wants.** -/
theorem meets_forMessage {event : Event} (hkind : event.kind ≠ "")
    (htrim : Text.trim event.kind = event.kind) (names : List Text) (world : World) (b : Bool) :
    Occurrence.Meets (forMessage names event world b) ⟨event, world⟩ := by
  rw [Occurrence.meets_iff]
  have hdimension : ∀ a, (dimension names event world a).isNull = false →
      Chronicle.Context.dimension event world a = (dimension names event world a).normalized := by
    intro a ha
    rw [Chronicle.Context.dimension_eq_normalized, dimension_of_not_isNull ha]
  intro a ha
  cases a with
  | event =>
    show some (Text.lowercase event.kind) =
      if Text.trim event.kind = "" then none else some (Text.lowercase (Text.trim event.kind))
    rw [htrim, if_neg hkind]
  | commander =>
    cases b with
    | true => rfl
    | false => cases ha
  | starSystem => exact hdimension .starSystem ha
  | stationName => exact hdimension .stationName ha
  | body => exact hdimension .body ha
  | bodyType => exact hdimension .bodyType ha
  | ship => exact hdimension .ship ha

end Filter

/-! ### Numbers that are not zero -/

namespace Text

theorem natText_injective : Function.Injective natText := by
  intro m n h
  have hdigits : Nat.toDigits 10 m = Nat.toDigits 10 n :=
    List.map_injective_iff.2 (fun _ _ => CodePoint.char.inj) h
  rw [← Nat.ofDigitChars_ten_toDigits (n := m), hdigits, Nat.ofDigitChars_ten_toDigits]

theorem intText_ne_zero {n : Nat} (h : 1 ≤ n) : intText n ≠ "0" := by
  have hzero : ("0" : Text) = natText 0 := by decide
  rw [hzero]
  intro he
  have := natText_injective he
  omega

end Text

namespace Message

theorem ordinal_ne_zero {n : Nat} (h : 1 ≤ n) : ordinal n ≠ "0th" := by
  have hlength : ∀ i, (ordinalSuffix i).length = 2 := by
    intro i
    unfold ordinalSuffix
    split_ifs <;> rfl
  intro he
  -- all endings are of one length
  have hzero : ("0th" : Text) = "0" ++ ordinalSuffix 0 := by decide
  rw [hzero] at he
  obtain ⟨hnumber, -⟩ := List.append_inj' he ((hlength _).trans (hlength _).symm)
  exact Text.intText_ne_zero h hnumber

end Message

namespace Chronicle

open Message

/-! ### The chronicle as a source -/

theorem returns_world {c c' : Chronicle} {world : World} :
    Returns sources.world c world c' ↔ c.world? = .ok world ∧ c' = c := by
  show (c.world?, c) = (Except.ok world, c') ↔ _
  simp [eq_comm]

theorem returns_count {c c' : Chronicle} {criteria : Criteria} {answer : Value} :
    Returns (sources.count criteria) c answer c' ↔ answer = .int (c.count criteria) ∧ c' = c := by
  show (Except.ok (Value.int (c.count criteria)), c) = (Except.ok answer, c') ↔ _
  simp [eq_comm]

theorem returns_counters {c c' : Chronicle} {counters : Counters} :
    Returns sources.counters c counters c' ↔ c.counters = .ok counters ∧ c' = c := by
  show (c.counters, c) = (Except.ok counters, c') ↔ _
  simp [eq_comm]

theorem returns_missions {c c' : Chronicle} {missions : List Destination} :
    Returns sources.missions c missions c' ↔
      missions = c.openMissions.map Mission.destination ∧ c' = c := by
  show (Except.ok (c.openMissions.map Mission.destination), c) = (Except.ok missions, c') ↔ _
  simp [eq_comm]

/-! ### The count of a live event -/

/-- An event that leaves the state of the world known is one of those that the filter of its
message wants. -/
theorem one_le_count_forMessage (events : List Event) {event : Event} {world : World}
    (hkind : event.kind ≠ "") (htrim : Text.trim event.kind = event.kind)
    (hworld : (empty.processAll (events ++ [event])).world? = .ok world)
    (names : List Text) (b : Bool) :
    1 ≤ (empty.processAll (events ++ [event])).count (Criteria.forMessage names event world b) := by
  have hsplit : empty.processAll (events ++ [event]) =
      ((empty.processAll events).process event).1 := by
    simp only [processAll, List.foldl_append, List.foldl_cons, List.foldl_nil]
  rw [hsplit] at hworld ⊢
  have hoccurs : (empty.processAll events).occurrence? event = some ⟨event, world⟩ := by
    rw [occurrence?, if_neg hkind, hworld]
  have hmeets := Filter.meets_forMessage hkind htrim names world b
  rw [count, Criteria.forMessage, HistoryState.count, rows_process, hoccurs]
  simp only [HistoryState.amount_tally, Context.meets_criteria, hmeets, decide_true, if_true]
  omega

/-- A message shows the number `n` for a count, and no zero. -/
def ShowsCount (n : Nat) (key : Text) (text : Option Text) : Prop :=
  (key = "count" → text = some (Text.intText n) ∧ text ≠ some "0") ∧
    (key = "ordinalcount" → text = some (ordinal n) ∧ text ≠ some "0th")

section

variable {c c' : Chronicle} {names : List Text} {request : Request} {event : Event} {world : World}
  {memo memo' : Memo} {n : Nat}

/-- What a message knows of the count is the number in the history. -/
theorem eq_of_countFor {k : Option Int} (hevent : request.event = some event)
    (hcount : c.count (Criteria.forMessage names event world request.filterOnCommander) = n)
    (hmemo : ∀ i, memo.count = some i → i = n)
    (h : Returns (countFor sources names request world memo) c (k, memo') c') :
    k = some (n : Int) ∧ (∀ i, memo'.count = some i → i = n) ∧ c' = c := by
  rcases countFor_cases sources h with ⟨hnone, -⟩ |
    ⟨e, i, he, rfl, ⟨hi, rfl, rfl⟩ | ⟨-, rfl, answer, ha, hi⟩⟩
  · rw [hevent] at hnone
    cases hnone
  · exact ⟨congrArg some (hmemo i hi), hmemo, rfl⟩
  · rw [hevent] at he
    cases he
    rcases returns_count.1 ha with ⟨rfl, rfl⟩
    rw [hcount] at hi
    have hin : i = n := by
      have hmax : i = max (n : Int) 0 := (Except.ok.inj hi).symm
      omega
    subst hin
    refine ⟨rfl, fun j hj => ?_, rfl⟩
    exact (Option.some.inj hj).symm

/-- A lookup leaves the chronicle as it is and shows the number in the history for a count. -/
theorem showsCount_of_resolve {key : Text} {text : Option Text}
    (hevent : request.event = some event)
    (hcount : c.count (Criteria.forMessage names event world request.filterOnCommander) = n)
    (hn : 1 ≤ n) (hmemo : ∀ i, memo.count = some i → i = n)
    (h : Returns (resolve sources names request world memo key) c (text, memo') c') :
    (c' = c ∧ ∀ i, memo'.count = some i → i = n) ∧ ShowsCount n key text := by
  rcases resolve_cases sources h with ⟨rfl, k, rfl, hk⟩ | ⟨rfl, k, rfl, hk⟩ | ⟨rfl, t, rfl, ht⟩ |
    ⟨hne, hne', -, counter, -, counters, rfl, hcounters⟩ | ⟨hne, hne', -, -, rfl, rfl, rfl⟩
  · rcases eq_of_countFor hevent hcount hmemo hk with ⟨rfl, hmemo', rfl⟩
    refine ⟨⟨rfl, hmemo'⟩, fun _ => ⟨rfl, fun h => ?_⟩, fun h => absurd h (by decide)⟩
    exact Text.intText_ne_zero hn (Option.some.inj h)
  · rcases eq_of_countFor hevent hcount hmemo hk with ⟨rfl, hmemo', rfl⟩
    refine ⟨⟨rfl, hmemo'⟩, fun h => absurd h (by decide), fun _ => ⟨rfl, fun h => ?_⟩⟩
    exact ordinal_ne_zero hn (Option.some.inj h)
  · have hother : ShowsCount n "missionlist" (some t) :=
      ⟨fun h => absurd h (by decide), fun h => absurd h (by decide)⟩
    rcases summaryFor_cases sources ht with ⟨-, rfl, rfl⟩ | ⟨-, rfl, missions, hmissions, -⟩
    · exact ⟨⟨rfl, hmemo⟩, hother⟩
    · exact ⟨⟨(returns_missions.1 hmissions).2, hmemo⟩, hother⟩
  · have hother : ShowsCount n key (some (counters.show counter)) :=
      ⟨fun h => absurd h hne, fun h => absurd h hne'⟩
    rcases countersFor_cases sources hcounters with ⟨-, rfl, rfl⟩ | ⟨-, rfl, hasked⟩
    · exact ⟨⟨rfl, hmemo⟩, hother⟩
    · exact ⟨⟨(returns_counters.1 hasked).2, hmemo⟩, hother⟩
  · exact ⟨⟨rfl, hmemo⟩, fun h => absurd h hne, fun h => absurd h hne'⟩

end

/-- **An event is always counted in its own message.** After any run, an event with a kind that
begins and ends with no white space is among those that the filter of its message wants, whatever
the message names and whether or not it is narrowed to the commander. So no message about the
event shows a zero for a count. -/
theorem one_le_count_of_processAll (events : List Event) (event : Event) {world : World}
    (hkind : event.kind ≠ "") (htrim : Text.trim event.kind = event.kind)
    (hworld : (empty.processAll (events ++ [event])).world? = .ok world) :
    (∀ names b,
      1 ≤ (empty.processAll (events ++ [event])).count (Criteria.forMessage names event world b)) ∧
    ∀ request format parts, request.event = some event →
      (empty.processAll (events ++ [event])).compose request format = .ok parts →
        List.Forall₂
          (Shows request (ShowsCount ((empty.processAll (events ++ [event])).count
            (Criteria.forMessage (tokenNames (tokens format)) event world request.filterOnCommander))))
          (segments format) parts := by
  have hpos := one_le_count_forMessage events hkind htrim hworld
  refine ⟨hpos, fun request format parts hevent hcompose => ?_⟩
  generalize empty.processAll (events ++ [event]) = c at hworld hpos hcompose
  have hreturns : ∃ c', Returns (Message.compose sources request format) c parts c' :=
    ⟨_, refines_composeTraced c parts _ (Prod.ext hcompose rfl)⟩
  rcases hreturns with ⟨c', hreturns⟩
  have hn := hpos (tokenNames (tokens format)) request.filterOnCommander
  generalize hcount : c.count (Criteria.forMessage (tokenNames (tokens format)) event world
    request.filterOnCommander) = n at hn ⊢
  -- whenever the count is asked for, the chronicle is as it was when the message was begun
  refine forall₂_of_compose sources
    (fun w memo s => w = world ∧ s = c ∧ ∀ i, memo.count = some i → i = (n : Int)) ?_ ?_ hreturns
  · rintro w memo key s text memo' s' ⟨rfl, rfl, hmemo⟩ hlookup
    rcases showsCount_of_resolve hevent hcount hn hmemo hlookup with ⟨⟨rfl, hmemo'⟩, hshows⟩
    exact ⟨⟨rfl, rfl, hmemo'⟩, hshows⟩
  · intro w s hw
    rcases returns_world.1 hw with ⟨hw, rfl⟩
    rw [hworld] at hw
    exact ⟨(Except.ok.inj hw).symm, rfl, fun i hi => by cases hi⟩

/-- The second docking of the commander, in a message with its ordinal. -/
theorem one_le_count_of_processAll_docking :
    (docking.kind ≠ "" ∧ Text.trim docking.kind = docking.kind ∧
      (empty.processAll ([loading, docking] ++ [docking])).world? =
        .ok { commander := some "Ada", stationName := some "Lave" } ∧
      (empty.processAll ([loading, docking] ++ [docking])).compose
        { event := some docking, filterOnCommander := true } "{ordinalCount}" =
          .ok [⟨"2nd", .default⟩]) ∧
    (∀ names b, 1 ≤ (empty.processAll ([loading, docking] ++ [docking])).count
      (Criteria.forMessage names docking { commander := some "Ada", stationName := some "Lave" } b)) ∧
    List.Forall₂
      (Shows { event := some docking, filterOnCommander := true }
        (ShowsCount ((empty.processAll ([loading, docking] ++ [docking])).count
          (Criteria.forMessage (tokenNames (tokens "{ordinalCount}")) docking
            { commander := some "Ada", stationName := some "Lave" } true))))
      (segments "{ordinalCount}") [⟨"2nd", .default⟩] := by
  have hkind : docking.kind ≠ "" := by decide +kernel
  have htrim : Text.trim docking.kind = docking.kind := by decide +kernel
  have hworld : (empty.processAll ([loading, docking] ++ [docking])).world? =
      .ok { commander := some "Ada", stationName := some "Lave" } := by rfl
  have hformat : ("{ordinalCount}" : Text) = Placeholder.source ⟨"ordinalCount", none⟩ := by decide
  have hplaceholder : Placeholder.WellFormed ⟨"ordinalCount", none⟩ :=
    .ofName ⟨by decide, by decide⟩
  have htokens : tokens "{ordinalCount}" = [⟨⟨"ordinalCount", none⟩, 0⟩] := by
    rw [hformat, tokens_source hplaceholder]
  have hcompose : (empty.processAll ([loading, docking] ++ [docking])).compose
      { event := some docking, filterOnCommander := true } "{ordinalCount}" =
        .ok [⟨"2nd", .default⟩] := by
    unfold Chronicle.compose composeTraced
    rw [htokens]
    with_unfolding_all rfl
  have hown := one_le_count_of_processAll [loading, docking] docking hkind htrim hworld
  exact ⟨⟨hkind, htrim, hworld, hcompose⟩, hown.1,
    hown.2 { event := some docking, filterOnCommander := true } _ _ rfl hcompose⟩

end Chronicle

end JournalHerald
