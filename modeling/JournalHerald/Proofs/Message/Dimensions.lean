import JournalHerald.Proofs.Message.Dependence
import JournalHerald.Proofs.Message.Parts
import JournalHerald.Proofs.Value.Presence

/-!
# What a message shows and what it counts

A message that names a place, a body or a ship narrows its count to what it shows there, the event's
own value or else the world's. Which of the two it is, and whether there is any, is decided twice: a
value is shown if its text is not empty, and counted by if it is neither null nor a blank text. The two
agree on all but two sorts of values, which are not plain (`Value.isPlain_iff`): deep space is a type
of body without a description, and a text of nothing but white space is blank without being empty.

* `wanted` and `shown?` are the two decisions, `Tells` says that they agree;
* `resolve_tells_iff` says for which events and worlds it does.
-/

namespace JournalHerald

open Text

namespace Value

/-! ### Plain values -/

/-- The value is neither deep space nor a text of nothing but white space. -/
def IsPlain : Value → Prop
  | .text s => s = [] ∨ Visible s
  | .body b => b ≠ .null
  | _ => True

theorem isPresent_text_iff {s : Text} : (text s).isPresent = true ↔ Visible s := by
  rw [isPresent, Bool.not_eq_true', isBlankText_eq_false_iff]

/-- Every description but that of deep space has something to see in it. -/
theorem visible_render {v : Value} (hpresent : v.isPresent = true) (hplain : v.IsPlain) :
    Visible v.render := by
  have hcompared : ∀ w : Value, w.render = w.comparedText → (∀ s, w ≠ .text s) → Visible w.render :=
    fun w hw htext => hw ▸ visible_comparedText htext
  cases v with
  | null => cases hpresent
  | text s => exact isPresent_text_iff.1 hpresent
  | ship s => cases s <;> exact ⟨_, List.mem_cons_self .., by decide⟩
  | body b =>
    cases b with
    | null => exact absurd rfl hplain
    | _ => exact ⟨_, List.mem_cons_self .., by decide⟩
  | duration d =>
    have hminutes : Visible " minutes" := ⟨.char 'm', by decide, by decide⟩
    exact hminutes.append_left _
  | _ => exact hcompared _ rfl (by simp)

/-- A plain value that is not present is null or the empty text. -/
theorem render_eq_nil {v : Value} (hpresent : v.isPresent = false) (hplain : v.IsPlain) :
    v.render = [] := by
  cases v with
  | null => rfl
  | text s =>
    rw [Bool.eq_false_iff, ne_eq, isPresent_text_iff] at hpresent
    exact hplain.resolve_right hpresent
  | _ => cases hpresent

theorem not_isPlain_iff {v : Value} :
    ¬v.IsPlain ↔ v = .body .null ∨ ∃ s, v = .text s ∧ s ≠ [] ∧ ¬Visible s := by
  cases v with
  | text s => simp [IsPlain, not_or]
  | body b => simp [IsPlain]
  | _ => simp [IsPlain]

/-- The plain values are those that are shown exactly if they are counted by. -/
theorem isPlain_iff {v : Value} : v.IsPlain ↔ (v.isPresent = true ↔ v.render ≠ []) := by
  constructor
  · intro hplain
    cases hpresent : v.isPresent with
    | true =>
      obtain ⟨c, hc, -⟩ := visible_render hpresent hplain
      simp [List.ne_nil_of_mem hc]
    | false => simp [render_eq_nil hpresent hplain]
  · intro hagree
    by_contra hplain
    obtain rfl | ⟨s, rfl, hne, hblank⟩ := not_isPlain_iff.1 hplain
    · exact hagree.1 rfl rfl
    · exact hblank (isPresent_text_iff.1 (hagree.2 hne))

theorem render_eq_nil_or_visible {v : Value} (hpresent : v.isPresent = true) :
    v.render = [] ∨ Visible v.render := by
  by_cases hplain : v.IsPlain
  · exact .inr (visible_render hpresent hplain)
  · obtain rfl | ⟨s, rfl, -, hblank⟩ := not_isPlain_iff.1 hplain
    · exact .inl rfl
    · exact absurd (isPresent_text_iff.1 hpresent) hblank

end Value

namespace Message

/-! ### What is shown and what is wanted -/

/-- What is shown is the wanted value, or nothing if any value will do. -/
def Tells (wanted : Value) (shown : Option Text) : Prop :=
  shown = if wanted.isNull then none else some wanted.render

theorem nonempty?_of_ne_nil {t : Text} (h : t ≠ []) : nonempty? t = some t :=
  if_neg h

theorem nonempty?_nil : nonempty? [] = none :=
  if_pos rfl

theorem tells_null_iff {shown : Option Text} : Tells .null shown ↔ shown = none :=
  Iff.rfl

theorem tells_iff_of_isPresent {wanted : Value} (h : wanted.isPresent = true)
    {shown : Option Text} : Tells wanted shown ↔ shown = some wanted.render := by
  rw [Tells, (Value.isPresent_iff.1 h).1]
  rfl

/-- The value that is counted by, out of an own value and another one behind it. -/
def wanted (own other : Value) : Value :=
  let value := if own.isPresent then own else other
  if value.isPresent then value else .null

/-- The text that is shown, out of an own value and another one behind it. -/
def shown? (own other : Value) : Option Text :=
  nonempty? own.render <|> nonempty? other.render

theorem wanted_of_isPresent {own : Value} (h : own.isPresent = true) (other : Value) :
    wanted own other = own := by
  simp only [wanted, h, if_true]

theorem wanted_of_not_isPresent {own : Value} (h : own.isPresent = false) (other : Value) :
    wanted own other = if other.isPresent then other else .null := by
  simp only [wanted, h, Bool.false_eq_true, if_false]

theorem shown?_of_ne_nil {own : Value} (h : own.render ≠ []) (other : Value) :
    shown? own other = some own.render := by
  rw [shown?, nonempty?_of_ne_nil h]
  rfl

theorem shown?_of_eq_nil {own : Value} (h : own.render = []) (other : Value) :
    shown? own other = nonempty? other.render := by
  rw [shown?, h, nonempty?_nil]
  rfl

/-- A single value is shown as it is counted by exactly if it is plain. -/
theorem tells_nonempty?_iff (v : Value) :
    Tells (if v.isPresent then v else .null) (nonempty? v.render) ↔ v.IsPlain := by
  rw [Value.isPlain_iff]
  cases hpresent : v.isPresent with
  | true =>
    rw [if_pos rfl, tells_iff_of_isPresent hpresent]
    by_cases hempty : v.render = []
    · simp [hempty, nonempty?_nil]
    · simp [hempty, nonempty?_of_ne_nil]
  | false =>
    rw [if_neg Bool.false_ne_true, tells_null_iff]
    by_cases hempty : v.render = []
    · simp [hempty, nonempty?_nil]
    · simp [hempty, nonempty?_of_ne_nil]

/-- Deep space is counted by, but an empty text is never shown. -/
theorem not_tells_deepSpace (other : Value) :
    ¬Tells (wanted (.body .null) other) (shown? (.body .null) other) := by
  rw [wanted_of_isPresent rfl, shown?_of_eq_nil rfl, tells_iff_of_isPresent rfl]
  exact fun h => ne_nil_of_nonempty? h rfl

/-- A blank text is shown, but no value that is counted by shows as one. -/
theorem not_tells_blank {s : Text} (hne : s ≠ []) (hblank : ¬Visible s) (other : Value) :
    ¬Tells (wanted (.text s) other) (shown? (.text s) other) := by
  have hpresent : (Value.text s).isPresent = false := by
    rw [Bool.eq_false_iff, ne_eq, Value.isPresent_text_iff]
    exact hblank
  have hrender : (Value.text s).render ≠ [] := hne
  have hshown : shown? (.text s) other = some s := shown?_of_ne_nil hrender other
  rw [wanted_of_not_isPresent hpresent, hshown]
  cases hother : other.isPresent with
  | false =>
    rw [if_neg Bool.false_ne_true, tells_null_iff]
    exact Option.some_ne_none s
  | true =>
    rw [if_pos rfl, tells_iff_of_isPresent hother, Option.some_inj]
    rintro rfl
    rcases Value.render_eq_nil_or_visible hother with hempty | hvisible
    · exact hne hempty
    · exact hblank hvisible

/-- What is shown is what is counted by exactly if the own value is plain and, unless it is present,
the other one is plain too. -/
theorem tells_wanted_iff (own other : Value) :
    Tells (wanted own other) (shown? own other) ↔
      own.IsPlain ∧ (own.isPresent = true ∨ other.IsPlain) := by
  by_cases hplain : own.IsPlain
  · cases hpresent : own.isPresent with
    | true =>
      have hrender := (Value.isPlain_iff.1 hplain).1 hpresent
      rw [wanted_of_isPresent hpresent, shown?_of_ne_nil hrender, tells_iff_of_isPresent hpresent]
      exact iff_of_true rfl ⟨hplain, .inl rfl⟩
    | false =>
      rw [wanted_of_not_isPresent hpresent, shown?_of_eq_nil (Value.render_eq_nil hpresent hplain),
        tells_nonempty?_iff]
      simp [hplain]
  · refine iff_of_false ?_ fun h => hplain h.1
    obtain rfl | ⟨s, rfl, hne, hblank⟩ := Value.not_isPlain_iff.1 hplain
    · exact not_tells_deepSpace other
    · exact not_tells_blank hne hblank other

/-! ### Dimensions -/

/-- The name of a dimension is the name of nothing but a field. -/
theorem resolve_dimension {σ : Type} (sources : Sources σ) (names : List Text) (request : Request)
    (world : World) (memo : Memo) {a : Attribute} (ha : a ∈ Attribute.dimensions) {key : Text}
    (hkey : lowercase key = lowercase a.name) :
    resolve sources names request world memo key =
      pure (fieldText? request.event world key, memo) := by
  have hreserved : ∀ a ∈ Attribute.dimensions,
      ∀ name ∈ (["count", "ordinalcount", "missionlist"] : List Text),
        lowercase name ≠ lowercase a.name := by decide
  have hcounters : ∀ a ∈ Attribute.dimensions, ∀ c ∈ CounterName.all,
      lowercase c.label ≠ lowercase a.name := by decide
  have hne : ∀ name ∈ (["count", "ordinalcount", "missionlist"] : List Text), key ≠ name := by
    rintro name hname rfl
    exact hreserved a ha key hname hkey
  have hcounter : CounterName.ofName? key = none := by
    rw [CounterName.ofName?, List.find?_eq_none]
    intro c hc
    rw [hkey, beq_iff_eq]
    exact hcounters a ha c hc
  rw [resolve, if_neg (hne "count" (by decide)), if_neg (hne "ordinalcount" (by decide)),
    if_neg (hne "missionlist" (by decide)), hcounter]

theorem forMessage_dimension {a : Attribute} (ha : a ∈ Attribute.dimensions) {names : List Text}
    (hnamed : lowercase a.name ∈ names.map lowercase) (event : Event) (world : World)
    (filterOnCommander : Bool) :
    Filter.forMessage names event world filterOnCommander a =
      wanted (event.get a.name) (world.get a.name) := by
  have hdimension : Filter.forMessage names event world filterOnCommander a =
      Filter.dimension names event world a := by
    cases a with
    | event => exact absurd ha (by decide)
    | commander => exact absurd ha (by decide)
    | _ => rfl
  rw [hdimension, Filter.dimension, if_pos (List.contains_iff_mem.2 hnamed)]
  rfl

/-- **When a message counts by what it shows.** A dimension that a message names is found among the
fields, whatever the sources are and whatever they have been asked. What is shown for it is the value
that the filter of the count wants, or nothing if the filter wants none, exactly if the event's own
value is plain and, unless it is present, the world's value is plain too. -/
theorem resolve_tells_iff (names : List Text) {request : Request} {event : Event}
    (hevent : request.event = some event) (world : World) {a : Attribute}
    (ha : a ∈ Attribute.dimensions) (hnamed : lowercase a.name ∈ names.map lowercase)
    {key : Text} (hkey : lowercase key = lowercase a.name) :
    ∃ shown : Option Text,
      (∀ (σ : Type) (sources : Sources σ) (memo : Memo),
        resolve sources names request world memo key = pure (shown, memo)) ∧
      (Tells (Filter.forMessage names event world request.filterOnCommander a) shown ↔
        (event.get a.name).IsPlain ∧
          ((event.get a.name).isPresent = true ∨ (world.get a.name).IsPlain)) := by
  refine ⟨fieldText? request.event world key, fun σ sources memo =>
    resolve_dimension sources names request world memo ha hkey, ?_⟩
  have hfields : fieldText? request.event world key =
      shown? (event.get a.name) (world.get a.name) := by
    rw [fieldText?, hevent, Option.bind_some, Event.get_congr hkey, World.get_congr hkey, shown?]
  rw [forMessage_dimension ha hnamed, hfields]
  exact tells_wanted_iff (event.get a.name) (world.get a.name)

/-- The ship that is swapped in is shown by its description and counted by. -/
theorem resolve_tells_iff_ship :
    let event := Event.ofEntry [("event", .text "ShipyardSwap"), ("Ship", .text "krait_mkii")]
      false none
    let request : Request := { event := some event, filterOnCommander := false }
    request.event = some event ∧ Attribute.ship ∈ Attribute.dimensions ∧
      lowercase (Attribute.ship.name) ∈ (["SHIP", "count"] : List Text).map lowercase ∧
      lowercase "ship" = lowercase (Attribute.ship.name) ∧
      ∃ shown : Option Text,
        (∀ (σ : Type) (sources : Sources σ) (memo : Memo),
          resolve sources ["SHIP", "count"] request {} memo "ship" = pure (shown, memo)) ∧
        Tells (Filter.forMessage ["SHIP", "count"] event {} false .ship) shown := by
  intro event request
  have hevent : request.event = some event := rfl
  have hdimension : Attribute.ship ∈ Attribute.dimensions := by decide
  have hnamed : lowercase (Attribute.ship.name) ∈ (["SHIP", "count"] : List Text).map lowercase := by
    decide
  have hkey : lowercase "ship" = lowercase (Attribute.ship.name) := by decide
  obtain ⟨shown, hresolve, hiff⟩ :=
    resolve_tells_iff ["SHIP", "count"] hevent {} hdimension hnamed hkey
  have hown : event.get (Attribute.ship.name) = .ship .kraitMkII := by rfl
  refine ⟨hevent, hdimension, hnamed, hkey, shown, hresolve, hiff.2 ?_⟩
  rw [hown]
  exact ⟨trivial, .inl rfl⟩

/-- Two jumps for which something else is shown than counted by: one into deep space, which has no
description, and one with a station of nothing but white space while the world knows another one. -/
theorem not_tells_unlike :
    let jump : Fields → Event := fun more => .ofEntry (("event", .text "FSDJump") :: more) false none
    let request : Event → Request := fun event =>
      { event := some event, filterOnCommander := false }
    let deep := jump [("BodyType", .text "Null")]
    let blank := jump [("StationName", .text "  ")]
    let world : World := { stationName := some "Lave" }
    (Filter.forMessage ["bodytype"] deep world false .bodyType = .body .null ∧
      ∀ (σ : Type) (sources : Sources σ) (memo : Memo),
        resolve sources ["bodytype"] (request deep) world memo "bodytype" = pure (none, memo)) ∧
    (Filter.forMessage ["stationname"] blank world false .stationName = .text "Lave" ∧
      ∀ (σ : Type) (sources : Sources σ) (memo : Memo),
        resolve sources ["stationname"] (request blank) world memo "stationname" =
          pure (some ("  " : Text), memo)) := by
  intro jump request deep blank world
  refine ⟨⟨rfl, fun σ sources memo => ?_⟩, ⟨rfl, fun σ sources memo => ?_⟩⟩
  · rw [resolve_dimension sources _ _ _ memo (a := .bodyType) (by decide) (by decide)]
    rfl
  · rw [resolve_dimension sources _ _ _ memo (a := .stationName) (by decide) (by decide)]
    rfl

end Message

end JournalHerald
