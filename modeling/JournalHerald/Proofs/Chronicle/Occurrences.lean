import JournalHerald.Chronicle
import JournalHerald.Proofs.Value.Presence

/-!
# Events as they occurred

An event occurred in a state of the world. What the two show for an attribute is said here without
the rows of the history: the kind of the event, the commander of the world, and for each dimension
the event's own value if it has one, or else that of the world.

* `Value.CountsAs` says by which text a value is counted;
* `Occurrence.Shows` says which text an occurrence shows for an attribute, and `Occurrence.Meets`
  that it shows what a filter wants;
* `Chronicle.occurrences` are the occurrences of a run that count.

The context that the history works out for an occurrence has exactly the texts that the occurrence
shows (`Occurrence.get_context_eq_some_iff`).
-/

namespace JournalHerald

/-! ### Trimmed texts -/

namespace Text

/-- The text `core` is `t` without blank characters at its ends. -/
def IsCoreOf (core t : Text) : Prop :=
  (∃ before after, t = before ++ core ++ after ∧ ∀ c ∈ before ++ after, isBlank c = true) ∧
    (∀ c ∈ core.head?, isBlank c = false) ∧ ∀ c ∈ core.getLast?, isBlank c = false

theorem dropWhile_append_core {before rest : Text} (hbefore : ∀ c ∈ before, isBlank c = true)
    (hrest : ∀ c ∈ rest.head?, isBlank c = false) : (before ++ rest).dropWhile isBlank = rest := by
  rw [List.dropWhile_append_of_pos hbefore]
  cases rest with
  | nil => rfl
  | cons c rest =>
    have hc : isBlank c = false := hrest c rfl
    exact List.dropWhile_cons_of_neg (by simp [hc])

theorem IsCoreOf.trim_eq {core t : Text} (h : core.IsCoreOf t) : trim t = core := by
  obtain ⟨⟨before, after, rfl, hblank⟩, hhead, hlast⟩ := h
  obtain ⟨hbefore, hafter⟩ := List.forall_mem_append.1 hblank
  rw [trim, trimBoth, dropWhileEnd, List.append_assoc]
  cases core with
  | nil =>
    rw [List.nil_append, List.dropWhile_eq_nil_iff.2 (List.forall_mem_append.2 ⟨hbefore, hafter⟩)]
    rfl
  | cons c core =>
    have hstart : ((c :: core) ++ after).head? = some c := rfl
    rw [dropWhile_append_core hbefore (by rw [hstart]; exact hhead), List.reverse_append,
      dropWhile_append_core (fun d hd => hafter d (List.mem_reverse.1 hd))
        (by rw [List.head?_reverse]; exact hlast),
      List.reverse_reverse]

theorem isBlank_of_mem_head?_dropWhile {t : Text} :
    ∀ c ∈ (t.dropWhile isBlank).head?, isBlank c = false := by
  intro c hc
  have h := List.head?_dropWhile_not isBlank t
  rw [Option.mem_def.1 hc] at h
  exact h

theorem isCoreOf_trim (t : Text) : (trim t).IsCoreOf t := by
  have hlast : ∀ c ∈ (trim t).getLast?, isBlank c = false := by
    rw [trim, trimBoth, dropWhileEnd, List.getLast?_reverse]
    exact isBlank_of_mem_head?_dropWhile
  -- what is dropped at the end comes behind what is kept
  obtain ⟨after, hafter, hrest⟩ : ∃ after : Text, (∀ c ∈ after, isBlank c = true) ∧
      t.dropWhile isBlank = trim t ++ after := by
    refine ⟨((t.dropWhile isBlank).reverse.takeWhile isBlank).reverse, fun c hc => ?_, ?_⟩
    · exact List.mem_takeWhile_imp (List.mem_reverse.1 hc)
    · rw [trim, trimBoth, dropWhileEnd, ← List.reverse_append, List.takeWhile_append_dropWhile,
        List.reverse_reverse]
  refine ⟨⟨t.takeWhile isBlank, after, ?_, ?_⟩, fun c hc => ?_, hlast⟩
  · rw [List.append_assoc, ← hrest, List.takeWhile_append_dropWhile]
  · exact List.forall_mem_append.2 ⟨fun c hc => List.mem_takeWhile_imp hc, hafter⟩
  · apply isBlank_of_mem_head?_dropWhile (t := t)
    rw [hrest, List.head?_append, Option.mem_def.1 hc]
    rfl

theorem isCoreOf_iff {core t : Text} : core.IsCoreOf t ↔ trim t = core :=
  ⟨IsCoreOf.trim_eq, fun h => h ▸ isCoreOf_trim t⟩

end Text

/-! ### What a value is counted by -/

namespace Value

/-- The value is a member of a catalogue with this identifier. -/
inductive IsMember : Value → Text → Prop where
  | ship (s : ShipType) : IsMember (.ship s) s.identifier
  | body (b : BodyType) : IsMember (.body b) b.identifier
  | style (s : Style) : IsMember (.style s) s.color

/-- How a value is written: a member of a catalogue by its identifier, and anything else but null in
its plain form. -/
inductive IsWritten (v : Value) : Text → Prop where
  | member {s : Text} (h : v.IsMember s) : IsWritten v s
  | plain (hnull : v ≠ .null) (hother : ∀ s, ¬v.IsMember s) : IsWritten v v.display

/-- A value is counted by what is written for it, without blank characters at its ends and in lower
case. Null is not counted by any text, nor is what leaves nothing. -/
def CountsAs (v : Value) (text : Text) : Prop :=
  ∃ written core : Text, v.IsWritten written ∧ core.IsCoreOf written ∧ core ≠ "" ∧
    text = Text.lowercase core

theorem isWritten_iff {v : Value} {s : Text} :
    v.IsWritten s ↔ v.isNull = false ∧ s = v.comparedText := by
  constructor
  · rintro (⟨⟨_⟩ | ⟨_⟩ | ⟨_⟩⟩ | ⟨hnull, hother⟩)
    · exact ⟨rfl, rfl⟩
    · exact ⟨rfl, rfl⟩
    · exact ⟨rfl, rfl⟩
    · cases v with
      | null => exact absurd rfl hnull
      | ship s => exact absurd (.ship s) (hother _)
      | body b => exact absurd (.body b) (hother _)
      | style s => exact absurd (.style s) (hother _)
      | _ => exact ⟨rfl, rfl⟩
  · rintro ⟨hnull, rfl⟩
    cases v with
    | null => cases hnull
    | ship s => exact .member (.ship s)
    | body b => exact .member (.body b)
    | style s => exact .member (.style s)
    | _ => exact .plain nofun nofun

/-- What a value is counted by is what the history compares it by. -/
theorem countsAs_iff {v : Value} {text : Text} : v.CountsAs text ↔ v.normalized = some text := by
  have hcounts : v.CountsAs text ↔ v.isNull = false ∧ Text.trim v.comparedText ≠ "" ∧
      text = Text.lowercase (Text.trim v.comparedText) := by
    simp only [CountsAs, isWritten_iff, Text.isCoreOf_iff]
    constructor
    · rintro ⟨_, _, ⟨hnull, rfl⟩, rfl, hne, htext⟩
      exact ⟨hnull, hne, htext⟩
    · rintro ⟨hnull, hne, htext⟩
      exact ⟨_, _, ⟨hnull, rfl⟩, rfl, hne, htext⟩
  rw [hcounts, normalized]
  cases v.isNull with
  | true => simp
  | false => by_cases hne : Text.trim v.comparedText = "" <;> simp [hne, eq_comm]

theorem normalized_eq_none_iff_countsAs {v : Value} :
    v.normalized = none ↔ ∀ text, ¬v.CountsAs text := by
  simp only [countsAs_iff, Option.eq_none_iff_forall_ne_some, ne_eq]

end Value

/-! ### What an occurrence shows -/

theorem Attribute.mem_all (a : Attribute) : a ∈ all := by
  cases a <;> decide

/-- An event and the state of the world that it leads to. -/
structure Occurrence where
  event : Event
  world : World

namespace Occurrence

/-- The occurrence shows a text for an attribute: the kind of the event in lower case, what the
commander of the world is counted by, and for a dimension what the event's own value is counted by,
or else the world's. -/
inductive Shows (o : Occurrence) : Attribute → Text → Prop where
  | kind : Shows o .event (Text.lowercase o.event.kind)
  | commander {name text : Text} (known : o.world.commander = some name)
      (counts : (Value.text name).CountsAs text) : Shows o .commander text
  | own {a : Attribute} {text : Text} (dimension : a ∈ Attribute.dimensions)
      (counts : (o.event.get a.name).CountsAs text) : Shows o a text
  | world {a : Attribute} {text : Text} (dimension : a ∈ Attribute.dimensions)
      (own : ∀ t, ¬(o.event.get a.name).CountsAs t)
      (counts : (o.world.get a.name).CountsAs text) : Shows o a text

/-- The occurrence shows what each value that the filter wants is counted by, and nothing where a
wanted value is not counted by any text. -/
def Meets (filter : Filter) (o : Occurrence) : Prop :=
  ∀ a, filter a ≠ .null → ∀ text, o.Shows a text ↔ (filter a).CountsAs text

/-- The context of an occurrence in the history. -/
def context (o : Occurrence) : Chronicle.Context :=
  Chronicle.Context.of o.event o.world

variable {o : Occurrence} {a : Attribute} {text : Text}

theorem shows_commander : o.Shows .commander text ↔
    (Value.ofText? o.world.commander).normalized = some text := by
  rw [← Value.countsAs_iff]
  constructor
  · rintro (_ | ⟨known, counts⟩ | ⟨dimension, -⟩ | ⟨dimension, -, -⟩)
    · rw [known]
      exact counts
    · exact absurd dimension (by decide)
    · exact absurd dimension (by decide)
  · intro h
    cases hname : o.world.commander with
    | none =>
      rw [hname] at h
      exact absurd h (Value.normalized_eq_none_iff_countsAs.1 rfl text)
    | some name =>
      rw [hname] at h
      exact .commander hname h

theorem shows_dimension (dimension : a ∈ Attribute.dimensions) :
    o.Shows a text ↔ Chronicle.Context.dimension o.event o.world a = some text := by
  rw [Chronicle.Context.dimension, Option.orElse_eq_orElse, Option.orElse_eq_or]
  constructor
  · rintro (_ | _ | ⟨-, counts⟩ | ⟨-, own, counts⟩)
    · exact absurd dimension (by decide)
    · exact absurd dimension (by decide)
    · rw [Value.countsAs_iff.1 counts]
      rfl
    · rw [Value.normalized_eq_none_iff_countsAs.2 own]
      exact Value.countsAs_iff.1 counts
  · intro h
    cases hown : (o.event.get a.name).normalized with
    | some t =>
      rw [hown] at h
      cases h
      exact .own dimension (Value.countsAs_iff.2 hown)
    | none =>
      rw [hown] at h
      exact .world dimension (Value.normalized_eq_none_iff_countsAs.1 hown) (Value.countsAs_iff.2 h)

/-- **The context of an occurrence has the texts that the occurrence shows.** -/
theorem get_context_eq_some_iff : o.context.get a = some text ↔ o.Shows a text := by
  cases a with
  | event =>
    constructor
    · intro h
      cases h
      exact .kind
    · rintro (_ | _ | ⟨dimension, -⟩ | ⟨dimension, -, -⟩)
      · rfl
      · exact absurd dimension (by decide)
      · exact absurd dimension (by decide)
  | commander => exact shows_commander.symm
  | starSystem => exact (shows_dimension (by decide)).symm
  | stationName => exact (shows_dimension (by decide)).symm
  | body => exact (shows_dimension (by decide)).symm
  | bodyType => exact (shows_dimension (by decide)).symm
  | ship => exact (shows_dimension (by decide)).symm

theorem meets_iff {filter : Filter} : o.Meets filter ↔
    ∀ a, (filter a).isNull = false → o.context.get a = (filter a).normalized := by
  have hnull : ∀ v : Value, v ≠ .null ↔ v.isNull = false := fun v => by
    cases v <;> simp [Value.isNull]
  simp only [Meets, hnull, ← get_context_eq_some_iff, Value.countsAs_iff]
  exact forall₂_congr fun a _ => Option.ext_iff.symm

instance (filter : Filter) (o : Occurrence) : Decidable (o.Meets filter) :=
  decidable_of_iff
    (∀ a ∈ Attribute.all, (filter a).isNull = false → o.context.get a = (filter a).normalized)
    ⟨fun h => meets_iff.2 fun a => h a a.mem_all, fun h a _ => meets_iff.1 h a⟩

end Occurrence

/-! ### The occurrences of a run -/

namespace Chronicle

/-- The row is that of the occurrence: it has the texts that the occurrence shows, and no others. -/
def Context.Describes (c : Context) (o : Occurrence) : Prop :=
  ∀ a text, c.get a = some text ↔ o.Shows a text

theorem Context.describes_iff {c : Context} {o : Occurrence} : c.Describes o ↔ o.context = c := by
  simp only [Describes, ← Occurrence.get_context_eq_some_iff]
  constructor
  · intro h
    have hget : ∀ a, c.get a = o.context.get a := fun a => Option.ext (h a)
    rcases c with ⟨_, _, _, _, _, _, _⟩
    rcases hcontext : o.context with ⟨_, _, _, _, _, _, _⟩
    rw [hcontext] at hget
    congr
    · exact (hget .event).symm
    · exact (hget .commander).symm
    · exact (hget .starSystem).symm
    · exact (hget .stationName).symm
    · exact (hget .body).symm
    · exact (hget .bodyType).symm
    · exact (hget .ship).symm
  · rintro rfl a text
    rfl

instance (c : Context) (o : Occurrence) : Decidable (c.Describes o) :=
  decidable_of_iff (o.context = c) Context.describes_iff.symm

/-- The occurrence of an event, if it counts: the event has a kind, and the state of the world is
known once it has been taken in. -/
def occurrence? (event : Event) (c : Chronicle) : Option Occurrence :=
  if event.kind = "" then none
  else
    match (c.process event).1.world? with
    | .ok world => some ⟨event, world⟩
    | .error _ => none

/-- The occurrences of the events that count, in order. -/
def occurrences : List Event → Chronicle → List Occurrence
  | [], _ => []
  | event :: rest, c => (c.occurrence? event).toList ++ occurrences rest (c.process event).1

end Chronicle

end JournalHerald
