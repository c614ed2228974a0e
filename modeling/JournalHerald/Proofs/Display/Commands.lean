import JournalHerald.Display.Command
import Mathlib.Data.List.Basic

/-!
# What the display is heard to say

Commands are taken from lines of any content. Blank lines, lines that are no JSON and objects of other types
leave no trace. But a line that is JSON and no object ends the reading for good, and so does one beyond the
limits of JSON texts: whatever is said after it goes unheard, a command to stop and the end of the lines
included.

* `Acknowledges`, `Stops` and `Confuses` tell lines apart by the JSON in them;
* `last?` is the line that ends the reading, `read` are the lines before it;
* `ofLines_eq_read` are the commands in any lines, and `not_ofLines_eq_unstopped` is what goes unheard.
-/

namespace JournalHerald.Display.Command

/-! ### Kinds of lines -/

/-- The line is a JSON object of a type. -/
def Says (type line : Text) : Prop :=
  ∃ fields : Fields, Json.parse (Text.trim line) = .ok (.object fields) ∧
    fields.get? "type" = some (.text type)

/-- The line acknowledges that a notification has closed. -/
def Acknowledges (line : Text) : Prop :=
  Says "acknowledge" line

/-- The line wants the program to stop. -/
def Stops (line : Text) : Prop :=
  Says "stop" line

/-- The line is JSON but no object, or is beyond the limits of JSON texts. -/
def Confuses (line : Text) : Prop :=
  match Json.parse (Text.trim line) with
  | .ok (.object _) => False
  | .ok _ => True
  | .error error => error.fault.isSyntax = false

variable {line : Text} {fields : Fields} {type : Text}

theorem says_iff_text? (h : Json.parse (Text.trim line) = .ok (.object fields)) :
    Says type line ↔ (fields.get? "type").bind Value.text? = some type := by
  constructor
  · rintro ⟨_, hparse, htype⟩
    cases h.symm.trans hparse
    rw [htype]
    rfl
  · intro htype
    obtain ⟨v, hv, htext⟩ := Option.bind_eq_some_iff.1 htype
    cases v <;> cases htext
    exact ⟨fields, h, hv⟩

theorem not_says (h : ∀ fields, Json.parse (Text.trim line) ≠ .ok (.object fields)) :
    ¬Says type line := by
  rintro ⟨fields, hparse, -⟩
  exact h fields hparse

/-- What an object says is its type, and no object confuses. -/
theorem ofFields_spec (fields : Fields) :
    (ofFields fields = .command .acknowledge ↔
      (fields.get? "type").bind Value.text? = some "acknowledge") ∧
    (ofFields fields = .command .stop ↔ (fields.get? "type").bind Value.text? = some "stop") ∧
    ofFields fields ≠ .confused := by
  have hne : ("acknowledge" : Text) ≠ "stop" := by decide
  unfold ofFields
  cases (fields.get? "type").bind Value.text? with
  | none => simp
  | some type => grind

/-- What a line that is an object says. -/
theorem ofLine_of_object (h : Json.parse (Text.trim line) = .ok (.object fields)) :
    ofLine line = ofFields fields := by
  have hblank : Text.trim line ≠ "" := by
    intro hblank
    rw [hblank] at h
    exact absurd h (by simp [show Json.parse "" = .error ⟨.expectedValue, 0⟩ from rfl])
  simp only [ofLine, if_neg hblank, h]

/-- What a line that is no object says. -/
theorem ofLine_of_not_object (h : ∀ fields, Json.parse (Text.trim line) ≠ .ok (.object fields)) :
    (ofLine line = .confused ∧ Confuses line) ∨ (ofLine line = .nothing ∧ ¬Confuses line) := by
  by_cases hblank : Text.trim line = ""
  · have hparse : Json.parse (Text.trim line) = .error ⟨.expectedValue, 0⟩ := by rw [hblank]; rfl
    exact .inr ⟨by simp only [ofLine, if_pos hblank], by simp [Confuses, hparse, Json.Fault.isSyntax]⟩
  · cases hparse : Json.parse (Text.trim line) with
    | error error =>
      cases hfault : error.fault.isSyntax with
      | true => exact .inr ⟨by simp [ofLine, hblank, hparse, hfault], by simp [Confuses, hparse, hfault]⟩
      | false => exact .inl ⟨by simp [ofLine, hblank, hparse, hfault], by simp [Confuses, hparse, hfault]⟩
    | ok v =>
      cases v with
      | object fields => exact absurd hparse (h fields)
      | _ => exact .inl ⟨by simp [ofLine, hblank, hparse], by simp [Confuses, hparse]⟩

/-- What a line says, by the kind of the line. -/
theorem ofLine_spec (line : Text) :
    (ofLine line = .command .acknowledge ↔ Acknowledges line) ∧
    (ofLine line = .command .stop ↔ Stops line) ∧ (ofLine line = .confused ↔ Confuses line) := by
  by_cases h : ∃ fields, Json.parse (Text.trim line) = .ok (.object fields)
  · obtain ⟨fields, h⟩ := h
    obtain ⟨hacknowledge, hstop, hconfused⟩ := ofFields_spec fields
    rw [ofLine_of_object h, Acknowledges, Stops, says_iff_text? h, says_iff_text? h]
    exact ⟨hacknowledge, hstop, iff_of_false hconfused (by simp [Confuses, h])⟩
  · have h := not_exists.1 h
    have hsays : ∀ type, ¬Says type line := fun type => not_says h
    rcases ofLine_of_not_object h with ⟨hline, hconfuses⟩ | ⟨hline, hconfuses⟩ <;>
      simp [Acknowledges, Stops, hline, hsays, hconfuses]

/-- No line to stop confuses. -/
theorem Stops.not_confuses (h : Stops line) : ¬Confuses line := by
  obtain ⟨fields, hparse, -⟩ := h
  simp [Confuses, hparse]

instance : DecidablePred Acknowledges := fun line => decidable_of_iff _ (ofLine_spec line).1

instance : DecidablePred Stops := fun line => decidable_of_iff _ (ofLine_spec line).2.1

instance : DecidablePred Confuses := fun line => decidable_of_iff _ (ofLine_spec line).2.2

/-- The line ends the reading. -/
def Ends (line : Text) : Prop :=
  Stops line ∨ Confuses line

instance : DecidablePred Ends := fun line => inferInstanceAs (Decidable (Stops line ∨ Confuses line))

theorem ofLine_of_passed (h : ¬Acknowledges line) (h' : ¬Ends line) : ofLine line = .nothing := by
  obtain ⟨hacknowledge, hstop, hconfused⟩ := ofLine_spec line
  cases hline : ofLine line with
  | command c =>
    cases c with
    | acknowledge => exact absurd (hacknowledge.1 hline) h
    | stop => exact absurd (.inl (hstop.1 hline)) h'
  | nothing => rfl
  | confused => exact absurd (.inr (hconfused.1 hline)) h'

/-! ### The reading -/

/-- The lines before the one that ends the reading. -/
def read (lines : List Text) : List Text :=
  lines.takeWhile (¬Ends ·)

/-- The line that ends the reading. -/
def last? (lines : List Text) : Option Text :=
  lines.find? (Ends ·)

/-- One command for each line that acknowledges. -/
def acknowledgements (lines : List Text) : List Command :=
  List.replicate (lines.countP (Acknowledges ·)) .acknowledge

theorem acknowledgements_cons (line : Text) (lines : List Text) :
    acknowledgements (line :: lines) =
      (if Acknowledges line then [.acknowledge] else []) ++ acknowledgements lines := by
  by_cases h : Acknowledges line <;> simp [acknowledgements, h, List.replicate_succ]

/-- What is heard may come in parts. The second part is heard only if the reading goes on after the first
one. -/
theorem taken_append (before after : List Heard) :
    taken (before ++ after) =
      if (taken before).2 then ((taken before).1 ++ (taken after).1, (taken after).2)
      else taken before := by
  induction before with
  | nil => simp [taken]
  | cons h before ih =>
    cases h with
    | command c =>
      cases c with
      | acknowledge =>
        simp only [List.cons_append, taken, ih]
        by_cases hgo : (taken before).2 <;> simp [hgo]
      | stop => rfl
    | nothing => exact ih
    | confused => rfl

theorem taken_append_nothing (before after : List Heard) :
    taken (before ++ .nothing :: after) = taken (before ++ after) := by
  simp only [taken_append, taken]

/-- What is taken from lines, and whether the reading goes on. -/
theorem taken_lines (lines : List Text) :
    taken (lines.map ofLine) =
      (acknowledgements (read lines) ++ (if ∃ line ∈ last? lines, Stops line then [.stop] else []),
        (last? lines).isNone) := by
  induction lines with
  | nil => rfl
  | cons line lines ih =>
    obtain ⟨hacknowledge, hstop, hconfused⟩ := ofLine_spec line
    by_cases hends : Ends line
    · have hread : read (line :: lines) = [] := by simp [read, hends]
      have hlast : last? (line :: lines) = some line := by simp [last?, hends]
      rw [hread, hlast, List.map_cons]
      rcases hends with h | h
      · rw [hstop.2 h]
        simp [taken, acknowledgements, h]
      · have hne : ¬Stops line := fun hne => hne.not_confuses h
        rw [hconfused.2 h]
        simp [taken, acknowledgements, hne]
    · have hread : read (line :: lines) = line :: read lines := by simp [read, hends]
      have hlast : last? (line :: lines) = last? lines := by simp [last?, hends]
      rw [hread, hlast, List.map_cons, acknowledgements_cons]
      by_cases h : Acknowledges line
      · rw [hacknowledge.2 h, taken, ih]
        simp [h]
      · rw [ofLine_of_passed h hends, taken, ih]
        simp [h]

/-! ### Main statement -/

/-- **A line that is neither a command nor confusing has no effect on the others.** The commands in lines are
one acknowledgement for each line that acknowledges, up to the line that ends the reading, and then to stop,
unless that line confuses; they are the same without a line that is passed over. -/
theorem ofLines_eq_read (lines : List Text) :
    taken (lines.map ofLine) =
      (acknowledgements (read lines) ++ (if ∃ line ∈ last? lines, Stops line then [.stop] else []),
        (last? lines).isNone) ∧
    ofLines lines =
      acknowledgements (read lines) ++ (if ∃ line ∈ last? lines, Confuses line then [] else [.stop]) ∧
    ∀ before line after, lines = before ++ line :: after → ¬Acknowledges line → ¬Ends line →
      ofLines lines = ofLines (before ++ after) := by
  refine ⟨taken_lines lines, ?_, ?_⟩
  · rw [ofLines, taken_lines]
    cases hlast : last? lines with
    | none => simp
    | some line =>
      have hends : Ends line := by simpa using List.find?_some hlast
      rcases hends with h | h
      · simp [h, h.not_confuses]
      · have hstop : ¬Stops line := fun hstop => hstop.not_confuses h
        simp [h, hstop]
  · rintro before line after rfl h h'
    simp only [ofLines, List.map_append, List.map_cons, ofLine_of_passed h h', taken_append_nothing]

/-- A line that acknowledges. -/
def acknowledgement : Text := "\x7b\"type\": \"acknowledge\"\x7d"

/-- An acknowledgement is heard as if there were no text before it that is no JSON. -/
theorem ofLines_eq_read_noise :
    [("noise" : Text), acknowledgement] = [] ++ ("noise" : Text) :: [acknowledgement] ∧
      ¬Acknowledges "noise" ∧ ¬Ends "noise" ∧
      ofLines ["noise", acknowledgement] = ofLines [acknowledgement] := by
  have h : ¬Acknowledges "noise" := by decide
  have h' : ¬Ends "noise" := by decide
  exact ⟨rfl, h, h', (ofLines_eq_read ["noise", acknowledgement]).2.2 [] "noise" _ rfl h h'⟩

/-- After a number no acknowledgement is heard, and not the end of the lines. -/
theorem not_ofLines_eq_unstopped :
    ¬∀ lines : List Text,
      ofLines lines = acknowledgements (lines.takeWhile (¬Stops ·)) ++ [.stop] := by
  intro h
  have hheard : ofLines ["5", acknowledgement] = [] := by decide
  exact List.append_ne_nil_of_right_ne_nil _ (by decide) ((h _).symm.trans hheard)

end JournalHerald.Display.Command
