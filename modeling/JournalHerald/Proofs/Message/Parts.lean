import JournalHerald.Proofs.Message.Pass
import Mathlib.Data.List.Chain

/-!
# The pieces of a message

What a composed message looks like against its format. The pieces are those for literal texts and
those for tokens, and the format comes back from them when the tokens are put back (`Splits`). No
piece is empty: a lookup answers with a text that shows something (`ne_nil_of_resolve`) or not at
all.
-/

namespace JournalHerald

/-! ### Texts that show something -/

namespace Text

theorem natText_ne_nil (n : Nat) : natText n ≠ [] := by
  simp [natText, Nat.toDigits_ne_nil]

theorem intText_ne_nil (i : Int) : intText i ≠ [] := by
  unfold intText
  split
  · exact List.cons_ne_nil _ _
  · exact natText_ne_nil _

theorem joinWith_ne_nil {separator t : Text} {ts : List Text} (ht : t ≠ []) :
    joinWith separator (t :: ts) ≠ [] := by
  cases ts with
  | nil => exact ht
  | cons u ts => simp [joinWith, ht]

theorem mem_joinWith {separator t : Text} {ts : List Text} {c : CodePoint} (h : c ∈ t) :
    c ∈ joinWith separator (t :: ts) := by
  cases ts with
  | nil => exact h
  | cons u ts =>
    show c ∈ t ++ separator ++ joinWith separator (u :: ts)
    exact List.mem_append_left _ (List.mem_append_left _ h)

end Text

theorem Duration.describe_ne_nil (d : Option Duration) : Duration.describe d ≠ [] := by
  cases d with
  | none => exact List.cons_ne_nil _ _
  | some d => exact List.append_ne_nil_of_right_ne_nil _ (List.cons_ne_nil _ _)

namespace MissionSummary

theorem groupLine_ne_nil (unknown : Text) (group : Option Text × Nat) :
    groupLine unknown group ≠ [] :=
  List.append_ne_nil_of_right_ne_nil _ (List.cons_ne_nil _ _)

theorem groups_ne_nil {destinations : List (Option Text)} (h : destinations ≠ []) :
    groups destinations ≠ [] := by
  obtain ⟨d, ds, rfl⟩ := List.exists_cons_of_ne_nil h
  have hlen : 0 < (groups (d :: ds)).length := by
    simp [groups, List.eraseDups_cons]
  exact List.length_pos_iff.1 hlen

/-- There is a line to show, and it shows something. -/
theorem lines_eq_cons {missions : List Destination} (names : List Text) (h : missions ≠ []) :
    ∃ line rest, lines names missions = line :: rest ∧ line ≠ [] := by
  have hgroups : ∀ (unknown : Text) (key : Destination → Option Text),
      ∃ line rest, (groups (missions.map key)).map (groupLine unknown) = line :: rest ∧
        line ≠ [] := by
    intro unknown key
    obtain ⟨g, gs, hg⟩ := List.exists_cons_of_ne_nil (groups_ne_nil (by simpa using h) :
      groups (missions.map key) ≠ [])
    exact ⟨groupLine unknown g, gs.map (groupLine unknown), by rw [hg]; rfl, groupLine_ne_nil _ _⟩
  unfold lines
  split
  · exact hgroups _ _
  · split
    · exact ⟨_, [], rfl, List.append_ne_nil_of_right_ne_nil _ (List.cons_ne_nil _ _)⟩
    · exact hgroups _ _

theorem text_ne_nil (names : List Text) (event : Option Event) (world : World)
    (missions : List Destination) : text names event world missions ≠ [] := by
  unfold text
  split
  · exact List.cons_ne_nil _ _
  · next hkept =>
    obtain ⟨line, rest, hlines, hline⟩ := lines_eq_cons names (by simpa using hkept)
    rw [hlines]
    exact Text.joinWith_ne_nil hline

end MissionSummary

namespace Message

theorem Counters.show_ne_nil (counters : Counters) (counter : CounterName) :
    counters.show counter ≠ [] := by
  cases counter with
  | sessions => exact Text.intText_ne_nil _
  | total => exact Duration.describe_ne_nil (some counters.total)
  | current => exact Duration.describe_ne_nil _

theorem ordinal_ne_nil (n : Int) : ordinal n ≠ [] :=
  List.append_ne_nil_of_left_ne_nil (Text.intText_ne_nil n) _

theorem ne_nil_of_nonempty? {t u : Text} (h : nonempty? t = some u) : u ≠ [] := by
  unfold nonempty? at h
  split at h
  · cases h
  · next hne =>
    cases h
    exact hne

theorem ne_nil_of_fieldText? {event : Option Event} {world : World} {name t : Text}
    (h : fieldText? event world name = some t) : t ≠ [] := by
  rw [fieldText?, Option.orElse_eq_orElse, Option.orElse_eq_or, Option.or_eq_some_iff] at h
  rcases h with hevent | ⟨-, hworld⟩
  · obtain ⟨e, -, he⟩ := Option.bind_eq_some_iff.1 hevent
    exact ne_nil_of_nonempty? he
  · exact ne_nil_of_nonempty? hworld

/-- The summary that has been drawn up, if there is one, shows something. -/
def Memo.SummaryShown (memo : Memo) : Prop := ∀ t, memo.summary = some t → t ≠ []

section Lookups

variable {σ : Type} (sources : Sources σ) {names : List Text} {request : Request} {world : World}
  {memo memo' : Memo} {s s' : σ}

/-- To ask for the count leaves the summary alone. -/
theorem Memo.SummaryShown.of_countFor {n : Option Int} (hmemo : memo.SummaryShown)
    (h : Returns (countFor sources names request world memo) s (n, memo') s') :
    memo'.SummaryShown := by
  rcases countFor_cases sources h with ⟨-, -, rfl, -⟩ | ⟨-, -, -, -, ⟨-, rfl, -⟩ | ⟨-, rfl, -⟩⟩
  · exact hmemo
  · exact hmemo
  · exact hmemo

/-- To ask for the play time leaves the summary alone. -/
theorem Memo.SummaryShown.of_countersFor {c : Counters} (hmemo : memo.SummaryShown)
    (h : Returns (countersFor sources memo) s (c, memo') s') : memo'.SummaryShown := by
  rcases countersFor_cases sources h with ⟨-, rfl, -⟩ | ⟨-, rfl, -⟩
  · exact hmemo
  · exact hmemo

/-- **A lookup never answers with an empty text.** -/
theorem ne_nil_of_resolve {key : Text} {text : Option Text} (hmemo : memo.SummaryShown)
    (h : Returns (resolve sources names request world memo key) s (text, memo') s') :
    memo'.SummaryShown ∧ ∀ t, text = some t → t ≠ [] := by
  rcases resolve_cases sources h with ⟨-, n, rfl, hn⟩ | ⟨-, n, rfl, hn⟩ | ⟨-, t, rfl, ht⟩ |
    ⟨-, -, -, counter, -, c, rfl, hc⟩ | ⟨-, -, -, -, rfl, rfl, -⟩
  · refine ⟨hmemo.of_countFor sources hn, fun t ht => ?_⟩
    rcases Option.map_eq_some_iff.1 ht with ⟨i, -, rfl⟩
    exact Text.intText_ne_nil i
  · refine ⟨hmemo.of_countFor sources hn, fun t ht => ?_⟩
    rcases Option.map_eq_some_iff.1 ht with ⟨i, -, rfl⟩
    exact ordinal_ne_nil i
  · rcases summaryFor_cases sources ht with ⟨hknown, rfl, -⟩ | ⟨-, rfl, missions, -, rfl⟩
    · exact ⟨hmemo, by rintro u ⟨⟩; exact hmemo _ hknown⟩
    · have hne := MissionSummary.text_ne_nil names request.event world missions
      exact ⟨by rintro u ⟨⟩; exact hne, by rintro u ⟨⟩; exact hne⟩
  · refine ⟨hmemo.of_countersFor sources hc, ?_⟩
    rintro u ⟨⟩
    exact Counters.show_ne_nil c counter
  · exact ⟨hmemo, fun t ht => ne_nil_of_fieldText? ht⟩

end Lookups

theorem partOf_text_ne_nil {request : Request} {p : Placeholder} {text : Option Text}
    (h : ∀ t, text = some t → t ≠ []) : (partOf request p text).text ≠ [] := by
  cases text with
  | none => exact List.append_ne_nil_of_right_ne_nil _ (List.cons_ne_nil _ _)
  | some t => exact h t rfl

/-! ### Messages against their formats -/

/-- A piece of a message with what it stands for. -/
inductive Shown where
  | literal (part : Part)
  | token (part : Part)
  deriving DecidableEq, Repr

namespace Shown

/-- The piece itself. -/
def part : Shown → Part
  | literal part => part
  | token part => part

/-- The piece stands for a literal text. -/
def isLiteral : Shown → Bool
  | literal _ => true
  | token _ => false

/-- The format that pieces come from: the pieces for tokens are replaced in order by the given
texts, all of which have to be used. -/
def restore : List Shown → List Text → Option Text
  | [], [] => some []
  | literal part :: rest, texts => (restore rest texts).map (part.text ++ ·)
  | token _ :: rest, text :: texts => (restore rest texts).map (text ++ ·)
  | _, _ => none

end Shown

/-- The text that a token spans in its format. -/
def Token.span (format : Text) (t : Token) : Text :=
  (format.take t.stop).drop t.start

/-- The pieces of a message are split into those for literal texts and those for tokens. -/
structure Splits (request : Request) (format : Text) (parts : List Part)
    (split : List Shown) : Prop where
  parts_eq : split.map Shown.part = parts
  /-- The format comes back when every token is put back. -/
  restores : Shown.restore split ((tokens format).map (Token.span format)) = some format
  literal : ∀ part, .literal part ∈ split →
    part.style = request.textStyle ∧ part.text ≠ [] ∧ tokens part.text = []
  /-- No two literal texts stand side by side. -/
  apart : split.IsChain fun a b => ¬(a.isLiteral ∧ b.isLiteral)
  text_ne_nil : ∀ part ∈ parts, part.text ≠ []

/-- A piece stands for what its segment is. -/
def label : Segment → Part → Shown
  | .literal _, part => .literal part
  | .slot _, part => .token part

section Labels

variable {request : Request} {right : Text → Option Text → Prop} {segs : List Segment}
  {parts : List Part}

theorem map_part_label (h : List.Forall₂ (Shows request right) segs parts) :
    (List.zipWith label segs parts).map Shown.part = parts := by
  induction h with
  | nil => rfl
  | @cons seg part segs parts _ _ ih =>
    rw [List.zipWith_cons_cons, List.map_cons, ih]
    cases seg <;> rfl

theorem span_slot (before after : Text) (p : Placeholder) :
    Token.span (before ++ (p.source ++ after)) ⟨p, before.length⟩ = p.source := by
  rw [Token.span, Token.stop, Token.length, ← List.length_append, ← List.append_assoc,
    List.take_left, List.drop_left]

theorem restore_label (h : List.Forall₂ (Shows request right) segs parts) (before : Text) :
    Shown.restore (List.zipWith label segs parts)
      ((slotsFrom before.length segs).map (Token.span (before ++ segs.flatMap Segment.source))) =
        some (segs.flatMap Segment.source) := by
  induction h generalizing before with
  | nil => rfl
  | @cons seg part segs parts hseg _ ih =>
    have hrest := ih (before ++ seg.source)
    rw [List.length_append, List.append_assoc] at hrest
    rw [List.zipWith_cons_cons, List.flatMap_cons]
    cases hseg with
    | literal t =>
      rw [slotsFrom, label, Shown.restore]
      rw [Segment.source] at hrest
      rw [Segment.source, hrest]
      rfl
    | slot p _ =>
      rw [slotsFrom, List.map_cons, label, Shown.restore]
      rw [Segment.source] at hrest
      rw [Segment.source, hrest, span_slot]
      rfl

theorem literal_of_label (h : List.Forall₂ (Shows request right) segs parts) {part : Part}
    (hpart : .literal part ∈ List.zipWith label segs parts) :
    part.style = request.textStyle ∧ .literal part.text ∈ segs := by
  induction h with
  | nil => cases hpart
  | @cons seg part' segs parts hseg _ ih =>
    rw [List.zipWith_cons_cons] at hpart
    rcases List.mem_cons.1 hpart with hhead | htail
    · cases hseg with
      | literal t => cases hhead; exact ⟨rfl, List.mem_cons_self ..⟩
      | slot p _ => cases hhead
    · exact ⟨(ih htail).1, List.mem_cons_of_mem _ (ih htail).2⟩

theorem ne_nil_of_literal_mem (spaced : Spaced segs) {t : Text} (ht : .literal t ∈ segs) :
    t ≠ [] := by
  induction spaced with
  | nil => cases ht
  | literal hne => cases List.mem_singleton.1 ht; exact hne
  | slot _ ih =>
    rcases List.mem_cons.1 ht with h | h
    · cases h
    · exact ih h
  | literalSlot hne _ ih =>
    rcases List.mem_cons.1 ht with h | h
    · cases h; exact hne
    · rcases List.mem_cons.1 h with h | h
      · cases h
      · exact ih h

theorem apart_label (spaced : Spaced segs) (h : List.Forall₂ (Shows request right) segs parts) :
    (List.zipWith label segs parts).IsChain fun a b => ¬(a.isLiteral ∧ b.isLiteral) := by
  induction spaced generalizing parts with
  | nil => cases h; exact .nil
  | literal _ =>
    rcases h with _ | ⟨_, hrest⟩
    cases hrest
    exact .singleton _
  | slot _ ih =>
    rcases h with _ | ⟨_, hrest⟩
    refine List.isChain_cons.2 ⟨fun b _ hb => ?_, ih hrest⟩
    cases hb.1
  | literalSlot _ _ ih =>
    rcases h with _ | ⟨_, hrest⟩
    rcases hrest with _ | ⟨_, hrest⟩
    refine List.isChain_cons.2 ⟨fun b hb hlit => ?_,
      List.isChain_cons.2 ⟨fun b _ hlit => ?_, ih hrest⟩⟩
    · cases hb
      cases hlit.2
    · cases hlit.1

theorem text_ne_nil_of_shows (hlit : ∀ t, .literal t ∈ segs → t ≠ [])
    (h : List.Forall₂ (Shows request fun _ text => ∀ t, text = some t → t ≠ []) segs parts) :
    ∀ part ∈ parts, part.text ≠ [] := by
  induction h with
  | nil => simp
  | @cons seg part segs parts hseg _ ih =>
    have hrest := ih fun t ht => hlit t (List.mem_cons_of_mem _ ht)
    refine List.forall_mem_cons.2 ⟨?_, hrest⟩
    cases hseg with
    | literal t => exact hlit t (List.mem_cons_self ..)
    | slot p hright => exact partOf_text_ne_nil hright

end Labels

/-- **A message is its format with the tokens replaced.** -/
theorem exists_splits_of_compose {σ : Type} (sources : Sources σ) {request : Request}
    {format : Text} {s s' : σ} {parts : List Part}
    (h : Returns (compose sources request format) s parts s') :
    ∃ split, Splits request format parts split := by
  have hshows : List.Forall₂ (Shows request fun _ text => ∀ t, text = some t → t ≠ [])
      (segments format) parts :=
    forall₂_of_compose sources (fun _ memo _ => memo.SummaryShown)
      (fun hmemo hlookup => ne_nil_of_resolve sources hmemo hlookup)
      (fun _ => by rintro t ⟨⟩) h
  have hspaced := spaced_segments format
  refine ⟨List.zipWith label (segments format) parts, map_part_label hshows, ?_,
    fun part hpart => ?_, apart_label hspaced hshows,
    text_ne_nil_of_shows (fun _ => ne_nil_of_literal_mem hspaced) hshows⟩
  · have := restore_label hshows []
    rwa [List.length_nil, List.nil_append, flatMap_source_segments, ← tokens_eq_slotsFrom] at this
  · obtain ⟨hstyle, hmem⟩ := literal_of_label hshows hpart
    exact ⟨hstyle, ne_nil_of_literal_mem hspaced hmem, tokens_of_literal_mem hmem⟩

/-- A message with the nearest body, a name that nothing is known by, and a literal text. -/
theorem exists_splits_of_compose_body :
    Returns (compose (Sources.canned (.ok { body := some "Sol" }) (.ok (.int 3)) {} [])
        { event := none, filterOnCommander := false } "{Body}{x}!") ()
      [⟨"Sol", .default⟩, ⟨"(no value found for x)", .error⟩, ⟨"!", .default⟩] () ∧
    ∃ split, Splits { event := none, filterOnCommander := false } "{Body}{x}!"
      [⟨"Sol", .default⟩, ⟨"(no value found for x)", .error⟩, ⟨"!", .default⟩] split := by
  have hbody : Placeholder.WellFormed ⟨"Body", none⟩ := .ofName ⟨by decide, by decide⟩
  have hx : Placeholder.WellFormed ⟨"x", none⟩ := .ofName ⟨by decide, by decide⟩
  have hformat : ("{Body}{x}!" : Text) =
      Placeholder.source ⟨"Body", none⟩ ++ (Placeholder.source ⟨"x", none⟩ ++ "!") := by decide
  have hlast : pieces "!" = [.char '!'] := by
    show pieces [CodePoint.char '!'] = _
    rw [pieces_char (by decide), pieces]
  have htokens : tokens "{Body}{x}!" = [⟨⟨"Body", none⟩, 0⟩, ⟨⟨"x", none⟩, 6⟩] := by
    rw [tokens, hformat, pieces_source_append hbody, pieces_source_append hx, hlast]
    decide
  have h : Returns (compose (Sources.canned (.ok { body := some "Sol" }) (.ok (.int 3)) {} [])
      { event := none, filterOnCommander := false } "{Body}{x}!") ()
      [⟨"Sol", .default⟩, ⟨"(no value found for x)", .error⟩, ⟨"!", .default⟩] () := by
    unfold compose
    rw [htokens]
    rfl
  exact ⟨h, exists_splits_of_compose _ h⟩

end Message

end JournalHerald
