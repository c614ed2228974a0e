import JournalHerald.Proofs.Message.Grammar
import JournalHerald.Proofs.Message.Pass

/-!
# The error style

The error style is meant for tokens without a value. It comes from two places: from a lookup that has found nothing,
and from the token itself, which may name any style for its value. A message whose own styles are others has the
error style at these pieces and at no other.

* `Origin` is what a piece of a message stands for, with the text that has been found for a token;
* `returns_compose_iff` says that a message is made of the lookups of its tokens in turn, one piece for each token;
* `style_eq_error_iff` is about one piece, `error_style_iff` about a message.
-/

namespace JournalHerald

theorem Style.parse?_eq_some_iff {name : Text} {style : Style} :
    Style.parse? name = some style ↔ Text.lowercase name = Text.lowercase style.label := by
  unfold Style.parse?
  constructor
  · intro h
    have hlabel := List.find?_some h
    exact (beq_iff_eq.1 hlabel).symm
  · intro h
    rw [h]
    cases style <;> decide

namespace Message

/-! ### What the pieces of a message stand for -/

/-- A piece of a message stands for a literal text, or for a token with the text that has been found for it. -/
inductive Origin where
  | literal (t : Text)
  | token (p : Placeholder) (found : Option Text)
  deriving DecidableEq, Repr

namespace Origin

/-- The piece itself. -/
def part (request : Request) : Origin → Part
  | literal t => ⟨t, request.textStyle⟩
  | token p found => partOf request p found

/-- Nothing has been found for a token. -/
def IsUnresolved : Origin → Prop
  | token _ none => True
  | _ => False

/-- A text has been found for a token, and the token names the error style for it. -/
def NamesError : Origin → Prop
  | token p (some _) => ∃ name ∈ p.style, Text.lowercase name = "error"
  | _ => False

end Origin

/-- What the pieces for segments stand for, given the texts for the tokens among them. -/
def origins : List Segment → List (Option Text) → List Origin
  | [], _ => []
  | .literal t :: segs, found => .literal t :: origins segs found
  | .slot _ :: _, [] => []
  | .slot p :: segs, text :: found => .token p text :: origins segs found

/-- The names that are looked up for tokens. -/
def lookups (ts : List Token) : List Text :=
  ts.map fun t => t.placeholder.key

section Lookups

variable {σ : Type} (sources : Sources σ) {names : List Text} {request : Request} {world : World} {memo : Memo}
  {s s' : σ}

/-! ### Lookups in turn -/

theorem run_resolveEach_cons (key : Text) (keys : List Text) :
    (resolveEach sources names request world memo (key :: keys)).run s =
      match (resolve sources names request world memo key).run.run s with
      | (.ok (text, memo'), s₁) =>
        let rest := (resolveEach sources names request world memo' keys).run s₁
        (.ok text :: rest.1, rest.2)
      | (.error failure, s₁) =>
        let rest := (resolveEach sources names request world memo keys).run s₁
        (.error failure :: rest.1, rest.2) := by
  rw [resolveEach]
  show StateT.run _ s = _
  rw [StateT.run_bind]
  rcases (resolve sources names request world memo key).run.run s with ⟨_ | ⟨text, memo'⟩, s₁⟩ <;> rfl

/-- No lookup fails if the first one does not and none of the others, with what the first one has noted. -/
theorem resolveEach_cons_eq_ok_iff {key : Text} {keys : List Text} {found : List (Option Text)} :
    (resolveEach sources names request world memo (key :: keys)).run s = (found.map .ok, s') ↔
      ∃ text memo' s₁ rest, Returns (resolve sources names request world memo key) s (text, memo') s₁ ∧
        (resolveEach sources names request world memo' keys).run s₁ = (rest.map .ok, s') ∧ found = text :: rest := by
  rw [run_resolveEach_cons]
  unfold Returns
  rcases (resolve sources names request world memo key).run.run s with ⟨failure | ⟨text, memo'⟩, s₁⟩
  · constructor
    · intro h
      have hfound := congrArg Prod.fst h
      cases found <;> cases hfound
    · rintro ⟨_, _, _, _, h, -⟩
      cases h
  · constructor
    · intro h
      obtain ⟨hfound, hrest⟩ := Prod.ext_iff.1 h
      obtain ⟨text', rest, rfl, htext, hmore⟩ := List.map_eq_cons_iff.1 hfound.symm
      cases htext
      exact ⟨text, memo', s₁, rest, rfl, Prod.ext hmore.symm hrest, rfl⟩
    · rintro ⟨_, _, _, rest, h, hrest, rfl⟩
      cases h
      simp only [hrest, List.map_cons]

/-! ### Messages by their lookups -/

/-- A walk over segments looks the tokens up in turn. -/
theorem returns_composeSegments_iff {segs : List Segment} {parts : List Part} (start : Nat) :
    Returns (composeSegments sources names request world memo segs) s parts s' ↔
      ∃ found, (resolveEach sources names request world memo (lookups (slotsFrom start segs))).run s =
          (found.map .ok, s') ∧
        parts = (origins segs found).map (Origin.part request) := by
  induction segs generalizing memo s s' parts start with
  | nil =>
    constructor
    · intro h
      obtain ⟨rfl, rfl⟩ := returns_pure.1 h
      exact ⟨[], rfl, rfl⟩
    · rintro ⟨found, hrun, rfl⟩
      have hstate : s = s' := congrArg Prod.snd hrun
      exact returns_pure.2 ⟨rfl, hstate.symm⟩
  | cons seg segs ih =>
    cases seg with
    | literal t =>
      constructor
      · intro h
        obtain ⟨rest, s₁, hrest, hret⟩ := returns_bind.1 h
        obtain ⟨rfl, rfl⟩ := returns_pure.1 hret
        obtain ⟨found, hrun, rfl⟩ := (ih (start + t.length)).1 hrest
        exact ⟨found, hrun, rfl⟩
      · rintro ⟨found, hrun, rfl⟩
        exact returns_bind.2 ⟨_, s', (ih (start + t.length)).2 ⟨found, hrun, rfl⟩, returns_pure.2 ⟨rfl, rfl⟩⟩
    | slot p =>
      constructor
      · intro h
        obtain ⟨⟨text, memo'⟩, s₁, hlookup, hwalk⟩ := returns_bind.1 h
        obtain ⟨rest, s₂, hrest, hret⟩ := returns_bind.1 hwalk
        obtain ⟨rfl, rfl⟩ := returns_pure.1 hret
        obtain ⟨found, hrun, rfl⟩ := (ih (start + p.source.length)).1 hrest
        refine ⟨text :: found, ?_, rfl⟩
        exact (resolveEach_cons_eq_ok_iff sources).2 ⟨text, memo', s₁, found, hlookup, hrun, rfl⟩
      · rintro ⟨_, hrun, rfl⟩
        obtain ⟨text, memo', s₁, found, hlookup, hrest, rfl⟩ := (resolveEach_cons_eq_ok_iff sources).1 hrun
        have hwalk := (ih (start + p.source.length)).2 ⟨found, hrest, rfl⟩
        exact returns_bind.2 ⟨_, s₁, hlookup, returns_bind.2 ⟨_, s', hwalk, returns_pure.2 ⟨rfl, rfl⟩⟩⟩

/-- **A message is made of the lookups of its tokens in turn.** It fails if one of them does. -/
theorem returns_compose_iff {format : Text} {parts : List Part} :
    Returns (compose sources request format) s parts s' ↔
      ∃ world s₁ found, Returns sources.world s world s₁ ∧
        (resolveEach sources (tokenNames (tokens format)) request world {} (lookups (tokens format))).run s₁ =
          (found.map .ok, s') ∧
        parts = (origins (segments format) found).map (Origin.part request) := by
  rw [compose_eq_segments, returns_bind]
  simp only [returns_composeSegments_iff sources 0, ← tokens_eq_slotsFrom, exists_and_left]

end Lookups

/-! ### The error style -/

section Styles

variable {request : Request} {p : Placeholder}

/-- The style of a value is the error style if the token names it. -/
theorem styleOf_eq_error_iff (htoken : request.tokenStyle ≠ .error) :
    styleOf request p = .error ↔ ∃ name ∈ p.style, Text.lowercase name = "error" := by
  have hlabel : Text.lowercase Style.error.label = "error" := by decide
  unfold styleOf
  cases p.style with
  | none => simpa using htoken
  | some name =>
    have hparse : Style.parse? name = some .error ↔ Text.lowercase name = "error" :=
      hlabel ▸ Style.parse?_eq_some_iff
    cases hstyle : Style.parse? name with
    | none => simpa [← hparse, hstyle] using htoken
    | some style => simp [← hparse, hstyle]

/-- **A piece has the error style if it stands for a token without a value, or for one that names this style.** -/
theorem style_eq_error_iff (htext : request.textStyle ≠ .error) (htoken : request.tokenStyle ≠ .error)
    (origin : Origin) :
    (origin.part request).style = .error ↔ origin.IsUnresolved ∨ origin.NamesError := by
  cases origin with
  | literal t => simpa [Origin.part, Origin.IsUnresolved, Origin.NamesError] using htext
  | token p found =>
    cases found with
    | none => simp [Origin.part, Origin.IsUnresolved, partOf]
    | some text =>
      have hstyle := styleOf_eq_error_iff (p := p) htoken
      simpa [Origin.part, Origin.IsUnresolved, Origin.NamesError, partOf] using hstyle

end Styles

section Messages

variable {σ : Type} (sources : Sources σ) {request : Request} {s s' : σ} {format : Text} {parts : List Part}

/-- **In a message whose own styles are others, the error style marks the tokens without a value and those with a
value that name it.** What a token without a value shows is its name. -/
theorem error_style_iff (htext : request.textStyle ≠ .error) (htoken : request.tokenStyle ≠ .error)
    (h : Returns (compose sources request format) s parts s') :
    ∃ world s₁ found, Returns sources.world s world s₁ ∧
      (resolveEach sources (tokenNames (tokens format)) request world {} (lookups (tokens format))).run s₁ =
        (found.map .ok, s') ∧
      parts = (origins (segments format) found).map (Origin.part request) ∧
      ∀ origin ∈ origins (segments format) found,
        ((origin.part request).style = .error ↔ origin.IsUnresolved ∨ origin.NamesError) ∧
        ∀ p, origin = .token p none →
          (origin.part request).text = "(no value found for " ++ Text.lowercase p.name ++ ")" := by
  obtain ⟨world, s₁, found, hworld, hrun, hparts⟩ := (returns_compose_iff sources).1 h
  refine ⟨world, s₁, found, hworld, hrun, hparts, fun origin _ => ⟨style_eq_error_iff htext htoken origin, ?_⟩⟩
  rintro p rfl
  rfl

/-- The commander is known, and nothing else is. -/
def commanderKnown : Sources Unit :=
  .canned (.ok { commander := some "Ada" }) (.ok (.int 3)) {} []

/-- Values in the style for information. -/
def informing : Request :=
  { event := none, filterOnCommander := false, tokenStyle := .information }

theorem error_style_iff_commander :
    let world : World := { commander := some "Ada" }
    informing.textStyle ≠ .error ∧ informing.tokenStyle ≠ .error ∧ ∃ found,
      (resolveEach commanderKnown ["commander", "x"] informing world {} ["commander", "x"]).run () =
        (found.map .ok, ()) ∧
      [⟨"Ada", .name⟩, ⟨"(no value found for x)", .error⟩] =
        (origins (segments "{Commander:name}{X:Name}") found).map (Origin.part informing) ∧
      ∀ origin ∈ origins (segments "{Commander:name}{X:Name}") found,
        (origin.part informing).style = .error ↔ origin.IsUnresolved ∨ origin.NamesError := by
  intro world
  have hformat : ("{Commander:name}{X:Name}" : Text) =
      [⟨"Commander", some "name"⟩, ⟨"X", some "Name"⟩].flatMap Placeholder.source := by decide
  have htokens : tokens "{Commander:name}{X:Name}" =
      [⟨⟨"Commander", some "name"⟩, 0⟩, ⟨⟨"X", some "Name"⟩, 16⟩] := by
    rw [hformat, tokens_flatMap_source (by decide)]
    rfl
  have h : Returns (compose commanderKnown informing "{Commander:name}{X:Name}") ()
      [⟨"Ada", .name⟩, ⟨"(no value found for x)", .error⟩] () := by
    unfold compose
    rw [htokens]
    rfl
  have htext : informing.textStyle ≠ .error := by decide
  have htoken : informing.tokenStyle ≠ .error := by decide
  obtain ⟨_, _, found, hworld, hrun, hparts, hstyles⟩ := error_style_iff commanderKnown htext htoken h
  cases hworld
  rw [htokens] at hrun
  exact ⟨htext, htoken, found, hrun, hparts, fun origin horigin => (hstyles origin horigin).1⟩

/-- A token that names the error style has it for a value that has been found. -/
theorem error_style_of_resolved :
    let world : World := { commander := some "Ada" }
    informing.textStyle ≠ .error ∧ informing.tokenStyle ≠ .error ∧
    Returns (compose commanderKnown informing "{commander:Error}") () [⟨"Ada", .error⟩] () ∧
    (resolveEach commanderKnown ["commander"] informing world {} ["commander"]).run () = ([.ok (some "Ada")], ()) ∧
    ¬∀ origin ∈ origins (segments "{commander:Error}") [some "Ada"],
      (origin.part informing).style = .error ↔ origin.IsUnresolved := by
  intro world
  have hplaceholder : Placeholder.WellFormed ⟨"commander", some "Error"⟩ := by decide
  have hformat : ("{commander:Error}" : Text) = Placeholder.source ⟨"commander", some "Error"⟩ := by decide
  have htokens : tokens "{commander:Error}" = [⟨⟨"commander", some "Error"⟩, 0⟩] := by
    rw [hformat, tokens_source hplaceholder]
  have hsegments : segments "{commander:Error}" = [.slot ⟨"commander", some "Error"⟩] := by
    rw [hformat, ← List.append_nil (Placeholder.source _), segments_source_append hplaceholder, segments, pieces]
    rfl
  refine ⟨by decide, by decide, ?_, rfl, fun hmarks => ?_⟩
  · unfold compose
    rw [htokens]
    rfl
  · rw [hsegments] at hmarks
    exact (hmarks (.token ⟨"commander", some "Error"⟩ (some "Ada")) List.mem_cons_self).1 (by decide)

end Messages

end Message

end JournalHerald
