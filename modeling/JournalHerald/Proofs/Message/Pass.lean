import JournalHerald.Message.Composer
import JournalHerald.Proofs.Message.Segments
import Mathlib.Data.List.Forall2

/-!
# The pass over a format

A message is composed by a walk over the tokens of its format that cuts the literal texts out by
their places. The same message comes from a walk over the segments of the format, in which nothing
is cut (`compose_eq_segments`), and a message with its pieces is reasoned about one segment at a
time (`forall₂_of_compose`).

* `Returns` says that an action succeeds from one state in another one;
* `Shows` relates a segment to the piece of the message that stands for it;
* `resolve_cases`, `countFor_cases`, `summaryFor_cases` tell all that a lookup can do.
-/

namespace JournalHerald.Message

/-! ### Actions that succeed -/

section Returns

variable {σ α β : Type}

/-- The action succeeds from the state `s` with the answer `a`, in the state `s'`. -/
def Returns (x : Action σ α) (s : σ) (a : α) (s' : σ) : Prop :=
  x.run.run s = (.ok a, s')

theorem returns_pure {a b : α} {s s' : σ} :
    Returns (pure a : Action σ α) s b s' ↔ b = a ∧ s' = s := by
  show (Except.ok a, s) = (Except.ok b, s') ↔ _
  simp [eq_comm]

theorem returns_lift {x : Except Failure α} {s s' : σ} {a : α} :
    Returns (liftM x : Action σ α) s a s' ↔ x = .ok a ∧ s' = s := by
  show (x, s) = (Except.ok a, s') ↔ _
  simp [eq_comm]

/-- An action goes on where the one before it has succeeded. -/
theorem run_bind (x : Action σ α) (f : α → Action σ β) (s : σ) :
    (x >>= f).run.run s = match x.run.run s with
      | (.ok a, t) => (f a).run.run t
      | (.error e, t) => (.error e, t) := by
  show (ExceptT.bindCont f (x.run.run s).1).run (x.run.run s).2 = _
  rcases x.run.run s with ⟨_ | _, t⟩ <;> rfl

theorem returns_bind {x : Action σ α} {f : α → Action σ β} {s s' : σ} {b : β} :
    Returns (x >>= f) s b s' ↔ ∃ a t, Returns x s a t ∧ Returns (f a) t b s' := by
  unfold Returns
  rw [run_bind]
  constructor
  · intro h
    rcases hx : x.run.run s with ⟨e | a, t⟩
    · rw [hx] at h; cases h
    · rw [hx] at h; exact ⟨a, t, rfl, h⟩
  · rintro ⟨a, t, hx, hf⟩
    rw [hx]
    exact hf

end Returns

section

variable {σ : Type} (sources : Sources σ)

/-! ### The walk over segments -/

/-- The pieces of a message for the segments of its format. -/
def composeSegments (names : List Text) (request : Request) (world : World) :
    Memo → List Segment → Action σ (List Part)
  | _, [] => pure []
  | memo, .literal t :: rest => do
    let parts ← composeSegments names request world memo rest
    return ⟨t, request.textStyle⟩ :: parts
  | memo, .slot p :: rest => do
    let (text, memo) ← resolve sources names request world memo p.key
    let parts ← composeSegments names request world memo rest
    return partOf request p text :: parts

theorem literal_self (request : Request) (format : Text) (start : Nat) :
    literal request format start start = [] :=
  if_neg (Nat.lt_irrefl start)

theorem literal_of_ne_nil (request : Request) {t : Text} (ht : t ≠ []) (before after : Text) :
    literal request (before ++ t ++ after) before.length (before.length + t.length) =
      [⟨t, request.textStyle⟩] := by
  have hpos := List.length_pos_iff.2 ht
  rw [literal, if_pos (by omega), ← List.length_append, List.take_left, List.drop_left]

/-- Cutting the literal texts out by the places of the tokens gives back the segments. -/
theorem composeFrom_slotsFrom (names : List Text) (request : Request) (world : World)
    {segs : List Segment} (spaced : Spaced segs) (memo : Memo) (before : Text) :
    composeFrom (resolve sources names request world) request
        (before ++ segs.flatMap Segment.source) memo before.length (slotsFrom before.length segs) =
        composeSegments sources names request world memo segs := by
  induction spaced generalizing memo before with
  | nil => simp [slotsFrom, composeFrom, composeSegments, literal_self]
  | @literal t ht =>
    have := literal_of_ne_nil request ht before []
    rw [List.append_nil] at this
    simp [slotsFrom, composeFrom, composeSegments, Segment.source, this]
  | @slot p rest _ ih =>
    have hrest := fun memo => ih memo (before ++ p.source)
    simp only [List.length_append, List.append_assoc] at hrest
    simp [slotsFrom, composeFrom, composeSegments, literal_self, Token.stop, Token.length,
      Segment.source, hrest]
  | @literalSlot t p rest ht _ ih =>
    have hrest := fun memo => ih memo (before ++ t ++ p.source)
    simp only [List.length_append, List.append_assoc, ← Nat.add_assoc] at hrest
    have hlit := literal_of_ne_nil request ht before (p.source ++ rest.flatMap Segment.source)
    rw [List.append_assoc] at hlit
    simp [slotsFrom, composeFrom, composeSegments, Token.stop, Token.length, Segment.source, hrest,
      hlit]

/-- **A message is composed segment by segment.** -/
theorem compose_eq_segments (request : Request) (format : Text) :
    compose sources request format = sources.world >>= fun world =>
      composeSegments sources (tokenNames (tokens format)) request world {} (segments format) := by
  have h := fun world => composeFrom_slotsFrom sources (tokenNames (tokens format)) request world
    (spaced_segments format) {} []
  simp only [List.nil_append, List.length_nil, flatMap_source_segments, ← tokens_eq_slotsFrom] at h
  simp only [compose, h]

/-- A piece of a message stands for a segment: a literal text in the style of texts, or a
placeholder with a text that is right for its key. -/
inductive Shows (request : Request) (right : Text → Option Text → Prop) :
    Segment → Part → Prop where
  | literal (t : Text) : Shows request right (.literal t) ⟨t, request.textStyle⟩
  | slot (p : Placeholder) {text : Option Text} :
      right p.key text → Shows request right (.slot p) (partOf request p text)

/-- What holds of every lookup holds along the whole pass. The invariant ties what has already
been asked for to the state of the sources. -/
theorem forall₂_of_composeSegments {names : List Text} {request : Request} {world : World}
    (inv : Memo → σ → Prop) {right : Text → Option Text → Prop}
    (step : ∀ {memo key s text memo' s'}, inv memo s →
      Returns (resolve sources names request world memo key) s (text, memo') s' →
        inv memo' s' ∧ right key text)
    {segs : List Segment} {memo : Memo} {s s' : σ} {parts : List Part} (start : inv memo s)
    (h : Returns (composeSegments sources names request world memo segs) s parts s') :
    List.Forall₂ (Shows request right) segs parts := by
  induction segs generalizing memo s s' parts with
  | nil =>
    obtain ⟨rfl, -⟩ := returns_pure.1 h
    exact .nil
  | cons seg segs ih =>
    cases seg with
    | literal t =>
      obtain ⟨rest, s₁, hrest, hret⟩ := returns_bind.1 h
      obtain ⟨rfl, -⟩ := returns_pure.1 hret
      exact .cons (.literal t) (ih start hrest)
    | slot p =>
      obtain ⟨⟨text, memo'⟩, s₁, hlookup, hwalk⟩ := returns_bind.1 h
      obtain ⟨rest, s₂, hrest, hret⟩ := returns_bind.1 hwalk
      obtain ⟨rfl, -⟩ := returns_pure.1 hret
      obtain ⟨hinv, hright⟩ := step start hlookup
      exact .cons (.slot p hright) (ih hinv hrest)

/-- **The pieces of a message stand for the segments of its format, one by one.** -/
theorem forall₂_of_compose {request : Request} {format : Text} (inv : World → Memo → σ → Prop)
    {right : Text → Option Text → Prop}
    (step : ∀ {world memo key s text memo' s'}, inv world memo s →
      Returns (resolve sources (tokenNames (tokens format)) request world memo key) s
        (text, memo') s' →
        inv world memo' s' ∧ right key text)
    {s s' : σ} {parts : List Part}
    (start : ∀ {world s₁}, Returns sources.world s world s₁ → inv world {} s₁)
    (h : Returns (compose sources request format) s parts s') :
    List.Forall₂ (Shows request right) (segments format) parts := by
  rw [compose_eq_segments] at h
  obtain ⟨world, s₁, hworld, h⟩ := returns_bind.1 h
  exact forall₂_of_composeSegments sources (inv world) (fun hinv => step hinv) (start hworld) h

/-! ### Lookups -/

variable {names : List Text} {request : Request} {world : World} {memo memo' : Memo} {s s' : σ}

/-- A count is known, or asked for now, or there is no event to count. -/
theorem countFor_cases {n : Option Int}
    (h : Returns (countFor sources names request world memo) s (n, memo') s') :
    (request.event = none ∧ n = none ∧ memo' = memo ∧ s' = s) ∨
    ∃ event k, request.event = some event ∧ n = some k ∧
      ((memo.count = some k ∧ memo' = memo ∧ s' = s) ∨
       (memo.count = none ∧ memo' = { memo with count := some k } ∧ ∃ answer,
          Returns (sources.count (Criteria.forMessage names event world request.filterOnCommander))
            s answer s' ∧ shownCount answer = .ok k)) := by
  unfold countFor at h
  cases hevent : request.event with
  | none =>
    simp only [hevent] at h
    obtain ⟨he, rfl⟩ := returns_pure.1 h
    cases he
    exact .inl ⟨rfl, rfl, rfl, rfl⟩
  | some event =>
    simp only [hevent] at h
    cases hcount : memo.count with
    | some k =>
      simp only [hcount] at h
      obtain ⟨he, rfl⟩ := returns_pure.1 h
      cases he
      exact .inr ⟨event, k, rfl, rfl, .inl ⟨rfl, rfl, rfl⟩⟩
    | none =>
      simp only [hcount] at h
      obtain ⟨answer, s₁, hanswer, hrest⟩ := returns_bind.1 h
      obtain ⟨k, s₂, hlift, hret⟩ := returns_bind.1 hrest
      obtain ⟨hk, rfl⟩ := returns_lift.1 hlift
      obtain ⟨he, rfl⟩ := returns_pure.1 hret
      cases he
      exact .inr ⟨event, k, rfl, rfl, .inr ⟨rfl, rfl, answer, hanswer, hk⟩⟩

/-- A summary is known, or drawn from the open missions now. -/
theorem summaryFor_cases {t : Text}
    (h : Returns (summaryFor sources names request world memo) s (t, memo') s') :
    (memo.summary = some t ∧ memo' = memo ∧ s' = s) ∨
    (memo.summary = none ∧ memo' = { memo with summary := some t } ∧ ∃ missions,
      Returns sources.missions s missions s' ∧
        t = MissionSummary.text names request.event world missions) := by
  unfold summaryFor at h
  cases hsummary : memo.summary with
  | some u =>
    simp only [hsummary] at h
    obtain ⟨he, rfl⟩ := returns_pure.1 h
    cases he
    exact .inl ⟨rfl, rfl, rfl⟩
  | none =>
    simp only [hsummary] at h
    obtain ⟨missions, s₁, hmissions, h⟩ := returns_bind.1 h
    obtain ⟨he, rfl⟩ := returns_pure.1 h
    cases he
    exact .inr ⟨rfl, rfl, missions, hmissions, rfl⟩

/-- The play time is known, or asked for now. -/
theorem countersFor_cases {c : Counters}
    (h : Returns (countersFor sources memo) s (c, memo') s') :
    (memo.counters = some c ∧ memo' = memo ∧ s' = s) ∨
    (memo.counters = none ∧ memo' = { memo with counters := some c } ∧
      Returns sources.counters s c s') := by
  unfold countersFor at h
  cases hcounters : memo.counters with
  | some d =>
    simp only [hcounters] at h
    obtain ⟨he, rfl⟩ := returns_pure.1 h
    cases he
    exact .inl ⟨rfl, rfl, rfl⟩
  | none =>
    simp only [hcounters] at h
    obtain ⟨d, s₁, hd, h⟩ := returns_bind.1 h
    obtain ⟨he, rfl⟩ := returns_pure.1 h
    cases he
    exact .inr ⟨rfl, rfl, hd⟩

/-- A name is looked up in one of five ways, in this order of precedence. -/
theorem resolve_cases {key : Text} {text : Option Text}
    (h : Returns (resolve sources names request world memo key) s (text, memo') s') :
    (key = "count" ∧ ∃ n, text = n.map Text.intText ∧
      Returns (countFor sources names request world memo) s (n, memo') s') ∨
    (key = "ordinalcount" ∧ ∃ n, text = n.map ordinal ∧
      Returns (countFor sources names request world memo) s (n, memo') s') ∨
    (key = "missionlist" ∧ ∃ t, text = some t ∧
      Returns (summaryFor sources names request world memo) s (t, memo') s') ∨
    (key ≠ "count" ∧ key ≠ "ordinalcount" ∧ key ≠ "missionlist" ∧ ∃ counter,
      CounterName.ofName? key = some counter ∧ ∃ c, text = some (c.show counter) ∧
        Returns (countersFor sources memo) s (c, memo') s') ∨
    (key ≠ "count" ∧ key ≠ "ordinalcount" ∧ key ≠ "missionlist" ∧ CounterName.ofName? key = none ∧
      text = fieldText? request.event world key ∧ memo' = memo ∧ s' = s) := by
  unfold resolve at h
  by_cases hcount : key = "count"
  · rw [if_pos hcount] at h
    obtain ⟨⟨n, m⟩, s₁, hn, h⟩ := returns_bind.1 h
    obtain ⟨he, rfl⟩ := returns_pure.1 h
    cases he
    exact .inl ⟨hcount, n, rfl, hn⟩
  rw [if_neg hcount] at h
  by_cases hordinal : key = "ordinalcount"
  · rw [if_pos hordinal] at h
    obtain ⟨⟨n, m⟩, s₁, hn, h⟩ := returns_bind.1 h
    obtain ⟨he, rfl⟩ := returns_pure.1 h
    cases he
    exact .inr (.inl ⟨hordinal, n, rfl, hn⟩)
  rw [if_neg hordinal] at h
  by_cases hlist : key = "missionlist"
  · rw [if_pos hlist] at h
    obtain ⟨⟨t, m⟩, s₁, ht, h⟩ := returns_bind.1 h
    obtain ⟨he, rfl⟩ := returns_pure.1 h
    cases he
    exact .inr (.inr (.inl ⟨hlist, t, rfl, ht⟩))
  rw [if_neg hlist] at h
  split at h
  · next counter hcounter =>
    obtain ⟨⟨c, m⟩, s₁, hc, h⟩ := returns_bind.1 h
    obtain ⟨he, rfl⟩ := returns_pure.1 h
    cases he
    exact .inr (.inr (.inr (.inl ⟨hcount, hordinal, hlist, counter, hcounter, c, rfl, hc⟩)))
  · next hcounter =>
    obtain ⟨he, rfl⟩ := returns_pure.1 h
    cases he
    exact .inr (.inr (.inr (.inr ⟨hcount, hordinal, hlist, hcounter, rfl, rfl, rfl⟩)))

end

end JournalHerald.Message
