import JournalHerald.Message.Trace
import JournalHerald.Proofs.Json.Values
import JournalHerald.Proofs.Message.Faults

/-!
# Messages and their traces

The program writes the event of a message into its trace, and that can fail. What can be written is
said here value by value (`Value.Fits`), for so many values within one another as there is room for.

* Where everything fits, the traces change nothing (`composeTraced_eq_compose`), and a message that
  gets through its traces is the message without them (`refines_composeTraced`);
* `fails_composeTraced_iff` tells when a message with its traces fails, and how;
* `fails_composeTraced_deepBounty` is an entry of a journal that is too deep for the trace of a count.
-/

namespace JournalHerald

/-! ### What can be written -/

/-- The value can be written where there is room for `n` values within one another. -/
inductive Value.Fits : Nat → Value → Prop where
  | int {n : Nat} {i : Int} (short : i.natAbs < 10 ^ Json.maxDigits) : Fits (n + 1) (.int i)
  | list {n : Nat} {items : List Value} (each : ∀ v ∈ items, Fits n v) : Fits (n + 1) (.list items)
  | object {n : Nat} {fields : Fields} (each : ∀ f ∈ fields, Fits n f.2) :
      Fits (n + 1) (.object fields)
  | plain {n : Nat} {v : Value} (int : ∀ i, v ≠ .int i) (list : ∀ items, v ≠ .list items)
      (object : ∀ fields, v ≠ .object fields) : Fits (n + 1) v

namespace Value

theorem Fits.mono {m n : Nat} {v : Value} (h : v.Fits m) (hle : m ≤ n) : v.Fits n := by
  obtain ⟨k, rfl⟩ := Nat.exists_eq_add_of_le hle
  clear hle
  induction h with
  | int short => rw [Nat.add_right_comm]; exact .int short
  | list _ ih => rw [Nat.add_right_comm]; exact .list ih
  | object _ ih => rw [Nat.add_right_comm]; exact .object ih
  | plain int list object => rw [Nat.add_right_comm]; exact .plain int list object

mutual

theorem unwritable?_eq_none_iff (n : Nat) (v : Value) : v.unwritable? n = none ↔ v.Fits n := by
  cases n with
  | zero =>
    constructor
    · intro h
      rw [unwritable?] at h
      cases h
    · nofun
  | succ n =>
    cases v with
    | int i =>
      have hlong : Json.maxDigits < (Text.natText i.natAbs).length ↔ ¬Json.IsShort i := by
        rw [Json.isShort_iff, Nat.not_le]
      rw [unwritable?, ite_eq_right_iff]
      constructor
      · exact fun h => .int (not_not.1 fun hshort => nomatch h (hlong.2 hshort))
      · rintro (hshort | _ | _ | ⟨hint, -, -⟩) h
        · exact absurd hshort (hlong.1 h)
        · exact absurd rfl (hint i)
    | list items =>
      rw [unwritable?, unwritableItem?_eq_none_iff n items]
      constructor
      · exact .list
      · rintro (_ | each | _ | ⟨-, hlist, -⟩)
        · exact each
        · exact absurd rfl (hlist items)
    | object fields =>
      rw [unwritable?, unwritableField?_eq_none_iff n fields]
      constructor
      · exact .object
      · rintro (_ | _ | each | ⟨-, -, hobject⟩)
        · exact each
        · exact absurd rfl (hobject fields)
    | _ => exact ⟨fun _ => .plain nofun nofun nofun, fun _ => rfl⟩

theorem unwritableItem?_eq_none_iff (n : Nat) (items : List Value) :
    unwritableItem? n items = none ↔ ∀ v ∈ items, v.Fits n := by
  cases items with
  | nil => simp [unwritableItem?]
  | cons v rest =>
    rw [unwritableItem?, Option.or_eq_none_iff, unwritable?_eq_none_iff n v,
      unwritableItem?_eq_none_iff n rest, List.forall_mem_cons]

theorem unwritableField?_eq_none_iff (n : Nat) (fields : List (Text × Value)) :
    unwritableField? n fields = none ↔ ∀ f ∈ fields, f.2.Fits n := by
  cases fields with
  | nil => simp [unwritableField?]
  | cons f rest =>
    rcases f with ⟨name, v⟩
    rw [unwritableField?, Option.or_eq_none_iff, unwritable?_eq_none_iff n v,
      unwritableField?_eq_none_iff n rest, List.forall_mem_cons]

end

end Value

/-- Every field of the event can be written where there is room for `n` values within one another. -/
def Event.Fits (n : Nat) (event : Event) : Prop :=
  ∀ f ∈ event.content, f.2.Fits n

theorem Event.unwritable?_eq_none_iff {n : Nat} {event : Event} :
    event.unwritable? n = none ↔ event.Fits n :=
  Value.unwritableField?_eq_none_iff n event.content

theorem Event.Fits.mono {m n : Nat} {event : Event} (h : event.Fits m) (hle : m ≤ n) :
    event.Fits n :=
  fun f hf => (h f hf).mono hle

namespace Message

/-- The event of a message, if there is one, fits into its trace. -/
def Request.Fits (n : Nat) (request : Request) : Prop :=
  ∀ event ∈ request.event, event.Fits n

theorem Request.unwritable?_eq_none_iff {n : Nat} {request : Request} :
    request.event.bind (Event.unwritable? n) = none ↔ request.Fits n := by
  rw [Option.bind_eq_none_iff]
  exact forall₂_congr fun event _ => Event.unwritable?_eq_none_iff

/-! ### Traced actions -/

section Traced

variable {σ α : Type} {n : Nat} {event : Option Event} {x : Action σ α} {s s' : σ} {a : α}
  {e : Failure}

/-- The trace of what can be written changes nothing. -/
theorem traced_of_fits (h : event.bind (Event.unwritable? n) = none) : traced n event x = x := by
  simp only [traced, h]
  rfl

theorem run_traced_of_unwritable {failure : Failure}
    (h : event.bind (Event.unwritable? n) = some failure) :
    (traced n event x).run.run s = (.error failure, (x.run.run s).2) := by
  simp only [traced, h]
  rfl

theorem returns_traced : Returns (traced n event x) s a s' ↔
    event.bind (Event.unwritable? n) = none ∧ Returns x s a s' := by
  cases h : event.bind (Event.unwritable? n) with
  | none =>
    rw [traced_of_fits h]
    exact (and_iff_right rfl).symm
  | some failure =>
    rw [Returns, run_traced_of_unwritable h]
    exact ⟨nofun, nofun⟩

/-- What cannot be written makes the action fail for that reason. -/
theorem exists_fails_traced : (∃ s', Fails (traced n event x) s e s') ↔
    match event.bind (Event.unwritable? n) with
    | some failure => e = failure
    | none => ∃ s', Fails x s e s' := by
  cases h : event.bind (Event.unwritable? n) with
  | none => rw [traced_of_fits h]
  | some failure =>
    simp only [Fails, run_traced_of_unwritable h]
    constructor
    · rintro ⟨s', heq⟩
      cases heq
      rfl
    · rintro rfl
      exact ⟨_, rfl⟩

theorem returns_failFor {failure? : Option Failure} {u : Unit} :
    Returns (failFor failure? : Action σ Unit) s u s' ↔ failure? = none ∧ s' = s := by
  cases failure? with
  | none => exact returns_pure.trans (by simp)
  | some failure => exact ⟨nofun, nofun⟩

theorem fails_failFor {failure? : Option Failure} :
    Fails (failFor failure? : Action σ Unit) s e s' ↔ failure? = some e ∧ s' = s := by
  cases failure? with
  | none => exact ⟨fun h => absurd h not_fails_pure, nofun⟩
  | some failure =>
    show (Except.error failure, s) = (Except.error e, s') ↔ _
    simp [eq_comm]

end Traced

/-! ### Traced sources -/

/-- Whenever the play time is told, the number of sessions can be written. -/
def Sources.SessionsShort {σ : Type} (sources : Sources σ) : Prop :=
  ∀ s counters s', Returns sources.counters s counters s' →
    counters.sessions.natAbs < 10 ^ Json.maxDigits

/-- Whenever the count is answered, the answer can be written. -/
def Sources.CountsFit {σ : Type} (sources : Sources σ) : Prop :=
  ∀ criteria s answer s', Returns (sources.count criteria) s answer s' → answer.Fits answerRoom

section

variable {σ : Type} {sources : Sources σ} {event : Option Event} {criteria : Criteria} {s s' : σ}
  {answer : Value} {e : Failure}

theorem returns_logged : Returns (do
      let answer ← sources.count criteria
      failFor (answer.unwritable? answerRoom)
      return answer) s answer s' ↔
    Returns (sources.count criteria) s answer s' ∧ answer.unwritable? answerRoom = none := by
  constructor
  · intro h
    obtain ⟨a, t, hcount, hlogged⟩ := returns_bind.1 h
    obtain ⟨u, t', hlog, hreturn⟩ := returns_bind.1 hlogged
    obtain ⟨hfits, rfl⟩ := returns_failFor.1 hlog
    obtain ⟨rfl, rfl⟩ := returns_pure.1 hreturn
    exact ⟨hcount, hfits⟩
  · rintro ⟨hcount, hfits⟩
    refine returns_bind.2 ⟨answer, s', hcount, returns_bind.2 ⟨(), s', ?_, returns_pure.2 ⟨rfl, rfl⟩⟩⟩
    exact returns_failFor.2 ⟨hfits, rfl⟩

theorem exists_fails_logged : (∃ s', Fails (do
      let answer ← sources.count criteria
      failFor (answer.unwritable? answerRoom)
      return answer) s e s') ↔
    (∃ s', Fails (sources.count criteria) s e s') ∨
      ∃ answer s', Returns (sources.count criteria) s answer s' ∧
        answer.unwritable? answerRoom = some e := by
  simp only [fails_bind, fails_failFor, not_fails_pure, and_false, exists_false, or_false, exists_or]
  refine or_congr_right ⟨?_, ?_⟩
  · rintro ⟨s', answer, t, hcount, he, rfl⟩
    exact ⟨answer, s', hcount, he⟩
  · rintro ⟨answer, s', hcount, he⟩
    exact ⟨s', answer, s', hcount, he, rfl⟩

/-- A traced count is answered as the count is, if the event and the answer can be written. -/
theorem returns_count_traced : Returns ((sources.traced event).count criteria) s answer s' ↔
    event.bind (Event.unwritable? countRoom) = none ∧
      Returns (sources.count criteria) s answer s' ∧ answer.unwritable? answerRoom = none :=
  returns_traced.trans (and_congr_right fun _ => returns_logged)

/-- A traced count fails if the event or the answer cannot be written, or as the count does. -/
theorem exists_fails_count_traced :
    (∃ s', Fails ((sources.traced event).count criteria) s e s') ↔
      match event.bind (Event.unwritable? countRoom) with
      | some failure => e = failure
      | none => (∃ s', Fails (sources.count criteria) s e s') ∨
          ∃ answer s', Returns (sources.count criteria) s answer s' ∧
            answer.unwritable? answerRoom = some e := by
  rw [← exists_fails_logged]
  exact exists_fails_traced

theorem Sources.CountsWhole.traced (whole : sources.CountsWhole) :
    (sources.traced event).CountsWhole :=
  fun criteria s answer s' h => whole criteria s answer s' (returns_count_traced.1 h).2.1

/-- Where everything fits, the traces of the counts change nothing. -/
theorem traced_eq_self (hevent : event.bind (Event.unwritable? countRoom) = none)
    (fit : sources.CountsFit) : sources.traced event = sources := by
  have hcount : (sources.traced event).count = sources.count := by
    funext criteria
    have hlogged : (do
        let answer ← sources.count criteria
        failFor (answer.unwritable? answerRoom)
        return answer) = sources.count criteria >>= pure :=
      bind_congr_of_returns fun s answer s' h => by
        rw [(answer.unwritable?_eq_none_iff answerRoom).2 (fit criteria s answer s' h)]
        rfl
    exact (traced_of_fits hevent).trans (hlogged.trans (bind_pure _))
  exact congrArg (fun count => { sources with count }) hcount

end

/-! ### Messages that get through their traces -/

section Refines

variable {σ α β : Type} {x y : Action σ α}

/-- Whenever the first action succeeds, the second one succeeds in the same way. -/
def Refines (x y : Action σ α) : Prop :=
  ∀ s a s', Returns x s a s' → Returns y s a s'

theorem Refines.refl (x : Action σ α) : Refines x x :=
  fun _ _ _ h => h

theorem Refines.bind {f g : α → Action σ β} (h : Refines x y) (hf : ∀ a, Refines (f a) (g a)) :
    Refines (x >>= f) (y >>= g) := by
  intro s b s' hb
  obtain ⟨a, t, hx, ha⟩ := returns_bind.1 hb
  exact returns_bind.2 ⟨a, t, h s a t hx, hf a t b s' ha⟩

variable {event : Option Event} {sources : Sources σ} {names : List Text} {request : Request}
  {world : World} {format : Text}

theorem refines_countFor (memo : Memo) :
    Refines (countFor (sources.traced event) names request world memo)
      (countFor sources names request world memo) := by
  unfold countFor
  split
  · exact .refl _
  split
  · exact .refl _
  · refine Refines.bind (fun s answer s' h => (returns_count_traced.1 h).2.1) fun answer => .refl _

theorem refines_resolve (memo : Memo) (key : Text) :
    Refines (resolve (sources.traced event) names request world memo key)
      (resolve sources names request world memo key) := by
  unfold resolve
  split
  · exact (refines_countFor memo).bind fun _ => .refl _
  split
  · exact (refines_countFor memo).bind fun _ => .refl _
  · exact .refl _

theorem refines_composeFrom {lookup lookup' : Lookup σ}
    (h : ∀ memo key, Refines (lookup memo key) (lookup' memo key)) (memo : Memo) (index : Nat)
    (ts : List Token) :
    Refines (composeFrom lookup request format memo index ts)
      (composeFrom lookup' request format memo index ts) := by
  induction ts generalizing memo index with
  | nil => exact .refl _
  | cons t ts ih => exact (h memo _).bind fun found => (ih found.2 t.stop).bind fun _ => .refl _

/-- A message that gets through its traces is the message without them. -/
theorem refines_composeTraced :
    Refines (composeTraced sources request format) (compose sources request format) := by
  intro s parts s' h
  refine Refines.bind (.refl sources.world) (fun world => ?_) s parts s' (returns_traced.1 h).2
  refine refines_composeFrom (fun memo key s found s' hfound => ?_) {} 0 (tokens format)
  obtain ⟨⟨text, memo'⟩, t, hresolve, hwritten⟩ := returns_bind.1 hfound
  obtain ⟨_, t', hfits, hreturn⟩ := returns_bind.1 hwritten
  obtain ⟨-, rfl⟩ := returns_failFor.1 hfits
  obtain ⟨rfl, rfl⟩ := returns_pure.1 hreturn
  exact refines_resolve memo key _ _ _ hresolve

end Refines

/-! ### Traced messages -/

section

variable {σ : Type} {sources : Sources σ} {names : List Text} {request : Request} {world : World}
  {format : Text} {s s' : σ} {e : Failure}

/-- What is known of the play time after a lookup has been known before or is told now. -/
theorem counters_of_resolve (short : sources.SessionsShort) {memo memo' : Memo} {key : Text}
    {text : Option Text}
    (hmemo : ∀ c, memo.counters = some c → c.sessions.natAbs < 10 ^ Json.maxDigits)
    (h : Returns (resolve sources names request world memo key) s (text, memo') s') :
    ∀ c, memo'.counters = some c → c.sessions.natAbs < 10 ^ Json.maxDigits := by
  have hcount : ∀ {n}, Returns (countFor sources names request world memo) s (n, memo') s' →
      memo'.counters = memo.counters := by
    intro n hn
    rcases countFor_cases sources hn with ⟨-, -, rfl, -⟩ | ⟨_, _, -, -, ⟨-, rfl, -⟩ | ⟨-, rfl, -⟩⟩ <;> rfl
  rcases resolve_cases sources h with ⟨-, n, -, hn⟩ | ⟨-, n, -, hn⟩ | ⟨-, t, -, ht⟩ |
    ⟨-, -, -, counter, -, c, -, hc⟩ | ⟨-, -, -, -, -, rfl, -⟩
  · rwa [hcount hn]
  · rwa [hcount hn]
  · rcases summaryFor_cases sources ht with ⟨-, rfl, -⟩ | ⟨-, rfl, -⟩ <;> exact hmemo
  · rcases countersFor_cases sources hc with ⟨-, rfl, -⟩ | ⟨-, rfl, hasked⟩
    · exact hmemo
    · intro d hd
      cases hd
      exact short _ _ _ hasked
  · exact hmemo

theorem Memo.unwritable?_eq_none {memo : Memo}
    (hmemo : ∀ c, memo.counters = some c → c.sessions.natAbs < 10 ^ Json.maxDigits) (key : Text) :
    memo.unwritable? key = none := by
  rw [Memo.unwritable?, ite_eq_right_iff]
  rintro -
  rw [Option.bind_eq_none_iff]
  exact fun c hc => (Value.unwritable?_eq_none_iff 1 _).2 (.int (hmemo c hc))

/-- Where the number of sessions can be written, the texts for names are written as they are found. -/
theorem composeFrom_resolveWritten (short : sources.SessionsShort) {memo : Memo}
    (hmemo : ∀ c, memo.counters = some c → c.sessions.natAbs < 10 ^ Json.maxDigits) (index : Nat)
    (ts : List Token) :
    composeFrom (resolveWritten sources names request world) request format memo index ts =
      composeFrom (resolve sources names request world) request format memo index ts := by
  induction ts generalizing memo index with
  | nil => rfl
  | cons t ts ih =>
    rw [composeFrom, composeFrom, resolveWritten, bind_assoc]
    refine bind_congr_of_returns fun s found s' h => ?_
    rcases found with ⟨text, memo'⟩
    have hmemo' := counters_of_resolve short hmemo h
    simp only [Memo.unwritable?_eq_none hmemo', failFor, pure_bind, ih hmemo']

theorem composeTraced_eq_traced (short : sources.SessionsShort) :
    composeTraced sources request format =
      traced messageRoom request.event (compose (sources.traced request.event) request format) := by
  have hshort : (sources.traced request.event).SessionsShort := short
  have hstart : ∀ c, ({} : Memo).counters = some c → c.sessions.natAbs < 10 ^ Json.maxDigits := nofun
  rw [composeTraced, compose]
  simp only [composeFrom_resolveWritten hshort hstart]

/-- **Where everything fits, the traces of a message change nothing.** -/
theorem composeTraced_eq_compose (short : sources.SessionsShort) (fit : sources.CountsFit)
    (hevent : request.Fits countRoom) :
    composeTraced sources request format = compose sources request format := by
  have hmessage : request.Fits messageRoom := fun event h => (hevent event h).mono (by decide)
  rw [composeTraced_eq_traced short, traced_eq_self (Request.unwritable?_eq_none_iff.2 hevent) fit,
    traced_of_fits (Request.unwritable?_eq_none_iff.2 hmessage)]

theorem exists_fails_composeTraced_iff (whole : sources.CountsWhole) (short : sources.SessionsShort) :
    (∃ s', Fails (composeTraced sources request format) s e s') ↔
      match request.event.bind (Event.unwritable? messageRoom) with
      | some failure => e = failure
      | none => (∃ s', Fails sources.world s e s') ∨
          ∃ world s₁, Returns sources.world s world s₁ ∧
            FirstFault (sources.traced request.event) (tokenNames (tokens format)) request world
              (tokens format) s₁ e := by
  rw [composeTraced_eq_traced short, exists_fails_traced]
  cases request.event.bind (Event.unwritable? messageRoom) with
  | some failure => rfl
  | none => exact (fails_compose_iff whole.traced).1

/-- **A message fails by its sources, or because something cannot be written.** If its event cannot be
written into the trace in the end, the message fails for that reason. If it can, the message fails
if the world is not told, or if the question behind one of its tokens fails, with the failure of the
first such token, where a count fails too if its answer cannot be logged or the event cannot be written
into its own trace. So where everything fits, a message fails only by its sources. -/
theorem fails_composeTraced_iff (whole : sources.CountsWhole) (short : sources.SessionsShort) :
    ((∃ s', Fails (composeTraced sources request format) s e s') ↔
      match request.event.bind (Event.unwritable? messageRoom) with
      | some failure => e = failure
      | none => (∃ s', Fails sources.world s e s') ∨
          ∃ world s₁, Returns sources.world s world s₁ ∧
            FirstFault (sources.traced request.event) (tokenNames (tokens format)) request world
              (tokens format) s₁ e) ∧
    (∀ criteria s e, (∃ s', Fails ((sources.traced request.event).count criteria) s e s') ↔
      match request.event.bind (Event.unwritable? countRoom) with
      | some failure => e = failure
      | none => (∃ s', Fails (sources.count criteria) s e s') ∨
          ∃ answer s', Returns (sources.count criteria) s answer s' ∧
            answer.unwritable? answerRoom = some e) ∧
    (request.Fits countRoom → sources.CountsFit →
      ((∃ s', Fails (composeTraced sources request format) s e s') ↔
        (∃ s', Fails sources.world s e s') ∨
        ∃ world s₁, Returns sources.world s world s₁ ∧
          FirstFault sources (tokenNames (tokens format)) request world (tokens format) s₁ e) ∧
      ∀ faults, Settled sources (tokenNames (tokens format)) request faults →
        ((∃ s', Fails (composeTraced sources request format) s e s') ↔
          (∃ s', Fails sources.world s e s') ∨
          ∃ world s₁, Returns sources.world s world s₁ ∧
            (tokens format).findSome? (fault? request (faults world)) = some e)) := by
  refine ⟨exists_fails_composeTraced_iff whole short, fun _ _ _ => exists_fails_count_traced,
    fun hevent fit => ?_⟩
  rw [composeTraced_eq_compose short fit hevent]
  exact fails_compose_iff whole

end

/-- Sources of which the count and the missions are out of order. -/
def outOfOrder : Sources Unit :=
  { Sources.canned (.ok {}) (.error (.unavailable "no count")) {} [] with
    missions := throw (.unavailable "no missions") }

/-- What the questions to them meet. -/
def outOfOrderFaults : Question → Option Failure
  | .count => some (.unavailable "no count")
  | .missions => some (.unavailable "no missions")
  | .counters => none

theorem settled_outOfOrder (names : List Text) {request : Request} {event : Event}
    (hevent : request.event = some event) :
    Settled outOfOrder names request fun _ => outOfOrderFaults where
  answered := by
    intro world q h s
    cases q with
    | counters => exact ⟨(), rfl⟩
    | _ => cases h
  failing := by
    intro world q e h s
    refine ⟨(), ?_⟩
    cases q with
    | counters => cases h
    | missions => cases h; rfl
    | count =>
      cases h
      rw [ask, hevent]
      rfl

/-- The missions are asked for first, since the format names them first. -/
theorem fails_composeTraced_iff_outOfOrder :
    let request : Request :=
      { event := some (.ofEntry [("event", .text "Docked")] false none), filterOnCommander := false }
    (outOfOrder.CountsWhole ∧ outOfOrder.SessionsShort ∧ request.Fits countRoom ∧
      outOfOrder.CountsFit) ∧
    ∃ s', Fails (composeTraced outOfOrder request "{x}{MissionList}{count}") ()
      (.unavailable "no missions") s' := by
  intro request
  have whole : outOfOrder.CountsWhole := fun criteria s answer s' h => by cases h
  have fit : outOfOrder.CountsFit := fun criteria s answer s' h => by cases h
  have short : outOfOrder.SessionsShort := by
    intro s counters s' h
    cases h
    exact Nat.pow_pos (by decide)
  have hevent : request.Fits countRoom := Request.unwritable?_eq_none_iff.1 rfl
  have htokens : tokens "{x}{MissionList}{count}" =
      [⟨⟨"x", none⟩, 0⟩, ⟨⟨"MissionList", none⟩, 3⟩, ⟨⟨"count", none⟩, 16⟩] := by
    have hformat : ("{x}{MissionList}{count}" : Text) =
        [⟨"x", none⟩, ⟨"MissionList", none⟩, ⟨"count", none⟩].flatMap Placeholder.source := by decide
    rw [hformat, tokens_flatMap_source (by decide)]
    rfl
  obtain ⟨-, -, hfits⟩ := fails_composeTraced_iff whole short
  refine ⟨⟨whole, short, hevent, fit⟩, ((hfits hevent fit).2 _ (settled_outOfOrder _ rfl)).2
    (.inr ⟨{}, (), rfl, ?_⟩)⟩
  rw [htokens]
  rfl

/-! ### Values that are too deep -/

/-- Lists within one another, `n` of them around an empty one. -/
def nested : Nat → Value
  | 0 => .list []
  | n + 1 => .list [nested n]

theorem unwritable?_nested (room n : Nat) :
    (nested n).unwritable? room = if room ≤ n then some .deepValue else none := by
  induction n generalizing room with
  | zero => cases room <;> rfl
  | succ n ih =>
    cases room with
    | zero => rfl
    | succ room =>
      rw [nested, Value.unwritable?, Value.unwritableItem?, Value.unwritableItem?, ih,
        Option.or_none]
      simp only [Nat.add_le_add_iff_right]

theorem legible_nested {m n : Nat} (h : n < m) : Json.Legible m (nested n) := by
  induction n generalizing m with
  | zero =>
    cases m with
    | zero => omega
    | succ m => exact .list (List.forall_mem_nil _)
  | succ n ih =>
    cases m with
    | zero => omega
    | succ m => exact .list (List.forall_mem_singleton.2 (ih (by omega)))

theorem joined_nested (n : Nat) : (nested n).joined = nested n := by
  induction n with
  | zero => rfl
  | succ n ih => rw [nested, Value.joined, Value.joinedItems, Value.joinedItems, ih]

/-- A bounty with a field of 986 lists within one another. -/
def deepBounty : Fields :=
  [("event", .text "Bounty"), ("Rewards", nested 985)]

/-- The bounty can be read from a line of the journal, and every question about it is answered. But when
past events have been counted, it cannot be written into the trace, and its message fails. -/
theorem fails_composeTraced_deepBounty :
    let sources := Sources.canned (.ok {}) (.ok (.int 1)) {} []
    let request : Request :=
      { event := some (.ofEntry deepBounty false none), filterOnCommander := false }
    (∃ line, Json.write? (.object deepBounty) = some line ∧
      Json.parse (line ++ "\n") = .ok (.object deepBounty)) ∧
    (sources.CountsWhole ∧ sources.SessionsShort) ∧
    (∃ s', Fails (composeTraced sources request "{count}") () .deepValue s') ∧
    ∀ e, ¬((∃ s', Fails sources.world () e s') ∨
      ∃ world s₁, Returns sources.world () world s₁ ∧
        FirstFault sources (tokenNames (tokens "{count}")) request world (tokens "{count}") s₁ e) := by
  intro sources request
  have whole : sources.CountsWhole := by
    intro criteria s answer s' h
    cases h
    exact ⟨1, rfl⟩
  have short : sources.SessionsShort := by
    intro s counters s' h
    cases h
    exact Nat.pow_pos (by decide)
  have htokens : tokens "{count}" = [⟨⟨"count", none⟩, 0⟩] := by
    have hformat : ("{count}" : Text) = [⟨"count", none⟩].flatMap Placeholder.source := by decide
    rw [hformat, tokens_flatMap_source (by decide)]
    rfl
  have hevent (room : Nat) : request.event.bind (Event.unwritable? room) =
      ((Value.text "Bounty").unwritable? room).or (((nested 985).unwritable? room).or none) := rfl
  refine ⟨?_, ⟨whole, short⟩, ?_, ?_⟩
  · have hnames : deepBounty.map Prod.fst = ["event", "Rewards"].map Text.ofString := rfl
    have hlegible : Json.Legible Json.maxNesting (.object deepBounty) :=
      Json.legible_object hnames (by decide)
        (List.forall_mem_cons.2 ⟨.text _, List.forall_mem_singleton.2 (legible_nested (by decide))⟩)
    obtain ⟨line, hline, -, hparse⟩ := hlegible.parse_line
    refine ⟨line, hline, hparse.trans ?_⟩
    rw [Value.joined, deepBounty, Value.joinedFields, Value.joinedFields, Value.joinedFields, joined_nested]
    rfl
  · rw [exists_fails_composeTraced_iff whole short, hevent, unwritable?_nested]
    have hcount : ∀ criteria, ∃ s',
        Fails ((sources.traced request.event).count criteria) () .deepValue s' := by
      intro criteria
      rw [exists_fails_count_traced, hevent, unwritable?_nested]
      rfl
    obtain ⟨s', hcount⟩ := hcount _
    refine .inr ⟨{}, (), rfl, [], _, [], .count, (), s', htokens, rfl, List.forall_mem_nil _,
      returns_pure.2 ⟨rfl, rfl⟩, fails_silent.2 hcount⟩
  · intro e hsources
    have settled : Settled sources (tokenNames (tokens "{count}")) request fun _ _ => none := by
      constructor
      · intro world q _ s
        cases q <;> exact ⟨(), rfl⟩
      · intro world q e h
        cases h
    have hfails := (fails_compose_iff whole).1.2 hsources
    rcases ((fails_compose_iff whole).2 _ settled).1 hfails with ⟨s', hworld⟩ | ⟨_, _, -, hfirst⟩
    · cases hworld
    · rw [htokens] at hfirst
      cases hfirst

end Message

end JournalHerald
