import JournalHerald.Proofs.Message.Pass

/-!
# The questions behind a message

Apart from the state of the world, a message asks its sources for three things at most: a count, the
play time and the open missions. Which of them it asks for, and in which order, is told by the names
in its format alone: if the message itself is left out, composing it amounts to asking for the world
and then the questions of its tokens in turn, none of them twice (`silent_compose`).

* `question?` is the question behind a name, `ask` puts it to its source;
* `askFor` asks the questions of tokens in turn.
-/

namespace JournalHerald.Message

/-! ### Actions that fail -/

section Fails

variable {σ α β : Type}

/-- The action fails from the state `s`, in the state `s'`. -/
def Fails (x : Action σ α) (s : σ) (e : Failure) (s' : σ) : Prop :=
  x.run.run s = (.error e, s')

theorem not_fails_pure {a : α} {s s' : σ} {e : Failure} : ¬Fails (pure a : Action σ α) s e s' := by
  intro h
  have hrun : (Except.ok a, s) = (Except.error e, s') := h
  cases hrun

theorem Returns.not_fails {x : Action σ α} {s s' t : σ} {a : α} {e : Failure}
    (h : Returns x s a t) : ¬Fails x s e s' := by
  intro hfails
  unfold Fails at hfails
  rw [show x.run.run s = (.ok a, t) from h] at hfails
  cases hfails

/-- An action has one outcome from a state. -/
theorem Returns.unique {x : Action σ α} {s s' t : σ} {a b : α} (h : Returns x s a s')
    (h' : Returns x s b t) : a = b ∧ s' = t := by
  unfold Returns at h h'
  rw [h] at h'
  cases h'
  exact ⟨rfl, rfl⟩

theorem Fails.unique {x : Action σ α} {s s' t : σ} {e e' : Failure} (h : Fails x s e s')
    (h' : Fails x s e' t) : e = e' := by
  unfold Fails at h h'
  rw [h] at h'
  cases h'
  rfl

theorem fails_bind {x : Action σ α} {f : α → Action σ β} {s s' : σ} {e : Failure} :
    Fails (x >>= f) s e s' ↔ Fails x s e s' ∨ ∃ a t, Returns x s a t ∧ Fails (f a) t e s' := by
  unfold Fails Returns
  rw [run_bind]
  rcases hx : x.run.run s with ⟨e' | a, t⟩
  · show (Except.error e', t) = (Except.error e, s') ↔ _
    constructor
    · exact fun h => .inl (by cases h; rfl)
    · rintro (h | ⟨b, u, h, -⟩)
      · cases h; rfl
      · cases h
  · constructor
    · exact fun h => .inr ⟨a, t, rfl, h⟩
    · rintro (h | ⟨b, u, h, hf⟩)
      · cases h
      · cases h
        exact hf

/-- Only what follows an answer matters. -/
theorem bind_congr_of_returns {x : Action σ α} {f g : α → Action σ β}
    (h : ∀ s a t, Returns x s a t → f a = g a) : x >>= f = x >>= g := by
  funext s
  show (x >>= f).run.run s = (x >>= g).run.run s
  rw [run_bind, run_bind]
  rcases hx : x.run.run s with ⟨e | a, t⟩
  · rfl
  · show (f a).run.run t = (g a).run.run t
    rw [h s a t hx]

/-- An action of which only the effect matters. -/
def silent (x : Action σ α) : Action σ Unit := do
  let _ ← x
  return ()

theorem silent_bind (x : Action σ α) (f : α → Action σ β) :
    silent (x >>= f) = x >>= fun a => silent (f a) := by
  unfold silent
  rw [bind_assoc]

theorem silent_pure (a : α) : silent (pure a : Action σ α) = pure () := by
  unfold silent
  rw [pure_bind]

theorem fails_silent {x : Action σ α} {s s' : σ} {e : Failure} :
    Fails (silent x) s e s' ↔ Fails x s e s' := by
  unfold silent
  rw [fails_bind]
  constructor
  · rintro (h | ⟨a, t, -, h⟩)
    · exact h
    · exact absurd h not_fails_pure
  · exact .inl

end Fails

/-! ### Questions -/

/-- What a message may have to ask its sources, apart from the state of the world. -/
inductive Question where
  | count | counters | missions
  deriving DecidableEq, Repr

/-- The question behind a name, if it takes one to find the text for the name. Without an event there
is nothing to count. -/
def question? (request : Request) (key : Text) : Option Question :=
  if key = "count" ∨ key = "ordinalcount" then request.event.map fun _ => .count
  else if key = "missionlist" then some .missions
  else (CounterName.ofName? key).map fun _ => .counters

section

variable {request : Request} {key : Text}

theorem question?_of_number (hkey : key = "count" ∨ key = "ordinalcount") :
    question? request key = request.event.map fun _ => .count :=
  if_pos hkey

theorem question?_missionList : question? request "missionlist" = some .missions := by
  rw [question?, if_neg (by decide), if_pos rfl]

theorem question?_of_ne (hcount : key ≠ "count") (hordinal : key ≠ "ordinalcount")
    (hlist : key ≠ "missionlist") :
    question? request key = (CounterName.ofName? key).map fun _ => .counters := by
  rw [question?, if_neg (not_or.2 ⟨hcount, hordinal⟩), if_neg hlist]

end

/-- The answer to a question is known. -/
def Memo.Knows (memo : Memo) : Question → Prop
  | .count => memo.count.isSome
  | .counters => memo.counters.isSome
  | .missions => memo.summary.isSome

/-- Whenever the count is answered, the answer is a whole number. -/
def Sources.CountsWhole {σ : Type} (sources : Sources σ) : Prop :=
  ∀ criteria s answer s', Returns (sources.count criteria) s answer s' →
    ∃ n, answer.int? = some n

theorem shownCount_of_int? {answer : Value} {n : Int} (h : answer.int? = some n) :
    shownCount answer = .ok (max n 0) := by
  cases answer with
  | int i => cases h; rfl
  | bool b => cases h; rfl
  | _ => cases h

section

variable {σ β : Type} (sources : Sources σ) (names : List Text) (request : Request) (world : World)

/-- Put a question to its source. -/
def ask : Question → Action σ Unit
  | .count =>
    match request.event with
    | none => pure ()
    | some event =>
      silent (sources.count (Criteria.forMessage names event world request.filterOnCommander))
  | .counters => silent sources.counters
  | .missions => silent sources.missions

/-- Ask the questions of tokens in turn, except for those that have been answered. -/
def askFor (known : List Question) : List Token → Action σ Unit
  | [] => pure ()
  | t :: ts =>
    match question? request t.placeholder.key with
    | none => askFor known ts
    | some q =>
      if q ∈ known then askFor known ts
      else do
        ask sources names request world q
        askFor (q :: known) ts

variable {sources names request world} in
theorem askFor_of_known {known : List Question} {t : Token}
    (h : ∀ q, question? request t.placeholder.key = some q → q ∈ known) (ts : List Token) :
    askFor sources names request world known (t :: ts) =
      askFor sources names request world known ts := by
  rw [askFor]
  split
  · rfl
  · next q hq => exact if_pos (h q hq)

variable {sources names request world} in
theorem askFor_of_new {known : List Question} {t : Token} {q : Question}
    (hq : question? request t.placeholder.key = some q) (hnew : q ∉ known) (ts : List Token) :
    askFor sources names request world known (t :: ts) =
      ask sources names request world q >>= fun _ =>
        askFor sources names request world (q :: known) ts := by
  rw [askFor]
  simp only [hq, if_neg hnew]

/-- Either the question of the first token has been answered, if it has one, or it is put now. -/
theorem known_or_new (request : Request) (known : List Question) (t : Token) :
    (∀ q, question? request t.placeholder.key = some q → q ∈ known) ∨
      ∃ q, question? request t.placeholder.key = some q ∧ q ∉ known := by
  by_cases h : ∃ q, question? request t.placeholder.key = some q ∧ q ∉ known
  · exact .inr h
  · left
    intro q hq
    by_contra hnew
    exact h ⟨q, hq, hnew⟩

/-! ### Lookups by their questions -/

variable {memo : Memo} {c : Action σ β}

/-- A lookup asks nothing whose answer is known. -/
theorem resolve_of_known {key : Text} (h : ∀ q, question? request key = some q → memo.Knows q) :
    ∃ text, resolve sources names request world memo key = pure (text, memo) := by
  have hcountFor : (request.event.isSome → memo.count.isSome) →
      ∃ n, countFor sources names request world memo = pure (n, memo) := by
    intro hknown
    unfold countFor
    cases hevent : request.event with
    | none => exact ⟨none, rfl⟩
    | some event =>
      obtain ⟨n, hn⟩ := Option.isSome_iff_exists.1 (hknown (by rw [hevent]; rfl))
      rw [hn]
      exact ⟨some n, rfl⟩
  have hcount : key = "count" ∨ key = "ordinalcount" →
      request.event.isSome → memo.count.isSome := by
    intro hkey hsome
    obtain ⟨event, hevent⟩ := Option.isSome_iff_exists.1 hsome
    exact h .count (by rw [question?_of_number hkey, hevent]; rfl)
  unfold resolve
  split
  · next hkey =>
    obtain ⟨n, hn⟩ := hcountFor (hcount (.inl hkey))
    rw [hn, pure_bind]
    exact ⟨_, rfl⟩
  split
  · next hkey =>
    obtain ⟨n, hn⟩ := hcountFor (hcount (.inr hkey))
    rw [hn, pure_bind]
    exact ⟨_, rfl⟩
  split
  · next hne hne' hkey =>
    obtain ⟨t, ht⟩ := Option.isSome_iff_exists.1
      (h .missions (by rw [hkey, question?_missionList]))
    unfold summaryFor
    rw [ht, pure_bind]
    exact ⟨_, rfl⟩
  · next hne hne' hkey =>
    cases hcounter : CounterName.ofName? key with
    | none => exact ⟨_, rfl⟩
    | some counter =>
      obtain ⟨a, ha⟩ := Option.isSome_iff_exists.1 (h .counters
        (by rw [question?_of_ne hne hne' hkey, hcounter]; rfl))
      unfold countersFor
      rw [ha]
      exact ⟨_, rfl⟩

theorem countFor_bind (whole : sources.CountsWhole) {event : Event}
    (hevent : request.event = some event) (hnew : memo.count = none) {f : Option Int × Memo → Action σ β}
    (hf : ∀ n, f (some n, { memo with count := some n }) = c) :
    countFor sources names request world memo >>= f =
      ask sources names request world .count >>= fun _ => c := by
  unfold countFor ask
  simp only [hevent, hnew, silent, bind_assoc, pure_bind]
  apply bind_congr_of_returns
  intro s answer s' hanswer
  obtain ⟨n, hn⟩ := whole _ s answer s' hanswer
  rw [shownCount_of_int? hn]
  exact hf _

theorem summaryFor_bind (hnew : memo.summary = none) {f : Text × Memo → Action σ β}
    (hf : ∀ t, f (t, { memo with summary := some t }) = c) :
    summaryFor sources names request world memo >>= f =
      ask sources names request world .missions >>= fun _ => c := by
  unfold summaryFor ask
  simp only [hnew, silent, bind_assoc, pure_bind, hf]

theorem countersFor_bind (hnew : memo.counters = none) {f : Counters × Memo → Action σ β}
    (hf : ∀ a, f (a, { memo with counters := some a }) = c) :
    countersFor sources memo >>= f = ask sources names request world .counters >>= fun _ => c := by
  unfold countersFor ask
  simp only [hnew, silent, bind_assoc, pure_bind, hf]

/-- Any other lookup asks the question behind its name, and then the answer is known. -/
theorem resolve_bind_of_new (whole : sources.CountsWhole) {key : Text} {q : Question}
    (hq : question? request key = some q) (hnew : ¬memo.Knows q) {k : Memo → Action σ β}
    (hk : ∀ memo' : Memo, (∀ r, memo'.Knows r ↔ r = q ∨ memo.Knows r) → k memo' = c) :
    (resolve sources names request world memo key >>= fun x => k x.2) =
      ask sources names request world q >>= fun _ => c := by
  unfold resolve
  by_cases hcount : key = "count" ∨ key = "ordinalcount"
  · rw [question?_of_number hcount] at hq
    obtain ⟨event, hevent, rfl⟩ := Option.map_eq_some_iff.1 hq
    have hnone : memo.count = none := Option.not_isSome_iff_eq_none.1 hnew
    have hc : ∀ n, k { memo with count := some n } = c := by
      intro n
      apply hk
      intro r
      cases r <;> simp [Memo.Knows]
    -- the two names differ only in what they show of the number
    by_cases hkey : key = "count"
    · rw [if_pos hkey, bind_assoc]
      apply countFor_bind sources names request world whole hevent hnone
      intro n
      rw [pure_bind]
      exact hc n
    · rw [if_neg hkey, if_pos (hcount.resolve_left hkey), bind_assoc]
      apply countFor_bind sources names request world whole hevent hnone
      intro n
      rw [pure_bind]
      exact hc n
  obtain ⟨hne, hne'⟩ := not_or.1 hcount
  rw [if_neg hne, if_neg hne']
  by_cases hlist : key = "missionlist"
  · rw [hlist, question?_missionList] at hq
    cases hq
    rw [if_pos hlist, bind_assoc]
    apply summaryFor_bind sources names request world (Option.not_isSome_iff_eq_none.1 hnew)
    intro t
    rw [pure_bind]
    apply hk
    intro r
    cases r <;> simp [Memo.Knows]
  · rw [question?_of_ne hne hne' hlist] at hq
    obtain ⟨counter, hcounter, rfl⟩ := Option.map_eq_some_iff.1 hq
    rw [if_neg hlist]
    simp only [hcounter]
    rw [bind_assoc]
    apply countersFor_bind sources names request world (Option.not_isSome_iff_eq_none.1 hnew)
    intro a
    rw [pure_bind]
    apply hk
    intro r
    cases r <;> simp [Memo.Knows]

/-! ### The questions of a message -/

/-- Without the message itself, only the memo goes from one token to the next. -/
theorem silent_composeFrom_cons (format : Text) (index : Nat) (t : Token) (ts : List Token) :
    silent (composeFrom (resolve sources names request world) request format memo index (t :: ts)) =
      resolve sources names request world memo t.placeholder.key >>= fun x =>
        silent (composeFrom (resolve sources names request world) request format x.2 t.stop ts) := by
  rw [composeFrom, silent_bind]
  congr 1
  funext x
  rcases x with ⟨text, memo'⟩
  exact silent_bind _ _

/-- Without the message itself, the pass over tokens asks their questions in turn. -/
theorem silent_composeFrom (whole : sources.CountsWhole) (format : Text) {known : List Question}
    (hknown : ∀ q, memo.Knows q ↔ q ∈ known) (index : Nat) (ts : List Token) :
    silent (composeFrom (resolve sources names request world) request format memo index ts) =
      askFor sources names request world known ts := by
  induction ts generalizing memo known index with
  | nil => exact silent_pure _
  | cons t ts ih =>
    rw [silent_composeFrom_cons]
    rcases known_or_new request known t with hmem | ⟨q, hq, hnew⟩
    · have hknows : ∀ q, question? request t.placeholder.key = some q → memo.Knows q :=
        fun q hq => (hknown q).2 (hmem q hq)
      obtain ⟨text, htext⟩ := resolve_of_known sources names request world hknows
      rw [askFor_of_known hmem, htext, pure_bind]
      exact ih hknown t.stop
    · rw [askFor_of_new hq hnew]
      apply resolve_bind_of_new sources names request world whole hq (mt (hknown q).1 hnew)
        (k := fun memo' => silent
          (composeFrom (resolve sources names request world) request format memo' t.stop ts))
      intro memo' hmemo'
      apply ih
      intro r
      rw [hmemo', hknown, List.mem_cons]

/-- **Without the message itself, to compose it is to ask for the world and then the questions of its
tokens in turn.** -/
theorem silent_compose (whole : sources.CountsWhole) (format : Text) :
    silent (compose sources request format) = sources.world >>= fun world =>
      askFor sources (tokenNames (tokens format)) request world [] (tokens format) := by
  unfold compose
  rw [silent_bind]
  congr 1
  funext world
  apply silent_composeFrom sources _ request world whole format
  intro q
  cases q <;> simp [Memo.Knows]

end

end JournalHerald.Message
