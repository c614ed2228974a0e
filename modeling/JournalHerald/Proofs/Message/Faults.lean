import JournalHerald.Proofs.Message.Grammar
import JournalHerald.Proofs.Message.Questions

/-!
# When a message fails

Before it is written into a trace, nothing in an event, in the state of the world or in a format can
make a message fail. It fails exactly when the world is not told, or when one of the questions behind
its tokens fails, and then with the failure of the first of them (`fails_compose_iff`).

* `FirstFault` says which token comes upon a failure: its question fails, and the questions of the
  tokens before it have been answered;
* `Settled` is for sources of which it is settled whether they fail, and `fault?` is then the failure
  that a token meets.
-/

namespace JournalHerald.Message

section

variable {σ : Type} (sources : Sources σ) (names : List Text) (request : Request)

/-- One of the tokens is the first to ask its question, which fails. The questions of the tokens in
front of it are answered. -/
def FirstFault (world : World) (ts : List Token) (s : σ) (e : Failure) : Prop :=
  ∃ earlier t later q s₁ s', ts = earlier ++ t :: later ∧
    question? request t.placeholder.key = some q ∧
    (∀ u ∈ earlier, question? request u.placeholder.key ≠ some q) ∧
    Returns (askFor sources names request world [] earlier) s () s₁ ∧
    Fails (ask sources names request world q) s₁ e s'

/-- Each question is always answered, or it always fails in one way. -/
structure Settled (faults : World → Question → Option Failure) : Prop where
  answered : ∀ {world q}, faults world q = none → ∀ s, ∃ s',
    Returns (ask sources names request world q) s () s'
  failing : ∀ {world q e}, faults world q = some e → ∀ s, ∃ s',
    Fails (ask sources names request world q) s e s'

/-- The failure that a token meets if its question is put. -/
def fault? (faults : Question → Option Failure) (t : Token) : Option Failure :=
  (question? request t.placeholder.key).bind faults

variable {sources names request} {world : World}

/-! ### Questions in turn -/

theorem fails_askFor_iff {known : List Question} {ts : List Token} {s s' : σ} {e : Failure} :
    Fails (askFor sources names request world known ts) s e s' ↔
      ∃ earlier t later q s₁, ts = earlier ++ t :: later ∧
        question? request t.placeholder.key = some q ∧ q ∉ known ∧
        (∀ u ∈ earlier, question? request u.placeholder.key ≠ some q) ∧
        Returns (askFor sources names request world known earlier) s () s₁ ∧
        Fails (ask sources names request world q) s₁ e s' := by
  induction ts generalizing known s with
  | nil =>
    constructor
    · intro h
      exact absurd h not_fails_pure
    · rintro ⟨earlier, t, later, q, s₁, hts, -⟩
      simp at hts
  | cons t ts ih =>
    rcases known_or_new request known t with hknown | ⟨r, hr, hnew⟩
    · -- the first token asks nothing
      rw [askFor_of_known hknown, ih]
      constructor
      · rintro ⟨earlier, u, later, q, s₁, rfl, hq, hq', hfirst, hasked, hfails⟩
        refine ⟨t :: earlier, u, later, q, s₁, rfl, hq, hq', ?_, ?_, hfails⟩
        · exact List.forall_mem_cons.2 ⟨fun ht => hq' (hknown q ht), hfirst⟩
        · rw [askFor_of_known hknown]
          exact hasked
      · rintro ⟨earlier, u, later, q, s₁, hts, hq, hq', hfirst, hasked, hfails⟩
        cases earlier with
        | nil =>
          cases hts
          exact absurd (hknown q hq) hq'
        | cons v earlier =>
          cases hts
          rw [askFor_of_known hknown] at hasked
          exact ⟨earlier, u, later, q, s₁, rfl, hq, hq', (List.forall_mem_cons.1 hfirst).2, hasked,
            hfails⟩
    · -- it puts its question
      rw [askFor_of_new hr hnew, fails_bind]
      constructor
      · rintro (hfails | ⟨a, s₂, hanswer, hrest⟩)
        · exact ⟨[], t, ts, r, s, rfl, hr, hnew, by simp, returns_pure.2 ⟨rfl, rfl⟩, hfails⟩
        · obtain ⟨earlier, u, later, q, s₁, rfl, hq, hq', hfirst, hasked, hfails⟩ := ih.1 hrest
          obtain ⟨hne, hq'⟩ := not_or.1 (mt List.mem_cons.2 hq')
          refine ⟨t :: earlier, u, later, q, s₁, rfl, hq, hq', ?_, ?_, hfails⟩
          · exact List.forall_mem_cons.2
              ⟨fun ht => hne (Option.some.inj (ht.symm.trans hr)), hfirst⟩
          · rw [askFor_of_new hr hnew]
            exact returns_bind.2 ⟨a, s₂, hanswer, hasked⟩
      · rintro ⟨earlier, u, later, q, s₁, hts, hq, hq', hfirst, hasked, hfails⟩
        cases earlier with
        | nil =>
          cases hts
          obtain ⟨-, rfl⟩ := returns_pure.1 hasked
          obtain rfl : r = q := Option.some.inj (hr.symm.trans hq)
          exact .inl hfails
        | cons v earlier =>
          cases hts
          obtain ⟨hv, hfirst⟩ := List.forall_mem_cons.1 hfirst
          rw [askFor_of_new hr hnew] at hasked
          obtain ⟨a, s₂, hanswer, hasked⟩ := returns_bind.1 hasked
          have hq'' : q ∉ r :: known := by
            rw [List.mem_cons]
            rintro (rfl | hmem)
            · exact hv hr
            · exact hq' hmem
          exact .inr ⟨a, s₂, hanswer,
            ih.2 ⟨earlier, u, later, q, s₁, rfl, hq, hq'', hfirst, hasked, hfails⟩⟩

theorem exists_fails_askFor_iff {ts : List Token} {s : σ} {e : Failure} :
    (∃ s', Fails (askFor sources names request world [] ts) s e s') ↔
      FirstFault sources names request world ts s e := by
  constructor
  · rintro ⟨s', h⟩
    obtain ⟨earlier, t, later, q, s₁, hts, hq, -, hfirst, hasked, hfails⟩ := fails_askFor_iff.1 h
    exact ⟨earlier, t, later, q, s₁, s', hts, hq, hfirst, hasked, hfails⟩
  · rintro ⟨earlier, t, later, q, s₁, s', hts, hq, hfirst, hasked, hfails⟩
    exact ⟨s', fails_askFor_iff.2
      ⟨earlier, t, later, q, s₁, hts, hq, List.not_mem_nil, hfirst, hasked, hfails⟩⟩

/-- Where it is settled which questions fail, the first token that meets a failure makes the pass
fail with it. -/
theorem Settled.exists_fails_askFor_iff {faults : World → Question → Option Failure}
    (settled : Settled sources names request faults) {known : List Question}
    (hknown : ∀ q ∈ known, faults world q = none) {ts : List Token} {s : σ} {e : Failure} :
    (∃ s', Fails (askFor sources names request world known ts) s e s') ↔
      ts.findSome? (fault? request (faults world)) = some e := by
  induction ts generalizing known s with
  | nil =>
    constructor
    · rintro ⟨s', h⟩
      exact absurd h not_fails_pure
    · intro h
      cases h
  | cons t ts ih =>
    rw [List.findSome?_cons]
    rcases known_or_new request known t with hask | ⟨q, hq, hnew⟩
    · have hfault : fault? request (faults world) t = none := by
        unfold fault?
        cases hq : question? request t.placeholder.key with
        | none => rfl
        | some q => exact hknown q (hask q hq)
      rw [askFor_of_known hask, hfault]
      exact ih hknown
    · have hfault : fault? request (faults world) t = faults world q := by
        rw [fault?, hq, Option.bind_some]
      rw [askFor_of_new hq hnew, hfault]
      cases hfaults : faults world q with
      | some e' =>
        obtain ⟨s₁, hfails⟩ := settled.failing hfaults s
        constructor
        · rintro ⟨s', h⟩
          rcases fails_bind.1 h with h | ⟨a, s₂, h, -⟩
          · exact congrArg some (hfails.unique h)
          · exact absurd hfails h.not_fails
        · rintro ⟨⟩
          exact ⟨s₁, fails_bind.2 (.inl hfails)⟩
      | none =>
        obtain ⟨s₁, hanswer⟩ := settled.answered hfaults s
        have hknown' : ∀ r ∈ q :: known, faults world r = none :=
          List.forall_mem_cons.2 ⟨hfaults, hknown⟩
        rw [← ih hknown' (s := s₁)]
        constructor
        · rintro ⟨s', h⟩
          rcases fails_bind.1 h with h | ⟨a, s₂, h, hrest⟩
          · exact absurd h hanswer.not_fails
          · obtain ⟨-, rfl⟩ := hanswer.unique h
            exact ⟨s', hrest⟩
        · rintro ⟨s', h⟩
          exact ⟨s', fails_bind.2 (.inr ⟨(), s₁, hanswer, h⟩)⟩

end

/-! ### Messages that fail -/

section

variable {σ : Type} {sources : Sources σ} {request : Request} {format : Text} {s : σ} {e : Failure}

/-- A message fails in the same way as the questions behind it. -/
theorem exists_fails_compose_iff (whole : sources.CountsWhole) :
    (∃ s', Fails (compose sources request format) s e s') ↔
      (∃ s', Fails sources.world s e s') ∨
      ∃ world s₁, Returns sources.world s world s₁ ∧ ∃ s',
        Fails (askFor sources (tokenNames (tokens format)) request world [] (tokens format)) s₁
          e s' := by
  have hasked : ∀ s', Fails (compose sources request format) s e s' ↔
      Fails sources.world s e s' ∨ ∃ world s₁, Returns sources.world s world s₁ ∧
        Fails (askFor sources (tokenNames (tokens format)) request world [] (tokens format)) s₁
          e s' := by
    intro s'
    rw [← fails_silent, silent_compose sources request whole, fails_bind]
  simp only [hasked, exists_or]
  constructor
  · rintro (h | ⟨s', world, s₁, hworld, h⟩)
    · exact .inl h
    · exact .inr ⟨world, s₁, hworld, s', h⟩
  · rintro (h | ⟨world, s₁, hworld, s', h⟩)
    · exact .inl h
    · exact .inr ⟨s', world, s₁, hworld, h⟩

/-- **A message fails only by its sources.** It fails if the world is not told, or if the question
behind one of its tokens fails, with the failure of the first such token. Where it is settled which
questions fail, the failure is the first one that a token meets, whatever the sources answer. -/
theorem fails_compose_iff (whole : sources.CountsWhole) :
    ((∃ s', Fails (compose sources request format) s e s') ↔
      (∃ s', Fails sources.world s e s') ∨
      ∃ world s₁, Returns sources.world s world s₁ ∧
        FirstFault sources (tokenNames (tokens format)) request world (tokens format) s₁ e) ∧
    ∀ faults, Settled sources (tokenNames (tokens format)) request faults →
      ((∃ s', Fails (compose sources request format) s e s') ↔
        (∃ s', Fails sources.world s e s') ∨
        ∃ world s₁, Returns sources.world s world s₁ ∧
          (tokens format).findSome? (fault? request (faults world)) = some e) := by
  constructor
  · rw [exists_fails_compose_iff whole]
    simp only [exists_fails_askFor_iff]
  · intro faults settled
    rw [exists_fails_compose_iff whole]
    simp only [settled.exists_fails_askFor_iff (List.forall_mem_nil _)]

end

end JournalHerald.Message
