import JournalHerald.Proofs.Message.Segments
import Mathlib.Data.List.Basic

/-!
# The tokens of a format and its grammar

The scanner goes through a format once from the left, and still it finds every placeholder that the
grammar knows, wherever one stands (`mem_tokens_iff`). The reason is that the opening brace of a
placeholder is its only one (`brace_notMem_body`): two placeholders that begin at different places
have no character in common (`exists_of_append_eq`), so that what has been read never hides the
beginning of another one.

* `Spelled` is the grammar, `StandsAt` says where a text stands in a format;
* `Scans` is what the tokens of a format are, `ListsOnce` what the list of their names is;
* `scans_tokens` is the main result.
-/

namespace JournalHerald.Message

/-! ### The grammar -/

/-- A text is written as a placeholder with a name and perhaps a style: words between braces, with
a colon between them. -/
inductive Spelled : Text → Text → Option Text → Prop where
  | plain {name : Text} : IsWord name →
      Spelled (.char '{' :: (name ++ [.char '}'])) name none
  | styled {name style : Text} : IsWord name → IsWord style →
      Spelled (.char '{' :: (name ++ .char ':' :: (style ++ [.char '}']))) name (some style)

/-- A text stands in a format from a place on. -/
def StandsAt (format : Text) (start : Nat) (t : Text) : Prop :=
  ∃ before after, format = before ++ t ++ after ∧ before.length = start

theorem spelled_iff {source : Text} {p : Placeholder} :
    Spelled source p.name p.style ↔ p.WellFormed ∧ source = p.source := by
  obtain ⟨name, style⟩ := p
  rw [Placeholder.source_eq_cons]
  constructor
  · intro h
    cases h with
    | plain hname => exact ⟨.ofName hname, rfl⟩
    | styled hname hstyle => exact ⟨⟨hname, by rintro _ ⟨⟩; exact hstyle⟩, rfl⟩
  · rintro ⟨hp, rfl⟩
    cases style with
    | none => exact .plain hp.name
    | some s => exact .styled hp.name (hp.style s rfl)

/-! ### Placeholders have no character in common -/

theorem IsWord.notMem {w : Text} (hw : IsWord w) {c : CodePoint} (hc : isLetter c = false) :
    c ∉ w := by
  intro hmem
  rw [hw.2 c hmem] at hc
  cases hc

/-- The brace that opens a placeholder is its only one. -/
theorem brace_notMem_body {p : Placeholder} (hp : p.WellFormed) : .char '{' ∉ p.body := by
  obtain ⟨name, style⟩ := p
  have hletter : isLetter (.char '{') = false := by decide
  have hname := hp.name.notMem hletter
  cases style with
  | none => simpa [Placeholder.body] using hname
  | some s =>
    have hstyle := (hp.style s rfl).notMem hletter
    simpa [Placeholder.body] using ⟨hname, hstyle⟩

/-- Only one placeholder can be read at a place. -/
theorem eq_of_source_append_eq {p q : Placeholder} (hp : p.WellFormed) (hq : q.WellFormed)
    {rest after : Text} (h : p.source ++ rest = q.source ++ after) : p = q ∧ rest = after := by
  rw [Placeholder.source_eq_cons, Placeholder.source_eq_cons, List.cons_append,
    List.cons_append] at h
  have hread := placeholder?_eq_some_iff.2 ⟨hp, (List.cons.inj h).2.symm⟩
  rw [placeholder?_eq_some_iff.2 ⟨hq, rfl⟩] at hread
  cases hread
  exact ⟨rfl, rfl⟩

/-- A placeholder in a text that begins with one is that one, or it stands behind it. -/
theorem exists_of_append_eq {p q : Placeholder} (hp : p.WellFormed) (hq : q.WellFormed)
    {before after rest : Text} (h : before ++ q.source ++ after = p.source ++ rest) :
    (before = [] ∧ q = p) ∨
      ∃ between, before = p.source ++ between ∧ rest = between ++ q.source ++ after := by
  rw [List.append_assoc, List.append_eq_append_iff] at h
  rcases h with ⟨inner, hsource, hinner⟩ | ⟨between, hbefore, hrest⟩
  · cases inner with
    | nil =>
      rw [List.append_nil] at hsource
      exact .inr ⟨[], by simp [hsource], by simpa using hinner.symm⟩
    | cons c inner =>
      -- the second one begins inside the first one, with a brace
      rw [Placeholder.source_eq_cons q] at hinner
      obtain ⟨rfl, -⟩ := List.cons.inj hinner
      cases before with
      | nil =>
        left
        rw [← Placeholder.source_eq_cons, ← List.nil_append (_ :: inner), ← hsource] at hinner
        exact ⟨rfl, (eq_of_source_append_eq hq hp hinner).1⟩
      | cons b before =>
        exfalso
        rw [Placeholder.source_eq_cons, List.cons_append] at hsource
        apply brace_notMem_body hp
        rw [(List.cons.inj hsource).2]
        simp
  · right
    refine ⟨between, hbefore, ?_⟩
    rw [hrest, List.append_assoc]

/-! ### Tokens -/

theorem mem_tokensFrom_iff {start : Nat} {cs : Text} {t : Token} :
    t ∈ tokensFrom start (pieces cs) ↔ t.placeholder.WellFormed ∧
      ∃ before after, cs = before ++ t.placeholder.source ++ after ∧
        t.start = start + before.length := by
  obtain ⟨q, place⟩ := t
  induction cs using pieces_cases generalizing start with
  | nil =>
    have hsource : q.source ≠ [] := by rw [Placeholder.source_eq_cons]; exact List.cons_ne_nil _ _
    rw [pieces, tokensFrom]
    simp [hsource]
  | slot p rest hp ih =>
    rw [pieces_source_append hp, tokensFrom, List.mem_cons, ih]
    constructor
    · rintro (he | ⟨hq, before, after, rfl, hplace⟩)
      · cases he
        exact ⟨hp, [], rest, rfl, rfl⟩
      · refine ⟨hq, p.source ++ before, after, by simp only [List.append_assoc], ?_⟩
        rw [List.length_append, ← Nat.add_assoc]
        exact hplace
    · rintro ⟨hq, before, after, hcs, hplace⟩
      rcases exists_of_append_eq hp hq hcs.symm with ⟨rfl, rfl⟩ | ⟨between, rfl, hrest⟩
      · left
        rw [show place = start from hplace]
      · right
        refine ⟨hq, between, after, hrest, ?_⟩
        rw [List.length_append, ← Nat.add_assoc] at hplace
        exact hplace
  | char c rest hc ih =>
    rw [pieces_char hc, tokensFrom, ih]
    constructor
    · rintro ⟨hq, before, after, rfl, hplace⟩
      refine ⟨hq, c :: before, after, rfl, ?_⟩
      rw [List.length_cons]
      omega
    · rintro ⟨hq, before, after, hcs, hplace⟩
      cases before with
      | nil =>
        -- the character would open a placeholder
        rw [List.nil_append, Placeholder.source_eq_cons, List.cons_append] at hcs
        obtain ⟨rfl, hrest⟩ := List.cons.inj hcs
        have hnone := hc rfl
        rw [placeholder?_eq_some_iff.2 ⟨hq, hrest⟩] at hnone
        cases hnone
      | cons b before =>
        obtain ⟨rfl, hrest⟩ := List.cons.inj hcs
        refine ⟨hq, before, after, hrest, ?_⟩
        rw [List.length_cons] at hplace
        omega

/-- **The tokens of a format are all the placeholders that stand in it.** -/
theorem mem_tokens_iff {format : Text} {t : Token} :
    t ∈ tokens format ↔
      t.placeholder.WellFormed ∧ StandsAt format t.start t.placeholder.source := by
  rw [tokens, mem_tokensFrom_iff]
  simp only [StandsAt, Nat.zero_add, eq_comm]

/-- Placeholders without anything between them. -/
theorem pieces_flatMap_source {ps : List Placeholder} (h : ∀ p ∈ ps, p.WellFormed) :
    pieces (ps.flatMap Placeholder.source) = ps.map .slot := by
  induction ps with
  | nil => simp [pieces]
  | cons p ps ih =>
    obtain ⟨hp, hps⟩ := List.forall_mem_cons.1 h
    rw [List.flatMap_cons, pieces_source_append hp, ih hps, List.map_cons]

/-- Placeholders one after the other are read as they are. -/
theorem tokens_flatMap_source {ps : List Placeholder} (hps : ∀ p ∈ ps, p.WellFormed) :
    tokens (ps.flatMap Placeholder.source) = tokensFrom 0 (ps.map .slot) := by
  rw [tokens, pieces_flatMap_source hps]

theorem Token.length_pos (t : Token) : 0 < t.length := by
  rw [Token.length, Placeholder.source_eq_cons]
  exact Nat.succ_pos _

theorem le_start_of_mem_tokensFrom {start : Nat} {ps : List Piece} {t : Token}
    (h : t ∈ tokensFrom start ps) : start ≤ t.start := by
  induction ps generalizing start with
  | nil => cases h
  | cons piece ps ih =>
    cases piece with
    | char c =>
      have := ih h
      omega
    | slot p =>
      rcases List.mem_cons.1 h with rfl | h
      · exact Nat.le_refl _
      · have := ih h
        omega

/-- Each token ends before the next one begins. -/
theorem pairwise_tokensFrom (start : Nat) (ps : List Piece) :
    (tokensFrom start ps).Pairwise fun a b => a.stop ≤ b.start := by
  induction ps generalizing start with
  | nil => exact .nil
  | cons piece ps ih =>
    cases piece with
    | char c => exact ih (start + 1)
    | slot p => exact .cons (fun t ht => le_start_of_mem_tokensFrom ht) (ih _)

/-! ### The names in a format -/

theorem mem_distinctFrom {name : Text} {seen names : List Text} :
    name ∈ distinctFrom seen names ↔ name ∈ names ∧ name ∉ seen := by
  induction names generalizing seen with
  | nil => simp [distinctFrom]
  | cons first names ih =>
    rw [distinctFrom]
    by_cases hseen : first ∈ seen
    · rw [if_pos (List.contains_iff_mem.2 hseen), ih]
      constructor
      · exact fun h => ⟨List.mem_cons_of_mem _ h.1, h.2⟩
      · rintro ⟨hmem, hnew⟩
        rcases List.mem_cons.1 hmem with rfl | hmem
        · exact absurd hseen hnew
        · exact ⟨hmem, hnew⟩
    · rw [if_neg (mt List.contains_iff_mem.1 hseen), List.mem_cons, ih]
      by_cases he : name = first
      · subst he
        simp [hseen]
      · simp [he]

/-- A list holds each member of another one once, in the order in which they first occur there. -/
structure ListsOnce (all once : List Text) : Prop where
  nodup : once.Nodup
  mem_iff : ∀ name, name ∈ once ↔ name ∈ all
  order : once.Pairwise fun a b => all.idxOf a < all.idxOf b

theorem nodup_distinctFrom (seen names : List Text) : (distinctFrom seen names).Nodup := by
  induction names generalizing seen with
  | nil => exact List.nodup_nil
  | cons first names ih =>
    rw [distinctFrom]
    by_cases hseen : seen.contains first = true
    · rw [if_pos hseen]
      exact ih seen
    · rw [if_neg hseen, List.nodup_cons]
      refine ⟨fun h => (mem_distinctFrom.1 h).2 (List.mem_cons_self ..), ih _⟩

theorem pairwise_idxOf_distinctFrom (seen names : List Text) :
    (distinctFrom seen names).Pairwise fun a b => names.idxOf a < names.idxOf b := by
  induction names generalizing seen with
  | nil => exact .nil
  | cons first names ih =>
    -- behind the first name all places are one further
    have hshift : ∀ seen, first ∈ seen → (distinctFrom seen names).Pairwise fun a b =>
        (first :: names).idxOf a < (first :: names).idxOf b := by
      intro seen hfirst
      refine (ih seen).imp_of_mem fun {a b} ha hb hab => ?_
      have hne : ∀ c ∈ distinctFrom seen names, first ≠ c := by
        rintro _ hc rfl
        exact (mem_distinctFrom.1 hc).2 hfirst
      rw [List.idxOf_cons_ne _ (hne a ha), List.idxOf_cons_ne _ (hne b hb)]
      exact Nat.succ_lt_succ hab
    rw [distinctFrom]
    by_cases hseen : seen.contains first = true
    · rw [if_pos hseen]
      exact hshift seen (List.contains_iff_mem.1 hseen)
    · rw [if_neg hseen]
      refine .cons (fun b hb => ?_) (hshift _ (List.mem_cons_self ..))
      have hne : first ≠ b := by
        rintro rfl
        exact (mem_distinctFrom.1 hb).2 (List.mem_cons_self ..)
      rw [List.idxOf_cons_self, List.idxOf_cons_ne _ hne]
      exact Nat.succ_pos _

theorem listsOnce_tokenNames (ts : List Token) :
    ListsOnce (ts.map fun t => t.placeholder.key) (tokenNames ts) where
  nodup := nodup_distinctFrom _ _
  mem_iff := fun name => by rw [tokenNames, mem_distinctFrom]; simp
  order := pairwise_idxOf_distinctFrom _ _

/-! ### Formats against their tokens -/

/-- Tokens are what the grammar finds in a format. -/
structure Scans (format : Text) (ts : List Token) : Prop where
  /-- They span exactly the texts in the format that the grammar knows. -/
  spans : ∀ start length, (∃ t ∈ ts, t.start = start ∧ t.length = length) ↔
    ∃ source name style, Spelled source name style ∧ StandsAt format start source ∧
      source.length = length
  /-- The name and the style of each token are those that are written where it stands. -/
  spelled : ∀ t ∈ ts, ∃ source, Spelled source t.placeholder.name t.placeholder.style ∧
    StandsAt format t.start source ∧ source.length = t.length
  increasing : ts.Pairwise fun a b => a.start < b.start
  disjoint : ts.Pairwise fun a b => a.stop ≤ b.start

/-- **The scanner finds exactly what the grammar knows,** and the list of names holds the name of
every token in lower case once, in the order of their first occurrences. -/
theorem scans_tokens (format : Text) :
    Scans format (tokens format) ∧
      ListsOnce ((tokens format).map fun t => Text.lowercase t.placeholder.name)
        (tokenNames (tokens format)) := by
  have hspelled : ∀ t ∈ tokens format, ∃ source,
      Spelled source t.placeholder.name t.placeholder.style ∧ StandsAt format t.start source ∧
        source.length = t.length := by
    intro t ht
    obtain ⟨hp, hstands⟩ := mem_tokens_iff.1 ht
    exact ⟨_, spelled_iff.2 ⟨hp, rfl⟩, hstands, rfl⟩
  have hdisjoint : (tokens format).Pairwise fun a b => a.stop ≤ b.start := pairwise_tokensFrom 0 _
  refine ⟨⟨fun start length => ⟨?_, ?_⟩, hspelled, ?_, hdisjoint⟩, listsOnce_tokenNames _⟩
  · rintro ⟨t, ht, rfl, rfl⟩
    obtain ⟨source, hsource⟩ := hspelled t ht
    exact ⟨source, _, _, hsource⟩
  · rintro ⟨source, name, style, hsource, hstands, rfl⟩
    obtain ⟨hp, rfl⟩ := spelled_iff (p := ⟨name, style⟩).1 hsource
    exact ⟨⟨⟨name, style⟩, start⟩, mem_tokens_iff.2 ⟨hp, hstands⟩, rfl, rfl⟩
  · refine hdisjoint.imp fun {a b} hab => ?_
    have hpos := a.length_pos
    have hstop : a.stop = a.start + a.length := rfl
    omega

end JournalHerald.Message
