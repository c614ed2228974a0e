import Mathlib.Data.List.TakeWhile
import JournalHerald.Json.Reader

/-!
# Texts past the limits of the reader

A text can be refused for its size rather than for its grammar (`BreaksLimit`). Only a text that has more
digits in a row than a whole number may have, or more opening brackets than there may be lists and objects
around a value, is refused so (`BreaksLimit.exceeds`). A short text is none of these.

Every part of the reader leaves an end of the text that it is given, and refuses it for its size only if
that is exceeded (`Reads`). This is put together part by part in the order of the reader.
-/

namespace JournalHerald.Json

/-- The text breaks a limit before it breaks the grammar: it has a number of too many digits, or lists and
objects too deep within one another. -/
def BreaksLimit (t : Text) : Prop :=
  ∃ error, parse t = .error error ∧ error.fault.isSyntax = false

/-- The character opens a list or an object. -/
def isOpening (c : CodePoint) : Bool :=
  c == '[' || c == '{'

/-- The text has more digits in a row than a whole number may have, or more than so many brackets are
opened in it. -/
def Exceeds (nesting : Nat) (t : Text) : Prop :=
  (∃ ds, ds <:+: t ∧ maxDigits < ds.length ∧ ∀ c ∈ ds, Text.isAsciiDigit c = true) ∨
    nesting < t.countP isOpening

/-- A text that is no longer than lists and objects may be deep exceeds nothing. -/
theorem not_exceeds_of_length_le {t : Text} (h : t.length ≤ maxNesting) : ¬Exceeds maxNesting t := by
  rintro (⟨ds, hds, hlong, -⟩ | hdeep)
  · exact absurd (hlong.trans_le (hds.length_le.trans h)) (by decide)
  · exact absurd (hdeep.trans_le List.countP_le_length) (by omega)

theorem Exceeds.of_suffix {nesting : Nat} {s t : Text} (h : Exceeds nesting s) (hs : s <:+ t) :
    Exceeds nesting t := by
  obtain ⟨ds, hds, hlong⟩ | hdeep := h
  · exact .inl ⟨ds, hds.trans hs.isInfix, hlong⟩
  · exact .inr (Nat.lt_of_lt_of_le hdeep (hs.sublist.countP_le))

/-- What is read from a text leaves an end of it, and is refused for its size only if that is exceeded. -/
structure Reads {α : Type} (nesting : Nat) (t : Text) (r : Except ReadError (α × Text)) : Prop where
  suffix : ∀ a rest, r = .ok (a, rest) → rest <:+ t
  exceeds : ∀ e, r = .error e → e.fault.isSyntax = false → Exceeds nesting t

namespace Reads

variable {α β : Type} {n : Nat} {s t rest : Text} {r : Except ReadError (α × Text)}

theorem ok (a : α) (h : rest <:+ t) : Reads n t (.ok (a, rest)) where
  suffix := by
    rintro a rest ⟨⟩
    exact h
  exceeds := fun _ hfail => nomatch hfail

theorem failAt {fault : Fault} (h : fault.isSyntax = true) (rest : Text) :
    Reads n t (failAt fault rest : Except ReadError (α × Text)) where
  suffix := fun _ _ hok => nomatch hok
  exceeds := by
    rintro e ⟨⟩ hsyntax
    exact absurd h (Bool.eq_false_iff.1 hsyntax)

theorem failAt_of_exceeds (h : Exceeds n t) (fault : Fault) (rest : Text) :
    Reads n t (Json.failAt fault rest : Except ReadError (α × Text)) where
  suffix := fun _ _ hok => nomatch hok
  exceeds := fun _ _ _ => h

theorem of_suffix (h : Reads n s r) (hs : s <:+ t) : Reads n t r where
  suffix := fun a rest hr => (h.suffix a rest hr).trans hs
  exceeds := fun e hr he => (h.exceeds e hr he).of_suffix hs

theorem bind {f : α × Text → Except ReadError (β × Text)} (h : Reads n t r)
    (hf : ∀ a rest, rest <:+ t → Reads n t (f (a, rest))) : Reads n t (r >>= f) := by
  cases hr : r with
  | error e =>
    refine ⟨fun _ _ hok => (nomatch hok), fun e' hfail => ?_⟩
    cases hfail
    exact h.exceeds e hr
  | ok p => exact hf p.1 p.2 (h.suffix _ _ hr)

end Reads

section

variable {t rest : Text} {nesting : Nat}

theorem skipSpace_suffix (t : Text) : skipSpace t <:+ t :=
  List.dropWhile_suffix _

theorem suffix_ite {s s' : Text} {p : Prop} [Decidable p] (h : s <:+ t) (h' : s' <:+ t) :
    (if p then s else s') <:+ t := by
  split
  · exact h
  · exact h'

/-- What remains behind the first character of an end of a text. -/
theorem suffix_of_eq_cons {s : Text} {c : CodePoint} (h : s = c :: rest) (hs : s <:+ t) : rest <:+ t := by
  rw [h] at hs
  exact (List.suffix_cons c rest).trans hs

/-! ### Strings -/

theorem hex4?_suffix {value : Nat} (h : hex4? t = some (value, rest)) : rest <:+ t := by
  unfold hex4? at h
  split at h
  · next a b c d e more =>
    simp only [Option.bind_eq_bind, Option.bind_eq_some_iff, Option.pure_def, Option.some.injEq,
      Prod.mk.injEq] at h
    obtain ⟨_, -, _, -, _, -, _, -, -, rfl⟩ := h
    exact ⟨[a, b, c, d], rfl⟩
  · cases h

theorem reads_readCodePoint (t : Text) : Reads nesting t (readCodePoint t) := by
  unfold readCodePoint
  split
  · exact .failAt rfl _
  · next value rest hvalue =>
    have hrest : rest <:+ t := (hex4?_suffix hvalue).trans (List.drop_suffix 1 t)
    split
    · split
      · split
        · exact .failAt rfl _
        · next hsecond =>
          split
          · exact .ok _ ((hex4?_suffix hsecond).trans (((List.suffix_cons _ _).trans (List.suffix_cons _ _)).trans hrest))
          · exact .ok _ hrest
      · exact .ok _ hrest
    · exact .ok _ hrest

theorem reads_readEscape (opening t : Text) : Reads nesting t (readEscape opening t) := by
  unfold readEscape
  split
  · exact .failAt rfl _
  · next rest hrest => exact (reads_readCodePoint _).of_suffix (hrest ▸ List.drop_suffix 1 t)
  · next c rest _ hrest =>
    split
    · exact .ok _ (suffix_of_eq_cons hrest (List.drop_suffix 1 t))
    · exact .failAt rfl _

theorem reads_readChars (opening : Text) (n : Nat) (t : Text) : Reads nesting t (readChars opening n t) := by
  induction n generalizing t with
  | zero => exact .failAt rfl _
  | succ n ih =>
    have hdrop : t.dropWhile isPlain <:+ t := List.dropWhile_suffix _
    rw [readChars]
    dsimp only
    split
    · exact .failAt rfl _
    · next rest hrest => exact .ok _ (suffix_of_eq_cons hrest hdrop)
    · next rest hrest =>
      refine ((reads_readEscape opening _).of_suffix (hrest ▸ hdrop)).bind fun c rest hc => ?_
      exact ((ih rest).of_suffix hc).bind fun more rest hmore => .ok _ hmore
    · exact .failAt rfl _

theorem reads_readString (bound : Nat) (t : Text) : Reads nesting t (readString bound t) :=
  (reads_readChars t bound (t.drop 1)).of_suffix (List.drop_suffix 1 t)

/-! ### Numbers -/

theorem wholePart?_eq_some {whole : Text} (h : wholePart? t = some (whole, rest)) :
    whole ++ rest = t ∧ ∀ c ∈ whole, Text.isAsciiDigit c = true := by
  unfold wholePart? at h
  split at h
  · cases h
    exact ⟨rfl, by decide⟩
  · split at h
    · cases h
      exact ⟨List.takeWhile_append_dropWhile, fun c => List.mem_takeWhile_imp⟩
    · cases h
  · cases h

theorem fractionPart_suffix (t : Text) : (fractionPart t).2 <:+ t := by
  unfold fractionPart
  split
  · split
    · exact List.suffix_rfl
    · exact (List.dropWhile_suffix _).trans (List.suffix_cons _ _)
  · exact List.suffix_rfl

theorem exponentPart_suffix (t : Text) : (exponentPart t).2 <:+ t := by
  unfold exponentPart
  split
  · next c rest =>
    split
    · dsimp only
      rw [apply_ite Prod.snd]
      have hbehind := List.suffix_cons c rest
      exact suffix_ite List.suffix_rfl ((List.dropWhile_suffix _).trans
        (suffix_ite ((List.drop_suffix 1 rest).trans hbehind) hbehind))
    · exact List.suffix_rfl
  · exact List.suffix_rfl

theorem reads_readNumber (t : Text) : Reads nesting t (readNumber t) := by
  unfold readNumber
  dsimp only
  split
  · exact .failAt rfl _
  · next whole rest hwhole =>
    obtain ⟨happend, hdigits⟩ := wholePart?_eq_some hwhole
    have hunsigned : whole ++ rest <:+ t := by
      rw [happend]
      exact suffix_ite (List.drop_suffix 1 t) List.suffix_rfl
    have hrest : (exponentPart (fractionPart rest).2).2 <:+ t :=
      ((exponentPart_suffix _).trans (fractionPart_suffix rest)).trans
        ((List.suffix_append whole rest).trans hunsigned)
    split
    · split
      · next hlong =>
        have hinfix : whole <:+: t := (List.prefix_append whole rest).isInfix.trans hunsigned.isInfix
        exact .failAt_of_exceeds (.inl ⟨whole, hinfix, hlong, hdigits⟩) _ _
      · exact .ok _ hrest
    · exact .ok _ hrest

/-! ### Values -/

theorem after?_suffix {w : Text} (h : after? w t = some rest) : rest <:+ t := by
  fun_induction after? w t with
  | case1 =>
    cases h
    exact List.suffix_rfl
  | case2 => cases h
  | case3 w ws t ih => exact (ih h).trans (List.suffix_cons _ _)
  | case4 => cases h

theorem reads_readScalar (t : Text) : Reads nesting t (readScalar t) := by
  unfold readScalar
  split
  · next v rest hword =>
    obtain ⟨w, -, hw⟩ := List.exists_of_findSome?_eq_some hword
    obtain ⟨rest', hafter, hrest⟩ := Option.map_eq_some_iff.1 hw
    cases hrest
    exact .ok _ (after?_suffix hafter)
  · exact reads_readNumber t

variable {item : Text → Except ReadError (Value × Text)}

theorem reads_readItems (hitem : ∀ t, Reads nesting t (item t)) (n : Nat) (t : Text) :
    Reads nesting t (readItems item n t) := by
  induction n generalizing t with
  | zero => exact .failAt rfl _
  | succ n ih =>
    rw [readItems]
    refine (hitem t).bind fun v rest hv => ?_
    have hspace := (skipSpace_suffix rest).trans hv
    dsimp only
    split
    · next heq => exact .ok _ (suffix_of_eq_cons heq hspace)
    · next more heq =>
      have hmore : skipSpace more <:+ t :=
        (skipSpace_suffix more).trans (suffix_of_eq_cons heq hspace)
      exact ((ih _).of_suffix hmore).bind fun vs rest hvs => .ok _ hvs
    · exact .failAt rfl _

theorem reads_readFields (hitem : ∀ t, Reads nesting t (item t)) (bound : Nat) (fields : Fields) (n : Nat)
    (t : Text) : Reads nesting t (readFields item bound fields n t) := by
  induction n generalizing fields t with
  | zero => exact .failAt rfl _
  | succ n ih =>
    unfold readFields
    split
    · refine (reads_readString bound _).bind fun name rest hname => ?_
      have hcolon := (skipSpace_suffix rest).trans hname
      dsimp only
      split
      · next more heq =>
        have hvalue := (skipSpace_suffix more).trans (suffix_of_eq_cons heq hcolon)
        refine ((hitem _).of_suffix hvalue).bind fun v rest hv => ?_
        have hspace := (skipSpace_suffix rest).trans hv
        dsimp only
        split
        · next heq => exact .ok _ (suffix_of_eq_cons heq hspace)
        · next more heq =>
          have hmore := (skipSpace_suffix more).trans (suffix_of_eq_cons heq hspace)
          exact (ih _ _).of_suffix hmore
        · exact .failAt rfl _
      · exact .failAt rfl _
    · exact .failAt rfl _

/-- A bracket behind which one list or object less is accepted. -/
theorem Reads.opening {α : Type} {r : Except ReadError (α × Text)} {c : CodePoint}
    (hc : isOpening c = true) (h : Reads nesting t r) : Reads (nesting + 1) (c :: t) r where
  suffix := fun a rest hr => (h.suffix a rest hr).trans (List.suffix_cons c t)
  exceeds := fun e hr he => by
    obtain hlong | hdeep := h.exceeds e hr he
    · exact Exceeds.of_suffix (.inl hlong) (List.suffix_cons c t)
    · exact .inr (by rw [List.countP_cons_of_pos hc]; exact Nat.succ_lt_succ hdeep)

theorem exceeds_opening {c : CodePoint} (hc : isOpening c = true) (t : Text) : Exceeds 0 (c :: t) :=
  .inr (by rw [List.countP_cons_of_pos hc]; exact Nat.succ_pos _)

theorem reads_readValue (bound nesting : Nat) (t : Text) : Reads nesting t (readValue bound nesting t) := by
  -- a bracket takes one from the nesting that is left, and counts one in the text
  induction nesting generalizing t with
  | zero =>
    unfold readValue
    split
    · exact (reads_readString bound _).bind fun s rest hs => .ok _ hs
    · exact .failAt_of_exceeds (exceeds_opening rfl _) _ _
    · exact .failAt_of_exceeds (exceeds_opening rfl _) _ _
    · exact reads_readScalar _
  | succ nesting ih =>
    unfold readValue
    split
    · exact (reads_readString bound _).bind fun s rest hs => .ok _ hs
    · next rest =>
      refine .opening rfl ?_
      dsimp only
      split
      · next heq => exact .ok _ (suffix_of_eq_cons heq (skipSpace_suffix rest))
      · refine ((reads_readItems ih bound _).of_suffix (skipSpace_suffix rest)).bind fun vs rest hvs => ?_
        exact .ok _ hvs
    · next rest =>
      refine .opening rfl ?_
      dsimp only
      split
      · next heq => exact .ok _ (suffix_of_eq_cons heq (skipSpace_suffix rest))
      · refine ((reads_readFields ih bound [] bound _).of_suffix (skipSpace_suffix rest)).bind
          fun fields rest hfields => ?_
        exact .ok _ hfields
    · exact reads_readScalar _

/-- **A text that breaks a limit exceeds it.** -/
theorem BreaksLimit.exceeds (h : BreaksLimit t) : Exceeds maxNesting t := by
  obtain ⟨error, hparse, hsize⟩ := h
  unfold parse at hparse
  split at hparse
  · cases hparse
    cases hsize
  · have hread := (reads_readValue t.length maxNesting (skipSpace t)).of_suffix (skipSpace_suffix t)
    cases hvalue : readValue t.length maxNesting (skipSpace t) with
    | error e =>
      rw [hvalue] at hparse
      cases hparse
      exact hread.exceeds error hvalue hsize
    | ok p =>
      rw [hvalue] at hparse
      dsimp only [bind, Except.bind] at hparse
      split at hparse
      · cases hparse
      · cases hparse
        cases hsize

end

end JournalHerald.Json
