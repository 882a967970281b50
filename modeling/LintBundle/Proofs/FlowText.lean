import LintBundle.Proofs.JsonText
import LintBundle.Yaml.Token.Lexer
import Mathlib.Data.List.TakeWhile

/-!
# Proofs/FlowText — the pieces of a text in flow style

A text in flow style consists of marks, words and quoted texts, with blanks between them.  Each
piece is read up to its end, whatever follows: blanks up to the next piece (`skipGap_place`), a
quoted text up to its closing quote (`quoted_place`), and a word up to the next piece, since the
blanks behind it could have been part of it (`plain_place`).

Glyphs carry places, so every fact is about the glyphs of a text from some place on; of the line it
says that it stays the same where no break is passed.
-/

namespace LintBundle.Yaml

open Json (Blank)
open Lexer (skipGap)

/-! ## Glyphs of a text -/

/-- The first character of a text, or the mark of its end. -/
def firstOf : List Char → Char
  | [] => endMark
  | c :: _ => c

/-- A text without the blanks in front of it. -/
def unblanked (cs : List Char) : List Char := cs.dropWhile fun c => c = ' ' || c = '\n'

@[simp] theorem chars_place (i l c : Nat) (cs : List Char) :
    chars (place i l c cs) = cs ++ [endMark] := by
  induction cs generalizing i l c with
  | nil => rfl
  | cons d cs ih =>
    rw [place, chars, List.map_cons]
    split
    · exact congrArg _ (ih _ _ _)
    · exact congrArg _ (ih _ _ _)

@[simp] theorem length_place (i l c : Nat) (cs : List Char) :
    (place i l c cs).length = cs.length + 1 := by
  have h := congrArg List.length (chars_place i l c cs)
  simpa [chars] using h

/-- The glyphs of a text begin with its first character. -/
theorem place_eq (i l c : Nat) (cs : List Char) :
    place i l c cs = ⟨firstOf cs, i, l, c⟩ :: (place i l c cs).tail := by
  cases cs <;> rfl

@[simp] theorem front_place (i l c : Nat) (cs : List Char) :
    front (place i l c cs) = firstOf cs := by
  rw [place_eq]
  rfl

/-- The glyphs of a text go on after its first character. -/
theorem place_cons (i l c : Nat) (d : Char) (cs : List Char) : ∃ l' c',
    place i l c (d :: cs) = ⟨d, i, l, c⟩ :: place (i + 1) l' c' cs ∧
      (isBreak d = false → l' = l) := by
  rw [place]
  split
  · rename_i h
    exact ⟨_, _, rfl, fun hno => by simp [h] at hno⟩
  · exact ⟨_, _, rfl, fun _ => rfl⟩

/-- The glyphs of a text go on after any part of it. -/
theorem place_append (i l c : Nat) (a b : List Char) : ∃ l' c',
    (place i l c (a ++ b)).drop a.length = place (i + a.length) l' c' b ∧
      ((∀ d ∈ a, isBreak d = false) → l' = l) := by
  induction a generalizing i l c with
  | nil => exact ⟨l, c, rfl, fun _ => rfl⟩
  | cons d a ih =>
    obtain ⟨l₁, c₁, hplace, hline⟩ := place_cons i l c d (a ++ b)
    obtain ⟨l', c', hdrop, hline'⟩ := ih (i + 1) l₁ c₁
    refine ⟨l', c', ?_, fun h => ?_⟩
    · rw [List.cons_append, hplace, List.length_cons, List.drop_succ_cons, hdrop]
      congr 1
      omega
    · rw [hline' fun e he => h e (List.mem_cons_of_mem _ he), hline (h d (List.mem_cons_self ..))]

theorem firstOf_append {a : List Char} (h : a ≠ []) (b : List Char) :
    firstOf (a ++ b) = firstOf a := by
  cases a with
  | nil => exact absurd rfl h
  | cons c a => rfl

/-- Where a run of a class ends, nothing of the class follows. -/
theorem span_place {p : Char → Bool} {a b : List Char} (ha : ∀ d ∈ a, p d = true)
    (hb : p (firstOf b) = false) (i l c : Nat) : ∃ l' c',
    spanOf p (place i l c (a ++ b)) = (a, place (i + a.length) l' c' b) ∧
      ((∀ d ∈ a, isBreak d = false) → l' = l) := by
  induction a generalizing i l c with
  | nil =>
    refine ⟨l, c, ?_, fun _ => rfl⟩
    rw [List.nil_append, List.length_nil, Nat.add_zero, place_eq i l c b]
    simp [spanOf, hb, chars]
  | cons d a ih =>
    obtain ⟨l₁, c₁, hplace, hline⟩ := place_cons i l c d (a ++ b)
    have hd : p d = true := ha d (List.mem_cons_self ..)
    obtain ⟨l', c', hspan, hline'⟩ :=
      ih (fun e he => ha e (List.mem_cons_of_mem _ he)) (i + 1) l₁ c₁
    refine ⟨l', c', ?_, fun h => ?_⟩
    · have hstep : spanOf p (place i l c (d :: (a ++ b)))
          = (d :: (spanOf p (place (i + 1) l₁ c₁ (a ++ b))).1,
            (spanOf p (place (i + 1) l₁ c₁ (a ++ b))).2) := by
        simp [hplace, spanOf, hd, chars]
      have hnext : i + 1 + a.length = i + (d :: a).length := by
        rw [List.length_cons]
        omega
      rw [List.cons_append, hstep, hspan, hnext]
    · rw [hline' fun e he => h e (List.mem_cons_of_mem _ he), hline (h d (List.mem_cons_self ..))]

/-! ## Blanks between tokens -/

theorem unblanked_append {b : List Char} (h : Blank b) (cs : List Char) :
    unblanked (b ++ cs) = unblanked cs := by
  induction b with
  | nil => rfl
  | cons c b ih =>
    have hc : c = ' ' ∨ c = '\n' := h c (List.mem_cons_self ..)
    rw [List.cons_append, unblanked, List.dropWhile_cons_of_pos (by simpa using hc)]
    exact ih fun c' hc' => h c' (List.mem_cons_of_mem _ hc')

theorem exists_unblanked (cs : List Char) : ∃ b, Blank b ∧ cs = b ++ unblanked cs := by
  refine ⟨cs.takeWhile fun c => c = ' ' || c = '\n', fun c hc => ?_, ?_⟩
  · simpa using (List.mem_takeWhile_imp hc)
  · exact (List.takeWhile_append_dropWhile ..).symm

/-- A token's character: it begins neither a blank nor a comment. -/
def IsSolid (c : Char) : Prop := c ≠ ' ' ∧ isBreak c = false ∧ c ≠ '#'

instance (c : Char) : Decidable (IsSolid c) := inferInstanceAs (Decidable (_ ∧ _))

theorem skipGap_solid {g : Glyph} (h : IsSolid g.char) (inFlow keyAllowed : Bool) (fuel : Nat)
    (gs : List Glyph) : skipGap inFlow keyAllowed (fuel + 1) (g :: gs) = (keyAllowed, g :: gs) := by
  obtain ⟨hspace, hbreak, hcomment⟩ := h
  simp [skipGap, skipSpaces, skipComment, front, takeBreak, hspace, hbreak, hcomment]

theorem skipGap_space {g : Glyph} (h : g.char = ' ') (inFlow keyAllowed : Bool) (fuel : Nat)
    (gs : List Glyph) :
    skipGap inFlow keyAllowed (fuel + 1) (g :: gs) = skipGap inFlow keyAllowed (fuel + 1) gs := by
  simp [skipGap, skipSpaces, h]

theorem skipGap_break {g : Glyph} (h : g.char = '\n') (inFlow keyAllowed : Bool) (fuel : Nat)
    (gs : List Glyph) :
    skipGap inFlow keyAllowed (fuel + 1) (g :: gs)
      = skipGap inFlow (keyAllowed || !inFlow) fuel gs := by
  simp [skipGap, skipSpaces, skipComment, front, takeBreak, h, isBreak]

/-- **The gap between two tokens is skipped.** -/
theorem skipGap_place {b x : List Char} (hb : Blank b) (hx : IsSolid (firstOf x))
    (inFlow keyAllowed : Bool) {fuel : Nat} (hfuel : b.length < fuel) (i l c : Nat) :
    ∃ allowed l' c', skipGap inFlow keyAllowed fuel (place i l c (b ++ x))
        = (allowed, place (i + b.length) l' c' x) ∧
      (inFlow = true → allowed = keyAllowed) ∧ ((∀ d ∈ b, d = ' ') → l' = l) := by
  induction b generalizing i l c keyAllowed fuel with
  | nil =>
    obtain ⟨fuel, rfl⟩ := Nat.exists_eq_succ_of_ne_zero (Nat.ne_of_gt hfuel)
    refine ⟨keyAllowed, l, c, ?_, fun _ => rfl, fun _ => rfl⟩
    rw [List.nil_append, List.length_nil, Nat.add_zero, place_eq i l c x]
    refine skipGap_solid ?_ _ _ _ _
    exact hx
  | cons d b ih =>
    obtain ⟨l₁, c₁, hplace, hline⟩ := place_cons i l c d (b ++ x)
    have hb' : Blank b := fun e he => hb e (List.mem_cons_of_mem _ he)
    have hnext : i + 1 + b.length = i + (d :: b).length := by
      rw [List.length_cons]
      omega
    rw [List.cons_append, hplace, ← hnext]
    obtain ⟨fuel, rfl⟩ := Nat.exists_eq_succ_of_ne_zero (Nat.ne_of_gt (Nat.zero_lt_of_lt hfuel))
    have hless : b.length < fuel := by
      rw [List.length_cons] at hfuel
      omega
    rcases hb d (List.mem_cons_self ..) with rfl | rfl
    · rw [Nat.succ_eq_add_one, skipGap_space rfl]
      obtain ⟨allowed, l', c', hskip, hallowed, hlines⟩ :=
        ih hb' keyAllowed (Nat.lt_succ_of_lt hless) (i + 1) l₁ c₁
      refine ⟨allowed, l', c', hskip, hallowed, fun h => ?_⟩
      rw [hlines fun e he => h e (List.mem_cons_of_mem _ he), hline rfl]
    · rw [Nat.succ_eq_add_one, skipGap_break rfl]
      obtain ⟨allowed, l', c', hskip, hallowed, -⟩ :=
        ih hb' (keyAllowed || !inFlow) hless (i + 1) l₁ c₁
      refine ⟨allowed, l', c', hskip, fun h => ?_, fun h => ?_⟩
      · rw [hallowed h, h]
        simp
      · exact absurd (h '\n' (List.mem_cons_self ..)) (by decide)

/-! ## Quoted texts -/

/-- A character that stands for itself between quotes. -/
def IsInner (c : Char) : Prop := c ≠ '"' ∧ c ≠ '\\' ∧ isBreak c = false ∧ 0x20 ≤ c.toNat

/-- What stands between quotes, and the text it stands for. -/
inductive Quotes : List Char → List Point → Prop
  | nil : Quotes [] []
  | char {c : Char} {raw : List Char} {text : List Point} (h : IsInner c) (more : Quotes raw text) :
      Quotes (c :: raw) (.char c :: text)
  | letter {letter c : Char} {raw : List Char} {text : List Point}
      (h : Json.Reader.simpleEscape? letter = some c) (more : Quotes raw text) :
      Quotes ('\\' :: letter :: raw) (.char c :: text)
  | code {a b c d : Char} {p : Point} {raw : List Char} {text : List Point}
      (h : Json.Reader.unit? a b c d = some p) (more : Quotes raw text) :
      Quotes ('\\' :: 'u' :: a :: b :: c :: d :: raw) (p :: text)

theorem simpleEscape?_mem {letter c : Char} (h : Json.Reader.simpleEscape? letter = some c) :
    letter ∈ ['"', '\\', '/', 'b', 'f', 'n', 'r', 't'] := by
  unfold Json.Reader.simpleEscape? at h
  split at h
  · rename_i hself
    simp only [Bool.or_eq_true, decide_eq_true_eq] at hself
    rcases hself with (rfl | rfl) | rfl <;> decide
  split at h
  · subst_vars; decide
  split at h
  · subst_vars; decide
  split at h
  · subst_vars; decide
  split at h
  · subst_vars; decide
  split at h
  · subst_vars; decide
  · cases h

/-- An escape of one letter stands for the same character. -/
theorem escape?_of_simpleEscape? {letter c : Char} (h : Json.Reader.simpleEscape? letter = some c) :
    escape? letter = some c := by
  have hall : (['"', '\\', '/', 'b', 'f', 'n', 'r', 't'].all fun l =>
      escape? l = Json.Reader.simpleEscape? l) = true := by decide
  rw [← h]
  exact of_decide_eq_true (List.all_eq_true.1 hall letter (simpleEscape?_mem h))

/-- The letter of an escape ends no line. -/
theorem isBreak_of_simpleEscape? {letter c : Char} (h : Json.Reader.simpleEscape? letter = some c) :
    isBreak letter = false := by
  have hall : (['"', '\\', '/', 'b', 'f', 'n', 'r', 't'].all fun l => !isBreak l) = true := rfl
  simpa using List.all_eq_true.1 hall letter (simpleEscape?_mem h)

theorem of_hexValue? {c : Char} {n : Nat} (h : Text.hexValue? c = some n) :
    n < 16 ∧ isBreak c = false := by
  unfold Text.hexValue? at h
  have hbreak : isBreak c = false := by
    by_contra hbreak
    rw [Bool.not_eq_false, isBreak] at hbreak
    simp only [Bool.or_eq_true, decide_eq_true_eq] at hbreak
    rcases hbreak with (rfl | rfl) | rfl <;> cases h
  refine ⟨?_, hbreak⟩
  have upTo : ∀ {low high : Char}, (decide (low ≤ c) && decide (c ≤ high)) = true →
      c.toNat ≤ high.toNat := by
    intro low high hrange
    exact of_decide_eq_true (Bool.and_eq_true_iff.1 hrange).2
  split at h
  · rename_i hrange
    have hle : c.toNat ≤ 57 := upTo hrange
    obtain rfl := Option.some.inj h
    change c.toNat - 48 < 16
    omega
  split at h
  · rename_i hrange
    have hle : c.toNat ≤ 102 := upTo hrange
    obtain rfl := Option.some.inj h
    change c.toNat - 97 + 10 < 16
    omega
  split at h
  · rename_i hrange
    have hle : c.toNat ≤ 70 := upTo hrange
    obtain rfl := Option.some.inj h
    change c.toNat - 65 + 10 < 16
    omega
  · cases h

/-- The four digits of a unit. -/
theorem of_unit? {a b c d : Char} {p : Point} (h : Json.Reader.unit? a b c d = some p) :
    ∃ code, Text.hexCode? [a, b, c, d] = some code ∧ p = .ofNat code ∧ code < 0x10000 ∧
      ∀ e ∈ [a, b, c, d], isBreak e = false := by
  obtain ⟨code, hcode, rfl⟩ := Option.map_eq_some_iff.1 h
  refine ⟨code, hcode, rfl, ?_⟩
  simp only [Text.hexCode?, List.foldlM_cons, List.foldlM_nil, Option.bind_eq_bind,
    Option.bind_eq_some_iff, Option.map_eq_some_iff, Option.pure_def, Option.some.injEq] at hcode
  obtain ⟨_, ⟨a', ha, rfl⟩, _, ⟨b', hb, rfl⟩, _, ⟨c', hc, rfl⟩, _, ⟨d', hd, rfl⟩, rfl⟩ := hcode
  have ha := of_hexValue? ha
  have hb := of_hexValue? hb
  have hc := of_hexValue? hc
  have hd := of_hexValue? hd
  refine ⟨by omega, ?_⟩
  simp [ha.2, hb.2, hc.2, hd.2]

/-- Blanks between quotes stand for themselves. -/
theorem Quotes.of_blanks {b raw : List Char} {text : List Point} (hb : ∀ d ∈ b, d = ' ')
    (h : Quotes (b ++ raw) text) : ∃ more, text = b.map .char ++ more ∧ Quotes raw more := by
  induction b generalizing text with
  | nil => exact ⟨text, rfl, h⟩
  | cons d b ih =>
    obtain rfl : d = ' ' := hb d (List.mem_cons_self ..)
    cases h with
    | char _ h =>
      obtain ⟨more, rfl, hmore⟩ := ih (fun e he => hb e (List.mem_cons_of_mem _ he)) h
      exact ⟨more, rfl, hmore⟩

/-- Blanks between quotes are taken together. -/
theorem quotedGap_place {b x : List Char} (hb : ∀ d ∈ b, d = ' ') (hx : isWhite (firstOf x) = false)
    (hbreak : isBreak (firstOf x) = false) (hend : firstOf x ≠ endMark) (fuel i l c : Nat) :
    ∃ c', quotedGap fuel (place i l c (b ++ x)) = .ok (b, place (i + b.length) l c' x) := by
  have hwhite : ∀ d ∈ b, isWhite d = true := fun d hd => by rw [hb d hd]; rfl
  obtain ⟨l', c', hspan, hline⟩ := span_place hwhite hx i l c
  have hl : l' = l := hline fun d hd => by rw [hb d hd]; rfl
  subst hl
  refine ⟨c', ?_⟩
  rw [place_eq (i + b.length)] at hspan ⊢
  simp [quotedGap, hspan, takeBreak, front, hbreak, hend]

/-- An escaped code unit is its code point. -/
theorem takeCode_place {a b c d : Char} {p : Point} (h : Json.Reader.unit? a b c d = some p)
    (x : List Char) (i l k : Nat) : ∃ k',
    takeCode 4 (place i l k (a :: b :: c :: d :: x)) = .ok (p, place (i + 4) l k' x) := by
  obtain ⟨code, hcode, rfl, hlimit, hbreak⟩ := of_unit? h
  obtain ⟨l', k', hdrop, hline⟩ := place_append i l k [a, b, c, d] x
  have hl : l' = l := hline hbreak
  subst hl
  have htake : chars ((place i l' k (a :: b :: c :: d :: x)).take 4) = [a, b, c, d] := by
    rw [chars, List.map_take]
    exact congrArg (List.take 4) (chars_place i l' k (a :: b :: c :: d :: x))
  have hpoint : pointOfCode code = .ok (.ofNat code) := by
    rw [pointOfCode, if_neg (by omega), if_neg (by omega)]
  refine ⟨k', ?_⟩
  rw [takeCode, htake, hcode]
  dsimp only
  rw [hpoint]
  exact congrArg (fun gs => Except.ok (Point.ofNat code, gs)) hdrop

/-- Where blanks between quotes end, another character stands. -/
theorem Quotes.firstOf_append {raw : List Char} {text : List Point} (h : Quotes raw text)
    (rest : List Char)
    (hspace : firstOf raw ≠ ' ') : isWhite (firstOf (raw ++ '"' :: rest)) = false ∧
      isBreak (firstOf (raw ++ '"' :: rest)) = false ∧ firstOf (raw ++ '"' :: rest) ≠ endMark := by
  cases h with
  | nil => exact ⟨rfl, rfl, (by decide : '"' ≠ endMark)⟩
  | char h _ =>
    obtain ⟨-, -, hbreak, hlow⟩ := h
    rename_i d raw text _
    have hd : ∀ e : Char, e.toNat < 0x20 → d ≠ e := by
      rintro e he rfl
      omega
    have htab := hd '\t' (by decide)
    have hzero := hd endMark (by decide)
    refine ⟨?_, hbreak, hzero⟩
    have hspace : d ≠ ' ' := hspace
    simp [firstOf, isWhite, hspace, htab]
  | letter _ _ => exact ⟨rfl, rfl, (by decide : '\\' ≠ endMark)⟩
  | code _ _ => exact ⟨rfl, rfl, (by decide : '\\' ≠ endMark)⟩

/-- Reading a quoted text takes blanks together. -/
theorem quoted_blank {fuel : Nat} {gs rest : List Glyph} {gap : List Char}
    (h : front gs = ' ') (hgap : quotedGap fuel gs = .ok (gap, rest)) :
    quoted true (fuel + 1) gs
      = (quoted true fuel rest).map fun found => (gap.map .char ++ found.1, found.2) := by
  cases gs with
  | nil => cases h
  | cons g r =>
    have hg : isGap g.char = true := by
      have h : g.char = ' ' := h
      rw [h]
      rfl
    rw [quoted, if_pos hg, hgap]
    change (quoted true fuel rest >>= fun found => pure (gap.map .char ++ found.1, found.2)) = _
    cases quoted true fuel rest <;> rfl

/-- Reading a quoted text takes a character that stands for itself. -/
theorem quoted_char {fuel : Nat} {g : Glyph} {r : List Glyph} (hgap : isGap g.char = false)
    (hquote : g.char ≠ '"') (hslash : g.char ≠ '\\') :
    quoted true (fuel + 1) (g :: r)
      = (quoted true fuel r).map fun found => (.char g.char :: found.1, found.2) := by
  rw [quoted, if_neg (by rw [hgap]; decide), if_pos rfl, if_neg hquote, if_neg hslash]
  cases quoted true fuel r <;> rfl

/-- Reading a quoted text takes an escape of one letter. -/
theorem quoted_letter {fuel i l c i' l' c' : Nat} {letter d : Char} {r : List Glyph}
    (h : escape? letter = some d) :
    quoted true (fuel + 1) (⟨'\\', i, l, c⟩ :: ⟨letter, i', l', c'⟩ :: r)
      = (quoted true fuel r).map fun found => (.char d :: found.1, found.2) := by
  have hgap : isGap '\\' = false := rfl
  have hquote : ¬ '\\' = '"' := by decide
  rw [quoted, hgap, if_neg (by decide), if_pos rfl, if_neg hquote, if_pos rfl]
  simp only [front, h]
  change (quoted true fuel r >>= fun found => pure (.char d :: found.1, found.2)) = _
  cases quoted true fuel r <;> rfl

/-- Reading a quoted text takes an escape by code. -/
theorem quoted_code {fuel i l c i' l' c' : Nat} {p : Point} {r rest : List Glyph}
    (h : takeCode 4 r = .ok (p, rest)) :
    quoted true (fuel + 1) (⟨'\\', i, l, c⟩ :: ⟨'u', i', l', c'⟩ :: r)
      = (quoted true fuel rest).map fun found => (p :: found.1, found.2) := by
  have hgap : isGap '\\' = false := rfl
  have hquote : ¬ '\\' = '"' := by decide
  have hescape : escape? 'u' = none := rfl
  have hwidth : codeWidth? 'u' = some 4 := rfl
  rw [quoted, hgap, if_neg (by decide), if_pos rfl, if_neg hquote, if_pos rfl]
  simp only [front, hescape, hwidth, List.drop_succ_cons, List.drop_zero, h]
  change (quoted true fuel rest >>= fun found => pure (p :: found.1, found.2)) = _
  cases quoted true fuel rest <;> rfl

/-- **A text between quotes is read** from any place on, up to its closing quote. -/
def Unquotes (fuel : Nat) (raw : List Char) (text : List Point) (rest : List Char) : Prop :=
  ∀ i l c : Nat, ∃ c', quoted true fuel (place i l c (raw ++ '"' :: rest))
    = .ok (text, place (i + raw.length + 1) l c' rest)

section Unquotes

variable {fuel : Nat} {raw rest : List Char} {text : List Point}

/-- The empty text between quotes is read. -/
theorem unquotes_nil (fuel : Nat) (rest : List Char) : Unquotes (fuel + 1) [] [] rest := by
  intro i l c
  obtain ⟨l', c', hplace, hline⟩ := place_cons i l c '"' rest
  refine ⟨c', ?_⟩
  rw [List.nil_append, hplace, hline rfl]
  rfl

/-- A text that begins with blanks is read, all of which are taken together. -/
theorem unquotes_blanks {b : List Char} (hb : ∀ e ∈ b, e = ' ') (h : Quotes raw text)
    (hraw : firstOf raw ≠ ' ') (ih : Unquotes fuel raw text rest) :
    Unquotes (fuel + 1) (' ' :: (b ++ raw)) (.char ' ' :: (b.map .char ++ text)) rest := by
  intro i l c
  have hblanks : ∀ e ∈ ' ' :: b, e = ' ' := List.forall_mem_cons.2 ⟨rfl, hb⟩
  obtain ⟨hwhite, hbreak, hend⟩ := h.firstOf_append rest hraw
  obtain ⟨c₁, hgap⟩ := quotedGap_place hblanks hwhite hbreak hend fuel i l c
  obtain ⟨c', hmore⟩ := ih (i + (' ' :: b).length) l c₁
  have hindex : i + (' ' :: b).length + raw.length + 1 = i + (' ' :: (b ++ raw)).length + 1 := by
    simp only [List.length_cons, List.length_append]
    omega
  have hform : ' ' :: (b ++ raw) ++ '"' :: rest = ' ' :: b ++ (raw ++ '"' :: rest) := by simp
  refine ⟨c', ?_⟩
  rw [← hindex, hform, quoted_blank (by rfl) hgap, hmore]
  rfl

/-- A text that begins with a character that stands for itself is read. -/
theorem unquotes_char {d : Char} (hd : IsInner d) (hspace : d ≠ ' ')
    (ih : Unquotes fuel raw text rest) : Unquotes (fuel + 1) (d :: raw) (.char d :: text) rest := by
  intro i l c
  obtain ⟨hquote, hslash, hbreak, hlow⟩ := hd
  have hgap : isGap d = false := by
    have hd : ∀ e : Char, e.toNat < 0x20 → d ≠ e := by
      rintro e he rfl
      omega
    simp [isGap, isSpaceOrEnd, isLineEnd, hspace, hbreak, hd '\t' (by decide),
      hd endMark (by decide)]
  obtain ⟨l₁, c₁, hplace, hline⟩ := place_cons i l c d (raw ++ '"' :: rest)
  obtain ⟨c', hmore⟩ := ih (i + 1) l₁ c₁
  refine ⟨c', ?_⟩
  rw [List.cons_append, hplace, quoted_char hgap hquote hslash, hmore, hline hbreak,
    List.length_cons, Nat.add_right_comm i 1]
  rfl

/-- A text that begins with an escape of one letter is read. -/
theorem unquotes_letter {letter d : Char} (h : Json.Reader.simpleEscape? letter = some d)
    (ih : Unquotes fuel raw text rest) :
    Unquotes (fuel + 1) ('\\' :: letter :: raw) (.char d :: text) rest := by
  intro i l c
  obtain ⟨l₁, c₁, hplace, hline⟩ := place_cons i l c '\\' (letter :: (raw ++ '"' :: rest))
  obtain ⟨l₂, c₂, hplace', hline'⟩ := place_cons (i + 1) l₁ c₁ letter (raw ++ '"' :: rest)
  obtain ⟨c', hmore⟩ := ih (i + 1 + 1) l₂ c₂
  have hindex : i + 1 + 1 + raw.length + 1 = i + ('\\' :: letter :: raw).length + 1 := by
    simp only [List.length_cons]
    omega
  refine ⟨c', ?_⟩
  rw [← hindex, List.cons_append, List.cons_append, hplace, hplace',
    quoted_letter (escape?_of_simpleEscape? h), hmore, hline' (isBreak_of_simpleEscape? h),
    hline rfl]
  rfl

/-- A text that begins with an escape by code is read. -/
theorem unquotes_code {a b d e : Char} {p : Point} (h : Json.Reader.unit? a b d e = some p)
    (ih : Unquotes fuel raw text rest) :
    Unquotes (fuel + 1) ('\\' :: 'u' :: a :: b :: d :: e :: raw) (p :: text) rest := by
  intro i l c
  obtain ⟨l₁, c₁, hplace, hline⟩ :=
    place_cons i l c '\\' ('u' :: a :: b :: d :: e :: (raw ++ '"' :: rest))
  obtain ⟨l₂, c₂, hplace', hline'⟩ :=
    place_cons (i + 1) l₁ c₁ 'u' (a :: b :: d :: e :: (raw ++ '"' :: rest))
  obtain ⟨c₃, hcode⟩ := takeCode_place h (raw ++ '"' :: rest) (i + 1 + 1) l₂ c₂
  obtain ⟨c', hmore⟩ := ih (i + 1 + 1 + 4) l₂ c₃
  have hindex : i + 1 + 1 + 4 + raw.length + 1
      = i + ('\\' :: 'u' :: a :: b :: d :: e :: raw).length + 1 := by
    simp only [List.length_cons]
    omega
  refine ⟨c', ?_⟩
  rw [← hindex]
  change quoted true (fuel + 1) (place i l c ('\\' :: 'u' :: a :: b :: d :: e ::
    (raw ++ '"' :: rest))) = _
  rw [hplace, hplace', quoted_code hcode, hmore, hline' rfl, hline rfl]
  rfl

end Unquotes

theorem exists_blanks (raw : List Char) :
    ∃ b tail, raw = b ++ tail ∧ (∀ e ∈ b, e = ' ') ∧ firstOf tail ≠ ' ' := by
  induction raw with
  | nil => exact ⟨[], [], rfl, by simp, by decide⟩
  | cons d raw ih =>
    by_cases hd : d = ' '
    · obtain ⟨b, tail, rfl, hb, htail⟩ := ih
      exact ⟨d :: b, tail, rfl, List.forall_mem_cons.2 ⟨hd, hb⟩, htail⟩
    · exact ⟨[], d :: raw, rfl, by simp, hd⟩

/-- **A quoted text is read** up to its closing quote. -/
theorem quoted_place (fuel : Nat) {raw : List Char} {text : List Point} (h : Quotes raw text)
    (hfuel : raw.length < fuel) (rest : List Char) : Unquotes fuel raw text rest := by
  induction fuel generalizing raw text with
  | zero => omega
  | succ fuel ih =>
    cases h with
    | nil => exact unquotes_nil fuel rest
    | @char d raw text h more =>
      simp only [List.length_cons] at hfuel
      by_cases hspace : d = ' '
      · subst hspace
        obtain ⟨b, tail, rfl, hb, htail⟩ := exists_blanks raw
        obtain ⟨text, rfl, hmore⟩ := more.of_blanks hb
        rw [List.length_append] at hfuel
        exact unquotes_blanks hb hmore htail (ih hmore (by omega))
      · exact unquotes_char h hspace (ih more (by omega))
    | letter h more =>
      simp only [List.length_cons] at hfuel
      exact unquotes_letter h (ih more (by omega))
    | code h more =>
      simp only [List.length_cons] at hfuel
      exact unquotes_code h (ih more (by omega))

/-! ## Words -/

/-- A character of a number or of a word. -/
def isWordChar (c : Char) : Bool := c.isAlphanum || c = '+' || c = '-' || c = '.'

/-- A text that is one word: it begins with a letter or digit, which a minus sign may stand
before. -/
structure IsWord (w : List Char) : Prop where
  begins : (firstOf w).isAlphanum = true ∨
    firstOf w = '-' ∧ (firstOf (w.drop 1)).isAlphanum = true
  chars : ∀ c ∈ w, isWordChar c = true

/-- Where a word can end: at the end of the text, or at a mark between flow brackets. -/
def Closes (inFlow : Bool) (x : List Char) : Prop :=
  firstOf x = endMark ∨ inFlow = true ∧ isFlowMark (firstOf x) = true

theorem Closes.mem {inFlow : Bool} {x : List Char} (h : Closes inFlow x) :
    firstOf x ∈ [endMark, ',', '[', ']', '\x7b', '\x7d'] := by
  rcases h with h | ⟨-, h⟩
  · rw [h]
    exact List.mem_cons_self ..
  · simp only [isFlowMark, Bool.or_eq_true, decide_eq_true_eq] at h
    simp only [List.mem_cons, List.not_mem_nil, or_false]
    tauto

/-- What follows a word begins nothing else. -/
theorem Closes.facts {inFlow : Bool} {x : List Char} (h : Closes inFlow x) :
    firstOf x ≠ ' ' ∧ isBreak (firstOf x) = false ∧ firstOf x ≠ '#' ∧ firstOf x ≠ '-' ∧
      firstOf x ≠ '.' := by
  have hall : ([endMark, ',', '[', ']', '\x7b', '\x7d'].all fun c =>
      c ≠ ' ' ∧ isBreak c = false ∧ c ≠ '#' ∧ c ≠ '-' ∧ c ≠ '.') = true := by decide
  exact of_decide_eq_true (List.all_eq_true.1 hall _ h.mem)

theorem Closes.endsPlain {inFlow : Bool} {x : List Char} (h : Closes inFlow x) (next : Char) :
    endsPlain inFlow (firstOf x) next = true := by
  rcases h with h | ⟨hflow, hmark⟩
  · rw [h]
    rfl
  · simp [Yaml.endsPlain, hflow, hmark]

theorem IsWord.ne_nil {w : List Char} (h : IsWord w) : w ≠ [] := by
  rintro rfl
  rcases h.begins with hno | ⟨hno, -⟩
  · exact absurd hno (by decide)
  · exact absurd hno (by decide)

/-- A word begins with no character that has another meaning. -/
theorem IsWord.first_ne {w : List Char} (h : IsWord w) {d : Char} (hd : d.isAlphanum = false)
    (hminus : d ≠ '-') : firstOf w ≠ d := by
  rintro rfl
  rcases h.begins with hno | ⟨hno, -⟩
  · rw [hd] at hno
    cases hno
  · exact hminus hno

theorem endsPlain_wordChar {c : Char} (h : isWordChar c = true) (inFlow : Bool) (next : Char) :
    endsPlain inFlow c next = false := by
  have hne : ∀ d, isWordChar d = false → c ≠ d := by
    rintro d hd rfl
    rw [h] at hd
    cases hd
  simp [endsPlain, isGap, isSpaceOrEnd, isLineEnd, isBreak, isFlowMark, hne '\t' (by decide),
    hne ' ' (by decide), hne '\n' (by decide), hne '\u2028' (by decide), hne '\u2029' (by decide),
    hne endMark (by decide), hne ':' (by decide), hne '?' (by decide), hne ',' (by decide),
    hne '[' (by decide), hne ']' (by decide), hne '\x7b' (by decide), hne '\x7d' (by decide)]

/-- **A word is read** up to what ends it. -/
theorem plainWord_place {inFlow : Bool} {w x : List Char} (hw : ∀ c ∈ w, isWordChar c = true)
    (hx : ∀ next, endsPlain inFlow (firstOf x) next = true) (i l c : Nat) : ∃ l' c',
    plainWord inFlow (place i l c (w ++ x)) = (w, place (i + w.length) l' c' x) := by
  induction w generalizing i l c with
  | nil =>
    refine ⟨l, c, ?_⟩
    rw [List.nil_append, List.length_nil, Nat.add_zero, place_eq i l c x, plainWord,
      if_pos (hx _)]
  | cons d w ih =>
    obtain ⟨l₁, c₁, hplace, -⟩ := place_cons i l c d (w ++ x)
    obtain ⟨l', c', hword⟩ := ih (fun e he => hw e (List.mem_cons_of_mem _ he)) (i + 1) l₁ c₁
    have hnext : i + 1 + w.length = i + (d :: w).length := by
      rw [List.length_cons]
      omega
    refine ⟨l', c', ?_⟩
    rw [List.cons_append, hplace, plainWord,
      endsPlain_wordChar (hw d (List.mem_cons_self ..)), if_neg (by decide), hword, hnext]

/-- Blanks do not begin a line that separates documents. -/
theorem startsSeparator_place {inFlow : Bool} {b x : List Char} (hb : Blank b)
    (hx : Closes inFlow x) (i l c : Nat) : startsSeparator (place i l c (b ++ x)) = false := by
  have hfirst : firstOf (b ++ x) ≠ '-' ∧ firstOf (b ++ x) ≠ '.' := by
    cases b with
    | nil => exact hx.facts.2.2.2
    | cons d b =>
      rcases hb d (List.mem_cons_self ..) with rfl | rfl
      · exact (by decide : ' ' ≠ '-' ∧ ' ' ≠ '.')
      · exact (by decide : '\n' ≠ '-' ∧ '\n' ≠ '.')
  have hfront := front_place i l c (b ++ x)
  simp [startsSeparator, startsMarker, ahead, hfront, hfirst]

theorem plainBreaks_place {inFlow : Bool} {b x : List Char} (hb : Blank b) (hx : Closes inFlow x)
    (i l c : Nat) : ∃ more l' c',
    plainBreaks (place i l c (b ++ x)) = (some more, place (i + b.length) l' c' x) := by
  obtain ⟨hspace, hbreak, -⟩ := hx.facts
  induction b generalizing i l c with
  | nil =>
    refine ⟨[], l, c, ?_⟩
    rw [List.nil_append, List.length_nil, Nat.add_zero, place_eq i l c x, plainBreaks,
      if_neg hspace, hbreak, if_neg (by decide)]
  | cons d b ih =>
    have hb' : Blank b := fun e he => hb e (List.mem_cons_of_mem _ he)
    obtain ⟨l₁, c₁, hplace, -⟩ := place_cons i l c d (b ++ x)
    obtain ⟨more, l', c', hbreaks⟩ := ih hb' (i + 1) l₁ c₁
    have hnext : i + 1 + b.length = i + (d :: b).length := by
      rw [List.length_cons]
      omega
    rw [List.cons_append, hplace, ← hnext]
    rcases hb d (List.mem_cons_self ..) with rfl | rfl
    · exact ⟨more, l', c', by rw [plainBreaks, if_pos rfl, hbreaks]⟩
    · refine ⟨'\n' :: more, l', c', ?_⟩
      have hno : ¬ '\n' = ' ' := by decide
      have hbreak : isBreak '\n' = true := rfl
      rw [plainBreaks, if_neg hno, hbreak, if_pos rfl,
        startsSeparator_place hb' hx, if_neg (by decide), hbreaks]
      rfl

/-- A gap after a word that stays on the line is taken as it is. -/
theorem plainGap_spaces {inFlow : Bool} {s x : List Char} (hs : ∀ d ∈ s, d = ' ')
    (hx : Closes inFlow x) (i l c : Nat) : ∃ l' c',
    plainGap (place i l c (s ++ x)) = ⟨s, false, place (i + s.length) l' c' x⟩ := by
  obtain ⟨hspace, hbreak, -⟩ := hx.facts
  obtain ⟨l', c', hspan, -⟩ := span_place (p := (· = ' ')) (fun d hd => decide_eq_true (hs d hd))
    (b := x) (decide_eq_false hspace) i l c
  refine ⟨l', c', ?_⟩
  rw [place_eq (i + s.length)] at hspan ⊢
  simp only [plainGap, hspan, takeBreak, hbreak]
  rfl

/-- A gap after a word that has breaks is folded. -/
theorem plainGap_breaks {inFlow : Bool} {s t x : List Char} (hs : ∀ d ∈ s, d = ' ') (ht : Blank t)
    (hx : Closes inFlow x) (i l c : Nat) : ∃ more l' c',
    plainGap (place i l c (s ++ '\n' :: (t ++ x)))
      = ⟨folded ['\n'] more, true, place (i + s.length + 1 + t.length) l' c' x⟩ := by
  obtain ⟨l₁, c₁, hspan, -⟩ := span_place (p := (· = ' ')) (fun d hd => decide_eq_true (hs d hd))
    (b := '\n' :: (t ++ x)) (by rfl) i l c
  obtain ⟨l₂, c₂, hplace, -⟩ := place_cons (i + s.length) l₁ c₁ '\n' (t ++ x)
  obtain ⟨more, l', c', hbreaks⟩ := plainBreaks_place ht hx (i + s.length + 1) l₂ c₂
  have hnewline : isBreak '\n' = true := rfl
  refine ⟨more, l', c', ?_⟩
  rw [plainGap, hspan, hplace]
  simp only [takeBreak, hnewline, if_true]
  rw [startsSeparator_place ht hx, if_neg (by decide), hbreaks]

/-- **The gap after a word** is taken as a whole. -/
theorem plainGap_place {inFlow : Bool} {b x : List Char} (hb : Blank b) (hx : Closes inFlow x)
    (i l c : Nat) : ∃ text crosses l' c',
    plainGap (place i l c (b ++ x)) = ⟨text, crosses, place (i + b.length) l' c' x⟩ ∧
      (text = [] → b = []) := by
  obtain ⟨s, t, rfl, hs, ht⟩ := exists_blanks b
  cases t with
  | nil =>
    obtain ⟨l', c', hgap⟩ := plainGap_spaces hs hx i l c
    rw [List.append_nil]
    exact ⟨s, false, l', c', hgap, id⟩
  | cons d t =>
    obtain rfl : d = '\n' := (hb d (by simp)).resolve_left ht
    have ht' : Blank t := fun e he => hb e (by simp [he])
    obtain ⟨more, l', c', hgap⟩ := plainGap_breaks hs ht' hx i l c
    have hindex : i + s.length + 1 + t.length = i + (s ++ '\n' :: t).length := by
      simp only [List.length_append, List.length_cons]
      omega
    have hform : s ++ '\n' :: t ++ x = s ++ '\n' :: (t ++ x) := by simp
    rw [hform, ← hindex]
    exact ⟨_, true, l', c', hgap, fun hno => by cases more <;> simp [folded] at hno⟩

/-- **A plain scalar that is a word** ends behind the gap that follows it. -/
theorem plain_place {inFlow : Bool} {w b x : List Char} (hw : IsWord w) (hb : Blank b)
    (hx : Closes inFlow x) (fuel i l c : Nat) : ∃ crosses l' c',
    plain inFlow 0 [] false (fuel + 1) (place i l c (w ++ (b ++ x)))
      = ⟨w, crosses, place (i + w.length + b.length) l' c' x⟩ := by
  have hends : ∀ next, endsPlain inFlow (firstOf (b ++ x)) next = true := by
    intro next
    cases b with
    | nil => exact hx.endsPlain next
    | cons d b =>
      rcases hb d (List.mem_cons_self ..) with rfl | rfl <;> rfl
  obtain ⟨l₁, c₁, hword⟩ := plainWord_place hw.chars hends i l c
  obtain ⟨text, crosses, l', c', hgap, htext⟩ := plainGap_place hb hx (i + w.length) l₁ c₁
  have hfirst : firstOf (w ++ (b ++ x)) ≠ '#' := by
    rw [firstOf_append hw.ne_nil]
    exact hw.first_ne (by decide) (by decide)
  have hlast : plain inFlow 0 text crosses fuel (place (i + w.length + b.length) l' c' x)
      = ⟨[], crosses, place (i + w.length + b.length) l' c' x⟩ := by
    cases fuel with
    | zero => rfl
    | succ fuel =>
      obtain ⟨l₂, c₂, hnone⟩ := plainWord_place (w := []) (by simp) hx.endsPlain
        (i + w.length + b.length) l' c'
      rw [List.nil_append] at hnone
      rw [plain, front_place, if_neg hx.facts.2.2.1, hnone]
  refine ⟨crosses, l', c', ?_⟩
  rw [plain, front_place, if_neg hfirst, hword]
  dsimp only
  cases w with
  | nil => exact absurd rfl hw.ne_nil
  | cons d w =>
    dsimp only
    rw [hgap]
    split
    · rfl
    · rw [hlast]
      simp

end LintBundle.Yaml
